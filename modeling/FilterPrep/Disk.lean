import FilterPrep.Fetch
import FilterPrep.Remote
import FilterPrep.Text.Utf8

/-!
# Files

A working directory with the files and directories below it, and how paths are looked up in it.
Nothing is known about what lies outside of it.
-/

namespace FilterPrep

inductive DiskError where
  | notFound
  | notDirectory
  | isDirectory
  | nameTooLong
  | nulInName
  | notText
  | other (text : Text)
  deriving DecidableEq, Repr

def DiskError.message : DiskError → Text
  | notFound => "No such file or directory (os error 2)".toList
  | notDirectory => "Not a directory (os error 20)".toList
  | isDirectory => "Is a directory (os error 21)".toList
  | nameTooLong => "File name too long (os error 36)".toList
  | nulInName => "file name contained an unexpected NUL byte".toList
  | notText => "stream did not contain valid UTF-8".toList
  | other text => text

/-- The longest path, in bytes. -/
def pathLimit : Nat := 4095

/-- Why there can be no file at a path, whatever the disk holds. -/
def DiskError.ofPath? (path : Text) : Option DiskError :=
  if path.any (· == '\x00') then some .nulInName
  else if path.isEmpty then some .notFound
  else if pathLimit < Text.byteLength path then some .nameTooLong
  else none

def DiskError.decode (bytes : List UInt8) : Except DiskError Text :=
  match Utf8.decode? bytes with
  | some text => .ok text
  | none => .error .notText

namespace Disk

inductive Entry where
  | file (bytes : List UInt8)
  | directory
  deriving DecidableEq, Repr

inductive Place where
  /-- Below the working directory, by the names on the way. -/
  | below (names : List Text)
  /-- A directory that the working directory lies in. -/
  | outside
  deriving DecidableEq, Repr

end Disk

/-- The entries below a working directory, by the names on the way to them. Every directory on the
way to an entry is an entry as well. -/
structure Disk where
  entries : List (List Text × Disk.Entry)

namespace Disk

def empty : Disk := ⟨[]⟩

def entry? (disk : Disk) (names : List Text) : Option Entry :=
  if names.isEmpty then some .directory
  else (disk.entries.find? fun e => e.1 == names).map Prod.snd

/-- The disk with one more entry, which replaces an earlier one. -/
def set (disk : Disk) (names : List Text) (entry : Entry) : Disk :=
  ⟨(names, entry) :: disk.entries.filter fun e => e.1 != names⟩

def isFile (disk : Disk) : Place → Bool
  | .outside => false
  | .below names =>
    match disk.entry? names with
    | some (.file _) => true
    | _ => false

def Place.parent : Place → Place
  | outside => outside
  | below [] => outside
  | below names => .below names.dropLast

def child (disk : Disk) (name : Text) : Place → Except DiskError Place
  | .outside => .error .notFound
  | .below names =>
    if 255 < Text.byteLength name then .error .nameTooLong
    else if (disk.entry? (names ++ [name])).isSome then .ok (.below (names ++ [name]))
    else .error .notFound

/-- Follows the segments of a path. Every segment, even an empty one, needs a directory in front
of it. -/
def walk (disk : Disk) (place : Place) : List Text → Except DiskError Place
  | [] => .ok place
  | segment :: rest =>
    if disk.isFile place then .error .notDirectory
    else if segment.isEmpty || segment == ['.'] then walk disk place rest
    else if segment = LocalPath.parentSegment then walk disk place.parent rest
    else
      match disk.child segment place with
      | .ok place => walk disk place rest
      | .error error => .error error

def start (path : Text) : Place := if LocalPath.isRooted path then .outside else .below []

/-- The file that a path leads to, by the names on the way to it, with its bytes. -/
def file (disk : Disk) (path : Text) : Except DiskError (List Text × List UInt8) :=
  match DiskError.ofPath? path with
  | some error => .error error
  | none =>
    match disk.walk (start path) (Text.split (· == '/') path) with
    | .error error => .error error
    | .ok .outside => .error .isDirectory
    | .ok (.below names) =>
      match disk.entry? names with
      | some (.file bytes) => .ok (names, bytes)
      | _ => .error .isDirectory

def read (disk : Disk) (path : Text) : Except DiskError Text :=
  match disk.file path with
  | .ok (_, bytes) => DiskError.decode bytes
  | .error error => .error error

/-- Takes away the file at a path; directories stay. -/
def remove (disk : Disk) (path : Text) : Disk :=
  match disk.file path with
  | .ok (names, _) => ⟨disk.entries.filter fun e => e.1 != names⟩
  | .error _ => disk

/-- Follows the segments of a path and makes the directories that are missing on the way. -/
def makeWay (disk : Disk) (place : Place) : List Text → Disk × Place
  | [] => (disk, place)
  | segment :: rest =>
    if segment.isEmpty || segment == ['.'] then makeWay disk place rest
    else if segment = LocalPath.parentSegment then makeWay disk place.parent rest
    else
      match place with
      | .outside => (disk, .outside)
      | .below names =>
        let names := names ++ [segment]
        makeWay (if (disk.entry? names).isSome then disk else disk.set names .directory)
          (.below names) rest

/-- Puts an entry at a path, with the directories on the way to it. -/
def put (disk : Disk) (path : Text) (entry : Entry) : Disk :=
  match entry, (Text.split (· == '/') path).reverse with
  | .file bytes, name :: parents =>
    match disk.makeWay (start path) parents.reverse with
    | (disk, .below names) => disk.set (names ++ [name]) (.file bytes)
    | (disk, .outside) => disk
  | _, segments => (disk.makeWay (start path) segments.reverse).1

def write (disk : Disk) (path content : Text) : Except DiskError Disk :=
  match DiskError.ofPath? path with
  | some error => .error error
  | none =>
    match (Text.split (· == '/') path).reverse.dropWhile List.isEmpty with
    | [] => .error .isDirectory
    | name :: parents =>
      match disk.walk (start path) parents.reverse with
      | .error error => .error error
      | .ok place =>
        if disk.isFile place then .error .notDirectory
        else if path.getLast? = some '/' ∨ name = ['.'] ∨ name = LocalPath.parentSegment then
          .error .isDirectory
        else
          match place, disk.child name place with
          | .outside, _ => .ok disk
          | .below _, .error .nameTooLong => .error .nameTooLong
          | .below names, _ =>
            if disk.entry? (names ++ [name]) = some .directory then .error .isDirectory
            else .ok (disk.set (names ++ [name]) (.file (Utf8.encode content)))

/-- Fetches local documents from the disk. Remote ones cannot be reached. -/
def fetcher (disk : Disk) : Fetcher
  | .remote address => .error (.requestFailed address (Remote.failure address))
  | .onDisk path origin =>
    let path := LocalPath.join origin path
    match disk.read path with
    | .ok text => .ok text
    | .error error => .error (.unreadable path error.message)

end Disk

end FilterPrep
