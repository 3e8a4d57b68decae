import FilterPrep.Text.Basic

/-!
# Local paths

The path of a local document, with or without the scheme of files in front. `normalize` resolves
dot segments without looking at the disk, so that two spellings of one path become equal.
-/

namespace FilterPrep.LocalPath

def fileScheme : Text := "file://".toList

/-- The path without the scheme of files, which is compared without regard to case. -/
def stripScheme (path : Text) : Text :=
  if Text.asciiLower (path.take fileScheme.length) = fileScheme then path.drop fileScheme.length
  else path

def isRooted (path : Text) : Bool := path.head? == some '/'

def trimSlashes (path : Text) : Text := Text.trimEndBy (· == '/') path

/-- The path of `target` as seen from the directory `origin`. -/
def join (origin : Option Text) (target : Text) : Text :=
  let target := stripScheme target
  match origin.map stripScheme with
  | some origin =>
    if origin.isEmpty || isRooted target then target
    else trimSlashes origin ++ '/' :: target
  | none => target

def parentSegment : Text := "..".toList

/-- The segments of a path that say something: not empty and not a single dot. -/
def segments (path : Text) : List Text :=
  (Text.split (· == '/') path).filter fun s => !s.isEmpty && s != ['.']

/-- Adds one segment to a resolved path, whose last segment comes first. `..` takes back a named
segment, is dropped at the root and is kept in front of everything else. -/
def push (rooted : Bool) (done : List Text) (segment : Text) : List Text :=
  if segment = parentSegment then
    match done with
    | [] => if rooted then [] else [segment]
    | last :: rest => if last = parentSegment then segment :: last :: rest else rest
  else segment :: done

/-- The path without the scheme of files and with its dot segments resolved. -/
def normalize (path : Text) : Text :=
  let path := stripScheme path
  let rooted := isRooted path
  let resolved := ((segments path).foldl (push rooted) []).reverse
  (if rooted then ['/'] else []) ++ Text.join ['/'] resolved

end FilterPrep.LocalPath
