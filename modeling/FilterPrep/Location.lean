import FilterPrep.Error
import FilterPrep.LocalPath
import FilterPrep.Url.Parser

/-!
# Locations

Where a document lives and where its includes may come from. The origin of a document is the
directory part of its address: relative targets are looked up next to it, and absolute targets
must have the same scheme, host and port.
-/

namespace FilterPrep

namespace Location

/-- Letters of a scheme, taken up to case folding. -/
def isSchemeLetter (c : Char) : Bool := (Text.foldCase c).isAlpha

/-- The scheme in front of `://`. -/
def scheme? (address : Text) : Option Text :=
  let letters := address.takeWhile isSchemeLetter
  if letters.isEmpty then none
  else if Text.startsWith "://".toList (address.dropWhile isSchemeLetter) then some letters
  else none

/-- Whether an address starts with two slashes, so that its scheme is that of its surroundings. -/
def isSchemeless (address : Text) : Bool := Text.startsWith "//".toList address

/-- Whether an address does not depend on where it stands. -/
def isAbsolute (address : Text) : Bool := (scheme? address).isSome || isSchemeless address

/-- Whether an address is absolute and not that of a file. -/
def isRemote (address : Text) : Bool :=
  match scheme? address with
  | some scheme => !Text.startsWith "file".toList (Text.asciiLower scheme)
  | none => isSchemeless address

def originOf (address : Text) : Except CompileError Text :=
  match Url.parse address with
  | .ok url => .ok url.originText
  | .error _ => .error (.invalidUrl address)

/-- Everything in front of the last slash of an address; nothing when there is none. -/
def directory (address : Text) : Text :=
  match Text.cutLast? '/' address with
  | some (front, _) => front
  | none => []

/-- The origin that a document was given, or else its directory. -/
def originOr (address : Text) (given : Option Text) : Text :=
  match given with
  | some (c :: origin) => c :: origin
  | _ => directory address

/-- Rejects an absolute target on another origin. Relative targets pass, and so does every target
of a document without an origin. -/
def checkTarget (target : Text) (origin : Option Text) : Except CompileError Unit :=
  match origin with
  | some (c :: rest) =>
    if isAbsolute target then do
      let theirs ← originOf target
      let ours ← originOf (c :: rest)
      if theirs = ours then .ok () else .error (.rejectedOrigin theirs)
    else .ok ()
  | _ => .ok ()

def remoteAddress (target : Text) (origin : Option Text) : Text :=
  match origin with
  | some origin =>
    if !isAbsolute target && isAbsolute origin then LocalPath.trimSlashes origin ++ '/' :: target
    else target
  | none => target

/-- The canonical form of an address; one that cannot be parsed is its own. -/
def normalizeUrl (address : Text) : Text :=
  match Url.parse address with
  | .ok url => url.render
  | .error _ => address

end Location

inductive Location where
  | remote (address : Text)
  | onDisk (path : Text)
  deriving DecidableEq, Repr

namespace Location

/-- The location of `target` in a document with the given origin. -/
def resolve (target : Text) (origin : Option Text) : Location :=
  if isRemote target || origin.any isRemote then .remote (remoteAddress target origin)
  else .onDisk (LocalPath.join origin target)

def text : Location → Text
  | remote address => address
  | onDisk path => path

/-- What identifies a document: its location with dot segments resolved. -/
def key : Location → Text
  | remote address => normalizeUrl address
  | onDisk path => LocalPath.normalize path

/-- The origin of the document at a location, if it has one. -/
def childOrigin? (location : Location) : Option Text :=
  match directory location.text with
  | [] => none
  | origin => some origin

end Location

end FilterPrep
