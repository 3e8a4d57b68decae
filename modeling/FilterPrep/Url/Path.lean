import FilterPrep.Url.Percent

/-!
# Paths of addresses

A path is a list of segments, or a text that is kept as it stands. Dot segments are resolved while
the segments are read; a segment that looks like a drive letter is never removed by `..`. The path
of a file may start with a drive.
-/

namespace FilterPrep.Url

/-- Tabs and line breaks, which do not count in an address. -/
def isIgnored (c : Char) : Bool := c == '\t' || c == '\n' || c == '\r'

def withoutIgnored (t : Text) : Text := t.filter fun c => !isIgnored c

inductive Path where
  /-- Segments, each behind a slash; no segments at all is the empty path. -/
  | segments (list : List Text)
  /-- A path without a leading slash, kept as it stands. -/
  | verbatim (text : Text)
  deriving DecidableEq, Repr

namespace Path

def render : Path → Text
  | .segments list => list.flatMap ('/' :: ·)
  | .verbatim text => text

/-- A dot, plain or encoded, at the start of a segment. -/
def afterDot? : Text → Option Text
  | '.' :: t => some t
  | '%' :: '2' :: 'e' :: t => some t
  | '%' :: '2' :: 'E' :: t => some t
  | _ => none

def isSingleDot (segment : Text) : Bool := afterDot? segment == some []

def isDoubleDot (segment : Text) : Bool := (afterDot? segment).bind afterDot? == some []

/-- A letter with a colon or a bar. -/
def isDrive : Text → Bool
  | [letter, mark] => letter.isAlpha && (mark == ':' || mark == '|')
  | _ => false

/-- A drive, alone or with a backslash behind it. -/
def startsWithDrive : Text → Bool
  | letter :: mark :: rest => isDrive [letter, mark] && (rest.head?.all (· == '\\'))
  | _ => false

/-- The segments without the last, unless that starts with a drive. The last segment comes
first. -/
def shorten : List Text → List Text
  | [] => []
  | segment :: rest => if startsWithDrive segment then segment :: rest else rest

/-- Adds a segment behind `done`, whose last segment comes first; `last` tells whether the path
ends with it. -/
def add (done : List Text) (segment : Text) (last : Bool) : List Text :=
  if isDoubleDot segment then if last then [] :: shorten done else shorten done
  else if isSingleDot segment then if last then [] :: done else done
  else segment :: done

/-- Adds the segments `raw` behind `done`, whose last segment comes first. -/
def resolve (done : List Text) : (raw : List Text) → List Text
  | [] => done.reverse
  | segment :: rest => resolve (add done segment rest.isEmpty) rest

/-- The segments of a path whose leading slash is taken off; `slash` tells what separates them. -/
def read (slash : Char → Bool) (t : Text) : List Text :=
  resolve [] ((Text.split slash t).map (Percent.encode Percent.path))

end Path

/-! ### Paths of files -/

/-- The path of a file, and whether its first segment is a drive. Next to a drive there is no
place for a host. -/
structure DrivePath where
  segments : List Text
  onDrive : Bool

namespace DrivePath

/-- The drive of a file path, with its colon. -/
def normalDrive (segment : Text) : Text := segment.take 1 ++ [':']

/-- A drive that a tab or a line break divides from what follows in the same segment, and that
rest. -/
def dividedDrive? (raw : Text) : Option (Text × Text) :=
  match raw.dropWhile isIgnored with
  | letter :: raw =>
    match raw.dropWhile isIgnored with
    | ':' :: mark :: rest =>
      if letter.isAlpha && isIgnored mark && !(withoutIgnored rest).isEmpty then
        some ([letter, ':'], withoutIgnored rest)
      else none
    | _ => none
  | [] => none

/-- The path of a file never starts with an empty segment in front of another. -/
def dropEmpty (segments : List Text) : List Text :=
  match segments.dropWhile List.isEmpty with
  | [] => [[]]
  | segments => segments

/-- Adds the segments `raw` behind `done`, whose last segment comes first. The first segment may be
a drive; what a tab or a line break divides from a drive is a segment of its own and stays as it
is. -/
def resolve (onDrive : Bool) (done : List Text) : (raw : List Text) → DrivePath
  | [] => ⟨dropEmpty done.reverse, onDrive⟩
  | raw :: rest =>
    let segment := Percent.encode Percent.path (withoutIgnored raw)
    if done.isEmpty && Path.isDrive segment then resolve true [normalDrive segment] rest
    else
      match (if done.isEmpty then dividedDrive? raw else none) with
      | some (drive, behind) =>
        resolve onDrive [Percent.encode Percent.path behind, drive] rest
      | none => resolve onDrive (Path.add done segment rest.isEmpty) rest

/-- The path of a file, with the tabs and line breaks that are written in it; `slash` tells what
separates the segments. -/
def read (slash : Char → Bool) (t : Text) : DrivePath := resolve false [] (Text.split slash t)

end DrivePath

end FilterPrep.Url
