import FilterPrep.Fetch
import FilterPrep.Selection

/-!
# Resolving includes

Each include line is replaced by the lines of the document it names, with that document's own
conditions and includes resolved. A document is open while its includes are being resolved: no
document may include one that is open, and at most `maxDepth` includes may be open at once.
-/

namespace FilterPrep.Include

/-- How many includes may be open at once. -/
def maxDepth : Nat := 32

/-- How many lines in front of a failing include are shown. -/
def contextSize : Nat := 3

/-- How many lines of an included document are searched for patch notes. -/
def patchNoteLimit : Nat := 50

/-- Lines that tell where patches of a document are found; they mean nothing once the document is
part of another. -/
def isPatchNote (line : Line) : Bool := Text.startsWith "! Diff-Path:".toList (Text.trim line)

/-- The error of the include in `line`; one from a nested include is kept as it is. -/
def wrap (line : Line) (context : Lines) (location : Location) : CompileError → CompileError
  | .includeFailed inner shown place cause => .includeFailed inner shown place cause
  | cause => .includeFailed line context (some location.text) cause

/-- Replaces the include lines of a document by what `expand` makes of them. It is given the lines
in front of the include, the line itself and its target. -/
def splice (expand : Lines → Line → Text → Traced Lines) (passed : Lines) : Lines → Traced Lines
  | [] => pure []
  | line :: rest =>
    match Directive.includeTarget? line with
    | none => do
      let others ← splice expand (passed ++ [line]) rest
      return line :: others
    | some target => do
      let included ← expand passed line target
      let others ← splice expand (passed ++ [line]) rest
      return included ++ others

/-- Resolves the includes of a document: given the keys of the open documents, the origin of the
document and its lines. -/
abbrev Resolver := (chain : List Text) → (origin : Option Text) → Lines → Traced Lines

/-- The lines of the document at `location`. Its own includes are resolved by `nested`; there is
none when no further include may be opened. -/
def openDocument (fetcher : Fetcher) (flags : Option FlagSet) (nested : Option Resolver)
    (chain : List Text) (origin : Option Text) (target : Text) (location : Location) :
    Traced Lines :=
  if chain.contains location.key then .fail (.includeCycle (chain ++ [location.key]))
  else
    match nested with
    | none => .fail (.includeTooDeep maxDepth location.text)
    | some resolve => do
      let raw ← fetcher.get (location.request target origin)
      let lines ← .ofExcept (Selection.resolve flags (Lines.ofText raw))
      let included ← resolve (chain ++ [location.key]) location.childOrigin? lines
      return Lines.eraseNearTop isPatchNote patchNoteLimit included

/-- Resolves includes one level deep and leaves the rest to `nested`. A target on a foreign origin
is reported without its line in the outermost document. -/
def resolveWith (fetcher : Fetcher) (flags : Option FlagSet) (outermost : Bool)
    (nested : Option Resolver) : Resolver := fun chain origin =>
  splice
    (fun passed line target =>
      let location := Location.resolve target origin
      let wrapped := wrap line (Lines.before passed passed.length contextSize) location
      match Location.checkTarget target origin with
      | .error error => .fail (if outermost then error else wrapped error)
      | .ok () => (openDocument fetcher flags nested chain origin target location).mapError wrapped)
    []

/-- Resolves includes with at most `room` of them open at once. -/
def resolveWithin (fetcher : Fetcher) (flags : Option FlagSet) :
    (outermost : Bool) → (room : Nat) → Resolver
  | outermost, 0 => resolveWith fetcher flags outermost none
  | outermost, room + 1 =>
    resolveWith fetcher flags outermost (some (resolveWithin fetcher flags false room))

/-- Resolves the includes of a document that is `depth` includes deep. -/
def resolveAt (fetcher : Fetcher) (flags : Option FlagSet) (depth : Nat) : Resolver :=
  resolveWithin fetcher flags (depth == 0) (maxDepth - depth)

/-- Resolves the includes of lines that belong to no document. -/
def resolve (fetcher : Fetcher) (flags : Option FlagSet) (origin : Option Text) (lines : Lines) :
    Traced Lines :=
  resolveAt fetcher flags 0 [] origin lines

/-- Resolves the conditions and then the includes of lines that belong to no document. -/
def compile (fetcher : Fetcher) (flags : Option FlagSet) (origin : Option Text) (lines : Lines) :
    Traced Lines := do
  let lines ← .ofExcept (Selection.resolve flags lines)
  resolve fetcher flags origin lines

end FilterPrep.Include
