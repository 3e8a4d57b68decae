import FilterPrep.Text.Space

/-!
# Lines

A document is a list of lines without line breaks. This module splits a raw text into lines and
holds the operations on whole lists of lines: blankness, the context in front of a line, and
removal of lines near the top.
-/

namespace FilterPrep

/-- One line of a document, without its line break. -/
abbrev Line := Text

/-- A document, split into lines. -/
abbrev Lines := List Line

namespace Lines

def isBreak (c : Char) : Bool := c == '\r' || c == '\n'

/-- What is dropped around a document: white space and byte order marks. -/
def isPadding (c : Char) : Bool := Text.isSpace c || c == '\uFEFF'

/-- The lines of a raw text. Padding around the text is dropped and a run of line breaks counts as
one; a text of padding alone has a single empty line. -/
def ofText (raw : Text) : Lines :=
  match Text.trimBy isPadding raw with
  | [] => [[]]
  | body => (Text.split isBreak body).filter fun line => !line.isEmpty

/-- Whether every line is empty up to white space. -/
def isBlank (lines : Lines) : Bool := lines.all fun line => line.all Text.isSpace

/-- The last `count` lines in front of index `i`. -/
def before (lines : Lines) (i count : Nat) : Lines :=
  (lines.take i).drop (min i lines.length - count)

/-- The lines one below the other, each indented by a tab. -/
def indented (lines : Lines) : Text := Text.join ['\n'] (lines.map ('\t' :: ·))

/-- The lines without those among the first `limit` that satisfy `drop`. -/
def eraseNearTop (drop : Line → Bool) : (limit : Nat) → Lines → Lines
  | 0, lines => lines
  | _ + 1, [] => []
  | limit + 1, line :: rest =>
    if drop line then eraseNearTop drop limit rest else line :: eraseNearTop drop limit rest

end Lines

end FilterPrep
