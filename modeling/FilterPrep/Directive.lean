import FilterPrep.Lines

/-!
# Directives

A line is a directive when it starts, at its very first column, with one of four keywords. The
text behind the keyword is the condition of an `if`, the target of an `include`, or the rest of an
`else`.
-/

namespace FilterPrep

namespace Directive

inductive Kind where
  | ifKind
  | elseKind
  | endIfKind
  | includeKind
  deriving DecidableEq, Repr

namespace Kind

def keyword : Kind → Text
  | ifKind => "!#if".toList
  | elseKind => "!#else".toList
  | endIfKind => "!#endif".toList
  | includeKind => "!#include".toList

def holds (kind : Kind) (line : Line) : Bool := Text.startsWith kind.keyword line

/-- All kinds, in the order in which a line is compared with their keywords. -/
def all : List Kind := [ifKind, elseKind, endIfKind, includeKind]

def ofLine? (line : Line) : Option Kind := all.find? fun kind => kind.holds line

end Kind

end Directive

/-- A line, read as a directive or as plain content. -/
inductive Directive where
  /-- The condition is trimmed. -/
  | ifThen (condition : Text)
  /-- The rest of the line is kept as it stands: only white space is allowed there. -/
  | otherwise (rest : Text)
  | endIf
  /-- The target is trimmed. -/
  | includeFile (target : Text)
  | plain (line : Line)
  deriving DecidableEq, Repr

namespace Directive

/-- The directive of a kind that carries `rest` behind its keyword. -/
def ofKind : Kind → (rest : Text) → Directive
  | .ifKind, rest => .ifThen (Text.trim rest)
  | .elseKind, rest => .otherwise rest
  | .endIfKind, _ => .endIf
  | .includeKind, rest => .includeFile (Text.trim rest)

def ofLine (line : Line) : Directive :=
  match Kind.ofLine? line with
  | some kind => ofKind kind (line.drop kind.keyword.length)
  | none => .plain line

/-- The kind of a directive; plain content has none. -/
def kind? : Directive → Option Kind
  | ifThen _ => some .ifKind
  | otherwise _ => some .elseKind
  | endIf => some .endIfKind
  | includeFile _ => some .includeKind
  | plain _ => none

/-- The text that a directive carries; the end of a block carries none. -/
def text? : Directive → Option Text
  | ifThen condition => some condition
  | otherwise rest => some rest
  | endIf => none
  | includeFile target => some target
  | plain line => some line

def includeTarget? (line : Line) : Option Text :=
  match ofLine line with
  | .includeFile target => some target
  | _ => none

end Directive

end FilterPrep
