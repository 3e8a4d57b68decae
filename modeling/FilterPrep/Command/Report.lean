import FilterPrep.Text.Basic

/-!
# Reports

What a run of the program prints and the code it exits with. A failure is reported with all its
causes, each indented below the heading.
-/

namespace FilterPrep.Command

structure Report where
  exit : Nat
  stdout : Text
  stderr : Text
  deriving DecidableEq, Repr

namespace Report

def success (stdout : Text) : Report := ⟨0, stdout, []⟩

/-- The text with `indent` behind each of its line breaks. -/
def hang (indent t : Text) : Text := t.flatMap fun c => if c = '\n' then '\n' :: indent else [c]

/-- A number at the end of five columns. -/
def numbered (n : Nat) : Text :=
  List.replicate (5 - (Text.ofNat n).length) ' ' ++ Text.ofNat n

/-- Several causes, numbered from `n` on. -/
def numberedCauses (n : Nat) : List Text → Text
  | [] => []
  | cause :: rest =>
    '\n' :: numbered n ++ ": ".toList ++ hang (List.replicate 7 ' ') cause ++
      numberedCauses (n + 1) rest

def causesBlock : List Text → Text
  | [] => []
  | [cause] => "\n\nCaused by:\n    ".toList ++ hang (List.replicate 4 ' ') cause
  | causes => "\n\nCaused by:".toList ++ numberedCauses 0 causes

def failureText (message : Text) (causes : List Text) : Text :=
  "Error: ".toList ++ message ++ causesBlock causes ++ ['\n']

def failure (message : Text) (causes : List Text) : Report :=
  ⟨1, [], failureText message causes⟩

end Report

end FilterPrep.Command
