import FilterPrep.Directive

/-!
# Blocks

An `if` line opens a block and an `endif` line closes the innermost open one. `cut?` finds the
first line of a kind that lies outside the blocks opened on the way to it.
-/

namespace FilterPrep.Block

/-- The lines in front of the first line of `kind` at depth 0, that line, and the lines behind it,
when `depth` blocks are open at the start. -/
def cut? (kind : Directive.Kind) : (depth : Nat) → Lines → Option (Lines × Line × Lines)
  | _, [] => none
  | depth, line :: rest =>
    if Directive.Kind.ifKind.holds line then
      (cut? kind (depth + 1) rest).map fun (before, found) => (line :: before, found)
    else if depth = 0 ∧ kind.holds line then some ([], line, rest)
    else if Directive.Kind.endIfKind.holds line then
      (cut? kind (depth - 1) rest).map fun (before, found) => (line :: before, found)
    else (cut? kind depth rest).map fun (before, found) => (line :: before, found)

theorem append_of_cut? {kind : Directive.Kind} {depth : Nat} {lines before behind : Lines}
    {line : Line} (found : cut? kind depth lines = some (before, line, behind)) :
    lines = before ++ line :: behind := by
  induction lines generalizing depth before with
  | nil => simp [cut?] at found
  | cons head rest ih =>
    simp only [cut?] at found
    split at found
    · obtain ⟨⟨inner, l, b⟩, deeper, same⟩ := Option.map_eq_some_iff.mp found
      cases same
      rw [ih deeper, List.cons_append]
    · split at found
      · cases found
        rfl
      · split at found
        · obtain ⟨⟨inner, l, b⟩, deeper, same⟩ := Option.map_eq_some_iff.mp found
          cases same
          rw [ih deeper, List.cons_append]
        · obtain ⟨⟨inner, l, b⟩, deeper, same⟩ := Option.map_eq_some_iff.mp found
          cases same
          rw [ih deeper, List.cons_append]

/-- The index of the first line of `kind` outside the blocks that open between `start` and
`stop`. -/
def indexOf? (lines : Lines) (kind : Directive.Kind) (start stop : Nat) : Option Nat :=
  (cut? kind 0 ((lines.take stop).drop start)).map fun (before, _) => start + before.length

end FilterPrep.Block
