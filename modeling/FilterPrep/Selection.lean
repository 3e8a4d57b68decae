import FilterPrep.Block
import FilterPrep.Error

/-!
# Resolving conditions

`select` keeps the lines whose conditions hold and drops the condition directives. A block takes
its first branch when the condition holds and the branch behind `else`, if it has one, otherwise;
the branch that is not taken is not read.
-/

namespace FilterPrep.Selection

/-- The lines of the branch that is taken in the block of `ifLine`, whose lines up to the closing
directive are `body`. -/
def branch (flags : FlagSet) (ifLine : Line) (condition : Text) (body : Lines) :
    Except CompileError Lines :=
  match Condition.Expr.ofText condition with
  | .error cause => .error (.invalidDirective ifLine cause)
  | .ok tree =>
    match Block.cut? .elseKind 0 body with
    | none => .ok (if tree.eval flags then body else [])
    | some (first, elseLine, second) =>
      if !(elseLine.drop Directive.Kind.elseKind.keyword.length).all Text.isSpace then
        .error (.invalidElse elseLine ifLine)
      else
        match Block.cut? .elseKind 0 second with
        | some (_, again, _) => .error (.unexpectedElse again)
        | none => .ok (if tree.eval flags then first else second)

theorem length_branch_le {flags : FlagSet} {ifLine : Line} {condition : Text} {body taken : Lines}
    (chosen : branch flags ifLine condition body = .ok taken) : taken.length ≤ body.length := by
  unfold branch at chosen
  split at chosen
  · cases chosen
  · split at chosen
    · cases chosen
      split <;> simp
    · next found =>
      have whole := congrArg List.length (Block.append_of_cut? found)
      simp only [List.length_append, List.length_cons] at whole
      split at chosen
      · cases chosen
      · split at chosen
        · cases chosen
        · cases chosen
          split <;> omega

/-- The lines that remain under `flags`. -/
def select (flags : FlagSet) : Lines → Except CompileError Lines
  | [] => .ok []
  | line :: rest =>
    match Directive.ofLine line with
    | .ifThen condition =>
      match _closing : Block.cut? .endIfKind 0 rest with
      | none => .error (.missingEndIf line)
      | some (body, _, behind) =>
        match _chosen : branch flags line condition body with
        | .error error => .error error
        | .ok taken =>
          match select flags taken with
          | .error error => .error error
          | .ok kept => (select flags behind).map (kept ++ ·)
    | .otherwise _ => .error (.unexpectedElse line)
    | .endIf => .error (.unexpectedEndIf line)
    | .includeFile _ => (select flags rest).map (line :: ·)
    | .plain _ => (select flags rest).map (line :: ·)
termination_by lines => lines.length
decreasing_by
  · have whole := congrArg List.length (Block.append_of_cut? _closing)
    have bound := length_branch_le _chosen
    simp only [List.length_append, List.length_cons] at whole ⊢
    omega
  · have whole := congrArg List.length (Block.append_of_cut? _closing)
    simp only [List.length_append, List.length_cons] at whole ⊢
    omega
  · simp
  · simp

/-- The lines that remain; without a flag set, all of them. -/
def resolve (flags : Option FlagSet) (lines : Lines) : Except CompileError Lines :=
  match flags with
  | some flags => select flags lines
  | none => .ok lines

end FilterPrep.Selection
