import FilterPrep.Proofs.Nesting
import FilterPrep.Proofs.Text
import FilterPrep.Selection

/-!
# Documents as forests of blocks

A well-nested document is a forest: content lines and blocks, each with one branch or two that are
forests again. `lines` writes a forest down, `taken` says which of its lines a flag set keeps, and
`resolve_forest` shows that resolving the conditions of the written lines keeps exactly those.
-/

namespace FilterPrep

open Directive

/-- A document whose blocks are all closed, with the texts behind its keywords. -/
inductive Forest where
  | nil
  | content (line : Line) (isContent : IsContent line) (rest : Forest)
  | block (condition : Text) (body : Forest) (closing : Text) (rest : Forest)
  | blockElse (condition : Text) (body : Forest) (suffix : Text) (alternative : Forest)
      (closing : Text) (rest : Forest)

namespace Forest

def lines : Forest → Lines
  | nil => []
  | content line _ rest => line :: rest.lines
  | block condition body closing rest =>
    (Kind.ifKind.keyword ++ condition) :: body.lines ++ [Kind.endIfKind.keyword ++ closing] ++
      rest.lines
  | blockElse condition body suffix alternative closing rest =>
    (Kind.ifKind.keyword ++ condition) ::
        (body.lines ++ (Kind.elseKind.keyword ++ suffix) :: alternative.lines) ++
      [Kind.endIfKind.keyword ++ closing] ++ rest.lines

/-- The content that is reached: of each block, the branch that its condition chooses. -/
def taken (flags : FlagSet) : Forest → Lines
  | nil => []
  | content line _ rest => line :: rest.taken flags
  | block condition body _ rest =>
    (match Condition.evaluate flags condition with
      | .ok true => body.taken flags
      | _ => []) ++ rest.taken flags
  | blockElse condition body _ alternative _ rest =>
    (match Condition.evaluate flags condition with
      | .ok true => body.taken flags
      | _ => alternative.taken flags) ++ rest.taken flags

/-- Every condition that is reached has a value and nothing but white space stands behind every
`else` that is reached. In a branch that is not taken anything goes. -/
def Readable (flags : FlagSet) : Forest → Prop
  | nil => True
  | content _ _ rest => rest.Readable flags
  | block condition body _ rest =>
    (∃ value, Condition.evaluate flags condition = .ok value ∧
      (value = true → body.Readable flags)) ∧ rest.Readable flags
  | blockElse condition body suffix alternative _ rest =>
    (∃ value, Condition.evaluate flags condition = .ok value ∧ suffix.all Text.isSpace = true ∧
      if value = true then body.Readable flags else alternative.Readable flags) ∧
      rest.Readable flags

/-- Neither the `else` nor the end of a surrounding block can be found inside a forest. -/
theorem passes_lines (forest : Forest) {kind : Kind}
    (sought : kind = .elseKind ∨ kind = .endIfKind) :
    Block.PassesFrom 0 kind forest.lines := by
  induction forest with
  | nil => exact Block.passes_nil
  | content line isContent rest ih =>
    exact Block.passes_append (Block.passes_content isContent sought) ih
  | block condition body closing rest ihBody ihRest =>
    exact Block.passes_append
      (Block.passes_block (Block.passes_mono ihBody (Nat.zero_le 1)) condition closing) ihRest
  | blockElse condition body suffix alternative closing rest ihBody ihAlternative ihRest =>
    have inside := Block.passes_divided (Block.passes_mono ihBody (Nat.zero_le 1))
      (Block.passes_mono ihAlternative (Nat.zero_le 1)) suffix nofun
    exact Block.passes_append (Block.passes_block inside condition closing) ihRest

end Forest

namespace Selection

variable {flags : FlagSet}

theorem ofText_trim (condition : Text) :
    Condition.Expr.ofText (Text.trim condition) = Condition.Expr.ofText condition := by
  simp only [Condition.Expr.ofText, Text.trim_trim]

theorem trim_of_ifThen {line : Line} {condition : Text} (opens : ofLine line = .ifThen condition) :
    Text.trim condition = condition := by
  obtain ⟨rest, rfl⟩ := Kind.holds_iff.mp (holds_of_kind? (congrArg kind? opens))
  cases (ofLine_keyword .ifKind rest).symm.trans opens
  exact Text.trim_trim rest

theorem ofText_of_evaluate {condition : Text} {value : Bool}
    (evaluated : Condition.evaluate flags condition = .ok value) :
    ∃ tree, Condition.Expr.ofText condition = .ok tree ∧ tree.eval flags = value := by
  unfold Condition.evaluate at evaluated
  cases read : Condition.Expr.ofText condition with
  | error cause => rw [read] at evaluated; cases evaluated
  | ok tree =>
    rw [read] at evaluated
    exact ⟨tree, rfl, Except.ok.inj evaluated⟩

/-! ### One step of the selection -/

theorem select_content {line : Line} (content : IsContent line) (rest : Lines) :
    select flags (line :: rest) = (select flags rest).map (line :: ·) := by
  rw [select]
  rcases content with none | included
  · rw [show ofLine line = .plain line by rw [ofLine, none]]
  · rw [show ofLine line = .includeFile _ by rw [ofLine, included]; rfl]

theorem branch_single {ifLine : Line} {condition : Text} {body : Lines} {value : Bool}
    (evaluated : Condition.evaluate flags condition = .ok value)
    (undivided : Block.cut? .elseKind 0 body = none) :
    branch flags ifLine (Text.trim condition) body = .ok (if value then body else []) := by
  obtain ⟨tree, read, rfl⟩ := ofText_of_evaluate evaluated
  simp only [branch, ofText_trim, read, undivided]

theorem branch_divided {ifLine : Line} {condition suffix : Text} {body first second : Lines}
    {value : Bool} (evaluated : Condition.evaluate flags condition = .ok value)
    (divided : Block.cut? .elseKind 0 body = some (first, Kind.elseKind.keyword ++ suffix, second))
    (blank : suffix.all Text.isSpace = true) (once : Block.cut? .elseKind 0 second = none) :
    branch flags ifLine (Text.trim condition) body = .ok (if value then first else second) := by
  obtain ⟨tree, read, rfl⟩ := ofText_of_evaluate evaluated
  simp only [branch, ofText_trim, read, divided, List.drop_left, blank, once, Bool.not_true,
    Bool.false_eq_true, if_false]

theorem select_ifThen {line : Line} {condition : Text} (opens : ofLine line = .ifThen condition)
    (rest : Lines) :
    select flags (line :: rest) =
      match Block.cut? .endIfKind 0 rest with
      | none => .error (.missingEndIf line)
      | some (body, _, behind) => do
        let chosen ← branch flags line condition body
        let kept ← select flags chosen
        let others ← select flags behind
        return kept ++ others := by
  rw [select, opens]
  dsimp only
  split
  · next missing => rw [missing]
  · next body closing behind found =>
    rw [found]
    dsimp only
    split
    · next failed => rw [failed]; rfl
    · next chosen succeeded =>
      rw [succeeded]
      change _ = (select flags chosen >>= _)
      cases select flags chosen <;> cases select flags behind <;> rfl

theorem select_block {condition : Text} {rest body behind chosen kept others : Lines}
    {closing : Line} (closed : Block.cut? .endIfKind 0 rest = some (body, closing, behind))
    (choice : branch flags (Kind.ifKind.keyword ++ condition) (Text.trim condition) body =
      .ok chosen)
    (selected : select flags chosen = .ok kept) (further : select flags behind = .ok others) :
    select flags ((Kind.ifKind.keyword ++ condition) :: rest) = .ok (kept ++ others) := by
  rw [select_ifThen (ofLine_keyword .ifKind condition), closed]
  dsimp only
  rw [choice]
  change (select flags chosen >>= _) = _
  rw [selected]
  change (select flags behind >>= _) = _
  rw [further]
  rfl

end Selection

namespace Forest

theorem select_lines {flags : FlagSet} (forest : Forest) (readable : forest.Readable flags) :
    Selection.select flags forest.lines = .ok (forest.taken flags) := by
  induction forest with
  | nil => rw [lines, Selection.select, taken]
  | content line isContent rest ih =>
    rw [lines, Selection.select_content isContent, ih readable, taken]
    rfl
  | block condition body closing rest ihBody ihRest =>
    obtain ⟨⟨value, evaluated, reached⟩, readableRest⟩ := readable
    have closed :=
      Block.cut?_of_passes (body.passes_lines (.inr rfl)) closing rest.lines (by decide)
    have undivided := Block.cut?_eq_none_of_passes (body.passes_lines (.inl rfl))
    have selected : Selection.select flags (if value then body.lines else []) =
        .ok (if value then body.taken flags else []) := by
      cases value with
      | true => exact ihBody (reached rfl)
      | false => rw [if_neg Bool.false_ne_true, if_neg Bool.false_ne_true, Selection.select]
    rw [lines, List.append_assoc, List.cons_append, List.singleton_append,
      Selection.select_block closed (Selection.branch_single evaluated undivided) selected
        (ihRest readableRest), taken, evaluated]
    cases value <;> rfl
  | blockElse condition body suffix alternative closing rest ihBody ihAlternative ihRest =>
    obtain ⟨⟨value, evaluated, blank, reached⟩, readableRest⟩ := readable
    have divided :=
      Block.cut?_of_passes (body.passes_lines (.inl rfl)) suffix alternative.lines (by decide)
    have once := Block.cut?_eq_none_of_passes (alternative.passes_lines (.inl rfl))
    have inside := Block.passes_divided (body.passes_lines (.inr rfl))
      (alternative.passes_lines (.inr rfl)) suffix (by decide)
    have closed := Block.cut?_of_passes inside closing rest.lines (by decide)
    have selected : Selection.select flags (if value then body.lines else alternative.lines) =
        .ok (if value then body.taken flags else alternative.taken flags) := by
      cases value with
      | true => exact ihBody reached
      | false => exact ihAlternative reached
    rw [lines, List.append_assoc, List.cons_append, List.singleton_append,
      Selection.select_block closed (Selection.branch_divided evaluated divided blank once) selected
        (ihRest readableRest), taken, evaluated]
    cases value <;> rfl

/-- Resolving the conditions of a well-nested document keeps, in order, the content of the branches
that its conditions choose. -/
theorem resolve_forest (flags : FlagSet) (forest : Forest) (readable : forest.Readable flags) :
    Selection.resolve (some flags) forest.lines = .ok (forest.taken flags) :=
  forest.select_lines readable

/-- What cannot be read is no obstacle in a branch that is not taken. -/
theorem resolve_forest_untaken :
    Selection.resolve (some (FlagSet.ofPairs [("a".toList, true)]))
      ["!#if !a".toList, "!#if (".toList, "x".toList, "!#else y".toList, "!#endif".toList,
        "!#else ".toList, "!#if a || b".toList, "!#include z".toList, "!#endif end".toList,
        "!#endif".toList] = .ok ["!#include z".toList] := by
  have first : Condition.evaluate (FlagSet.ofPairs [("a".toList, true)]) " !a".toList =
      .ok false := by cbv
  have second : Condition.evaluate (FlagSet.ofPairs [("a".toList, true)]) " a || b".toList =
      .ok true := by cbv
  have kept := resolve_forest (FlagSet.ofPairs [("a".toList, true)])
    (.blockElse " !a".toList
      (.blockElse " (".toList (.content "x".toList (.inl rfl) .nil) " y".toList .nil [] .nil)
      " ".toList
      (.block " a || b".toList (.content "!#include z".toList (.inr rfl) .nil) " end".toList .nil)
      [] .nil)
    ⟨⟨false, first, by decide, ⟨⟨true, second, fun _ => trivial⟩, trivial⟩⟩, trivial⟩
  simp only [taken, first, second] at kept
  exact kept

end Forest

end FilterPrep
