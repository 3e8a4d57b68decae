import FilterPrep.Proofs.Forest
import FilterPrep.Proofs.Outcome

/-!
# Laws of the selection

`select_induction` follows a selection into the branches it takes. From it: what is selected is
content of the document and is left alone by every further selection, lines that can be selected
can be put in front of any others (`resolve_append`), and only five kinds of errors occur.
-/

namespace FilterPrep

open Directive

/-- The errors that resolving conditions can end with. -/
def CompileError.isOfCondition : CompileError → Bool
  | invalidDirective _ _ => true
  | unexpectedElse _ => true
  | unexpectedEndIf _ => true
  | missingEndIf _ => true
  | invalidElse _ _ => true
  | _ => false

namespace Selection

variable {flags : FlagSet}

/-! ### The branch that is taken -/

theorem branch_ok {ifLine : Line} {condition : Text} {body chosen : Lines}
    (choice : branch flags ifLine condition body = .ok chosen) :
    ∃ tree, Condition.Expr.ofText condition = .ok tree ∧
      ((Block.cut? .elseKind 0 body = none ∧ chosen = if tree.eval flags then body else []) ∨
        ∃ first elseLine second,
          Block.cut? .elseKind 0 body = some (first, elseLine, second) ∧
            (elseLine.drop Kind.elseKind.keyword.length).all Text.isSpace = true ∧
            Block.cut? .elseKind 0 second = none ∧
            chosen = if tree.eval flags then first else second) := by
  unfold branch at choice
  split at choice
  · cases choice
  · next tree read =>
    refine ⟨tree, read, ?_⟩
    split at choice
    · next undivided => exact .inl ⟨undivided, (Except.ok.inj choice).symm⟩
    · next first elseLine second divided =>
      split at choice
      · cases choice
      · next blank =>
        split at choice
        · cases choice
        · next once =>
          exact .inr ⟨first, elseLine, second, divided, by simpa using blank, once,
            (Except.ok.inj choice).symm⟩

theorem branch_error {ifLine : Line} {condition : Text} {body : Lines} {error : CompileError}
    (failed : branch flags ifLine condition body = .error error) :
    (∃ cause, Condition.Expr.ofText condition = .error cause ∧
        error = .invalidDirective ifLine cause) ∨
      ∃ first elseLine second, Block.cut? .elseKind 0 body = some (first, elseLine, second) ∧
        (((elseLine.drop Kind.elseKind.keyword.length).all Text.isSpace = false ∧
            error = .invalidElse elseLine ifLine) ∨
          ((elseLine.drop Kind.elseKind.keyword.length).all Text.isSpace = true ∧
            ∃ between again behind, Block.cut? .elseKind 0 second = some (between, again, behind) ∧
              error = .unexpectedElse again)) := by
  unfold branch at failed
  split at failed
  · next cause unread => exact .inl ⟨cause, unread, (Except.error.inj failed).symm⟩
  · split at failed
    · cases failed
    · next first elseLine second divided =>
      refine .inr ⟨first, elseLine, second, divided, ?_⟩
      split at failed
      · next text => exact .inl ⟨by simpa using text, (Except.error.inj failed).symm⟩
      · next blank =>
        split at failed
        · next between again behind twice =>
          exact .inr ⟨by simpa using blank, between, again, behind, twice,
            (Except.error.inj failed).symm⟩
        · cases failed

theorem infix_branch {ifLine : Line} {condition : Text} {body chosen : Lines}
    (choice : branch flags ifLine condition body = .ok chosen) : chosen <:+: body := by
  obtain ⟨tree, -, ⟨-, rfl⟩ | ⟨first, elseLine, second, divided, -, -, rfl⟩⟩ := branch_ok choice
  · split
    · exact List.infix_rfl
    · exact List.nil_infix
  · rw [Block.append_of_cut? divided]
    split
    · exact (List.prefix_append first _).isInfix
    · exact ((List.suffix_cons elseLine second).trans (List.suffix_append first _)).isInfix

theorem sublist_branch {ifLine : Line} {condition : Text} {body chosen : Lines}
    (choice : branch flags ifLine condition body = .ok chosen) : chosen.Sublist body :=
  (infix_branch choice).sublist

theorem subset_branch {ifLine : Line} {condition : Text} {body chosen : Lines}
    (choice : branch flags ifLine condition body = .ok chosen) : chosen ⊆ body :=
  (sublist_branch choice).subset

theorem closes_of_branch {ifLine : Line} {condition : Text} {body chosen : Lines}
    (closes : Block.Closes 0 body) (choice : branch flags ifLine condition body = .ok chosen) :
    Block.Closes 0 chosen := by
  obtain ⟨tree, -, ⟨-, rfl⟩ | ⟨first, elseLine, second, divided, -, -, rfl⟩⟩ := branch_ok choice
  · split
    · exact closes
    · rfl
  · have inFirst := Block.closes_of_cut? divided (.inr closes)
    split
    · exact inFirst
    · rw [Block.append_of_cut? divided] at closes
      exact (Block.closes_divided inFirst (Block.holds_of_cut? divided)).mp closes

/-! ### Along a selection -/

theorem select_induction (flags : FlagSet) {motive : Lines → Prop} (nil : motive [])
    (content : ∀ line rest, IsContent line → motive rest → motive (line :: rest))
    (block : ∀ line condition rest, ofLine line = .ifThen condition →
      (∀ body closing behind, Block.cut? .endIfKind 0 rest = some (body, closing, behind) →
        motive behind ∧ ∀ chosen, branch flags line condition body = .ok chosen → motive chosen) →
      motive (line :: rest))
    (stray : ∀ line rest, (∃ suffix, ofLine line = .otherwise suffix) ∨ ofLine line = .endIf →
      motive (line :: rest)) (lines : Lines) : motive lines := by
  -- the branch that is taken and the lines behind the block are shorter than the document
  induction size : lines.length using Nat.strong_induction_on generalizing lines with
  | _ size ih =>
    subst size
    cases lines with
    | nil => exact nil
    | cons line rest =>
      rcases ofLine_cases line with ⟨condition, opens⟩ | other | closes | isContent
      · refine block line condition rest opens fun body closing behind found => ?_
        have whole := congrArg List.length (Block.append_of_cut? found)
        simp only [List.length_append, List.length_cons] at whole
        refine ⟨ih _ (by simp only [List.length_cons]; omega) behind rfl, fun chosen choice => ?_⟩
        have short := length_branch_le choice
        exact ih _ (by simp only [List.length_cons]; omega) chosen rfl
      · exact stray line rest (.inl other)
      · exact stray line rest (.inr closes)
      · exact content line rest isContent (ih _ (Nat.lt_succ_self _) rest rfl)

/-! ### One step -/

theorem select_stray {line : Line}
    (stray : (∃ suffix, ofLine line = .otherwise suffix) ∨ ofLine line = .endIf) (rest : Lines) :
    select flags (line :: rest) = .error (.unexpectedElse line) ∨
      select flags (line :: rest) = .error (.unexpectedEndIf line) := by
  rcases stray with ⟨suffix, is⟩ | is
  · exact .inl (by rw [select, is])
  · exact .inr (by rw [select, is])

theorem select_stray_ne_ok {line : Line} {rest out : Lines}
    (stray : (∃ suffix, ofLine line = .otherwise suffix) ∨ ofLine line = .endIf) :
    select flags (line :: rest) ≠ .ok out := by
  intro selected
  rcases select_stray stray rest with failed | failed
  · exact nomatch failed.symm.trans selected
  · exact nomatch failed.symm.trans selected

theorem select_content_ok {line : Line} {rest out : Lines} (isContent : IsContent line)
    (selected : select flags (line :: rest) = .ok out) :
    ∃ others, select flags rest = .ok others ∧ out = line :: others := by
  rw [select_content isContent] at selected
  obtain ⟨others, further, same⟩ := Except.map_eq_ok.mp selected
  exact ⟨others, further, same.symm⟩

theorem select_closed {line closing : Line} {condition : Text} {rest body behind : Lines}
    (opens : ofLine line = .ifThen condition)
    (found : Block.cut? .endIfKind 0 rest = some (body, closing, behind)) :
    select flags (line :: rest) = do
      let chosen ← branch flags line condition body
      let kept ← select flags chosen
      let others ← select flags behind
      return kept ++ others := by
  rw [select_ifThen opens, found]

theorem select_block_ok {line : Line} {condition : Text} {rest out : Lines}
    (opens : ofLine line = .ifThen condition) (selected : select flags (line :: rest) = .ok out) :
    ∃ body closing behind chosen kept others,
      Block.cut? .endIfKind 0 rest = some (body, closing, behind) ∧
        branch flags line condition body = .ok chosen ∧ select flags chosen = .ok kept ∧
        select flags behind = .ok others ∧ out = kept ++ others := by
  cases found : Block.cut? .endIfKind 0 rest with
  | none =>
    rw [select_ifThen opens, found] at selected
    cases selected
  | some cut =>
    obtain ⟨body, closing, behind⟩ := cut
    rw [select_closed opens found] at selected
    obtain ⟨chosen, choice, selected⟩ := Except.bind_eq_ok.mp selected
    obtain ⟨kept, inside, selected⟩ := Except.bind_eq_ok.mp selected
    obtain ⟨others, further, selected⟩ := Except.bind_eq_ok.mp selected
    exact ⟨body, closing, behind, chosen, kept, others, rfl, choice, inside, further,
      (Except.ok.inj selected).symm⟩

theorem select_block_error {line closing : Line} {condition : Text} {rest body behind : Lines}
    {error : CompileError} (opens : ofLine line = .ifThen condition)
    (found : Block.cut? .endIfKind 0 rest = some (body, closing, behind))
    (failed : select flags (line :: rest) = .error error) :
    branch flags line condition body = .error error ∨
      (∃ chosen, branch flags line condition body = .ok chosen ∧
        select flags chosen = .error error) ∨
      select flags behind = .error error := by
  rw [select_closed opens found] at failed
  rcases Except.bind_eq_error.mp failed with unchosen | ⟨chosen, choice, failed⟩
  · exact .inl unchosen
  · rcases Except.bind_eq_error.mp failed with inside | ⟨kept, -, failed⟩
    · exact .inr (.inl ⟨chosen, choice, inside⟩)
    · rcases Except.bind_eq_error.mp failed with further | ⟨others, -, failed⟩
      · exact .inr (.inr further)
      · cases failed

/-! ### What is selected -/

theorem sublist_select {lines kept : Lines} (selected : select flags lines = .ok kept) :
    kept.Sublist lines := by
  induction lines using select_induction flags generalizing kept with
  | nil =>
    rw [select] at selected
    cases selected
    exact List.Sublist.refl []
  | content line rest isContent ih =>
    obtain ⟨others, further, rfl⟩ := select_content_ok isContent selected
    exact (ih further).cons_cons line
  | block line condition rest opens ih =>
    obtain ⟨body, closing, behind, chosen, inner, others, found, choice, inside, further, rfl⟩ :=
      select_block_ok opens selected
    obtain ⟨ihBehind, ihChosen⟩ := ih body closing behind found
    have fromBody := (ihChosen chosen choice inside).trans (sublist_branch choice)
    have fromBehind := (ihBehind further).cons closing
    rw [Block.append_of_cut? found]
    exact (fromBody.append fromBehind).cons line
  | stray line rest is => exact absurd selected (select_stray_ne_ok is)

theorem subset_select {lines kept : Lines} (selected : select flags lines = .ok kept) :
    kept ⊆ lines :=
  (sublist_select selected).subset

theorem isContent_of_select {lines kept : Lines} (selected : select flags lines = .ok kept) :
    ∀ line ∈ kept, IsContent line := by
  induction lines using select_induction flags generalizing kept with
  | nil =>
    rw [select] at selected
    cases selected
    simp
  | content line rest isContent ih =>
    obtain ⟨others, further, rfl⟩ := select_content_ok isContent selected
    exact List.forall_mem_cons.mpr ⟨isContent, ih further⟩
  | block line condition rest opens ih =>
    obtain ⟨body, closing, behind, chosen, inner, others, found, choice, inside, further, rfl⟩ :=
      select_block_ok opens selected
    obtain ⟨ihBehind, ihChosen⟩ := ih body closing behind found
    exact List.forall_mem_append.mpr ⟨ihChosen chosen choice inside, ihBehind further⟩
  | stray line rest is => exact absurd selected (select_stray_ne_ok is)

theorem select_of_isContent {lines : Lines} (content : ∀ line ∈ lines, IsContent line) :
    select flags lines = .ok lines := by
  induction lines with
  | nil => rw [select]
  | cons line rest ih =>
    obtain ⟨isContent, others⟩ := List.forall_mem_cons.mp content
    rw [select_content isContent, ih others]
    rfl

/-! ### Documents put together -/

theorem closes_of_select {lines kept : Lines} (selected : select flags lines = .ok kept) :
    Block.Closes 0 lines := by
  induction lines using select_induction flags generalizing kept with
  | nil => rfl
  | content line rest isContent ih =>
    obtain ⟨others, further, -⟩ := select_content_ok isContent selected
    exact (Block.closes_cons_content isContent rest).mpr (ih further)
  | block line condition rest opens ih =>
    obtain ⟨body, closing, behind, chosen, inner, others, found, -, -, further, -⟩ :=
      select_block_ok opens selected
    exact (Block.closes_block (holds_of_kind? (congrArg kind? opens)) found).mpr
      ((ih body closing behind found).1 further)
  | stray line rest is => exact absurd selected (select_stray_ne_ok is)

/-- No search that starts in lines which close their blocks leaves them: what follows is selected
on its own, and only if they can be selected. -/
theorem select_append_of_closes {first : Lines} (closes : Block.Closes 0 first) (rest : Lines) :
    select flags (first ++ rest) = do
      let kept ← select flags first
      let others ← select flags rest
      return kept ++ others := by
  induction first using select_induction flags with
  | nil =>
    rw [List.nil_append, select, Except.ok_bind]
    cases select flags rest <;> rfl
  | content line further isContent ih =>
    have joined := ih ((Block.closes_cons_content isContent further).mp closes)
    rw [List.cons_append, select_content isContent, select_content isContent, joined]
    cases select flags further with
    | error error => rfl
    | ok kept => cases select flags rest <;> rfl
  | block line condition further opens ih =>
    obtain ⟨body, closing, behind, found, -, closesBehind⟩ :=
      Block.exists_block_of_closes (holds_of_kind? (congrArg kind? opens)) closes
    have joined := (ih body closing behind found).1 closesBehind
    rw [List.cons_append, select_closed opens (Block.cut?_append found rest),
      select_closed opens found, joined]
    simp only [bind_assoc, pure_bind, List.append_assoc]
  | stray line further is =>
    rcases is with ⟨suffix, is⟩ | is
    · rw [List.cons_append, select, select, is]
      rfl
    · rw [List.cons_append, select, select, is]
      rfl

theorem select_append {first kept : Lines} (selected : select flags first = .ok kept)
    (rest : Lines) : select flags (first ++ rest) = (select flags rest).map (kept ++ ·) := by
  rw [select_append_of_closes (closes_of_select selected), selected, Except.ok_bind]
  cases select flags rest <;> rfl

/-- Conditions are resolved document by document: behind lines that can be resolved, the rest is
kept, or refused, as it would be alone. -/
theorem resolve_append {flags : FlagSet} {first kept : Lines}
    (resolved : resolve (some flags) first = .ok kept) (rest : Lines) :
    (∀ others, resolve (some flags) rest = .ok others →
      resolve (some flags) (first ++ rest) = .ok (kept ++ others)) ∧
    ∀ error, resolve (some flags) rest = .error error →
      resolve (some flags) (first ++ rest) = .error error := by
  have joined : resolve (some flags) (first ++ rest) =
      (resolve (some flags) rest).map (kept ++ ·) := select_append resolved rest
  refine ⟨fun others further => ?_, fun error failed => ?_⟩
  · rw [joined, further]
    rfl
  · rw [joined, failed]
    rfl

/-- The end of the second document does not close a block of the first. -/
theorem resolve_append_surplus :
    resolve (some (FlagSet.ofPairs [("a".toList, true)]))
      ["!#if a".toList, "x".toList, "!#else".toList, "!#if (".toList, "!#endif".toList,
        "!#endif".toList, "y".toList] = .ok ["x".toList, "y".toList] ∧
    resolve (some (FlagSet.ofPairs [("a".toList, true)]))
      ["!#if a".toList, "x".toList, "!#else".toList, "!#if (".toList, "!#endif".toList,
        "!#endif".toList, "!#endif b".toList] = .error (.unexpectedEndIf "!#endif b".toList) := by
  have resolved : resolve (some (FlagSet.ofPairs [("a".toList, true)]))
      ["!#if a".toList, "x".toList, "!#else".toList, "!#if (".toList, "!#endif".toList,
        "!#endif".toList] = .ok ["x".toList] := by decide +kernel
  exact ⟨(resolve_append resolved ["y".toList]).1 ["y".toList] (by decide +kernel),
    (resolve_append resolved ["!#endif b".toList]).2 _ (by decide +kernel)⟩

/-- Neither the `else` nor the end of a surrounding block can be found inside lines whose
conditions can be resolved. -/
theorem passes_of_select {lines kept : Lines} {kind : Kind}
    (selected : select flags lines = .ok kept) (sought : kind = .elseKind ∨ kind = .endIfKind) :
    Block.PassesFrom 0 kind lines := by
  induction lines using select_induction flags generalizing kept with
  | nil => exact Block.passes_nil
  | content line rest isContent ih =>
    obtain ⟨others, further, -⟩ := select_content_ok isContent selected
    exact Block.passes_append (Block.passes_content isContent sought) (ih further)
  | block line condition rest opens ih =>
    obtain ⟨body, closing, behind, chosen, inner, others, found, -, -, further, -⟩ :=
      select_block_ok opens selected
    exact Block.passes_closed (holds_of_kind? (congrArg kind? opens)) found
      ((ih body closing behind found).1 further)
  | stray line rest is => exact absurd selected (select_stray_ne_ok is)

/-! ### What goes wrong -/

theorem isOfCondition_of_branch {ifLine : Line} {condition : Text} {body : Lines}
    {error : CompileError} (failed : branch flags ifLine condition body = .error error) :
    error.isOfCondition = true := by
  obtain ⟨cause, -, rfl⟩ | ⟨first, elseLine, second, -, ⟨-, rfl⟩ | ⟨-, -, again, -, -, rfl⟩⟩ :=
    branch_error failed
  all_goals rfl

theorem isOfCondition_of_select {lines : Lines} {error : CompileError}
    (failed : select flags lines = .error error) : error.isOfCondition = true := by
  induction lines using select_induction flags generalizing error with
  | nil =>
    rw [select] at failed
    cases failed
  | content line rest isContent ih =>
    rw [select_content isContent] at failed
    exact ih (Except.map_eq_error.mp failed)
  | block line condition rest opens ih =>
    cases found : Block.cut? .endIfKind 0 rest with
    | none =>
      rw [select_ifThen opens, found] at failed
      cases failed
      rfl
    | some cut =>
      obtain ⟨body, closing, behind⟩ := cut
      obtain ⟨ihBehind, ihChosen⟩ := ih body closing behind found
      rcases select_block_error opens found failed with
        unchosen | ⟨chosen, choice, inside⟩ | further
      · exact isOfCondition_of_branch unchosen
      · exact ihChosen chosen choice inside
      · exact ihBehind further
  | stray line rest is =>
    rcases select_stray is rest with stopped | stopped
    · rw [stopped] at failed
      cases failed
      rfl
    · rw [stopped] at failed
      cases failed
      rfl

end Selection

end FilterPrep
