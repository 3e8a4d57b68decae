import FilterPrep.Include
import FilterPrep.Proofs.Selection

/-!
# Replacing lines under conditions

Resolving the conditions of a document commutes with replacing its content lines by other
documents, as long as the conditions of each of these can be resolved on their own. Deleting patch
notes is the case in which a line is replaced by nothing.
-/

namespace FilterPrep

open Directive

theorem Block.cut?_flatMap {kind : Kind} {σ : Line → Lines} {lines : Lines}
    (sought : kind = .elseKind ∨ kind = .endIfKind)
    (directive : ∀ line ∈ lines, ¬IsContent line → σ line = [line])
    (content : ∀ line ∈ lines, IsContent line → PassesFrom 0 kind (σ line)) (depth : Nat) :
    cut? kind depth (lines.flatMap σ) =
      (cut? kind depth lines).map fun (before, line, behind) =>
        (before.flatMap σ, line, behind.flatMap σ) := by
  induction lines generalizing depth with
  | nil => rfl
  | cons line rest ih =>
    have further := ih (fun line member => directive line (List.mem_cons_of_mem _ member))
      (fun line member => content line (List.mem_cons_of_mem _ member))
    rw [List.flatMap_cons]
    by_cases isContent : IsContent line
    · have alone := passes_content isContent sought depth rest (Nat.zero_le depth)
      rw [List.singleton_append] at alone
      rw [content line List.mem_cons_self isContent depth _ (Nat.zero_le depth), further, alone,
        Option.map_map, Option.map_map]
      rfl
    · have kept := directive line List.mem_cons_self isContent
      rw [kept, List.singleton_append, cut?_cons, cut?_cons, further]
      split
      · rfl
      · rw [Option.map_map, Option.map_map]
        congr 1
        funext found
        simp [shift, kept]

namespace Selection

variable {flags : FlagSet} {σ τ : Line → Lines} {lines : Lines}

/-- Each content line stands for the lines `σ` gives it, of which `flags` leave those that `τ`
gives; a condition directive stands for itself. -/
structure Substitutes (flags : FlagSet) (σ τ : Line → Lines) (lines : Lines) : Prop where
  directive : ∀ line ∈ lines, ¬IsContent line → σ line = [line]
  content : ∀ line ∈ lines, IsContent line → select flags (σ line) = .ok (τ line)

namespace Substitutes

theorem mono {fewer : Lines} (substitutes : Substitutes flags σ τ lines) (subset : fewer ⊆ lines) :
    Substitutes flags σ τ fewer :=
  ⟨fun line member => substitutes.directive line (subset member),
    fun line member => substitutes.content line (subset member)⟩

theorem cut? {kind : Kind} (substitutes : Substitutes flags σ τ lines)
    (sought : kind = .elseKind ∨ kind = .endIfKind) :
    Block.cut? kind 0 (lines.flatMap σ) =
      (Block.cut? kind 0 lines).map fun (before, line, behind) =>
        (before.flatMap σ, line, behind.flatMap σ) := by
  apply Block.cut?_flatMap sought substitutes.directive
  intro line member isContent
  exact passes_of_select (substitutes.content line member isContent) sought

theorem branch {ifLine : Line} {condition : Text} (substitutes : Substitutes flags σ τ lines) :
    branch flags ifLine condition (lines.flatMap σ) =
      (branch flags ifLine condition lines).map (·.flatMap σ) := by
  unfold Selection.branch
  cases Condition.Expr.ofText condition with
  | error cause => rfl
  | ok tree =>
    dsimp only
    rw [substitutes.cut? (.inl rfl)]
    cases found : Block.cut? .elseKind 0 lines with
    | none =>
      dsimp only [Option.map]
      cases tree.eval flags <;> rfl
    | some cut =>
      obtain ⟨first, elseLine, second⟩ := cut
      have behind : second ⊆ lines := by
        rw [Block.append_of_cut? found]
        simp
      dsimp only [Option.map]
      rw [(substitutes.mono behind).cut? (.inl rfl)]
      split
      · rfl
      · cases Block.cut? .elseKind 0 second with
        | some again => rfl
        | none => cases tree.eval flags <;> rfl

end Substitutes

theorem select_flatMap (substitutes : Substitutes flags σ τ lines) :
    select flags (lines.flatMap σ) = (select flags lines).map (·.flatMap τ) := by
  induction lines using select_induction flags with
  | nil =>
    rw [List.flatMap_nil, select]
    rfl
  | content line rest isContent ih =>
    have further := ih (substitutes.mono (List.subset_cons_self _ _))
    have replaced := substitutes.content line List.mem_cons_self isContent
    rw [List.flatMap_cons, select_append replaced, further, select_content isContent]
    cases select flags rest <;> rfl
  | block line condition rest opens ih =>
    have isIf : (ofLine line).kind? = some .ifKind := by rw [opens]; rfl
    have itself : σ line = [line] :=
      substitutes.directive line List.mem_cons_self (not_isContent isIf (by decide))
    have below := substitutes.mono (List.subset_cons_self line rest)
    have closed := below.cut? (.inr rfl)
    rw [List.flatMap_cons, itself, List.singleton_append]
    cases found : Block.cut? .endIfKind 0 rest with
    | none =>
      rw [found] at closed
      rw [select_ifThen opens, select_ifThen opens, closed, found]
      rfl
    | some cut =>
      obtain ⟨body, closing, behind⟩ := cut
      have whole := Block.append_of_cut? found
      have inBody : Substitutes flags σ τ body := below.mono (by rw [whole]; simp)
      have inBehind : Substitutes flags σ τ behind := below.mono (by rw [whole]; simp)
      obtain ⟨ihBehind, ihChosen⟩ := ih body closing behind found
      rw [found] at closed
      rw [select_closed opens closed, select_closed opens found, inBody.branch, ihBehind inBehind]
      cases choice : Selection.branch flags line condition body with
      | error error => rfl
      | ok chosen =>
        have inChosen := inBody.mono (subset_branch choice)
        rw [Except.map, Except.ok_bind, Except.ok_bind, ihChosen chosen choice inChosen]
        cases select flags chosen with
        | error error => rfl
        | ok kept =>
          cases select flags behind with
          | error error => rfl
          | ok others => exact congrArg Except.ok List.flatMap_append.symm
  | stray line rest is =>
    rw [List.flatMap_cons]
    rcases is with ⟨suffix, is⟩ | is
    · have isElse : (ofLine line).kind? = some .elseKind := by rw [is]; rfl
      rw [substitutes.directive line List.mem_cons_self (not_isContent isElse (by decide)),
        List.singleton_append, select, select, is]
      rfl
    · have isEndIf : (ofLine line).kind? = some .endIfKind := by rw [is]; rfl
      rw [substitutes.directive line List.mem_cons_self (not_isContent isEndIf (by decide)),
        List.singleton_append, select, select, is]
      rfl

end Selection

/-! ### Patch notes -/

namespace Include

/-- The lines without any patch notes. -/
def withoutAnyNotes (lines : Lines) : Lines := lines.filter fun line => !isPatchNote line

theorem withoutAnyNotes_flatMap (σ : Line → Lines) (lines : Lines) :
    withoutAnyNotes (lines.flatMap σ) = lines.flatMap fun line => withoutAnyNotes (σ line) :=
  List.filter_flatMap

theorem withoutAnyNotes_eq_flatMap (lines : Lines) :
    withoutAnyNotes lines = lines.flatMap fun line => withoutAnyNotes [line] := by
  rw [← withoutAnyNotes_flatMap, List.flatMap_singleton']

theorem withoutAnyNotes_eraseNearTop (limit : Nat) (lines : Lines) :
    withoutAnyNotes (Lines.eraseNearTop isPatchNote limit lines) = withoutAnyNotes lines := by
  induction lines generalizing limit with
  | nil => cases limit <;> rfl
  | cons line rest ih =>
    cases limit with
    | zero => rfl
    | succ limit =>
      have further := ih limit
      unfold withoutAnyNotes at further
      rw [Lines.eraseNearTop]
      by_cases note : isPatchNote line = true
      · rw [if_pos note]
        simp [withoutAnyNotes, note, further]
      · rw [if_neg note]
        simp [withoutAnyNotes, note, further]

/-- No directive is a patch note: of both, trimming keeps what stands behind the `!`. -/
theorem isContent_of_isPatchNote {line : Line} (note : isPatchNote line = true) :
    IsContent line := by
  cases found : Kind.ofLine? line with
  | none => exact .inl found
  | some kind =>
    obtain ⟨rest, rfl⟩ := Kind.holds_iff.mp (Kind.ofLine?_eq_some_iff.mp found)
    obtain ⟨tail, whole⟩ : ∃ tail, kind.keyword ++ rest = '!' :: '#' :: tail := by
      cases kind <;> exact ⟨_, rfl⟩
    have first : Text.isSpace '!' = false := by decide
    have second : Text.isSpace '#' = false := by decide
    have trimmed : Text.trim (kind.keyword ++ rest) =
        '!' :: '#' :: Text.trimEndBy Text.isSpace tail := by
      rw [whole, Text.trim, Text.trimBy, List.dropWhile_cons_of_neg (by simp [first])]
      exact Text.trimEndBy_append_cons second ['!'] tail
    rw [isPatchNote, trimmed] at note
    exact absurd note Bool.false_ne_true

theorem select_withoutAnyNotes (flags : FlagSet) (lines : Lines) :
    Selection.select flags (withoutAnyNotes lines) =
      (Selection.select flags lines).map withoutAnyNotes := by
  have substitutes : Selection.Substitutes flags (fun line => withoutAnyNotes [line])
      (fun line => withoutAnyNotes [line]) lines := by
    constructor
    · intro line _ directive
      have plain : isPatchNote line = false :=
        Bool.eq_false_iff.mpr fun note => directive (isContent_of_isPatchNote note)
      simp [withoutAnyNotes, plain]
    · intro line _ isContent
      apply Selection.select_of_isContent
      intro other member
      obtain rfl := List.mem_singleton.mp (List.mem_of_mem_filter member)
      exact isContent
  have commuted := Selection.select_flatMap substitutes
  simp only [← withoutAnyNotes_eq_flatMap] at commuted
  exact commuted

/-- Deleting some of the patch notes changes nothing but patch notes in what is selected. -/
theorem select_eraseNearTop {flags : FlagSet} {lines kept : Lines} (limit : Nat)
    (selected : Selection.select flags lines = .ok kept) :
    ∃ others, Selection.select flags (Lines.eraseNearTop isPatchNote limit lines) = .ok others ∧
      withoutAnyNotes others = withoutAnyNotes kept := by
  have bare := select_withoutAnyNotes flags lines
  rw [selected, ← withoutAnyNotes_eraseNearTop limit, select_withoutAnyNotes] at bare
  exact Except.map_eq_ok.mp bare

end Include

end FilterPrep
