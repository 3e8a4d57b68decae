import FilterPrep.Proofs.Selection

/-!
# Balanced documents

A document is balanced when, read in order, it never closes more blocks than it has opened and in
the end has closed them all. Under every flag set a document that is not balanced is refused, and a
balanced one is never refused for the end of a block (`resolve_respects_balance`). What is kept of
an accepted document is a part of it in which nothing is left to be resolved, with all of the
content outside its blocks (`resolve_selects`).
-/

namespace FilterPrep

open Directive

namespace Block

def count (kind : Kind) (lines : Lines) : Nat := lines.countP kind.holds

/-- Read in order, the lines never close more blocks than they have opened, and in the end they
have closed as many. -/
def Balanced (lines : Lines) : Prop :=
  (∀ front ∈ lines.inits, count .endIfKind front ≤ count .ifKind front) ∧
    count .endIfKind lines = count .ifKind lines

instance (lines : Lines) : Decidable (Balanced lines) := inferInstanceAs (Decidable (_ ∧ _))

variable {depth : Nat} {lines : Lines}

@[simp] theorem count_nil (kind : Kind) : count kind [] = 0 := rfl

@[simp] theorem count_cons (kind : Kind) (line : Line) (rest : Lines) :
    count kind (line :: rest) = count kind rest + (kind.holds line).toNat := by
  cases holds : kind.holds line <;> simp [count, holds]

theorem depthBehind_add_toNat {line : Line}
    (inside : Kind.endIfKind.holds line = true → 0 < depth) :
    depthBehind depth line + (Kind.endIfKind.holds line).toNat =
      depth + (Kind.ifKind.holds line).toNat := by
  cases opens : Kind.ifKind.holds line with
  | true =>
    have notEnd := Kind.holds_other opens (show Kind.endIfKind ≠ .ifKind by decide)
    simp [depthBehind_ifKind opens, notEnd]
  | false =>
    cases closes : Kind.endIfKind.holds line with
    | true =>
      have positive := inside closes
      rw [depthBehind_endIfKind closes, Bool.toNat_true, Bool.toNat_false]
      omega
    | false => simp [depthBehind, opens, closes]

theorem noSurplus_iff_count :
    NoSurplus depth lines ↔
      ∀ front ∈ lines.inits, count .endIfKind front ≤ depth + count .ifKind front := by
  induction lines generalizing depth with
  | nil => simp [NoSurplus]
  | cons line rest ih =>
    simp only [NoSurplus, ih, List.inits_cons, List.forall_mem_cons, List.forall_mem_map,
      count_cons]
    constructor
    · rintro ⟨inside, below⟩
      have moved := depthBehind_add_toNat inside
      refine ⟨Nat.zero_le _, fun front member => ?_⟩
      have bound := below front member
      omega
    · rintro ⟨-, below⟩
      -- the front that is this line alone must not close more than is open
      have inside : Kind.endIfKind.holds line = true → 0 < depth := by
        intro closes
        have notOpen := Kind.holds_other closes (show Kind.ifKind ≠ .endIfKind by decide)
        have first := below [] (by simp)
        simp only [count_nil, closes, notOpen, Bool.toNat_true, Bool.toNat_false] at first
        omega
      have moved := depthBehind_add_toNat inside
      refine ⟨inside, fun front member => ?_⟩
      have bound := below front member
      omega

/-- The depth that a search keeps is the number of blocks opened less that of blocks closed. -/
theorem closes_iff_count :
    Closes depth lines ↔
      NoSurplus depth lines ∧ count .endIfKind lines = depth + count .ifKind lines := by
  induction lines generalizing depth with
  | nil => simp [Closes, NoSurplus, eq_comm]
  | cons line rest ih =>
    rw [Closes, ih, NoSurplus, count_cons, count_cons, and_assoc]
    refine and_congr_right fun inside => and_congr_right fun _ => ?_
    have moved := depthBehind_add_toNat inside
    omega

theorem balanced_iff_closes : Balanced lines ↔ Closes 0 lines := by
  simp [Balanced, closes_iff_count, noSurplus_iff_count]

theorem balanced_front {front rest : Lines} (balanced : Balanced (front ++ rest))
    (level : count .endIfKind front = count .ifKind front) : Balanced front := by
  refine ⟨fun part member => balanced.1 part ?_, level⟩
  rw [List.mem_inits] at member ⊢
  exact member.trans (List.prefix_append front rest)

end Block

/-- The errors about a block without an end or an end without a block. -/
def CompileError.isOfNesting : CompileError → Bool
  | missingEndIf _ => true
  | unexpectedEndIf _ => true
  | _ => false

namespace Selection

open Block

variable {flags : FlagSet}

theorem not_isOfNesting_of_branch {ifLine : Line} {condition : Text} {body : Lines}
    {error : CompileError} (failed : branch flags ifLine condition body = .error error) :
    error.isOfNesting = false := by
  obtain ⟨cause, -, rfl⟩ | ⟨first, elseLine, second, -, ⟨-, rfl⟩ | ⟨-, -, again, -, -, rfl⟩⟩ :=
    branch_error failed
  all_goals rfl

theorem not_isOfNesting_of_closes {lines : Lines} {error : CompileError} (closes : Closes 0 lines)
    (failed : select flags lines = .error error) : error.isOfNesting = false := by
  -- every part that is selected in turn, the branch taken and what follows the block, closes its
  -- blocks again
  induction lines using select_induction flags generalizing error with
  | nil =>
    rw [select] at failed
    cases failed
  | content line rest isContent ih =>
    rw [select_content isContent] at failed
    exact ih ((closes_cons_content isContent rest).mp closes) (Except.map_eq_error.mp failed)
  | block line condition rest opens ih =>
    obtain ⟨body, closing, behind, found, closesBody, closesBehind⟩ :=
      exists_block_of_closes (holds_of_kind? (congrArg kind? opens)) closes
    obtain ⟨ihBehind, ihChosen⟩ := ih body closing behind found
    rcases select_block_error opens found failed with unchosen | ⟨chosen, choice, inside⟩ | further
    · exact not_isOfNesting_of_branch unchosen
    · exact ihChosen chosen choice (closes_of_branch closesBody choice) inside
    · exact ihBehind closesBehind further
  | stray line rest is =>
    rcases is with ⟨suffix, is⟩ | is
    · rw [select, is] at failed
      cases failed
      rfl
    · exact absurd closes (not_closes_endIfKind (holds_of_kind? (congrArg kind? is)) rest)

/-- Under every flag set, a document that is not balanced is refused, and a balanced one is never
refused for the end of a block. -/
theorem resolve_respects_balance (flags : FlagSet) (lines : Lines) :
    (¬Balanced lines → ∃ error, resolve (some flags) lines = .error error) ∧
      (Balanced lines → ∀ line,
        resolve (some flags) lines ≠ .error (.missingEndIf line) ∧
          resolve (some flags) lines ≠ .error (.unexpectedEndIf line)) := by
  refine ⟨fun unbalanced => ?_, fun balanced line => ?_⟩
  · cases resolved : resolve (some flags) lines with
    | error error => exact ⟨error, rfl⟩
    | ok kept =>
      have closes : Closes 0 lines := closes_of_select resolved
      exact absurd (balanced_iff_closes.mpr closes) unbalanced
  · have closes := balanced_iff_closes.mp balanced
    refine ⟨fun failed => ?_, fun failed => ?_⟩
    · exact nomatch not_isOfNesting_of_closes closes failed
    · exact nomatch not_isOfNesting_of_closes closes failed

/-- A surplus end behind a block that is not taken is refused, and what cannot be read in a closed
block is no missing end. -/
theorem resolve_respects_balance_untaken :
    (∃ error, resolve (some (FlagSet.ofPairs []))
      ["!#if a".toList, "!#if b".toList, "!#endif".toList, "!#endif".toList, "!#endif".toList] =
        .error error) ∧
    ∀ line, resolve (some (FlagSet.ofPairs []))
      ["!#if a".toList, "!#if (".toList, "!#endif".toList, "!#else x".toList, "!#endif".toList] ≠
        .error (.missingEndIf line) :=
  ⟨(resolve_respects_balance _ _).1 (by decide), fun line =>
    ((resolve_respects_balance _ _).2 (by decide) line).1⟩

/-! ### What is kept -/

/-- Content outside all blocks divides what is kept as it divides the document. -/
theorem select_around {front behind out : Lines} {line : Line}
    (selected : select flags (front ++ line :: behind) = .ok out)
    (level : count .endIfKind front = count .ifKind front) (isContent : IsContent line) :
    ∃ kept others, select flags front = .ok kept ∧ select flags behind = .ok others ∧
      out = kept ++ line :: others := by
  have whole := balanced_iff_closes.mpr (closes_of_select selected)
  have inFront := balanced_iff_closes.mp (balanced_front whole level)
  rw [select_append_of_closes inFront] at selected
  obtain ⟨kept, before, selected⟩ := Except.bind_eq_ok.mp selected
  obtain ⟨rest, further, selected⟩ := Except.bind_eq_ok.mp selected
  obtain ⟨others, after, rfl⟩ := select_content_ok isContent further
  exact ⟨kept, others, before, after, (Except.ok.inj selected).symm⟩

/-- What is kept is a part of the document, in its order, and it is final: it holds content only,
all of the content outside the blocks, and every flag set leaves it as it is. -/
theorem resolve_selects {flags : FlagSet} {lines out : Lines}
    (resolved : resolve (some flags) lines = .ok out) :
    out.Sublist lines ∧
    (∀ line ∈ out, IsContent line) ∧
    (∀ front line behind, lines = front ++ line :: behind →
      count .endIfKind front = count .ifKind front → IsContent line →
      ∃ kept others, resolve (some flags) front = .ok kept ∧
        resolve (some flags) behind = .ok others ∧ out = kept ++ line :: others) ∧
    ∀ other, resolve (some other) out = .ok out := by
  have content := isContent_of_select resolved
  refine ⟨sublist_select resolved, content, ?_, fun other => select_of_isContent content⟩
  rintro front line behind rfl level isContent
  exact select_around resolved level isContent

theorem resolve_selects_around :
    ["x".toList, "y".toList, "!#include z".toList].Sublist
      ["x".toList, "!#if a".toList, "y".toList, "!#else".toList, "!#if (".toList, "!#endif".toList,
        "!#endif".toList, "!#include z".toList] ∧
    (∃ kept others,
      resolve (some (FlagSet.ofPairs [("a".toList, true)]))
        ["x".toList, "!#if a".toList, "y".toList, "!#else".toList, "!#if (".toList,
          "!#endif".toList, "!#endif".toList] = .ok kept ∧
      resolve (some (FlagSet.ofPairs [("a".toList, true)])) [] = .ok others ∧
      ["x".toList, "y".toList, "!#include z".toList] = kept ++ "!#include z".toList :: others) ∧
    resolve (some (FlagSet.ofPairs [])) ["x".toList, "y".toList, "!#include z".toList] =
      .ok ["x".toList, "y".toList, "!#include z".toList] := by
  have resolved : resolve (some (FlagSet.ofPairs [("a".toList, true)]))
      ["x".toList, "!#if a".toList, "y".toList, "!#else".toList, "!#if (".toList, "!#endif".toList,
        "!#endif".toList, "!#include z".toList] =
      .ok ["x".toList, "y".toList, "!#include z".toList] := by decide +kernel
  obtain ⟨part, -, around, final⟩ := resolve_selects resolved
  exact ⟨part, around _ "!#include z".toList [] rfl (by decide) (.inr rfl), final _⟩

end Selection

end FilterPrep
