import FilterPrep.Proofs.Resolver
import FilterPrep.Proofs.Substitution

/-!
# Conditions and includes in either order

A document may have its conditions resolved before its includes, each included document on its
own, or all includes may be put in place first and the conditions of the whole be resolved then.
Both give the same lines up to patch notes (`compile_agrees`): no block of conditions
begins in one document and ends in another.
-/

namespace FilterPrep.Include

open Directive

variable {fetcher : Fetcher} {flags : Option FlagSet} {nested : Option Resolver}
  {chain : List Text} {origin : Option Text} {outermost : Bool} {lines : Lines}

/-! ### Line by line -/

/-- `part` stands in place of `line` once includes are resolved. -/
def Replaces (fetcher : Fetcher) (flags : Option FlagSet) (nested : Option Resolver)
    (chain : List Text) (origin : Option Text) (line : Line) (part : Lines) : Prop :=
  match includeTarget? line with
  | none => part = [line]
  | some target =>
    Location.checkTarget target origin = .ok () ∧
      (openDocument fetcher flags nested chain origin target
        (Location.resolve target origin)).result = .ok part

theorem replaces_content {line : Line} {part : Lines} (content : includeTarget? line = none) :
    Replaces fetcher flags nested chain origin line part ↔ part = [line] := by
  rw [Replaces, content]

theorem replaces_include {line : Line} {target : Text} {part : Lines}
    (names : includeTarget? line = some target) :
    Replaces fetcher flags nested chain origin line part ↔
      Location.checkTarget target origin = .ok () ∧
        (openDocument fetcher flags nested chain origin target
          (Location.resolve target origin)).result = .ok part := by
  rw [Replaces, names]

theorem Replaces.unique {line : Line} {first second : Lines}
    (isFirst : Replaces fetcher flags nested chain origin line first)
    (isSecond : Replaces fetcher flags nested chain origin line second) : first = second := by
  cases names : includeTarget? line with
  | none =>
    rw [replaces_content names] at isFirst isSecond
    exact isFirst.trans isSecond.symm
  | some target =>
    rw [replaces_include names] at isFirst isSecond
    exact Except.ok.inj (isFirst.2.symm.trans isSecond.2)

theorem splice_cons_ok_iff {passed rest out : Lines} {line : Line} :
    (splice (includeOne fetcher flags outermost nested chain origin) passed
        (line :: rest)).result = .ok out ↔
      ∃ part others, Replaces fetcher flags nested chain origin line part ∧
        (splice (includeOne fetcher flags outermost nested chain origin) (passed ++ [line])
          rest).result = .ok others ∧ out = part ++ others := by
  cases names : includeTarget? line with
  | none =>
    rw [splice_line_result_eq_ok names]
    simp only [replaces_content names, exists_and_left, exists_eq_left, List.singleton_append]
  | some target =>
    rw [splice_include_result_eq_ok names]
    simp only [replaces_include names, includeOne_result_eq_ok]

theorem splice_ok_iff_flatMap (passed lines out : Lines) :
    (splice (includeOne fetcher flags outermost nested chain origin) passed lines).result =
        .ok out ↔
      ∃ σ : Line → Lines,
        (∀ line ∈ lines, Replaces fetcher flags nested chain origin line (σ line)) ∧
          out = lines.flatMap σ := by
  induction lines generalizing passed out with
  | nil =>
    constructor
    · intro done
      exact ⟨fun line => [line], by simp, (Except.ok.inj done).symm⟩
    · rintro ⟨σ, -, rfl⟩
      rfl
  | cons line rest ih =>
    rw [splice_cons_ok_iff]
    simp only [ih]
    constructor
    · rintro ⟨part, _, replaces, ⟨σ, others, rfl⟩, rfl⟩
      -- equal lines are replaced by equal parts, so the update changes nothing behind the line
      have agrees : ∀ other ∈ rest, Function.update σ line part other = σ other := by
        intro other member
        by_cases same : other = line
        · subst same
          rw [Function.update_self]
          exact replaces.unique (others other member)
        · rw [Function.update_of_ne same]
      refine ⟨Function.update σ line part, List.forall_mem_cons.mpr ⟨?_, ?_⟩, ?_⟩
      · rwa [Function.update_self]
      · intro other member
        rw [agrees other member]
        exact others other member
      · rw [List.flatMap_cons, Function.update_self, List.flatMap_congr agrees]
    · rintro ⟨σ, replaces, rfl⟩
      obtain ⟨here, others⟩ := List.forall_mem_cons.mp replaces
      exact ⟨σ line, _, here, ⟨σ, others, rfl⟩, List.flatMap_cons⟩

/-! ### One step and the run -/

variable {only : FlagSet}

/-- What one resolver makes of a document agrees with what another makes of the lines selected from
it: the conditions of the first can still be resolved, with the same lines up to patch notes. -/
def Commutes (only : FlagSet) (unconditional conditional : Resolver) : Prop :=
  ∀ chain origin lines kept full, Selection.select only lines = .ok kept →
    (unconditional chain origin lines).result = .ok full →
      ∃ out flat, (conditional chain origin kept).result = .ok out ∧
        Selection.select only full = .ok flat ∧ withoutAnyNotes out = withoutAnyNotes flat

/-- The conditions of everything that the fetcher returns can be resolved. -/
def Selectable (only : FlagSet) (fetcher : Fetcher) : Prop :=
  ∀ request raw, fetcher request = .ok raw →
    ∃ kept, Selection.resolve (some only) (Lines.ofText raw) = .ok kept

theorem replaces_commutes {below deeper : Option Resolver}
    (selectable : Selectable only fetcher)
    (commutes : ∀ first ∈ below, ∃ second ∈ deeper, Commutes only first second)
    {line : Line} {part : Lines} (isContent : IsContent line)
    (replaces : Replaces fetcher none below chain origin line part) :
    ∃ own flat, Replaces fetcher (some only) deeper chain origin line own ∧
      Selection.select only part = .ok flat ∧ withoutAnyNotes own = withoutAnyNotes flat := by
  cases names : includeTarget? line with
  | none =>
    obtain rfl := (replaces_content names).mp replaces
    refine ⟨[line], [line], (replaces_content names).mpr rfl, ?_, rfl⟩
    exact Selection.select_of_isContent (by simpa using isContent)
  | some target =>
    obtain ⟨accepted, opened⟩ := (replaces_include names).mp replaces
    cases below with
    | none => exact absurd opened (openDocument_none_result part)
    | some first =>
      obtain ⟨second, rfl, agree⟩ := commutes first rfl
      obtain ⟨fresh, raw, _, included, fetched, unselected, resolved, rfl⟩ :=
        openDocument_result_eq_ok.mp opened
      cases unselected
      obtain ⟨kept, selected⟩ := selectable _ _ fetched
      obtain ⟨out, flat, own, flattened, same⟩ := agree _ _ _ _ _ selected resolved
      obtain ⟨trimmed, erased, notes⟩ := select_eraseNearTop patchNoteLimit flattened
      refine ⟨Lines.eraseNearTop isPatchNote patchNoteLimit out, trimmed, ?_, erased, ?_⟩
      · rw [replaces_include names, openDocument_result_eq_ok]
        exact ⟨accepted, fresh, raw, kept, out, fetched, selected, own, rfl⟩
      · rw [withoutAnyNotes_eraseNearTop, same, notes]

theorem resolveWith_commutes {below deeper : Option Resolver} (selectable : Selectable only fetcher)
    (commutes : ∀ first ∈ below, ∃ second ∈ deeper, Commutes only first second) :
    Commutes only (resolveWith fetcher none outermost below)
      (resolveWith fetcher (some only) outermost deeper) := by
  intro chain origin lines kept full selected resolved
  rw [resolveWith_eq, splice_ok_iff_flatMap] at resolved
  obtain ⟨σ, replaces, rfl⟩ := resolved
  -- lines of branches that are not taken have been replaced too, so not only those kept count
  have each : ∀ line ∈ lines, IsContent line → ∃ own flat,
      Replaces fetcher (some only) deeper chain origin line own ∧
        Selection.select only (σ line) = .ok flat ∧ withoutAnyNotes own = withoutAnyNotes flat :=
    fun line member isContent =>
      replaces_commutes selectable commutes isContent (replaces line member)
  choose! own flat replacesOwn selects same using each
  have substitutes : Selection.Substitutes only σ flat lines := by
    constructor
    · intro line member directive
      have named : includeTarget? line = none :=
        includeTarget?_eq_none_iff.mpr fun included => directive (.inr included)
      exact (replaces_content named).mp (replaces line member)
    · exact selects
  have inLines : ∀ line ∈ kept, line ∈ lines ∧ IsContent line := fun line member =>
    ⟨Selection.subset_select selected member, Selection.isContent_of_select selected line member⟩
  refine ⟨kept.flatMap own, kept.flatMap flat, ?_, ?_, ?_⟩
  · rw [resolveWith_eq, splice_ok_iff_flatMap]
    exact ⟨own, fun line member => replacesOwn line (inLines line member).1 (inLines line member).2,
      rfl⟩
  · rw [Selection.select_flatMap substitutes, selected]
    rfl
  · rw [withoutAnyNotes_flatMap, withoutAnyNotes_flatMap]
    exact List.flatMap_congr fun line member =>
      same line (inLines line member).1 (inLines line member).2

theorem resolveWithin_commutes (selectable : Selectable only fetcher) (outermost : Bool)
    (room : Nat) :
    Commutes only (resolveWithin fetcher none outermost room)
      (resolveWithin fetcher (some only) outermost room) := by
  induction room generalizing outermost with
  | zero =>
    apply resolveWith_commutes selectable
    intro first absent
    exact absurd absent (Option.not_mem_none first)
  | succ room ih =>
    apply resolveWith_commutes selectable
    intro first same
    obtain rfl := Option.some.inj same
    exact ⟨_, rfl, ih false⟩

/-- Putting all includes in place first and then resolving conditions gives the same lines as
compiling, up to patch notes. -/
theorem compile_agrees (fetcher : Fetcher) (only : FlagSet) (origin : Option Text)
    (lines full : Lines)
    (selects : ∃ kept, Selection.resolve (some only) lines = .ok kept)
    (selectable : Selectable only fetcher)
    (spliced : (resolve fetcher none origin lines).result = .ok full) :
    ∃ out flat, (compile fetcher (some only) origin lines).result = .ok out ∧
      Selection.resolve (some only) full = .ok flat ∧
      withoutAnyNotes out = withoutAnyNotes flat := by
  obtain ⟨kept, selected⟩ := selects
  obtain ⟨out, flat, resolved, flattened, same⟩ :=
    resolveWithin_commutes selectable true maxDepth [] origin lines kept full selected spliced
  refine ⟨out, flat, ?_, flattened, same⟩
  unfold compile
  exact Traced.bind_result_eq_ok.mpr ⟨kept, selected, resolved⟩

/-- An include stands in a block, and the included document has a patch note and a block with an
include of its own. -/
theorem compile_agrees_nested :
    (resolve (fun request => if request = .onDisk "a".toList none then
        .ok "! Diff-Path: p\n!#if x\n!#include b\n!#else\ny\n!#endif".toList
        else .ok "z".toList)
      none none ["!#if x".toList, "!#include a".toList, "!#endif".toList, "q".toList]).result =
      .ok ["!#if x".toList, "!#if x".toList, "z".toList, "!#else".toList, "y".toList,
        "!#endif".toList, "!#endif".toList, "q".toList] ∧
    ∃ out flat,
      (compile (fun request => if request = .onDisk "a".toList none then
          .ok "! Diff-Path: p\n!#if x\n!#include b\n!#else\ny\n!#endif".toList
          else .ok "z".toList)
        (some (FlagSet.ofPairs [("x".toList, true)])) none
        ["!#if x".toList, "!#include a".toList, "!#endif".toList, "q".toList]).result = .ok out ∧
      Selection.resolve (some (FlagSet.ofPairs [("x".toList, true)]))
        ["!#if x".toList, "!#if x".toList, "z".toList, "!#else".toList, "y".toList,
          "!#endif".toList, "!#endif".toList, "q".toList] = .ok flat ∧
      withoutAnyNotes out = withoutAnyNotes flat := by
  refine ⟨by decide +kernel, compile_agrees _ _ _ _ _ ?_ ?_ (by decide +kernel)⟩
  · exact ⟨["!#include a".toList, "q".toList], by decide +kernel⟩
  · intro request raw answer
    by_cases outer : request = .onDisk "a".toList none
    · obtain rfl := Except.ok.inj ((if_pos outer).symm.trans answer)
      exact ⟨["! Diff-Path: p".toList, "!#include b".toList], by decide +kernel⟩
    · obtain rfl := Except.ok.inj ((if_neg outer).symm.trans answer)
      exact ⟨["z".toList], by decide +kernel⟩

end FilterPrep.Include
