import FilterPrep.Command.Run
import FilterPrep.Proofs.Course
import FilterPrep.Proofs.Final
import FilterPrep.Proofs.Splitting

/-!
# Downloads and updates

A list is refused as empty for the lines it comes to or, where its text is kept, for that text
already. An empty text has a single empty line, which resolving leaves alone, so the two agree but
for lists that come to nothing (`download_agrees`). An update over a patch agrees with the full
download of what the patch gives (`update_agrees`).
-/

namespace FilterPrep

/-- Two runs of a command that ask for the same and, if both succeed, print the same. -/
structure Command.Effect.PrintsAlike (first second : Effect) : Prop where
  requests : first.requests = second.requests
  stdout : ∀ written other, (first.report written).exit = 0 → (second.report other).exit = 0 →
    (first.report written).stdout = (second.report other).stdout

namespace Download

open Include Directive

variable {fetcher : Fetcher} {patcher : Patcher} {flags : Option FlagSet} {options : Options}
  {force verbose : Bool} {saved : Option Text} {address base raw : Text}

/-! ### The ways of an update -/

theorem update_forced (verbose : Bool) (saved : Option Text) :
    update fetcher patcher flags options true verbose saved address =
      ⟨none, fresh fetcher flags options address⟩ := by
  unfold update
  split <;> rfl

theorem update_saved (nonempty : base ≠ []) :
    update fetcher patcher flags options false verbose (some base) address =
      ⟨some ⟨address, base, verbose⟩,
        afterPatch fetcher flags options address base (patcher ⟨address, base, verbose⟩)⟩ := by
  cases base with
  | nil => exact absurd rfl nonempty
  | cons c rest => rfl

/-- A patch is asked for exactly if there is a text to be patched and no full download is forced. -/
theorem update_cases (fetcher : Fetcher) (patcher : Patcher) (flags : Option FlagSet)
    (options : Options) (force verbose : Bool) (saved : Option Text) (address : Text) :
    ((∀ base, force = false → saved = some base → base = []) ∧
      update fetcher patcher flags options force verbose saved address =
        ⟨none, fresh fetcher flags options address⟩) ∨
    ∃ base, force = false ∧ saved = some base ∧ base ≠ [] ∧
      update fetcher patcher flags options force verbose saved address =
        ⟨some ⟨address, base, verbose⟩,
          afterPatch fetcher flags options address base (patcher ⟨address, base, verbose⟩)⟩ := by
  cases force with
  | true => exact .inl ⟨nofun, update_forced verbose saved⟩
  | false =>
    cases saved with
    | none => exact .inl ⟨nofun, rfl⟩
    | some base =>
      by_cases empty : base = []
      · subst empty
        refine .inl ⟨?_, rfl⟩
        rintro base - ⟨⟩
        rfl
      · exact .inr ⟨base, rfl, rfl, empty, update_saved empty⟩

theorem run_of_no_patch
    (unpatched : ∀ request,
      (update fetcher patcher flags options force verbose saved address).asked = some request →
        patcher request = .ok none) :
    (update fetcher patcher flags options force verbose saved address).run =
      fresh fetcher flags options address := by
  rcases update_cases fetcher patcher flags options force verbose saved address with
    ⟨-, anew⟩ | ⟨base, -, -, -, asks⟩
  · rw [anew]
  · rw [asks] at unpatched ⊢
    dsimp only
    rw [unpatched _ rfl]
    rfl

/-! ### Full downloads -/

theorem resolveList_of_plain {lines : Lines} (plain : ∀ line ∈ lines, Kind.ofLine? line = none) :
    resolveList fetcher flags address lines = pure lines :=
  resolution_of_plain plain _ _

theorem download_eq_fresh (fetcher : Fetcher) (flags : Option FlagSet) (options : Options)
    (address : Text) :
    download fetcher flags options address = do
      let updated ← fresh fetcher flags options address
      if !options.allowEmpty && updated.lines.isBlank then .fail .emptyResponse
      else return updated.lines := by
  unfold download fresh
  rw [bind_assoc]
  refine bind_congr fun raw => ?_
  dsimp only
  by_cases empty : (!options.allowEmpty && (Lines.ofText raw).isBlank) = true
  · -- refused here before and there behind the resolution, which has nothing to ask for
    have blank := (Lines.isBlank_ofText_iff raw).mp (Bool.and_eq_true_iff.mp empty).2
    have plain : ∀ line ∈ ([[]] : Lines), Kind.ofLine? line = none := by decide
    rw [if_pos empty, blank, resolveList_of_plain plain, pure_bind, ← blank, if_pos empty]
    rfl
  · rw [if_neg empty, bind_assoc]
    rfl

theorem download_requests :
    (download fetcher flags options address).requests =
      (fresh fetcher flags options address).requests := by
  rw [download_eq_fresh]
  generalize fresh fetcher flags options address = full
  obtain ⟨error | updated, requests⟩ := full
  · rfl
  · rw [Traced.ok_bind]
    split <;> exact List.append_nil requests

theorem download_of_error {error : CompileError}
    (failed : (fresh fetcher flags options address).result = .error error) :
    (download fetcher flags options address).result = .error error := by
  rw [download_eq_fresh]
  exact Traced.bind_result_eq_error.mpr (.inl failed)

theorem download_of_ok {updated : Updated}
    (succeeds : (fresh fetcher flags options address).result = .ok updated) :
    (download fetcher flags options address).result =
      if options.allowEmpty = false ∧ updated.lines.isBlank = true then .error .emptyResponse
      else .ok updated.lines := by
  rw [download_eq_fresh]
  generalize fresh fetcher flags options address = full at succeeds
  obtain ⟨result, requests⟩ := full
  subst succeeds
  rw [Traced.ok_bind]
  by_cases empty : options.allowEmpty = false ∧ updated.lines.isBlank = true
  · rw [if_pos empty, if_pos (by simpa using empty)]
    rfl
  · rw [if_neg empty, if_neg (by simpa using empty)]
    rfl

theorem effect_agrees (options : Command.Compile) (environment : Option (List UInt8))
    (fetcher : Fetcher) (path : Text) :
    ({ options with rawOutput := some path }.effect environment fetcher).PrintsAlike
      ({ options with rawOutput := none }.effect environment fetcher) := by
  unfold Command.Compile.effect
  cases Environment.flagsWith environment options.defines with
  | error error => exact ⟨rfl, fun _ _ failed => nomatch failed⟩
  | ok flags =>
    dsimp only
    generalize Download.Options.mk _ _ _ = checks
    have requests := @download_requests fetcher (some flags) checks options.source
    cases full : (fresh fetcher (some flags) checks options.source).result with
    | error error =>
      rw [download_of_error full]
      exact ⟨requests.symm, fun _ _ failed => nomatch failed⟩
    | ok updated =>
      rw [download_of_ok full]
      by_cases empty : checks.allowEmpty = false ∧ updated.lines.isBlank = true
      · rw [if_pos empty]
        exact ⟨requests.symm, fun _ _ _ failed => nomatch failed⟩
      · rw [if_neg empty]
        refine ⟨requests.symm, fun written _ saves _ => ?_⟩
        cases written with
        | ok _ => rfl
        | error error => cases saves

/-- A download asks for what a forced update asks for, and gives its error or its lines, unless
these are blank and no empty list is allowed. Without patches every update is a forced one. And
whether the program writes the text of a list to a file shows in none of the lines it prints. -/
theorem download_agrees (fetcher : Fetcher) :
    (∀ patcher flags options verbose saved address,
      (download fetcher flags options address).requests =
        (update fetcher patcher flags options true verbose saved address).run.requests ∧
      (∀ error,
        (update fetcher patcher flags options true verbose saved address).run.result =
          .error error →
        (download fetcher flags options address).result = .error error) ∧
      ∀ updated,
        (update fetcher patcher flags options true verbose saved address).run.result =
          .ok updated →
        (download fetcher flags options address).result =
          if options.allowEmpty = false ∧ updated.lines.isBlank = true then .error .emptyResponse
          else .ok updated.lines) ∧
    (∀ patcher flags options force verbose saved address,
      (∀ request, (update fetcher patcher flags options force verbose saved address).asked =
        some request → patcher request = .ok none) →
      ∀ others loud, (update fetcher patcher flags options force verbose saved address).run =
        (update fetcher patcher flags options true loud others address).run) ∧
    ∀ (options : Command.Compile) environment path,
      ({ options with rawOutput := some path }.effect environment fetcher).PrintsAlike
        ({ options with rawOutput := none }.effect environment fetcher) := by
  refine ⟨?_, ?_, fun options environment => effect_agrees options environment fetcher⟩
  · intro patcher flags options verbose saved address
    rw [update_forced]
    exact ⟨download_requests, fun error => download_of_error, fun updated => download_of_ok⟩
  · intro patcher flags options force verbose saved address unpatched others loud
    rw [run_of_no_patch unpatched, update_forced]

/-- A list that comes to nothing, since its only line is behind a condition. -/
def hiddenList : Fetcher := fun _ => .ok "!#if x\ny\n!#endif".toList

theorem download_agrees_hidden :
    ((update hiddenList noPatches (some .empty) ⟨false, false, false⟩ true false none
        "a".toList).run.result = .ok ⟨[], "!#if x\ny\n!#endif".toList, false⟩ ∧
      (download hiddenList (some .empty) ⟨false, false, false⟩ "a".toList).result =
        .error .emptyResponse) ∧
    (update hiddenList noPatches none ⟨false, false, false⟩ false false (some "z".toList)
        "a".toList).run =
      (update hiddenList noPatches none ⟨false, false, false⟩ true false none "a".toList).run ∧
    ((Command.Compile.effect ⟨"a".toList, [("x".toList, true)], false, false, false,
        some "b".toList, 30⟩ none hiddenList).report (.ok ())).stdout =
      ((Command.Compile.effect ⟨"a".toList, [("x".toList, true)], false, false, false, none, 30⟩
        none hiddenList).report (.ok ())).stdout := by
  obtain ⟨forced, unpatched, printed⟩ := download_agrees hiddenList
  have full : (update hiddenList noPatches (some .empty) ⟨false, false, false⟩ true false none
      "a".toList).run.result = .ok ⟨[], "!#if x\ny\n!#endif".toList, false⟩ := by decide +kernel
  refine ⟨⟨full, ?_⟩, unpatched _ _ _ _ _ _ _ (fun _ _ => rfl) _ _, ?_⟩
  · rw [(forced _ _ _ _ _ _).2.2 _ full]
    rfl
  · exact (printed ⟨"a".toList, [("x".toList, true)], false, false, false, none, 30⟩ none
      "b".toList).stdout _ _ (by decide +kernel) (by decide +kernel)

/-! ### Patched texts -/

theorem fetchText_of_served
    (served : fetcher ((Location.resolve address none).request address none) = .ok raw)
    (checked : options.validateChecksum = false ∨
      Checksum.validate raw options.strictChecksum = .ok ()) :
    fetchText fetcher options address =
      ⟨.ok raw, [(Location.resolve address none).request address none]⟩ := by
  unfold fetchText Fetcher.get
  rw [served]
  cases asked : options.validateChecksum with
  | false => rfl
  | true =>
    have valid := checked.resolve_left (by simp [asked])
    simp only [Except.mapError, Traced.ok_bind, if_true, valid]
    rfl

theorem fresh_of_served
    (served : fetcher ((Location.resolve address none).request address none) = .ok raw)
    (checked : options.validateChecksum = false ∨
      Checksum.validate raw options.strictChecksum = .ok ())
    (shown : (Lines.ofText raw).isBlank = false ∨ options.allowEmpty = true) :
    fresh fetcher flags options address =
      ⟨(resolveList fetcher flags address (Lines.ofText raw)).result.map fun lines =>
          ⟨lines, raw, false⟩,
        (Location.resolve address none).request address none ::
          (resolveList fetcher flags address (Lines.ofText raw)).requests⟩ := by
  have nonempty : ¬(!options.allowEmpty && (Lines.ofText raw).isBlank) = true := by
    rcases shown with full | allowed
    · simp [full]
    · simp [allowed]
  unfold fresh
  rw [fetchText_of_served served checked, Traced.ok_bind]
  dsimp only
  rw [if_neg nonempty, Traced.bind_pure_eq]
  rfl

theorem afterPatch_changed {patched : Text} (changed : patched ≠ base) :
    afterPatch fetcher flags options address base (.ok (some patched)) =
      ⟨(resolveList fetcher flags address (Lines.ofText patched)).result.map fun lines =>
          ⟨lines, patched, false⟩,
        (resolveList fetcher flags address (Lines.ofText patched)).requests⟩ := by
  rw [afterPatch, if_neg changed, Traced.bind_pure_eq]

theorem afterPatch_unchanged :
    afterPatch fetcher flags options address base (.ok (some base)) =
      ⟨.ok ⟨Lines.ofText base, base, false⟩, []⟩ := by
  rw [afterPatch, if_pos rfl]
  rfl

/-- An update over a patch comes to what a full download of the patched text comes to and saves the
request for it. A patch that changes nothing saves all requests, but also leaves directives. -/
theorem update_agrees (fetcher : Fetcher) (patcher : Patcher) (flags : Option FlagSet)
    (options : Options) (verbose : Bool) (address base patched : Text) (nonempty : base ≠ [])
    (answer : patcher ⟨address, base, verbose⟩ = .ok (some patched))
    (served : fetcher ((Location.resolve address none).request address none) = .ok patched)
    (shown : (Lines.ofText patched).isBlank = false ∨ options.allowEmpty = true)
    (checked : options.validateChecksum = false ∨
      Checksum.validate patched options.strictChecksum = .ok ()) :
    (patched ≠ base →
      (update fetcher patcher flags options false verbose (some base) address).run.result =
        (update fetcher patcher flags options true verbose (some base) address).run.result ∧
      (update fetcher patcher flags options true verbose (some base) address).run.requests =
        (Location.resolve address none).request address none ::
          (update fetcher patcher flags options false verbose (some base) address).run.requests) ∧
    (patched = base →
      (update fetcher patcher flags options false verbose (some base) address).run.requests = [] ∧
      ((∀ line ∈ Lines.ofText base, Kind.ofLine? line = none) →
        (update fetcher patcher flags options false verbose (some base) address).run.result =
          (update fetcher patcher flags options true verbose (some base) address).run.result)) := by
  rw [update_saved nonempty, update_forced, answer, fresh_of_served served checked shown]
  constructor
  · intro changed
    rw [afterPatch_changed changed]
    exact ⟨rfl, rfl⟩
  · rintro rfl
    rw [afterPatch_unchanged]
    refine ⟨rfl, fun plain => ?_⟩
    rw [resolveList_of_plain plain]
    rfl

/-- A list `a` with one include. -/
def includingList : Fetcher := fun request =>
  .ok (if request = .onDisk "a".toList none then "!#include b".toList else "x".toList)

/-- A patched text with an include, and one that its patch leaves as it is. -/
theorem update_agrees_include :
    (update includingList (fun _ => .ok (some "!#include b".toList)) none ⟨false, false, false⟩
        false false (some "y".toList) "a".toList).run.result =
      (update includingList (fun _ => .ok (some "!#include b".toList)) none ⟨false, false, false⟩
        true false (some "y".toList) "a".toList).run.result ∧
    (update includingList (fun _ => .ok (some "x".toList)) none ⟨false, false, false⟩
        false false (some "x".toList) "b".toList).run.result =
      (update includingList (fun _ => .ok (some "x".toList)) none ⟨false, false, false⟩
        true false (some "x".toList) "b".toList).run.result := by
  constructor
  · exact ((update_agrees includingList (fun _ => .ok (some "!#include b".toList)) none
      ⟨false, false, false⟩ false "a".toList "y".toList "!#include b".toList (by decide) rfl
      (by decide +kernel) (.inl (by decide +kernel)) (.inl rfl)).1 (by decide)).1
  · exact ((update_agrees includingList (fun _ => .ok (some "x".toList)) none
      ⟨false, false, false⟩ false "b".toList "x".toList "x".toList (by decide) rfl
      (by decide +kernel) (.inl (by decide +kernel)) (.inl rfl)).2 rfl).2 (by decide +kernel)

end Download

end FilterPrep
