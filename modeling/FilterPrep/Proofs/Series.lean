import FilterPrep.Proofs.Guard
import FilterPrep.Proofs.Placement
import FilterPrep.Proofs.Update

/-!
# Series of updates

A list is updated again and again, each time from the text that the last successful call gave back.
What is served, what patches there are and how they are asked for may change from call to call.
`Delivers` lists what one call can give back; from it, what is saved after any series of calls is a
text as it was fetched or patched by one of them, and has been saved ever since
(`updates_keep_text`).
-/

namespace FilterPrep.Download

/-- A call for an update: what is served and answered at the time, and how it is made. -/
structure Call where
  fetcher : Fetcher
  patcher : Patcher
  flags : Option FlagSet
  options : Options
  force : Bool
  verbose : Bool

namespace Call

def update (call : Call) (address : Text) (saved : Option Text) : Update :=
  Download.update call.fetcher call.patcher call.flags call.options call.force call.verbose saved
    address

/-- The text that is saved after a call. One that fails leaves it as it was. -/
def save (address : Text) (saved : Option Text) (call : Call) : Option Text :=
  match (call.update address saved).run.result with
  | .ok updated => some updated.raw
  | .error _ => saved

end Call

/-- The text that is saved after a series of calls for one list, with none at first. -/
def savedAfter (address : Text) (calls : List Call) : Option Text :=
  calls.foldl (Call.save address) none

theorem savedAfter_concat (address : Text) (calls : List Call) (last : Call) :
    savedAfter address (calls ++ [last]) = last.save address (savedAfter address calls) :=
  List.foldl_append

namespace Call

variable (call : Call) (address : Text) (saved : Option Text)

/-- No update is possible for now: this is the answer to the call's request for a patch. -/
def Refused : Prop :=
  ∃ request url, (call.update address saved).asked = some request ∧
    call.patcher request = .error (.unacceptableResponse url)

/-- The call gets `text` as a patch or, where there is none, for the address of the list, which is
the first that it asks for. -/
def Obtains (text : Text) : Prop :=
  ((∀ request, (call.update address saved).asked = some request →
      call.patcher request = .ok none) ∧
    call.fetcher ((Location.resolve address none).request address none) = .ok text ∧
    ∃ others, (call.update address saved).run.requests =
      (Location.resolve address none).request address none :: others) ∨
  ∃ request, (call.update address saved).asked = some request ∧
    call.patcher request = .ok (some text)

/-- The text given back is the one to be patched: it was refused a patch or the patch changed
nothing. -/
def Unchanged (text : Text) : Prop :=
  ∃ request, (call.update address saved).asked = some request ∧ text = request.base ∧
    (call.Refused address saved ∨ call.patcher request = .ok (some text))

/-- What a call gives back that was made with the text `saved`. -/
structure Faithful (updated : Updated) : Prop where
  kept : call.Refused address saved → saved = some updated.raw
  obtained : ¬call.Refused address saved → call.Obtains address saved updated.raw
  failed : updated.patchFailed = true ↔ call.Refused address saved
  idle : call.Unchanged address saved updated.raw →
    updated.lines = Lines.ofText updated.raw ∧ (call.update address saved).run.requests = []
  resolved : ¬call.Unchanged address saved updated.raw →
    (resolveList call.fetcher call.flags address (Lines.ofText updated.raw)).result =
      .ok updated.lines

/-- The ways in which a call succeeds. -/
inductive Delivers : Updated → Prop where
  | fetched {updated : Updated} {others : List Request}
      (unpatched : ∀ request, (call.update address saved).asked = some request →
        call.patcher request = .ok none)
      (served : call.fetcher ((Location.resolve address none).request address none) =
        .ok updated.raw)
      (first : (call.update address saved).run.requests =
        (Location.resolve address none).request address none :: others)
      (resolved : (resolveList call.fetcher call.flags address
        (Lines.ofText updated.raw)).result = .ok updated.lines)
      (intact : updated.patchFailed = false) : Delivers updated
  | patched {request : PatchRequest} {text : Text} {lines : Lines}
      (asked : (call.update address saved).asked = some request)
      (answer : call.patcher request = .ok (some text)) (changed : text ≠ request.base)
      (resolved : (resolveList call.fetcher call.flags address (Lines.ofText text)).result =
        .ok lines) : Delivers ⟨lines, text, false⟩
  | unchanged {request : PatchRequest}
      (asked : (call.update address saved).asked = some request)
      (answer : call.patcher request = .ok (some request.base))
      (idle : (call.update address saved).run.requests = []) :
      Delivers ⟨Lines.ofText request.base, request.base, false⟩
  | refused {request : PatchRequest} {url : Text}
      (asked : (call.update address saved).asked = some request)
      (answer : call.patcher request = .error (.unacceptableResponse url))
      (same : saved = some request.base)
      (idle : (call.update address saved).run.requests = []) :
      Delivers ⟨Lines.ofText request.base, request.base, true⟩

end Call

/-! ### One call -/

variable {call : Call} {address : Text} {saved : Option Text} {updated : Updated}

theorem served_of_fresh {fetcher : Fetcher} {flags : Option FlagSet} {options : Options}
    (succeeds : (fresh fetcher flags options address).result = .ok updated) :
    fetcher ((Location.resolve address none).request address none) = .ok updated.raw ∧
      (∃ others, (fresh fetcher flags options address).requests =
        (Location.resolve address none).request address none :: others) ∧
      (resolveList fetcher flags address (Lines.ofText updated.raw)).result = .ok updated.lines ∧
      updated.patchFailed = false := by
  rcases @fetchText_cases fetcher options address with ⟨raw, fetched⟩ | ⟨error, failed, -⟩
  · have served := fetched_of_fetchText (congrArg Traced.result fetched)
    unfold fresh at succeeds ⊢
    rw [fetched, Traced.ok_bind] at succeeds ⊢
    dsimp only at succeeds ⊢
    by_cases empty : (!options.allowEmpty && (Lines.ofText raw).isBlank) = true
    · rw [if_pos empty] at succeeds
      cases succeeds
    · rw [if_neg empty] at succeeds
      obtain ⟨lines, resolved, same⟩ := Traced.bind_result_eq_ok.mp succeeds
      cases same
      exact ⟨served, ⟨_, rfl⟩, resolved, rfl⟩
  · unfold fresh at succeeds
    rw [failed] at succeeds
    cases succeeds

theorem delivers_of_update (succeeds : (call.update address saved).run.result = .ok updated) :
    call.Delivers address saved updated := by
  -- without a patch the list is fetched, whether or not one was asked for
  have anew : (∀ request, (call.update address saved).asked = some request →
      call.patcher request = .ok none) → call.Delivers address saved updated := by
    intro unpatched
    have full : (call.update address saved).run =
        fresh call.fetcher call.flags call.options address := run_of_no_patch unpatched
    rw [full] at succeeds
    obtain ⟨served, ⟨others, first⟩, resolved, intact⟩ := served_of_fresh succeeds
    rw [← full] at first
    exact .fetched unpatched served first resolved intact
  rcases update_cases call.fetcher call.patcher call.flags call.options call.force call.verbose
    saved address with ⟨-, unasked⟩ | ⟨base, -, same, -, asks⟩
  · apply anew
    intro request asked
    rw [Call.update, unasked] at asked
    cases asked
  · have asked : (call.update address saved).asked = some ⟨address, base, call.verbose⟩ := by
      rw [Call.update, asks]
    have run : (call.update address saved).run = afterPatch call.fetcher call.flags call.options
        address base (call.patcher ⟨address, base, call.verbose⟩) := by
      rw [Call.update, asks]
    cases answer : call.patcher ⟨address, base, call.verbose⟩ with
    | error error =>
      rw [answer] at run
      rw [run] at succeeds
      cases error with
      | failed url reason => cases succeeds
      | unacceptableResponse url =>
        cases succeeds
        exact .refused asked answer same (congrArg Traced.requests run)
    | ok patch =>
      cases patch with
      | none =>
        apply anew
        intro request same
        obtain rfl := Option.some.inj (asked.symm.trans same)
        exact answer
      | some text =>
        by_cases unchanged : text = base
        · subst unchanged
          rw [answer, afterPatch_unchanged] at run
          rw [run] at succeeds
          cases succeeds
          exact .unchanged asked answer (congrArg Traced.requests run)
        · rw [answer, afterPatch_changed unchanged] at run
          rw [run] at succeeds
          obtain ⟨lines, resolved, rfl⟩ := Except.map_eq_ok.mp succeeds
          exact .patched asked answer unchanged resolved

theorem asked_iff (request : PatchRequest) :
    (call.update address saved).asked = some request ↔
      call.force = false ∧ saved = some request.base ∧ request.base ≠ [] ∧
        request.address = address ∧ request.verbose = call.verbose := by
  rcases update_cases call.fetcher call.patcher call.flags call.options call.force call.verbose
    saved address with ⟨nothing, unasked⟩ | ⟨base, unforced, same, nonempty, asks⟩
  · rw [Call.update, unasked]
    constructor
    · nofun
    · rintro ⟨unforced, same, nonempty, -⟩
      exact absurd (nothing _ unforced same) nonempty
  · rw [Call.update, asks]
    obtain ⟨place, text, loud⟩ := request
    simp only [Option.some.injEq, PatchRequest.mk.injEq, unforced, same, true_and]
    constructor
    · rintro ⟨rfl, rfl, rfl⟩
      exact ⟨rfl, nonempty, rfl, rfl⟩
    · rintro ⟨rfl, -, rfl, rfl⟩
      exact ⟨rfl, rfl, rfl⟩

theorem not_refused {request : PatchRequest} {answer : Option Text}
    (asked : (call.update address saved).asked = some request)
    (accepted : call.patcher request = .ok answer) : ¬call.Refused address saved := by
  rintro ⟨other, url, same, refused⟩
  obtain rfl := Option.some.inj (asked.symm.trans same)
  exact nomatch accepted.symm.trans refused

theorem faithful_of_delivers (delivers : call.Delivers address saved updated) :
    call.Faithful address saved updated := by
  cases delivers with
  | @fetched _ others unpatched served first resolved intact =>
    have accepted : ¬call.Refused address saved := by
      rintro ⟨request, url, asked, refused⟩
      exact nomatch (unpatched request asked).symm.trans refused
    refine ⟨fun refused => absurd refused accepted,
      fun _ => .inl ⟨unpatched, served, others, first⟩, by simp [intact, accepted], ?_,
      fun _ => resolved⟩
    rintro ⟨request, asked, -, refused | answer⟩
    · exact absurd refused accepted
    · exact nomatch (unpatched request asked).symm.trans answer
  | @patched request text lines asked answer changed resolved =>
    have accepted := not_refused asked answer
    refine ⟨fun refused => absurd refused accepted, fun _ => .inr ⟨request, asked, answer⟩,
      by simp [accepted], ?_, fun _ => resolved⟩
    rintro ⟨other, same, unchanged, -⟩
    obtain rfl := Option.some.inj (asked.symm.trans same)
    exact absurd unchanged changed
  | @unchanged request asked answer idle =>
    have accepted := not_refused asked answer
    exact ⟨fun refused => absurd refused accepted, fun _ => .inr ⟨request, asked, answer⟩,
      by simp [accepted], fun _ => ⟨rfl, idle⟩,
      fun other => absurd ⟨request, asked, rfl, .inr answer⟩ other⟩
  | @refused request url asked answer same idle =>
    have refused : call.Refused address saved := ⟨request, url, asked, answer⟩
    exact ⟨fun _ => same, fun accepted => absurd refused accepted, by simp [refused],
      fun _ => ⟨rfl, idle⟩, fun other => absurd ⟨request, asked, rfl, .inl refused⟩ other⟩

/-! ### A series of calls -/

theorem save_eq_some {text : Text} (left : call.save address saved = some text) :
    saved = some text ∨
      ∃ updated, (call.update address saved).run.result = .ok updated ∧ updated.raw = text ∧
        call.Obtains address saved text := by
  unfold Call.save at left
  split at left
  · next updated succeeds =>
    obtain rfl := Option.some.inj left
    have faithful := faithful_of_delivers (delivers_of_update succeeds)
    by_cases refused : call.Refused address saved
    · exact .inl (faithful.kept refused)
    · exact .inr ⟨updated, succeeds, rfl, faithful.obtained refused⟩
  · exact .inl left

/-- One of the calls succeeds with the text, having obtained it, and it has been saved since. -/
def ObtainedBy (calls : List Call) (address text : Text) : Prop :=
  ∃ (before : List Call) (call : Call) (behind : List Call) (updated : Updated),
    calls = before ++ call :: behind ∧
    (call.update address (savedAfter address before)).run.result = .ok updated ∧
    updated.raw = text ∧ call.Obtains address (savedAfter address before) text ∧
    ∀ more rest, behind = more ++ rest → savedAfter address (before ++ call :: more) = some text

theorem obtained_of_savedAfter {calls : List Call} {text : Text}
    (left : savedAfter address calls = some text) : ObtainedBy calls address text := by
  induction calls using List.reverseRecOn with
  | nil => cases left
  | append_singleton calls last ih =>
    have ends := left
    rw [savedAfter_concat] at left
    rcases save_eq_some left with earlier | ⟨updated, succeeds, same, obtains⟩
    · obtain ⟨before, call, behind, updated, rfl, succeeds, same, obtains, since⟩ := ih earlier
      refine ⟨before, call, behind ++ [last], updated, by simp, succeeds, same, obtains, ?_⟩
      intro more rest whole
      rcases List.eq_nil_or_concat rest with rfl | ⟨others, final, rfl⟩
      · rw [List.append_nil] at whole
        rw [← whole]
        simpa using ends
      · rw [List.concat_eq_append, ← List.append_assoc] at whole
        exact since more others (List.append_inj' whole rfl).1
    · refine ⟨calls, last, [], updated, rfl, succeeds, same, obtains, ?_⟩
      intro more rest whole
      obtain ⟨rfl, -⟩ := List.append_eq_nil_iff.mp whole.symm
      exact ends

/-- Each call of a series asks for a patch of the text that is saved by then, unless it is forced or
there is none, and gives back what it has obtained or, if no update is possible, that text. So the
text that is saved in the end was fetched or patched by one of the calls and never altered. -/
theorem updates_keep_text (address : Text) (calls : List Call) :
    (∀ (before : List Call) (call : Call) (behind : List Call), calls = before ++ call :: behind →
      (∀ request, (call.update address (savedAfter address before)).asked = some request ↔
        call.force = false ∧ savedAfter address before = some request.base ∧
          request.base ≠ [] ∧ request.address = address ∧ request.verbose = call.verbose) ∧
      ∀ updated, (call.update address (savedAfter address before)).run.result = .ok updated →
        call.Faithful address (savedAfter address before) updated) ∧
    ∀ text, savedAfter address calls = some text → ObtainedBy calls address text := by
  refine ⟨fun before call behind _ => ⟨asked_iff, fun updated succeeds => ?_⟩,
    fun text => obtained_of_savedAfter⟩
  exact faithful_of_delivers (delivers_of_update succeeds)

/-- A call while a list with an include is served and has no patches. -/
def servedCall : Call := ⟨includingList, noPatches, none, ⟨false, false, false⟩, false, false⟩

/-- A call while nothing is served and no update is possible. -/
def refusedCall : Call :=
  ⟨fun _ => .error (.unreadable [] []),
    fun request => .error (.unacceptableResponse request.address), none, ⟨false, false, false⟩,
    false, false⟩

/-- The list is kept as it was served, with its include. -/
theorem updates_keep_text_refused :
    (refusedCall.update "a".toList (savedAfter "a".toList [servedCall])).run.result =
      .ok ⟨["!#include b".toList], "!#include b".toList, true⟩ ∧
    refusedCall.Faithful "a".toList (savedAfter "a".toList [servedCall])
      ⟨["!#include b".toList], "!#include b".toList, true⟩ ∧
    ObtainedBy [servedCall, refusedCall] "a".toList "!#include b".toList := by
  have kept : (refusedCall.update "a".toList (savedAfter "a".toList [servedCall])).run.result =
      .ok ⟨["!#include b".toList], "!#include b".toList, true⟩ := by decide +kernel
  obtain ⟨each, whole⟩ := updates_keep_text "a".toList [servedCall, refusedCall]
  refine ⟨kept, (each [servedCall] refusedCall [] rfl).2 _ kept, whole _ ?_⟩
  decide +kernel

end FilterPrep.Download
