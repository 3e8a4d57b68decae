import FilterPrep.Download
import FilterPrep.Proofs.Course

/-!
# Guarded includes

A document is open from the request for it until its own includes are resolved. Whatever is
fetched, no document is asked for while it is open, at most `maxDepth` includes are open at once,
and the errors about open documents name exactly those that are open when they are raised
(`includes_guarded`).
-/

namespace FilterPrep

namespace CompileError

/-- Whether the error behind all failed includes is about the documents that are open. -/
def isAboutOpen : CompileError → Bool
  | includeFailed _ _ _ cause => cause.isAboutOpen
  | includeCycle _ => true
  | includeTooDeep _ _ => true
  | _ => false

theorem isAboutOpen_root (error : CompileError) : error.root.isAboutOpen = error.isAboutOpen := by
  induction error with
  | includeFailed line context place cause ih => exact ih
  | _ => rfl

theorem isAboutOpen_of_isOfCondition {error : CompileError}
    (condition : error.isOfCondition = true) : error.isAboutOpen = false := by
  cases error with
  | includeFailed | includeCycle | includeTooDeep => cases condition
  | _ => rfl

end CompileError

namespace Include

open Directive

variable {α β : Type} {fetcher : Fetcher} {flags : Option FlagSet} {start keys : List Text}
  {origin : Option Text}

/-- Each document in the log is asked for under the guard, with no document open twice. -/
def AsksGuarded (start keys : List Text) (log : List Event) : Prop :=
  ∀ before origin target behind, log = before ++ .opened origin target :: behind →
    (start ++ openAfter keys before).Nodup ∧
      Admissible (start ++ openAfter keys before) (openAfter keys before).length origin target

/-- The log ends with an include that is refused because it would close the cycle `chain`. -/
def EndsInCycle (start keys : List Text) (log : List Event) (chain : List Text) : Prop :=
  ∃ before origin target, log = before ++ [.refused origin target] ∧
    (start ++ openAfter keys before).Nodup ∧
    (Location.resolve target origin).key ∈ start ++ openAfter keys before ∧
    chain = start ++ openAfter keys before ++ [(Location.resolve target origin).key]

/-- The log ends with an include that is refused because as many includes as may be are open. -/
def EndsTooDeep (start keys : List Text) (log : List Event) (limit : Nat) (place : Text) : Prop :=
  ∃ before origin target, log = before ++ [.refused origin target] ∧
    (openAfter keys before).length = maxDepth ∧ limit = maxDepth ∧
    (Location.resolve target origin).key ∉ start ++ openAfter keys before ∧
    place = (Location.resolve target origin).text

/-- An error about open documents tells which are open at the end of the log. -/
structure EndsGuarded (start keys : List Text) (log : List Event) (result : Except CompileError α) :
    Prop where
  cycle : ∀ error chain, result = .error error → error.root = .includeCycle chain →
    EndsInCycle start keys log chain
  tooDeep : ∀ error limit place, result = .error error →
    error.root = .includeTooDeep limit place → EndsTooDeep start keys log limit place

theorem asksGuarded_append {first second : List Event} (left : AsksGuarded start keys first)
    (right : AsksGuarded start (openAfter keys first) second) :
    AsksGuarded start keys (first ++ second) := by
  intro before origin target behind split
  rcases List.append_eq_append_iff.mp split with ⟨more, rfl, tail⟩ | ⟨more, rfl, tail⟩
  · rw [openAfter_append]
    exact right more origin target behind tail
  · cases more with
    | nil =>
      have asks := right [] origin target behind tail.symm
      rwa [List.append_nil, openAfter_nil] at asks
    | cons head more =>
      obtain ⟨rfl, -⟩ := List.cons.inj tail
      exact left before origin target more rfl

theorem asksGuarded_silent {event : Event}
    (silent : ∀ origin target, event ≠ .opened origin target) :
    AsksGuarded start keys [event] := by
  intro before origin target behind split
  cases before with
  | nil => exact absurd (List.cons.inj split).1 (silent origin target)
  | cons head before => simp at split

theorem asksGuarded_opened {target : Text} (nodup : (start ++ keys).Nodup)
    (admissible : Admissible (start ++ keys) keys.length origin target) :
    AsksGuarded start keys [.opened origin target] := by
  intro before origin' target' behind split
  cases before with
  | nil =>
    cases split
    exact ⟨nodup, admissible⟩
  | cons head before => simp at split

theorem endsGuarded_append {first second : List Event} {result : Except CompileError α}
    (ends : EndsGuarded start (openAfter keys first) second result) :
    EndsGuarded start keys (first ++ second) result := by
  constructor
  · intro error chain failed root
    obtain ⟨before, origin, target, rfl, rest⟩ := ends.cycle error chain failed root
    exact ⟨first ++ before, origin, target, by simp, by simpa using rest⟩
  · intro error limit place failed root
    obtain ⟨before, origin, target, rfl, rest⟩ := ends.tooDeep error limit place failed root
    exact ⟨first ++ before, origin, target, by simp, by simpa using rest⟩

theorem EndsGuarded.of_errors {log : List Event} {result : Except CompileError α}
    {other : Except CompileError β} (ends : EndsGuarded start keys log result)
    (errors : ∀ error, other = .error error → result = .error error) :
    EndsGuarded start keys log other := by
  constructor
  · intro error chain failed root
    exact ends.cycle error chain (errors error failed) root
  · intro error limit place failed root
    exact ends.tooDeep error limit place (errors error failed) root

theorem endsGuarded_of_other {log : List Event} {result : Except CompileError α}
    (others : ∀ error, result = .error error → error.isAboutOpen = false) :
    EndsGuarded start keys log result := by
  constructor
  · intro error chain failed root
    have other := others error failed
    rw [← error.isAboutOpen_root, root] at other
    cases other
  · intro error limit place failed root
    have other := others error failed
    rw [← error.isAboutOpen_root, root] at other
    cases other

theorem endsGuarded_map {log : List Event} {result : Except CompileError α} (f : α → β)
    (ends : EndsGuarded start keys log result) : EndsGuarded start keys log (result.map f) := by
  apply ends.of_errors
  intro error failed
  exact Except.map_eq_error.mp failed

/-! ### One include -/

theorem isAboutOpen_of_checkTarget {target : Text} {error : CompileError}
    (rejected : Location.checkTarget target origin = .error error) : error.isAboutOpen = false := by
  rcases checkTarget_error rejected with ⟨place, rfl⟩ | ⟨address, rfl⟩ <;> rfl

theorem Obstacle.asksGuarded {target : Text} {event : Event} {cause : CompileError}
    (obstacle : Obstacle fetcher flags (start ++ keys) keys.length origin target event cause)
    (nodup : (start ++ keys).Nodup) : AsksGuarded start keys [event] := by
  cases obstacle with
  | foreign rejected => exact asksGuarded_silent nofun
  | cycle accepted isOpen => exact asksGuarded_silent nofun
  | tooDeep accepted fresh full => exact asksGuarded_silent nofun
  | unfetched admissible answer => exact asksGuarded_opened nodup admissible
  | unselected admissible answer wrong => exact asksGuarded_opened nodup admissible

theorem Obstacle.endsGuarded {target : Text} {event : Event} {cause : CompileError}
    (obstacle : Obstacle fetcher flags (start ++ keys) keys.length origin target event cause)
    (nodup : (start ++ keys).Nodup) :
    EndsGuarded start keys [event] (.error cause : Except CompileError α) := by
  cases obstacle with
  | foreign rejected =>
    apply endsGuarded_of_other
    rintro error ⟨⟩
    exact isAboutOpen_of_checkTarget rejected
  | cycle accepted isOpen =>
    constructor
    · rintro error chain ⟨⟩ ⟨⟩
      exact ⟨[], origin, target, rfl, nodup, isOpen, rfl⟩
    · rintro error limit place ⟨⟩ ⟨⟩
  | tooDeep accepted fresh full =>
    constructor
    · rintro error chain ⟨⟩ ⟨⟩
    · rintro error limit place ⟨⟩ ⟨⟩
      exact ⟨[], origin, target, rfl, full, rfl, fresh, rfl⟩
  | unfetched admissible answer =>
    apply endsGuarded_of_other
    rintro error ⟨⟩
    rfl
  | unselected admissible answer wrong =>
    apply endsGuarded_of_other
    rintro error ⟨⟩
    exact CompileError.isAboutOpen_of_isOfCondition (isOfCondition_of_resolve wrong)

theorem nodup_opened {target : Text} (nodup : (start ++ keys).Nodup)
    (admissible : Admissible (start ++ keys) keys.length origin target) :
    (start ++ (keys ++ [(Location.resolve target origin).key])).Nodup := by
  rw [← List.append_assoc, ← List.concat_eq_append]
  exact nodup.concat admissible.fresh

/-! ### A whole run -/

variable {passed lines : Lines} {events : List Event} {result : Except CompileError Lines}

theorem Course.asksGuarded
    (course : Course fetcher flags start keys origin passed lines events result)
    (nodup : (start ++ keys).Nodup) : AsksGuarded start keys events := by
  induction course with
  | done =>
    intro before origin target behind split
    simp at split
  | content plain further ih => exact ih nodup
  | rejected names rejected => exact asksGuarded_silent nofun
  | failed names obstacle outermost => exact obstacle.asksGuarded nodup
  | inside names opens below ih =>
    have nested := ih (nodup_opened nodup opens.admissible)
    exact asksGuarded_append (asksGuarded_opened nodup opens.admissible) nested
  | @included keys origin _ _ _ target _ events _ others _ names opens below further ihBelow
      ihFurther =>
    have nested := ihBelow (nodup_opened nodup opens.admissible)
    have opened : AsksGuarded start keys (.opened origin target :: events) :=
      asksGuarded_append (asksGuarded_opened nodup opens.admissible) nested
    have whole : AsksGuarded start keys (.opened origin target :: events ++ [.closed]) :=
      asksGuarded_append opened (asksGuarded_silent nofun)
    -- the document is closed again, so the lines behind it find the same documents open
    have behind := ihFurther nodup
    rw [← below.openAfter_below] at behind
    rw [List.append_cons]
    exact asksGuarded_append whole behind

theorem Course.endsGuarded
    (course : Course fetcher flags start keys origin passed lines events result)
    (nodup : (start ++ keys).Nodup) : EndsGuarded start keys events result := by
  induction course with
  | done => exact ⟨nofun, nofun⟩
  | content plain further ih => exact endsGuarded_map _ (ih nodup)
  | rejected names rejected =>
    apply endsGuarded_of_other
    rintro error ⟨⟩
    exact isAboutOpen_of_checkTarget rejected
  | failed names obstacle outermost =>
    have ends : EndsGuarded start _ _ (.error _ : Except CompileError Lines) :=
      obstacle.endsGuarded nodup
    constructor
    · rintro error chain ⟨⟩ root
      exact ends.cycle _ chain rfl root
    · rintro error limit place ⟨⟩ root
      exact ends.tooDeep _ limit place rfl root
  | @inside keys origin passed line rest target document events error names opens below ih =>
    change EndsGuarded start keys ([.opened origin target] ++ events) _
    exact endsGuarded_append (ih (nodup_opened nodup opens.admissible))
  | included names opens below further ihBelow ihFurther =>
    have behind := ihFurther nodup
    rw [← below.openAfter_below] at behind
    rw [List.append_cons]
    exact endsGuarded_map _ (endsGuarded_append behind)

/-! ### Entry points -/

/-- What happens while the includes of a document are resolved; nothing if the document could not
be read. -/
inductive Recorded (fetcher : Fetcher) (flags : Option FlagSet) (start : List Text)
    (origin : Option Text) : (document : Except CompileError Lines) → List Event → Prop where
  | unread {error : CompileError} : Recorded fetcher flags start origin (.error error) []
  | read {lines : Lines} {events : List Event} {result : Except CompileError Lines}
      (course : Course fetcher flags start [] origin [] lines events result) :
      Recorded fetcher flags start origin (.ok lines) events

/-- Behind the requests in `asked`, the run `t` asks only for what the includes of `document` ask
for under the guard, and its errors about open documents are right. -/
def Guarded (fetcher : Fetcher) (flags : Option FlagSet) (start : List Text)
    (origin : Option Text) (document : Except CompileError Lines) (asked : List Request)
    (t : Traced α) : Prop :=
  ∃ log, Recorded fetcher flags start origin document log ∧
    t.requests = asked ++ requestsOf log ∧ AsksGuarded start [] log ∧
    EndsGuarded start [] log t.result

variable {document : Except CompileError Lines} {asked : List Request}

theorem guarded_unread {error : CompileError} {t : Traced α} (unread : document = .error error)
    (requests : t.requests = asked)
    (others : ∀ error, t.result = .error error → error.isAboutOpen = false) :
    Guarded fetcher flags start origin document asked t := by
  subst unread
  refine ⟨[], .unread, by simp [requests, requestsOf], ?_, endsGuarded_of_other others⟩
  intro before origin target behind split
  simp at split

theorem guarded_resolveAt (nodup : start.Nodup) (origin : Option Text) (lines : Lines) :
    Guarded fetcher flags start origin (.ok lines) []
      (resolveAt fetcher flags 0 start origin lines) := by
  obtain ⟨events, course, requests⟩ := course_of_resolveAt fetcher flags start origin lines
  rw [← List.append_nil start] at nodup
  exact ⟨events, .read course, requests, course.asksGuarded nodup, course.endsGuarded nodup⟩

theorem guarded_selected (nodup : start.Nodup) (origin : Option Text) (lines : Lines) :
    Guarded fetcher flags start origin (Selection.resolve flags lines) [] (do
      let lines ← .ofExcept (Selection.resolve flags lines)
      resolveAt fetcher flags 0 start origin lines) := by
  cases selected : Selection.resolve flags lines with
  | error error =>
    refine guarded_unread rfl rfl ?_
    rintro error ⟨⟩
    exact CompileError.isAboutOpen_of_isOfCondition (isOfCondition_of_resolve selected)
  | ok kept => exact guarded_resolveAt nodup origin kept

/-- What is done with the resolved lines asks for nothing. -/
theorem Guarded.bind {t : Traced α} {next : α → Traced β}
    (guarded : Guarded fetcher flags start origin document asked t)
    (silent : ∀ a, (next a).requests = [])
    (others : ∀ a error, (next a).result = .error error → error.isAboutOpen = false) :
    Guarded fetcher flags start origin document asked (t >>= next) := by
  obtain ⟨log, recorded, requests, asks, ends⟩ := guarded
  obtain ⟨error | a, made⟩ := t
  · refine ⟨log, recorded, requests, asks, ends.of_errors ?_⟩
    rintro error ⟨⟩
    rfl
  · refine ⟨log, recorded, ?_, asks, endsGuarded_of_other (others a)⟩
    rw [Traced.ok_bind, silent a, List.append_nil]
    exact requests

end Include

namespace Download

open Include

variable {α : Type} {fetcher : Fetcher} {flags : Option FlagSet} {options : Options}
  {address : Text} {start : List Text} {origin : Option Text}

theorem fetchText_cases :
    (∃ raw, fetchText fetcher options address =
      ⟨.ok raw, [(Location.resolve address none).request address none]⟩) ∨
    ∃ error, fetchText fetcher options address =
      ⟨.error error, [(Location.resolve address none).request address none]⟩ ∧
        error.isAboutOpen = false := by
  unfold fetchText Fetcher.get
  cases fetcher ((Location.resolve address none).request address none) with
  | error error => exact .inr ⟨.fetch error, rfl, rfl⟩
  | ok raw =>
    simp only [Except.mapError, Traced.ok_bind]
    cases options.validateChecksum with
    | false => exact .inl ⟨raw, rfl⟩
    | true =>
      by_cases valid : Checksum.isValid raw options.strictChecksum = true
      · have checked : Checksum.validate raw options.strictChecksum = .ok () := if_pos valid
        rw [checked]
        exact .inl ⟨raw, rfl⟩
      · have checked : Checksum.validate raw options.strictChecksum = .error .invalidChecksum :=
          if_neg valid
        rw [checked]
        exact .inr ⟨.invalidChecksum, rfl, rfl⟩

theorem guarded_fetched {read : Text → Except CompileError Lines} {next : Text → Traced α}
    (guarded : ∀ raw, Guarded fetcher flags start origin (read raw) [] (next raw)) :
    Guarded fetcher flags start origin ((fetchText fetcher options address).result >>= read)
      [(Location.resolve address none).request address none]
      (fetchText fetcher options address >>= next) := by
  rcases fetchText_cases with ⟨raw, fetched⟩ | ⟨error, failed, others⟩
  · rw [fetched]
    obtain ⟨log, recorded, requests, asks, ends⟩ := guarded raw
    refine ⟨log, recorded, ?_, asks, ends⟩
    rw [Traced.ok_bind, requests]
    rfl
  · rw [failed]
    refine guarded_unread rfl rfl ?_
    rintro error ⟨⟩
    exact others

theorem guarded_resolveList (lines : Lines) :
    Guarded fetcher flags [(Location.resolve address none).key]
      (Location.resolve address none).childOrigin? (Selection.resolve flags lines) []
      (resolveList fetcher flags address lines) :=
  guarded_selected (List.nodup_singleton _) _ lines

theorem guarded_download :
    Guarded fetcher flags [(Location.resolve address none).key]
      (Location.resolve address none).childOrigin?
      (do
        let raw ← (fetchText fetcher options address).result
        Selection.resolve flags (Lines.ofText raw))
      [(Location.resolve address none).request address none]
      (download fetcher flags options address) := by
  refine guarded_fetched fun raw => (guarded_resolveList (Lines.ofText raw)).bind ?_ ?_
  · intro lines
    split <;> rfl
  · intro lines error failed
    split at failed
    · cases failed
      rfl
    · cases failed

theorem guarded_fresh :
    Guarded fetcher flags [(Location.resolve address none).key]
      (Location.resolve address none).childOrigin?
      (do
        let raw ← (fetchText fetcher options address).result
        if !options.allowEmpty && (Lines.ofText raw).isBlank then .error .emptyResponse
        else Selection.resolve flags (Lines.ofText raw))
      [(Location.resolve address none).request address none]
      (fresh fetcher flags options address) := by
  refine guarded_fetched fun raw => ?_
  dsimp only
  split
  · refine guarded_unread rfl rfl ?_
    rintro error ⟨⟩
    rfl
  · exact (guarded_resolveList (Lines.ofText raw)).bind (fun _ => rfl) nofun

theorem guarded_patched {base patched : Text} (changed : patched ≠ base) :
    Guarded fetcher flags [(Location.resolve address none).key]
      (Location.resolve address none).childOrigin?
      (Selection.resolve flags (Lines.ofText patched)) []
      (afterPatch fetcher flags options address base (.ok (some patched))) := by
  rw [afterPatch, if_neg changed]
  exact (guarded_resolveList (Lines.ofText patched)).bind (fun _ => rfl) nofun

/-- The ways in which an update runs. Where it neither fetches the list anew nor has a changed text
it resolves no includes. -/
inductive Branch (fetcher : Fetcher) (flags : Option FlagSet) (options : Options) (address : Text) :
    Traced Updated → Prop where
  | anew : Branch fetcher flags options address (fresh fetcher flags options address)
  | changed {base patched : Text} (differs : patched ≠ base) :
      Branch fetcher flags options address
        (afterPatch fetcher flags options address base (.ok (some patched)))
  | idle {t : Traced Updated} (silent : t.requests = [])
      (others : ∀ error, t.result = .error error → error.isAboutOpen = false) :
      Branch fetcher flags options address t

theorem afterPatch_branch (base : Text) (answer : Except PatchError (Option Text)) :
    Branch fetcher flags options address
      (afterPatch fetcher flags options address base answer) := by
  cases answer with
  | error error =>
    cases error with
    | unacceptableResponse url => exact .idle rfl nofun
    | failed url reason =>
      refine .idle rfl ?_
      rintro error ⟨⟩
      rfl
  | ok answer =>
    cases answer with
    | none => exact .anew
    | some patched =>
      by_cases same : patched = base
      · rw [afterPatch, if_pos same]
        exact .idle rfl nofun
      · exact .changed same

theorem update_branch (patcher : Patcher) (force verbose : Bool) (saved : Option Text) :
    Branch fetcher flags options address
      (update fetcher patcher flags options force verbose saved address).run := by
  unfold update
  split
  · cases force with
    | true => exact .anew
    | false => exact afterPatch_branch _ _
  · exact .anew

/-- Whatever is fetched, at every entry point: each include is asked for under the guard, and the
errors about open documents name those that are open. -/
theorem includes_guarded (fetcher : Fetcher) (flags : Option FlagSet) :
    (∀ origin lines, Guarded fetcher flags [] origin (.ok lines) []
      (Include.resolve fetcher flags origin lines)) ∧
    (∀ origin lines, Guarded fetcher flags [] origin (Selection.resolve flags lines) []
      (compile fetcher flags origin lines)) ∧
    (∀ options address, Guarded fetcher flags [(Location.resolve address none).key]
      (Location.resolve address none).childOrigin?
      (do
        let raw ← (fetchText fetcher options address).result
        Selection.resolve flags (Lines.ofText raw))
      [(Location.resolve address none).request address none]
      (download fetcher flags options address)) ∧
    (∀ options address, Guarded fetcher flags [(Location.resolve address none).key]
      (Location.resolve address none).childOrigin?
      (do
        let raw ← (fetchText fetcher options address).result
        if !options.allowEmpty && (Lines.ofText raw).isBlank then .error .emptyResponse
        else Selection.resolve flags (Lines.ofText raw))
      [(Location.resolve address none).request address none]
      (fresh fetcher flags options address)) ∧
    (∀ options address base patched, patched ≠ base →
      Guarded fetcher flags [(Location.resolve address none).key]
        (Location.resolve address none).childOrigin?
        (Selection.resolve flags (Lines.ofText patched)) []
        (afterPatch fetcher flags options address base (.ok (some patched)))) ∧
    ∀ patcher options force verbose saved address, Branch fetcher flags options address
      (update fetcher patcher flags options force verbose saved address).run :=
  ⟨fun origin lines => guarded_resolveAt List.nodup_nil origin lines,
    fun origin lines => guarded_selected List.nodup_nil origin lines,
    fun _ _ => guarded_download, fun _ _ => guarded_fresh,
    fun _ _ _ _ changed => guarded_patched changed,
    fun patcher _ force verbose saved _ => update_branch patcher force verbose saved⟩

/-- A patched list is open when a document that it includes asks for it again. -/
theorem includes_guarded_cycle :
    (afterPatch (fun _ => .ok "!#include a".toList) none ⟨false, false, false⟩ "a".toList
        "x".toList (.ok (some "!#include b".toList))).result =
      .error (.includeFailed "!#include a".toList [] (some "a".toList)
        (.includeCycle ["a".toList, "b".toList, "a".toList])) ∧
    Guarded (fun _ => .ok "!#include a".toList) none [(Location.resolve "a".toList none).key]
      (Location.resolve "a".toList none).childOrigin?
      (Selection.resolve none (Lines.ofText "!#include b".toList)) []
      (afterPatch (fun _ => .ok "!#include a".toList) none ⟨false, false, false⟩ "a".toList
        "x".toList (.ok (some "!#include b".toList))) :=
  ⟨by decide +kernel, (includes_guarded _ _).2.2.2.2.1 _ _ _ _ (by decide)⟩

end Download

end FilterPrep
