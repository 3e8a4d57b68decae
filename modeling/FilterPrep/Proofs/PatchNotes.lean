import FilterPrep.Proofs.Resolver
import FilterPrep.Proofs.Substitution

/-!
# Patch notes of included documents

`resolveFinishing` resolves includes with any last step in place of the removal of patch notes, and
with that removal it is the resolver. Leaving the step out changes neither the requests nor the
errors, and of the lines nothing but patch notes (`resolve_only_trims`): notes are searched again
whenever a document becomes part of another, but each search only deletes some of those it finds,
and the lines that stand in front of a failing include are shown as they were before.
-/

namespace FilterPrep

variable {α β γ δ : Type}

/-- The computations make the same requests and end alike: with related values, or with one
error. -/
inductive Traced.Relates (related : α → β → Prop) : Traced α → Traced β → Prop where
  | ok {a : α} {b : β} (relates : related a b) (requests : List Request) :
      Relates related ⟨.ok a, requests⟩ ⟨.ok b, requests⟩
  | error (error : CompileError) (requests : List Request) :
      Relates related ⟨.error error, requests⟩ ⟨.error error, requests⟩

namespace Traced.Relates

variable {related : α → β → Prop} {other : γ → δ → Prop} {first : Traced α} {second : Traced β}

theorem refl {related : α → α → Prop} (reflexive : ∀ a, related a a) (t : Traced α) :
    Relates related t t := by
  obtain ⟨error | a, requests⟩ := t
  · exact .error error requests
  · exact .ok (reflexive a) requests

theorem bind {next : α → Traced γ} {further : β → Traced δ} (relates : Relates related first second)
    (continues : ∀ a b, related a b → Relates other (next a) (further b)) :
    Relates other (first >>= next) (second >>= further) := by
  cases relates with
  | error error requests => exact .error error requests
  | @ok a b both requests =>
    rw [ok_bind, ok_bind]
    have behind := continues a b both
    generalize next a = left, further b = right at behind
    cases behind with
    | ok relates more => exact .ok relates (requests ++ more)
    | error error more => exact .error error (requests ++ more)

theorem mapError (relates : Relates related first second) (f : CompileError → CompileError) :
    Relates related (first.mapError f) (second.mapError f) := by
  cases relates with
  | ok both requests => exact .ok both requests
  | error error requests => exact .error (f error) requests

theorem requests_eq (relates : Relates related first second) :
    first.requests = second.requests := by
  cases relates <;> rfl

theorem error_iff (relates : Relates related first second) (error : CompileError) :
    first.result = .error error ↔ second.result = .error error := by
  cases relates with
  | ok both requests => exact ⟨nofun, nofun⟩
  | error cause requests =>
    simp only [Except.error.injEq]

theorem of_ok {a : α} {b : β} (relates : Relates related first second)
    (isFirst : first.result = .ok a) (isSecond : second.result = .ok b) : related a b := by
  cases relates with
  | ok both requests =>
    obtain rfl := Except.ok.inj isFirst
    obtain rfl := Except.ok.inj isSecond
    exact both
  | error error requests => cases isFirst

end Traced.Relates

namespace Include

open Directive

/-! ### Resolving with another last step -/

variable (finish : Lines → Lines) (fetcher : Fetcher) (flags : Option FlagSet)

/-- The lines of the document at `location`, changed by `finish` once its includes are resolved. -/
def openFinishing (nested : Option Resolver) (chain : List Text) (origin : Option Text)
    (target : Text) (location : Location) : Traced Lines :=
  if chain.contains location.key then .fail (.includeCycle (chain ++ [location.key]))
  else
    match nested with
    | none => .fail (.includeTooDeep maxDepth location.text)
    | some resolve => do
      let raw ← fetcher.get (location.request target origin)
      let lines ← .ofExcept (Selection.resolve flags (Lines.ofText raw))
      let included ← resolve (chain ++ [location.key]) location.childOrigin? lines
      return finish included

def includeFinishing (outermost : Bool) (nested : Option Resolver) (chain : List Text)
    (origin : Option Text) (passed : Lines) (line : Line) (target : Text) : Traced Lines :=
  let location := Location.resolve target origin
  let wrapped := wrap line (Lines.before passed passed.length contextSize) location
  match Location.checkTarget target origin with
  | .error error => .fail (if outermost then error else wrapped error)
  | .ok () =>
    (openFinishing finish fetcher flags nested chain origin target location).mapError wrapped

def resolveFinishingWithin : (outermost : Bool) → (room : Nat) → Resolver
  | outermost, 0 => fun chain origin =>
    splice (includeFinishing finish fetcher flags outermost none chain origin) []
  | outermost, room + 1 => fun chain origin =>
    splice
      (includeFinishing finish fetcher flags outermost (some (resolveFinishingWithin false room))
        chain origin) []

/-- Resolves the includes of lines that belong to no document, where `finish` is the last step of
each include. -/
def resolveFinishing (origin : Option Text) (lines : Lines) : Traced Lines :=
  resolveFinishingWithin finish fetcher flags true maxDepth [] origin lines

theorem resolveFinishingWithin_eraseNearTop (outermost : Bool) (room : Nat) :
    resolveFinishingWithin (Lines.eraseNearTop isPatchNote patchNoteLimit) fetcher flags outermost
      room = resolveWithin fetcher flags outermost room := by
  induction room generalizing outermost with
  | zero => rfl
  | succ room ih =>
    rw [resolveFinishingWithin, ih, resolveWithin]
    rfl

theorem resolve_eq_finishing (origin : Option Text) (lines : Lines) :
    resolve fetcher flags origin lines =
      resolveFinishing (Lines.eraseNearTop isPatchNote patchNoteLimit) fetcher flags origin
        lines := by
  rw [resolveFinishing, resolveFinishingWithin_eraseNearTop]
  rfl

/-! ### Deleting patch notes -/

/-- The first lines are the second without some of their patch notes. -/
structure Trims (out plain : Lines) : Prop where
  sublist : out.Sublist plain
  others : withoutAnyNotes out = withoutAnyNotes plain

theorem trims_refl (lines : Lines) : Trims lines lines := ⟨List.Sublist.refl lines, rfl⟩

theorem Trims.trans {first second third : Lines} (once : Trims first second)
    (again : Trims second third) : Trims first third :=
  ⟨once.sublist.trans again.sublist, once.others.trans again.others⟩

theorem withoutAnyNotes_append (front behind : Lines) :
    withoutAnyNotes (front ++ behind) = withoutAnyNotes front ++ withoutAnyNotes behind :=
  List.filter_append front behind

theorem Trims.append {first second first' second' : Lines} (before : Trims first second)
    (behind : Trims first' second') : Trims (first ++ first') (second ++ second') := by
  refine ⟨before.sublist.append behind.sublist, ?_⟩
  rw [withoutAnyNotes_append, withoutAnyNotes_append, before.others, behind.others]

theorem sublist_eraseNearTop (drop : Line → Bool) (limit : Nat) (lines : Lines) :
    (Lines.eraseNearTop drop limit lines).Sublist lines := by
  induction lines generalizing limit with
  | nil => cases limit <;> exact List.Sublist.refl []
  | cons line rest ih =>
    cases limit with
    | zero => exact List.Sublist.refl _
    | succ limit =>
      rw [Lines.eraseNearTop]
      split
      · exact (ih limit).cons line
      · exact (ih limit).cons_cons line

theorem trims_eraseNearTop (limit : Nat) (lines : Lines) :
    Trims (Lines.eraseNearTop isPatchNote limit lines) lines :=
  ⟨sublist_eraseNearTop isPatchNote limit lines, withoutAnyNotes_eraseNearTop limit lines⟩

/-! ### The two runs -/

variable {finish fetcher flags}

theorem splice_relates {expand other : Lines → Line → Text → Traced Lines}
    (relates : ∀ passed line target,
      Traced.Relates Trims (expand passed line target) (other passed line target))
    (passed lines : Lines) :
    Traced.Relates Trims (splice expand passed lines) (splice other passed lines) := by
  induction lines generalizing passed with
  | nil => exact .refl trims_refl _
  | cons line rest ih =>
    have further := ih (passed ++ [line])
    rw [splice, splice]
    cases includeTarget? line with
    | none =>
      refine further.bind fun others others' behind => ?_
      exact .ok ((trims_refl [line]).append behind) []
    | some target =>
      refine (relates passed line target).bind fun included included' before => ?_
      refine further.bind fun others others' behind => ?_
      exact .ok (before.append behind) []

def Resolver.Relates (first second : Resolver) : Prop :=
  ∀ chain origin lines, Traced.Relates Trims (first chain origin lines) (second chain origin lines)

theorem openFinishing_relates {nested nested' : Option Resolver}
    (trims : ∀ lines, Trims (finish lines) lines)
    (relates : Option.Rel Resolver.Relates nested nested') (chain : List Text)
    (origin : Option Text) (target : Text) (location : Location) :
    Traced.Relates Trims
      (openFinishing finish fetcher flags nested chain origin target location)
      (openFinishing id fetcher flags nested' chain origin target location) := by
  unfold openFinishing
  split
  · exact .error _ []
  · cases relates with
    | none => exact .error _ []
    | some below =>
      -- both runs fetch and select the same lines, and differ only from the nested includes on
      refine (Traced.Relates.refl (fun _ => rfl) _).bind ?_
      rintro raw _ rfl
      refine (Traced.Relates.refl (fun _ => rfl) _).bind ?_
      rintro lines _ rfl
      refine (below _ _ lines).bind fun included plain part => ?_
      exact .ok ((trims included).trans part) []

theorem includeFinishing_relates {outermost : Bool} {nested nested' : Option Resolver}
    (trims : ∀ lines, Trims (finish lines) lines)
    (relates : Option.Rel Resolver.Relates nested nested') (chain : List Text)
    (origin : Option Text) (passed : Lines) (line : Line) (target : Text) :
    Traced.Relates Trims
      (includeFinishing finish fetcher flags outermost nested chain origin passed line target)
      (includeFinishing id fetcher flags outermost nested' chain origin passed line target) := by
  unfold includeFinishing
  cases Location.checkTarget target origin with
  | error error => exact .error _ []
  | ok accepted => exact (openFinishing_relates trims relates chain origin target _).mapError _

theorem resolveFinishingWithin_relates (trims : ∀ lines, Trims (finish lines) lines)
    (outermost : Bool) (room : Nat) :
    Resolver.Relates (resolveFinishingWithin finish fetcher flags outermost room)
      (resolveFinishingWithin id fetcher flags outermost room) := by
  induction room generalizing outermost with
  | zero =>
    intro chain origin lines
    exact splice_relates (includeFinishing_relates trims .none chain origin) [] lines
  | succ room ih =>
    intro chain origin lines
    exact splice_relates (includeFinishing_relates trims (.some (ih false)) chain origin) [] lines

theorem resolve_relates (origin : Option Text) (lines : Lines) :
    Traced.Relates Trims (resolve fetcher flags origin lines)
      (resolveFinishing id fetcher flags origin lines) := by
  rw [resolve_eq_finishing]
  exact resolveFinishingWithin_relates (trims_eraseNearTop patchNoteLimit) true maxDepth [] origin
    lines

theorem sublist_splice {expand : Lines → Line → Text → Traced Lines} {passed lines out : Lines}
    (spliced : (splice expand passed lines).result = .ok out) :
    (lines.filter fun line => (includeTarget? line).isNone).Sublist out := by
  induction lines generalizing passed out with
  | nil => exact List.nil_sublist out
  | cons line rest ih =>
    cases names : includeTarget? line with
    | none =>
      obtain ⟨others, further, rfl⟩ := (splice_line_result_eq_ok names).mp spliced
      rw [List.filter_cons_of_pos (by simp [names])]
      exact (ih further).cons_cons line
    | some target =>
      obtain ⟨included, others, -, further, rfl⟩ := (splice_include_result_eq_ok names).mp spliced
      rw [List.filter_cons_of_neg (by simp [names])]
      exact (ih further).trans (List.sublist_append_right included others)

/-- Removing patch notes from included documents changes nothing but patch notes. The run without
that step makes the same requests and fails when the resolver does, with the same error; where both
succeed, only patch notes of included documents are missing, and all lines of the document itself
are there. -/
theorem resolve_only_trims (fetcher : Fetcher) (flags : Option FlagSet) (origin : Option Text)
    (lines : Lines) :
    resolve fetcher flags origin lines =
      resolveFinishing (Lines.eraseNearTop isPatchNote patchNoteLimit) fetcher flags origin lines ∧
    (resolve fetcher flags origin lines).requests =
      (resolveFinishing id fetcher flags origin lines).requests ∧
    (∀ error, (resolve fetcher flags origin lines).result = .error error ↔
      (resolveFinishing id fetcher flags origin lines).result = .error error) ∧
    ∀ out plain, (resolve fetcher flags origin lines).result = .ok out →
      (resolveFinishing id fetcher flags origin lines).result = .ok plain →
        out.Sublist plain ∧ withoutAnyNotes out = withoutAnyNotes plain ∧
          (lines.filter fun line => (includeTarget? line).isNone).Sublist out := by
  have relates : Traced.Relates Trims (resolve fetcher flags origin lines)
      (resolveFinishing id fetcher flags origin lines) := resolve_relates origin lines
  refine ⟨resolve_eq_finishing fetcher flags origin lines, relates.requests_eq, relates.error_iff,
    ?_⟩
  intro out plain resolved untrimmed
  obtain ⟨part, same⟩ := relates.of_ok resolved untrimmed
  exact ⟨part, same, sublist_splice resolved⟩

/-- A document `a` that has a patch note and includes another with one. -/
def notedDocuments : Fetcher := fun request =>
  .ok (if request = .onDisk "a".toList none then "! Diff-Path: p\n!#include b".toList
    else "! Diff-Path: q\nx".toList)

/-- The note of the document itself stays, the notes of both included documents go. -/
theorem resolve_only_trims_nested :
    (resolve notedDocuments none none
        ["! Diff-Path: own".toList, "!#include a".toList, "y".toList]).result =
      .ok ["! Diff-Path: own".toList, "x".toList, "y".toList] ∧
    (resolveFinishing id notedDocuments none none
        ["! Diff-Path: own".toList, "!#include a".toList, "y".toList]).result =
      .ok ["! Diff-Path: own".toList, "! Diff-Path: p".toList, "! Diff-Path: q".toList,
        "x".toList, "y".toList] ∧
    ["! Diff-Path: own".toList, "x".toList, "y".toList].Sublist
      ["! Diff-Path: own".toList, "! Diff-Path: p".toList, "! Diff-Path: q".toList, "x".toList,
        "y".toList] ∧
    ["! Diff-Path: own".toList, "y".toList].Sublist
      ["! Diff-Path: own".toList, "x".toList, "y".toList] := by
  obtain ⟨-, -, -, succeeding⟩ := resolve_only_trims notedDocuments none none
    ["! Diff-Path: own".toList, "!#include a".toList, "y".toList]
  have resolved : (resolve notedDocuments none none
      ["! Diff-Path: own".toList, "!#include a".toList, "y".toList]).result =
      .ok ["! Diff-Path: own".toList, "x".toList, "y".toList] := by decide +kernel
  have untrimmed : (resolveFinishing id notedDocuments none none
      ["! Diff-Path: own".toList, "!#include a".toList, "y".toList]).result =
      .ok ["! Diff-Path: own".toList, "! Diff-Path: p".toList, "! Diff-Path: q".toList,
        "x".toList, "y".toList] := by decide +kernel
  obtain ⟨part, -, kept⟩ := succeeding _ _ resolved untrimmed
  exact ⟨resolved, untrimmed, part, kept⟩

end Include

end FilterPrep
