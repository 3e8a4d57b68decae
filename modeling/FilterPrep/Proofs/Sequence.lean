import FilterPrep.Proofs.Failure
import FilterPrep.Proofs.Placement

/-!
# Includes in document order

The includes of a document are resolved one after the other and the first failure ends it. So a
document in two parts is resolved part by part, request by request (`resolveAt_append`). Nothing of
the first part shows in what the second comes to, except the lines in front of a failing include.
-/

namespace FilterPrep

variable {α β : Type}

/-- Two computations that ask for the same and end alike: with the same value or with related
errors. -/
inductive Traced.Alike (related : CompileError → CompileError → Prop) :
    Traced α → Traced α → Prop where
  | ok (a : α) (requests : List Request) : Alike related ⟨.ok a, requests⟩ ⟨.ok a, requests⟩
  | error {error other : CompileError} (relates : related error other) (requests : List Request) :
      Alike related ⟨.error error, requests⟩ ⟨.error other, requests⟩

namespace Traced.Alike

variable {related : CompileError → CompileError → Prop} {first second : Traced α}

theorem pure (a : α) : Alike related (Pure.pure a) (Pure.pure a) := .ok a []

theorem bind {next further : α → Traced β} (alike : Alike related first second)
    (continues : ∀ a, Alike related (next a) (further a)) :
    Alike related (first >>= next) (second >>= further) := by
  cases alike with
  | error relates requests => exact .error relates requests
  | ok a requests =>
    rw [ok_bind, ok_bind]
    have behind := continues a
    generalize next a = left, further a = right at behind
    cases behind with
    | ok b more => exact .ok b (requests ++ more)
    | error relates more => exact .error relates (requests ++ more)

end Traced.Alike

theorem Lines.before_append (front passed : Lines) (count : Nat) :
    before (front ++ passed) (front ++ passed).length count =
      before front front.length (count - passed.length) ++ before passed passed.length count := by
  unfold before
  rw [List.take_length, List.take_length, List.take_length, Nat.min_self, Nat.min_self,
    Nat.min_self, List.drop_append, List.length_append]
  have reach : front.drop (front.length + passed.length - count) =
      front.drop (front.length - (count - passed.length)) := by
    by_cases few : passed.length ≤ count
    · congr 1
      omega
    · rw [List.drop_eq_nil_of_le (by omega), List.drop_eq_nil_of_le (by omega)]
  rw [reach, show front.length + passed.length - count - front.length = passed.length - count by
    omega]

namespace Include

open Directive

/-- How the error of `lines` on their own is reported when the lines `front` precede them. An
include of these lines is then shown with the last lines of `front` as well, as far as fewer than
`contextSize` of their own precede it; all other errors stay as they are. -/
inductive Reported (fetcher : Fetcher) (flags : Option FlagSet) (depth : Nat) (chain : List Text)
    (origin : Option Text) (front lines : Lines) : CompileError → CompileError → Prop where
  | bare {line target error} (member : line ∈ lines) (names : includeTarget? line = some target)
      (outermost : depth = 0) (rejected : Location.checkTarget target origin = .error error) :
      Reported fetcher flags depth chain origin front lines error error
  | inside {line target document error} (member : line ∈ lines)
      (names : includeTarget? line = some target)
      (opens : Opens fetcher flags chain depth origin target document)
      (failed : (resolveAt fetcher flags (depth + 1)
        (chain ++ [(Location.resolve target origin).key])
        (Location.resolve target origin).childOrigin? document).result = .error error) :
      Reported fetcher flags depth chain origin front lines error error
  | own {i line target cause} (position : lines[i]? = some line)
      (names : includeTarget? line = some target)
      (once : ∀ line context place inner, cause ≠ .includeFailed line context place inner) :
      Reported fetcher flags depth chain origin front lines
        (.includeFailed line (Lines.before lines i contextSize)
          (some (Location.resolve target origin).text) cause)
        (.includeFailed line
          (Lines.before front front.length (contextSize - i) ++ Lines.before lines i contextSize)
          (some (Location.resolve target origin).text) cause)

variable {fetcher : Fetcher} {flags : Option FlagSet} {depth : Nat} {chain : List Text}
  {origin : Option Text} {front passed rest : Lines} {line : Line} {target : Text}

/-! ### One include -/

theorem inside_of_openDocument {inner : Line} {context : Lines} {place : Option Text}
    {cause : CompileError} (accepted : Location.checkTarget target origin = .ok ())
    (failed : (openDocument fetcher flags (nestedAt fetcher flags depth) chain origin target
      (Location.resolve target origin)).result =
        .error (.includeFailed inner context place cause)) :
    ∃ document, Opens fetcher flags chain depth origin target document ∧
      (resolveAt fetcher flags (depth + 1) (chain ++ [(Location.resolve target origin).key])
        (Location.resolve target origin).childOrigin? document).result =
          .error (.includeFailed inner context place cause) := by
  unfold openDocument at failed
  by_cases isOpen : (Location.resolve target origin).key ∈ chain
  · rw [if_pos (by simpa using isOpen)] at failed
    cases failed
  rw [if_neg (by simpa using isOpen)] at failed
  unfold nestedAt at failed
  by_cases shallow : depth < maxDepth
  · rw [if_pos shallow] at failed
    -- of the steps below, only the last one can fail with an error that is wrapped already
    rcases Traced.bind_result_eq_error.mp failed with unfetched | ⟨raw, fetched, failed⟩
    · obtain ⟨error, -, same⟩ := Fetcher.get_result_eq_error.mp unfetched
      cases same
    rcases Traced.bind_result_eq_error.mp failed with unselected | ⟨document, selected, failed⟩
    · exact nomatch isOfCondition_of_resolve unselected
    rcases Traced.bind_result_eq_error.mp failed with below | ⟨included, -, failed⟩
    · exact ⟨document, ⟨⟨accepted, isOpen, shallow⟩, raw, Fetcher.get_result_eq_ok.mp fetched,
        selected⟩, below⟩
    · cases failed
  · rw [if_neg shallow] at failed
    cases failed

theorem reported_wrap {cause : CompileError} (names : includeTarget? line = some target)
    (once : ∀ line context place inner, cause ≠ .includeFailed line context place inner) :
    Reported fetcher flags depth chain origin front (passed ++ line :: rest)
      (wrap line (Lines.before passed passed.length contextSize) (Location.resolve target origin)
        cause)
      (wrap line (Lines.before (front ++ passed) (front ++ passed).length contextSize)
        (Location.resolve target origin) cause) := by
  have whole : Lines.before passed passed.length contextSize =
      Lines.before (passed ++ line :: rest) passed.length contextSize := by
    rw [before_eq_drop passed (line :: rest), Lines.before, List.length_append,
      Nat.min_eq_left (Nat.le_add_right _ _)]
  rw [wrap_eq once, wrap_eq once, Lines.before_append, whole]
  exact .own (by simp) names once

theorem includeOne_alike (names : includeTarget? line = some target) :
    Traced.Alike (Reported fetcher flags depth chain origin front (passed ++ line :: rest))
      (includeOne fetcher flags (depth == 0) (nestedAt fetcher flags depth) chain origin passed
        line target)
      (includeOne fetcher flags (depth == 0) (nestedAt fetcher flags depth) chain origin
        (front ++ passed) line target) := by
  have member : line ∈ passed ++ line :: rest := by simp
  cases check : Location.checkTarget target origin with
  | error error =>
    have obstacle : Obstacle fetcher flags chain depth origin target _ error := .foreign check
    rw [includeOne_rejected check, includeOne_rejected check]
    by_cases outermost : depth = 0
    · rw [if_pos (by simpa using outermost), if_pos (by simpa using outermost)]
      exact .error (.bare member names outermost check) []
    · rw [if_neg (by simpa using outermost), if_neg (by simpa using outermost)]
      exact .error (reported_wrap names obstacle.ne_includeFailed) []
  | ok accepted =>
    rw [includeOne_accepted check, includeOne_accepted check]
    cases opened : openDocument fetcher flags (nestedAt fetcher flags depth) chain origin target
        (Location.resolve target origin) with
    | mk result requests =>
      cases result with
      | ok included => exact .ok included requests
      | error cause =>
        by_cases wrapped : ∃ inner context place below,
            cause = .includeFailed inner context place below
        · obtain ⟨inner, context, place, below, rfl⟩ := wrapped
          obtain ⟨document, opens, failed⟩ := inside_of_openDocument check
            (congrArg Traced.result opened)
          exact .error (.inside member names opens failed) requests
        · have once : ∀ line context place inner,
              cause ≠ .includeFailed line context place inner :=
            fun line context place inner same => wrapped ⟨line, context, place, inner, same⟩
          exact .error (reported_wrap names once) requests

/-! ### Documents in two parts -/

theorem splice_append (expand : Lines → Line → Text → Traced Lines)
    (passed first second : Lines) :
    splice expand passed (first ++ second) = do
      let spliced ← splice expand passed first
      let others ← splice expand (passed ++ first) second
      return spliced ++ others := by
  induction first generalizing passed with
  | nil => simp [splice]
  | cons line first ih =>
    have behind : passed ++ [line] ++ first = passed ++ line :: first := List.append_cons .. |>.symm
    rw [List.cons_append, splice, splice]
    cases includeTarget? line with
    | none => simp [ih, behind]
    | some target => simp [ih, behind, ← List.append_assoc]

theorem splice_alike (fetcher : Fetcher) (flags : Option FlagSet) (depth : Nat)
    (chain : List Text) (origin : Option Text) (front passed rest : Lines) :
    Traced.Alike (Reported fetcher flags depth chain origin front (passed ++ rest))
      (splice (includeOne fetcher flags (depth == 0) (nestedAt fetcher flags depth) chain origin)
        passed rest)
      (splice (includeOne fetcher flags (depth == 0) (nestedAt fetcher flags depth) chain origin)
        (front ++ passed) rest) := by
  induction rest generalizing passed with
  | nil => exact .pure []
  | cons line rest ih =>
    have further := ih (passed ++ [line])
    rw [← List.append_assoc, ← List.append_cons] at further
    rw [splice, splice]
    cases names : includeTarget? line with
    | none => exact further.bind fun others => .pure _
    | some target =>
      exact (includeOne_alike names).bind fun included => further.bind fun others => .pure _

/-- The second part of a document is resolved behind the first, with what it asks for on its own.
It gives its own lines or fails with its own error, where an include of the second part is shown
with lines of the first one too; and nothing follows a failure of the first part. -/
theorem resolveAt_append (fetcher : Fetcher) (flags : Option FlagSet) (depth : Nat)
    (chain : List Text) (origin : Option Text) (first second : Lines) :
    (∀ out, (resolveAt fetcher flags depth chain origin first).result = .ok out →
      (resolveAt fetcher flags depth chain origin (first ++ second)).requests =
        (resolveAt fetcher flags depth chain origin first).requests ++
          (resolveAt fetcher flags depth chain origin second).requests ∧
      (∀ others, (resolveAt fetcher flags depth chain origin second).result = .ok others →
        (resolveAt fetcher flags depth chain origin (first ++ second)).result =
          .ok (out ++ others)) ∧
      ∀ error, (resolveAt fetcher flags depth chain origin second).result = .error error →
        ∃ shown, Reported fetcher flags depth chain origin first second error shown ∧
          (resolveAt fetcher flags depth chain origin (first ++ second)).result = .error shown) ∧
    ∀ error, (resolveAt fetcher flags depth chain origin first).result = .error error →
      resolveAt fetcher flags depth chain origin (first ++ second) =
        ⟨.error error, (resolveAt fetcher flags depth chain origin first).requests⟩ := by
  have alike := splice_alike fetcher flags depth chain origin first [] second
  rw [List.nil_append, List.append_nil, ← resolveAt_eq_splice] at alike
  have parts := splice_append (includeOne fetcher flags (depth == 0)
    (nestedAt fetcher flags depth) chain origin) [] first second
  rw [List.nil_append, ← resolveAt_eq_splice, ← resolveAt_eq_splice] at parts
  rw [parts]
  generalize resolveAt fetcher flags depth chain origin first = front
  generalize resolveAt fetcher flags depth chain origin second = alone at alike
  obtain ⟨result, requests⟩ := front
  constructor
  · rintro out rfl
    rw [Traced.ok_bind, Traced.bind_pure_eq]
    generalize splice _ first second = behind at alike
    cases alike with
    | ok others more =>
      refine ⟨rfl, ?_, nofun⟩
      rintro others ⟨⟩
      rfl
    | error reported more =>
      refine ⟨rfl, nofun, ?_⟩
      rintro error ⟨⟩
      exact ⟨_, reported, rfl⟩
  · rintro error rfl
    rfl

/-- A disk with a single document. -/
def onlyDocument : Fetcher := fun request =>
  if request = .onDisk "a".toList none then .ok "x".toList
  else .error (.unreadable "b".toList [])

/-- A document that fails in its second part shows a line of the first; one that fails in its first
part asks for nothing else. -/
theorem resolveAt_append_context :
    ((resolveAt onlyDocument none 0 [] none ["!#include a".toList]).result = .ok ["x".toList] ∧
      (resolveAt onlyDocument none 0 [] none ["y".toList, "!#include b".toList]).result =
        .error (.includeFailed "!#include b".toList ["y".toList] (some "b".toList)
          (.fetch (.unreadable "b".toList []))) ∧
      ∃ shown, Reported onlyDocument none 0 [] none ["!#include a".toList]
          ["y".toList, "!#include b".toList]
          (.includeFailed "!#include b".toList ["y".toList] (some "b".toList)
            (.fetch (.unreadable "b".toList []))) shown ∧
        (resolveAt onlyDocument none 0 [] none
          (["!#include a".toList] ++ ["y".toList, "!#include b".toList])).result = .error shown ∧
        shown = .includeFailed "!#include b".toList ["!#include a".toList, "y".toList]
          (some "b".toList) (.fetch (.unreadable "b".toList []))) ∧
    resolveAt onlyDocument none 0 [] none (["!#include b".toList] ++ ["!#include a".toList]) =
      ⟨.error (.includeFailed "!#include b".toList [] (some "b".toList)
        (.fetch (.unreadable "b".toList []))), [.onDisk "b".toList none]⟩ := by
  have first : (resolveAt onlyDocument none 0 [] none ["!#include a".toList]).result =
      .ok ["x".toList] := by decide +kernel
  have second : (resolveAt onlyDocument none 0 [] none ["y".toList, "!#include b".toList]).result =
      .error (.includeFailed "!#include b".toList ["y".toList] (some "b".toList)
        (.fetch (.unreadable "b".toList []))) := by decide +kernel
  refine ⟨⟨first, second, ?_⟩, ?_⟩
  · obtain ⟨shown, reported, failed⟩ := ((resolveAt_append onlyDocument none 0 [] none
      ["!#include a".toList] ["y".toList, "!#include b".toList]).1 _ first).2.2 _ second
    refine ⟨shown, reported, failed, Except.error.inj (failed.symm.trans ?_)⟩
    decide +kernel
  · exact (resolveAt_append onlyDocument none 0 [] none ["!#include b".toList]
      ["!#include a".toList]).2 _ (by decide +kernel)

end Include

end FilterPrep
