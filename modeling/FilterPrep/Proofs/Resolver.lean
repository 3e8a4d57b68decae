import FilterPrep.Include
import Mathlib

/-!
# One step of resolving includes

When a computation that fetches succeeds and what it asks for, bind by bind; and from this what
opening a document and replacing one include line come to.
-/

namespace FilterPrep

namespace Traced

variable {α β : Type}

theorem bind_result_eq_ok {first : Traced α} {next : α → Traced β} {b : β} :
    (first >>= next).result = .ok b ↔
      ∃ a, first.result = .ok a ∧ (next a).result = .ok b := by
  obtain ⟨error | a, requests⟩ := first
  · simp
  · simp

theorem bind_result_eq_error {first : Traced α} {next : α → Traced β} {error : CompileError} :
    (first >>= next).result = .error error ↔
      first.result = .error error ∨
        ∃ a, first.result = .ok a ∧ (next a).result = .error error := by
  obtain ⟨failure | a, requests⟩ := first
  · simp
  · simp

theorem mem_bind_requests {first : Traced α} {next : α → Traced β} {request : Request} :
    request ∈ (first >>= next).requests ↔
      request ∈ first.requests ∨ ∃ a, first.result = .ok a ∧ request ∈ (next a).requests := by
  obtain ⟨error | a, requests⟩ := first
  · simp
  · simp

@[simp] theorem pure_result (a : α) : (pure a : Traced α).result = .ok a := rfl

@[simp] theorem ofExcept_result (result : Except CompileError α) :
    (ofExcept result).result = result := rfl

@[simp] theorem fail_result (error : CompileError) :
    (fail error : Traced α).result = .error error := rfl

@[simp] theorem mapError_requests (f : CompileError → CompileError) (t : Traced α) :
    (t.mapError f).requests = t.requests := rfl

theorem mapError_result_eq_ok {f : CompileError → CompileError} {t : Traced α} {a : α} :
    (t.mapError f).result = .ok a ↔ t.result = .ok a := by
  obtain ⟨error | a, requests⟩ := t <;> simp [mapError, Except.mapError]

end Traced

theorem Fetcher.get_result_eq_ok {fetcher : Fetcher} {request : Request} {text : Text} :
    (fetcher.get request).result = .ok text ↔ fetcher request = .ok text := by
  unfold Fetcher.get
  cases fetcher request <;> simp [Except.mapError]

theorem Fetcher.get_result_eq_error {fetcher : Fetcher} {request : Request} {error : CompileError} :
    (fetcher.get request).result = .error error ↔
      ∃ cause, fetcher request = .error cause ∧ .fetch cause = error := by
  unfold Fetcher.get
  cases fetcher request <;> simp [Except.mapError]

namespace Include

variable {fetcher : Fetcher} {flags : Option FlagSet} {chain : List Text} {origin : Option Text}
  {target : Text} {location : Location}

theorem openDocument_result_eq_ok {resolve : Resolver} {out : Lines} :
    (openDocument fetcher flags (some resolve) chain origin target location).result = .ok out ↔
      location.key ∉ chain ∧
        ∃ raw lines included, fetcher (location.request target origin) = .ok raw ∧
          Selection.resolve flags (Lines.ofText raw) = .ok lines ∧
          (resolve (chain ++ [location.key]) location.childOrigin? lines).result = .ok included ∧
          out = Lines.eraseNearTop isPatchNote patchNoteLimit included := by
  unfold openDocument
  by_cases isOpen : location.key ∈ chain
  · simp [isOpen]
  · simp only [List.contains_eq_mem, isOpen, decide_false, Bool.false_eq_true, if_false,
      not_false_eq_true, true_and, Traced.bind_result_eq_ok, Fetcher.get_result_eq_ok,
      Traced.ofExcept_result, Traced.pure_result, Except.ok.injEq]
    constructor
    · rintro ⟨raw, fetched, lines, selected, included, resolved, rfl⟩
      exact ⟨raw, lines, included, fetched, selected, resolved, rfl⟩
    · rintro ⟨raw, lines, included, fetched, selected, resolved, rfl⟩
      exact ⟨raw, fetched, lines, selected, included, resolved, rfl⟩

theorem openDocument_none_result (out : Lines) :
    (openDocument fetcher flags none chain origin target location).result ≠ .ok out := by
  unfold openDocument
  split <;> simp

variable {expand : Lines → Line → Text → Traced Lines} {passed rest out : Lines} {line : Line}

theorem splice_line_result_eq_ok (content : Directive.includeTarget? line = none) :
    (splice expand passed (line :: rest)).result = .ok out ↔
      ∃ others, (splice expand (passed ++ [line]) rest).result = .ok others ∧
        out = line :: others := by
  rw [splice, content]
  simp only [Traced.bind_result_eq_ok, Traced.pure_result, Except.ok.injEq]
  constructor
  · rintro ⟨others, spliced, rfl⟩
    exact ⟨others, spliced, rfl⟩
  · rintro ⟨others, spliced, rfl⟩
    exact ⟨others, spliced, rfl⟩

theorem splice_include_result_eq_ok (names : Directive.includeTarget? line = some target) :
    (splice expand passed (line :: rest)).result = .ok out ↔
      ∃ included others, (expand passed line target).result = .ok included ∧
        (splice expand (passed ++ [line]) rest).result = .ok others ∧ out = included ++ others := by
  rw [splice, names]
  simp only [Traced.bind_result_eq_ok, Traced.pure_result, Except.ok.injEq]
  constructor
  · rintro ⟨included, expanded, others, spliced, rfl⟩
    exact ⟨included, others, expanded, spliced, rfl⟩
  · rintro ⟨included, others, expanded, spliced, rfl⟩
    exact ⟨included, expanded, others, spliced, rfl⟩

/-- What one include line is replaced by. -/
def includeOne (fetcher : Fetcher) (flags : Option FlagSet) (outermost : Bool)
    (nested : Option Resolver) (chain : List Text) (origin : Option Text) (passed : Lines)
    (line : Line) (target : Text) : Traced Lines :=
  let location := Location.resolve target origin
  let wrapped := wrap line (Lines.before passed passed.length contextSize) location
  match Location.checkTarget target origin with
  | .error error => .fail (if outermost then error else wrapped error)
  | .ok () => (openDocument fetcher flags nested chain origin target location).mapError wrapped

variable {outermost : Bool} {nested : Option Resolver}

theorem resolveWith_eq (lines : Lines) :
    resolveWith fetcher flags outermost nested chain origin lines =
      splice (includeOne fetcher flags outermost nested chain origin) [] lines := rfl

theorem includeOne_result_eq_ok {included : Lines} :
    (includeOne fetcher flags outermost nested chain origin passed line target).result =
        .ok included ↔
      Location.checkTarget target origin = .ok () ∧
        (openDocument fetcher flags nested chain origin target
          (Location.resolve target origin)).result = .ok included := by
  unfold includeOne
  cases Location.checkTarget target origin with
  | error error => simp
  | ok accepted => simp [Traced.mapError_result_eq_ok]

end Include

end FilterPrep
