import FilterPrep.Proofs.Resolver
import FilterPrep.Proofs.Selection

/-!
# The course of a resolution

Rules for what happens while the includes of a document are resolved: which documents are opened
and closed, in which order, and how it ends. `Obstacle` lists what can stop one include, `Course`
puts the events of a whole document together. Every run of the resolver follows these rules
(`course_of_resolveWithin`), so what holds by induction on them holds of every run.
-/

namespace FilterPrep

theorem Traced.bind_pure_eq {α β : Type} (first : Traced α) (f : α → β) :
    (first >>= fun a => pure (f a)) = ⟨first.result.map f, first.requests⟩ := by
  obtain ⟨error | a, requests⟩ := first
  · rfl
  · rw [ok_bind]
    exact congrArg (Traced.mk _) (List.append_nil requests)

namespace Include

open Directive

inductive Event where
  /-- The document that `target` names in a document with this origin is asked for. It is open
  from now on. -/
  | opened (origin : Option Text) (target : Text)
  /-- The document that `target` names is not asked for. -/
  | refused (origin : Option Text) (target : Text)
  /-- The includes of the document opened last are resolved. -/
  | closed
  deriving DecidableEq, Repr

namespace Event

def request? : Event → Option Request
  | opened origin target => some ((Location.resolve target origin).request target origin)
  | _ => none

/-- The keys of the open documents after an event, in the order in which they were opened. -/
def update (keys : List Text) : Event → List Text
  | opened origin target => keys ++ [(Location.resolve target origin).key]
  | refused _ _ => keys
  | closed => keys.dropLast

end Event

def requestsOf (events : List Event) : List Request := events.filterMap Event.request?

def openAfter (keys : List Text) (events : List Event) : List Text := events.foldl Event.update keys

section

variable (origin : Option Text) (target : Text) (keys : List Text) (events others : List Event)

@[simp] theorem requestsOf_append :
    requestsOf (events ++ others) = requestsOf events ++ requestsOf others :=
  List.filterMap_append

@[simp] theorem requestsOf_opened : requestsOf (.opened origin target :: events) =
    (Location.resolve target origin).request target origin :: requestsOf events := rfl

@[simp] theorem requestsOf_closed : requestsOf (.closed :: events) = requestsOf events := rfl

@[simp] theorem openAfter_nil : openAfter keys [] = keys := rfl

@[simp] theorem openAfter_append :
    openAfter keys (events ++ others) = openAfter (openAfter keys events) others :=
  List.foldl_append

@[simp] theorem openAfter_opened : openAfter keys (.opened origin target :: events) =
    openAfter (keys ++ [(Location.resolve target origin).key]) events := rfl

@[simp] theorem openAfter_closed :
    openAfter keys (.closed :: events) = openAfter keys.dropLast events := rfl

end

/-- The target of an include may be asked for while the documents in `path` are open, `depth` of
them through includes. -/
structure Admissible (path : List Text) (depth : Nat) (origin : Option Text) (target : Text) :
    Prop where
  accepted : Location.checkTarget target origin = .ok ()
  fresh : (Location.resolve target origin).key ∉ path
  shallow : depth < maxDepth

/-- What stops an include in a document with this origin, with its last event. -/
inductive Obstacle (fetcher : Fetcher) (flags : Option FlagSet) (path : List Text) (depth : Nat)
    (origin : Option Text) (target : Text) : Event → CompileError → Prop where
  | foreign {error : CompileError} (rejected : Location.checkTarget target origin = .error error) :
      Obstacle fetcher flags path depth origin target (.refused origin target) error
  | cycle (accepted : Location.checkTarget target origin = .ok ())
      (isOpen : (Location.resolve target origin).key ∈ path) :
      Obstacle fetcher flags path depth origin target (.refused origin target)
        (.includeCycle (path ++ [(Location.resolve target origin).key]))
  | tooDeep (accepted : Location.checkTarget target origin = .ok ())
      (fresh : (Location.resolve target origin).key ∉ path) (full : depth = maxDepth) :
      Obstacle fetcher flags path depth origin target (.refused origin target)
        (.includeTooDeep maxDepth (Location.resolve target origin).text)
  | unfetched {error : FetchError} (admissible : Admissible path depth origin target)
      (answer : fetcher ((Location.resolve target origin).request target origin) = .error error) :
      Obstacle fetcher flags path depth origin target (.opened origin target) (.fetch error)
  | unselected {raw : Text} {error : CompileError}
      (admissible : Admissible path depth origin target)
      (answer : fetcher ((Location.resolve target origin).request target origin) = .ok raw)
      (wrong : Selection.resolve flags (Lines.ofText raw) = .error error) :
      Obstacle fetcher flags path depth origin target (.opened origin target) error

/-- The include gives a document with the lines `document`. -/
structure Opens (fetcher : Fetcher) (flags : Option FlagSet) (path : List Text) (depth : Nat)
    (origin : Option Text) (target : Text) (document : Lines) : Prop where
  admissible : Admissible path depth origin target
  selected : ∃ raw, fetcher ((Location.resolve target origin).request target origin) = .ok raw ∧
    Selection.resolve flags (Lines.ofText raw) = .ok document

/-- The includes in `lines`, which stand behind `passed` in a document, are resolved with these
events and this result. The documents in `start` are open from the beginning, those in `keys`
through includes. -/
inductive Course (fetcher : Fetcher) (flags : Option FlagSet) (start : List Text) :
    (keys : List Text) → (origin : Option Text) → (passed lines : Lines) → List Event →
      Except CompileError Lines → Prop where
  | done {keys origin passed} : Course fetcher flags start keys origin passed [] [] (.ok [])
  | content {keys origin passed line rest events result} (plain : includeTarget? line = none)
      (further : Course fetcher flags start keys origin (passed ++ [line]) rest events result) :
      Course fetcher flags start keys origin passed (line :: rest) events
        (result.map (line :: ·))
  | rejected {origin passed line rest target error} (names : includeTarget? line = some target)
      (rejected : Location.checkTarget target origin = .error error) :
      Course fetcher flags start [] origin passed (line :: rest) [.refused origin target]
        (.error error)
  | failed {keys origin passed line rest target event cause}
      (names : includeTarget? line = some target)
      (obstacle : Obstacle fetcher flags (start ++ keys) keys.length origin target event cause)
      (outermost : keys = [] → Location.checkTarget target origin = .ok ()) :
      Course fetcher flags start keys origin passed (line :: rest) [event]
        (.error (.includeFailed line (Lines.before passed passed.length contextSize)
          (some (Location.resolve target origin).text) cause))
  | inside {keys origin passed line rest target document events error}
      (names : includeTarget? line = some target)
      (opens : Opens fetcher flags (start ++ keys) keys.length origin target document)
      (below : Course fetcher flags start (keys ++ [(Location.resolve target origin).key])
        (Location.resolve target origin).childOrigin? [] document events (.error error)) :
      Course fetcher flags start keys origin passed (line :: rest)
        (.opened origin target :: events) (.error error)
  | included {keys origin passed line rest target document events included others result}
      (names : includeTarget? line = some target)
      (opens : Opens fetcher flags (start ++ keys) keys.length origin target document)
      (below : Course fetcher flags start (keys ++ [(Location.resolve target origin).key])
        (Location.resolve target origin).childOrigin? [] document events (.ok included))
      (further : Course fetcher flags start keys origin (passed ++ [line]) rest others result) :
      Course fetcher flags start keys origin passed (line :: rest)
        (.opened origin target :: events ++ .closed :: others)
        (result.map (Lines.eraseNearTop isPatchNote patchNoteLimit included ++ ·))

variable {fetcher : Fetcher} {flags : Option FlagSet} {start keys : List Text}
  {origin : Option Text} {passed lines : Lines}

/-! ### Errors of one include -/

theorem checkTarget_error {target : Text} {error : CompileError}
    (rejected : Location.checkTarget target origin = .error error) :
    (∃ place, error = .rejectedOrigin place) ∨ ∃ address, error = .invalidUrl address := by
  have unparsed : ∀ {address : Text} {cause : CompileError},
      Location.originOf address = .error cause → ∃ place, cause = .invalidUrl place := by
    intro address cause failed
    unfold Location.originOf at failed
    split at failed
    · cases failed
    · cases failed
      exact ⟨address, rfl⟩
  unfold Location.checkTarget at rejected
  split at rejected
  · split at rejected
    · rcases Except.bind_eq_error.mp rejected with theirs | ⟨theirs, -, rejected⟩
      · exact .inr (unparsed theirs)
      · rcases Except.bind_eq_error.mp rejected with ours | ⟨ours, -, rejected⟩
        · exact .inr (unparsed ours)
        · split at rejected
          · cases rejected
          · cases rejected
            exact .inl ⟨theirs, rfl⟩
    · cases rejected
  · cases rejected

theorem isOfCondition_of_resolve {error : CompileError}
    (failed : Selection.resolve flags lines = .error error) : error.isOfCondition = true := by
  cases flags with
  | none => cases failed
  | some flags => exact Selection.isOfCondition_of_select failed

theorem Obstacle.ne_includeFailed {path : List Text} {depth : Nat} {target : Text} {event : Event}
    {cause : CompileError} (obstacle : Obstacle fetcher flags path depth origin target event cause)
    (line : Line) (context : Lines) (place : Option Text) (inner : CompileError) :
    cause ≠ .includeFailed line context place inner := by
  rintro rfl
  cases obstacle with
  | foreign rejected =>
    rcases checkTarget_error rejected with ⟨place, same⟩ | ⟨address, same⟩
    · cases same
    · cases same
  | unselected admissible answer wrong => exact nomatch isOfCondition_of_resolve wrong

theorem wrap_eq {line : Line} {context : Lines} {location : Location} {cause : CompileError}
    (bare : ∀ line context place inner, cause ≠ .includeFailed line context place inner) :
    wrap line context location cause = .includeFailed line context (some location.text) cause := by
  cases cause with
  | includeFailed line context place inner => exact absurd rfl (bare line context place inner)
  | _ => rfl

theorem Course.wrapped {events : List Event} {error : CompileError}
    (course : Course fetcher flags start keys origin passed lines events (.error error))
    (nested : keys ≠ []) :
    ∃ line context place cause, error = .includeFailed line context place cause := by
  generalize ends : (Except.error error : Except CompileError Lines) = result at course
  induction course with
  | done => cases ends
  | content plain further ih => exact ih nested (Except.map_eq_error.mp ends.symm).symm
  | rejected names rejected => exact absurd rfl nested
  | failed names obstacle outermost =>
    cases ends
    exact ⟨_, _, _, _, rfl⟩
  | inside names opens below ih =>
    cases ends
    exact ih (by simp) rfl
  | included names opens below further ihBelow ihFurther =>
    exact ihFurther nested (Except.map_eq_error.mp ends.symm).symm

/-! ### Open documents -/

variable {events : List Event} {result : Except CompileError Lines}

/-- A document that is resolved leaves the open documents as it found them. -/
theorem Course.openAfter_eq {out : Lines}
    (course : Course fetcher flags start keys origin passed lines events result)
    (succeeds : result = .ok out) : openAfter keys events = keys := by
  induction course generalizing out with
  | done => rfl
  | content plain further ih =>
    obtain ⟨others, resolved, -⟩ := Except.map_eq_ok.mp succeeds
    exact ih resolved
  | rejected names rejected => cases succeeds
  | failed names obstacle outermost => cases succeeds
  | inside names opens below ih => cases succeeds
  | included names opens below further ihBelow ihFurther =>
    obtain ⟨others, resolved, -⟩ := Except.map_eq_ok.mp succeeds
    rw [List.cons_append, openAfter_opened, openAfter_append, ihBelow rfl, openAfter_closed,
      List.dropLast_concat]
    exact ihFurther resolved

theorem Course.openAfter_below {target : Text} {document included : Lines}
    (below : Course fetcher flags start (keys ++ [(Location.resolve target origin).key])
      (Location.resolve target origin).childOrigin? [] document events (.ok included)) :
    openAfter keys (.opened origin target :: events ++ [.closed]) = keys := by
  rw [List.cons_append, openAfter_opened, openAfter_append, below.openAfter_eq rfl,
    openAfter_closed, List.dropLast_concat, openAfter_nil]

/-! ### Every run follows the rules -/

/-- Below the open documents in `keys` the resolver follows the rules. -/
def Follows (fetcher : Fetcher) (flags : Option FlagSet) (start keys : List Text)
    (resolver : Resolver) : Prop :=
  ∀ origin lines, ∃ events,
    Course fetcher flags start keys origin [] lines events
      (resolver (start ++ keys) origin lines).result ∧
    (resolver (start ++ keys) origin lines).requests = requestsOf events

/-- How it ends when the document named by `target` is opened. -/
inductive Outcome (fetcher : Fetcher) (flags : Option FlagSet) (start keys : List Text)
    (origin : Option Text) (target : Text) : Traced Lines → Prop where
  | stopped {event cause}
      (obstacle : Obstacle fetcher flags (start ++ keys) keys.length origin target event cause) :
      Outcome fetcher flags start keys origin target ⟨.error cause, requestsOf [event]⟩
  | failed {document events error}
      (opens : Opens fetcher flags (start ++ keys) keys.length origin target document)
      (below : Course fetcher flags start (keys ++ [(Location.resolve target origin).key])
        (Location.resolve target origin).childOrigin? [] document events (.error error)) :
      Outcome fetcher flags start keys origin target
        ⟨.error error, requestsOf (.opened origin target :: events)⟩
  | resolved {document events included}
      (opens : Opens fetcher flags (start ++ keys) keys.length origin target document)
      (below : Course fetcher flags start (keys ++ [(Location.resolve target origin).key])
        (Location.resolve target origin).childOrigin? [] document events (.ok included)) :
      Outcome fetcher flags start keys origin target
        ⟨.ok (Lines.eraseNearTop isPatchNote patchNoteLimit included),
          requestsOf (.opened origin target :: events)⟩

/-- There is a resolver for the documents below exactly if one more include may be open, and it
follows the rules. -/
structure Continues (fetcher : Fetcher) (flags : Option FlagSet) (start keys : List Text)
    (nested : Option Resolver) : Prop where
  bottom : nested = none → keys.length = maxDepth
  deeper : ∀ resolver ∈ nested, keys.length < maxDepth ∧
    ∀ key, Follows fetcher flags start (keys ++ [key]) resolver

variable {nested : Option Resolver} {line : Line} {target : Text}

theorem openDocument_outcome (continues : Continues fetcher flags start keys nested)
    (accepted : Location.checkTarget target origin = .ok ()) :
    Outcome fetcher flags start keys origin target
      (openDocument fetcher flags nested (start ++ keys) origin target
        (Location.resolve target origin)) := by
  unfold openDocument
  by_cases isOpen : (Location.resolve target origin).key ∈ start ++ keys
  · rw [if_pos (by simpa using isOpen)]
    exact .stopped (.cycle accepted isOpen)
  rw [if_neg (by simpa using isOpen)]
  cases nested with
  | none => exact .stopped (.tooDeep accepted isOpen (continues.bottom rfl))
  | some resolver =>
    obtain ⟨shallow, follows⟩ := continues.deeper resolver rfl
    have admissible : Admissible (start ++ keys) keys.length origin target :=
      ⟨accepted, isOpen, shallow⟩
    dsimp only [Fetcher.get]
    cases answer : fetcher ((Location.resolve target origin).request target origin) with
    | error error => exact .stopped (.unfetched admissible answer)
    | ok raw =>
      simp only [Except.mapError, Traced.ok_bind, Traced.ofExcept]
      cases selected : Selection.resolve flags (Lines.ofText raw) with
      | error error => exact .stopped (.unselected admissible answer selected)
      | ok document =>
        have opens : Opens fetcher flags (start ++ keys) keys.length origin target document :=
          ⟨admissible, raw, answer, selected⟩
        obtain ⟨events, course, asked⟩ := follows (Location.resolve target origin).key
          (Location.resolve target origin).childOrigin? document
        rw [← List.append_assoc] at course asked
        simp only [Traced.ok_bind]
        cases run : resolver (start ++ keys ++ [(Location.resolve target origin).key])
            (Location.resolve target origin).childOrigin? document with
        | mk result requests =>
          rw [run] at course asked
          obtain rfl := asked
          cases result with
          | error error => exact .failed opens course
          | ok included =>
            have outcome := Outcome.resolved opens course
            simpa [pure] using outcome

theorem includeOne_rejected {outermost : Bool} {chain : List Text} {error : CompileError}
    (rejected : Location.checkTarget target origin = .error error) :
    includeOne fetcher flags outermost nested chain origin passed line target =
      .fail (if outermost then error else
        wrap line (Lines.before passed passed.length contextSize) (Location.resolve target origin)
          error) := by
  rw [includeOne, rejected]

theorem includeOne_accepted {outermost : Bool} {chain : List Text}
    (accepted : Location.checkTarget target origin = .ok ()) :
    includeOne fetcher flags outermost nested chain origin passed line target =
      (openDocument fetcher flags nested chain origin target
        (Location.resolve target origin)).mapError
          (wrap line (Lines.before passed passed.length contextSize)
            (Location.resolve target origin)) := by
  rw [includeOne, accepted]

theorem course_of_splice (continues : Continues fetcher flags start keys nested)
    (passed lines : Lines) :
    ∃ events,
      Course fetcher flags start keys origin passed lines events
        (splice (includeOne fetcher flags keys.isEmpty nested (start ++ keys) origin) passed
          lines).result ∧
      (splice (includeOne fetcher flags keys.isEmpty nested (start ++ keys) origin) passed
        lines).requests = requestsOf events := by
  induction lines generalizing passed with
  | nil => exact ⟨[], .done, rfl⟩
  | cons line rest ih =>
    obtain ⟨others, further, asked⟩ := ih (passed ++ [line])
    rw [splice]
    cases names : includeTarget? line with
    | none =>
      rw [Traced.bind_pure_eq]
      exact ⟨others, .content names further, asked⟩
    | some target =>
      dsimp only
      cases check : Location.checkTarget target origin with
      | error error =>
        have obstacle : Obstacle fetcher flags (start ++ keys) keys.length origin target _ error :=
          .foreign check
        rw [includeOne_rejected check, wrap_eq obstacle.ne_includeFailed]
        cases keys with
        | nil => exact ⟨_, .rejected names check, rfl⟩
        | cons key keys =>
          have nested : key :: keys ≠ [] := List.cons_ne_nil key keys
          exact ⟨_, .failed names obstacle fun empty => absurd empty nested, rfl⟩
      | ok _ =>
        rw [includeOne_accepted check]
        have outcome := openDocument_outcome continues check
        generalize openDocument fetcher flags nested (start ++ keys) origin target
          (Location.resolve target origin) = opened at outcome
        cases outcome with
        | stopped obstacle =>
          rw [Traced.mapError, Except.mapError, wrap_eq obstacle.ne_includeFailed]
          exact ⟨_, .failed names obstacle fun _ => check, rfl⟩
        | failed opens below =>
          -- an error from below is wrapped by the document it arose in and passes as it is
          obtain ⟨inner, context, place, cause, rfl⟩ := below.wrapped (by simp)
          exact ⟨_, .inside names opens below, rfl⟩
        | @resolved document events included opens below =>
          rw [Traced.mapError, Except.mapError, Traced.ok_bind, Traced.bind_pure_eq]
          refine ⟨_, .included names opens below further, ?_⟩
          simp [asked]

theorem course_of_resolveWithin (room : Nat) (keys : List Text)
    (enough : keys.length + room = maxDepth) :
    Follows fetcher flags start keys (resolveWithin fetcher flags keys.isEmpty room) := by
  induction room generalizing keys with
  | zero =>
    intro origin lines
    rw [resolveWithin, resolveWith_eq]
    apply course_of_splice
    exact ⟨fun _ => enough, nofun⟩
  | succ room ih =>
    intro origin lines
    rw [resolveWithin, resolveWith_eq]
    apply course_of_splice
    refine ⟨nofun, fun resolver same => ?_⟩
    obtain rfl := Option.some.inj same
    refine ⟨by omega, fun key => ?_⟩
    have fewer : (keys ++ [key]).length + room = maxDepth := by
      rw [List.length_append, List.length_singleton]
      omega
    have below := ih (keys ++ [key]) fewer
    rwa [show (keys ++ [key]).isEmpty = false by cases keys <;> rfl] at below

theorem course_of_resolveAt (fetcher : Fetcher) (flags : Option FlagSet) (start : List Text)
    (origin : Option Text) (lines : Lines) :
    ∃ events,
      Course fetcher flags start [] origin [] lines events
        (resolveAt fetcher flags 0 start origin lines).result ∧
      (resolveAt fetcher flags 0 start origin lines).requests = requestsOf events := by
  have follows : Follows fetcher flags start [] (resolveAt fetcher flags 0) :=
    course_of_resolveWithin maxDepth [] (Nat.zero_add _)
  have course := follows origin lines
  rwa [List.append_nil] at course

end Include

end FilterPrep
