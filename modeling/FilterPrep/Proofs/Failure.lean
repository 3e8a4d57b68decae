import FilterPrep.Proofs.Course

/-!
# Failed includes

When includes cannot be resolved, the error names the include that failed and shows what stands in
front of it, however deep it lies. It is wrapped once, by the document that holds the include; only
a target that the outermost document may not include is reported bare.
-/

namespace FilterPrep.Include

open Directive

/-- The includes of one document lead to another, which is open below the keys `inner`. -/
inductive Leads (fetcher : Fetcher) (flags : Option FlagSet) (start : List Text) :
    (keys : List Text) → (origin : Option Text) → (lines : Lines) →
    (inner : List Text) → (home : Option Text) → (document : Lines) → Prop where
  | here {keys origin lines} : Leads fetcher flags start keys origin lines keys origin lines
  | into {keys origin lines line target opened inner home document} (member : line ∈ lines)
      (names : includeTarget? line = some target)
      (opens : Opens fetcher flags (start ++ keys) keys.length origin target opened)
      (below : Leads fetcher flags start (keys ++ [(Location.resolve target origin).key])
        (Location.resolve target origin).childOrigin? opened inner home document) :
      Leads fetcher flags start keys origin lines inner home document

/-- An include at index `i` of a document below the open documents `keys` fails with `event`, and
`error` shows it: the line, those in front of it, its location, and what stopped it. -/
inductive Reports (fetcher : Fetcher) (flags : Option FlagSet) (start keys : List Text)
    (origin : Option Text) (document : Lines) (i : Nat) (event : Event) : CompileError → Prop where
  | mk {line target cause} (position : document[i]? = some line)
      (names : includeTarget? line = some target)
      (obstacle : Obstacle fetcher flags (start ++ keys) keys.length origin target event cause)
      (outermost : keys = [] → Location.checkTarget target origin = .ok ())
      (once : ∀ line context place inner, cause ≠ .includeFailed line context place inner) :
      Reports fetcher flags start keys origin document i event
        (.includeFailed line ((document.take i).drop (i - contextSize))
          (some (Location.resolve target origin).text) cause)

variable {fetcher : Fetcher} {flags : Option FlagSet} {start keys : List Text}
  {origin : Option Text} {passed lines : Lines} {events : List Event} {error : CompileError}

theorem before_eq_drop (passed rest : Lines) (count : Nat) :
    Lines.before passed passed.length count =
      ((passed ++ rest).take passed.length).drop (passed.length - count) := by
  rw [Lines.before, List.take_length, Nat.min_self, List.take_left]

/-- The failure lies in a document that is open when it happens: at the end of the events. -/
theorem Course.failure
    (course : Course fetcher flags start keys origin passed lines events (.error error)) :
    (keys = [] ∧ ∃ line ∈ lines, ∃ target, includeTarget? line = some target ∧
      Location.checkTarget target origin = .error error) ∨
    ∃ before event home document i, events = before ++ [event] ∧
      Leads fetcher flags start keys origin (passed ++ lines) (openAfter keys before) home
        document ∧
      Reports fetcher flags start (openAfter keys before) home document i event error := by
  generalize ends : (Except.error error : Except CompileError Lines) = result at course
  induction course with
  | done => cases ends
  | content plain further ih =>
    obtain rfl := Except.map_eq_error.mp ends.symm
    rcases ih rfl with ⟨top, other, member, found⟩ | found
    · exact .inl ⟨top, other, List.mem_cons_of_mem _ member, found⟩
    · rw [List.append_assoc, List.singleton_append] at found
      exact .inr found
  | rejected names rejected =>
    cases ends
    exact .inl ⟨rfl, _, List.mem_cons_self, _, names, rejected⟩
  | @failed keys origin passed line rest target event cause names obstacle outermost =>
    cases ends
    refine .inr ⟨[], event, origin, _, passed.length, rfl, .here, ?_⟩
    rw [before_eq_drop passed (line :: rest)]
    exact .mk (by simp) names obstacle outermost obstacle.ne_includeFailed
  | @inside keys origin passed line rest target opened events error names opens below ih =>
    cases ends
    -- the document lies below another one, so it does not report bare errors
    rcases ih rfl with ⟨top, -⟩ | ⟨before, event, home, document, i, rfl, leads, reports⟩
    · simp at top
    · exact .inr ⟨.opened origin target :: before, event, home, document, i, rfl,
        .into (by simp) names opens leads, reports⟩
  | @included keys origin passed line rest target opened events included others result names opens
      below further ihBelow ihFurther =>
    obtain rfl := Except.map_eq_error.mp ends.symm
    rcases ihFurther rfl with ⟨top, other, member, found⟩ | ⟨before, event, home, document, i, rfl,
      leads, reports⟩
    · exact .inl ⟨top, other, List.mem_cons_of_mem _ member, found⟩
    · have path : openAfter keys (.opened origin target :: events ++ [.closed] ++ before) =
          openAfter keys before := by
        rw [openAfter_append, below.openAfter_below]
      rw [List.append_assoc, List.singleton_append] at leads
      rw [← path] at leads reports
      exact .inr ⟨_, event, home, document, i, by simp, leads, reports⟩

/-- Why the includes of `lines` could not be resolved by the run `t`: the document itself names a
target that it may not include, or the error reports an include of a document that is open when
the run ends. -/
def Explains (fetcher : Fetcher) (flags : Option FlagSet) (origin : Option Text) (lines : Lines)
    (t : Traced Lines) (error : CompileError) : Prop :=
  (∃ line ∈ lines, ∃ target, includeTarget? line = some target ∧
    Location.checkTarget target origin = .error error ∧
    ((∃ place, error = .rejectedOrigin place) ∨ ∃ address, error = .invalidUrl address)) ∨
  ∃ before event home document i,
    Course fetcher flags [] [] origin [] lines (before ++ [event]) t.result ∧
    t.requests = requestsOf (before ++ [event]) ∧
    Leads fetcher flags [] [] origin lines (openAfter [] before) home document ∧
    Reports fetcher flags [] (openAfter [] before) home document i event error

/-- A failure is reported bare for a forbidden target of the outermost document, and otherwise
wrapped exactly once by the document that holds the include. -/
theorem resolve_explains (fetcher : Fetcher) (flags : Option FlagSet) (origin : Option Text)
    (lines : Lines) (error : CompileError)
    (failed : (resolve fetcher flags origin lines).result = .error error) :
    Explains fetcher flags origin lines (resolve fetcher flags origin lines) error := by
  obtain ⟨events, course, requests⟩ := course_of_resolveAt fetcher flags [] origin lines
  have ended : (resolveAt fetcher flags 0 [] origin lines).result = .error error := failed
  rw [ended] at course
  rcases course.failure with ⟨-, line, member, target, names, rejected⟩ |
    ⟨before, event, home, document, i, rfl, leads, reports⟩
  · exact .inl ⟨line, member, target, names, rejected, checkTarget_error rejected⟩
  · refine .inr ⟨before, event, home, document, i, ?_, requests, leads, reports⟩
    rw [failed]
    exact course

/-- A missing document is reported by the document that includes it, whatever led to that one. -/
theorem resolve_explains_nested :
    (resolve (fun request => if request = .onDisk "sub.txt".toList none then
        .ok "x\n!#include gone.txt".toList else .error (.unreadable "gone.txt".toList []))
      none none ["!#include sub.txt".toList]).result =
      .error (.includeFailed "!#include gone.txt".toList ["x".toList] (some "gone.txt".toList)
        (.fetch (.unreadable "gone.txt".toList []))) ∧
    Explains (fun request => if request = .onDisk "sub.txt".toList none then
        .ok "x\n!#include gone.txt".toList else .error (.unreadable "gone.txt".toList []))
      none none ["!#include sub.txt".toList]
      (resolve (fun request => if request = .onDisk "sub.txt".toList none then
          .ok "x\n!#include gone.txt".toList else .error (.unreadable "gone.txt".toList []))
        none none ["!#include sub.txt".toList])
      (.includeFailed "!#include gone.txt".toList ["x".toList] (some "gone.txt".toList)
        (.fetch (.unreadable "gone.txt".toList []))) :=
  ⟨by decide +kernel, resolve_explains _ _ _ _ _ (by decide +kernel)⟩

end FilterPrep.Include
