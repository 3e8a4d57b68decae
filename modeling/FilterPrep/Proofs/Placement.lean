import FilterPrep.Download
import FilterPrep.Proofs.IncludeTree

/-!
# Where a document is included from

The documents that are open above an include can only make it fail: fewer of them give the same
lines by the same requests. So what is put in place of an include is what its document compiles to
on its own, and a downloaded list has the lines of its compiled text (`placement_irrelevant`).
-/

namespace FilterPrep

variable {α β : Type}

/-- Whenever the first computation succeeds, the second one is the same. -/
def Traced.Keeps (first second : Traced α) : Prop := ∀ a, first.result = .ok a → second = first

namespace Traced.Keeps

variable {first second : Traced α}

theorem refl (t : Traced α) : t.Keeps t := fun _ _ => rfl

theorem of_fail {error : CompileError} (second : Traced α) : (Traced.fail error).Keeps second :=
  nofun

theorem bind {next further : α → Traced β} (keeps : first.Keeps second)
    (continues : ∀ a, (next a).Keeps (further a)) :
    (first >>= next).Keeps (second >>= further) := by
  intro b succeeds
  obtain ⟨a, begun, ended⟩ := Traced.bind_result_eq_ok.mp succeeds
  rw [keeps a begun]
  obtain ⟨result, requests⟩ := first
  obtain rfl : result = .ok a := begun
  rw [Traced.ok_bind, Traced.ok_bind, continues a b ended]

theorem mapError (keeps : first.Keeps second) (f : CompileError → CompileError) :
    (first.mapError f).Keeps (second.mapError f) := by
  intro a succeeds
  rw [keeps a (Traced.mapError_result_eq_ok.mp succeeds)]

end Traced.Keeps

namespace Include

open Directive

variable {fetcher : Fetcher} {flags : Option FlagSet} {origin : Option Text} {lines : Lines}

/-- Below fewer open documents the second resolver does what the first one does. -/
def Resolver.Keeps (strict lenient : Resolver) : Prop :=
  ∀ chain fewer origin lines, fewer ⊆ chain →
    (strict chain origin lines).Keeps (lenient fewer origin lines)

variable {chain fewer : List Text} {strict lenient : Option Resolver}

theorem splice_keeps {expand other : Lines → Line → Text → Traced Lines}
    (keeps : ∀ passed line target, (expand passed line target).Keeps (other passed line target))
    (passed lines : Lines) : (splice expand passed lines).Keeps (splice other passed lines) := by
  induction lines generalizing passed with
  | nil => exact .refl _
  | cons line rest ih =>
    rw [splice, splice]
    cases includeTarget? line with
    | none => exact (ih _).bind fun others => .refl _
    | some target =>
      exact (keeps passed line target).bind fun included => (ih _).bind fun others => .refl _

theorem openDocument_keeps (fewerOpen : fewer ⊆ chain)
    (nested : ∀ resolver ∈ strict, ∃ other ∈ lenient, Resolver.Keeps resolver other)
    (target : Text) (location : Location) :
    (openDocument fetcher flags strict chain origin target location).Keeps
      (openDocument fetcher flags lenient fewer origin target location) := by
  unfold openDocument
  by_cases isOpen : location.key ∈ chain
  · rw [if_pos (by simpa using isOpen)]
    exact .of_fail _
  have notOpen : location.key ∉ fewer := fun again => isOpen (fewerOpen again)
  rw [if_neg (by simpa using isOpen), if_neg (by simpa using notOpen)]
  cases strict with
  | none => exact .of_fail _
  | some resolver =>
    obtain ⟨other, rfl, below⟩ := nested resolver rfl
    have oneMore : fewer ++ [location.key] ⊆ chain ++ [location.key] := by
      intro key member
      rcases List.mem_append.mp member with above | here
      · exact List.mem_append_left _ (fewerOpen above)
      · exact List.mem_append_right _ here
    refine (Traced.Keeps.refl _).bind fun raw => (Traced.Keeps.refl _).bind fun document => ?_
    exact (below _ _ location.childOrigin? document oneMore).bind fun included => .refl _

theorem resolveWith_keeps {outermost innermost : Bool}
    (nested : ∀ resolver ∈ strict, ∃ other ∈ lenient, Resolver.Keeps resolver other) :
    Resolver.Keeps (resolveWith fetcher flags outermost strict)
      (resolveWith fetcher flags innermost lenient) := by
  intro chain fewer origin lines fewerOpen
  rw [resolveWith_eq, resolveWith_eq]
  apply splice_keeps
  intro passed line target
  unfold includeOne
  cases Location.checkTarget target origin with
  | error error => exact .of_fail _
  | ok accepted => exact (openDocument_keeps fewerOpen nested target _).mapError _

/-- With more room and fewer open documents, a resolution that succeeds stays as it is. -/
theorem resolveWithin_keeps {room more : Nat} (enough : room ≤ more) (outermost innermost : Bool) :
    Resolver.Keeps (resolveWithin fetcher flags outermost room)
      (resolveWithin fetcher flags innermost more) := by
  induction room generalizing more outermost innermost with
  | zero =>
    -- without room no include succeeds, whatever the other resolver could open
    have opensNone : ∀ (lenient : Option Resolver), ∀ resolver ∈ (none : Option Resolver),
        ∃ other ∈ lenient, Resolver.Keeps resolver other := by
      intro lenient resolver absent
      exact absurd absent (Option.not_mem_none resolver)
    cases more with
    | zero => exact resolveWith_keeps (opensNone _)
    | succ more => exact resolveWith_keeps (opensNone _)
  | succ room ih =>
    obtain ⟨more, rfl⟩ : ∃ n, more = n + 1 := ⟨more - 1, by omega⟩
    apply resolveWith_keeps
    intro resolver same
    obtain rfl := Option.some.inj same
    exact ⟨_, rfl, ih (by omega) false false⟩

theorem resolveAt_keeps {depth shallower : Nat} (less : shallower ≤ depth) :
    Resolver.Keeps (resolveAt fetcher flags depth) (resolveAt fetcher flags shallower) :=
  resolveWithin_keeps (by omega) _ _

/-! ### Documents on their own -/

/-- A document compiles on its own to what it comes to below any open documents. -/
theorem compile_keeps (depth : Nat) (chain : List Text) (origin : Option Text) (lines : Lines) :
    (Traced.ofExcept (Selection.resolve flags lines) >>=
      resolveAt fetcher flags depth chain origin).Keeps (compile fetcher flags origin lines) :=
  (Traced.Keeps.refl _).bind fun selected =>
    resolveAt_keeps (Nat.zero_le depth) chain [] origin selected (List.nil_subset chain)

/-- The resolver for the documents that a document `depth` includes deep names; there is none when
no further include may be opened. -/
def nestedAt (fetcher : Fetcher) (flags : Option FlagSet) (depth : Nat) : Option Resolver :=
  if depth < maxDepth then some (resolveAt fetcher flags (depth + 1)) else none

theorem resolveAt_eq_splice (depth : Nat) (chain : List Text) (origin : Option Text)
    (lines : Lines) :
    resolveAt fetcher flags depth chain origin lines =
      splice (includeOne fetcher flags (depth == 0) (nestedAt fetcher flags depth) chain origin) []
        lines := by
  rw [← resolveWith_eq, nestedAt, resolveAt]
  split
  · next room =>
    obtain ⟨more, left⟩ : ∃ n, maxDepth - depth = n + 1 := ⟨maxDepth - depth - 1, by omega⟩
    have below : maxDepth - (depth + 1) = more := by omega
    rw [left, resolveWithin, resolveAt, below]
    rfl
  · next full =>
    have none : maxDepth - depth = 0 := by omega
    rw [none, resolveWithin]

/-- What is put in place of an include is what its document compiles to on its own, without the
patch notes. -/
theorem compile_of_includeOne {depth : Nat} {outermost : Bool} {passed included : Lines}
    {line : Line} {target : Text}
    (succeeds : (includeOne fetcher flags outermost (nestedAt fetcher flags depth) chain origin
      passed line target).result = .ok included) :
    ∃ raw own, fetcher ((Location.resolve target origin).request target origin) = .ok raw ∧
      (compile fetcher flags (Location.resolve target origin).childOrigin?
        (Lines.ofText raw)).result = .ok own ∧ included = Tree.withoutNotes own := by
  obtain ⟨-, opened⟩ := includeOne_result_eq_ok.mp succeeds
  unfold nestedAt at opened
  split at opened
  · obtain ⟨-, raw, document, own, fetched, selected, resolved, rfl⟩ :=
      openDocument_result_eq_ok.mp opened
    have below : (Traced.ofExcept (Selection.resolve flags (Lines.ofText raw)) >>=
        resolveAt fetcher flags (depth + 1) (chain ++ [(Location.resolve target origin).key])
          (Location.resolve target origin).childOrigin?).result = .ok own :=
      Traced.bind_result_eq_ok.mpr ⟨document, selected, resolved⟩
    have alone := compile_keeps _ _ _ _ own below
    refine ⟨raw, own, fetched, ?_, (Tree.withoutNotes_eq own).symm⟩
    rw [alone, below]
  · exact absurd opened (openDocument_none_result included)

end Include

namespace Download

open Include

variable {fetcher : Fetcher} {flags : Option FlagSet} {options : Options} {address : Text}

theorem fetched_of_fetchText {raw : Text}
    (fetched : (fetchText fetcher options address).result = .ok raw) :
    fetcher ((Location.resolve address none).request address none) = .ok raw := by
  obtain ⟨text, answered, checked⟩ := Traced.bind_result_eq_ok.mp fetched
  have same : text = raw := by
    dsimp only at checked
    split at checked
    · obtain ⟨-, -, ended⟩ := Traced.bind_result_eq_ok.mp checked
      exact Except.ok.inj ended
    · exact Except.ok.inj checked
  exact same ▸ Fetcher.get_result_eq_ok.mp answered

theorem compile_of_download {out : Lines}
    (succeeds : (download fetcher flags options address).result = .ok out) :
    ∃ raw, fetcher ((Location.resolve address none).request address none) = .ok raw ∧
      (compile fetcher flags (Location.resolve address none).childOrigin?
        (Lines.ofText raw)).result = .ok out := by
  obtain ⟨raw, fetched, rest⟩ := Traced.bind_result_eq_ok.mp succeeds
  obtain ⟨lines, resolved, ended⟩ := Traced.bind_result_eq_ok.mp rest
  have same : lines = out := by
    split at ended
    · cases ended
    · exact Except.ok.inj ended
  subst same
  have alone := compile_keeps _ _ _ (Lines.ofText raw) lines resolved
  refine ⟨raw, fetched_of_fetchText fetched, ?_⟩
  rw [alone]
  exact resolved

/-- Where a document is included from shows in no line of it. A resolution that succeeds is the
same, request by request, below any of the documents that are open; a downloaded list has the lines
that its text compiles to, and what stands in place of an include, at whatever depth, are the lines
that its document compiles to, without the patch notes near the top. -/
theorem placement_irrelevant (fetcher : Fetcher) (flags : Option FlagSet) :
    (∀ chain origin lines depth out,
      (resolveAt fetcher flags depth chain origin lines).result = .ok out →
      ∀ fewer shallower, fewer ⊆ chain → shallower ≤ depth →
        resolveAt fetcher flags shallower fewer origin lines =
          ⟨.ok out, (resolveAt fetcher flags depth chain origin lines).requests⟩) ∧
    (∀ options address out, (download fetcher flags options address).result = .ok out →
      ∃ raw, fetcher ((Location.resolve address none).request address none) = .ok raw ∧
        (compile fetcher flags (Location.resolve address none).childOrigin?
          (Lines.ofText raw)).result = .ok out) ∧
    ∀ depth chain origin, ∃ expand,
      (∀ lines, resolveAt fetcher flags depth chain origin lines = splice expand [] lines) ∧
      ∀ passed line target included, (expand passed line target).result = .ok included →
        ∃ raw own, fetcher ((Location.resolve target origin).request target origin) = .ok raw ∧
          (compile fetcher flags (Location.resolve target origin).childOrigin?
            (Lines.ofText raw)).result = .ok own ∧ included = Tree.withoutNotes own := by
  refine ⟨?_, fun options address out => compile_of_download, fun depth chain origin => ?_⟩
  · intro chain origin lines depth out succeeds fewer shallower fewerOpen less
    rw [resolveAt_keeps less chain fewer origin lines fewerOpen out succeeds, ← succeeds]
  · exact ⟨_, resolveAt_eq_splice depth chain origin, fun _ _ _ _ => compile_of_includeOne⟩

/-- A list `a` that includes a document with a patch note. -/
def notedList : Fetcher := fun request =>
  .ok (if request = .onDisk "a".toList none then "!#include b".toList
    else "! Diff-Path: p\nx".toList)

/-- The include is resolved below five others and below two, in the download of the list, and its
document on its own. -/
theorem placement_irrelevant_noted :
    ((resolveAt notedList none 5 ["k".toList, "a".toList] none ["!#include b".toList]).result =
        .ok ["x".toList] ∧
      (resolveAt notedList none 2 ["a".toList] none ["!#include b".toList]).result =
        .ok ["x".toList]) ∧
    ((download notedList none ⟨false, false, false⟩ "a".toList).result = .ok ["x".toList] ∧
      ∃ raw, notedList ((Location.resolve "a".toList none).request "a".toList none) = .ok raw ∧
        (compile notedList none (Location.resolve "a".toList none).childOrigin?
          (Lines.ofText raw)).result = .ok ["x".toList]) ∧
    ∃ raw own, notedList ((Location.resolve "b".toList none).request "b".toList none) = .ok raw ∧
      (compile notedList none (Location.resolve "b".toList none).childOrigin?
        (Lines.ofText raw)).result = .ok own ∧ ["x".toList] = Tree.withoutNotes own := by
  obtain ⟨fewer, downloaded, anywhere⟩ := placement_irrelevant notedList none
  have deep : (resolveAt notedList none 5 ["k".toList, "a".toList] none
      ["!#include b".toList]).result = .ok ["x".toList] := by decide +kernel
  have list : (download notedList none ⟨false, false, false⟩ "a".toList).result =
      .ok ["x".toList] := by decide +kernel
  refine ⟨⟨deep, ?_⟩, ⟨list, downloaded _ _ _ list⟩, ?_⟩
  · rw [fewer _ _ _ _ _ deep ["a".toList] 2 (by decide) (by decide)]
  · obtain ⟨expand, spliced, alone⟩ := anywhere 5 ["k".toList, "a".toList] none
    rw [spliced] at deep
    have names : Directive.includeTarget? "!#include b".toList = some "b".toList := by
      decide +kernel
    obtain ⟨included, others, expanded, nothing, whole⟩ :=
      (splice_include_result_eq_ok names).mp deep
    obtain rfl : [] = others := Except.ok.inj nothing
    rw [List.append_nil] at whole
    rw [whole]
    exact alone _ _ _ _ expanded

end Download

end FilterPrep
