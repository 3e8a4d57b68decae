import FilterPrep.Download
import FilterPrep.Proofs.IncludeTree
import FilterPrep.Proofs.Selection

/-!
# Compiled lists are final

Every line of a compiled list is plain content: it comes from the list itself or from a document
fetched for it, behind the selection of conditions and in place of include lines. Compiling such a
list again changes nothing and fetches nothing (`compiled_final`).
-/

namespace FilterPrep

open Directive

namespace Include

variable {fetcher : Fetcher} {flags : Option FlagSet} {origin : Option Text}

/-- Nothing is left to be done for these lines, by whomever they are compiled again. -/
structure Final (lines : Lines) : Prop where
  plain : ∀ line ∈ lines, Kind.ofLine? line = none
  stable : ∀ fetcher flags origin, compile fetcher flags origin lines = ⟨.ok lines, []⟩

theorem splice_of_no_include {expand : Lines → Line → Text → Traced Lines} {lines : Lines}
    (content : ∀ line ∈ lines, includeTarget? line = none) (passed : Lines) :
    splice expand passed lines = pure lines := by
  induction lines generalizing passed with
  | nil => rfl
  | cons line rest ih =>
    obtain ⟨here, others⟩ := List.forall_mem_cons.mp content
    rw [splice, here]
    dsimp only
    rw [ih others, pure_bind]

theorem resolution_of_plain {lines : Lines} (plain : ∀ line ∈ lines, Kind.ofLine? line = none)
    (chain : List Text) (origin : Option Text) :
    (do
      let selected ← Traced.ofExcept (Selection.resolve flags lines)
      resolveAt fetcher flags 0 chain origin selected) = pure lines := by
  have selected : Selection.resolve flags lines = .ok lines := by
    cases flags with
    | none => rfl
    | some flags => exact Selection.select_of_isContent fun line member => .inl (plain line member)
  have content : ∀ line ∈ lines, includeTarget? line = none := by
    intro line member
    rw [includeTarget?_eq_none_iff, plain line member]
    nofun
  rw [selected]
  exact splice_of_no_include content []

theorem final_of_plain {lines : Lines} (plain : ∀ line ∈ lines, Kind.ofLine? line = none) :
    Final lines :=
  ⟨plain, fun _ _ origin => resolution_of_plain plain [] origin⟩

/-! ### Where the lines come from -/

theorem Tree.withoutNotes_subset (lines : Lines) : Tree.withoutNotes lines ⊆ lines := by
  intro line member
  obtain ⟨⟨other, i⟩, kept, rfl⟩ := List.mem_map.mp member
  exact List.fst_mem_of_mem_zipIdx (List.mem_of_mem_filter kept)

/-- Each line of the splice is no include, and stands in the document itself or among the selected
lines of a fetched text. -/
theorem Tree.mem_splice {tree : Tree} {line : Line} (valid : tree.Valid fetcher flags origin)
    (member : line ∈ tree.splice) :
    includeTarget? line = none ∧
      (line ∈ tree.lines ∨ ∃ raw document,
        Selection.resolve flags (Lines.ofText raw) = .ok document ∧ line ∈ document) := by
  induction tree generalizing origin with
  | nil => cases member
  | plain text rest ih =>
    rcases List.mem_cons.mp member with rfl | inRest
    · exact ⟨valid.1, .inl List.mem_cons_self⟩
    · obtain ⟨content, source⟩ := ih valid.2 inRest
      exact ⟨content, source.imp_left (List.mem_cons_of_mem text)⟩
  | child text location document rest ihDocument ihRest =>
    obtain ⟨⟨target, raw, -, -, -, -, selected⟩, validDocument, validRest⟩ := valid
    rcases List.mem_append.mp member with inDocument | inRest
    · obtain ⟨content, source⟩ := ihDocument validDocument (withoutNotes_subset _ inDocument)
      refine ⟨content, .inr ?_⟩
      rcases source with own | fetched
      · exact ⟨raw, document.lines, selected, own⟩
      · exact fetched
    · obtain ⟨content, source⟩ := ihRest validRest inRest
      exact ⟨content, source.imp_left (List.mem_cons_of_mem text)⟩

theorem no_include_of_resolveAt {chain : List Text} {lines out : Lines}
    (resolved : (resolveAt fetcher flags 0 chain origin lines).result = .ok out) :
    ∀ line ∈ out, includeTarget? line = none := by
  obtain ⟨tree, -, valid, -, rfl⟩ := (resolveWithin_ok_iff _ _ _).mp resolved
  exact fun line member => (Tree.mem_splice valid member).1

theorem final_of_resolveAt {only : FlagSet} {chain : List Text} {lines kept out : Lines}
    (selected : Selection.resolve (some only) lines = .ok kept)
    (resolved : (resolveAt fetcher (some only) 0 chain origin kept).result = .ok out) :
    Final out := by
  obtain ⟨tree, rfl, valid, -, rfl⟩ := (resolveWithin_ok_iff _ _ _).mp resolved
  apply final_of_plain
  intro line member
  obtain ⟨content, source⟩ := Tree.mem_splice valid member
  have isContent : IsContent line := by
    rcases source with own | ⟨raw, document, fetched, inDocument⟩
    · exact Selection.isContent_of_select selected line own
    · exact Selection.isContent_of_select fetched line inDocument
  exact isContent.resolve_right (includeTarget?_eq_none_iff.mp content)

/-! ### Compiling and downloading -/

theorem final_of_compile {only : FlagSet} {lines out : Lines}
    (compiled : (compile fetcher (some only) origin lines).result = .ok out) : Final out := by
  unfold compile at compiled
  obtain ⟨kept, selected, resolved⟩ := Traced.bind_result_eq_ok.mp compiled
  exact final_of_resolveAt selected resolved

end Include

namespace Download

open Include

theorem final_of_download {fetcher : Fetcher} {only : FlagSet} {options : Options} {address : Text}
    {out : Lines} (downloaded : (download fetcher (some only) options address).result = .ok out) :
    Final out := by
  unfold download at downloaded
  obtain ⟨raw, -, downloaded⟩ := Traced.bind_result_eq_ok.mp downloaded
  obtain ⟨lines, resolved, downloaded⟩ := Traced.bind_result_eq_ok.mp downloaded
  obtain rfl : lines = out := by
    split at downloaded
    · cases downloaded
    · exact Except.ok.inj downloaded
  unfold resolveList at resolved
  obtain ⟨kept, selected, resolved⟩ := Traced.bind_result_eq_ok.mp resolved
  exact final_of_resolveAt selected resolved

/-- What is compiled or downloaded under a flag set is final; and even without one no include is
left. -/
theorem compiled_final :
    (∀ fetcher only origin lines out,
      (compile fetcher (some only) origin lines).result = .ok out → Final out) ∧
    (∀ fetcher only options address out,
      (download fetcher (some only) options address).result = .ok out → Final out) ∧
    ∀ fetcher flags origin lines out,
      (Include.resolve fetcher flags origin lines).result = .ok out →
      ∀ line ∈ out, Kind.ofLine? line ≠ some .includeKind := by
  refine ⟨fun _ _ _ _ _ => final_of_compile, fun _ _ _ _ _ => final_of_download, ?_⟩
  intro fetcher flags origin lines out resolved line member
  exact includeTarget?_eq_none_iff.mp (no_include_of_resolveAt resolved line member)

theorem compiled_final_included :
    Final ["z".toList, "q".toList] ∧ Final ["z".toList] ∧
      ∀ line ∈ ["!#if x".toList, "z".toList, "!#endif".toList],
        Kind.ofLine? line ≠ some .includeKind := by
  obtain ⟨compiled, downloaded, resolved⟩ := compiled_final
  refine ⟨?_, ?_, ?_⟩
  · exact compiled
      (fun request => .ok (if request = .onDisk "a".toList none then
        "! Diff-Path: p\n!#if x\n!#include b\n!#else\ny\n!#endif".toList else "z".toList))
      (FlagSet.ofPairs [("x".toList, true)]) none
      ["!#if x".toList, "!#include a".toList, "!#endif".toList, "q".toList] _ (by decide +kernel)
  · exact downloaded
      (fun request => .ok (if request = .onDisk "a".toList none then "!#include b".toList
        else "z".toList))
      (FlagSet.ofPairs []) ⟨false, false, false⟩ "a".toList _ (by decide +kernel)
  · exact resolved (fun _ => .ok "z".toList) none none
      ["!#if x".toList, "!#include b".toList, "!#endif".toList] _ (by decide +kernel)

end Download

end FilterPrep
