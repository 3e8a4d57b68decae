import FilterPrep.Proofs.Printing
import FilterPrep.Proofs.Selection

/-!
# Flags that are read

A document reads the flags that its conditions name. Flag sets that enable the same of them resolve
it alike, with the same lines or with the same error (`unread_irrelevant`): neither a flag that no
condition names nor one called `true` has any influence, and a flag that is set to false counts as
missing.
-/

namespace FilterPrep

open Directive

variable {first second : FlagSet} {lines : Lines} {name : Text}

namespace Condition

theorem Expr.eval_congr {tree : Expr}
    (agree : ∀ name ∈ tree.flags, first.isEnabled name = second.isEnabled name) :
    tree.eval first = tree.eval second := by
  induction tree with
  | truth => rfl
  | flag name => exact agree name List.mem_cons_self
  | not operand ih => rw [eval, eval, ih agree]
  | and left right ihLeft ihRight | or left right ihLeft ihRight =>
    obtain ⟨onLeft, onRight⟩ := List.forall_mem_append.mp agree
    rw [eval, eval, ihLeft onLeft, ihRight onRight]

/-- The flags of a condition; there are none when it cannot be read. -/
def namesRead (condition : Text) : List Text :=
  match Expr.ofText condition with
  | .ok tree => tree.flags
  | .error _ => []

theorem eval_eq_of_namesRead {condition : Text} {tree : Expr}
    (read : Expr.ofText condition = .ok tree)
    (agree : ∀ name ∈ namesRead condition, first.isEnabled name = second.isEnabled name) :
    tree.eval first = tree.eval second := by
  rw [namesRead, read] at agree
  exact Expr.eval_congr agree

theorem ne_true_of_mem_namesRead {condition : Text} (member : name ∈ namesRead condition) :
    name ≠ "true".toList := by
  unfold namesRead at member
  split at member
  · next tree read => exact (((ofText_ok_iff _ tree).mp read).name_of_mem_flags member).1
  · cases member

end Condition

namespace Selection

def flagsRead (lines : Lines) : List Text :=
  lines.flatMap fun line =>
    match ofLine line with
    | .ifThen condition => Condition.namesRead condition
    | _ => []

theorem mem_flagsRead :
    name ∈ flagsRead lines ↔ ∃ line ∈ lines, ∃ condition, ofLine line = .ifThen condition ∧
      name ∈ Condition.namesRead condition := by
  rw [flagsRead, List.mem_flatMap]
  refine exists_congr fun line => and_congr_right fun _ => ?_
  cases is : ofLine line <;> simp

theorem flagsRead_subset {fewer : Lines} (subset : fewer ⊆ lines) :
    flagsRead fewer ⊆ flagsRead lines := by
  intro name member
  obtain ⟨line, inFewer, found⟩ := mem_flagsRead.mp member
  exact mem_flagsRead.mpr ⟨line, subset inFewer, found⟩

def Agree (first second : FlagSet) (lines : Lines) : Prop :=
  ∀ name ∈ flagsRead lines, first.isEnabled name = second.isEnabled name

theorem Agree.mono {fewer : Lines} (agree : Agree first second lines) (subset : fewer ⊆ lines) :
    Agree first second fewer := fun name member => agree name (flagsRead_subset subset member)

theorem branch_congr {ifLine : Line} {condition : Text} {body : Lines}
    (agree : ∀ name ∈ Condition.namesRead condition,
      first.isEnabled name = second.isEnabled name) :
    branch first ifLine condition body = branch second ifLine condition body := by
  unfold branch
  cases read : Condition.Expr.ofText condition with
  | error cause => rfl
  | ok tree =>
    have value := Condition.eval_eq_of_namesRead read agree
    simp only [value]

theorem select_congr (agree : Agree first second lines) :
    select first lines = select second lines := by
  -- along the first selection: both take the same branch, so they go into the same lines
  induction lines using select_induction first with
  | nil => rw [select, select]
  | content line rest isContent ih =>
    have further := ih (agree.mono (List.subset_cons_self line rest))
    rw [select_content isContent, select_content isContent, further]
  | block line condition rest opens ih =>
    have onCondition : ∀ name ∈ Condition.namesRead condition,
        first.isEnabled name = second.isEnabled name := fun name member =>
      agree name (mem_flagsRead.mpr ⟨line, List.mem_cons_self, condition, opens, member⟩)
    have below := agree.mono (List.subset_cons_self line rest)
    cases found : Block.cut? .endIfKind 0 rest with
    | none => rw [select_ifThen opens, select_ifThen opens, found]
    | some cut =>
      obtain ⟨body, closing, behind⟩ := cut
      obtain ⟨ihBehind, ihChosen⟩ := ih body closing behind found
      have whole := Block.append_of_cut? found
      have inBody : body ⊆ rest := by simp [whole]
      have inBehind : behind ⊆ rest := by simp [whole]
      rw [select_closed opens found, select_closed opens found, ← branch_congr onCondition,
        ihBehind (below.mono inBehind)]
      cases choice : branch first line condition body with
      | error error => rfl
      | ok chosen =>
        have taken := below.mono (List.Subset.trans (subset_branch choice) inBody)
        rw [Except.ok_bind, Except.ok_bind, ihChosen chosen choice taken]
  | stray line rest is =>
    rcases is with ⟨suffix, is⟩ | is
    · rw [select, select, is]
    · rw [select, select, is]

theorem agree_of_missing (disabled : first.get? name = some false)
    (missing : second.get? name = none)
    (others : ∀ other, other ≠ name → first.get? other = second.get? other) :
    Agree first second lines := by
  intro other _
  by_cases same : other = name
  · rw [same, FlagSet.isEnabled, FlagSet.isEnabled, disabled, missing]
    rfl
  · rw [FlagSet.isEnabled, FlagSet.isEnabled, others other same]

theorem agree_of_true
    (others : ∀ other, other ≠ "true".toList → first.get? other = second.get? other) :
    Agree first second lines := by
  intro other member
  obtain ⟨line, -, condition, -, named⟩ := mem_flagsRead.mp member
  have notTrue := Condition.ne_true_of_mem_namesRead named
  rw [FlagSet.isEnabled, FlagSet.isEnabled, others other notTrue]

/-- What a document is resolved to, or why it is refused, depends on a flag set only through the
flags that the document reads and the set enables. Setting a flag to false is the same as leaving it
out, and a flag called `true` is never read. -/
theorem unread_irrelevant (lines : Lines) :
    (∀ first second : FlagSet,
      (∀ name ∈ flagsRead lines, first.isEnabled name = second.isEnabled name) →
        resolve (some first) lines = resolve (some second) lines) ∧
    (∀ (first second : FlagSet) (name : Text), first.get? name = some false →
      second.get? name = none → (∀ other, other ≠ name → first.get? other = second.get? other) →
        resolve (some first) lines = resolve (some second) lines) ∧
    ∀ first second : FlagSet,
      (∀ other, other ≠ "true".toList → first.get? other = second.get? other) →
        resolve (some first) lines = resolve (some second) lines := by
  have congr : ∀ {first second : FlagSet}, Agree first second lines →
      resolve (some first) lines = resolve (some second) lines := select_congr
  refine ⟨fun first second agree => congr agree, ?_, ?_⟩
  · intro first second name disabled missing others
    exact congr (agree_of_missing disabled missing others)
  · intro first second others
    exact congr (agree_of_true others)

/-- The sets differ in flags that no condition names, in one that is set to false, and in one called
`true`. -/
theorem unread_irrelevant_nested :
    flagsRead ["!#if a && !b".toList, "!#if (c".toList, "!#else true".toList, "!#endif".toList,
      "!#endif".toList, "!#if true".toList, "x".toList, "!#endif".toList] =
        ["a".toList, "b".toList] ∧
    resolve (some (FlagSet.ofPairs [("a".toList, true), ("c".toList, true)]))
      ["!#if a && !b".toList, "!#if (c".toList, "!#else true".toList, "!#endif".toList,
        "!#endif".toList, "!#if true".toList, "x".toList, "!#endif".toList] =
    resolve (some (FlagSet.ofPairs [("a".toList, true), ("d".toList, true)]))
      ["!#if a && !b".toList, "!#if (c".toList, "!#else true".toList, "!#endif".toList,
        "!#endif".toList, "!#if true".toList, "x".toList, "!#endif".toList] ∧
    resolve (some ((FlagSet.ofPairs [("a".toList, true)]).set "b".toList false))
        ["!#if !b".toList, "x".toList, "!#endif".toList] =
      resolve (some (FlagSet.ofPairs [("a".toList, true)]))
        ["!#if !b".toList, "x".toList, "!#endif".toList] ∧
    resolve (some ((FlagSet.ofPairs [("a".toList, true)]).set "true".toList false))
        ["!#if true".toList, "x".toList, "!#endif".toList] =
      resolve (some (FlagSet.ofPairs [("a".toList, true)]))
        ["!#if true".toList, "x".toList, "!#endif".toList] := by
  refine ⟨by decide +kernel, ?_, ?_, ?_⟩
  · exact (unread_irrelevant _).1 _ _ (by decide +kernel)
  · refine (unread_irrelevant _).2.1 _ _ "b".toList (by decide +kernel) (by decide +kernel) ?_
    intro other different
    rw [FlagSet.get?_set, if_neg different]
  · refine (unread_irrelevant _).2.2 _ _ ?_
    intro other different
    rw [FlagSet.get?_set, if_neg different]

end Selection

end FilterPrep
