import FilterPrep.Proofs.Exchange

/-!
# Matching ends

The search for the end of a block, seen from the lines of a document by their numbers. The end that
is found is the one line that closes a block behind balanced lines; the `else` that is found is the
first one behind balanced lines, as long as no block is closed in front of it that was not opened
there (`indexOf?_matches`).
-/

namespace FilterPrep.Block

open Directive

/-- The lines from number `start` up to number `stop`. -/
def between (lines : Lines) (start stop : Nat) : Lines := (lines.take stop).drop start

/-- Line `i` between `start` and `stop` is of the kind, outside the blocks that open behind
`start`. -/
structure Matches (kind : Kind) (lines : Lines) (start stop i : Nat) : Prop where
  behind : start ≤ i
  inside : i < min stop lines.length
  holds : ∃ line, lines[i]? = some line ∧ kind.holds line = true
  level : Balanced (between lines start i)

variable {kind : Kind} {lines : Lines} {start stop i : Nat}

theorem indexOf?_eq_some_iff :
    indexOf? lines kind start stop = some i ↔
      ∃ before line after, cut? kind 0 (between lines start stop) = some (before, line, after) ∧
        start + before.length = i := by
  simp [indexOf?, between]

theorem length_between (lines : Lines) (start stop : Nat) :
    (between lines start stop).length = min stop lines.length - start := by
  rw [between, List.length_drop, List.length_take]

theorem between_divided {line : Line} (behind : start ≤ i) (inside : i < min stop lines.length)
    (place : lines[i]? = some line) :
    between lines start stop = between lines start i ++ line :: between lines (i + 1) stop := by
  have bound : i < (lines.take stop).length := by rwa [List.length_take]
  have front : (lines.take stop).take i = lines.take i := by
    rw [List.take_take, Nat.min_eq_left (by omega)]
  have here : (lines.take stop)[i] = line := by
    rw [List.getElem_take]
    exact (List.getElem?_eq_some_iff.mp place).2
  have whole : lines.take stop = lines.take i ++ line :: between lines (i + 1) stop := by
    rw [← front, ← here, between, ← List.drop_eq_getElem_cons bound, List.take_append_drop]
  have enough : start ≤ (lines.take i).length := by
    rw [List.length_take]
    omega
  rw [between, whole, List.drop_append_of_le_length enough]
  rfl

/-- A match is a place at which the lines can be divided. -/
theorem matches_iff :
    Matches kind lines start stop i ↔
      ∃ before line after, between lines start stop = before ++ line :: after ∧
        start + before.length = i ∧ kind.holds line = true ∧ Balanced before := by
  constructor
  · rintro ⟨behind, inside, ⟨line, place, holds⟩, level⟩
    refine ⟨between lines start i, line, between lines (i + 1) stop,
      between_divided behind inside place, ?_, holds, level⟩
    rw [length_between]
    omega
  · rintro ⟨before, line, after, whole, rfl, holds, level⟩
    have size := congrArg List.length whole
    rw [length_between, List.length_append, List.length_cons] at size
    have place : lines[start + before.length]? = some line := by
      rw [← List.getElem?_take_of_lt (show start + before.length < stop by omega),
        ← List.getElem?_drop]
      exact (congrArg (·[before.length]?) whole).trans (by simp)
    have front : between lines start (start + before.length) = before := by
      have part := congrArg (List.take before.length) whole
      rwa [List.take_left, between, List.take_drop, List.take_take,
        Nat.min_eq_left (by omega)] at part
    exact ⟨Nat.le_add_right _ _, by omega, ⟨line, place, holds⟩, front.symm ▸ level⟩

theorem matches_of_indexOf?
    (sound : kind = .endIfKind ∨ NoSurplus 0 (between lines start stop))
    (found : indexOf? lines kind start stop = some i) : Matches kind lines start stop i := by
  obtain ⟨before, line, after, cut, place⟩ := indexOf?_eq_some_iff.mp found
  have level := balanced_iff_closes.mpr (closes_of_noSurplus cut sound)
  exact matches_iff.mpr ⟨before, line, after, append_of_cut? cut, place, holds_of_cut? cut, level⟩

theorem exists_indexOf?_of_matches (notIf : kind ≠ .ifKind)
    (found : Matches kind lines start stop i) :
    ∃ first, indexOf? lines kind start stop = some first ∧ first ≤ i := by
  obtain ⟨front, line, behind, whole, place, holds, level⟩ := matches_iff.mp found
  obtain ⟨before, other, after, cut, earlier⟩ :=
    exists_cut?_of_holds (balanced_iff_closes.mp level) holds notIf behind
  rw [← whole] at cut
  exact ⟨_, indexOf?_eq_some_iff.mpr ⟨before, other, after, cut, rfl⟩, by omega⟩

theorem indexOf?_endIfKind_iff :
    indexOf? lines .endIfKind start stop = some i ↔ Matches .endIfKind lines start stop i := by
  refine ⟨matches_of_indexOf? (.inl rfl), fun found => ?_⟩
  obtain ⟨before, line, after, whole, place, holds, level⟩ := matches_iff.mp found
  have closes := balanced_iff_closes.mp level
  have cut := cut?_of_holds closes (cut?_endIfKind_of_closes closes) holds (by decide) after
  rw [← whole] at cut
  exact indexOf?_eq_some_iff.mpr ⟨before, line, after, cut, place⟩

theorem indexOf?_iff_isLeast (notIf : kind ≠ .ifKind)
    (within : NoSurplus 0 (between lines start stop)) :
    indexOf? lines kind start stop = some i ↔ IsLeast {i | Matches kind lines start stop i} i := by
  have least : ∀ {i}, indexOf? lines kind start stop = some i →
      IsLeast {i | Matches kind lines start stop i} i := by
    intro i found
    refine ⟨matches_of_indexOf? (.inr within) found, fun other matched => ?_⟩
    obtain ⟨first, also, before⟩ := exists_indexOf?_of_matches notIf matched
    rw [found] at also
    exact (Option.some.inj also) ▸ before
  refine ⟨least, fun smallest => ?_⟩
  obtain ⟨first, found, -⟩ := exists_indexOf?_of_matches notIf smallest.1
  rw [found, (least found).unique smallest]

/-- Whatever lines are searched and in whatever range, the end of a block is found exactly where
balanced lines are followed by an end, which is one place at most. In lines that close no block but
their own, the `else` of a block is the first one that follows balanced lines. -/
theorem indexOf?_matches (lines : Lines) (start stop : Nat) :
    (∀ i, indexOf? lines .endIfKind start stop = some i ↔
      Matches .endIfKind lines start stop i) ∧
    (∀ i j, Matches .endIfKind lines start stop i → Matches .endIfKind lines start stop j →
      i = j) ∧
    ((∀ front ∈ (between lines start (min stop lines.length)).inits,
        count .endIfKind front ≤ count .ifKind front) →
      ∀ i, indexOf? lines .elseKind start stop = some i ↔
        IsLeast {i | Matches .elseKind lines start stop i} i) := by
  refine ⟨fun i => indexOf?_endIfKind_iff, fun i j one other => ?_, fun below i => ?_⟩
  · have found := indexOf?_endIfKind_iff.mpr one
    have also := indexOf?_endIfKind_iff.mpr other
    exact Option.some.inj (found.symm.trans also)
  · have within : NoSurplus 0 (between lines start stop) := by
      rw [between, List.take_eq_take_min, noSurplus_iff_count]
      simpa [between] using below
    exact indexOf?_iff_isLeast (by decide) within

/-- The range may end behind the last line, and the `else` of the block inside is passed over. -/
theorem indexOf?_matches_nested :
    ∃ lines : Lines,
      lines = ["!#if a".toList, "!#if b".toList, "!#else".toList, "!#endif".toList,
        "!#else".toList, "!#endif".toList, "!#endif".toList] ∧
      Matches .endIfKind lines 1 99 5 ∧ IsLeast {i | Matches .elseKind lines 1 5 i} 4 := by
  refine ⟨_, rfl, ?_, ?_⟩
  · exact ((indexOf?_matches _ 1 99).1 5).mp (by decide)
  · exact ((indexOf?_matches _ 1 5).2.2 (by decide) 4).mp (by decide)

end FilterPrep.Block
