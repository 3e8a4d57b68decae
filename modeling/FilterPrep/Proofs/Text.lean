import FilterPrep.Text.Space
import Mathlib

/-!
# Trimming, cutting and splitting texts

A text is trimmed when neither of its ends is dropped; `trimBy` gives the one trimmed text that is
left between dropped ends. A cut at a character is the one place where the text on the searched
side does not hold it, and the pieces between all cuts are the pieces that were joined there.
-/

namespace FilterPrep

/-- What is asked of a character below `bound` can be tried on all of them. -/
theorem char_cases {c : Char} {P : Char → Prop} {bound : Nat} (below : c.toNat < bound)
    (each : ∀ n < bound, P (Char.ofNat n)) : P c := by
  have here := each c.toNat below
  rwa [Char.ofNat_toNat] at here

namespace Text

variable {drop : Char → Bool} {t : Text}

theorem byteLength_append (first second : Text) :
    byteLength (first ++ second) = byteLength first + byteLength second := by
  induction first with
  | nil => simp [byteLength]
  | cons c first ih => simp [byteLength, ih, Nat.add_assoc]

/-- Neither end of the text is a character of `drop`. -/
def Trimmed (drop : Char → Bool) (t : Text) : Prop :=
  (∀ c, t.head? = some c → drop c = false) ∧ ∀ c, t.getLast? = some c → drop c = false

theorem trimmed_cons {c : Char} (kept : drop c = false) (trimmed : Trimmed drop t) :
    Trimmed drop (c :: t) := by
  refine ⟨?_, fun d last => ?_⟩
  · rintro d ⟨⟩
    exact kept
  · cases t with
    | nil =>
      cases last
      exact kept
    | cons e t => exact trimmed.2 d last

theorem trimmed_concat {c : Char} (kept : drop c = false) (trimmed : Trimmed drop t) :
    Trimmed drop (t ++ [c]) := by
  refine ⟨fun d first => ?_, fun d last => ?_⟩
  · cases t with
    | nil =>
      cases first
      exact kept
    | cons e t => exact trimmed.1 d first
  · rw [List.getLast?_concat] at last
    cases last
    exact kept

theorem dropWhile_of_head (kept : ∀ c, t.head? = some c → drop c = false) :
    t.dropWhile drop = t := by
  cases t with
  | nil => rfl
  | cons c t => exact List.dropWhile_cons_of_neg (by simp [kept c rfl])

theorem dropWhile_append_of_head {run : Text} (dropped : ∀ c ∈ run, drop c = true)
    (kept : ∀ c, t.head? = some c → drop c = false) : (run ++ t).dropWhile drop = t := by
  rw [List.dropWhile_append_of_pos dropped, dropWhile_of_head kept]

theorem takeWhile_append_of_head {run : Text} (dropped : ∀ c ∈ run, drop c = true)
    (kept : ∀ c, t.head? = some c → drop c = false) : (run ++ t).takeWhile drop = run := by
  rw [List.takeWhile_append_of_pos dropped]
  cases t with
  | nil => simp
  | cons c t => rw [List.takeWhile_cons_of_neg (by simp [kept c rfl]), List.append_nil]

theorem not_drop_of_head?_dropWhile (t : Text) (c : Char)
    (first : (t.dropWhile drop).head? = some c) : drop c = false := by
  have kept := List.head?_dropWhile_not drop t
  rw [first] at kept
  exact kept

theorem trimEndBy_append {trail : Text} (dropped : ∀ c ∈ trail, drop c = true) (t : Text) :
    trimEndBy drop (t ++ trail) = trimEndBy drop t := by
  rw [trimEndBy, trimEndBy, List.reverse_append, List.dropWhile_append_of_pos fun c member =>
    dropped c (List.mem_reverse.mp member)]

theorem trimEndBy_append_cons {c : Char} (kept : drop c = false) (t rest : Text) :
    trimEndBy drop (t ++ c :: rest) = t ++ c :: trimEndBy drop rest := by
  have stop : (c :: t.reverse).dropWhile drop = c :: t.reverse :=
    List.dropWhile_cons_of_neg (by simp [kept])
  rw [trimEndBy, trimEndBy, List.reverse_append, List.reverse_cons, List.append_assoc,
    List.singleton_append, List.dropWhile_append]
  split
  · next empty => simp [stop, List.isEmpty_iff.mp empty]
  · simp

theorem trimEndBy_append_of_ne_nil {rest : Text} (nonempty : trimEndBy drop rest ≠ []) (t : Text) :
    trimEndBy drop (t ++ rest) = t ++ trimEndBy drop rest := by
  rw [trimEndBy, Ne, List.reverse_eq_nil_iff] at nonempty
  rw [trimEndBy, trimEndBy, List.reverse_append, List.dropWhile_append,
    if_neg (by simpa using nonempty), List.reverse_append, List.reverse_reverse]

theorem trimEndBy_of_last (kept : ∀ c, t.getLast? = some c → drop c = false) :
    trimEndBy drop t = t := by
  rw [trimEndBy, dropWhile_of_head fun c first => kept c (by rwa [List.head?_reverse] at first),
    List.reverse_reverse]

theorem trimBy_append {lead trail : Text} (before : ∀ c ∈ lead, drop c = true)
    (trimmed : Trimmed drop t) (behind : ∀ c ∈ trail, drop c = true) :
    trimBy drop (lead ++ t ++ trail) = t := by
  rw [trimBy, List.append_assoc, List.dropWhile_append_of_pos before]
  cases t with
  | nil =>
    have all : (trail ++ []).dropWhile drop = [] := List.dropWhile_append_of_pos behind
    rw [List.append_nil] at all
    rw [List.nil_append, all]
    rfl
  | cons c t =>
    rw [List.cons_append, List.dropWhile_cons_of_neg (by simp [trimmed.1 c rfl]),
      ← List.cons_append, trimEndBy_append behind, trimEndBy_of_last trimmed.2]

theorem trimBy_of_trimmed (trimmed : Trimmed drop t) : trimBy drop t = t := by
  have whole : trimBy drop ([] ++ t ++ []) = t := trimBy_append nofun trimmed nofun
  rwa [List.nil_append, List.append_nil] at whole

theorem trimEndBy_split (drop : Char → Bool) (t : Text) :
    ∃ trail, t = trimEndBy drop t ++ trail ∧ ∀ c ∈ trail, drop c = true := by
  refine ⟨(t.reverse.takeWhile drop).reverse, ?_, ?_⟩
  · rw [trimEndBy, ← List.reverse_append, List.takeWhile_append_dropWhile, List.reverse_reverse]
  · intro c member
    exact List.all_eq_true.mp (List.all_takeWhile ..) c (List.mem_reverse.mp member)

theorem getLast?_trimEndBy (t : Text) (c : Char) (last : (trimEndBy drop t).getLast? = some c) :
    drop c = false := by
  rw [trimEndBy, List.getLast?_reverse] at last
  exact not_drop_of_head?_dropWhile _ c last

theorem head?_trimEndBy (t : Text) (c : Char) (first : (trimEndBy drop t).head? = some c) :
    t.head? = some c := by
  obtain ⟨trail, whole, -⟩ := trimEndBy_split drop t
  rw [whole]
  cases trimmed : trimEndBy drop t with
  | nil => simp [trimmed] at first
  | cons d rest => simpa [trimmed] using first

theorem trimmed_trimBy (drop : Char → Bool) (t : Text) : Trimmed drop (trimBy drop t) :=
  ⟨fun c first => not_drop_of_head?_dropWhile t c (head?_trimEndBy _ c first),
    fun c last => getLast?_trimEndBy _ c last⟩

theorem trimmed_of_trim (same : trim t = t) : Trimmed isSpace t :=
  same ▸ trimmed_trimBy isSpace t

theorem trim_trim (t : Text) : trim (trim t) = trim t :=
  trimBy_of_trimmed (trimmed_trimBy isSpace t)

theorem trimBy_split (drop : Char → Bool) (t : Text) :
    ∃ lead trail, t = lead ++ trimBy drop t ++ trail ∧ (∀ c ∈ lead, drop c = true) ∧
      ∀ c ∈ trail, drop c = true := by
  obtain ⟨trail, whole, dropped⟩ := trimEndBy_split drop (t.dropWhile drop)
  refine ⟨t.takeWhile drop, trail, ?_, fun c member =>
    List.all_eq_true.mp (List.all_takeWhile ..) c member, dropped⟩
  rw [trimBy, List.append_assoc, ← whole, List.takeWhile_append_dropWhile]

/-! ### Cuts -/

/-- The end of a text is the end of what stands behind any other character of it. -/
theorem concat_of_append_cons {front rest : Text} {c d : Char}
    (whole : front ++ d :: rest = t ++ [c]) (other : d ≠ c) :
    ∃ inner, rest = inner ++ [c] ∧ t = front ++ d :: inner := by
  rcases List.eq_nil_or_concat rest with rfl | ⟨inner, e, rfl⟩
  · exact absurd (List.cons.inj (List.append_inj' whole rfl).2).1 other
  · rw [List.concat_eq_append, ← List.cons_append, ← List.append_assoc] at whole
    obtain ⟨same, last⟩ := List.append_inj' whole rfl
    exact ⟨inner, by rw [List.concat_eq_append, last], same.symm⟩

/-- A character of two texts in a row stands in one of them. -/
theorem cons_of_append {first second front back : Text} {c : Char}
    (whole : first ++ second = front ++ c :: back) :
    (∃ inner, first = front ++ c :: inner) ∨
      ∃ inner, front = first ++ inner ∧ second = inner ++ c :: back := by
  rcases List.append_eq_append_iff.mp whole with ⟨inner, rfl, behind⟩ | ⟨inner, rfl, behind⟩
  · exact .inr ⟨inner, rfl, behind⟩
  · cases inner with
    | nil => exact .inr ⟨[], by simp, behind.symm⟩
    | cons d inner =>
      obtain ⟨rfl, -⟩ := List.cons.inj behind
      exact .inl ⟨inner, rfl⟩

theorem cutFirst?_append {mark : Char} {before : Text} (absent : mark ∉ before) (behind : Text) :
    cutFirst? mark (before ++ mark :: behind) = some (before, behind) := by
  induction before with
  | nil => simp [cutFirst?]
  | cons c before ih =>
    rw [List.cons_append, cutFirst?, if_neg (Ne.symm (List.ne_of_not_mem_cons absent)),
      ih (List.not_mem_of_not_mem_cons absent)]
    rfl

theorem append_of_cutFirst? {mark : Char} {t before behind : Text}
    (found : cutFirst? mark t = some (before, behind)) :
    t = before ++ mark :: behind ∧ mark ∉ before := by
  induction t generalizing before with
  | nil => cases found
  | cons c t ih =>
    rw [cutFirst?] at found
    split at found
    · next same =>
      cases found
      exact ⟨by rw [same]; rfl, List.not_mem_nil⟩
    · next different =>
      obtain ⟨⟨front, back⟩, below, same⟩ := Option.map_eq_some_iff.mp found
      cases same
      obtain ⟨whole, absent⟩ := ih below
      exact ⟨by rw [whole]; rfl, List.not_mem_cons_of_ne_of_not_mem (Ne.symm different) absent⟩

theorem cutLast?_eq_none_iff {mark : Char} {t : Text} : cutLast? mark t = none ↔ mark ∉ t := by
  induction t with
  | nil => simp [cutLast?]
  | cons c t ih =>
    rw [cutLast?, List.mem_cons, not_or]
    split
    · next found =>
      have present : ¬mark ∉ t := fun absent => nomatch found.symm.trans (ih.mpr absent)
      exact ⟨nofun, fun absent => absurd absent.2 present⟩
    · next missing =>
      by_cases same : c = mark
      · simp [same]
      · simp [same, Ne.symm same, ih.mp missing]

theorem cutLast?_append {mark : Char} (before : Text) {behind : Text} (absent : mark ∉ behind) :
    cutLast? mark (before ++ mark :: behind) = some (before, behind) := by
  induction before with
  | nil =>
    rw [List.nil_append, cutLast?, cutLast?_eq_none_iff.mpr absent]
    exact if_pos rfl
  | cons c before ih => rw [List.cons_append, cutLast?, ih]

theorem append_of_cutLast? {mark : Char} {t before behind : Text}
    (found : cutLast? mark t = some (before, behind)) :
    t = before ++ mark :: behind ∧ mark ∉ behind := by
  induction t generalizing before with
  | nil => cases found
  | cons c t ih =>
    rw [cutLast?] at found
    split at found
    · next front back below =>
      cases found
      obtain ⟨whole, absent⟩ := ih below
      exact ⟨by rw [whole]; rfl, absent⟩
    · next missing =>
      split at found
      · next same =>
        cases found
        exact ⟨by rw [same]; rfl, cutLast?_eq_none_iff.mp missing⟩
      · cases found

theorem cutLast?_concat {mark c : Char} (other : c ≠ mark) (t : Text) :
    cutLast? mark (t ++ [c]) =
      (cutLast? mark t).map fun (before, behind) => (before, behind ++ [c]) := by
  induction t with
  | nil => simp [cutLast?, other]
  | cons d t ih =>
    rw [List.cons_append, cutLast?, cutLast?, ih]
    cases cutLast? mark t with
    | some cut => rfl
    | none =>
      by_cases same : d = mark
      · simp [same]
      · simp [same]

/-! ### Pieces -/

variable {cut : Char → Bool}

theorem split_ne_nil (cut : Char → Bool) (t : Text) : split cut t ≠ [] := by
  cases t with
  | nil => nofun
  | cons c t =>
    rw [split]
    split
    · nofun
    · split <;> nofun

theorem split_cons_of_kept {c : Char} (kept : cut c = false) (t : Text) :
    ∃ piece pieces, split cut (c :: t) = (c :: piece) :: pieces := by
  rw [split, if_neg (by simp [kept])]
  cases split cut t with
  | nil => exact ⟨[], [], rfl⟩
  | cons piece pieces => exact ⟨piece, pieces, rfl⟩

theorem split_last {c : Char} (cut : Char → Bool) (kept : cut c = false) (t : Text) :
    ∃ pieces last, split cut (t ++ [c]) = pieces ++ [last ++ [c]] := by
  induction t with
  | nil => exact ⟨[], [], by simp [split, kept]⟩
  | cons d t ih =>
    obtain ⟨pieces, last, parts⟩ := ih
    rw [List.cons_append, split, parts]
    split
    · exact ⟨[] :: pieces, last, rfl⟩
    · cases pieces with
      | nil => exact ⟨[], d :: last, rfl⟩
      | cons piece pieces => exact ⟨(d :: piece) :: pieces, last, rfl⟩

theorem split_append {c : Char} (cuts : cut c = true) (t rest : Text) :
    split cut (t ++ c :: rest) = split cut t ++ split cut rest := by
  induction t with
  | nil => simp [split, cuts]
  | cons d t ih =>
    rw [List.cons_append, split, split, ih]
    split
    · rfl
    · cases pieces : split cut t with
      | nil => exact absurd pieces (split_ne_nil cut t)
      | cons piece pieces => rfl

theorem split_of_uncut (uncut : ∀ c ∈ t, cut c = false) : split cut t = [t] := by
  induction t with
  | nil => rfl
  | cons c t ih =>
    rw [split, if_neg (by simp [uncut c List.mem_cons_self]),
      ih fun d member => uncut d (List.mem_cons_of_mem _ member)]

theorem uncut_of_mem_split {piece : Text} (member : piece ∈ split cut t) :
    ∀ c ∈ piece, cut c = false := by
  induction t generalizing piece with
  | nil =>
    rw [split, List.mem_singleton] at member
    rw [member]
    nofun
  | cons d t ih =>
    rw [split] at member
    split at member
    · rcases List.mem_cons.mp member with rfl | later
      · nofun
      · exact ih later
    · next kept =>
      split at member
      · next none => exact absurd none (split_ne_nil cut t)
      · next first pieces parts =>
        rw [parts] at ih
        rcases List.mem_cons.mp member with rfl | later
        · intro c inside
          rcases List.mem_cons.mp inside with rfl | behind
          · simpa using kept
          · exact ih List.mem_cons_self c behind
        · exact ih (List.mem_cons_of_mem _ later)

theorem split_join {mark : Char} {pieces : List Text} (nonempty : pieces ≠ [])
    (unmarked : ∀ piece ∈ pieces, mark ∉ piece) :
    split (· == mark) (join [mark] pieces) = pieces := by
  induction pieces with
  | nil => exact absurd rfl nonempty
  | cons first rest ih =>
    have alone : split (· == mark) first = [first] := by
      refine split_of_uncut fun c member => ?_
      have other : c ≠ mark := fun same =>
        unmarked first List.mem_cons_self (same ▸ member)
      simpa using other
    cases rest with
    | nil => exact alone
    | cons second rest =>
      have later := ih nofun fun piece member => unmarked piece (List.mem_cons_of_mem _ member)
      rw [join, List.append_assoc, List.singleton_append, split_append (by simp), alone, later]
      rfl

theorem head?_join {first : Text} (nonempty : first ≠ []) (separator : Text) (rest : List Text) :
    (join separator (first :: rest)).head? = first.head? := by
  cases first with
  | nil => exact absurd rfl nonempty
  | cons c first => cases rest <;> rfl

theorem mem_join {separator : Text} {pieces : List Text} {c : Char}
    (member : c ∈ join separator pieces) : c ∈ separator ∨ ∃ piece ∈ pieces, c ∈ piece := by
  induction pieces with
  | nil => cases member
  | cons first rest ih =>
    cases rest with
    | nil => exact .inr ⟨first, List.mem_cons_self, member⟩
    | cons second rest =>
      rw [join, List.mem_append, List.mem_append] at member
      rcases member with (here | between) | later
      · exact .inr ⟨first, List.mem_cons_self, here⟩
      · exact .inl between
      · rcases ih later with between | ⟨piece, among, inside⟩
        · exact .inl between
        · exact .inr ⟨piece, List.mem_cons_of_mem _ among, inside⟩

end Text

end FilterPrep
