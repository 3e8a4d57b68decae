import FilterPrep.Proofs.Signature

/-!
# The line that declares a checksum

Which texts declare a checksum, said without the reader: a line with a comment mark, the word,
separators and the value, and behind it at least one line break. The search sees only the first
characters of a document, so it finds the declaration exactly if its line ends among them; of the
line breaks behind it, it takes away those that it sees.
-/

namespace FilterPrep.Checksum

/-- The line declares `value`. White space in front of the word may hold line breaks, so it need not
be the first line of its text. -/
inductive Declares : (line value : Text) → Prop where
  | intro {lead gap word separators value note : Text}
      (blankLead : ∀ c ∈ lead, Text.isSpace c = true) (blankGap : ∀ c ∈ gap, Text.isSpace c = true)
      (spelled : word.map Text.foldCase = "checksum".toList) (separated : separators ≠ [])
      (separates : ∀ c ∈ separators, isSeparator c = true) (valued : value ≠ [])
      (inValue : ∀ c ∈ value, isValueChar c = true)
      (endsValue : ∀ c, note.head? = some c → isValueChar c = false)
      (inLine : ∀ c ∈ note, Lines.isBreak c = false) :
      Declares (lead ++ '!' :: (gap ++ (word ++ (separators ++ (value ++ note))))) value

/-- A text that declares `value` on `line`, with all the line breaks behind it. -/
structure Headed (t line value breaks rest : Text) : Prop where
  whole : t = line ++ (breaks ++ rest)
  declares : Declares line value
  broken : breaks ≠ []
  breaks : ∀ c ∈ breaks, Lines.isBreak c = true
  solid : StartsInLine rest

variable {t line value breaks rest : Text}

/-! ### The parts of a declaration -/

theorem takeSome?_eq_some_iff {p : Char → Bool} {t run rest : Text} :
    takeSome? p t = some (run, rest) ↔
      t = run ++ rest ∧ run ≠ [] ∧ (∀ c ∈ run, p c = true) ∧
        ∀ c, rest.head? = some c → p c = false := by
  constructor
  · intro taken
    unfold takeSome? at taken
    split at taken
    · cases taken
    · next nonempty =>
      obtain ⟨rfl, rfl⟩ := Prod.mk.inj (Option.some.inj taken)
      exact ⟨List.takeWhile_append_dropWhile.symm, by simpa using nonempty,
        List.all_eq_true.mp (List.all_takeWhile ..), Text.not_drop_of_head?_dropWhile t⟩
  · rintro ⟨rfl, nonempty, inside, stops⟩
    exact takeSome?_append nonempty inside stops

theorem afterWord?_eq_some_iff {word t rest : Text} :
    afterWord? word t = some rest ↔
      ∃ spelled, t = spelled ++ rest ∧ spelled.map Text.foldCase = word := by
  induction word generalizing t with
  | nil => simp [afterWord?, eq_comm]
  | cons c word ih =>
    cases t with
    | nil => simp [afterWord?]
    | cons d t =>
      rw [afterWord?]
      split
      · next same =>
        rw [ih]
        constructor
        · rintro ⟨spelled, rfl, rfl⟩
          exact ⟨d :: spelled, rfl, by rw [List.map_cons, same]⟩
        · rintro ⟨spelled, whole, folds⟩
          obtain ⟨e, spelled, rfl, -, rfl⟩ := List.map_eq_cons_iff.mp folds
          exact ⟨spelled, (List.cons.inj whole).2, rfl⟩
      · next different =>
        refine ⟨nofun, ?_⟩
        rintro ⟨spelled, whole, folds⟩
        obtain ⟨e, spelled, rfl, first, -⟩ := List.map_eq_cons_iff.mp folds
        exact absurd ((List.cons.inj whole).1 ▸ first) different

/-! ### Characters -/

theorem toNat_le_toLower (c : Char) : c.toNat ≤ c.toLower.toNat := by
  unfold Char.toLower
  split
  · next upper =>
    have high : c.toNat ≤ 90 := UInt32.le_iff_toNat_le.mp upper.2
    change c.toNat ≤ (c.val + 32).toNat
    rw [UInt32.toNat_add]
    change c.toNat ≤ (c.toNat + 32) % 2 ^ 32
    omega
  · exact Nat.le_refl _

theorem isValueChar_cases {c : Char} (inValue : isValueChar c = true) :
    c.toNat < 0x80 ∨ c = '\u017F' ∨ c = '\u212A' := by
  by_cases long : c = '\u017F'
  · exact .inr (.inl long)
  by_cases kelvin : c = '\u212A'
  · exact .inr (.inr kelvin)
  left
  rw [isValueChar, Text.foldCase, if_neg long, if_neg kelvin] at inValue
  cases letter : c.toLower.isAlphanum with
  | true =>
    have small : c.toLower.toNat < 0x80 := toNat_of_isWritten (by simp [isWritten, letter])
    exact Nat.lt_of_le_of_lt (toNat_le_toLower c) small
  | false =>
    rw [letter, Bool.false_or] at inValue
    refine toNat_of_isWritten ?_
    simp only [isWritten, Bool.or_assoc] at inValue ⊢
    rw [inValue, Bool.or_true]

theorem not_isSeparator_of_isValueChar {c : Char} (inValue : isValueChar c = true) :
    isSeparator c = false := by
  rcases isValueChar_cases inValue with ascii | rfl | rfl
  · exact char_cases (P := fun c => isValueChar c = true → isSeparator c = false) ascii (by decide)
      inValue
  · decide
  · decide

theorem not_isBreak_of_isValueChar {c : Char} (inValue : isValueChar c = true) :
    Lines.isBreak c = false := by
  have solid := not_isSeparator_of_isValueChar inValue
  by_contra breaks
  simp only [Bool.not_eq_false, Lines.isBreak, Bool.or_eq_true, beq_iff_eq] at breaks
  rcases breaks with rfl | rfl <;> cases solid

theorem not_isSpace_of_foldCase {c : Char} (letter : Text.foldCase c = 'c') :
    Text.isSpace c = false := by
  have inValue : isValueChar c = true := by
    rw [isValueChar, letter]
    rfl
  have solid := not_isSeparator_of_isValueChar inValue
  simp only [isSeparator, Bool.or_eq_false_iff] at solid
  exact solid.1.1

/-! ### Reading a declaration -/

theorem Declares.read (declares : Declares line value) (broken : breaks ≠ [])
    (inBreaks : ∀ c ∈ breaks, Lines.isBreak c = true) (solid : StartsInLine rest) :
    readDeclaration? (line ++ (breaks ++ rest)) = some (value, rest) := by
  obtain ⟨blankLead, blankGap, spelled, separated, separates, valued, inValue, endsValue, inLine⟩ :=
    declares
  rename_i lead gap word separators note
  have breakBehind : ∀ c, (breaks ++ rest).head? = some c → Lines.isBreak c = true := by
    intro c first
    rw [List.head?_append_of_ne_nil _ broken] at first
    exact inBreaks c (List.mem_of_mem_head? first)
  have mark : ∀ tail, Text.after? ['!'] (Text.trimStart (lead ++ '!' :: tail)) = some tail := by
    intro tail
    have start : Text.trimStart (lead ++ '!' :: tail) = '!' :: tail := by
      refine Text.dropWhile_append_of_head blankLead ?_
      rintro c ⟨⟩
      rfl
    rw [start, Text.after?_eq_some_iff]
    rfl
  have named : ∀ tail, afterWord? "checksum".toList (Text.trimStart (gap ++ (word ++ tail))) =
      some tail := by
    intro tail
    have start : Text.trimStart (gap ++ (word ++ tail)) = word ++ tail := by
      obtain ⟨d, letters, rfl, letter, -⟩ := List.map_eq_cons_iff.mp spelled
      refine Text.dropWhile_append_of_head blankGap ?_
      rintro c ⟨⟩
      exact not_isSpace_of_foldCase letter
    rw [start, afterWord?_eq_some_iff]
    exact ⟨word, rfl, spelled⟩
  have separating : ∀ tail, takeSome? isSeparator (separators ++ (value ++ tail)) =
      some (separators, value ++ tail) := by
    intro tail
    refine takeSome?_append separated separates fun c first => ?_
    rw [List.head?_append_of_ne_nil _ valued] at first
    exact not_isSeparator_of_isValueChar (inValue c (List.mem_of_mem_head? first))
  have valuing : takeSome? isValueChar (value ++ (note ++ (breaks ++ rest))) =
      some (value, note ++ (breaks ++ rest)) := by
    refine takeSome?_append valued inValue fun c first => ?_
    cases note with
    | nil =>
      by_contra inValue
      have inLine := not_isBreak_of_isValueChar (Bool.eq_true_of_not_eq_false inValue)
      rw [breakBehind c first] at inLine
      cases inLine
    | cons d note => exact endsValue c first
  have lineEnd : (note ++ (breaks ++ rest)).dropWhile (fun c => !Lines.isBreak c) =
      breaks ++ rest := by
    refine Text.dropWhile_append_of_head (fun c member => ?_) fun c first => ?_
    · rw [inLine c member]
      rfl
    · rw [breakBehind c first]
      rfl
  have breaking : takeSome? Lines.isBreak (breaks ++ rest) = some (breaks, rest) :=
    takeSome?_append broken inBreaks solid
  simp only [readDeclaration?, List.append_assoc, List.cons_append, mark, named, separating,
    valuing, lineEnd, breaking, Option.bind_eq_bind, Option.bind_some, Option.pure_def]

theorem headed_of_read (read : readDeclaration? t = some (value, rest)) :
    ∃ line breaks, Headed t line value breaks rest := by
  simp only [readDeclaration?, Option.bind_eq_bind, Option.bind_eq_some_iff] at read
  obtain ⟨comment, mark, tail, named, ⟨separators, behindSeparators⟩, separating,
    ⟨written, behindValue⟩, valuing, ⟨breaks, behind⟩, breaking, same⟩ := read
  obtain ⟨rfl, rfl⟩ := Prod.mk.inj (Option.some.inj same)
  obtain ⟨word, commentEnd, spelled⟩ := afterWord?_eq_some_iff.mp named
  obtain ⟨rfl, separated, separates, -⟩ := takeSome?_eq_some_iff.mp separating
  obtain ⟨rfl, valued, inValue, endsValue⟩ := takeSome?_eq_some_iff.mp valuing
  obtain ⟨lineEnd, broken, inBreaks, solid⟩ := takeSome?_eq_some_iff.mp breaking
  have start : t = t.takeWhile Text.isSpace ++ '!' :: comment := by
    rw [← List.singleton_append, ← Text.after?_eq_some_iff.mp mark, Text.trimStart,
      List.takeWhile_append_dropWhile]
  have inner : comment = comment.takeWhile Text.isSpace ++
      (word ++ (separators ++ (written ++ behindValue))) := by
    rw [← commentEnd, Text.trimStart, List.takeWhile_append_dropWhile]
  have note : behindValue = behindValue.takeWhile (fun c => !Lines.isBreak c) ++
      (breaks ++ behind) := by
    rw [← lineEnd, List.takeWhile_append_dropWhile]
  refine ⟨t.takeWhile Text.isSpace ++ '!' :: (comment.takeWhile Text.isSpace ++ (word ++
    (separators ++ (written ++ behindValue.takeWhile fun c => !Lines.isBreak c)))), breaks, ?_, ?_,
    broken, inBreaks, solid⟩
  · simp only [List.append_assoc, List.cons_append]
    rw [← note, ← inner, ← start]
  · refine .intro (List.all_eq_true.mp (List.all_takeWhile ..))
      (List.all_eq_true.mp (List.all_takeWhile ..)) spelled separated separates valued inValue
      (fun c first => endsValue c ?_) fun c member => ?_
    · rw [note, List.head?_append, first]
      rfl
    · simpa using List.all_eq_true.mp (List.all_takeWhile ..) c member

/-- A declaration is read exactly if the text has its line, and everything behind the line breaks is
left. -/
theorem readDeclaration?_eq_some_iff :
    readDeclaration? t = some (value, rest) ↔ ∃ line breaks, Headed t line value breaks rest := by
  constructor
  · exact headed_of_read
  · rintro ⟨line, breaks, rfl, declares, broken, inBreaks, solid⟩
    exact declares.read broken inBreaks solid

theorem Declares.inLine_of_getLast? (declares : Declares line value) (c : Char)
    (last : line.getLast? = some c) : Lines.isBreak c = false := by
  obtain ⟨-, -, -, -, -, valued, inValue, -, inLine⟩ := declares
  rename_i lead gap word separators note
  have split : lead ++ '!' :: (gap ++ (word ++ (separators ++ (value ++ note)))) =
      lead ++ '!' :: (gap ++ (word ++ separators)) ++ (value ++ note) := by
    simp
  rw [split, List.getLast?_append_of_ne_nil _ (by simp [valued])] at last
  rcases List.mem_append.mp (List.mem_of_getLast? last) with inside | behind
  · exact not_isBreak_of_isValueChar (inValue c inside)
  · exact inLine c behind

namespace Headed

theorem read (headed : Headed t line value breaks rest) :
    readDeclaration? t = some (value, rest) :=
  readDeclaration?_eq_some_iff.mpr ⟨line, breaks, headed⟩

/-- The line is what is left of the text in front of the line breaks. -/
theorem line_eq (headed : Headed t line value breaks rest) :
    line = Text.trimEndBy Lines.isBreak (line ++ breaks) := by
  rw [Text.trimEndBy_append headed.breaks,
    Text.trimEndBy_of_last headed.declares.inLine_of_getLast?]

/-- A text declares a checksum in one way only. -/
theorem unique {line' value' breaks' rest' : Text} (headed : Headed t line value breaks rest)
    (other : Headed t line' value' breaks' rest') : line = line' ∧ breaks = breaks' := by
  obtain ⟨-, rfl⟩ := Prod.mk.inj (Option.some.inj (headed.read.symm.trans other.read))
  have both : line ++ breaks = line' ++ breaks' := by
    have whole := headed.whole.symm.trans other.whole
    rw [← List.append_assoc, ← List.append_assoc] at whole
    exact List.append_cancel_right whole
  have same : line = line' := by rw [headed.line_eq, both, ← other.line_eq]
  exact ⟨same, List.append_cancel_left (same ▸ both)⟩

/-! ### The searched part -/

theorem take (headed : Headed t line value breaks rest) {limit : Nat} (ends : line.length < limit) :
    Headed (t.take limit) line value (breaks.take (limit - line.length))
      (rest.take (limit - line.length - breaks.length)) := by
  refine ⟨?_, headed.declares, ?_, fun c member => headed.breaks c (List.mem_of_mem_take member),
    fun c first => ?_⟩
  · rw [headed.whole, List.take_append, List.take_append,
      List.take_of_length_le (Nat.le_of_lt ends)]
  · have seen : limit - line.length ≠ 0 := by omega
    simpa [List.take_eq_nil_iff, seen] using headed.broken
  · rw [List.head?_take] at first
    split at first
    · cases first
    · exact headed.solid c first

theorem of_take {limit : Nat} (headed : Headed (t.take limit) line value breaks rest) :
    ∃ breaks rest, Headed t line value breaks rest ∧ line.length < limit := by
  have size := congrArg List.length headed.whole
  have seen := List.length_pos_iff.mpr headed.broken
  simp only [List.length_take, List.length_append] at size
  refine ⟨breaks ++ (rest ++ t.drop limit).takeWhile Lines.isBreak,
    (rest ++ t.drop limit).dropWhile Lines.isBreak, ⟨?_, headed.declares, ?_, ?_, ?_⟩, by omega⟩
  · rw [List.append_assoc, List.takeWhile_append_dropWhile, ← List.append_assoc breaks,
      ← List.append_assoc line, ← headed.whole, List.take_append_drop]
  · simp [headed.broken]
  · intro c member
    rcases List.mem_append.mp member with here | further
    · exact headed.breaks c here
    · exact List.all_eq_true.mp (List.all_takeWhile ..) c further
  · exact Text.not_drop_of_head?_dropWhile _

end Headed

theorem declared?_eq_some_iff :
    declared? t = some value ↔
      ∃ line breaks rest, Headed t line value breaks rest ∧ line.length < searchLimit := by
  rw [declared?, Option.map_eq_some_iff]
  constructor
  · rintro ⟨⟨_, rest⟩, read, rfl⟩
    obtain ⟨line, breaks, headed⟩ := headed_of_read read
    exact ⟨line, headed.of_take⟩
  · rintro ⟨line, breaks, rest, headed, ends⟩
    exact ⟨_, (headed.take ends).read, rfl⟩

theorem Headed.body_eq (headed : Headed t line value breaks rest)
    (ends : line.length < searchLimit) :
    body t = breaks.drop (searchLimit - line.length) ++ rest := by
  have unseen : t.drop searchLimit = breaks.drop (searchLimit - line.length) ++
      rest.drop (searchLimit - line.length - breaks.length) := by
    rw [headed.whole, List.drop_append, List.drop_append,
      List.drop_of_length_le (Nat.le_of_lt ends), List.nil_append]
  rw [body, (headed.take ends).read]
  dsimp only
  rw [unseen]
  by_cases all : breaks.length ≤ searchLimit - line.length
  · rw [List.drop_of_length_le all, List.nil_append, List.nil_append, List.take_append_drop]
  · have none : searchLimit - line.length - breaks.length = 0 := by omega
    rw [none, List.take_zero, List.drop_zero, List.nil_append]

end FilterPrep.Checksum
