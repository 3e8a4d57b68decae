import FilterPrep.Lines
import FilterPrep.Proofs.Pieces

/-!
# The lines of a raw text

Padding is dropped around a text before it is split and runs of line breaks count as one, so the
lines of a text are canonical: each holds something, and neither end of the document is padding. A
text of padding alone has one empty line. Joined again, canonical lines are split into the same
lines, and how the lines of a text are broken does not matter.
-/

namespace FilterPrep.Lines

/-- Lines that all hold something, without line breaks, and with no padding around them. -/
structure Canonical (lines : Lines) : Prop where
  inLine : ∀ line ∈ lines, ∀ c ∈ line, isBreak c = false
  filled : ∀ line ∈ lines, line ≠ []
  first : ∃ c line rest, lines = (c :: line) :: rest ∧ isPadding c = false
  last : ∃ rest line c, lines = rest ++ [line ++ [c]] ∧ isPadding c = false

/-- The second text is the first with other line breaks: a run of them for every run. The parts
between may be empty, so that a run can also be replaced bit by bit. -/
inductive Rebroken : Text → Text → Prop where
  | line {part} (inLine : ∀ c ∈ part, isBreak c = false) : Rebroken part part
  | broken {part run other t u} (inLine : ∀ c ∈ part, isBreak c = false)
      (nonempty : run ≠ []) (breaks : ∀ c ∈ run, isBreak c = true)
      (nonempty' : other ≠ []) (breaks' : ∀ c ∈ other, isBreak c = true)
      (rest : Rebroken t u) : Rebroken (part ++ (run ++ t)) (part ++ (other ++ u))

theorem isPadding_of_isBreak {c : Char} (isBreak : isBreak c = true) : isPadding c = true := by
  rcases Bool.or_eq_true_iff.mp isBreak with same | same
  · rw [beq_iff_eq.mp same]
    decide
  · rw [beq_iff_eq.mp same]
    decide

theorem not_isBreak_of_not_isPadding {c : Char} (solid : isPadding c = false) :
    isBreak c = false := by
  by_contra breaks
  rw [isPadding_of_isBreak (Bool.eq_true_of_not_eq_false breaks)] at solid
  cases solid

/-! ### Splitting -/

theorem ofText_of_padding {raw : Text} (empty : Text.trimBy isPadding raw = []) :
    ofText raw = [[]] := by
  rw [ofText, empty]

theorem ofText_of_solid {raw : Text} (solid : Text.trimBy isPadding raw ≠ []) :
    ofText raw = Text.filled isBreak (Text.trimBy isPadding raw) := by
  unfold ofText
  split
  · next empty => exact absurd empty solid
  · rfl

theorem canonical_filled {body : Text} (trimmed : Text.Trimmed isPadding body)
    (solid : body ≠ []) : Canonical (Text.filled isBreak body) := by
  refine ⟨fun line member => (Text.mem_filled member).2,
    fun line member => (Text.mem_filled member).1, ?_, ?_⟩
  · obtain ⟨c, rest, rfl⟩ := List.exists_cons_of_ne_nil solid
    have kept := trimmed.1 c rfl
    obtain ⟨line, lines, parts⟩ := Text.split_cons_of_kept (not_isBreak_of_not_isPadding kept) rest
    exact ⟨c, line, lines.filter fun line => !line.isEmpty, by rw [Text.filled, parts]; rfl, kept⟩
  · obtain ⟨front, c, rfl⟩ := (List.eq_nil_or_concat body).resolve_left solid
    rw [List.concat_eq_append] at trimmed ⊢
    have kept := trimmed.2 c List.getLast?_concat
    obtain ⟨lines, line, parts⟩ :=
      Text.split_last isBreak (not_isBreak_of_not_isPadding kept) front
    refine ⟨lines.filter fun line => !line.isEmpty, line, c, ?_, kept⟩
    rw [Text.filled, parts, List.filter_append, List.filter_cons_of_pos (by simp)]
    rfl

theorem canonical_ofText {raw : Text} (solid : Text.trimBy isPadding raw ≠ []) :
    Canonical (ofText raw) := by
  rw [ofText_of_solid solid]
  exact canonical_filled (Text.trimmed_trimBy isPadding raw) solid

theorem Canonical.ne_blank {lines : Lines} (canonical : Canonical lines) : lines ≠ [[]] := by
  intro blank
  rw [blank] at canonical
  exact canonical.filled [] List.mem_cons_self rfl

theorem ofText_eq_blank_iff (raw : Text) :
    ofText raw = [[]] ↔ Text.trimBy isPadding raw = [] := by
  constructor
  · intro blank
    by_contra solid
    exact (canonical_ofText solid).ne_blank blank
  · exact ofText_of_padding

/-- Only a text that is padding throughout has blank lines alone. -/
theorem isBlank_ofText_iff (raw : Text) : (ofText raw).isBlank = true ↔ ofText raw = [[]] := by
  constructor
  · intro blank
    rw [ofText_eq_blank_iff]
    by_contra solid
    obtain ⟨c, line, rest, whole, kept⟩ := (canonical_ofText solid).first
    rw [whole] at blank
    simp [isBlank, (Bool.or_eq_false_iff.mp kept).1] at blank
  · intro blank
    rw [blank]
    rfl

/-! ### Joining -/

theorem Canonical.trimmed_join {lines : Lines} (canonical : Canonical lines) :
    Text.Trimmed isPadding (Text.join ['\n'] lines) := by
  constructor
  · obtain ⟨c, line, rest, rfl, kept⟩ := canonical.first
    intro d first
    rw [Text.head?_join (List.cons_ne_nil c line)] at first
    cases first
    exact kept
  · obtain ⟨rest, line, c, rfl, kept⟩ := canonical.last
    intro d last
    rw [Text.getLast?_join (by simp), List.getLast?_concat] at last
    cases last
    exact kept

theorem Canonical.ofText_join {lines : Lines} (canonical : Canonical lines) :
    ofText (Text.join ['\n'] lines) = lines := by
  have whole := Text.trimBy_of_trimmed canonical.trimmed_join
  have pieces : Text.filled isBreak (Text.join ['\n'] lines) = lines := by
    refine Text.filled_join rfl fun line member => ?_
    exact ⟨canonical.filled line member, canonical.inLine line member⟩
  have solid : Text.join ['\n'] lines ≠ [] := by
    intro empty
    obtain ⟨c, line, rest, some, -⟩ := canonical.first
    rw [empty] at pieces
    rw [← pieces] at some
    cases some
  rw [ofText_of_solid (by rwa [whole]), whole, pieces]

/-! ### Other line breaks -/

namespace Rebroken

variable {t u : Text}

theorem eq_nil_iff (rebroken : Rebroken t u) : t = [] ↔ u = [] := by
  cases rebroken with
  | line inLine => rfl
  | broken inLine nonempty breaks nonempty' breaks' rest => simp [nonempty, nonempty']

theorem filled_eq (rebroken : Rebroken t u) :
    Text.filled isBreak u = Text.filled isBreak t := by
  induction rebroken with
  | line inLine => rfl
  | broken inLine nonempty breaks nonempty' breaks' rest ih =>
    rw [Text.filled_append_run breaks nonempty, Text.filled_append_run breaks' nonempty', ih]

theorem dropWhile (rebroken : Rebroken t u) :
    Rebroken (t.dropWhile isPadding) (u.dropWhile isPadding) := by
  induction rebroken with
  | line inLine =>
    exact line fun c member => inLine c ((List.dropWhile_sublist _).mem member)
  | @broken part run other t u inLine nonempty breaks nonempty' breaks' rest ih =>
    have step : ∀ {run t : Text}, (∀ c ∈ run, isBreak c = true) →
        (part ++ (run ++ t)).dropWhile isPadding =
          if (part.dropWhile isPadding).isEmpty then t.dropWhile isPadding
          else part.dropWhile isPadding ++ (run ++ t) := by
      intro run t breaks
      have dropped : (run ++ t).dropWhile isPadding = t.dropWhile isPadding :=
        List.dropWhile_append_of_pos fun c member => isPadding_of_isBreak (breaks c member)
      rw [List.dropWhile_append, dropped]
    rw [step breaks, step breaks']
    split
    · exact ih
    · exact broken (fun c member => inLine c ((List.dropWhile_sublist _).mem member)) nonempty
        breaks nonempty' breaks' rest

theorem trimEndBy (rebroken : Rebroken t u) :
    Rebroken (Text.trimEndBy isPadding t) (Text.trimEndBy isPadding u) := by
  have shortened : ∀ {part : Text}, (∀ c ∈ part, isBreak c = false) →
      Rebroken (Text.trimEndBy isPadding part) (Text.trimEndBy isPadding part) := by
    intro part inLine
    obtain ⟨trail, whole, -⟩ := Text.trimEndBy_split isPadding part
    exact line fun c member => inLine c (whole ▸ List.mem_append_left _ member)
  have dropped : ∀ {run t : Text}, (∀ c ∈ run, isBreak c = true) →
      Text.trimEndBy isPadding t = [] → ∀ c ∈ run ++ t, isPadding c = true := by
    intro run t breaks empty c member
    obtain ⟨trail, whole, padding⟩ := Text.trimEndBy_split isPadding t
    rw [empty, List.nil_append] at whole
    rcases List.mem_append.mp member with before | behind
    · exact isPadding_of_isBreak (breaks c before)
    · exact padding c (whole ▸ behind)
  induction rebroken with
  | line inLine => exact shortened inLine
  | @broken part run other t u inLine nonempty breaks nonempty' breaks' rest ih =>
    by_cases empty : Text.trimEndBy isPadding t = []
    · have empty' := ih.eq_nil_iff.mp empty
      rw [Text.trimEndBy_append (dropped breaks empty),
        Text.trimEndBy_append (dropped breaks' empty')]
      exact shortened inLine
    · have solid := mt ih.eq_nil_iff.mpr empty
      rw [← List.append_assoc, Text.trimEndBy_append_of_ne_nil empty, ← List.append_assoc part,
        Text.trimEndBy_append_of_ne_nil solid, List.append_assoc, List.append_assoc]
      exact broken inLine nonempty breaks nonempty' breaks' ih

theorem ofText_eq (rebroken : Rebroken t u) : ofText u = ofText t := by
  have trimmed : Rebroken (Text.trimBy isPadding t) (Text.trimBy isPadding u) :=
    rebroken.dropWhile.trimEndBy
  by_cases empty : Text.trimBy isPadding t = []
  · rw [ofText_of_padding empty, ofText_of_padding (trimmed.eq_nil_iff.mp empty)]
  · rw [ofText_of_solid empty, ofText_of_solid (mt trimmed.eq_nil_iff.mpr empty), trimmed.filled_eq]

end Rebroken

theorem trimBy_eq_nil_iff (raw : Text) :
    Text.trimBy isPadding raw = [] ↔ ∀ c ∈ raw, isPadding c = true := by
  constructor
  · intro empty
    obtain ⟨lead, trail, whole, before, behind⟩ := Text.trimBy_split isPadding raw
    rw [empty, List.append_nil] at whole
    rw [whole]
    exact fun c member => (List.mem_append.mp member).elim (before c) (behind c)
  · intro padding
    rw [Text.trimBy, List.dropWhile_eq_nil_iff.mpr padding]
    rfl

/-- The lines of every text are canonical, or the one empty line of a text without content; that is
what blankness asks. Written out again they are split into the same lines, and so is the text with
any other line breaks. -/
theorem ofText_canonical (raw : Text) :
    (∀ line ∈ ofText raw, ∀ c ∈ line, isBreak c = false) ∧
    (ofText raw = [[]] ∨ Canonical (ofText raw)) ∧
    (ofText raw = [[]] ↔ (ofText raw).isBlank = true) ∧
    (ofText raw = [[]] ↔ ∀ c ∈ raw, isPadding c = true) ∧
    ofText (Text.join ['\n'] (ofText raw)) = ofText raw ∧
    ∀ other, Rebroken raw other → ofText other = ofText raw := by
  have either : ofText raw = [[]] ∨ Canonical (ofText raw) := by
    by_cases empty : Text.trimBy isPadding raw = []
    · exact .inl (ofText_of_padding empty)
    · exact .inr (canonical_ofText empty)
  refine ⟨?_, either, (isBlank_ofText_iff raw).symm,
    (ofText_eq_blank_iff raw).trans (trimBy_eq_nil_iff raw), ?_, fun _ => Rebroken.ofText_eq⟩
  · rcases either with blank | canonical
    · rw [blank]
      simp
    · exact canonical.inLine
  · rcases either with blank | canonical
    · rw [blank]
      rfl
    · exact canonical.ofText_join

/-- Padding of both kinds around the text, and a line of spaces inside. -/
theorem ofText_canonical_padded :
    Rebroken "\uFEFF \n a\r\n  \n\nb ".toList "\uFEFF \r\r a\n  \rb ".toList ∧
      ofText "\uFEFF \n a\r\n  \n\nb ".toList = ["a".toList, "  ".toList, "b".toList] ∧
      ofText "\uFEFF \r\r a\n  \rb ".toList = ["a".toList, "  ".toList, "b".toList] := by
  have rebroken : Rebroken "\uFEFF \n a\r\n  \n\nb ".toList "\uFEFF \r\r a\n  \rb ".toList := by
    refine @Rebroken.broken ['\uFEFF', ' '] ['\n'] ['\r', '\r'] _ _ (by simp [isBreak]) nofun
      (by simp [isBreak]) nofun (by simp [isBreak]) ?_
    refine @Rebroken.broken [' ', 'a'] ['\r', '\n'] ['\n'] _ _ (by simp [isBreak]) nofun
      (by simp [isBreak]) nofun (by simp [isBreak]) ?_
    refine @Rebroken.broken [' ', ' '] ['\n', '\n'] ['\r'] _ _ (by simp [isBreak]) nofun
      (by simp [isBreak]) nofun (by simp [isBreak]) ?_
    exact @Rebroken.line ['b', ' '] (by simp [isBreak])
  have lines : ofText "\uFEFF \n a\r\n  \n\nb ".toList =
      ["a".toList, "  ".toList, "b".toList] := by decide
  obtain ⟨-, -, -, -, -, same⟩ := ofText_canonical "\uFEFF \n a\r\n  \n\nb ".toList
  exact ⟨rebroken, lines, (same _ rebroken).trans lines⟩

end FilterPrep.Lines
