import FilterPrep.Proofs.Text

/-!
# Pieces between separators

Where separators come in runs, only the pieces that hold something count. `filled_append` is the
one equation about them: a separator divides the pieces of a text. `filled_eq_iff` gives each piece
its place in the text, as a part without separators that cannot be made longer.
-/

namespace FilterPrep.Text

variable {cut : Char → Bool} {t piece : Text}

/-- The pieces of the text between the characters of `cut`, without the empty ones. -/
def filled (cut : Char → Bool) (t : Text) : List Text :=
  (split cut t).filter fun piece => !piece.isEmpty

theorem filled_append {c : Char} (cuts : cut c = true) (t rest : Text) :
    filled cut (t ++ c :: rest) = filled cut t ++ filled cut rest := by
  rw [filled, split_append cuts, List.filter_append]
  rfl

theorem filled_run {run : Text} (cuts : ∀ c ∈ run, cut c = true) (t : Text) :
    filled cut (run ++ t) = filled cut t := by
  induction run with
  | nil => rfl
  | cons c run ih =>
    have first : filled cut ([] ++ c :: (run ++ t)) = filled cut [] ++ filled cut (run ++ t) :=
      filled_append (cuts c List.mem_cons_self) [] _
    rw [ih fun d member => cuts d (List.mem_cons_of_mem _ member)] at first
    exact first

/-- A run of separators, however long, divides the pieces of a text. -/
theorem filled_append_run {run : Text} (cuts : ∀ c ∈ run, cut c = true) (nonempty : run ≠ [])
    (t rest : Text) : filled cut (t ++ (run ++ rest)) = filled cut t ++ filled cut rest := by
  cases run with
  | nil => exact absurd rfl nonempty
  | cons c run =>
    rw [List.cons_append, filled_append (cuts c List.mem_cons_self),
      filled_run fun d member => cuts d (List.mem_cons_of_mem _ member)]

theorem filled_of_uncut (nonempty : piece ≠ []) (uncut : ∀ c ∈ piece, cut c = false) :
    filled cut piece = [piece] := by
  rw [filled, split_of_uncut uncut]
  exact List.filter_cons_of_pos (by simpa using nonempty)

/-- A piece ends in front of the next separator. -/
theorem filled_piece (nonempty : piece ≠ []) (uncut : ∀ c ∈ piece, cut c = false) {rest : Text}
    (ends : ∀ c, rest.head? = some c → cut c = true) :
    filled cut (piece ++ rest) = piece :: filled cut rest := by
  have alone := filled_of_uncut nonempty uncut
  cases rest with
  | nil => rw [List.append_nil, alone]; rfl
  | cons c rest =>
    have cuts := ends c rfl
    have behind : filled cut ([c] ++ rest) = filled cut rest :=
      filled_run (fun d member => List.mem_singleton.mp member ▸ cuts) rest
    rw [filled_append cuts, alone, ← behind]
    rfl

theorem mem_filled (member : piece ∈ filled cut t) :
    piece ≠ [] ∧ ∀ c ∈ piece, cut c = false := by
  obtain ⟨among, solid⟩ := List.mem_filter.mp member
  exact ⟨by simpa using solid, uncut_of_mem_split among⟩

theorem filled_join {mark : Char} (cuts : cut mark = true) {pieces : List Text}
    (solid : ∀ piece ∈ pieces, piece ≠ [] ∧ ∀ c ∈ piece, cut c = false) :
    filled cut (join [mark] pieces) = pieces := by
  induction pieces with
  | nil => rfl
  | cons first rest ih =>
    obtain ⟨nonempty, uncut⟩ := solid first List.mem_cons_self
    have later := ih fun piece member => solid piece (List.mem_cons_of_mem _ member)
    have alone := filled_of_uncut nonempty uncut
    cases rest with
    | nil => exact alone
    | cons second rest =>
      rw [join, List.append_assoc, List.singleton_append, filled_append cuts, alone, later]
      rfl

theorem getLast?_join {last : Text} (nonempty : last ≠ []) (separator : Text) (front : List Text) :
    (join separator (front ++ [last])).getLast? = last.getLast? := by
  induction front with
  | nil => rfl
  | cons first front ih =>
    have filled : join separator (front ++ [last]) ≠ [] := by
      intro empty
      rw [empty, List.getLast?_nil] at ih
      exact nonempty (List.getLast?_eq_none_iff.mp ih.symm)
    cases rest : front ++ [last] with
    | nil => simp at rest
    | cons second rest' =>
      rw [rest] at ih filled
      rw [List.cons_append, rest, join, List.getLast?_append_of_ne_nil _ filled, ih]

/-! ### Places of pieces -/

/-- A part of the text without separators that cannot be made longer, and what stands around it. -/
structure PieceAt (cut : Char → Bool) (t before piece behind : Text) : Prop where
  whole : t = before ++ (piece ++ behind)
  nonempty : piece ≠ []
  uncut : ∀ c ∈ piece, cut c = false
  starts : ∀ c, before.getLast? = some c → cut c = true
  ends : ∀ c, behind.head? = some c → cut c = true

variable {before behind : Text}

theorem PieceAt.filled_eq (place : PieceAt cut t before piece behind) :
    filled cut t = filled cut before ++ piece :: filled cut behind := by
  have further := filled_piece place.nonempty place.uncut place.ends
  rw [place.whole]
  rcases List.eq_nil_or_concat before with rfl | ⟨front, c, concat⟩
  · exact further
  · rw [List.concat_eq_append] at concat
    have cuts := place.starts c (by rw [concat, List.getLast?_concat])
    have inFront : filled cut (front ++ [c]) = filled cut front :=
      (filled_append cuts front []).trans (List.append_nil _)
    rw [concat, inFront, List.append_assoc, List.singleton_append, filled_append cuts, further]

/-- Behind the separators at its start a text is over, or its first piece stands there. -/
theorem eq_nil_or_first (cut : Char → Bool) (t : Text) :
    filled cut t = [] ∨
      ∃ run piece behind, PieceAt cut t run piece behind ∧ filled cut run = [] := by
  have cuts : ∀ c ∈ t.takeWhile cut, cut c = true := List.all_eq_true.mp (List.all_takeWhile ..)
  have whole : t = t.takeWhile cut ++ t.dropWhile cut := List.takeWhile_append_dropWhile.symm
  cases rest : t.dropWhile cut with
  | nil =>
    left
    rw [whole, filled_run cuts, rest]
    rfl
  | cons c behind =>
    right
    have kept : cut c = false := not_drop_of_head?_dropWhile t c (by rw [rest, List.head?_cons])
    refine ⟨t.takeWhile cut, c :: behind.takeWhile (!cut ·), behind.dropWhile (!cut ·), ?_, ?_⟩
    · constructor
      · rw [List.cons_append, List.takeWhile_append_dropWhile, ← rest, ← whole]
      · exact List.cons_ne_nil _ _
      · intro d member
        rcases List.mem_cons.mp member with rfl | further
        · exact kept
        · have goesOn := List.all_eq_true.mp (List.all_takeWhile ..) d further
          simpa using goesOn
      · exact fun d last => cuts d (List.mem_of_getLast? last)
      · intro d first
        simpa using not_drop_of_head?_dropWhile _ d first
    · rw [← List.append_nil (t.takeWhile cut), filled_run cuts]
      rfl

/-- What is in front of a later piece holds the first one as a piece too. -/
theorem PieceAt.extend {first rest run : Text} (earlier : PieceAt cut t run first rest)
    (later : PieceAt cut rest before piece behind) :
    PieceAt cut t (run ++ (first ++ before)) piece behind ∧
      PieceAt cut (run ++ (first ++ before)) run first before := by
  -- the rest starts with a separator, so one stands between the two pieces
  obtain ⟨c, between, starts⟩ : ∃ c between, before = c :: between := by
    refine List.exists_cons_of_ne_nil ?_
    rintro rfl
    obtain ⟨c, more, starts⟩ := List.exists_cons_of_ne_nil later.nonempty
    have cuts := earlier.ends c (by rw [later.whole, starts]; rfl)
    have kept := later.uncut c (starts ▸ List.mem_cons_self)
    exact Bool.false_ne_true (kept.symm.trans cuts)
  have cuts := earlier.ends c (by rw [later.whole, starts]; rfl)
  constructor
  · refine ⟨?_, later.nonempty, later.uncut, ?_, later.ends⟩
    · rw [earlier.whole, later.whole, List.append_assoc, List.append_assoc]
    · intro d last
      rw [← List.append_assoc, List.getLast?_append_of_ne_nil _ (by simp [starts])] at last
      exact later.starts d last
  · refine ⟨rfl, earlier.nonempty, earlier.uncut, earlier.starts, ?_⟩
    rw [starts]
    rintro d ⟨⟩
    exact cuts

/-- The pieces of a text are its parts without separators that cannot be made longer, each behind
the pieces of what stands in front of it. -/
theorem filled_eq_iff {front back : List Text} :
    filled cut t = front ++ piece :: back ↔ ∃ before behind, PieceAt cut t before piece behind ∧
      filled cut before = front ∧ filled cut behind = back := by
  constructor
  · intro pieces
    induction front generalizing t with
    | nil =>
      rcases eq_nil_or_first cut t with none | ⟨run, first, behind, place, empty⟩
      · rw [none] at pieces
        cases pieces
      · rw [place.filled_eq, empty] at pieces
        cases pieces
        exact ⟨run, behind, place, empty, rfl⟩
    | cons head front ih =>
      rcases eq_nil_or_first cut t with none | ⟨run, first, rest, place, empty⟩
      · rw [none] at pieces
        cases pieces
      · rw [place.filled_eq, empty, List.nil_append, List.cons_append] at pieces
        obtain ⟨rfl, further⟩ := List.cons.inj pieces
        obtain ⟨before, behind, later, inFront, behindIt⟩ := ih further
        obtain ⟨whole, shorter⟩ := place.extend later
        refine ⟨_, behind, whole, ?_, behindIt⟩
        rw [shorter.filled_eq, empty, inFront, List.nil_append]
  · rintro ⟨before, behind, place, rfl, rfl⟩
    exact place.filled_eq

theorem mem_filled_iff :
    piece ∈ filled cut t ↔ ∃ before behind, PieceAt cut t before piece behind := by
  constructor
  · intro member
    obtain ⟨front, back, pieces⟩ := List.append_of_mem member
    obtain ⟨before, behind, place, -, -⟩ := filled_eq_iff.mp pieces
    exact ⟨before, behind, place⟩
  · rintro ⟨before, behind, place⟩
    rw [place.filled_eq]
    exact List.mem_append_right _ List.mem_cons_self

end FilterPrep.Text
