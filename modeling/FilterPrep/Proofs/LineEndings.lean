import FilterPrep.Proofs.Declaration

/-!
# Line endings and checksums

Carriage returns are not digested, so a text with a carriage return in front of every line feed is
digested like the text itself, declaration and all. It is longer, though: only where the search
still finds the declaration, and the line breaks behind it, is the declaration left out alike.
-/

namespace FilterPrep.Checksum

/-- The text with a carriage return in front of every line feed. -/
def withReturns : Text → Text
  | [] => []
  | c :: t => if c = '\n' then '\r' :: '\n' :: withReturns t else c :: withReturns t

variable {t content : Text}

@[simp] theorem withReturns_nil : withReturns [] = [] := rfl

theorem withReturns_cons (c : Char) (t : Text) :
    withReturns (c :: t) = if c = '\n' then '\r' :: '\n' :: withReturns t else c :: withReturns t :=
  rfl

theorem withReturns_append (first second : Text) :
    withReturns (first ++ second) = withReturns first ++ withReturns second := by
  induction first with
  | nil => rfl
  | cons c first ih =>
    rw [List.cons_append, withReturns_cons, withReturns_cons, ih]
    split <;> rfl

theorem withReturns_of_no_feed (absent : '\n' ∉ t) : withReturns t = t := by
  induction t with
  | nil => rfl
  | cons c t ih =>
    rw [withReturns_cons, if_neg (Ne.symm (List.ne_of_not_mem_cons absent)),
      ih (List.not_mem_of_not_mem_cons absent)]

theorem filter_withReturns (absent : '\r' ∉ t) : (withReturns t).filter (· != '\r') = t := by
  induction t with
  | nil => rfl
  | cons c t ih =>
    have other : c ≠ '\r' := Ne.symm (List.ne_of_not_mem_cons absent)
    have further := ih (List.not_mem_of_not_mem_cons absent)
    rw [withReturns_cons]
    split
    · next feed =>
      rw [List.filter_cons_of_neg (by simp), List.filter_cons_of_pos (by simp), further, feed]
    · rw [List.filter_cons_of_pos (by simpa using other), further]

theorem length_le_withReturns (t : Text) : t.length ≤ (withReturns t).length := by
  induction t with
  | nil => rfl
  | cons c t ih =>
    rw [withReturns_cons]
    split
    · simp only [List.length_cons]
      omega
    · simpa using ih

theorem isEmpty_withReturns (t : Text) : (withReturns t).isEmpty = t.isEmpty := by
  cases t with
  | nil => rfl
  | cons c t =>
    rw [withReturns_cons]
    split <;> rfl

theorem filter_of_no_return (absent : '\r' ∉ t) : t.filter (· != '\r') = t := by
  rw [List.filter_eq_self]
  intro c member
  have other : c ≠ '\r' := fun same => absent (same ▸ member)
  simpa using other

/-! ### Reading through the returns -/

section

variable {p : Char → Bool} (same : p '\r' = p '\n')

include same

theorem takeWhile_withReturns (t : Text) :
    (withReturns t).takeWhile p = withReturns (t.takeWhile p) := by
  induction t with
  | nil => rfl
  | cons c t ih =>
    rw [withReturns_cons]
    by_cases feed : c = '\n'
    · subst feed
      cases holds : p '\n' <;> simp [withReturns_cons, same, holds, ih]
    · cases holds : p c <;> simp [withReturns_cons, feed, holds, ih]

theorem dropWhile_withReturns (t : Text) :
    (withReturns t).dropWhile p = withReturns (t.dropWhile p) := by
  induction t with
  | nil => rfl
  | cons c t ih =>
    rw [withReturns_cons]
    by_cases feed : c = '\n'
    · subst feed
      cases holds : p '\n' <;> simp [withReturns_cons, same, holds, ih]
    · cases holds : p c <;> simp [withReturns_cons, feed, holds, ih]

theorem takeSome?_withReturns (t : Text) :
    takeSome? p (withReturns t) = (takeSome? p t).map (Prod.map withReturns withReturns) := by
  rw [takeSome?, takeSome?, takeWhile_withReturns same, dropWhile_withReturns same,
    isEmpty_withReturns]
  split <;> rfl

end

theorem after?_withReturns (t : Text) :
    Text.after? ['!'] (withReturns t) = (Text.after? ['!'] t).map withReturns := by
  cases t with
  | nil => rfl
  | cons c t =>
    rw [withReturns_cons]
    split
    · next feed =>
      rw [feed]
      rfl
    · by_cases mark : '!' = c <;> simp [Text.after?, mark]

theorem afterWord?_withReturns {word : Text} (noReturn : '\r' ∉ word) (noFeed : '\n' ∉ word)
    (t : Text) : afterWord? word (withReturns t) = (afterWord? word t).map withReturns := by
  induction word generalizing t with
  | nil => simp [afterWord?]
  | cons c word ih =>
    have further := ih (List.not_mem_of_not_mem_cons noReturn) (List.not_mem_of_not_mem_cons noFeed)
    cases t with
    | nil => rfl
    | cons d t =>
      rw [withReturns_cons]
      split
      · next feed =>
        -- neither a return nor a feed is a letter of the word
        have notReturn : Text.foldCase '\r' ≠ c := List.ne_of_not_mem_cons noReturn
        have notFeed : Text.foldCase '\n' ≠ c := List.ne_of_not_mem_cons noFeed
        rw [feed, afterWord?, afterWord?, if_neg notReturn, if_neg notFeed, Option.map_none]
      · rw [afterWord?, afterWord?, further]
        split <;> rfl

/-- The returns do not change what is declared. -/
theorem readDeclaration?_withReturns (t : Text) :
    readDeclaration? (withReturns t) =
      (readDeclaration? t).map fun (value, rest) => (value, withReturns rest) := by
  have starts : ∀ t, Text.trimStart (withReturns t) = withReturns (Text.trimStart t) :=
    dropWhile_withReturns rfl
  simp only [readDeclaration?, starts, after?_withReturns, Option.bind_eq_bind]
  cases Text.after? ['!'] (Text.trimStart t) with
  | none => rfl
  | some comment =>
    have word : ∀ t, afterWord? "checksum".toList (withReturns t) =
        (afterWord? "checksum".toList t).map withReturns :=
      afterWord?_withReturns (by decide) (by decide)
    simp only [Option.map_some, Option.bind_some, starts, word]
    cases afterWord? "checksum".toList (Text.trimStart comment) with
    | none => rfl
    | some tail =>
      simp only [Option.map_some, Option.bind_some, takeSome?_withReturns (p := isSeparator) rfl]
      cases takeSome? isSeparator tail with
      | none => rfl
      | some run =>
        obtain ⟨separators, tail⟩ := run
        simp only [Option.map_some, Option.bind_some, Prod.map_apply,
          takeSome?_withReturns (p := isValueChar) rfl]
        cases valuing : takeSome? isValueChar tail with
        | none => rfl
        | some run =>
          obtain ⟨value, tail⟩ := run
          have noFeed : '\n' ∉ value := fun feed =>
            absurd ((takeSome?_eq_some_iff.mp valuing).2.2.1 _ feed) (by decide)
          simp only [Option.map_some, Option.bind_some, Prod.map_apply,
            dropWhile_withReturns (p := fun c => !Lines.isBreak c) rfl,
            takeSome?_withReturns (p := Lines.isBreak) rfl, withReturns_of_no_feed noFeed]
          cases takeSome? Lines.isBreak (tail.dropWhile fun c => !Lines.isBreak c) <;> rfl

theorem mem_withReturns {c : Char} (member : c ∈ withReturns t) : c = '\r' ∨ c ∈ t := by
  induction t with
  | nil => cases member
  | cons d t ih =>
    rw [withReturns_cons] at member
    split at member
    · next feed =>
      simp only [List.mem_cons] at member ⊢
      rcases member with first | second | further
      · exact .inl first
      · exact .inr (.inl (second.trans feed.symm))
      · exact (ih further).imp_right .inr
    · rcases List.mem_cons.mp member with rfl | further
      · exact .inr List.mem_cons_self
      · exact (ih further).imp_right (List.mem_cons_of_mem _)

section

variable {line value breaks rest : Text}

theorem Headed.withReturns (headed : Headed t line value breaks rest) :
    Headed (withReturns t) (withReturns line) value (withReturns breaks) (withReturns rest) := by
  have read : readDeclaration? (Checksum.withReturns t) =
      some (value, Checksum.withReturns rest) := by
    rw [readDeclaration?_withReturns, headed.read]
    rfl
  obtain ⟨found, behind, other⟩ := headed_of_read read
  have inBreaks : ∀ c ∈ Checksum.withReturns breaks, Lines.isBreak c = true := by
    intro c member
    rcases mem_withReturns member with rfl | inside
    · rfl
    · exact headed.breaks c inside
  have inLine : ∀ c, (Checksum.withReturns line).getLast? = some c → Lines.isBreak c = false := by
    intro c last
    rcases List.eq_nil_or_concat line with empty | ⟨front, d, whole⟩
    · rw [empty] at last
      cases last
    · rw [List.concat_eq_append] at whole
      have solid : Lines.isBreak d = false :=
        headed.declares.inLine_of_getLast? d (by rw [whole, List.getLast?_concat])
      have noFeed : d ≠ '\n' := by
        rintro rfl
        cases solid
      rw [whole, withReturns_append, withReturns_cons, if_neg noFeed, withReturns_nil,
        List.getLast?_concat] at last
      exact Option.some.inj last ▸ solid
  have both : found ++ behind = Checksum.withReturns line ++ Checksum.withReturns breaks := by
    have whole := other.whole
    rw [headed.whole, withReturns_append, withReturns_append, ← List.append_assoc,
      ← List.append_assoc] at whole
    exact (List.append_cancel_right whole).symm
  have same : found = Checksum.withReturns line := by
    rw [other.line_eq, both, Text.trimEndBy_append inBreaks, Text.trimEndBy_of_last inLine]
  rw [same] at both other
  rwa [List.append_cancel_left both] at other

/-- The returns can only move the declaration out of sight. -/
theorem declared?_of_withReturns (declares : declared? (withReturns t) = some value) :
    declared? t = some value := by
  obtain ⟨found, behind, left, other, ends⟩ := declared?_eq_some_iff.mp declares
  have read := other.read
  rw [readDeclaration?_withReturns, Option.map_eq_some_iff] at read
  obtain ⟨⟨value', rest⟩, readBefore, same⟩ := read
  obtain rfl : value' = value := congrArg Prod.fst same
  obtain ⟨line, breaks, headed⟩ := headed_of_read readBefore
  obtain ⟨rfl, -⟩ := other.unique headed.withReturns
  have endsBefore := Nat.lt_of_le_of_lt (length_le_withReturns line) ends
  exact declared?_eq_some_iff.mpr ⟨line, breaks, rest, headed, endsBefore⟩

end

/-! ### What is digested -/

theorem collapseFeeds_feeds {run rest : Text} (feeds : ∀ c ∈ run, c = '\n') (nonempty : run ≠ [])
    (stops : rest.head? ≠ some '\n') :
    collapseFeeds (run ++ rest) = '\n' :: collapseFeeds rest := by
  induction run with
  | nil => exact absurd rfl nonempty
  | cons c run ih =>
    obtain rfl := feeds c List.mem_cons_self
    cases run with
    | nil => exact if_neg fun doubled => stops doubled.2
    | cons d run =>
      obtain rfl := feeds d (List.mem_cons_of_mem _ List.mem_cons_self)
      have further := ih (fun c member => feeds c (List.mem_cons_of_mem _ member)) nofun
      rw [← further]
      exact if_pos ⟨rfl, rfl⟩

/-- Only line feeds are lost. -/
theorem count_collapseFeeds {c : Char} (other : c ≠ '\n') (t : Text) :
    (collapseFeeds t).count c = t.count c := by
  induction t with
  | nil => rfl
  | cons d t ih =>
    rw [collapseFeeds]
    split
    · next feeds => rw [ih, feeds.1, List.count_cons_of_ne other.symm]
    · rw [List.count_cons, List.count_cons, ih]

/-- A run of line breaks counts as one line feed, or as none where it holds only returns. -/
theorem collapseFeeds_breaks {run rest : Text} (inBreaks : ∀ c ∈ run, Lines.isBreak c = true)
    (solid : StartsInLine rest) :
    collapseFeeds ((run ++ rest).filter (· != '\r')) =
      (if '\n' ∈ run then ['\n'] else []) ++ collapseFeeds (rest.filter (· != '\r')) := by
  have feeds : ∀ c ∈ run.filter (· != '\r'), c = '\n' := by
    intro c member
    obtain ⟨inside, noReturn⟩ := List.mem_filter.mp member
    simpa [Lines.isBreak, bne_iff_ne.mp noReturn] using inBreaks c inside
  have stops : (rest.filter (· != '\r')).head? ≠ some '\n' := by
    cases rest with
    | nil => simp
    | cons c rest =>
      obtain ⟨noReturn, noFeed⟩ := Bool.or_eq_false_iff.mp (solid c rfl)
      rw [List.filter_cons_of_pos (by simpa using noReturn), List.head?_cons]
      simpa using noFeed
  rw [List.filter_append]
  split
  · next feed =>
    refine collapseFeeds_feeds feeds ?_ stops
    exact List.ne_nil_of_mem (List.mem_filter.mpr ⟨feed, by decide⟩)
  · next noFeed =>
    have none : run.filter (· != '\r') = [] := by
      rw [List.eq_nil_iff_forall_not_mem]
      intro c member
      exact noFeed (feeds c member ▸ (List.mem_filter.mp member).1)
    rw [none, List.nil_append, List.nil_append]

/-- All the line breaks behind the declaration are left out with it. -/
def TakesBreaks (content : Text) : Prop := StartsInLine (body content)

section

variable {line value breaks rest : Text}

theorem takesBreaks_iff (headed : Headed content line value breaks rest)
    (ends : line.length < searchLimit) :
    TakesBreaks content ↔ breaks.drop (searchLimit - line.length) = [] := by
  rw [TakesBreaks, headed.body_eq ends]
  constructor
  · intro solid
    cases left : breaks.drop (searchLimit - line.length) with
    | nil => rfl
    | cons c run =>
      have isBreak := headed.breaks c (List.mem_of_mem_drop (left ▸ List.mem_cons_self))
      rw [left] at solid
      rw [solid c rfl] at isBreak
      cases isBreak
  · intro none
    rw [none]
    exact headed.solid

theorem normalize_headed (headed : Headed content line value breaks rest)
    (ends : line.length < searchLimit)
    (feed : breaks.getLast? = some '\n') :
    (TakesBreaks content →
      normalize content = collapseFeeds (rest.filter (· != '\r'))) ∧
    (¬TakesBreaks content →
      normalize content = '\n' :: collapseFeeds (rest.filter (· != '\r'))) := by
  have isRun : ∀ c ∈ breaks.drop (searchLimit - line.length), Lines.isBreak c = true := by
    intro c member
    exact headed.breaks c (List.mem_of_mem_drop member)
  have whole := collapseFeeds_breaks isRun headed.solid
  rw [← headed.body_eq ends, ← normalize] at whole
  rw [whole, takesBreaks_iff headed ends]
  constructor
  · intro none
    rw [none]
    rfl
  · intro left
    have last : '\n' ∈ breaks.drop (searchLimit - line.length) := by
      refine List.mem_of_getLast? ?_
      rw [List.getLast?_drop, if_neg, feed]
      exact fun all => left (List.drop_of_length_le all)
    rw [if_pos last]
    rfl

theorem getLast?_withReturns (last : t.getLast? = some '\n') :
    (withReturns t).getLast? = some '\n' := by
  obtain ⟨front, rfl⟩ := List.getLast?_eq_some_iff.mp last
  have feed : withReturns ['\n'] = ['\r', '\n'] := rfl
  rw [withReturns_append, feed, List.getLast?_append_of_ne_nil _ (List.cons_ne_nil _ _)]
  rfl

theorem normalize_withReturns_of_headed (feeds : '\r' ∉ content)
    (headed : Headed content line value breaks rest)
    (ends : (withReturns line).length < searchLimit)
    (takes : TakesBreaks content → TakesBreaks (withReturns content)) :
    normalize (withReturns content) = normalize content := by
  have endsBefore := Nat.lt_of_le_of_lt (length_le_withReturns line) ends
  have noReturn : ∀ part : Text, part ⊆ content → '\r' ∉ part := fun part inside member =>
    feeds (inside member)
  have last : breaks.getLast? = some '\n' := by
    obtain ⟨front, c, concat⟩ := (List.eq_nil_or_concat breaks).resolve_left headed.broken
    have member : c ∈ breaks := by simp [concat]
    have other : c ≠ '\r' := by
      rintro rfl
      exact noReturn breaks (by simp [headed.whole]) member
    have feed : c = '\n' := by simpa [Lines.isBreak, other] using headed.breaks c member
    rw [concat, List.concat_eq_append, List.getLast?_concat, feed]
  have takesBefore : TakesBreaks (withReturns content) → TakesBreaks content := by
    rw [takesBreaks_iff headed endsBefore, takesBreaks_iff headed.withReturns ends,
      List.drop_eq_nil_iff, List.drop_eq_nil_iff]
    have longer := length_le_withReturns line
    have more := length_le_withReturns breaks
    omega
  have sameRest : (withReturns rest).filter (· != '\r') = rest.filter (· != '\r') := by
    have absent : '\r' ∉ rest := noReturn rest (by simp [headed.whole])
    rw [filter_withReturns absent, filter_of_no_return absent]
  have before := normalize_headed headed endsBefore last
  have behind := normalize_headed headed.withReturns ends (getLast?_withReturns last)
  rw [sameRest] at behind
  by_cases taken : TakesBreaks content
  · rw [before.1 taken, behind.1 (takes taken)]
  · rw [before.2 taken, behind.2 (mt takesBefore taken)]

end

theorem normalize_of_undeclared (undeclared : declared? content = none) :
    normalize content = collapseFeeds (content.filter (· != '\r')) := by
  rw [normalize, body_of_undeclared undeclared]

/-- What declares a checksum is not digested. -/
theorem count_normalize_lt (declares : (declared? content).isSome) :
    (normalize content).count '!' < content.count '!' := by
  obtain ⟨value, declared⟩ := Option.isSome_iff_exists.mp declares
  obtain ⟨line, breaks, rest, headed, ends⟩ := declared?_eq_some_iff.mp declared
  have mark : 0 < line.count '!' := by
    obtain ⟨-, -, -, -, -, -, -, -, -⟩ := headed.declares
    simp
  have fewer : (breaks.drop (searchLimit - line.length)).count '!' ≤ breaks.count '!' :=
    (List.drop_sublist _ _).count_le _
  rw [normalize, count_collapseFeeds (by decide), List.count_filter (by decide),
    headed.body_eq ends]
  conv_rhs => rw [headed.whole]
  simp only [List.count_append]
  omega

/-- The two texts are digested alike and so have the same checksum. -/
def Alike (content other : Text) : Prop :=
  normalize content = normalize other ∧ calculate content = calculate other

theorem alike_of_normalize {other : Text} (same : normalize content = normalize other) :
    Alike content other := by
  refine ⟨same, ?_⟩
  rw [calculate, calculate, same]

/-- Returns in front of the line feeds do not change the checksum of a text without a declaration,
nor of one where the search still finds the declaration and no line break behind it is lost to the
search. A declaration that they move out of sight is digested like any other line. -/
theorem normalize_withReturns (feeds : '\r' ∉ content) :
    (declared? content = none → Alike (withReturns content) content) ∧
    ((declared? (withReturns content)).isSome →
      (TakesBreaks content → TakesBreaks (withReturns content)) →
        Alike (withReturns content) content) ∧
    ((declared? content).isSome → declared? (withReturns content) = none →
      normalize (withReturns content) = collapseFeeds content ∧
        normalize (withReturns content) ≠ normalize content) := by
  have unseen : declared? (withReturns content) = none →
      normalize (withReturns content) = collapseFeeds content := by
    intro undeclared
    rw [normalize_of_undeclared undeclared, filter_withReturns feeds]
  refine ⟨fun undeclared => ?_, fun declares takes => ?_, fun declares lost => ?_⟩
  · apply alike_of_normalize
    rw [normalize_of_undeclared undeclared, filter_of_no_return feeds, unseen]
    rw [Option.eq_none_iff_forall_ne_some]
    intro value declares
    rw [declared?_of_withReturns declares] at undeclared
    cases undeclared
  · obtain ⟨value, declared⟩ := Option.isSome_iff_exists.mp declares
    obtain ⟨found, behind, left, other, ends⟩ := declared?_eq_some_iff.mp declared
    obtain ⟨line, breaks, rest, headed, -⟩ :=
      declared?_eq_some_iff.mp (declared?_of_withReturns declared)
    obtain ⟨rfl, -⟩ := other.unique headed.withReturns
    exact alike_of_normalize (normalize_withReturns_of_headed feeds headed ends takes)
  · refine ⟨unseen lost, fun same => ?_⟩
    have fewer := count_normalize_lt declares
    rw [← same, unseen lost, count_collapseFeeds (by decide)] at fewer
    exact Nat.lt_irrefl _ fewer

/-- A blank line in front of the declaration and two line breaks behind it. -/
theorem normalize_withReturns_framed :
    '\r' ∉ "\n! Checksum: abc\n\n||example.org^\n".toList ∧
      Alike (withReturns "\n! Checksum: abc\n\n||example.org^\n".toList)
        "\n! Checksum: abc\n\n||example.org^\n".toList := by
  have feeds : '\r' ∉ "\n! Checksum: abc\n\n||example.org^\n".toList := by decide
  have start : (body (withReturns "\n! Checksum: abc\n\n||example.org^\n".toList)).head? =
      some '|' := by decide
  refine ⟨feeds, (normalize_withReturns feeds).2.1 (by decide) fun _ c first => ?_⟩
  rw [start] at first
  cases first
  rfl

/-- A declaration that the returns push behind the searched characters. -/
def farDeclaration : Text := List.replicate 100 '\n' ++ "! Checksum: abc\na".toList

/-- A declaration whose line break is the last of the searched characters. -/
def longDeclaration : Text :=
  "! Checksum: abc".toList ++ List.replicate 184 ' ' ++ "\na".toList

/-- The first is digested whole once the returns are there. Of the second, only the return is left
out with the line then, and the line feed is digested. -/
theorem calculate_withReturns_ne :
    ('\r' ∉ farDeclaration ∧ normalize farDeclaration = "a".toList ∧
      normalize (withReturns farDeclaration) = "\n! Checksum: abc\na".toList ∧
      calculate (withReturns farDeclaration) ≠ calculate farDeclaration) ∧
    '\r' ∉ longDeclaration ∧ normalize longDeclaration = "a".toList ∧
      normalize (withReturns longDeclaration) = "\na".toList ∧
      calculate (withReturns longDeclaration) ≠ calculate longDeclaration := by
  decide +kernel

end FilterPrep.Checksum
