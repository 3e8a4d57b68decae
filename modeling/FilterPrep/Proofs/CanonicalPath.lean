import FilterPrep.LocalPath
import FilterPrep.Proofs.Text

/-!
# Canonical local paths

The segments of a canonical path all say something, and `..` stands only in front of the others,
never below the root. Resolving segment by segment keeps this form, and a path that has it is left
alone: `normalize` gives each path its canonical form, and a segment that is entered and left again
does not count in it.
-/

namespace FilterPrep.LocalPath

variable {rooted : Bool} {done list : List Text}

/-- A segment of a path that is not empty and not a single dot. -/
structure IsSegment (segment : Text) : Prop where
  nonempty : segment ≠ []
  notDot : segment ≠ ['.']
  noSlash : '/' ∉ segment

/-- Segments with `..` only in front of the others, and nowhere below the root. -/
structure Canonical (rooted : Bool) (list : List Text) : Prop where
  isSegment : ∀ segment ∈ list, IsSegment segment
  parents : ∃ up names, list = List.replicate up parentSegment ++ names ∧
    parentSegment ∉ names ∧ (rooted = true → up = 0)

/-- A path as it is written. -/
def spell (rooted : Bool) (list : List Text) : Text :=
  (if rooted then ['/'] else []) ++ Text.join ['/'] list

theorem normalize_eq (path : Text) :
    normalize path = spell (isRooted (stripScheme path))
      ((segments (stripScheme path)).foldl (push (isRooted (stripScheme path))) []).reverse := rfl

/-! ### Segments -/

theorem segments_append (path rest : Text) :
    segments (path ++ '/' :: rest) = segments path ++ segments rest := by
  rw [segments, Text.split_append (by decide), List.filter_append]
  rfl

theorem isSegment_of_mem_segments {path segment : Text} (member : segment ∈ segments path) :
    IsSegment segment := by
  obtain ⟨piece, solid⟩ := List.mem_filter.mp member
  simp only [Bool.and_eq_true, Bool.not_eq_true', List.isEmpty_eq_false_iff, bne_iff_ne] at solid
  refine ⟨solid.1, solid.2, fun slash => ?_⟩
  exact absurd (Text.uncut_of_mem_split piece '/' slash) (by decide)

theorem segments_join (isSegment : ∀ segment ∈ list, IsSegment segment) :
    segments (Text.join ['/'] list) = list := by
  by_cases empty : list = []
  · rw [empty]
    rfl
  · rw [segments, Text.split_join empty fun segment member => (isSegment segment member).noSlash,
      List.filter_eq_self]
    intro segment member
    simp [(isSegment segment member).nonempty, (isSegment segment member).notDot]

theorem segments_of_isSegment {segment : Text} (isSegment : IsSegment segment) :
    segments segment = [segment] := by
  have alone : ∀ s ∈ [segment], IsSegment s := fun s member =>
    List.mem_singleton.mp member ▸ isSegment
  exact segments_join alone

theorem segments_spell (isSegment : ∀ segment ∈ list, IsSegment segment) :
    segments (spell rooted list) = list := by
  cases rooted with
  | false => exact segments_join isSegment
  | true =>
    have behind : segments ([] ++ '/' :: Text.join ['/'] list) = list := by
      rw [segments_append, segments_join isSegment]
      rfl
    exact behind

theorem IsSegment.isRooted_eq {segment t : Text} (isSegment : IsSegment segment)
    (start : t.head? = segment.head?) : isRooted t = false := by
  have other : segment.head? ≠ some '/' := fun slash =>
    isSegment.noSlash (List.mem_of_mem_head? slash)
  rw [isRooted, start]
  simpa using other

theorem isRooted_spell (isSegment : ∀ segment ∈ list, IsSegment segment) :
    isRooted (spell rooted list) = rooted := by
  cases rooted with
  | true => rfl
  | false =>
    cases list with
    | nil => rfl
    | cons first rest =>
      have segment := isSegment first List.mem_cons_self
      exact segment.isRooted_eq (Text.head?_join segment.nonempty ['/'] rest)

/-! ### The scheme of files -/

/-- Only small letters come from other characters. -/
theorem eq_of_toLower {c d : Char} (small : c.toLower = d) (other : d.isLower = false) : c = d := by
  unfold Char.toLower at small
  split at small
  · next upper =>
    have low : 65 ≤ c.toNat := UInt32.le_iff_toNat_le.mp upper.1
    have high : c.toNat ≤ 90 := UInt32.le_iff_toNat_le.mp upper.2
    have value : d.toNat = c.toNat + 32 := by
      rw [← small]
      change (c.val + 32).toNat = c.toNat + 32
      rw [UInt32.toNat_add]
      exact Nat.mod_eq_of_lt (show c.toNat + 32 < 2 ^ 32 by omega)
    have letter : d.isLower = true := by
      simp [Char.isLower, UInt32.le_iff_toNat_le]
      omega
    simp [other] at letter
  · exact small

/-- The scheme of files, in any case, without the slashes behind its colon. -/
def IsFileScheme (scheme : Text) : Prop := Text.asciiLower scheme = "file:".toList

theorem IsFileScheme.noSlash {scheme : Text} (file : IsFileScheme scheme) : '/' ∉ scheme := by
  intro slash
  have small : Char.toLower '/' ∈ Text.asciiLower scheme := List.mem_map_of_mem slash
  rw [file] at small
  exact absurd small (by decide)

theorem IsFileScheme.ne_nil {scheme : Text} (file : IsFileScheme scheme) : scheme ≠ [] := by
  rintro rfl
  cases file

theorem stripScheme_slashes {scheme : Text} (file : IsFileScheme scheme) (rest : Text) :
    stripScheme (scheme ++ '/' :: '/' :: rest) = rest := by
  have five : scheme.length = 5 := by simpa [Text.asciiLower] using congrArg List.length file
  have seven : fileScheme.length = (scheme ++ ['/', '/']).length := by
    rw [List.length_append, five]
    rfl
  have parts : scheme ++ '/' :: '/' :: rest = scheme ++ ['/', '/'] ++ rest := by simp
  rw [stripScheme, parts, seven, List.take_left, List.drop_left, if_pos]
  rw [Text.asciiLower, List.map_append]
  exact congrArg (· ++ ['/', '/']) file

theorem stripScheme_of_other {path : Text}
    (other : ∀ scheme rest, IsFileScheme scheme → path ≠ scheme ++ '/' :: '/' :: rest) :
    stripScheme path = path := by
  refine if_neg fun file => ?_
  obtain ⟨scheme, slashes, lead, five, two⟩ := List.map_eq_append_iff.mp
    (show (path.take fileScheme.length).map Char.toLower = "file:".toList ++ ['/', '/'] from file)
  obtain ⟨c, rest, rfl, first, again⟩ := List.map_eq_cons_iff.mp two
  obtain ⟨d, rest, rfl, second, none⟩ := List.map_eq_cons_iff.mp again
  obtain rfl := eq_of_toLower first (by decide)
  obtain rfl := eq_of_toLower second (by decide)
  rw [List.map_eq_nil_iff.mp none] at lead
  refine other scheme (path.drop fileScheme.length) five ?_
  calc path = path.take fileScheme.length ++ path.drop fileScheme.length := by simp
    _ = scheme ++ '/' :: '/' :: path.drop fileScheme.length := by rw [lead]; simp

/-- Behind a path and a slash, the scheme takes away the same text from all that does not start
with a further slash: the path with its slash, or a first part of the path. -/
theorem stripScheme_append (path : Text) :
    (∀ rest, isRooted rest = false → stripScheme (path ++ '/' :: rest) = rest) ∨
      ∃ front, ∀ rest, isRooted rest = false →
        stripScheme (path ++ '/' :: rest) = front ++ '/' :: rest := by
  by_cases whole : ∃ scheme, IsFileScheme scheme ∧ path = scheme ++ ['/']
  · obtain ⟨scheme, file, rfl⟩ := whole
    refine .inl fun rest _ => ?_
    rw [List.append_assoc]
    exact stripScheme_slashes file rest
  · right
    by_cases part : ∃ scheme front, IsFileScheme scheme ∧ path = scheme ++ '/' :: '/' :: front
    · obtain ⟨scheme, front, file, rfl⟩ := part
      refine ⟨front, fun rest _ => ?_⟩
      rw [List.append_assoc]
      exact stripScheme_slashes file _
    · refine ⟨path, fun rest unrooted => stripScheme_of_other fun scheme tail file same => ?_⟩
      -- the scheme could only be completed by the slash behind the path, which is one too few
      rcases List.append_eq_append_iff.mp same with
        ⟨middle, front, behind⟩ | ⟨middle, front, behind⟩
      · cases middle with
        | nil =>
          obtain rfl : rest = '/' :: tail := (List.cons.inj behind).2
          cases unrooted
        | cons c middle =>
          obtain rfl : '/' = c := (List.cons.inj behind).1
          exact file.noSlash (front ▸ List.mem_append_right _ List.mem_cons_self)
      · rcases middle with _ | ⟨c, _ | ⟨d, middle⟩⟩
        · obtain rfl : '/' :: tail = rest := (List.cons.inj behind).2
          cases unrooted
        · obtain rfl : '/' = c := (List.cons.inj behind).1
          exact whole ⟨scheme, file, front⟩
        · obtain ⟨rfl, second⟩ := List.cons.inj behind
          obtain rfl : '/' = d := (List.cons.inj second).1
          exact part ⟨scheme, middle, file, front⟩

theorem stripScheme_rooted {path : Text} (rooted : isRooted path = true) :
    stripScheme path = path := by
  refine stripScheme_of_other fun scheme rest file same => ?_
  cases scheme with
  | nil => exact file.ne_nil rfl
  | cons c scheme =>
    obtain rfl : c = '/' := by simpa [isRooted, same] using rooted
    exact file.noSlash List.mem_cons_self

theorem stripScheme_spell (isSegment : ∀ segment ∈ list, IsSegment segment) :
    stripScheme (spell rooted list) = spell rooted list := by
  cases rooted with
  | true => exact stripScheme_rooted rfl
  | false =>
    refine stripScheme_of_other fun scheme rest file same => ?_
    have joined : Text.join ['/'] list = scheme ++ '/' :: '/' :: rest := same
    have nonempty : list ≠ [] := by
      rintro rfl
      exact absurd joined (by simp [Text.join])
    -- the two slashes would have an empty segment between them
    have pieces : list = Text.split (· == '/') scheme ++ [] :: Text.split (· == '/') rest := by
      rw [← Text.split_join nonempty fun segment member => (isSegment segment member).noSlash,
        joined, Text.split_append (by decide)]
      rfl
    exact (isSegment [] (pieces ▸ by simp)).nonempty rfl

/-! ### Resolving -/

theorem push_name {name : Text} (named : name ≠ parentSegment) (done : List Text) :
    push rooted done name = name :: done := if_neg named

theorem push_parent_behind_name {name : Text} (named : name ≠ parentSegment) (done : List Text) :
    push rooted (name :: done) parentSegment = done := if_neg named

theorem push_parent_behind_parents (up : Nat) :
    push false (List.replicate up parentSegment) parentSegment =
      List.replicate (up + 1) parentSegment := by
  cases up <;> rfl

/-- What is resolved so far, the last segment first: names, and a run of `..` behind them. -/
def Resolved (rooted : Bool) (done : List Text) : Prop :=
  ∃ names up, done = names ++ List.replicate up parentSegment ∧ parentSegment ∉ names ∧
    (rooted = true → up = 0)

theorem resolved_push (resolved : Resolved rooted done) (segment : Text) :
    Resolved rooted (push rooted done segment) := by
  obtain ⟨names, up, rfl, named, atRoot⟩ := resolved
  by_cases parent : segment = parentSegment
  · subst parent
    cases names with
    | cons last names =>
      obtain ⟨other, named⟩ := not_or.mp (List.mem_cons.not.mp named)
      rw [List.cons_append, push_parent_behind_name (Ne.symm other)]
      exact ⟨names, up, rfl, named, atRoot⟩
    | nil =>
      cases rooted with
      | true =>
        rw [atRoot rfl]
        exact ⟨[], 0, rfl, named, fun _ => rfl⟩
      | false => exact ⟨[], up + 1, push_parent_behind_parents up, named, nofun⟩
  · rw [push_name parent]
    exact ⟨segment :: names, up, rfl, List.not_mem_cons_of_ne_of_not_mem (Ne.symm parent) named,
      atRoot⟩

theorem resolved_foldl (resolved : Resolved rooted done) (list : List Text) :
    Resolved rooted (list.foldl (push rooted) done) := by
  induction list generalizing done with
  | nil => exact resolved
  | cons segment list ih => exact ih (resolved_push resolved segment)

theorem subset_push (rooted : Bool) (done : List Text) (segment : Text) :
    push rooted done segment ⊆ segment :: done := by
  unfold push
  split
  · split
    · split <;> simp
    · split <;> simp
  · exact List.Subset.refl _

theorem subset_foldl_push (rooted : Bool) (done list : List Text) :
    list.foldl (push rooted) done ⊆ done ++ list := by
  induction list generalizing done with
  | nil => simp
  | cons segment list ih =>
    intro s member
    rcases List.mem_append.mp (ih _ member) with pushed | later
    · rcases List.mem_cons.mp (subset_push rooted done segment pushed) with rfl | before
      · simp
      · exact List.mem_append_left _ before
    · exact List.mem_append_right _ (List.mem_cons_of_mem _ later)

theorem canonical_normalize (path : Text) :
    ∃ list, Canonical (isRooted (stripScheme path)) list ∧
      normalize path = spell (isRooted (stripScheme path)) list := by
  have start : Resolved (isRooted (stripScheme path)) [] :=
    ⟨[], 0, rfl, List.not_mem_nil, fun _ => rfl⟩
  obtain ⟨names, up, done, named, atRoot⟩ := resolved_foldl start (segments (stripScheme path))
  refine ⟨_, ⟨fun segment member => ?_, ?_⟩, normalize_eq path⟩
  · have segment := subset_foldl_push _ _ _ (List.mem_reverse.mp member)
    exact isSegment_of_mem_segments segment
  · refine ⟨up, names.reverse, ?_, by simpa using named, atRoot⟩
    rw [done, List.reverse_append, List.reverse_replicate]

theorem foldl_push_names {names : List Text} (named : parentSegment ∉ names)
    (done : List Text) : names.foldl (push rooted) done = names.reverse ++ done := by
  induction names generalizing done with
  | nil => rfl
  | cons name names ih =>
    obtain ⟨other, named⟩ := not_or.mp (List.mem_cons.not.mp named)
    rw [List.foldl_cons, push_name (Ne.symm other), ih named]
    simp

theorem foldl_push_parents (up : Nat) :
    (List.replicate up parentSegment).foldl (push false) [] =
      List.replicate up parentSegment := by
  induction up with
  | zero => rfl
  | succ up ih =>
    rw [List.replicate_succ', List.foldl_concat, ih, push_parent_behind_parents,
      List.replicate_succ']

theorem foldl_push_canonical (canonical : Canonical rooted list) :
    list.foldl (push rooted) [] = list.reverse := by
  obtain ⟨up, names, rfl, named, atRoot⟩ := canonical.parents
  have lead : (List.replicate up parentSegment).foldl (push rooted) [] =
      List.replicate up parentSegment := by
    cases rooted with
    | true =>
      rw [atRoot rfl]
      rfl
    | false => exact foldl_push_parents up
  rw [List.foldl_append, lead, foldl_push_names named, List.reverse_append,
    List.reverse_replicate]

theorem normalize_spell (canonical : Canonical rooted list) :
    normalize (spell rooted list) = spell rooted list := by
  rw [normalize_eq, stripScheme_spell canonical.isSegment, isRooted_spell canonical.isSegment,
    segments_spell canonical.isSegment, foldl_push_canonical canonical, List.reverse_reverse]

/-! ### Detours -/

/-- Behind a path and a slash, only what the segments do counts. -/
theorem normalize_append_congr (path : Text) {rest other : Text} (unrooted : isRooted rest = false)
    (unrooted' : isRooted other = false)
    (same : ∀ rooted done,
      (segments rest).foldl (push rooted) done = (segments other).foldl (push rooted) done) :
    normalize (path ++ '/' :: rest) = normalize (path ++ '/' :: other) := by
  rw [normalize_eq, normalize_eq]
  rcases stripScheme_append path with whole | ⟨front, part⟩
  · rw [whole rest unrooted, whole other unrooted', unrooted, unrooted', same]
  · have root : isRooted (front ++ '/' :: rest) = isRooted (front ++ '/' :: other) := by
      cases front <;> rfl
    rw [part rest unrooted, part other unrooted', root, segments_append, segments_append,
      List.foldl_append, List.foldl_append, same]

/-- Every path has a canonical form with the same root; what is canonical is left alone, and
neither a dot nor a name that is left again counts. -/
theorem normalize_canonical (path : Text) :
    (∃ list, Canonical (isRooted (stripScheme path)) list ∧
      normalize path = spell (isRooted (stripScheme path)) list) ∧
    (∀ rooted list, Canonical rooted list → normalize (spell rooted list) = spell rooted list) ∧
    normalize (normalize path) = normalize path ∧
    ∀ rest, isRooted rest = false →
      normalize (path ++ "/./".toList ++ rest) = normalize (path ++ '/' :: rest) ∧
      ∀ name, IsSegment name → name ≠ parentSegment →
        normalize (path ++ '/' :: name ++ "/../".toList ++ rest) =
          normalize (path ++ '/' :: rest) := by
  obtain ⟨list, canonical, normal⟩ := canonical_normalize path
  refine ⟨⟨list, canonical, normal⟩, fun _ _ => normalize_spell, ?_, fun rest unrooted => ⟨?_, ?_⟩⟩
  · rw [normal]
    exact normalize_spell canonical
  · have parts : path ++ "/./".toList ++ rest = path ++ '/' :: (['.'] ++ '/' :: rest) := by simp
    rw [parts]
    refine normalize_append_congr path rfl unrooted fun rooted done => ?_
    rw [segments_append]
    rfl
  · intro name isSegment named
    have parts : path ++ '/' :: name ++ "/../".toList ++ rest =
        path ++ '/' :: (name ++ '/' :: (parentSegment ++ '/' :: rest)) := by
      simp [parentSegment]
    have start : isRooted (name ++ '/' :: (parentSegment ++ '/' :: rest)) = false :=
      isSegment.isRooted_eq (List.head?_append_of_ne_nil _ isSegment.nonempty)
    rw [parts]
    refine normalize_append_congr path start unrooted fun rooted done => ?_
    rw [segments_append, segments_append, segments_of_isSegment isSegment]
    have up : segments parentSegment = [parentSegment] := rfl
    rw [up, List.singleton_append, List.foldl_cons, List.singleton_append, List.foldl_cons,
      push_name named, push_parent_behind_name named]

/-- The slash behind the path may be the one that completes the scheme. -/
theorem normalize_canonical_scheme :
    isRooted "list.txt".toList = false ∧ IsSegment "sub".toList ∧
      "sub".toList ≠ parentSegment ∧
      normalize ("File:/".toList ++ '/' :: "sub".toList ++ "/../".toList ++ "list.txt".toList) =
        normalize ("File:/".toList ++ '/' :: "list.txt".toList) := by
  have unrooted : isRooted "list.txt".toList = false := by decide
  have isSegment : IsSegment "sub".toList := ⟨by decide, by decide, by decide⟩
  have named : "sub".toList ≠ parentSegment := by decide
  exact ⟨unrooted, isSegment, named,
    ((normalize_canonical "File:/".toList).2.2.2 _ unrooted).2 _ isSegment named⟩

end FilterPrep.LocalPath
