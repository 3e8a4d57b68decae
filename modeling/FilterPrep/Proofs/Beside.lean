import FilterPrep.Proofs.CanonicalPath
import FilterPrep.Proofs.Origin

/-!
# Includes of local documents

A relative target of a local document at a rooted path is looked up in the directory of that path
(`resolve_beside`). The directory of a document at the root is empty, which counts as none, so that
its targets depend on where the program runs; and a directory that starts with two slashes is taken
for a remote address.
-/

namespace FilterPrep.Location

variable {path target : Text}

/-- The directory of a path is not lost, and not taken for a remote address. -/
def Anchored (path : Text) : Prop :=
  directory path ≠ [] ∧ isSchemeless (directory path) = false

/-- A place next to a path: the target behind everything up to the last slashes of the path, of
which one is kept. -/
def IsBeside (path target place : Text) : Prop :=
  ∃ folder slashes name, path = folder ++ slashes ++ name ∧ slashes ≠ [] ∧
    (∀ c ∈ slashes, c = '/') ∧ folder.getLast? ≠ some '/' ∧ '/' ∉ name ∧
    place = folder ++ '/' :: target

theorem directory_of_rooted (rooted : LocalPath.isRooted path = true) :
    ∃ name, path = directory path ++ '/' :: name ∧ '/' ∉ name := by
  have slash : '/' ∈ path := by
    cases path with
    | nil => cases rooted
    | cons c rest =>
      obtain rfl : c = '/' := by simpa [LocalPath.isRooted] using rooted
      exact List.mem_cons_self
  unfold directory
  cases cut : Text.cutLast? '/' path with
  | none => exact absurd slash (Text.cutLast?_eq_none_iff.mp cut)
  | some parts => exact ⟨parts.2, Text.append_of_cutLast? cut⟩

theorem isRooted_directory (rooted : LocalPath.isRooted path = true) (kept : directory path ≠ []) :
    LocalPath.isRooted (directory path) = true := by
  obtain ⟨name, whole, -⟩ := directory_of_rooted rooted
  rw [LocalPath.isRooted] at rooted ⊢
  rwa [whole, List.head?_append_of_ne_nil _ kept] at rooted

/-! ### Relative targets -/

theorem isRemote_of_relative (relative : isAbsolute target = false) : isRemote target = false := by
  by_contra remote
  have absolute := isAbsolute_of_isRemote (Bool.eq_true_of_not_eq_false remote)
  exact absurd absolute (by simp [relative])

theorem isSchemeLetter_of_toLower {c : Char} (letter : c.toLower.isAlpha = true) :
    isSchemeLetter c = true := by
  unfold isSchemeLetter Text.foldCase
  split
  · rfl
  · split
    · rfl
    · exact letter

theorem stripScheme_of_relative (relative : isAbsolute target = false) :
    LocalPath.stripScheme target = target := by
  refine LocalPath.stripScheme_of_other fun scheme rest file same => ?_
  obtain ⟨letters, marks, rfl, word, mark⟩ := List.map_eq_append_iff.mp
    (show scheme.map Char.toLower = "file".toList ++ [':'] from file)
  obtain ⟨c, none, rfl, colon, empty⟩ := List.map_eq_cons_iff.mp mark
  obtain rfl := LocalPath.eq_of_toLower colon (by decide)
  have found : scheme? target = some letters := by
    refine scheme?_eq_some_iff.mpr ⟨?_, fun c member => ?_, rest, ?_⟩
    · rintro rfl
      cases word
    · have small : c.toLower ∈ "file".toList := word ▸ List.mem_map_of_mem member
      refine isSchemeLetter_of_toLower ?_
      revert small
      generalize c.toLower = d
      intro small
      fin_cases small <;> rfl
    · rw [same, List.map_eq_nil_iff.mp empty]
      simp
  simp [isAbsolute, found] at relative

/-! ### Where targets are looked up -/

theorem isRemote_rooted (rooted : LocalPath.isRooted path = true) :
    isRemote path = isSchemeless path := by
  have noScheme : scheme? path = none := by
    cases path with
    | nil => cases rooted
    | cons c rest =>
      obtain rfl : c = '/' := by simpa [LocalPath.isRooted] using rooted
      rfl
  rw [isRemote, noScheme]

theorem resolve_at_root (relative : isAbsolute target = false) (lost : directory path = []) :
    resolve target (onDisk path).childOrigin? = .onDisk target := by
  have none : (onDisk path).childOrigin? = none := by
    unfold childOrigin? text
    rw [lost]
  rw [resolve, none, isRemote_of_relative relative]
  simp [LocalPath.join, stripScheme_of_relative relative]

theorem resolve_schemeless (target : Text) (rooted : LocalPath.isRooted path = true)
    (kept : directory path ≠ []) (schemeless : isSchemeless (directory path) = true) :
    ∃ place, resolve target (onDisk path).childOrigin? = .remote place := by
  have remote : isRemote (directory path) = true := by
    rw [isRemote_rooted (isRooted_directory rooted kept), schemeless]
  have child : (onDisk path).childOrigin? = some (directory path) := childOrigin?_eq_some _ kept
  refine ⟨remoteAddress target (some (directory path)), ?_⟩
  rw [child]
  simp [resolve, remote]

theorem resolve_in_directory (rooted : LocalPath.isRooted path = true)
    (relative : isAbsolute target = false) (unrooted : LocalPath.isRooted target = false)
    (anchored : Anchored path) :
    resolve target (onDisk path).childOrigin? =
      .onDisk (LocalPath.trimSlashes (directory path) ++ '/' :: target) := by
  obtain ⟨kept, other⟩ := anchored
  have start := isRooted_directory rooted kept
  have notRemote : isRemote (directory path) = false := by rw [isRemote_rooted start, other]
  have child : (onDisk path).childOrigin? = some (directory path) := childOrigin?_eq_some _ kept
  rw [child]
  simp [resolve, isRemote_of_relative relative, notRemote, LocalPath.join,
    stripScheme_of_relative relative, LocalPath.stripScheme_rooted start, kept, unrooted]

theorem isBeside_directory (rooted : LocalPath.isRooted path = true) (target : Text) :
    IsBeside path target (LocalPath.trimSlashes (directory path) ++ '/' :: target) := by
  obtain ⟨name, whole, last⟩ := directory_of_rooted rooted
  obtain ⟨slashes, parts, slash⟩ := Text.trimEndBy_split (· == '/') (directory path)
  refine ⟨LocalPath.trimSlashes (directory path), slashes ++ ['/'], name, ?_, by simp, ?_, ?_, last,
    rfl⟩
  · calc path = directory path ++ '/' :: name := whole
      _ = LocalPath.trimSlashes (directory path) ++ slashes ++ '/' :: name := by
        rw [LocalPath.trimSlashes, ← parts]
      _ = LocalPath.trimSlashes (directory path) ++ (slashes ++ ['/']) ++ name := by simp
  · intro c member
    rcases List.mem_append.mp member with before | final
    · simpa using slash c before
    · exact List.mem_singleton.mp final
  · intro ends
    exact absurd (Text.getLast?_trimEndBy _ '/' ends) (by decide)

theorem isRooted_trimSlashes (rooted : LocalPath.isRooted path = true) (rest : Text) :
    LocalPath.isRooted (LocalPath.trimSlashes path ++ '/' :: rest) = true := by
  cases trimmed : LocalPath.trimSlashes path with
  | nil => rfl
  | cons c front =>
    have first : path.head? = some c :=
      Text.head?_trimEndBy path c (congrArg List.head? trimmed)
    rw [LocalPath.isRooted, first] at rooted
    exact rooted

/-- A relative target of a document at a rooted path is looked up next to it if the directory of
the path is anchored, and not at any rooted path otherwise. -/
theorem resolve_beside (rooted : LocalPath.isRooted path = true)
    (relative : isAbsolute target = false) (unrooted : LocalPath.isRooted target = false) :
    (Anchored path → ∃ place, resolve target (onDisk path).childOrigin? = .onDisk place ∧
      IsBeside path target place ∧ LocalPath.isRooted place = true) ∧
    (¬Anchored path → ∀ place, resolve target (onDisk path).childOrigin? = .onDisk place →
      LocalPath.isRooted place = false) := by
  constructor
  · intro anchored
    exact ⟨_, resolve_in_directory rooted relative unrooted anchored,
      isBeside_directory rooted target,
      isRooted_trimSlashes (isRooted_directory rooted anchored.1) target⟩
  · intro adrift place located
    by_cases lost : directory path = []
    · rw [resolve_at_root relative lost] at located
      cases located
      exact unrooted
    · have schemeless : isSchemeless (directory path) = true := by
        by_contra other
        exact adrift ⟨lost, by simpa using other⟩
      obtain ⟨address, remote⟩ := resolve_schemeless target rooted lost schemeless
      rw [remote] at located
      cases located

theorem resolve_beside_slashes :
    LocalPath.isRooted "/lists//main.txt".toList = true ∧ isAbsolute "x.txt".toList = false ∧
      LocalPath.isRooted "x.txt".toList = false ∧ Anchored "/lists//main.txt".toList ∧
      ∃ place, resolve "x.txt".toList (onDisk "/lists//main.txt".toList).childOrigin? =
          .onDisk place ∧
        IsBeside "/lists//main.txt".toList "x.txt".toList place ∧
        LocalPath.isRooted place = true := by
  have rooted : LocalPath.isRooted "/lists//main.txt".toList = true := by decide
  have relative : isAbsolute "x.txt".toList = false := by decide
  have unrooted : LocalPath.isRooted "x.txt".toList = false := by decide
  have anchored : Anchored "/lists//main.txt".toList := ⟨by decide, by decide⟩
  exact ⟨rooted, relative, unrooted, anchored, (resolve_beside rooted relative unrooted).1 anchored⟩

/-- A document at the root loses its directory, and one behind two slashes becomes remote. -/
theorem resolve_not_beside :
    resolve "/main.txt".toList none = .onDisk "/main.txt".toList ∧
      resolve "x.txt".toList (onDisk "/main.txt".toList).childOrigin? = .onDisk "x.txt".toList ∧
      resolve "file:////lists/main.txt".toList none = .onDisk "//lists/main.txt".toList ∧
      resolve "x.txt".toList (onDisk "//lists/main.txt".toList).childOrigin? =
        .remote "//lists/x.txt".toList := by
  decide

end FilterPrep.Location
