import FilterPrep.Proofs.Authority

/-!
# Remote addresses

A remote address that has an origin is a scheme with ASCII letters, two slashes and what the
origin is read from.
-/

namespace FilterPrep.Location

open Url

theorem toNat_of_isAlpha {c : Char} (alpha : c.isAlpha = true) :
    0x40 < c.toNat ∧ c.toNat < 0x80 := by
  simp only [Char.isAlpha, Char.isUpper, Char.isLower, Bool.or_eq_true, Bool.and_eq_true,
    decide_eq_true_eq, ge_iff_le, UInt32.le_iff_toNat_le] at alpha
  have value : c.val.toNat = c.toNat := rfl
  simp at alpha
  omega

theorem isSchemeLetter_of_isAlpha {c : Char} (alpha : c.isAlpha = true) :
    isSchemeLetter c = true :=
  char_cases (P := fun c => c.isAlpha = true → isSchemeLetter c = true) (toNat_of_isAlpha alpha).2
    (by decide) alpha

theorem isSchemeChar_of_letter {c : Char} (letter : isSchemeLetter c = true) :
    isSchemeChar c = c.isAlpha := by
  by_cases alpha : c.isAlpha = true
  · simp [isSchemeChar, Char.isAlphanum, alpha]
  · have noDigit : c.isDigit = false := by
      by_contra digit
      have low : c.toNat < 0x3A :=
        Nat.lt_succ_of_le (Char.isDigit_iff_toNat.mp (Bool.not_eq_false _ ▸ digit)).2
      exact absurd letter (char_cases (P := fun c => ¬isSchemeLetter c = true) low (by decide))
    have noSign : c ≠ '+' ∧ c ≠ '-' ∧ c ≠ '.' := by
      refine ⟨?_, ?_, ?_⟩ <;> rintro rfl <;> exact absurd letter (by decide)
    simp [isSchemeChar, Char.isAlphanum, alpha, noDigit, noSign]

theorem scheme?_eq_some_iff {address letters : Text} :
    scheme? address = some letters ↔
      letters ≠ [] ∧ (∀ c ∈ letters, isSchemeLetter c = true) ∧
        ∃ t, address = letters ++ ':' :: '/' :: '/' :: t := by
  have slashes : ∀ t, "://".toList ++ t = ':' :: '/' :: '/' :: t := fun _ => rfl
  constructor
  · intro found
    simp only [scheme?] at found
    split at found
    · cases found
    · next some_letter =>
      split at found
      · next follows =>
        cases found
        refine ⟨fun none => some_letter (List.isEmpty_iff.mpr none), ?_, ?_⟩
        · exact fun c member => List.all_eq_true.mp (List.all_takeWhile ..) c member
        · obtain ⟨t, after⟩ := Option.isSome_iff_exists.mp follows
          rw [Text.after?_eq_some_iff] at after
          exact ⟨t, by rw [← slashes, ← after, List.takeWhile_append_dropWhile]⟩
      · cases found
  · rintro ⟨nonempty, letter, t, rfl⟩
    have colon : isSchemeLetter ':' = false := by decide
    have front : (letters ++ ':' :: '/' :: '/' :: t).takeWhile isSchemeLetter = letters := by
      rw [List.takeWhile_append_of_pos letter, List.takeWhile_cons_of_neg (by simp [colon]),
        List.append_nil]
    have back : (letters ++ ':' :: '/' :: '/' :: t).dropWhile isSchemeLetter =
        ':' :: '/' :: '/' :: t := by
      rw [List.dropWhile_append_of_pos letter, List.dropWhile_cons_of_neg (by simp [colon])]
    have follows : Text.startsWith "://".toList (':' :: '/' :: '/' :: t) = true :=
      Option.isSome_iff_exists.mpr ⟨t, Text.after?_eq_some_iff.mpr rfl⟩
    simp only [scheme?]
    rw [front, back, if_neg (by simpa using nonempty), if_pos follows]

/-- Among letters that may stand in front of two slashes, the ASCII letters are read as a scheme. -/
theorem readScheme?_letters {letters : Text} (nonempty : letters ≠ [])
    (letter : ∀ c ∈ letters, isSchemeLetter c = true) (t : Text) :
    readScheme? (letters ++ ':' :: t) =
      if letters.all Char.isAlpha then some (Text.asciiLower letters, t) else none := by
  have noColon : ':' ∉ letters := fun member => absurd (letter _ member) (by decide)
  have kept : withoutIgnored letters = letters := by
    rw [withoutIgnored, List.filter_eq_self]
    intro c member
    by_contra ignored
    simp only [isIgnored, Bool.not_eq_true', Bool.not_eq_false, Bool.or_eq_true,
      beq_iff_eq] at ignored
    rcases ignored with (rfl | rfl) | rfl <;> exact absurd (letter _ member) (by decide)
  rw [readScheme?, Text.cutFirst?_append noColon]
  simp only [kept]
  cases letters with
  | nil => exact absurd rfl nonempty
  | cons c letters =>
    have all : letters.all isSchemeChar = letters.all Char.isAlpha := by
      rw [Bool.eq_iff_iff, List.all_eq_true, List.all_eq_true]
      exact forall₂_congr fun d member => by
        rw [isSchemeChar_of_letter (letter d (List.mem_cons_of_mem _ member))]
    simp only [all, List.all_cons]
    rfl

theorem trim_append_colon {letters : Text} (letter : ∀ c ∈ letters, isSchemeLetter c = true)
    (t : Text) :
    Url.trim (letters ++ ':' :: t) = letters ++ ':' :: Text.trimEndBy (·.toNat ≤ 0x20) t := by
  have first : (letters ++ ':' :: t).dropWhile (·.toNat ≤ 0x20) = letters ++ ':' :: t := by
    cases letters with
    | nil => rfl
    | cons c letters =>
      have visible : ¬c.toNat ≤ 0x20 := fun blank =>
        absurd (letter c List.mem_cons_self)
          (blank_cases (P := fun c => ¬isSchemeLetter c = true) blank (by decide))
      exact List.dropWhile_cons_of_neg (by simpa using visible)
  rw [Url.trim, Text.trimBy, first]
  exact Text.trimEndBy_append_cons (by decide) letters t

theorem originOf_eq_ok_iff {address o : Text} :
    originOf address = .ok o ↔ (parse address).map Url.originText = .ok o := by
  unfold originOf
  cases parse address with
  | error error => exact ⟨nofun, nofun⟩
  | ok url => simp [Except.map]

/-- What is written behind the two slashes has a host, where one is needed. -/
def HasHost (letters x : Text) : Prop :=
  isSpecialScheme (Text.asciiLower letters) = true → ∃ c ∈ withoutIgnored x, isSlash true c = false

/-- Letters that are read as a scheme, which is not that of files. -/
structure RemoteScheme (letters : Text) : Prop where
  nonempty : letters ≠ []
  alpha : ∀ c ∈ letters, c.isAlpha = true
  notFile : Text.startsWith "file".toList (Text.asciiLower letters) = false

namespace RemoteScheme

variable {letters : Text}

theorem letter (remote : RemoteScheme letters) : ∀ c ∈ letters, isSchemeLetter c = true :=
  fun c member => isSchemeLetter_of_isAlpha (remote.alpha c member)

theorem isRemote (remote : RemoteScheme letters) (t : Text) :
    isRemote (letters ++ ':' :: '/' :: '/' :: t) = true := by
  have found := scheme?_eq_some_iff.mpr ⟨remote.nonempty, remote.letter, t, rfl⟩
  simp only [Location.isRemote, found, remote.notFile, Bool.not_false]

theorem isFileScheme (remote : RemoteScheme letters) :
    isFileScheme (Text.asciiLower letters) = false := by
  by_contra file
  have same : Text.asciiLower letters = "file".toList := by simpa [Url.isFileScheme] using file
  exact absurd remote.notFile (by rw [same]; decide)

theorem parse_colon (remote : RemoteScheme letters) (t : Text) :
    parse (letters ++ ':' :: t) = readOther (Text.asciiLower letters)
      (withoutIgnored (Text.trimEndBy (·.toNat ≤ 0x20) t)) := by
  rw [parse, trim_append_colon remote.letter, readScheme?_letters remote.nonempty remote.letter,
    if_pos (List.all_eq_true.mpr remote.alpha)]
  simp only [remote.isFileScheme, Bool.false_eq_true, if_false]

theorem parse_slashes (remote : RemoteScheme letters) (t : Text) :
    parse (letters ++ ':' :: '/' :: '/' :: t) = readHierarchy (Text.asciiLower letters)
      (fromAuthority (Text.asciiLower letters)
        (withoutIgnored (Text.trimEndBy (·.toNat ≤ 0x20) t))) := by
  have slashes : Text.trimEndBy (·.toNat ≤ 0x20) ('/' :: '/' :: t) =
      '/' :: '/' :: Text.trimEndBy (·.toNat ≤ 0x20) t :=
    Text.trimEndBy_append_cons (by decide) ['/'] t
  rw [remote.parse_colon, slashes]
  exact readOther_slashes _ _

theorem originOf_slashes (remote : RemoteScheme letters) (t : Text) {o : Text} :
    originOf (letters ++ ':' :: '/' :: '/' :: t) = .ok o ↔
      originBehind (Text.asciiLower letters)
        (withoutIgnored (Text.trimEndBy (·.toNat ≤ 0x20) t)) = .ok o := by
  rw [originOf_eq_ok_iff, remote.parse_slashes, readHierarchy_originText]

theorem originOf_append_slash (remote : RemoteScheme letters) (x t : Text) {o : Text} :
    originOf (letters ++ ':' :: '/' :: '/' :: (x ++ '/' :: t)) = .ok o ↔
      originBehind (Text.asciiLower letters) (withoutIgnored x ++
        '/' :: withoutIgnored (Text.trimEndBy (·.toNat ≤ 0x20) t)) = .ok o := by
  have kept : ∀ u, withoutIgnored (x ++ '/' :: u) = withoutIgnored x ++ '/' :: withoutIgnored u :=
    fun u => List.filter_append ..
  rw [remote.originOf_slashes, Text.trimEndBy_append_cons (by decide), kept]

/-- The origin does not depend on what follows the first slash behind the host. -/
theorem originOf_append_iff (remote : RemoteScheme letters) {x : Text} (host : HasHost letters x)
    (t u : Text) {o : Text} :
    originOf (letters ++ ':' :: '/' :: '/' :: (x ++ '/' :: t)) = .ok o ↔
      originOf (letters ++ ':' :: '/' :: '/' :: (x ++ '/' :: u)) = .ok o := by
  rw [remote.originOf_append_slash, remote.originOf_append_slash, originBehind_slash host]

theorem originOf_no_host (remote : RemoteScheme letters)
    (special : isSpecialScheme (Text.asciiLower letters) = true) {t : Text}
    (slashes : ∀ c ∈ withoutIgnored t, isSlash true c = true) (o : Text) :
    originOf (letters ++ ':' :: '/' :: '/' :: t) ≠ .ok o := by
  rw [Ne, remote.originOf_slashes, originBehind_no_host special]
  · nofun
  · intro c member
    obtain ⟨trail, whole, -⟩ := Text.trimEndBy_split (·.toNat ≤ 0x20) t
    refine slashes c ?_
    rw [whole, withoutIgnored, List.filter_append]
    exact List.mem_append_left _ member

theorem hasHost_of_originOf (remote : RemoteScheme letters) {x o : Text}
    (origin : originOf (letters ++ ':' :: '/' :: '/' :: (x ++ ['/'])) = .ok o) :
    HasHost letters x := by
  intro special
  by_contra none
  refine remote.originOf_no_host special (fun c member => ?_) o origin
  rw [withoutIgnored, List.filter_append] at member
  rcases List.mem_append.mp member with before | last
  · by_contra other
    exact none ⟨c, before, by simpa using other⟩
  · rw [List.mem_singleton.mp (List.mem_filter.mp last).1]
    rfl

/-- An address with a host keeps its origin when the slash behind it is left out, or has none. -/
theorem originOf_without_slash (remote : RemoteScheme letters) {x o o' : Text}
    (origin : originOf (letters ++ ':' :: '/' :: '/' :: (x ++ ['/'])) = .ok o)
    (without : originOf (letters ++ ':' :: '/' :: '/' :: x) = .ok o') : o' = o := by
  rw [remote.originOf_append_slash] at origin
  rw [remote.originOf_slashes] at without
  cases special : isSpecialScheme (Text.asciiLower letters) with
  | false =>
    rw [originBehind_not_special special origin, originBehind_not_special special without]
  | true =>
    obtain ⟨blanks, whole, blank⟩ := Text.trimEndBy_split (·.toNat ≤ 0x20) x
    have parts : withoutIgnored x =
        withoutIgnored (Text.trimEndBy (·.toNat ≤ 0x20) x) ++ withoutIgnored blanks := by
      rw [withoutIgnored, withoutIgnored, withoutIgnored, ← List.filter_append, ← whole]
    rw [parts, List.append_assoc] at origin
    refine originBehind_without_slash special (fun c member => ?_) origin without
    simpa using blank c (List.mem_filter.mp member).1

end RemoteScheme

theorem exists_remoteScheme {address t o : Text} (remote : isRemote address = true)
    (origin : originOf (address ++ t) = .ok o) :
    ∃ letters x, RemoteScheme letters ∧ address = letters ++ ':' :: '/' :: '/' :: x := by
  rw [originOf_eq_ok_iff] at origin
  unfold isRemote at remote
  split at remote
  · next letters found =>
    obtain ⟨nonempty, letter, x, rfl⟩ := scheme?_eq_some_iff.mp found
    refine ⟨letters, x, ⟨nonempty, ?_, by simpa using remote⟩, rfl⟩
    by_contra other
    rw [List.append_assoc, List.cons_append, parse, trim_append_colon letter,
      readScheme?_letters nonempty letter, if_neg (by simpa using other)] at origin
    cases origin
  · obtain ⟨x, rest⟩ := Option.isSome_iff_exists.mp remote
    rw [Text.after?_eq_some_iff.mp rest] at origin
    have relative : parse ("//".toList ++ x ++ t) = .error .relativeWithoutBase := parse_slash _
    rw [relative] at origin
    cases origin

theorem isAbsolute_of_isRemote {address : Text} (remote : isRemote address = true) :
    isAbsolute address = true := by
  unfold isRemote at remote
  unfold isAbsolute
  split at remote
  · next found => simp [found]
  · simp [remote]

end FilterPrep.Location
