import FilterPrep.Proofs.Text
import FilterPrep.Url.Host

/-!
# Hosts that end in a blank

A blank is a space or a control here. A text that ends in one still does after each step of
reading a domain name, up to the labels, which may not hold it: no host can be read from such a
text (`Url.Host.ofDomain_blank`).
-/

namespace FilterPrep

variable {c : Char}

theorem blank_cases {P : Char → Prop} (blank : c.toNat ≤ 0x20)
    (each : ∀ n < 0x21, P (Char.ofNat n)) : P c :=
  char_cases (Nat.lt_succ_of_le blank) each

/-! ### Bytes -/

theorem utf8EncodeChar_blank (blank : c.toNat ≤ 0x20) :
    String.utf8EncodeChar c = [c.toNat.toUInt8] := by
  have ascii : c.toNat ≤ 127 := Nat.le_trans blank (by decide)
  exact if_pos ascii

theorem Url.Percent.decode_blank (blank : c.toNat ≤ 0x20) (t : Text) :
    decode (t ++ [c]) = decode t ++ [c.toNat.toUInt8] := by
  have notHex : Text.isHexDigit c = false :=
    blank_cases (P := fun c => Text.isHexDigit c = false) blank (by decide)
  have notPercent : c ≠ '%' := blank_cases (P := (· ≠ '%')) blank (by decide)
  fun_induction decode t with
  | case1 a b t hex ih =>
    rw [List.cons_append, List.cons_append, List.cons_append, decode, if_pos hex, ih]
    rfl
  | case2 a b t hex ih =>
    rw [List.cons_append, List.cons_append, List.cons_append, decode, if_neg hex,
      ← List.cons_append, ← List.cons_append, ih, List.append_assoc]
  | case3 d t short ih =>
    rw [List.append_assoc, ← ih]
    -- a percent sign that is not followed by two characters is not completed by the blank
    by_cases percent : d = '%'
    · rcases t with _ | ⟨x, _ | ⟨y, t⟩⟩
      · simp [decode]
      · simp [decode, percent, notHex]
      · exact absurd rfl (short x y t percent)
    · simp [decode, percent]
  | case4 => simp [decode, utf8EncodeChar_blank blank]

namespace Utf8

variable {b : UInt8}

theorem decodeChar?_append (ascii : b ≤ 0x7F) (a : UInt8) (rest : List UInt8) :
    decodeChar? (a :: rest ++ [b]) = decodeChar? (a :: rest) := by
  have noTail : tail? b = none := by
    rw [tail?, if_neg]
    rintro ⟨low, -⟩
    exact absurd (UInt8.le_trans low ascii) (by decide)
  unfold decodeChar?
  rcases rest with _ | ⟨x, _ | ⟨y, _ | ⟨z, rest⟩⟩⟩ <;> simp [noTail]

theorem length_of_decodeChar? {a : UInt8} {rest : List UInt8} {d : Char} {more : Nat}
    (decoded : decodeChar? (a :: rest) = some (d, more)) : more ≤ rest.length := by
  unfold decodeChar? at decoded
  rcases rest with _ | ⟨x, _ | ⟨y, _ | ⟨z, rest⟩⟩⟩
  all_goals
    simp only [Option.bind_eq_bind, Option.pure_def] at decoded
    grind [Option.bind_eq_some_iff]

/-- An ASCII byte belongs to no character that begins in front of it. -/
theorem pieces_append (ascii : b ≤ 0x7F) (bytes : List UInt8) :
    pieces (bytes ++ [b]) = pieces bytes ++ [.inr (Char.ofNat b.toNat)] := by
  fun_induction pieces bytes with
  | case1 => simp [pieces, decodeChar?, ascii]
  | case2 a rest d more decoded ih =>
    rw [List.cons_append, pieces, ← List.cons_append, decodeChar?_append ascii, decoded]
    simp only
    rw [List.drop_append_of_le_length (length_of_decodeChar? decoded), ih]
    rfl
  | case3 a rest undecoded ih =>
    rw [List.cons_append, pieces, ← List.cons_append, decodeChar?_append ascii, undecoded]
    simp only
    rw [ih]
    rfl

theorem decode?_blank (blank : c.toNat ≤ 0x20) {bytes : List UInt8} {name : Text}
    (decoded : decode? (bytes ++ [c.toNat.toUInt8]) = some name) : ∃ t, name = t ++ [c] := by
  have value : c.toNat.toUInt8.toNat = c.toNat := by
    simp
    omega
  have ascii : c.toNat.toUInt8 ≤ 0x7F := by
    rw [UInt8.le_iff_toNat_le, value]
    exact Nat.le_trans blank (by decide)
  rw [decode?, pieces_append ascii, List.mapM_append, value, Char.ofNat_toNat] at decoded
  simp only [Option.bind_eq_bind, Option.bind_eq_some_iff] at decoded
  obtain ⟨t, -, _, last, same⟩ := decoded
  simp at last same
  exact ⟨t, by rw [← same, last]⟩

end Utf8

/-! ### Domain names -/

namespace Idna

theorem map?_blank (blank : c.toNat ≤ 0x20) {t mapped : Text}
    (maps : map? (t ++ [c]) = some mapped) : ∃ u, mapped = u ++ [c] := by
  have small : c.toLower = c := blank_cases (P := fun c => c.toLower = c) blank (by decide)
  have kept : mapChar? c = some [c] := by
    rw [mapChar?, if_pos (by omega), small]
  simp [map?, List.mapM_append, kept, Option.bind_eq_some_iff] at maps
  obtain ⟨u, -, rfl⟩ := maps
  exact ⟨u.flatten, rfl⟩

theorem combiningClass_blank (blank : c.toNat ≤ 0x20) : combiningClass c = 0 := by
  rw [combiningClass, if_pos (by omega)]

theorem placeMark_blank (blank : c.toNat ≤ 0x20) (d : Char) (t : Text) :
    ∃ u, placeMark d (t ++ [c]) = u ++ [c] := by
  induction t with
  | nil => exact ⟨[d], by simp [placeMark, combiningClass_blank blank]⟩
  | cons e t ih =>
    obtain ⟨u, placed⟩ := ih
    rw [List.cons_append, placeMark]
    split
    · exact ⟨e :: u, by rw [placed, List.cons_append]⟩
    · exact ⟨d :: e :: t, rfl⟩

theorem orderMarks_blank (blank : c.toNat ≤ 0x20) (t : Text) :
    ∃ u, orderMarks (t ++ [c]) = u ++ [c] := by
  induction t with
  | nil => exact ⟨[], rfl⟩
  | cons d t ih =>
    obtain ⟨u, ordered⟩ := ih
    have step : orderMarks (d :: t ++ [c]) = placeMark d (u ++ [c]) := by
      rw [← ordered]
      rfl
    rw [step]
    exact placeMark_blank blank d u

theorem joinMarks_blank (blank : c.toNat ≤ 0x20) (t : Text) (base : Char) (marks : Text) :
    ∃ u, joinMarks base marks (t ++ [c]) = u ++ [c] := by
  induction t generalizing base marks with
  | nil =>
    have alone : pairChar? base c = none := if_pos (by omega)
    refine ⟨base :: marks.reverse, ?_⟩
    simp [joinMarks, alone, combiningClass_blank blank]
  | cons d t ih =>
    simp only [List.cons_append, joinMarks]
    split
    · exact ih _ _
    · split
      · obtain ⟨u, joined⟩ := ih d []
        refine ⟨base :: marks.reverse ++ u, ?_⟩
        rw [joined]
        simp
      · exact ih _ _

theorem compose_blank (blank : c.toNat ≤ 0x20) (t : Text) :
    ∃ u, compose (t ++ [c]) = u ++ [c] := by
  unfold compose
  split
  · exact ⟨t, rfl⟩
  · have whole : decompose c = [c] := if_pos (by omega)
    obtain ⟨apart, ordered⟩ := orderMarks_blank blank (t.flatMap decompose)
    have kept : (apart ++ [c]).dropWhile (combiningClass · ≠ 0) =
        apart.dropWhile (combiningClass · ≠ 0) ++ [c] := by
      rw [List.dropWhile_append]
      split
      · next empty =>
        rw [List.isEmpty_iff.mp empty]
        exact List.dropWhile_cons_of_neg (by simp [combiningClass_blank blank])
      · rfl
    rw [List.flatMap_append, List.flatMap_singleton, whole, ordered]
    simp only [List.span_eq_takeWhile_dropWhile, kept]
    cases apart.dropWhile (combiningClass · ≠ 0) with
    | nil => exact ⟨_, rfl⟩
    | cons d rest =>
      obtain ⟨u, joined⟩ := joinMarks_blank blank rest d []
      refine ⟨(apart ++ [c]).takeWhile (combiningClass · ≠ 0) ++ u, ?_⟩
      simp only [List.cons_append, joined, List.append_assoc]

namespace Punycode

theorem readNumber_blank (blank : c.toNat ≤ 0x20) {bias k weight i n : Nat} {t rest : Text}
    (read : readNumber bias k weight i (t ++ [c]) = some (n, rest)) : ∃ u, rest = u ++ [c] := by
  have noDigit : digitValue? c = none :=
    blank_cases (P := fun c => digitValue? c = none) blank (by decide)
  induction t generalizing k weight i with
  | nil => simp [readNumber, noDigit] at read
  | cons d t ih =>
    simp only [List.cons_append, readNumber, Option.bind_eq_bind, Option.bind_eq_some_iff] at read
    obtain ⟨_, -, step⟩ := read
    split at step
    · cases step
      exact ⟨t, rfl⟩
    · exact ih step

theorem insertAll_blank (blank : c.toNat ≤ 0x20) (n i bias : Nat) (out : Text) {t u : Text}
    (ends : t = u ++ [c]) : insertAll n i bias out t = none := by
  fun_induction insertAll n i bias out t generalizing u with
  | case1 => simp at ends
  | case2 => rfl
  | case3 n i bias out d t j rest read count code valid place =>
    rename_i ih
    rw [ends] at read
    obtain ⟨v, behind⟩ := readNumber_blank blank read
    exact ih behind
  | case4 => rfl

theorem decode?_blank (blank : c.toNat ≤ 0x20) (t : Text) : decode? (t ++ [c]) = none := by
  have other : c ≠ '-' := blank_cases (P := (· ≠ '-')) blank (by decide)
  unfold decode?
  -- the blank stands behind the last hyphen, where there are only digits
  rw [Text.cutLast?_concat other]
  split
  · next d basic tail found =>
    obtain ⟨⟨before, behind⟩, -, same⟩ := Option.map_eq_some_iff.mp found
    cases same
    split
    · exact insertAll_blank blank _ _ _ _ rfl
    · rfl
  · exact insertAll_blank blank _ _ _ _ rfl

end Punycode

theorem readLabel?_blank (blank : c.toNat ≤ 0x20) {label read : Text}
    (reads : readLabel? (label ++ [c]) = some read) : c ∈ read := by
  have hyphen : c ≠ '-' := blank_cases (P := (· ≠ '-')) blank (by decide)
  unfold readLabel? at reads
  split at reads
  · cases reads
    simp
  · next encoded marked =>
    have spelled := Text.after?_eq_some_iff.mp marked
    obtain ⟨front, rfl, -⟩ : ∃ front, encoded = front ++ [c] ∧
        label = ['x', 'n', '-'] ++ '-' :: front :=
      Text.concat_of_append_cons spelled.symm hyphen.symm
    rw [Punycode.decode?_blank blank, ite_self] at reads
    cases reads

theorem toAscii?_blank (blank : c.toNat ≤ 0x20) (bytes : List UInt8) :
    toAscii? (bytes ++ [c.toNat.toUInt8]) = none := by
  have notDot : (c == '.') = false :=
    blank_cases (P := fun c => (c == '.') = false) blank (by decide)
  have forbidden : isForbidden c = true := by simp [isForbidden, blank]
  rw [Option.eq_none_iff_forall_ne_some]
  intro domain reads
  simp only [toAscii?, Option.bind_eq_bind, Option.bind_eq_some_iff] at reads
  obtain ⟨name, decoded, mapped, maps, labels, read, valid⟩ := reads
  obtain ⟨t, rfl⟩ := Utf8.decode?_blank blank decoded
  obtain ⟨u, rfl⟩ := map?_blank blank maps
  obtain ⟨v, composed⟩ := compose_blank blank u
  obtain ⟨pieces, last, parts⟩ := Text.split_last (· == '.') notDot v
  rw [composed, parts, List.mapM_append] at read
  simp only [Option.bind_eq_bind, Option.bind_eq_some_iff] at read
  obtain ⟨front, -, _, reads, same⟩ := read
  simp [Option.bind_eq_some_iff] at reads same
  obtain ⟨label, reads, rfl⟩ := reads
  have member := readLabel?_blank blank reads
  have invalid : labels.all isValidLabel = false := by
    rw [List.all_eq_false]
    refine ⟨label, by simp [← same], ?_⟩
    have holds : label.any isForbidden = true := List.any_eq_true.mpr ⟨c, member, forbidden⟩
    simp [isValidLabel, holds]
  rw [invalid, Bool.false_and] at valid
  cases valid

end Idna

theorem Url.Host.ofDomain_blank (blank : c.toNat ≤ 0x20) (t : Text) (host : Host) :
    ofDomain (t ++ [c]) ≠ .ok host := by
  have notOpen : c ≠ '[' := blank_cases (P := (· ≠ '[')) blank (by decide)
  have notClose : c ≠ ']' := blank_cases (P := (· ≠ ']')) blank (by decide)
  unfold ofDomain
  split
  · next inner bracketed =>
    cases t with
    | nil => exact absurd (List.cons.inj bracketed).1 notOpen
    | cons d t =>
      obtain ⟨-, rfl⟩ := List.cons.inj bracketed
      simp [ofBracketed, notClose]
  · rw [Percent.decode_blank blank, Idna.toAscii?_blank blank]
    nofun

end FilterPrep
