import FilterPrep.Text.Utf8
import Mathlib

/-!
# Reading encoded texts

The bytes of a text are read as that text: each character is found again at the start of its own
bytes, whatever follows. An ASCII character is found in the bytes wherever it stands in the text,
and nowhere else.
-/

namespace FilterPrep.Utf8

/-! ### Single bytes -/

theorem toNat_byte {n : Nat} (small : n < 256) : (UInt8.ofNat n).toNat = n := by
  rw [UInt8.toNat_ofNat']
  exact Nat.mod_eq_of_lt small

theorem within_byte_iff {n : Nat} (small : n < 256) (low high : UInt8) :
    low ≤ UInt8.ofNat n ∧ UInt8.ofNat n ≤ high ↔ low.toNat ≤ n ∧ n ≤ high.toNat := by
  rw [UInt8.le_iff_toNat_le, UInt8.le_iff_toNat_le, toNat_byte small]

theorem byte_le_iff {n : Nat} (small : n < 256) (high : UInt8) :
    UInt8.ofNat n ≤ high ↔ n ≤ high.toNat := by
  rw [UInt8.le_iff_toNat_le, toNat_byte small]

/-- A byte that continues a character carries six of its bits. -/
theorem tail?_byte (n : Nat) : tail? (UInt8.ofNat (n % 64 + 128)) = some (n % 64) := by
  have small : n % 64 + 128 < 256 := by omega
  have inside : 0x80 ≤ n % 64 + 128 ∧ n % 64 + 128 ≤ 0xBF := by omega
  rw [tail?, if_pos ((within_byte_iff small 0x80 0xBF).mpr inside), toNat_byte small,
    Nat.add_sub_cancel]

theorem charFrom?_toNat {c : Char} {least : Nat} (long : least ≤ c.toNat) :
    charFrom? least c.toNat = some c := by
  rw [charFrom?, if_pos ⟨long, c.valid⟩, Char.ofNat_toNat]

/-! ### Characters by the number of their bytes -/

section

variable {lead : Nat} {c : Char} (rest : List UInt8)

theorem decodeChar?_one (high : lead ≤ 0x7F) :
    decodeChar? (UInt8.ofNat lead :: rest) = some (Char.ofNat lead, 0) := by
  have small : lead < 256 := by omega
  rw [decodeChar?.eq_def]
  dsimp only
  rw [if_pos ((byte_le_iff small 0x7F).mpr high), toNat_byte small]

theorem decodeChar?_two (inside : 0xC2 ≤ lead ∧ lead ≤ 0xDF) (x : Nat)
    (char : charFrom? 0x80 ((lead - 0xC0) * 64 + x % 64) = some c) :
    decodeChar? (UInt8.ofNat lead :: UInt8.ofNat (x % 64 + 128) :: rest) = some (c, 1) := by
  have small : lead < 256 := by omega
  have longer : ¬lead ≤ 0x7F := by omega
  rw [decodeChar?.eq_def]
  dsimp only
  rw [if_neg (mt (byte_le_iff small 0x7F).mp longer),
    if_pos ((within_byte_iff small 0xC2 0xDF).mpr inside), toNat_byte small]
  refine Option.bind_eq_some_iff.mpr ⟨_, tail?_byte x, ?_⟩
  exact Option.bind_eq_some_iff.mpr ⟨c, char, rfl⟩

theorem decodeChar?_three (inside : 0xE0 ≤ lead ∧ lead ≤ 0xEF) (x y : Nat)
    (char : charFrom? 0x800 ((lead - 0xE0) * 4096 + x % 64 * 64 + y % 64) = some c) :
    decodeChar? (UInt8.ofNat lead :: UInt8.ofNat (x % 64 + 128) :: UInt8.ofNat (y % 64 + 128) ::
      rest) = some (c, 2) := by
  have small : lead < 256 := by omega
  have longer : ¬lead ≤ 0x7F := by omega
  have notTwo : ¬(0xC2 ≤ lead ∧ lead ≤ 0xDF) := by omega
  rw [decodeChar?.eq_def]
  dsimp only
  rw [if_neg (mt (byte_le_iff small 0x7F).mp longer),
    if_neg (mt (within_byte_iff small 0xC2 0xDF).mp notTwo),
    if_pos ((within_byte_iff small 0xE0 0xEF).mpr inside), toNat_byte small]
  refine Option.bind_eq_some_iff.mpr ⟨_, tail?_byte x, ?_⟩
  refine Option.bind_eq_some_iff.mpr ⟨_, tail?_byte y, ?_⟩
  exact Option.bind_eq_some_iff.mpr ⟨c, char, rfl⟩

theorem decodeChar?_four (inside : 0xF0 ≤ lead ∧ lead ≤ 0xF4) (x y z : Nat)
    (char : charFrom? 0x10000
      ((lead - 0xF0) * 262144 + x % 64 * 4096 + y % 64 * 64 + z % 64) = some c) :
    decodeChar? (UInt8.ofNat lead :: UInt8.ofNat (x % 64 + 128) :: UInt8.ofNat (y % 64 + 128) ::
      UInt8.ofNat (z % 64 + 128) :: rest) = some (c, 3) := by
  have small : lead < 256 := by omega
  have longer : ¬lead ≤ 0x7F := by omega
  have notTwo : ¬(0xC2 ≤ lead ∧ lead ≤ 0xDF) := by omega
  have notThree : ¬(0xE0 ≤ lead ∧ lead ≤ 0xEF) := by omega
  rw [decodeChar?.eq_def]
  dsimp only
  rw [if_neg (mt (byte_le_iff small 0x7F).mp longer),
    if_neg (mt (within_byte_iff small 0xC2 0xDF).mp notTwo),
    if_neg (mt (within_byte_iff small 0xE0 0xEF).mp notThree),
    if_pos ((within_byte_iff small 0xF0 0xF4).mpr inside), toNat_byte small]
  refine Option.bind_eq_some_iff.mpr ⟨_, tail?_byte x, ?_⟩
  refine Option.bind_eq_some_iff.mpr ⟨_, tail?_byte y, ?_⟩
  refine Option.bind_eq_some_iff.mpr ⟨_, tail?_byte z, ?_⟩
  exact Option.bind_eq_some_iff.mpr ⟨c, char, rfl⟩

end

theorem decodeChar?_encodeChar (c : Char) (rest : List UInt8) :
    ∃ lead more, String.utf8EncodeChar c = lead :: more ∧
      decodeChar? (lead :: (more ++ rest)) = some (c, more.length) := by
  have valid : c.toNat < 0x110000 := by
    rcases c.valid with low | high
    · exact Nat.lt_trans low (by decide)
    · exact high.2
  by_cases one : c.toNat ≤ 0x7F
  · refine ⟨UInt8.ofNat c.toNat, [], if_pos one, ?_⟩
    rw [List.nil_append, decodeChar?_one _ one, Char.ofNat_toNat]
    rfl
  by_cases two : c.toNat ≤ 0x7FF
  · refine ⟨UInt8.ofNat (c.toNat / 64 % 32 + 192), [UInt8.ofNat (c.toNat % 64 + 128)],
      (if_neg one).trans (if_pos two), decodeChar?_two rest (by omega) _ ?_⟩
    have value : (c.toNat / 64 % 32 + 192 - 0xC0) * 64 + c.toNat % 64 = c.toNat := by omega
    rw [value, charFrom?_toNat (by omega)]
  by_cases three : c.toNat ≤ 0xFFFF
  · refine ⟨UInt8.ofNat (c.toNat / 4096 % 16 + 224),
      [UInt8.ofNat (c.toNat / 64 % 64 + 128), UInt8.ofNat (c.toNat % 64 + 128)],
      (if_neg one).trans ((if_neg two).trans (if_pos three)),
      decodeChar?_three rest (by omega) _ _ ?_⟩
    have value : (c.toNat / 4096 % 16 + 224 - 0xE0) * 4096 + c.toNat / 64 % 64 * 64 +
        c.toNat % 64 = c.toNat := by omega
    rw [value, charFrom?_toNat (by omega)]
  · refine ⟨UInt8.ofNat (c.toNat / 262144 % 8 + 240), [UInt8.ofNat (c.toNat / 4096 % 64 + 128),
      UInt8.ofNat (c.toNat / 64 % 64 + 128), UInt8.ofNat (c.toNat % 64 + 128)],
      (if_neg one).trans ((if_neg two).trans (if_neg three)),
      decodeChar?_four rest (by omega) _ _ _ ?_⟩
    have value : (c.toNat / 262144 % 8 + 240 - 0xF0) * 262144 + c.toNat / 4096 % 64 * 4096 +
        c.toNat / 64 % 64 * 64 + c.toNat % 64 = c.toNat := by omega
    rw [value, charFrom?_toNat (by omega)]

/-! ### Texts -/

theorem encode_cons (c : Char) (t : Text) :
    encode (c :: t) = String.utf8EncodeChar c ++ encode t := List.flatMap_cons

theorem encode_append (first second : Text) :
    encode (first ++ second) = encode first ++ encode second := List.flatMap_append

theorem length_encode (t : Text) : (encode t).length = Text.byteLength t := by
  induction t with
  | nil => rfl
  | cons c t ih =>
    rw [encode_cons, List.length_append, String.length_utf8EncodeChar, ih, Text.byteLength]

theorem encode_slice (front part back : Text) :
    ((encode (front ++ (part ++ back))).drop (Text.byteLength front)).take (Text.byteLength part) =
      encode part := by
  rw [encode_append, encode_append, ← length_encode, ← length_encode, List.drop_left,
    List.take_left]

theorem pieces_encode (t : Text) : pieces (encode t) = t.map .inr := by
  induction t with
  | nil => simp [encode, pieces]
  | cons c t ih =>
    obtain ⟨lead, more, bytes, decoded⟩ := decodeChar?_encodeChar c (encode t)
    rw [encode_cons, bytes, List.cons_append, pieces, decoded]
    dsimp only
    rw [List.drop_left, ih]
    rfl

theorem decode?_encode (t : Text) : decode? (encode t) = some t := by
  rw [decode?, pieces_encode]
  induction t with
  | nil => rfl
  | cons c t ih =>
    rw [List.map_cons, List.mapM_cons, ih]
    rfl

/-! ### ASCII characters -/

theorem exists_lead (c : Char) : ∃ b more, String.utf8EncodeChar c = b :: more :=
  List.exists_cons_of_ne_nil String.utf8EncodeChar_ne_nil

theorem utf8EncodeChar_ascii {c : Char} (ascii : c.toNat < 128) :
    String.utf8EncodeChar c = [c.toUInt8] := if_pos (Nat.le_of_lt_succ ascii)

/-- No byte of a longer character is an ASCII character. -/
theorem le_of_mem_utf8EncodeChar {c : Char} (long : 128 ≤ c.toNat) {b : UInt8}
    (member : b ∈ String.utf8EncodeChar c) : 128 ≤ b.toNat := by
  have high : ∀ n, 128 ≤ n → n < 256 → b = UInt8.ofNat n → 128 ≤ b.toNat := by
    rintro n low small rfl
    rwa [toNat_byte small]
  unfold String.utf8EncodeChar at member
  change b ∈ ite (c.toNat ≤ 127) _ _ at member
  rw [if_neg (by omega)] at member
  split at member
  · simp only [List.mem_cons, List.not_mem_nil, or_false] at member
    rcases member with same | same <;> exact high _ (by omega) (by omega) same
  · split at member
    · simp only [List.mem_cons, List.not_mem_nil, or_false] at member
      rcases member with same | same | same <;> exact high _ (by omega) (by omega) same
    · simp only [List.mem_cons, List.not_mem_nil, or_false] at member
      rcases member with same | same | same | same <;> exact high _ (by omega) (by omega) same

theorem toNat_toUInt8 {c : Char} (ascii : c.toNat < 128) : c.toUInt8.toNat = c.toNat :=
  toNat_byte (Nat.lt_trans ascii (by decide))

/-- The first byte of a character tells whether it is a given ASCII character. -/
theorem lead_eq_iff {c mark : Char} {b : UInt8} {more : List UInt8}
    (bytes : String.utf8EncodeChar c = b :: more) (ascii : mark.toNat < 128) :
    b = mark.toUInt8 ↔ c = mark := by
  constructor
  · rintro rfl
    by_cases short : c.toNat < 128
    · rw [utf8EncodeChar_ascii short] at bytes
      have same := congrArg UInt8.toNat (List.cons.inj bytes).1
      rw [toNat_toUInt8 short, toNat_toUInt8 ascii] at same
      exact Char.toNat_inj.mp same
    · have long := le_of_mem_utf8EncodeChar (Nat.le_of_not_lt short)
        (bytes ▸ List.mem_cons_self : mark.toUInt8 ∈ String.utf8EncodeChar c)
      rw [toNat_toUInt8 ascii] at long
      omega
  · rintro rfl
    rw [utf8EncodeChar_ascii ascii] at bytes
    exact (List.cons.inj bytes).1.symm

theorem head?_encode {mark : Char} (ascii : mark.toNat < 128) (t : Text) :
    (encode t).head? = some mark.toUInt8 ↔ t.head? = some mark := by
  cases t with
  | nil => simp [encode]
  | cons c t =>
    obtain ⟨b, more, bytes⟩ := exists_lead c
    rw [encode_cons, bytes, List.cons_append, List.head?_cons, List.head?_cons, Option.some_inj,
      Option.some_inj, lead_eq_iff bytes ascii]

end FilterPrep.Utf8
