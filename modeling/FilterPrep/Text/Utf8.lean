import FilterPrep.Text.Basic

/-!
# UTF-8

Texts as bytes and back. Reading keeps the bytes that belong to no character, so that it is total
and the caller decides what to do with them.
-/

namespace FilterPrep.Utf8

def encode (t : Text) : List UInt8 := t.flatMap String.utf8EncodeChar

/-- The low six bits of a byte that continues a character. -/
def tail? (b : UInt8) : Option Nat :=
  if 0x80 ≤ b ∧ b ≤ 0xBF then some (b.toNat - 0x80) else none

/-- A code point that needs at least the length it is written in. -/
def charFrom? (least n : Nat) : Option Char :=
  if least ≤ n ∧ n.isValidChar then some (Char.ofNat n) else none

/-- The character at the start of `bytes`, with the number of bytes behind its first. -/
def decodeChar? : List UInt8 → Option (Char × Nat)
  | [] => none
  | a :: rest =>
    if a ≤ 0x7F then some (Char.ofNat a.toNat, 0)
    else if 0xC2 ≤ a ∧ a ≤ 0xDF then
      match rest with
      | b :: _ => do
        let x ← tail? b
        return (← charFrom? 0x80 ((a.toNat - 0xC0) * 64 + x), 1)
      | _ => none
    else if 0xE0 ≤ a ∧ a ≤ 0xEF then
      match rest with
      | b :: c :: _ => do
        let x ← tail? b
        let y ← tail? c
        return (← charFrom? 0x800 ((a.toNat - 0xE0) * 4096 + x * 64 + y), 2)
      | _ => none
    else if 0xF0 ≤ a ∧ a ≤ 0xF4 then
      match rest with
      | b :: c :: d :: _ => do
        let x ← tail? b
        let y ← tail? c
        let z ← tail? d
        return (← charFrom? 0x10000 ((a.toNat - 0xF0) * 262144 + x * 4096 + y * 64 + z), 3)
      | _ => none
    else none

/-- The characters of `bytes` in order; a byte that starts no character stands for itself. -/
def pieces : List UInt8 → List (UInt8 ⊕ Char)
  | [] => []
  | a :: rest =>
    match decodeChar? (a :: rest) with
    | some (c, more) => .inr c :: pieces (rest.drop more)
    | none => .inl a :: pieces rest
termination_by bytes => bytes.length
decreasing_by
  all_goals simp only [List.length_cons, List.length_drop]
  all_goals omega

/-- The text of `bytes`, when they are UTF-8. -/
def decode? (bytes : List UInt8) : Option Text :=
  (pieces bytes).mapM fun
    | .inr c => some c
    | .inl _ => none

end FilterPrep.Utf8
