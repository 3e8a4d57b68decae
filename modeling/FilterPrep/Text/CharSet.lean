import FilterPrep.Text.Basic

/-!
# Tables of characters

Properties of characters that have no short rule are kept as rows of hexadecimal entries. This
module reads such rows and answers membership.
-/

namespace FilterPrep

namespace Text

/-- The value of a hexadecimal digit; other characters count as 0. -/
def hexDigit (c : Char) : Nat :=
  if '0' ≤ c ∧ c ≤ '9' then c.toNat - '0'.toNat
  else if 'A' ≤ c ∧ c ≤ 'F' then c.toNat - 'A'.toNat + 10
  else if 'a' ≤ c ∧ c ≤ 'f' then c.toNat - 'a'.toNat + 10
  else 0

def isHexDigit (c : Char) : Bool :=
  ('0' ≤ c ∧ c ≤ '9') ∨ ('A' ≤ c ∧ c ≤ 'F') ∨ ('a' ≤ c ∧ c ≤ 'f')

/-- The number that a text of hexadecimal digits stands for. -/
def hexNat (t : Text) : Nat := t.foldl (fun n c => 16 * n + hexDigit c) 0

/-- A number in hexadecimal, with small letters. -/
def ofNatHex (n : Nat) : Text := Nat.toDigits 16 n

/-- The entries of the rows of a table. -/
def entries (rows : List String) : List Text :=
  rows.flatMap fun row => split (· == ' ') row.toList

/-- Reads `first-last`, or a single code point. -/
def range (t : Text) : Nat × Nat :=
  match cutFirst? '-' t with
  | some (first, last) => (hexNat first, hexNat last)
  | none => (hexNat t, hexNat t)

end Text

/-- A set of characters, as ranges of code points. -/
structure CharSet where
  ranges : List (Nat × Nat)

namespace CharSet

def ofRows (rows : List String) : CharSet := ⟨(Text.entries rows).map Text.range⟩

def contains (set : CharSet) (c : Char) : Bool :=
  set.ranges.any fun (first, last) => first ≤ c.toNat && c.toNat ≤ last

end CharSet

end FilterPrep
