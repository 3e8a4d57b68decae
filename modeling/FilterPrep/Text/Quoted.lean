import FilterPrep.Text.CharSet
import FilterPrep.Text.EscapeTable
import FilterPrep.Text.Utf8

/-!
# Quoted text

Messages quote what they were given so that every character can be seen: quotes, backslashes and
the common controls get a backslash, and characters without a shape are written by number.
-/

namespace FilterPrep.Text

/-- Characters that cannot be told apart, or cannot be seen, when printed alone. -/
def shapeless : CharSet := .ofRows shapelessRows

/-- One character between double quotes. -/
def escape (c : Char) : Text :=
  match c with
  | '"' => ['\\', '"']
  | '\\' => ['\\', '\\']
  | '\n' => ['\\', 'n']
  | '\r' => ['\\', 'r']
  | '\t' => ['\\', 't']
  | '\x00' => ['\\', '0']
  | c => if shapeless.contains c then "\\u\x7b".toList ++ ofNatHex c.toNat ++ ['\x7d'] else [c]

def quoted (t : Text) : Text := '"' :: t.flatMap escape ++ ['"']

/-- A byte as two capital hexadecimal digits. -/
def hexByte (b : UInt8) : Text :=
  [Nat.digitChar (b.toNat / 16), Nat.digitChar (b.toNat % 16)].map Char.toUpper

/-- One piece of a byte string between double quotes. -/
def escapePiece : UInt8 ⊕ Char → Text
  | .inl b => '\\' :: 'x' :: hexByte b
  | .inr c => escape c

/-- Bytes between double quotes, those that are no text by their value. -/
def quotedBytes (bytes : List UInt8) : Text :=
  '"' :: (Utf8.pieces bytes).flatMap escapePiece ++ ['"']

end FilterPrep.Text
