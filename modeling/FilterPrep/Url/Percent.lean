import FilterPrep.Text.CharSet
import FilterPrep.Text.Utf8

/-!
# Percent encoding

Each part of an address has its own set of ASCII characters that must be written as `%` and two
digits; controls and everything beyond ASCII are always written so.
-/

namespace FilterPrep.Url.Percent

/-- Controls and everything beyond ASCII: encoded in every part of an address. -/
def controls (c : Char) : Bool := c.toNat < 0x20 || 0x7F ≤ c.toNat

def fragment (c : Char) : Bool := controls c || " \"<>`".toList.contains c

def path (c : Char) : Bool := fragment c || "#?\x7b\x7d".toList.contains c

def userinfo (c : Char) : Bool := path c || "/:;=@[\\]^|".toList.contains c

def query (c : Char) : Bool := controls c || " \"#<>".toList.contains c

/-- The query of a special scheme also encodes the single quote. -/
def specialQuery (c : Char) : Bool := query c || c == '\''

/-- A byte as `%` and two capital digits. -/
def ofByte (b : UInt8) : Text :=
  ['%', (Nat.digitChar (b.toNat / 16)).toUpper, (Nat.digitChar (b.toNat % 16)).toUpper]

/-- The text with the characters of `set` encoded byte by byte. -/
def encode (set : Char → Bool) (t : Text) : Text :=
  t.flatMap fun c => if set c then (String.utf8EncodeChar c).flatMap ofByte else [c]

/-- The bytes of the text, with every `%` that is followed by two digits decoded. -/
def decode : Text → List UInt8
  | '%' :: a :: b :: t =>
    if Text.isHexDigit a ∧ Text.isHexDigit b then
      (16 * Text.hexDigit a + Text.hexDigit b).toUInt8 :: decode t
    else String.utf8EncodeChar '%' ++ decode (a :: b :: t)
  | c :: t => String.utf8EncodeChar c ++ decode t
  | [] => []

end FilterPrep.Url.Percent
