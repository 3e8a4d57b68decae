import FilterPrep.Idna.Label
import FilterPrep.Idna.Punycode
import FilterPrep.Text.Utf8

/-!
# Domain names in ASCII

`toAscii?` brings a domain name into the form in which hosts are compared: mapped, composed,
checked label by label, and with labels beyond ASCII written in Punycode.
-/

namespace FilterPrep.Idna

/-- The mark in front of a label that is written in Punycode. -/
def encodedMark : Text := "xn--".toList

/-- ASCII characters that no host name may hold. -/
def isForbidden (c : Char) : Bool :=
  c.toNat ≤ 0x20 || c.toNat == 0x7F || "%#/:<>?@[\\]^|".toList.contains c

/-- The most characters that Punycode writes. -/
def writtenLimit : Nat := 1000

/-- The most characters that Punycode reads. -/
def readLimit : Nat := 2000

/-- A label of a mapped and composed name as its reader sees it: one that is written in Punycode is
decoded, and has to be one that only Punycode can write. -/
def readLabel? (label : Text) : Option Text :=
  match Text.after? encodedMark label with
  | none => some label
  | some encoded =>
    match (if label.all (·.toNat < 128) ∧ encoded.length ≤ readLimit then Punycode.decode? encoded
      else none) with
    | none => none
    | some decoded =>
      if decoded.all (·.toNat < 128) then none
      else if map? decoded = some decoded ∧ compose decoded = decoded then some decoded
      else none

/-- Whether a label, as its reader sees it, keeps the rules that concern it alone. -/
def isValidLabel (label : Text) : Bool :=
  !label.any isForbidden && !label.head?.any isMark && joinersAllowed [] label

/-- A label as it is written in ASCII; `none` when Punycode would have to write too much. -/
def writeLabel? (label : Text) : Option Text :=
  if label.all (·.toNat < 128) then some label
  else if writtenLimit < label.length then none
  else some (encodedMark ++ Punycode.encode label)

/-- The ASCII form of the domain name with these bytes; `none` when they are no domain name. -/
def toAscii? (bytes : List UInt8) : Option Text := do
  let name ← Utf8.decode? bytes
  let mapped ← map? name
  let labels ← (Text.split (· == '.') (compose mapped)).mapM readLabel?
  if labels.all isValidLabel && (!labels.any hasRightToLeft || labels.all keepsDirection) then
    (labels.mapM writeLabel?).map (Text.join ['.'])
  else none

end FilterPrep.Idna
