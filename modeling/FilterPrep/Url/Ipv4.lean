import FilterPrep.Text.CharSet

/-!
# IPv4 addresses

An address has one to four numbers, in decimal, octal or hexadecimal; the last number fills all
the bytes that the others leave.
-/

namespace FilterPrep.Url.Ipv4

/-- The digits and base of a number: `0x` marks hexadecimal and a further leading zero octal. -/
def digits : Text → Text × Nat
  | '0' :: 'x' :: t => (t, 16)
  | '0' :: 'X' :: t => (t, 16)
  | '0' :: c :: t => (c :: t, 8)
  | t => (t, 10)

/-- One number of an address; nothing behind the mark of its base is 0. -/
def number? (t : Text) : Option Nat :=
  if t.isEmpty then none
  else
    let (ds, base) := digits t
    if ds.all fun c => Text.isHexDigit c && Text.hexDigit c < base then
      some (ds.foldl (fun n c => base * n + Text.hexDigit c) 0)
    else none

/-- The parts between dots, without the empty one behind a dot at the end. -/
def parts (host : Text) : List Text :=
  let all := Text.split (· == '.') host
  if 1 < all.length ∧ all.getLast? = some [] then all.dropLast else all

/-- Whether a host has to be read as an address: its last part is a number. -/
def endsInNumber (host : Text) : Bool :=
  match (parts host).getLast? with
  | some last => (!last.isEmpty && last.all Char.isDigit) || (number? last).isSome
  | none => false

/-- The address as one number; `none` when there are too many numbers or one is too large. -/
def address? (host : Text) : Option Nat := do
  let numbers ← (parts host).mapM number?
  let last ← numbers.getLast?
  let leading := numbers.dropLast
  let room := Nat.pow 256 (4 - leading.length)
  if 3 < leading.length ∨ leading.any (255 < ·) ∨ room ≤ last then none
  else some (leading.foldl (fun n k => 256 * n + k) 0 * room + last)

/-- Four decimal numbers between dots. -/
def render (address : Nat) : Text :=
  Text.join ['.'] ([address / 16777216, address / 65536 % 256, address / 256 % 256,
    address % 256].map Text.ofNat)

end FilterPrep.Url.Ipv4
