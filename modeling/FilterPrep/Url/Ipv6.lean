import FilterPrep.Text.CharSet

/-!
# IPv6 addresses

Eight pieces of up to four hexadecimal digits. One run of zero pieces may be left out as `::`, and
the last two pieces may be written as four decimal numbers.
-/

namespace FilterPrep.Url.Ipv6

/-- Up to four hexadecimal digits. -/
def pieceDigits (t : Text) : Text := (t.take 4).takeWhile Text.isHexDigit

/-- A decimal number up to 255 without a leading zero. -/
def byte? (t : Text) : Option Nat :=
  let n := t.foldl (fun n c => 10 * n + (c.toNat - '0'.toNat)) 0
  if t.isEmpty ∨ !t.all Char.isDigit ∨ (t.head? = some '0' ∧ 1 < t.length) ∨ 255 < n then none
  else some n

/-- Four decimal numbers as two pieces. -/
def dotted? (t : Text) : Option (List Nat) := do
  match ← (Text.split (· == '.') t).mapM byte? with
  | [a, b, c, d] => some [256 * a + b, 256 * c + d]
  | _ => none

/-- What has been read: the pieces, and how many stood in front of the gap. A gap counts as one
zero piece until its size is known. -/
structure Reading where
  pieces : List Nat
  gap : Option Nat

/-- Reads on where a piece has to start. -/
def readPieces (reading : Reading) (t : Text) : Option Reading :=
  match t with
  | [] => some reading
  | c :: rest =>
    if reading.pieces.length = 8 then none
    else if c = ':' then
      if reading.gap.isSome then none
      else
        let pieces := reading.pieces ++ [0]
        readPieces ⟨pieces, some pieces.length⟩ rest
    else
      let ds := pieceDigits (c :: rest)
      match _tail : (c :: rest).drop ds.length with
      | [] => some { reading with pieces := reading.pieces ++ [Text.hexNat ds] }
      | '.' :: _ =>
        if ds.isEmpty ∨ 6 < reading.pieces.length then none
        else (dotted? (c :: rest)).map fun two => { reading with pieces := reading.pieces ++ two }
      | ':' :: behind =>
        if behind.isEmpty then none
        else readPieces { reading with pieces := reading.pieces ++ [Text.hexNat ds] } behind
      | _ => none
termination_by t.length
decreasing_by
  · simp
  · have shorter := congrArg List.length _tail
    simp only [List.length_drop, List.length_cons] at shorter ⊢
    omega

/-- The eight pieces, with the gap filled up by zeros. -/
def Reading.fill? (reading : Reading) : Option (List Nat) :=
  match reading.gap with
  | none => if reading.pieces.length = 8 then some reading.pieces else none
  | some k =>
    some (reading.pieces.take k ++ List.replicate (8 - reading.pieces.length) 0 ++
      reading.pieces.drop k)

/-- The pieces of an address, without its brackets. -/
def pieces? (t : Text) : Option (List Nat) :=
  match t with
  | ':' :: ':' :: rest => (readPieces ⟨[0], some 1⟩ rest).bind Reading.fill?
  | ':' :: _ => none
  | t => if t.length < 2 then none else (readPieces ⟨[], none⟩ t).bind Reading.fill?

/-- Start and length of the first longest run of zeros, as seen from index `i` with the best run
so far. -/
def longestZeros (i : Nat) (best : Nat × Nat) : List Nat → Nat × Nat
  | [] => best
  | n :: rest =>
    let run := ((n :: rest).takeWhile (· == 0)).length
    longestZeros (i + 1) (if best.2 < run then (i, run) else best) rest

/-- The address with its longest run of zeros, if it is longer than one piece, left out. -/
def render (pieces : List Nat) : Text :=
  let (start, run) := longestZeros 0 (0, 1) pieces
  let join := fun ps : List Nat => Text.join [':'] (ps.map Text.ofNatHex)
  if 1 < run then join (pieces.take start) ++ [':', ':'] ++ join (pieces.drop (start + run))
  else join pieces

end FilterPrep.Url.Ipv6
