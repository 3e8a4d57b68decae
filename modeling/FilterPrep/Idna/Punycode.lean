import FilterPrep.Text.Basic

/-!
# Punycode

Labels with characters beyond ASCII are written as their ASCII characters followed by the others
as a sequence of differences, each a number of variable length in base 36 whose digit thresholds
adapt to the sizes seen so far.
-/

namespace FilterPrep.Idna.Punycode

/-- The digit of a value below 36. -/
def digit (n : Nat) : Char :=
  if n < 26 then Char.ofNat ('a'.toNat + n) else Char.ofNat ('0'.toNat + (n - 26))

def digitValue? (c : Char) : Option Nat :=
  if 'a' ≤ c ∧ c ≤ 'z' then some (c.toNat - 'a'.toNat)
  else if 'A' ≤ c ∧ c ≤ 'Z' then some (c.toNat - 'A'.toNat)
  else if '0' ≤ c ∧ c ≤ '9' then some (c.toNat - '0'.toNat + 26)
  else none

/-- The threshold of the digit at place `k`, which counts in steps of 36 from 36. -/
def threshold (bias k : Nat) : Nat := max 1 (min 26 (k - bias))

theorem threshold_pos (bias k : Nat) : 1 ≤ threshold bias k := by
  unfold threshold; omega

theorem threshold_le (bias k : Nat) : threshold bias k ≤ 26 := by
  unfold threshold; omega

/-- Divides the difference down to the range of a single step, counting the places. -/
def damp (delta k : Nat) : Nat × Nat :=
  if 455 < delta then damp (delta / 35) (k + 36) else (delta, k)
termination_by delta
decreasing_by exact Nat.div_lt_self (by omega) (by omega)

/-- The bias after a difference, with `count` characters written. -/
def adapt (delta count : Nat) (first : Bool) : Nat :=
  let halved := if first then delta / 700 else delta / 2
  let (delta, k) := damp (halved + halved / count) 0
  k + 36 * delta / (delta + 38)

/-- A difference as digits. -/
def number (bias k q : Nat) : Text :=
  let t := threshold bias k
  if q < t then [digit q]
  else digit (t + (q - t) % (36 - t)) :: number bias (k + 36) ((q - t) / (36 - t))
termination_by q
decreasing_by
  have low := threshold_pos bias k
  calc (q - threshold bias k) / (36 - threshold bias k)
      ≤ q - threshold bias k := Nat.div_le_self _ _
    _ < q := by omega

/-- The state of writing: the digits so far, the pending difference, the bias and the number of
characters that are written. -/
structure Writer where
  out : Text
  delta : Nat
  bias : Nat
  written : Nat

/-- Passes over one character of the label while the characters `m` are being written. -/
def Writer.pass (basic m : Nat) (w : Writer) (c : Char) : Writer :=
  if c.toNat < m then { w with delta := w.delta + 1 }
  else if c.toNat = m then
    { out := w.out ++ number w.bias 36 w.delta
      delta := 0
      bias := adapt w.delta (w.written + 1) (w.written == basic)
      written := w.written + 1 }
  else w

/-- Writes the occurrences of all the characters `ms`, which ascend; `n` is the first that has not
been considered yet. -/
def Writer.run (label : Text) (basic : Nat) : (ms : List Nat) → (n : Nat) → Writer → Writer
  | [], _, w => w
  | m :: ms, n, w =>
    let w := { w with delta := w.delta + (m - n) * (w.written + 1) }
    let w := label.foldl (Writer.pass basic m) w
    run label basic ms (m + 1) { w with delta := w.delta + 1 }

/-- Adds a number to an ascending list, unless it is there. -/
def insertAscending (m : Nat) : List Nat → List Nat
  | [] => [m]
  | k :: rest =>
    if m < k then m :: k :: rest else if m = k then k :: rest else k :: insertAscending m rest

/-- The written form of a label, without any mark that it is one. -/
def encode (label : Text) : Text :=
  let basic := label.filter (·.toNat < 128)
  let others := ((label.map Char.toNat).filter (128 ≤ ·)).foldr insertAscending []
  let start := if basic.isEmpty then [] else basic ++ ['-']
  (Writer.run label basic.length others 128 ⟨start, 0, 72, basic.length⟩).out

/-- Reads the digits of one difference and returns it with the rest. -/
def readNumber (bias : Nat) : (k weight i : Nat) → Text → Option (Nat × Text)
  | _, _, _, [] => none
  | k, weight, i, c :: rest => do
    let d ← digitValue? c
    let t := threshold bias k
    let i := i + d * weight
    if d < t then some (i, rest) else readNumber bias (k + 36) (weight * (36 - t)) i rest

theorem length_readNumber {bias k weight i n : Nat} {t rest : Text}
    (read : readNumber bias k weight i t = some (n, rest)) : rest.length < t.length := by
  induction t generalizing k weight i with
  | nil => simp [readNumber] at read
  | cons c t ih =>
    simp only [readNumber, Option.bind_eq_bind, Option.bind_eq_some_iff] at read
    obtain ⟨d, _, step⟩ := read
    split at step
    · cases step
      simp
    · have shorter := ih step
      simp only [List.length_cons]
      omega

/-- Inserts the characters that `t` describes into `out`; `n` is the current code point and `i`
the place of the last insertion. -/
def insertAll (n i bias : Nat) (out t : Text) : Option Text :=
  match t with
  | [] => some out
  | c :: t =>
    match _read : readNumber bias 36 1 i (c :: t) with
    | none => none
    | some (j, rest) =>
      let count := out.length + 1
      let code := n + j / count
      if code.isValidChar then
        let place := j % count
        insertAll code (place + 1) (adapt (j - i) count (i == 0))
          (out.insertIdx place (Char.ofNat code)) rest
      else none
termination_by t.length
decreasing_by exact length_readNumber _read

/-- The label of a written form: its ASCII characters stand in front of the last hyphen, unless
that is the first character. -/
def decode? (t : Text) : Option Text :=
  match Text.cutLast? '-' t with
  | some (c :: basic, tail) =>
    if (c :: basic).all (·.toNat < 128) then insertAll 128 0 72 (c :: basic) tail else none
  | _ => insertAll 128 0 72 [] t

end FilterPrep.Idna.Punycode
