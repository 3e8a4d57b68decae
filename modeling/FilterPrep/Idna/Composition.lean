import FilterPrep.Idna.CompositionTable
import FilterPrep.Text.CharSet

/-!
# Canonical composition

A character with marks can be written as one code point or as several. `compose` brings a text
into the form in which marks follow their base in the order of their combining classes and every
pair that has a character of its own is that character.
-/

namespace FilterPrep.Idna

structure Composite where
  whole : Char
  base : Char
  mark : Char

def Composite.ofEntry (entry : Text) : Composite :=
  let (whole, parts) := (Text.cutFirst? '=' entry).getD (entry, [])
  let (base, mark) := (Text.cutFirst? ',' parts).getD (parts, [])
  ⟨Char.ofNat (Text.hexNat whole), Char.ofNat (Text.hexNat base), Char.ofNat (Text.hexNat mark)⟩

def composites : List Composite := (Text.entries compositeRows).map Composite.ofEntry

/-- A range of characters with one combining class. -/
structure ClassRange where
  first : Nat
  last : Nat
  value : Nat

def ClassRange.ofEntry (entry : Text) : ClassRange :=
  let (codes, value) := (Text.cutFirst? '=' entry).getD (entry, [])
  ⟨(Text.range codes).1, (Text.range codes).2, value.foldl (fun n c => 10 * n + Text.hexDigit c) 0⟩

def classRanges : List ClassRange := (Text.entries combiningClassRows).map ClassRange.ofEntry

/-- The place of a mark behind its base; 0 for everything that is not such a mark. -/
def combiningClass (c : Char) : Nat :=
  if c.toNat < 0x300 then 0
  else
    match classRanges.find? fun r => r.first ≤ c.toNat && c.toNat ≤ r.last with
    | some r => r.value
    | none => 0

/-! ### Hangul syllables -/

/-- A syllable as its leading consonant, vowel and trailing consonant. -/
def splitHangul? (c : Char) : Option Text :=
  let n := c.toNat
  if 0xAC00 ≤ n ∧ n < 0xAC00 + 11172 then
    let s := n - 0xAC00
    let lead := Char.ofNat (0x1100 + s / 588)
    let vowel := Char.ofNat (0x1161 + s % 588 / 28)
    some (if s % 28 = 0 then [lead, vowel] else [lead, vowel, Char.ofNat (0x11A7 + s % 28)])
  else none

/-- The syllable of a leading consonant and a vowel, or of an open syllable and a consonant. -/
def joinHangul? (a b : Char) : Option Char :=
  let m := a.toNat
  let n := b.toNat
  if 0x1100 ≤ m ∧ m < 0x1113 ∧ 0x1161 ≤ n ∧ n < 0x1176 then
    some (Char.ofNat (0xAC00 + (m - 0x1100) * 588 + (n - 0x1161) * 28))
  else if 0xAC00 ≤ m ∧ m < 0xAC00 + 11172 ∧ (m - 0xAC00) % 28 = 0 ∧ 0x11A8 ≤ n ∧ n < 0x11C3 then
    some (Char.ofNat (m + (n - 0x11A7)))
  else none

/-! ### Taking apart and putting together -/

/-- Takes a character apart, at most `depth` times. -/
def takeApart : (depth : Nat) → Char → Text
  | 0, c => [c]
  | depth + 1, c =>
    match splitHangul? c with
    | some parts => parts
    | none =>
      match composites.find? (·.whole == c) with
      | some k => takeApart depth k.base ++ [k.mark]
      | none => [c]

/-- The base and the marks of a character; no character is composed more than four deep. -/
def decompose (c : Char) : Text := if c.toNat < 128 then [c] else takeApart 4 c

/-- Puts a character in front of marks that are in order, behind those of a lower class. -/
def placeMark (c : Char) : Text → Text
  | [] => [c]
  | d :: t =>
    if combiningClass d ≠ 0 ∧ combiningClass d < combiningClass c then d :: placeMark c t
    else c :: d :: t

/-- The text with the marks behind each base in the order of their classes. -/
def orderMarks (t : Text) : Text := t.foldr placeMark []

/-- The character that two characters make together; no mark is an ASCII character. -/
def pairChar? (a b : Char) : Option Char :=
  if b.toNat < 128 then none
  else
    match joinHangul? a b with
    | some c => some c
    | none => (composites.find? fun k => k.base == a && k.mark == b).map Composite.whole

/-- Puts the rest of a text together behind the base `base` and its marks `marks`, last first. -/
def joinMarks (base : Char) (marks : Text) : Text → Text
  | [] => base :: marks.reverse
  | c :: t =>
    let free := match marks with
      | [] => true
      | last :: _ => combiningClass last < combiningClass c
    match (if free then pairChar? base c else none) with
    | some whole => joinMarks whole marks t
    | none =>
      if combiningClass c = 0 then base :: marks.reverse ++ joinMarks c [] t
      else joinMarks base (c :: marks) t

def compose (t : Text) : Text :=
  if t.all (·.toNat < 128) then t
  else
    let apart := orderMarks (t.flatMap decompose)
    match apart.span (combiningClass · ≠ 0) with
    | (stray, []) => stray
    | (stray, c :: rest) => stray ++ joinMarks c [] rest

end FilterPrep.Idna
