/-!
# Text

A text is a list of code points. Lines, conditions, addresses and messages are all texts, and
every rule of the library is stated on their characters; only the offsets and sizes that are shown
to a reader count UTF-8 bytes.
-/

namespace FilterPrep

/-- A piece of Unicode text, one entry per code point. -/
abbrev Text := List Char

namespace Text

/-- The number of bytes in the UTF-8 form. -/
def byteLength : Text → Nat
  | [] => 0
  | c :: t => c.utf8Size + byteLength t

/-- What follows `lead`, when `t` starts with it. -/
def after? : (lead t : Text) → Option Text
  | [], t => some t
  | _ :: _, [] => none
  | c :: lead, d :: t => if c = d then after? lead t else none

theorem after?_eq_some_iff {lead t rest : Text} : after? lead t = some rest ↔ t = lead ++ rest := by
  induction lead generalizing t with
  | nil => simp [after?, eq_comm]
  | cons c lead ih =>
    cases t with
    | nil => simp [after?]
    | cons d t =>
      by_cases same : c = d
      · simp [after?, same, ih]
      · simp [after?, same, Ne.symm same]

def startsWith (lead t : Text) : Bool := (after? lead t).isSome

def contains (part : Text) : Text → Bool
  | [] => startsWith part []
  | c :: t => startsWith part (c :: t) || contains part t

/-- The pieces of `t` between the characters that satisfy `cut`: one more than there are cuts. -/
def split (cut : Char → Bool) : Text → List Text
  | [] => [[]]
  | c :: t =>
    if cut c then [] :: split cut t
    else
      match split cut t with
      | [] => [[c]]
      | piece :: pieces => (c :: piece) :: pieces

/-- The texts in order, with `separator` between neighbours. -/
def join (separator : Text) : List Text → Text
  | [] => []
  | [t] => t
  | t :: u :: rest => t ++ separator ++ join separator (u :: rest)

/-- What stands before and after the first `mark`, if there is one. -/
def cutFirst? (mark : Char) : Text → Option (Text × Text)
  | [] => none
  | c :: t =>
    if c = mark then some ([], t)
    else (cutFirst? mark t).map fun (before, behind) => (c :: before, behind)

/-- What stands before and after the last `mark`, if there is one. -/
def cutLast? (mark : Char) : Text → Option (Text × Text)
  | [] => none
  | c :: t =>
    match cutLast? mark t with
    | some (before, behind) => some (c :: before, behind)
    | none => if c = mark then some ([], t) else none

/-- The text without the characters at its end that satisfy `drop`. -/
def trimEndBy (drop : Char → Bool) (t : Text) : Text := (t.reverse.dropWhile drop).reverse

/-- The text without the characters at both ends that satisfy `drop`. -/
def trimBy (drop : Char → Bool) (t : Text) : Text := trimEndBy drop (t.dropWhile drop)

/-- The lower-case form of the ASCII letters, everything else unchanged. -/
def asciiLower (t : Text) : Text := t.map Char.toLower

/-- The simple case folding of the characters that fold to ASCII letters: besides the capitals,
the long s and the kelvin sign. -/
def foldCase (c : Char) : Char :=
  if c = '\u017F' then 's' else if c = '\u212A' then 'k' else c.toLower

def ofNat (n : Nat) : Text := Nat.toDigits 10 n

end Text

end FilterPrep
