import FilterPrep.Text.Basic

/-!
# White space

The characters with the Unicode property White_Space, and trimming by them. Conditions also skip
the smaller ASCII set between tokens.
-/

namespace FilterPrep.Text

/-- The Unicode property White_Space. -/
def isSpace (c : Char) : Bool :=
  let n := c.toNat
  (0x09 ≤ n && n ≤ 0x0D) || n == 0x20 || n == 0x85 || n == 0xA0 || n == 0x1680 ||
    (0x2000 ≤ n && n ≤ 0x200A) || n == 0x2028 || n == 0x2029 || n == 0x202F || n == 0x205F ||
    n == 0x3000

/-- Space, tab, line feed, form feed and carriage return; the vertical tab is not among them. -/
def isAsciiSpace (c : Char) : Bool :=
  c == ' ' || c == '\t' || c == '\n' || c == '\x0C' || c == '\r'

def trimStart (t : Text) : Text := t.dropWhile isSpace

def trim (t : Text) : Text := trimBy isSpace t

theorem isSpace_of_isAsciiSpace {c : Char} (ascii : isAsciiSpace c = true) : isSpace c = true := by
  simp only [isAsciiSpace, Bool.or_eq_true, beq_iff_eq] at ascii
  rcases ascii with (((h | h) | h) | h) | h <;> subst h <;> decide

end FilterPrep.Text
