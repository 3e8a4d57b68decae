import FilterPrep.Text.Space

/-!
# Tokens of a condition

A condition is cut into brackets, the operators `!`, `&&` and `||`, and names. A name runs up to
the next bracket, `&&` or `||`, so it may contain spaces and single `&` or `|`; `!` is an operator
only where an operand can start.
-/

namespace FilterPrep.Condition

namespace Token

inductive Kind where
  | not
  | and
  | or
  | openBracket
  | closeBracket
  | name
  deriving DecidableEq, Repr

end Token

/-- A token with its place in the condition. -/
structure Token where
  kind : Token.Kind
  /-- The characters of the token; those of a name are trimmed. -/
  text : Text
  /-- Where `text` starts, in bytes. -/
  offset : Nat
  deriving DecidableEq, Repr

namespace Token

/-- Whether a name ends in front of this text. -/
def endsName : Text → Bool
  | [] => true
  | '(' :: _ => true
  | ')' :: _ => true
  | '&' :: '&' :: _ => true
  | '|' :: '|' :: _ => true
  | _ :: _ => false

def nameSpan : Text → Text × Text
  | [] => ([], [])
  | c :: t =>
    if endsName (c :: t) then ([], c :: t)
    else
      let (raw, rest) := nameSpan t
      (c :: raw, rest)

theorem nameSpan_append (t : Text) : (nameSpan t).1 ++ (nameSpan t).2 = t := by
  induction t with
  | nil => rfl
  | cons c t ih =>
    simp only [nameSpan]
    split
    · rfl
    · simp [ih]

theorem length_nameSpan_le (t : Text) : (nameSpan t).2.length ≤ t.length := by
  have whole := congrArg List.length (nameSpan_append t)
  simp only [List.length_append] at whole
  omega

/-- The name token of the raw characters `raw` that start at `offset`. -/
def ofName (raw : Text) (offset : Nat) : Token where
  kind := .name
  text := Text.trim raw
  offset := offset + (Text.byteLength raw - Text.byteLength (Text.trimStart raw))

/-- The tokens of `t`, which starts at `offset`; `operand` tells whether an operand can start
there. -/
def scan (operand : Bool) (offset : Nat) : Text → List Token
  | [] => []
  | '(' :: t => ⟨.openBracket, ['('], offset⟩ :: scan true (offset + 1) t
  | ')' :: t => ⟨.closeBracket, [')'], offset⟩ :: scan false (offset + 1) t
  | '&' :: '&' :: t => ⟨.and, ['&', '&'], offset⟩ :: scan true (offset + 2) t
  | '|' :: '|' :: t => ⟨.or, ['|', '|'], offset⟩ :: scan true (offset + 2) t
  | c :: t =>
    if Text.isAsciiSpace c then scan operand (offset + 1) t
    else if operand && c == '!' then ⟨.not, ['!'], offset⟩ :: scan true (offset + 1) t
    else
      let raw := c :: (nameSpan t).1
      ofName raw offset :: scan false (offset + Text.byteLength raw) (nameSpan t).2
termination_by t => t.length
decreasing_by
  all_goals simp only [List.length_cons]
  all_goals first | omega | exact Nat.lt_succ_of_le (length_nameSpan_le t)

def ofText (condition : Text) : List Token := scan true 0 condition

end Token

end FilterPrep.Condition
