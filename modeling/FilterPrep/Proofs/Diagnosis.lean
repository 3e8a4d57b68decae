import FilterPrep.Proofs.Grammar

/-!
# Errors of conditions

Why a condition is refused. Its brackets are counted before it is read, so the reader itself meets
only two faults: an operand is missing, or two operands stand side by side (`diagnosis_of_read`).
`ofText_error_located` says which error each text gets and where the second operand stands.
-/

namespace FilterPrep.Condition

namespace Token

/-- Another operand cannot follow this token. -/
def EndsOperand (token : Token) : Prop := token.kind = .name ∨ token.kind = .closeBracket

/-- The token starts an operand, and not with a negation. -/
def StartsOperand (token : Token) : Prop := token.kind = .name ∨ token.kind = .openBracket

/-- No negation stands where an operator has to follow. -/
def NegationsApart (tokens : List Token) : Prop :=
  tokens.IsChain fun previous found => previous.EndsOperand → found.kind ≠ .not

variable {token : Token} {tokens : List Token}

theorem negationsApart_cons_iff :
    NegationsApart (token :: tokens) ↔
      (∀ found ∈ tokens.head?, token.EndsOperand → found.kind ≠ .not) ∧ NegationsApart tokens :=
  List.isChain_cons

theorem NegationsApart.cons_of_operator (apart : NegationsApart tokens)
    (notName : token.kind ≠ .name) (notClose : token.kind ≠ .closeBracket) :
    NegationsApart (token :: tokens) := by
  refine negationsApart_cons_iff.mpr ⟨?_, apart⟩
  rintro found next (isName | isClose)
  · exact absurd isName notName
  · exact absurd isClose notClose

theorem NegationsApart.cons_of_operand (apart : NegationsApart tokens)
    (next : ∀ found ∈ tokens.head?, found.kind ≠ .not) : NegationsApart (token :: tokens) :=
  negationsApart_cons_iff.mpr ⟨fun found first _ => next found first, apart⟩

/-- Behind an operand the scan finds no negation: a `!` there is part of a name. -/
theorem negationsApart_scan (operand : Bool) (offset : Nat) (t : Text) :
    NegationsApart (scan operand offset t) ∧
      (operand = false → ∀ found ∈ (scan operand offset t).head?, found.kind ≠ .not) := by
  induction operand, offset, t using scan_induction with
  | nil operand offset => simp [scan, NegationsApart]
  | openBracket operand offset t ih | and operand offset t ih | or operand offset t ih =>
    rw [scan]
    exact ⟨ih.1.cons_of_operator (by simp) (by simp), by simp⟩
  | closeBracket operand offset t ih =>
    rw [scan]
    exact ⟨ih.1.cons_of_operand (ih.2 rfl), by simp⟩
  | skip operand offset c t space ih =>
    rw [scan_skip space]
    exact ih
  | not offset t ih =>
    rw [scan_not]
    exact ⟨ih.1.cons_of_operator (by simp) (by simp), by simp⟩
  | name operand offset c t name rest span solid operator ih =>
    rw [scan_of_nameSpan span solid operator]
    exact ⟨ih.1.cons_of_operand (ih.2 rfl), by simp [ofName]⟩

end Token

/-! ### Faults that the reader meets -/

open Token

/-- What can be wrong with tokens whose brackets are balanced: an operand is missing, or one stands
directly behind another. -/
inductive Diagnosis (condition : Text) (tokens : List Token) : SyntaxError → Prop where
  | missing : Diagnosis condition tokens .emptyCondition
  | beside (before : List Token) {previous found : Token} (behind : List Token)
      (place : tokens = before ++ previous :: found :: behind) (ends : previous.EndsOperand)
      (starts : found.StartsOperand) :
      Diagnosis condition tokens (.unexpectedToken found.text found.offset condition)

variable {condition : Text} {depth : Nat} {tokens : List Token} {token : Token}
  {error : SyntaxError}

theorem Diagnosis.cons (diagnosis : Diagnosis condition tokens error) (token : Token) :
    Diagnosis condition (token :: tokens) error := by
  cases diagnosis with
  | missing => exact .missing
  | beside before behind place ends starts =>
    exact .beside (token :: before) behind (congrArg (token :: ·) place) ends starts

/-- The brackets among the tokens close the open ones and each other. -/
def Closes (depth : Nat) (tokens : List Token) : Prop :=
  balancedFrom depth (tokens.filterMap bracket?) = true

theorem closes_cons_of_plain (plain : token.bracket? = none) :
    Closes depth (token :: tokens) ↔ Closes depth tokens := by
  rw [Closes, List.filterMap_cons_none plain, Closes]

theorem closes_cons_of_open (isOpen : token.kind = .openBracket) :
    Closes depth (token :: tokens) ↔ Closes (depth + 1) tokens := by
  rw [Closes, List.filterMap_cons_some (by rw [bracket?, isOpen]), balancedFrom, Closes]

theorem closes_cons_of_close (isClose : token.kind = .closeBracket) :
    Closes (depth + 1) (token :: tokens) ↔ Closes depth tokens := by
  rw [Closes, List.filterMap_cons_some (by rw [bracket?, isClose]), balancedFrom, Closes]

theorem not_closes_cons_of_close (isClose : token.kind = .closeBracket) :
    ¬Closes 0 (token :: tokens) := by
  rw [Closes, List.filterMap_cons_some (by rw [bracket?, isClose]), balancedFrom]
  exact Bool.false_ne_true

theorem closes_ofText_iff (t : Text) : Closes 0 (Token.ofText t) ↔ bracketsBalanced t = true := by
  rw [Closes, Token.ofText, brackets_scan, balancedFrom_filter, bracketsBalanced]

theorem diagnosis_of_read (tokens : List Token) :
    (∀ {outer group}, Closes outer.length tokens → NegationsApart tokens →
      readOperand condition outer group tokens = .error error →
        Diagnosis condition tokens error) ∧
    (∀ {outer group last previous}, Closes outer.length tokens →
      NegationsApart (previous :: tokens) → previous.EndsOperand →
      readOperator condition outer group last tokens = .error error →
        Diagnosis condition (previous :: tokens) error) := by
  -- both at once, with one open bracket for every group around the reader
  induction tokens with
  | nil =>
    constructor
    · intro outer group closes apart fails
      cases fails
      exact .missing
    · intro outer group last previous closes apart ends fails
      cases outer with
      | nil => cases fails
      | cons around outer => cases closes
  | cons token tokens ih =>
    constructor
    · intro outer group closes apart fails
      have further := (negationsApart_cons_iff.mp apart).2
      cases kind : token.kind with
      | name =>
        rw [readOperand_name kind] at fails
        have below := (closes_cons_of_plain (by rw [bracket?, kind])).mp closes
        exact ih.2 below apart (.inl kind) fails
      | openBracket =>
        rw [readOperand_open kind] at fails
        have below : Closes (group :: outer).length tokens := (closes_cons_of_open kind).mp closes
        exact (ih.1 below further fails).cons token
      | not =>
        rw [readOperand_not kind] at fails
        have below := (closes_cons_of_plain (by rw [bracket?, kind])).mp closes
        exact (ih.1 below further fails).cons token
      | and | or | closeBracket =>
        rw [readOperand, kind] at fails
        cases fails
        exact .missing
    · intro outer group last previous closes apart ends fails
      obtain ⟨next, apart⟩ := negationsApart_cons_iff.mp apart
      have further := (negationsApart_cons_iff.mp apart).2
      cases kind : token.kind with
      | and =>
        rw [readOperator_and kind] at fails
        have below := (closes_cons_of_plain (by rw [bracket?, kind])).mp closes
        exact ((ih.1 below further fails).cons token).cons previous
      | or =>
        rw [readOperator_or kind] at fails
        have below := (closes_cons_of_plain (by rw [bracket?, kind])).mp closes
        exact ((ih.1 below further fails).cons token).cons previous
      | closeBracket =>
        cases outer with
        | nil => exact absurd closes (not_closes_cons_of_close kind)
        | cons around outer =>
          rw [readOperator_close kind] at fails
          have below := (closes_cons_of_close kind).mp closes
          exact (ih.2 below apart (.inr kind) fails).cons previous
      | not => exact absurd kind (next token rfl ends)
      | openBracket =>
        simp only [readOperator, kind] at fails
        cases fails
        exact .beside [] tokens rfl ends (.inr kind)
      | name =>
        simp only [readOperator, kind] at fails
        cases fails
        exact .beside [] tokens rfl ends (.inl kind)

/-- The reader meets no fault in the brackets of a text in which they are balanced. -/
theorem diagnosis_of_readOperand {t : Text} (balanced : bracketsBalanced t = true)
    (fails : readOperand t [] .start (Token.ofText t) = .error error) :
    Diagnosis t (Token.ofText t) error := by
  have closes : Closes ([] : List Group).length (Token.ofText t) :=
    (closes_ofText_iff t).mpr balanced
  exact (diagnosis_of_read _).1 closes (negationsApart_scan true 0 t).1 fails

theorem ofText_of_unbalanced {text : Text} (nonempty : Text.trim text ≠ [])
    (unbalanced : bracketsBalanced (Text.trim text) = false) :
    Expr.ofText text = .error (.incorrectBrackets (Text.trim text)) := by
  rw [Expr.ofText, if_neg (by simpa using nonempty), if_pos (by simp [unbalanced])]

/-- A text is refused because it is empty, because of its brackets, or for what the reader meets. -/
theorem ofText_error_cases {text : Text} (fails : Expr.ofText text = .error error) :
    error = .emptyCondition ∨
    (Text.trim text ≠ [] ∧ bracketsBalanced (Text.trim text) = false ∧
      error = .incorrectBrackets (Text.trim text)) ∨
    Diagnosis (Text.trim text) (Token.ofText (Text.trim text)) error := by
  by_cases empty : Text.trim text = []
  · rw [Expr.ofText, if_pos (by simpa using empty)] at fails
    cases fails
    exact .inl rfl
  · cases balanced : bracketsBalanced (Text.trim text) with
    | false =>
      rw [ofText_of_unbalanced empty balanced] at fails
      cases fails
      exact .inr (.inl ⟨empty, rfl, rfl⟩)
    | true =>
      rw [Expr.ofText, if_neg (by simpa using empty), if_neg (by simp [balanced])] at fails
      exact .inr (.inr (diagnosis_of_readOperand balanced fails))

theorem ofText_incorrectBrackets_iff {text condition : Text} :
    Expr.ofText text = .error (.incorrectBrackets condition) ↔
      Text.trim text ≠ [] ∧ bracketsBalanced (Text.trim text) = false ∧
        condition = Text.trim text := by
  constructor
  · intro fails
    rcases ofText_error_cases fails with empty | ⟨nonempty, unbalanced, error⟩ | diagnosis
    · cases empty
    · cases error
      exact ⟨nonempty, unbalanced, rfl⟩
    · cases diagnosis
  · rintro ⟨nonempty, unbalanced, rfl⟩
    exact ofText_of_unbalanced nonempty unbalanced

/-- A condition is refused for its brackets exactly if they are not balanced, and the reader is
never the one to find this out. A token that is refused is found at its offset in the trimmed text;
it starts an operand, right behind the token that ends another one. -/
theorem ofText_error_located (text : Text) :
    (∀ condition, Expr.ofText text = .error (.incorrectBrackets condition) ↔
      Text.trim text ≠ [] ∧ bracketsBalanced (Text.trim text) = false ∧
        condition = Text.trim text) ∧
    (bracketsBalanced (Text.trim text) = true → ∀ condition,
      readOperand (Text.trim text) [] .start (Token.ofText (Text.trim text)) ≠
        .error (.incorrectBrackets condition)) ∧
    ∀ token offset condition,
      Expr.ofText text = .error (.unexpectedToken token offset condition) →
        condition = Text.trim text ∧
        (∃ front back, Text.trim text = front ++ (token ++ back) ∧
          Text.byteLength front = offset) ∧
        ∃ before previous found behind,
          Token.ofText (Text.trim text) = before ++ previous :: found :: behind ∧
          found.text = token ∧ found.offset = offset ∧
          (found.kind = .name ∨ found.kind = .openBracket) ∧
          (previous.kind = .name ∨ previous.kind = .closeBracket) := by
  refine ⟨fun condition => ofText_incorrectBrackets_iff, ?_, ?_⟩
  · intro balanced condition fails
    cases diagnosis_of_readOperand balanced fails
  · intro token offset condition fails
    rcases ofText_error_cases fails with empty | ⟨-, -, brackets⟩ | diagnosis
    · cases empty
    · cases brackets
    · cases diagnosis with
      | @beside before previous found behind place ends starts =>
        have member : found ∈ Token.ofText (Text.trim text) := by simp [place]
        obtain ⟨front, back, whole, here⟩ := (covers_scan true 0 (Text.trim text)).place member
        rw [Nat.zero_add] at here
        exact ⟨rfl, ⟨front, back, whole, here.symm⟩, before, previous, found, behind, place, rfl,
          rfl, starts, ends⟩

/-- A bracket behind a name, after a character of two bytes, and one that is not closed. -/
theorem ofText_error_located_group :
    Expr.ofText " \u00E9 (b) ".toList =
      .error (.unexpectedToken "(".toList 3 "\u00E9 (b)".toList) ∧
    (∃ front back, "\u00E9 (b)".toList = front ++ ("(".toList ++ back) ∧
      Text.byteLength front = 3) ∧
    Expr.ofText "a (b ".toList = .error (.incorrectBrackets "a (b".toList) := by
  have fails : Expr.ofText " \u00E9 (b) ".toList =
      .error (.unexpectedToken "(".toList 3 "\u00E9 (b)".toList) := by decide +kernel
  obtain ⟨-, -, located⟩ := ofText_error_located " \u00E9 (b) ".toList
  obtain ⟨same, place, -⟩ := located _ _ _ fails
  rw [← same] at place
  obtain ⟨brackets, -, -⟩ := ofText_error_located "a (b ".toList
  exact ⟨fails, place, (brackets _).mpr (by decide +kernel)⟩

end FilterPrep.Condition
