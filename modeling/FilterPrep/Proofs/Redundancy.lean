import FilterPrep.Proofs.Grammar

/-!
# Redundant negations and brackets

Two negations in front of a condition and brackets around it change nothing of its value, whatever
the condition is (`evaluate_redundant`). The negations go to the first operand alone, and only the
truth of what has been read so far counts for the value (`read_value`). Brackets open a group that
holds the whole condition when its own brackets match, and the reader goes through it as it does
outside (`readOperand_enclosed`).
-/

namespace FilterPrep.Condition

namespace Token

/-! ### Tokens in front of a bracket -/

theorem endsName_append_close (t rest : Text) : endsName (t ++ ')' :: rest) = endsName t := by
  cases t with
  | nil => rfl
  | cons c t =>
    have next : ∀ mark, mark ≠ ')' →
        ((t ++ ')' :: rest).head? = some mark ↔ t.head? = some mark) := by
      intro mark other
      cases t with
      | nil => simp [other.symm]
      | cons d t => rfl
    have same : endsName (c :: t ++ ')' :: rest) = false ↔ endsName (c :: t) = false := by
      rw [List.cons_append, endsName_eq_false_iff, endsName_eq_false_iff]
      simp only [ne_eq, next '&' (by decide), next '|' (by decide)]
    exact Bool.eq_iff_iff.mpr (by simpa using not_congr same)

theorem nameSpan_append_close (t rest : Text) :
    nameSpan (t ++ ')' :: rest) = ((nameSpan t).1, (nameSpan t).2 ++ ')' :: rest) := by
  induction t with
  | nil => rfl
  | cons c t ih =>
    have ends := endsName_append_close (c :: t) rest
    rw [List.cons_append] at ends ⊢
    rw [nameSpan, nameSpan, ends, ih]
    split <;> rfl

/-- A bracket ends what stands in front of it and leaves it as it would be at the end. -/
theorem map_word_scan_close (operand : Bool) (offset : Nat) (t rest : Text) :
    (scan operand offset (t ++ ')' :: rest)).map word =
      (scan operand offset t).map word ++
        (.closeBracket, [')']) :: (scan false 0 rest).map word := by
  induction operand, offset, t using scan_induction with
  | nil operand offset =>
    rw [List.nil_append, scan, scan, List.map_cons, map_word_scan false (offset + 1) 0]
    rfl
  | openBracket operand offset t ih | closeBracket operand offset t ih | and operand offset t ih
  | or operand offset t ih =>
    simp only [List.cons_append]
    rw [scan, scan, List.map_cons, List.map_cons, ih, List.cons_append]
  | skip operand offset c t space ih =>
    rw [List.cons_append, scan_skip space, scan_skip space, ih]
  | not offset t ih =>
    rw [List.cons_append, scan_not, scan_not, List.map_cons, List.map_cons, ih, List.cons_append]
  | name operand offset c t name behind span solid operator ih =>
    have longer := nameSpan_append_close (c :: t) rest
    rw [span, List.cons_append] at longer
    rw [List.cons_append, scan_of_nameSpan longer solid operator,
      scan_of_nameSpan span solid operator, List.map_cons, List.map_cons, ih, List.cons_append]

end Token

variable {flags : FlagSet} {condition other : Text} {value : Bool}

/-! ### The value that is read -/

/-- The value of what was read; none if it could not be read. -/
def outcome (flags : FlagSet) (read : Except SyntaxError Expr) : Option Bool :=
  read.toOption.map (Expr.eval flags)

@[simp] theorem outcome_ok (tree : Expr) : outcome flags (.ok tree) = some (tree.eval flags) := rfl

@[simp] theorem outcome_error (error : SyntaxError) : outcome flags (.error error) = none := rfl

theorem evaluate_eq_ok_iff (text : Text) :
    evaluate flags text = .ok value ↔
      outcome flags (readOperand [] [] .start (Token.ofText (Text.trim text))) = some value := by
  have reads : ∀ tree, Expr.ofText text = .ok tree ↔
      readOperand [] [] .start (Token.ofText (Text.trim text)) = .ok tree := by
    intro tree
    rw [ofText_ok_iff]
    exact ⟨fun derives => readOperand_of_derives derives [], derives_of_readOperand⟩
  unfold evaluate
  cases read : Expr.ofText text with
  | ok tree => simp [(reads tree).mp read, Except.map]
  | error error =>
    cases again : readOperand [] [] .start (Token.ofText (Text.trim text)) with
    | ok tree => exact nomatch read.symm.trans ((reads tree).mpr again)
    | error cause => simp [Except.map]

namespace Group

variable {group group' : Group} {last last' : Expr}

theorem standing_negate (group : Group) :
    group.negate.standing flags =
      { group.standing flags with negated := !(group.standing flags).negated } := rfl

theorem eval_closeAnd_congr (alike : group.standing flags = group'.standing flags)
    (same : last.eval flags = last'.eval flags) :
    (group.closeAnd last).eval flags = (group'.closeAnd last').eval flags := by
  rw [eval_closeAnd, eval_closeAnd, alike, same]

theorem eval_close_congr (alike : group.standing flags = group'.standing flags)
    (same : last.eval flags = last'.eval flags) :
    (group.close last).eval flags = (group'.close last').eval flags := by
  rw [eval_close, eval_close, alike, eval_closeAnd_congr alike same]

end Group

/-- Tokens of the same kinds and texts are read to the same value in groups of the same truth. -/
theorem read_value (tokens others : List Token)
    (words : tokens.map Token.word = others.map Token.word) :
    (∀ {outer outer' : List Group} {group group' : Group},
      outer.map (Group.standing flags) = outer'.map (Group.standing flags) →
      group.standing flags = group'.standing flags →
        outcome flags (readOperand condition outer group tokens) =
          outcome flags (readOperand other outer' group' others)) ∧
    ∀ {outer outer' : List Group} {group group' : Group} {last last' : Expr},
      outer.map (Group.standing flags) = outer'.map (Group.standing flags) →
      group.standing flags = group'.standing flags → last.eval flags = last'.eval flags →
        outcome flags (readOperator condition outer group last tokens) =
          outcome flags (readOperator other outer' group' last' others) := by
  -- both at once: at every token one of them hands the rest over to the other
  induction tokens generalizing others with
  | nil =>
    obtain rfl := List.map_eq_nil_iff.mp words.symm
    constructor
    · intro outer outer' group group' _ _
      simp only [readOperand, outcome_error]
    · intro outer outer' group group' last last' around alike same
      have empty : outer.isEmpty = outer'.isEmpty := by
        have lengths := congrArg List.length around
        rw [List.length_map, List.length_map] at lengths
        cases outer <;> cases outer' <;> simp at lengths ⊢
      rw [readOperator, readOperator, empty]
      split
      · rw [outcome_ok, outcome_ok, Group.eval_close_congr alike same]
      · rfl
  | cons token tokens ih =>
    obtain ⟨token', others, rfl, word, further⟩ := List.map_eq_cons_iff.mp words.symm
    obtain ⟨kindSame, textSame⟩ := Prod.mk.inj word
    obtain ⟨ihOperand, ihOperator⟩ := ih others further.symm
    constructor
    · intro outer outer' group group' around alike
      cases kind : token.kind with
      | name =>
        rw [kind] at kindSame
        rw [readOperand_name kind, readOperand_name kindSame, textSame]
        exact ihOperator around alike rfl
      | openBracket =>
        rw [kind] at kindSame
        rw [readOperand_open kind, readOperand_open kindSame]
        exact ihOperand (by rw [List.map_cons, List.map_cons, around, alike]) rfl
      | not =>
        rw [kind] at kindSame
        rw [readOperand_not kind, readOperand_not kindSame]
        exact ihOperand around (by rw [Group.standing_negate, Group.standing_negate, alike])
      | and | or | closeBracket =>
        rw [kind] at kindSame
        simp only [readOperand, kind, kindSame, outcome_error]
    · intro outer outer' group group' last last' around alike same
      have conjunction := Group.eval_closeAnd_congr alike same
      cases kind : token.kind with
      | and =>
        rw [kind] at kindSame
        rw [readOperator_and kind, readOperator_and kindSame]
        exact ihOperand around
          (by rw [Group.standing_thenAnd, Group.standing_thenAnd, alike, conjunction])
      | or =>
        rw [kind] at kindSame
        rw [readOperator_or kind, readOperator_or kindSame]
        exact ihOperand around
          (by rw [Group.standing_thenOr, Group.standing_thenOr, alike, conjunction])
      | closeBracket =>
        rw [kind] at kindSame
        cases outer with
        | nil =>
          obtain rfl := List.map_eq_nil_iff.mp around.symm
          simp only [readOperator, kind, kindSame, outcome_error]
        | cons first outer =>
          obtain ⟨first', outer', rfl, one, others⟩ := List.map_eq_cons_iff.mp around.symm
          rw [readOperator_close kind, readOperator_close kindSame]
          exact ihOperator others.symm one.symm (Group.eval_close_congr alike same)
      | not | openBracket | name =>
        rw [kind] at kindSame
        simp only [readOperator, kind, kindSame, outcome_error]

/-! ### Brackets around a condition -/

/-- One more bracket around tokens whose own brackets match changes nothing of how they are
read. -/
theorem read_enclosed (closing : Token) (isClose : closing.kind = .closeBracket)
    (tokens : List Token) :
    (∀ (outer : List Group) (group : Group),
      balancedFrom outer.length (tokens.filterMap Token.bracket?) = true →
        readOperand condition (outer ++ [.start]) group (tokens ++ [closing]) =
          readOperand condition outer group tokens) ∧
    ∀ (outer : List Group) (group : Group) (last : Expr),
      balancedFrom outer.length (tokens.filterMap Token.bracket?) = true →
        readOperator condition (outer ++ [.start]) group last (tokens ++ [closing]) =
          readOperator condition outer group last tokens := by
  induction tokens with
  | nil =>
    constructor
    · intro outer group _
      rw [List.nil_append, readOperand, readOperand, isClose]
    · intro outer group last balanced
      obtain rfl : outer = [] := by simpa [balancedFrom] using balanced
      rw [List.nil_append, List.nil_append, readOperator_close isClose, readOperator, readOperator]
      rfl
  | cons token tokens ih =>
    obtain ⟨ihOperand, ihOperator⟩ := ih
    constructor
    · intro outer group balanced
      rw [List.cons_append]
      cases kind : token.kind with
      | name =>
        rw [List.filterMap_cons_none (by rw [Token.bracket?, kind])] at balanced
        rw [readOperand_name kind, readOperand_name kind, ihOperator outer group _ balanced]
      | openBracket =>
        rw [List.filterMap_cons_some (by rw [Token.bracket?, kind]), balancedFrom] at balanced
        rw [readOperand_open kind, readOperand_open kind, ← List.cons_append,
          ihOperand (group :: outer) .start balanced]
      | not =>
        rw [List.filterMap_cons_none (by rw [Token.bracket?, kind])] at balanced
        rw [readOperand_not kind, readOperand_not kind, ihOperand outer group.negate balanced]
      | and | or | closeBracket => simp only [readOperand, kind]
    · intro outer group last balanced
      rw [List.cons_append]
      cases kind : token.kind with
      | and =>
        rw [List.filterMap_cons_none (by rw [Token.bracket?, kind])] at balanced
        rw [readOperator_and kind, readOperator_and kind, ihOperand outer _ balanced]
      | or =>
        rw [List.filterMap_cons_none (by rw [Token.bracket?, kind])] at balanced
        rw [readOperator_or kind, readOperator_or kind, ihOperand outer _ balanced]
      | closeBracket =>
        rw [List.filterMap_cons_some (by rw [Token.bracket?, kind])] at balanced
        cases outer with
        | nil => cases balanced
        | cons around outer =>
          rw [List.cons_append, readOperator_close kind, readOperator_close kind,
            ihOperator outer around _ balanced]
      | not | openBracket | name => simp only [readOperator, kind]

/-! ### Redundant marks -/

theorem evaluate_not_not {text : Text} (trimmed : Text.Trimmed Text.isSpace text) :
    evaluate flags ('!' :: '!' :: text) = .ok value ↔ evaluate flags text = .ok value := by
  have whole : Text.trim ('!' :: '!' :: text) = '!' :: '!' :: text :=
    Text.trimBy_of_trimmed (Text.trimmed_cons (by decide) (Text.trimmed_cons (by decide) trimmed))
  have own : Text.trim text = text := Text.trimBy_of_trimmed trimmed
  rw [evaluate_eq_ok_iff, evaluate_eq_ok_iff, whole, own, Token.ofText, Token.scan_not,
    Token.scan_not, readOperand_not rfl, readOperand_not rfl]
  -- two negations are pending in front of the first operand
  have words := Token.map_word_scan true (0 + 1 + 1) 0 text
  have alike : Group.start.negate.negate.standing flags = Group.start.standing flags := rfl
  rw [(read_value _ _ words).1 rfl alike]
  rfl

theorem evaluate_enclosed {text : Text} (trimmed : Text.Trimmed Text.isSpace text)
    (balanced : bracketsBalanced text = true) :
    evaluate flags ('(' :: (text ++ [')'])) = .ok value ↔ evaluate flags text = .ok value := by
  have whole : Text.trim ('(' :: (text ++ [')'])) = '(' :: (text ++ [')']) :=
    Text.trimBy_of_trimmed
      (Text.trimmed_cons (by decide) (Text.trimmed_concat (by decide) trimmed))
  have own : Text.trim text = text := Text.trimBy_of_trimmed trimmed
  have words : (Token.scan true 0 ('(' :: (text ++ [')']))).map Token.word =
      (⟨.openBracket, ['('], 0⟩ :: (Token.ofText text ++ [⟨.closeBracket, [')'], 0⟩])).map
        Token.word := by
    rw [Token.scan, List.map_cons, Token.map_word_scan_close, Token.map_word_scan true _ 0,
      Token.scan, List.map_cons, List.map_append]
    rfl
  have matched : balancedFrom ([] : List Group).length
      ((Token.ofText text).filterMap Token.bracket?) = true := by
    rw [Token.ofText, Token.brackets_scan, Token.balancedFrom_filter]
    exact balanced
  have enclosed : readOperand [] [.start] .start
      (Token.ofText text ++ [⟨.closeBracket, [')'], 0⟩]) =
        readOperand [] [] .start (Token.ofText text) := (read_enclosed _ rfl _).1 [] .start matched
  rw [evaluate_eq_ok_iff, evaluate_eq_ok_iff, whole, own, Token.ofText,
    (read_value _ _ words).1 rfl rfl, readOperand_open rfl, ← enclosed]

/-- Neither two negations in front of a condition nor, where its own brackets match, a pair of
brackets around it changes its value, and neither makes a condition readable that is not. -/
theorem evaluate_redundant (flags : FlagSet) (text : Text) (value : Bool)
    (trimmed : Text.trim text = text) :
    (evaluate flags ("!!".toList ++ text) = .ok value ↔ evaluate flags text = .ok value) ∧
    (bracketsBalanced text = true →
      (evaluate flags ("(".toList ++ text ++ ")".toList) = .ok value ↔
        evaluate flags text = .ok value)) := by
  have ends := Text.trimmed_of_trim trimmed
  exact ⟨evaluate_not_not ends, evaluate_enclosed ends⟩

/-- The negations stand in front of the first operand of a disjunction, and the condition has
brackets of its own. -/
theorem evaluate_redundant_disjunction :
    evaluate (FlagSet.ofPairs [("c".toList, true)]) "!!a || (!b) && c".toList = .ok true ∧
    evaluate (FlagSet.ofPairs [("c".toList, true)]) "(a || (!b) && c)".toList = .ok true := by
  have own : evaluate (FlagSet.ofPairs [("c".toList, true)]) "a || (!b) && c".toList =
      .ok true := by decide +kernel
  obtain ⟨negated, enclosed⟩ := evaluate_redundant (FlagSet.ofPairs [("c".toList, true)])
    "a || (!b) && c".toList true (by decide)
  exact ⟨negated.mpr own, (enclosed (by decide)).mpr own⟩

end FilterPrep.Condition
