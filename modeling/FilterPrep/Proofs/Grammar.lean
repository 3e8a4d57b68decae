import FilterPrep.Proofs.Tokens

/-!
# The grammar of conditions

Which trees the tokens of a condition stand for, said without the reader: a disjunction of
conjunctions of negated operands, chains grouped to the left. `ofText_ok_iff_derives` shows that a
condition is read exactly if its tokens derive a tree, that this is the tree read, and that no list
of tokens derives two.
-/

namespace FilterPrep.Condition

/-- The places of the grammar, from the loosest to the closest. -/
inductive Level where
  | disjunction
  | conjunction
  | negation
  | operand

/-- The tokens stand for the tree at a place of the grammar. -/
inductive Derives : Level → List Token → Expr → Prop where
  | conjunct {tokens tree} (single : Derives .conjunction tokens tree) :
      Derives .disjunction tokens tree
  | or {token left right first last} (isOr : token.kind = .or)
      (before : Derives .disjunction left first) (behind : Derives .conjunction right last) :
      Derives .disjunction (left ++ token :: right) (first.or last)
  | factor {tokens tree} (single : Derives .negation tokens tree) :
      Derives .conjunction tokens tree
  | and {token left right first last} (isAnd : token.kind = .and)
      (before : Derives .conjunction left first) (behind : Derives .negation right last) :
      Derives .conjunction (left ++ token :: right) (first.and last)
  | not {token tokens tree} (isNot : token.kind = .not) (negated : Derives .negation tokens tree) :
      Derives .negation (token :: tokens) tree.not
  | bare {tokens tree} (single : Derives .operand tokens tree) : Derives .negation tokens tree
  | name {token} (isName : token.kind = .name) :
      Derives .operand [token] (Expr.ofName token.text)
  | group {opening closing tokens tree} (isOpen : opening.kind = .openBracket)
      (isClose : closing.kind = .closeBracket) (inner : Derives .disjunction tokens tree) :
      Derives .operand (opening :: (tokens ++ [closing])) tree

variable {condition : Text} {outer : List Group} {group : Group} {level : Level}
  {tokens rest : List Token} {tree last : Expr}

/-! ### One step of the reader -/

variable {token : Token}

theorem readOperand_name (isName : token.kind = .name) :
    readOperand condition outer group (token :: tokens) =
      readOperator condition outer group (Expr.ofName token.text) tokens := by
  rw [readOperand, isName]

theorem readOperand_open (isOpen : token.kind = .openBracket) :
    readOperand condition outer group (token :: tokens) =
      readOperand condition (group :: outer) .start tokens := by
  rw [readOperand, isOpen]

theorem readOperand_not (isNot : token.kind = .not) :
    readOperand condition outer group (token :: tokens) =
      readOperand condition outer group.negate tokens := by
  rw [readOperand, isNot]

theorem readOperator_and (isAnd : token.kind = .and) :
    readOperator condition outer group last (token :: tokens) =
      readOperand condition outer (group.thenAnd last) tokens := by
  simp only [readOperator, isAnd]

theorem readOperator_or (isOr : token.kind = .or) :
    readOperator condition outer group last (token :: tokens) =
      readOperand condition outer (group.thenOr last) tokens := by
  simp only [readOperator, isOr]

theorem readOperator_close {around : Group} (isClose : token.kind = .closeBracket) :
    readOperator condition (around :: outer) group last (token :: tokens) =
      readOperator condition outer around (group.close last) tokens := by
  simp only [readOperator, isClose]

/-! ### What is derived is read -/

namespace Group

theorem repeat_not_not (n : Nat) (operand : Expr) :
    Nat.repeat Expr.not n operand.not = (Nat.repeat Expr.not n operand).not := by
  induction n with
  | zero => rfl
  | succ n ih => exact congrArg Expr.not ih

theorem closeAnd_negate (group : Group) (last : Expr) :
    group.negate.closeAnd last = group.closeAnd last.not := by
  simp only [closeAnd, repeat_not_not]
  rfl

end Group

/-- Behind an operand only the trees that it completes count, and that of the conjunction only in
front of an `&&`. -/
theorem readOperator_congr {other : Group} {final : Expr}
    (whole : group.close last = other.close final)
    (thenAnd : (∃ token ∈ rest.head?, token.kind = .and) →
      group.thenAnd last = other.thenAnd final) :
    readOperator condition outer group last rest =
      readOperator condition outer other final rest := by
  have thenOr : group.thenOr last = other.thenOr final := by
    rw [Group.thenOr, Group.thenOr, whole]
  cases rest with
  | nil => rw [readOperator, readOperator, whole]
  | cons token rest =>
    simp only [readOperator, whole, thenOr]
    cases kind : token.kind with
    | and => rw [thenAnd ⟨token, rfl, kind⟩]
    | closeBracket => cases outer <;> rfl
    | or | not | openBracket | name => rfl

/-- Where the reader has to stand to find a tree of the level as a whole: nothing in front of it
may bind its first operand. -/
def Level.Starts : Level → Group → Prop
  | disjunction, group => group = .start
  | conjunction, group => group.conjunction = none ∧ group.negations = 0
  | negation, _ => True
  | operand, _ => True

/-- What may stand behind a tree of the level: an `&&` would take the last operand of a disjunction
away from it. -/
def Level.Ends : Level → List Token → Prop
  | disjunction, rest => ∀ token ∈ rest.head?, token.kind ≠ .and
  | conjunction, _ => True
  | negation, _ => True
  | operand, _ => True

theorem Derives.read (derives : Derives level tokens tree) (starts : level.Starts group)
    (ends : level.Ends rest) :
    readOperand condition outer group (tokens ++ rest) =
      readOperator condition outer group tree rest := by
  induction derives generalizing outer group rest with
  | conjunct single ih =>
    obtain rfl := starts
    exact ih ⟨rfl, rfl⟩ trivial
  | or isOr before behind ihBefore ihBehind =>
    obtain rfl := starts
    rw [List.append_assoc, List.cons_append, ihBefore rfl (by simp [Level.Ends, isOr]),
      readOperator_or isOr, ihBehind ⟨rfl, rfl⟩ trivial]
    refine readOperator_congr rfl ?_
    rintro ⟨token, next, isAnd⟩
    exact absurd isAnd (ends token next)
  | factor single ih => exact ih trivial trivial
  | and isAnd before behind ihBefore ihBehind =>
    rw [List.append_assoc, List.cons_append, ihBefore starts trivial, readOperator_and isAnd,
      ihBehind trivial trivial]
    -- the tree in front is all of the conjunction so far, so the next operand joins exactly it
    obtain ⟨disjunction, conjunction, negations⟩ := group
    obtain ⟨rfl, rfl⟩ := starts
    exact readOperator_congr rfl fun _ => rfl
  | @not token tokens tree isNot negated ih =>
    have conjunction := group.closeAnd_negate tree
    rw [List.cons_append, readOperand_not isNot, ih trivial trivial]
    apply readOperator_congr
    · rw [Group.close, conjunction]
      rfl
    · intro _
      rw [Group.thenAnd, conjunction]
      rfl
  | bare single ih => exact ih trivial trivial
  | name isName => exact readOperand_name isName
  | group isOpen isClose inner ih =>
    rw [List.cons_append, List.append_assoc, readOperand_open isOpen,
      ih rfl (by simp [Level.Ends, isClose]), List.singleton_append, readOperator_close isClose]
    rfl

theorem readOperand_of_derives (derives : Derives .disjunction tokens tree) (condition : Text) :
    readOperand condition [] .start tokens = .ok tree := by
  have read : readOperand condition [] .start (tokens ++ []) =
      readOperator condition [] .start tree [] := derives.read rfl (by simp [Level.Ends])
  rw [List.append_nil] at read
  rw [read, readOperator]
  rfl

/-- No list of tokens stands for two trees, because the reader finds both. -/
theorem Derives.unique {first second : Expr} (isFirst : Derives .disjunction tokens first)
    (isSecond : Derives .disjunction tokens second) : first = second := by
  have readFirst := readOperand_of_derives isFirst []
  have readSecond := readOperand_of_derives isSecond []
  exact Except.ok.inj (readFirst.symm.trans readSecond)

/-! ### What is read is derived -/

/-- The tokens read of a group so far: those of its disjunction, and behind them those of its
conjunction and negations. Whatever comes next completes them. -/
structure Group.Reads (group : Group) (front middle : List Token) : Prop where
  disjunction : ∀ {tokens tree}, Derives .conjunction tokens tree →
    Derives .disjunction (front ++ tokens) (Group.close ⟨group.disjunction, none, 0⟩ tree)
  conjunction : ∀ {tokens tree}, Derives .negation tokens tree →
    Derives .conjunction (middle ++ tokens) (group.closeAnd tree)

namespace Group.Reads

variable {front middle operand : List Token}

theorem start : Group.Reads .start [] [] := ⟨.conjunct, .factor⟩

theorem negate (reads : group.Reads front middle) (isNot : token.kind = .not) :
    group.negate.Reads front (middle ++ [token]) := by
  refine ⟨reads.disjunction, ?_⟩
  intro tokens tree derives
  rw [Group.closeAnd_negate, List.append_assoc]
  exact reads.conjunction (.not isNot derives)

theorem thenAnd (reads : group.Reads front middle) (derives : Derives .operand operand last)
    (isAnd : token.kind = .and) :
    (group.thenAnd last).Reads front (middle ++ operand ++ [token]) := by
  refine ⟨reads.disjunction, ?_⟩
  intro tokens tree behind
  rw [List.append_assoc]
  exact .and isAnd (reads.conjunction (.bare derives)) behind

theorem close (reads : group.Reads front middle) (derives : Derives .operand operand last) :
    Derives .disjunction (front ++ (middle ++ operand)) (group.close last) :=
  reads.disjunction (reads.conjunction (.bare derives))

theorem thenOr (reads : group.Reads front middle) (derives : Derives .operand operand last)
    (isOr : token.kind = .or) :
    (group.thenOr last).Reads (front ++ (middle ++ operand) ++ [token]) [] := by
  refine ⟨?_, .factor⟩
  intro tokens tree behind
  rw [List.append_assoc]
  exact .or isOr (reads.close derives) behind

end Group.Reads

/-- The tokens read in front of the group that the reader is in, up to its opening bracket. -/
inductive Enclosed : List Group → List Token → Prop where
  | outside : Enclosed [] []
  | inside {around outer before front middle} {opening : Token} (enclosed : Enclosed outer before)
      (reads : around.Reads front middle) (isOpen : opening.kind = .openBracket) :
      Enclosed (around :: outer) (before ++ (front ++ (middle ++ [opening])))

theorem derives_of_read (tokens : List Token) :
    (∀ {outer group before front middle}, Enclosed outer before → group.Reads front middle →
      readOperand condition outer group tokens = .ok tree →
        Derives .disjunction (before ++ (front ++ (middle ++ tokens))) tree) ∧
    (∀ {outer group before front middle operand last}, Enclosed outer before →
      group.Reads front middle → Derives .operand operand last →
      readOperator condition outer group last tokens = .ok tree →
        Derives .disjunction (before ++ (front ++ (middle ++ (operand ++ tokens)))) tree) := by
  -- both at once: at every token one of them hands the rest over to the other
  induction tokens with
  | nil =>
    constructor
    · intro outer group before front middle enclosed reads read
      cases read
    · intro outer group before front middle operand last enclosed reads derives read
      rw [readOperator] at read
      cases enclosed with
      | outside =>
        obtain rfl := Except.ok.inj read
        rw [List.append_nil]
        exact reads.close derives
      | inside enclosed around isOpen => cases read
  | cons token tokens ih =>
    constructor
    · intro outer group before front middle enclosed reads read
      cases kind : token.kind with
      | name =>
        rw [readOperand_name kind] at read
        exact ih.2 enclosed reads (.name kind) read
      | openBracket =>
        rw [readOperand_open kind] at read
        have derives := ih.1 (.inside enclosed reads kind) .start read
        simpa using derives
      | not =>
        rw [readOperand_not kind] at read
        have derives := ih.1 enclosed (reads.negate kind) read
        simpa using derives
      | and | or | closeBracket =>
        rw [readOperand, kind] at read
        cases read
    · intro outer group before front middle operand last enclosed reads derives read
      cases kind : token.kind with
      | and =>
        rw [readOperator_and kind] at read
        have whole := ih.1 enclosed (reads.thenAnd derives kind) read
        simpa using whole
      | or =>
        rw [readOperator_or kind] at read
        have whole := ih.1 enclosed (reads.thenOr derives kind) read
        simpa using whole
      | closeBracket =>
        cases enclosed with
        | outside => simp [readOperator, kind] at read
        | inside enclosed around isOpen =>
          rw [readOperator_close kind] at read
          have whole := ih.2 enclosed around (.group isOpen kind (reads.close derives)) read
          simpa using whole
      | not | openBracket | name => simp [readOperator, kind] at read

theorem derives_of_readOperand (read : readOperand condition [] .start tokens = .ok tree) :
    Derives .disjunction tokens tree :=
  (derives_of_read tokens).1 .outside .start read

/-! ### The bracket check -/

theorem Derives.balanced (derives : Derives level tokens tree) (depth : Nat) (rest : Text) :
    balancedFrom depth (tokens.filterMap Token.bracket? ++ rest) = balancedFrom depth rest := by
  induction derives generalizing depth rest with
  | conjunct single ih | factor single ih | bare single ih => exact ih depth rest
  | or isOperator before behind ihBefore ihBehind | and isOperator before behind ihBefore ihBehind =>
    rw [List.filterMap_append, List.filterMap_cons_none (by rw [Token.bracket?, isOperator]),
      List.append_assoc, ihBefore, ihBehind]
  | not isNot negated ih =>
    rw [List.filterMap_cons_none (by rw [Token.bracket?, isNot]), ih]
  | name isName => rw [List.filterMap_cons_none (by rw [Token.bracket?, isName])]; rfl
  | group isOpen isClose inner ih =>
    rw [List.filterMap_cons_some (by rw [Token.bracket?, isOpen]), List.filterMap_append,
      List.filterMap_cons_some (by rw [Token.bracket?, isClose]), List.filterMap_nil,
      List.cons_append, List.append_assoc, balancedFrom, ih, List.singleton_append,
      balancedFrom]

theorem bracketsBalanced_of_derives {text : Text}
    (derives : Derives .disjunction (Token.ofText text) tree) : bracketsBalanced text = true := by
  have balanced := derives.balanced 0 []
  rw [List.append_nil, Token.ofText, Token.brackets_scan, Token.balancedFrom_filter] at balanced
  exact balanced

theorem Derives.ne_nil (derives : Derives level tokens tree) : tokens ≠ [] := by
  induction derives with
  | conjunct single ih | factor single ih | bare single ih => exact ih
  | or | and => simp
  | not | name | group => exact List.cons_ne_nil _ _

theorem ofText_ok_iff (text : Text) (tree : Expr) :
    Expr.ofText text = .ok tree ↔ Derives .disjunction (Token.ofText (Text.trim text)) tree := by
  constructor
  · intro read
    unfold Expr.ofText at read
    dsimp only at read
    split at read
    · cases read
    · split at read
      · cases read
      · exact derives_of_readOperand read
  · intro derives
    have nonempty : Text.trim text ≠ [] := by
      intro empty
      rw [empty, Token.ofText, Token.scan] at derives
      exact derives.ne_nil rfl
    have balanced := bracketsBalanced_of_derives derives
    rw [Expr.ofText, if_neg (by simpa using nonempty), if_neg (by simp [balanced])]
    exact readOperand_of_derives derives _

/-- A condition is read exactly if its tokens derive a tree, and this is the tree that is read: the
check of its brackets rejects none of them. No tokens derive two trees. -/
theorem ofText_ok_iff_derives :
    (∀ text tree, Expr.ofText text = .ok tree ↔
      Derives .disjunction (Token.ofText (Text.trim text)) tree) ∧
    (∀ text tree, Derives .disjunction (Token.ofText (Text.trim text)) tree →
      bracketsBalanced (Text.trim text) = true) ∧
    ∀ tokens first second, Derives .disjunction tokens first → Derives .disjunction tokens second →
      first = second :=
  ⟨ofText_ok_iff, fun _ _ derives => bracketsBalanced_of_derives derives,
    fun _ _ _ isFirst isSecond => isFirst.unique isSecond⟩

/-- A negation inside a group, and `&&` before `||`. -/
theorem ofText_ok_iff_derives_mixed :
    Expr.ofText "a || b && (!c)".toList =
      .ok (.or (.flag "a".toList) (.and (.flag "b".toList) (.not (.flag "c".toList)))) ∧
    Derives .disjunction (Token.ofText (Text.trim "a || b && (!c)".toList))
      (.or (.flag "a".toList) (.and (.flag "b".toList) (.not (.flag "c".toList)))) ∧
    bracketsBalanced (Text.trim "a || b && (!c)".toList) = true := by
  obtain ⟨reads, balanced, -⟩ := ofText_ok_iff_derives
  have read : Expr.ofText "a || b && (!c)".toList =
      .ok (.or (.flag "a".toList) (.and (.flag "b".toList) (.not (.flag "c".toList)))) := by
    decide +kernel
  have derives := (reads _ _).mp read
  exact ⟨read, derives, balanced _ _ derives⟩

end FilterPrep.Condition
