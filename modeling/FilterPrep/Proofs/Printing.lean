import FilterPrep.Proofs.Blanks
import FilterPrep.Proofs.Grammar

/-!
# Reading what was written

A tree whose flags have proper names is read back from its own text (`ofText_render_of_named`). The
trees that are read from a text are such trees, unless a blank that is not skipped stands in front
of an operand (`proper_iff_blanks`).
-/

namespace FilterPrep.Condition

variable {level : Level} {tokens : List Token} {tree first second : Expr}
  {phrase left right : Phrase}

/-! ### Trees with proper names -/

/-- The phrase is the text of the tree, and wherever an operand can start it is read as the tree in
one piece. -/
structure Phrase.Spells (phrase : Phrase) (tree : Expr) : Prop where
  text : phrase.render = tree.render
  disjunction : ∀ group, (phrase.readIn group).1.disjunction = group.disjunction
  conjunction : ∀ group,
    (phrase.readIn group).1.closeAnd (phrase.readIn group).2 = group.closeAnd tree

namespace Phrase.Spells

theorem close_eq (spells : phrase.Spells tree) (group : Group) :
    (phrase.readIn group).1.close (phrase.readIn group).2 = group.close tree := by
  rw [Group.close, spells.disjunction, spells.conjunction, Group.close]

theorem name {leaf : Name} (text : leaf.text = tree.render)
    (named : Expr.ofName leaf.text = tree) : (Phrase.name leaf).Spells tree := by
  refine ⟨text, fun group => rfl, fun group => ?_⟩
  rw [readIn, named]

theorem not (spells : phrase.Spells tree) : phrase.not.Spells tree.not := by
  refine ⟨congrArg ('!' :: ·) spells.text, fun group => spells.disjunction group.negate, ?_⟩
  intro group
  rw [← group.closeAnd_negate]
  exact spells.conjunction group.negate

theorem group (text : phrase.group.render = tree.render) (inner : phrase.tree = tree) :
    phrase.group.Spells tree := by
  refine ⟨text, fun group => rfl, fun group => ?_⟩
  rw [readIn]
  exact congrArg group.closeAnd inner

theorem and (before : left.Spells first) (behind : right.Spells second) :
    (left.and right).group.Spells (first.and second) := by
  apply group
  · simp [render, Expr.render, before.text, behind.text]
  · have onLeft := before.conjunction .start
    have outside := before.disjunction .start
    rw [tree, readIn, behind.close_eq, Group.thenAnd, onLeft, outside]
    rfl

theorem or (before : left.Spells first) (behind : right.Spells second) :
    (left.or right).group.Spells (first.or second) := by
  apply group
  · simp [render, Expr.render, before.text, behind.text]
  · have onLeft := before.close_eq .start
    rw [tree, readIn, behind.close_eq, Group.thenOr, onLeft]
    rfl

theorem ofText_render (spells : phrase.Spells tree) : Expr.ofText tree.render = .ok tree := by
  rw [← spells.text, Condition.ofText_render, Phrase.tree, spells.close_eq]
  rfl

end Phrase.Spells

theorem exists_truth_name : ∃ leaf : Name, leaf.text = "true".toList :=
  ⟨⟨"true".toList, by decide, by decide, by decide, by decide, by decide, by decide, by decide⟩, rfl⟩

theorem exists_spells (tree : Expr)
    (named : ∀ name ∈ tree.flags, (∃ leaf : Name, leaf.text = name) ∧ name ≠ "true".toList) :
    ∃ phrase : Phrase, phrase.Spells tree := by
  induction tree with
  | truth =>
    obtain ⟨leaf, text⟩ := exists_truth_name
    exact ⟨.name leaf, .name text (by rw [text]; rfl)⟩
  | flag name =>
    obtain ⟨⟨leaf, text⟩, notTrue⟩ := named name List.mem_cons_self
    refine ⟨.name leaf, .name text ?_⟩
    rw [text]
    exact if_neg notTrue
  | not operand ih =>
    obtain ⟨phrase, spells⟩ := ih named
    exact ⟨phrase.not, spells.not⟩
  | and left right ihLeft ihRight =>
    obtain ⟨onLeft, onRight⟩ := List.forall_mem_append.mp named
    obtain ⟨first, before⟩ := ihLeft onLeft
    obtain ⟨second, behind⟩ := ihRight onRight
    exact ⟨(first.and second).group, before.and behind⟩
  | or left right ihLeft ihRight =>
    obtain ⟨onLeft, onRight⟩ := List.forall_mem_append.mp named
    obtain ⟨first, before⟩ := ihLeft onLeft
    obtain ⟨second, behind⟩ := ihRight onRight
    exact ⟨(first.or second).group, before.or behind⟩

/-- Reading undoes writing, for every tree whose flags have names that are read as names and not as
the constant. -/
theorem ofText_render_of_named (tree : Expr)
    (named : ∀ name ∈ tree.flags, (∃ leaf : Name, leaf.text = name) ∧ name ≠ "true".toList) :
    Expr.ofText tree.render = .ok tree := by
  obtain ⟨phrase, spells⟩ := exists_spells tree named
  exact spells.ofText_render

/-- Names that start or end like an operator, next to operators. -/
theorem ofText_render_of_named_marks :
    (∀ name ∈ (Expr.or (.and (.flag "a&".toList) (.not (.flag "|b !c".toList))) .truth).flags,
      (∃ leaf : Name, leaf.text = name) ∧ name ≠ "true".toList) ∧
    Expr.ofText (Expr.or (.and (.flag "a&".toList) (.not (.flag "|b !c".toList))) .truth).render =
      .ok (.or (.and (.flag "a&".toList) (.not (.flag "|b !c".toList))) .truth) := by
  have named : ∀ name ∈ (Expr.or (.and (.flag "a&".toList) (.not (.flag "|b !c".toList)))
      .truth).flags, (∃ leaf : Name, leaf.text = name) ∧ name ≠ "true".toList := by
    intro name member
    rcases List.mem_cons.mp member with rfl | later
    · exact ⟨⟨⟨"a&".toList, by decide, by decide, by decide, by decide, by decide, by decide,
        by decide⟩, rfl⟩, by decide⟩
    · obtain rfl := List.mem_singleton.mp later
      exact ⟨⟨⟨"|b !c".toList, by decide, by decide, by decide, by decide, by decide, by decide,
        by decide⟩, rfl⟩, by decide⟩
  exact ⟨named, ofText_render_of_named _ named⟩

/-! ### Trees that were read -/

theorem Derives.placed (derives : Derives level tokens tree) (rest : List Token) :
    Token.Placed true ((tokens ++ rest).map Token.kind) ↔
      Token.Placed false (rest.map Token.kind) := by
  induction derives generalizing rest with
  | conjunct single ih | factor single ih | bare single ih => exact ih rest
  | or isOperator before behind ihBefore ihBehind
  | and isOperator before behind ihBefore ihBehind =>
    rw [List.append_assoc, ihBefore, List.cons_append, List.map_cons, isOperator, Token.Placed]
    simp only [Token.Kind.opens, ihBehind]
    simp
  | not isNot negated ih =>
    rw [List.cons_append, List.map_cons, isNot, Token.Placed]
    simp only [Token.Kind.opens, ih]
    simp
  | name isName =>
    rw [List.cons_append, List.map_cons, isName, Token.Placed]
    simp [Token.Kind.opens]
  | group isOpen isClose inner ih =>
    rw [List.cons_append, List.map_cons, isOpen, Token.Placed, List.append_assoc]
    simp only [Token.Kind.opens, ih, List.singleton_append, List.map_cons, isClose, Token.Placed]
    simp

theorem mem_flags_ofName {name text : Text} :
    name ∈ (Expr.ofName text).flags ↔ name ≠ "true".toList ∧ text = name := by
  unfold Expr.ofName
  split
  · next same =>
    simp only [Expr.flags, List.not_mem_nil, false_iff]
    rintro ⟨notTrue, rfl⟩
    exact notTrue same
  · next notTrue =>
    simp only [Expr.flags, List.mem_singleton]
    constructor
    · rintro rfl
      exact ⟨notTrue, rfl⟩
    · rintro ⟨-, rfl⟩
      rfl

/-- The flags of a tree are the names among its tokens. -/
theorem Derives.mem_flags_iff (derives : Derives level tokens tree) (name : Text) :
    name ∈ tree.flags ↔
      name ≠ "true".toList ∧ ∃ token ∈ tokens, token.kind = .name ∧ token.text = name := by
  induction derives with
  | conjunct single ih | factor single ih | bare single ih => exact ih
  | or isOperator before behind ihBefore ihBehind
  | and isOperator before behind ihBefore ihBehind =>
    rw [Expr.flags, List.mem_append, ihBefore, ihBehind]
    simp [isOperator, or_and_right, exists_or, and_or_left]
  | not isNot negated ih =>
    rw [Expr.flags, ih]
    simp [isNot]
  | name isName => simp [mem_flags_ofName, isName]
  | group isOpen isClose inner ih =>
    rw [ih]
    simp [isOpen, isClose]

/-- Every flag of the tree has a proper name, and the tree is read back from its own text. -/
def Expr.Proper (tree : Expr) : Prop :=
  (∀ name ∈ tree.flags, ∃ leaf : Name, leaf.text = name) ∧ Expr.ofText tree.render = .ok tree

theorem Derives.name_of_mem_flags {text name : Text}
    (derives : Derives level (Token.ofText text) tree) (member : name ∈ tree.flags) :
    name ≠ "true".toList ∧ Text.trim name = name ∧ Unbroken name := by
  obtain ⟨notTrue, token, scanned, isName, rfl⟩ := (derives.mem_flags_iff name).mp member
  exact ⟨notTrue, Token.name_of_mem_scan scanned isName⟩

theorem exists_name_of_bare {text : Text} (bare : Token.Bare text) (trimmed : Text.trim text = text)
    (unbroken : Unbroken text) : ∃ leaf : Name, leaf.text = text :=
  ⟨⟨text, bare.1, trimmed, bare.2, unbroken.noOpen, unbroken.noClose,
    (contains_pair '&' text).mpr unbroken.noAnd, (contains_pair '|' text).mpr unbroken.noOr⟩, rfl⟩

theorem proper_iff_bare {text : Text} (derives : Derives level (Token.ofText text) tree) :
    tree.Proper ↔
      ∀ token ∈ Token.ofText text, token.kind = .name → Token.Bare token.text := by
  constructor
  · rintro ⟨named, -⟩ token scanned isName
    -- the constant is not among the flags
    by_cases truth : token.text = "true".toList
    · rw [truth, Token.Bare]
      decide
    · obtain ⟨leaf, text⟩ :=
        named token.text ((derives.mem_flags_iff _).mpr ⟨truth, token, scanned, isName, rfl⟩)
      rw [← text]
      exact ⟨leaf.nonempty, leaf.notNegated⟩
  · intro bare
    have named : ∀ name ∈ tree.flags, ∃ leaf : Name, leaf.text = name := by
      intro name member
      obtain ⟨-, trimmed, unbroken⟩ := derives.name_of_mem_flags member
      obtain ⟨-, token, scanned, isName, rfl⟩ := (derives.mem_flags_iff name).mp member
      exact exists_name_of_bare (bare token scanned isName) trimmed unbroken
    obtain ⟨phrase, spells⟩ := exists_spells tree fun name member =>
      ⟨named name member, (derives.name_of_mem_flags member).1⟩
    exact ⟨named, spells.ofText_render⟩

/-- A tree that was read has trimmed names without brackets and operators in them. All of it is
proper exactly if the blanks of the condition could be spaces; so it is when they are among those
that are skipped between tokens. -/
theorem proper_iff_blanks (text : Text) (tree : Expr) (read : Expr.ofText text = .ok tree) :
    (∀ name ∈ tree.flags, Text.trim name = name ∧ '(' ∉ name ∧ ')' ∉ name ∧
      Text.contains "&&".toList name = false ∧ Text.contains "||".toList name = false) ∧
    (tree.Proper ↔ (Token.ofText (Text.trim text)).map Token.kind =
      (Token.ofText (plainBlanks (Text.trim text))).map Token.kind) ∧
    ((∀ c ∈ Text.trim text, Text.isSpace c = true → Text.isAsciiSpace c = true) →
      tree.Proper) := by
  have derives := (ofText_ok_iff text tree).mp read
  have placed : Token.Placed true ((Token.ofText (Text.trim text)).map Token.kind) := by
    have everywhere := (derives.placed []).mpr trivial
    rwa [List.append_nil] at everywhere
  have proper := proper_iff_bare derives
  refine ⟨?_, proper.trans (Token.bare_iff_kinds_eq true 0 _ placed), ?_⟩
  · intro name member
    obtain ⟨-, trimmed, unbroken⟩ := derives.name_of_mem_flags member
    exact ⟨trimmed, unbroken.noOpen, unbroken.noClose,
      (contains_pair '&' name).mpr unbroken.noAnd, (contains_pair '|' name).mpr unbroken.noOr⟩
  · intro ascii
    exact proper.mpr (Token.bare_of_ascii placed ascii)

/-- Blanks of any kind may stand inside and behind a name. -/
theorem proper_iff_blanks_inner :
    Expr.ofText "(a\u00A0b\u2003) && !c".toList =
      .ok (.and (.flag "a\u00A0b".toList) (.not (.flag "c".toList))) ∧
    (Expr.and (.flag "a\u00A0b".toList) (.not (.flag "c".toList))).Proper := by
  have read : Expr.ofText "(a\u00A0b\u2003) && !c".toList =
      .ok (.and (.flag "a\u00A0b".toList) (.not (.flag "c".toList))) := by decide +kernel
  obtain ⟨-, proper, -⟩ := proper_iff_blanks _ _ read
  exact ⟨read, proper.mpr (by decide +kernel)⟩

/-- A vertical tab alone is an operand without a name, and a `!` behind a no-break space is not
taken for a negation. -/
theorem not_proper_behind_blank :
    Expr.ofText "(\x0B)".toList = .ok (.flag []) ∧ ¬(Expr.flag []).Proper ∧
    Expr.ofText (Expr.flag []).render = .error .emptyCondition ∧
    Expr.ofText "a && \u00A0!b".toList = .ok (.and (.flag "a".toList) (.flag "!b".toList)) ∧
    ¬(Expr.and (.flag "a".toList) (.flag "!b".toList)).Proper ∧
    Expr.ofText (Expr.and (.flag "a".toList) (.flag "!b".toList)).render =
      .ok (.and (.flag "a".toList) (.not (.flag "b".toList))) := by
  refine ⟨by decide +kernel, ?_, by decide +kernel, by decide +kernel, ?_, by decide +kernel⟩
  · rintro ⟨named, -⟩
    obtain ⟨leaf, text⟩ := named [] List.mem_cons_self
    exact leaf.nonempty text
  · rintro ⟨named, -⟩
    obtain ⟨leaf, text⟩ := named "!b".toList (by decide)
    exact leaf.notNegated (by rw [text]; rfl)

end FilterPrep.Condition
