import FilterPrep.Condition.Parser
import FilterPrep.Proofs.Text

/-!
# Written conditions

A phrase is a condition as it is written down: names, negations, brackets, and operators with one
space on each side. Its shape need not be the shape of the tree that is read from it, because `!`
binds only the next operand and `&&` binds closer than `||`. `readIn` follows the reader through a
phrase, `evaluate_render` says that every phrase is read and what its value is.
-/

namespace FilterPrep.Condition

/-! ### Pairs of equal characters -/

/-- The character `mark` twice in a row occurs nowhere in the text. -/
def Unpaired (mark : Char) : Text → Prop
  | [] => True
  | c :: t => (c = mark → t.head? ≠ some mark) ∧ Unpaired mark t

theorem unpaired_append {mark : Char} {first second : Text} (before : Unpaired mark first)
    (behind : Unpaired mark second)
    (apart : first.getLast? = some mark → second.head? ≠ some mark) :
    Unpaired mark (first ++ second) := by
  induction first with
  | nil => exact behind
  | cons c first ih =>
    cases first with
    | nil => exact ⟨fun same => apart (by rw [same]; rfl), behind⟩
    | cons d first => exact ⟨before.1, ih before.2 (by simpa using apart)⟩

theorem unpaired_of_append {mark : Char} {first second : Text}
    (whole : Unpaired mark (first ++ second)) : Unpaired mark first ∧ Unpaired mark second := by
  induction first with
  | nil => exact ⟨trivial, whole⟩
  | cons c first ih =>
    obtain ⟨before, behind⟩ := ih whole.2
    refine ⟨⟨fun same next => whole.1 same ?_, before⟩, behind⟩
    change (first ++ second).head? = some mark
    rw [List.head?_append, next]
    rfl

theorem unpaired_of_not_mem {mark : Char} {t : Text} (absent : mark ∉ t) : Unpaired mark t := by
  induction t with
  | nil => trivial
  | cons c t ih =>
    exact ⟨fun same => absurd same.symm (List.ne_of_not_mem_cons absent),
      ih (List.not_mem_of_not_mem_cons absent)⟩

theorem contains_pair (mark : Char) (t : Text) :
    Text.contains [mark, mark] t = false ↔ Unpaired mark t := by
  induction t with
  | nil => simp [Text.contains, Text.startsWith, Text.after?, Unpaired]
  | cons c t ih =>
    rw [Text.contains, Bool.or_eq_false_iff, ih, Unpaired]
    refine and_congr_left fun _ => ?_
    cases t with
    | nil => simp [Text.startsWith, Text.after?]
    | cons d t =>
      by_cases first : mark = c
      · by_cases second : mark = d
        · simp [Text.startsWith, Text.after?, ← first, ← second]
        · simp [Text.startsWith, Text.after?, ← first, second, Ne.symm second]
      · simp [Text.startsWith, Text.after?, first, Ne.symm first]

/-! ### Names and phrases -/

/-- A text that is read as one name wherever an operand can start. -/
structure Name where
  text : Text
  nonempty : text ≠ []
  trimmed : Text.trim text = text
  notNegated : text.head? ≠ some '!'
  noOpen : '(' ∉ text
  noClose : ')' ∉ text
  noAnd : Text.contains "&&".toList text = false
  noOr : Text.contains "||".toList text = false

theorem Name.trimmed_text (leaf : Name) : Text.Trimmed Text.isSpace leaf.text :=
  Text.trimmed_of_trim leaf.trimmed

inductive Phrase where
  | name (leaf : Name)
  | not (operand : Phrase)
  | group (inner : Phrase)
  | and (left right : Phrase)
  | or (left right : Phrase)

namespace Phrase

/-- The text of a phrase. No brackets are added. -/
def render : Phrase → Text
  | name leaf => leaf.text
  | not operand => '!' :: operand.render
  | group inner => '(' :: (inner.render ++ [')'])
  | and left right => left.render ++ [' ', '&', '&', ' '] ++ right.render
  | or left right => left.render ++ [' ', '|', '|', ' '] ++ right.render

theorem render_ne_nil (phrase : Phrase) : phrase.render ≠ [] := by
  induction phrase with
  | name leaf => exact leaf.nonempty
  | not operand ih => simp [render]
  | group inner ih => simp [render]
  | and left right ihLeft ihRight => simp [render]
  | or left right ihLeft ihRight => simp [render]

theorem render_trimmed (phrase : Phrase) : Text.Trimmed Text.isSpace phrase.render := by
  induction phrase with
  | name leaf => exact leaf.trimmed_text
  | not operand ih => exact Text.trimmed_cons (by decide) ih
  | group inner ih => exact Text.trimmed_cons (by decide) (Text.trimmed_concat (by decide) ih)
  | and left right ihLeft ihRight =>
    refine ⟨fun c first => ihLeft.1 c ?_, fun c last => ihRight.2 c ?_⟩
    · rwa [render, List.append_assoc, List.head?_append_of_ne_nil _ left.render_ne_nil] at first
    · rwa [render, List.getLast?_append_of_ne_nil _ right.render_ne_nil] at last
  | or left right ihLeft ihRight =>
    refine ⟨fun c first => ihLeft.1 c ?_, fun c last => ihRight.2 c ?_⟩
    · rwa [render, List.append_assoc, List.head?_append_of_ne_nil _ left.render_ne_nil] at first
    · rwa [render, List.getLast?_append_of_ne_nil _ right.render_ne_nil] at last

theorem trim_render (phrase : Phrase) : Text.trim phrase.render = phrase.render :=
  Text.trimBy_of_trimmed phrase.render_trimmed

theorem balancedFrom_of_no_bracket {t : Text} (noOpen : '(' ∉ t) (noClose : ')' ∉ t)
    (depth : Nat) (rest : Text) : balancedFrom depth (t ++ rest) = balancedFrom depth rest := by
  induction t with
  | nil => rfl
  | cons c t ih =>
    have notOpen := List.ne_of_not_mem_cons noOpen
    have notClose := List.ne_of_not_mem_cons noClose
    have below := ih (List.not_mem_of_not_mem_cons noOpen) (List.not_mem_of_not_mem_cons noClose)
    rw [List.cons_append, balancedFrom.eq_def]
    split <;> simp_all

theorem balancedFrom_render (phrase : Phrase) (depth : Nat) (rest : Text) :
    balancedFrom depth (phrase.render ++ rest) = balancedFrom depth rest := by
  induction phrase generalizing depth rest with
  | name leaf => exact balancedFrom_of_no_bracket leaf.noOpen leaf.noClose depth rest
  | not operand ih =>
    rw [render, List.cons_append, ← List.singleton_append,
      balancedFrom_of_no_bracket (by decide) (by decide), ih]
  | group inner ih =>
    rw [render, List.cons_append, List.append_assoc, balancedFrom, ih, List.singleton_append,
      balancedFrom]
  | and left right ihLeft ihRight =>
    rw [render, List.append_assoc, List.append_assoc, ihLeft,
      balancedFrom_of_no_bracket (by decide) (by decide), ihRight]
  | or left right ihLeft ihRight =>
    rw [render, List.append_assoc, List.append_assoc, ihLeft,
      balancedFrom_of_no_bracket (by decide) (by decide), ihRight]

theorem bracketsBalanced_render (phrase : Phrase) : bracketsBalanced phrase.render = true := by
  have closed := phrase.balancedFrom_render 0 []
  rwa [List.append_nil] at closed

/-! ### Reading a phrase -/

/-- What the reader holds behind a phrase that it met inside `group`: the group up to the last
operand, and that operand. -/
def readIn (group : Group) : Phrase → Group × Expr
  | name leaf => (group, Expr.ofName leaf.text)
  | not operand => operand.readIn group.negate
  | .group inner => (group, (inner.readIn .start).1.close (inner.readIn .start).2)
  | and left right => right.readIn ((left.readIn group).1.thenAnd (left.readIn group).2)
  | or left right => right.readIn ((left.readIn group).1.thenOr (left.readIn group).2)

def tree (phrase : Phrase) : Expr := (phrase.readIn .start).1.close (phrase.readIn .start).2

end Phrase

/-- What can follow a phrase: nothing, the end of its group, or an operator behind a space. -/
inductive Boundary : Text → Prop where
  | done : Boundary []
  | close (t : Text) : Boundary (')' :: t)
  | and (t : Text) : Boundary (' ' :: '&' :: '&' :: t)
  | or (t : Text) : Boundary (' ' :: '|' :: '|' :: t)

namespace Token

theorem endsName_eq_false {c : Char} {t : Text} (notOpen : c ≠ '(') (notClose : c ≠ ')')
    (notAnd : c = '&' → t.head? ≠ some '&') (notOr : c = '|' → t.head? ≠ some '|') :
    endsName (c :: t) = false := by
  unfold endsName
  split <;> simp_all

theorem scan_name {operand : Bool} {c : Char} {t : Text} (offset : Nat)
    (goesOn : endsName (c :: t) = false) (notSpace : Text.isAsciiSpace c = false)
    (notNot : (operand && c == '!') = false) :
    scan operand offset (c :: t) =
      ofName (c :: (nameSpan t).1) offset ::
        scan false (offset + Text.byteLength (c :: (nameSpan t).1)) (nameSpan t).2 := by
  have notOpen : c ≠ '(' := by
    rintro rfl
    simp [endsName] at goesOn
  have notClose : c ≠ ')' := by
    rintro rfl
    simp [endsName] at goesOn
  have notAnd : ∀ u, c = '&' → t ≠ '&' :: u := by
    rintro u rfl rfl
    simp [endsName] at goesOn
  have notOr : ∀ u, c = '|' → t ≠ '|' :: u := by
    rintro u rfl rfl
    simp [endsName] at goesOn
  rw [scan.eq_6 operand offset c t notOpen notClose notAnd notOr, notSpace, notNot,
    if_neg Bool.false_ne_true, if_neg Bool.false_ne_true]

theorem scan_space (operand : Bool) (offset : Nat) (t : Text) :
    scan operand offset (' ' :: t) = scan operand (offset + 1) t := by
  rw [scan.eq_6 operand offset ' ' t (by decide) (by decide) (fun _ same => absurd same (by decide))
    (fun _ same => absurd same (by decide))]
  rfl

theorem scan_not (offset : Nat) (t : Text) :
    scan true offset ('!' :: t) = ⟨.not, ['!'], offset⟩ :: scan true (offset + 1) t := by
  rw [scan.eq_6 true offset '!' t (by decide) (by decide) (fun _ same => absurd same (by decide))
    (fun _ same => absurd same (by decide))]
  rfl

/-- A name runs over a text without brackets and doubled operators, up to where it has to end. -/
theorem nameSpan_append_of_endsName {t rest : Text} (noOpen : '(' ∉ t) (noClose : ')' ∉ t)
    (noAnd : Unpaired '&' t) (noOr : Unpaired '|' t) (stops : endsName rest = true)
    (andApart : t.getLast? = some '&' → rest.head? ≠ some '&')
    (orApart : t.getLast? = some '|' → rest.head? ≠ some '|') :
    nameSpan (t ++ rest) = (t, rest) := by
  induction t with
  | nil =>
    cases rest with
    | nil => rfl
    | cons c rest => rw [List.nil_append, nameSpan, if_pos stops]
  | cons c t ih =>
    have goesOn : endsName (c :: (t ++ rest)) = false := by
      apply endsName_eq_false (Ne.symm (List.ne_of_not_mem_cons noOpen))
        (Ne.symm (List.ne_of_not_mem_cons noClose))
      · cases t with
        | nil => exact fun same => andApart (by rw [same]; rfl)
        | cons d t => exact noAnd.1
      · cases t with
        | nil => exact fun same => orApart (by rw [same]; rfl)
        | cons d t => exact noOr.1
    have further := ih (List.not_mem_of_not_mem_cons noOpen) (List.not_mem_of_not_mem_cons noClose)
      noAnd.2 noOr.2
      (fun last => andApart (by rw [List.getLast?_cons, last]; rfl))
      (fun last => orApart (by rw [List.getLast?_cons, last]; rfl))
    rw [List.cons_append, nameSpan, goesOn, if_neg Bool.false_ne_true, further]

theorem endsName_of_nameSpan {c : Char} {t name rest : Text}
    (span : nameSpan (c :: t) = (c :: name, rest)) : endsName (c :: t) = false := by
  cases ends : endsName (c :: t) with
  | false => rfl
  | true =>
    rw [nameSpan, if_pos ends] at span
    cases span

theorem scan_of_nameSpan {operand : Bool} {c : Char} {t name rest : Text}
    (span : nameSpan (c :: t) = (c :: name, rest)) (notSpace : Text.isAsciiSpace c = false)
    (notNot : (operand && c == '!') = false) (offset : Nat) :
    scan operand offset (c :: t) =
      ofName (c :: name) offset :: scan false (offset + Text.byteLength (c :: name)) rest := by
  have goesOn := endsName_of_nameSpan span
  rw [nameSpan, goesOn, if_neg Bool.false_ne_true] at span
  obtain ⟨below, behind⟩ := Prod.mk.inj span
  rw [scan_name offset goesOn notSpace notNot, below, behind]

theorem nameSpan_leaf_spaces (leaf : Name) {pad rest : Text} (spaces : ∀ c ∈ pad, c = ' ')
    (stops : endsName rest = true)
    (apart : pad = [] → rest.head? ≠ some '&' ∧ rest.head? ≠ some '|') :
    nameSpan (leaf.text ++ pad ++ rest) = (leaf.text ++ pad, rest) := by
  have absent : ∀ c, c ≠ ' ' → c ∉ leaf.text → c ∉ leaf.text ++ pad := by
    intro c notSpace notInLeaf member
    rcases List.mem_append.mp member with inLeaf | inPad
    · exact notInLeaf inLeaf
    · exact notSpace (spaces c inPad)
  have unpaired : ∀ mark, mark ≠ ' ' → Unpaired mark leaf.text →
      Unpaired mark (leaf.text ++ pad) := by
    intro mark notSpace inLeaf
    apply unpaired_append inLeaf
    · exact unpaired_of_not_mem fun member => notSpace (spaces mark member)
    · intro _ first
      exact notSpace (spaces mark (List.mem_of_mem_head? first))
  have apartFrom : ∀ mark, mark ≠ ' ' → (pad = [] → rest.head? ≠ some mark) →
      (leaf.text ++ pad).getLast? = some mark → rest.head? ≠ some mark := by
    intro mark notSpace unpadded last
    cases pad with
    | nil => exact unpadded rfl
    | cons c pad =>
      rw [List.getLast?_append_of_ne_nil _ (List.cons_ne_nil c pad)] at last
      exact absurd (spaces mark (List.mem_of_getLast? last)) notSpace
  exact nameSpan_append_of_endsName (absent '(' (by decide) leaf.noOpen)
    (absent ')' (by decide) leaf.noClose)
    (unpaired '&' (by decide) ((contains_pair '&' _).mp leaf.noAnd))
    (unpaired '|' (by decide) ((contains_pair '|' _).mp leaf.noOr)) stops
    (apartFrom '&' (by decide) fun empty => (apart empty).1)
    (apartFrom '|' (by decide) fun empty => (apart empty).2)

theorem scan_leaf_spaces (leaf : Name) {pad rest : Text} (spaces : ∀ c ∈ pad, c = ' ')
    (stops : endsName rest = true)
    (apart : pad = [] → rest.head? ≠ some '&' ∧ rest.head? ≠ some '|') (offset : Nat) :
    scan true offset (leaf.text ++ (pad ++ rest)) =
      ofName (leaf.text ++ pad) offset ::
        scan false (offset + Text.byteLength (leaf.text ++ pad)) rest := by
  have span := nameSpan_leaf_spaces leaf spaces stops apart
  have trimmed := leaf.trimmed_text
  have notNegated := leaf.notNegated
  rw [← List.append_assoc]
  cases letters : leaf.text with
  | nil => exact absurd letters leaf.nonempty
  | cons c t =>
    rw [letters] at span trimmed notNegated
    have notSpace : Text.isAsciiSpace c = false := by
      cases space : Text.isAsciiSpace c with
      | false => rfl
      | true =>
        have wide := Text.isSpace_of_isAsciiSpace space
        rw [trimmed.1 c rfl] at wide
        cases wide
    have notNot : (true && c == '!') = false := by simpa using notNegated
    exact scan_of_nameSpan span notSpace notNot offset

theorem trim_leaf_spaces (leaf : Name) {pad : Text} (spaces : ∀ c ∈ pad, c = ' ') :
    Text.trim (leaf.text ++ pad) = leaf.text := by
  have dropped : ∀ c ∈ pad, Text.isSpace c = true := by
    intro c member
    rw [spaces c member]
    decide
  exact Text.trimBy_append (List.forall_mem_nil _) leaf.trimmed_text dropped

/-- In front of a boundary a name is one token; the space in front of an operator does not count. -/
theorem scan_leaf (leaf : Name) {rest : Text} (boundary : Boundary rest) (offset : Nat) :
    ∃ token behind, token.kind = .name ∧ token.text = leaf.text ∧
      scan true offset (leaf.text ++ rest) = token :: scan false behind rest := by
  have none : ∀ c ∈ ([] : Text), c = ' ' := nofun
  have space : ∀ c ∈ [' '], c = ' ' := by simp
  have close : ∀ {t}, endsName t = true → t.head? ≠ some '&' ∧ t.head? ≠ some '|' →
      ∃ token behind, token.kind = .name ∧ token.text = leaf.text ∧
        scan true offset (leaf.text ++ t) = token :: scan false behind t := by
    intro t stops apart
    exact ⟨_, _, rfl, trim_leaf_spaces leaf none,
      scan_leaf_spaces leaf none stops (fun _ => apart) offset⟩
  have spaced : ∀ {t}, endsName t = true →
      ∃ token behind, token.kind = .name ∧ token.text = leaf.text ∧
        scan true offset (leaf.text ++ ' ' :: t) = token :: scan false behind (' ' :: t) := by
    intro t stops
    have scanned := scan_leaf_spaces leaf space stops nofun offset
    rw [Text.byteLength_append, ← Nat.add_assoc] at scanned
    refine ⟨ofName (leaf.text ++ [' ']) offset, offset + Text.byteLength leaf.text, rfl,
      trim_leaf_spaces leaf space, ?_⟩
    rw [scan_space]
    exact scanned
  cases boundary with
  | done => exact close rfl ⟨nofun, nofun⟩
  | close t => exact close rfl (by simp)
  | and t => exact spaced rfl
  | or t => exact spaced rfl

end Token

/-- The reader goes through a phrase as `readIn` says, whatever group it is in. -/
theorem readOperand_render (phrase : Phrase) {rest : Text} (boundary : Boundary rest)
    (condition : Text) (outer : List Group) (group : Group) (offset : Nat) :
    ∃ behind, readOperand condition outer group (Token.scan true offset (phrase.render ++ rest)) =
      readOperator condition outer (phrase.readIn group).1 (phrase.readIn group).2
        (Token.scan false behind rest) := by
  induction phrase generalizing rest outer group offset with
  | name leaf =>
    obtain ⟨token, behind, isName, text, scanned⟩ := Token.scan_leaf leaf boundary offset
    refine ⟨behind, ?_⟩
    rw [Phrase.render, scanned, readOperand, isName, text, Phrase.readIn]
  | not operand ih =>
    obtain ⟨behind, read⟩ := ih boundary outer group.negate (offset + 1)
    refine ⟨behind, ?_⟩
    rw [Phrase.render, List.cons_append, Token.scan_not, readOperand]
    exact read
  | group inner ih =>
    obtain ⟨closing, read⟩ := ih (.close rest) (group :: outer) .start (offset + 1)
    refine ⟨closing + 1, ?_⟩
    rw [Phrase.render, List.cons_append, Token.scan, readOperand, List.append_assoc,
      List.singleton_append]
    dsimp only
    rw [read, Token.scan]
    simp only [readOperator]
    rfl
  | and left right ihLeft ihRight =>
    obtain ⟨between, readLeft⟩ := ihLeft (.and (' ' :: (right.render ++ rest))) outer group offset
    obtain ⟨behind, readRight⟩ := ihRight boundary outer
      ((left.readIn group).1.thenAnd (left.readIn group).2) (between + 1 + 2 + 1)
    refine ⟨behind, ?_⟩
    rw [Phrase.render, List.append_assoc, List.append_assoc]
    refine readLeft.trans ?_
    rw [Token.scan_space, Token.scan]
    simp only [readOperator]
    rw [Token.scan_space]
    exact readRight
  | or left right ihLeft ihRight =>
    obtain ⟨between, readLeft⟩ := ihLeft (.or (' ' :: (right.render ++ rest))) outer group offset
    obtain ⟨behind, readRight⟩ := ihRight boundary outer
      ((left.readIn group).1.thenOr (left.readIn group).2) (between + 1 + 2 + 1)
    refine ⟨behind, ?_⟩
    rw [Phrase.render, List.append_assoc, List.append_assoc]
    refine readLeft.trans ?_
    rw [Token.scan_space, Token.scan]
    simp only [readOperator]
    rw [Token.scan_space]
    exact readRight

theorem ofText_render (phrase : Phrase) : Expr.ofText phrase.render = .ok phrase.tree := by
  obtain ⟨behind, read⟩ := readOperand_render phrase .done phrase.render [] .start 0
  rw [List.append_nil] at read
  have nonempty : phrase.render.isEmpty = false := by simp [phrase.render_ne_nil]
  rw [Expr.ofText, phrase.trim_render, nonempty, phrase.bracketsBalanced_render]
  simp only [Bool.false_eq_true, if_false, Bool.not_true]
  rw [Token.ofText, read, Token.scan, readOperator]
  rfl

/-! ### The value of a phrase -/

/-- The truth of a group up to the place where its next operand starts. -/
structure Standing where
  disjunction : Bool
  conjunction : Bool
  negated : Bool

/-- Nothing has been read: no disjunct holds and no conjunct fails. -/
def Standing.start : Standing := ⟨false, true, false⟩

namespace Phrase

variable (flags : FlagSet)

/-- The truth of a group behind a phrase: of the disjuncts in front of the last `||`, and of the
conjunction that the phrase ends with. -/
def run : Phrase → Standing → Bool × Bool
  | name leaf, s =>
    (s.disjunction, s.conjunction && (s.negated ^^ (Expr.ofName leaf.text).eval flags))
  | not operand, s => operand.run { s with negated := !s.negated }
  | group inner, s =>
    (s.disjunction,
      s.conjunction && (s.negated ^^ ((inner.run .start).1 || (inner.run .start).2)))
  | and left right, s => right.run ⟨(left.run s).1, (left.run s).2, false⟩
  | or left right, s => right.run ⟨(left.run s).1 || (left.run s).2, true, false⟩

def value (phrase : Phrase) : Bool := (phrase.run flags .start).1 || (phrase.run flags .start).2

end Phrase

namespace Group

variable (flags : FlagSet)

def standing (group : Group) : Standing where
  disjunction := group.disjunction.elim false (Expr.eval flags)
  conjunction := group.conjunction.elim true (Expr.eval flags)
  negated := Nat.repeat Bool.not group.negations false

theorem eval_repeat_not (n : Nat) (operand : Expr) :
    (Nat.repeat Expr.not n operand).eval flags =
      (Nat.repeat Bool.not n false ^^ operand.eval flags) := by
  induction n with
  | zero => simp [Nat.repeat]
  | succ n ih => simp [Nat.repeat, Expr.eval, ih]

theorem eval_closeAnd (group : Group) (last : Expr) :
    (group.closeAnd last).eval flags =
      ((group.standing flags).conjunction &&
        ((group.standing flags).negated ^^ last.eval flags)) := by
  cases left : group.conjunction <;>
    simp [closeAnd, standing, left, Expr.eval, eval_repeat_not]

theorem eval_close (group : Group) (last : Expr) :
    (group.close last).eval flags =
      ((group.standing flags).disjunction || (group.closeAnd last).eval flags) := by
  cases left : group.disjunction <;> simp [close, standing, left, Expr.eval]

theorem standing_thenAnd (group : Group) (last : Expr) :
    (group.thenAnd last).standing flags =
      ⟨(group.standing flags).disjunction, (group.closeAnd last).eval flags, false⟩ := rfl

theorem standing_thenOr (group : Group) (last : Expr) :
    (group.thenOr last).standing flags =
      ⟨(group.standing flags).disjunction || (group.closeAnd last).eval flags, true, false⟩ := by
  rw [← eval_close]
  rfl

end Group

/-- Following the reader and then evaluating is the same as following the truth. -/
theorem run_standing (flags : FlagSet) (phrase : Phrase) (group : Group) :
    phrase.run flags (group.standing flags) =
      (((phrase.readIn group).1.standing flags).disjunction,
        ((phrase.readIn group).1.closeAnd (phrase.readIn group).2).eval flags) := by
  induction phrase generalizing group with
  | name leaf => rw [Phrase.run, Phrase.readIn, Group.eval_closeAnd]
  | not operand ih => exact ih group.negate
  | group inner ih =>
    have inside := ih .start
    rw [show Group.start.standing flags = Standing.start from rfl] at inside
    rw [Phrase.run, Phrase.readIn, Group.eval_closeAnd, Group.eval_close, inside]
  | and left right ihLeft ihRight =>
    rw [Phrase.run, Phrase.readIn, ihLeft, ← ihRight, Group.standing_thenAnd]
  | or left right ihLeft ihRight =>
    rw [Phrase.run, Phrase.readIn, ihLeft, ← ihRight, Group.standing_thenOr]

theorem eval_tree (flags : FlagSet) (phrase : Phrase) :
    phrase.tree.eval flags = phrase.value flags := by
  have followed := run_standing flags phrase .start
  rw [show Group.start.standing flags = Standing.start from rfl] at followed
  rw [Phrase.tree, Group.eval_close, Phrase.value, followed]

theorem evaluate_render (flags : FlagSet) (phrase : Phrase) :
    evaluate flags phrase.render = .ok (phrase.value flags) := by
  rw [evaluate, ofText_render, ← eval_tree]
  rfl

end FilterPrep.Condition
