import FilterPrep.Proofs.Phrase

/-!
# Evaluation by rewriting

A second evaluator of conditions that never builds a tree. It replaces the last bracket group by
the word for its value until no bracket is left, splits the text at its first `||`, else at its
first `&&`, else takes off a leading `!`, else looks the name up. On every phrase it agrees with
the evaluator that reads a tree, provided that no flag is called `false`.
-/

namespace FilterPrep.Condition

namespace Rewriting

/-- What stands in front of and behind the first occurrence of `mark`. -/
def cutAt? (mark : Text) : Text → Option (Text × Text)
  | [] => none
  | c :: t =>
    match Text.after? mark (c :: t) with
    | some behind => some ([], behind)
    | none => (cutAt? mark t).map fun (before, behind) => (c :: before, behind)

theorem append_of_cutAt? {mark t before behind : Text}
    (found : cutAt? mark t = some (before, behind)) : t = before ++ (mark ++ behind) := by
  induction t generalizing before with
  | nil => cases found
  | cons c t ih =>
    rw [cutAt?] at found
    split at found
    · next after =>
      cases found
      simpa using Text.after?_eq_some_iff.mp after
    · obtain ⟨⟨front, back⟩, below, same⟩ := Option.map_eq_some_iff.mp found
      cases same
      rw [ih below]
      rfl

/-- The word that a group with this value is replaced by. -/
def word : Bool → Text
  | true => ['t', 'r', 'u', 'e']
  | false => ['f', 'a', 'l', 's', 'e']

/-- A bracket weighs more than a word, so that replacing a group makes a text lighter. -/
def weight (t : Text) : Nat := t.length + 5 * t.count '('

theorem weight_append (first second : Text) :
    weight (first ++ second) = weight first + weight second := by
  simp only [weight, List.length_append, List.count_append]
  omega

theorem weight_cons (c : Char) (t : Text) :
    weight (c :: t) = weight t + 1 + if c = '(' then 5 else 0 := by
  simp only [weight, List.length_cons, List.count_cons, beq_iff_eq]
  split <;> omega

theorem weight_word (value : Bool) : weight (word value) ≤ 5 := by cases value <;> decide

theorem weight_trim_le (t : Text) : weight (Text.trim t) ≤ weight t := by
  obtain ⟨lead, trail, whole, -⟩ := Text.trimBy_split Text.isSpace t
  have parts := congrArg weight whole
  rw [weight_append, weight_append] at parts
  change weight (Text.trimBy Text.isSpace t) ≤ weight t
  omega

theorem weight_dropLast_le (t : Text) : weight t.dropLast ≤ weight t := by
  cases last : t.getLast? with
  | none =>
    obtain rfl := List.getLast?_eq_none_iff.mp last
    exact Nat.le_refl _
  | some c =>
    obtain ⟨front, rfl⟩ := List.getLast?_eq_some_iff.mp last
    rw [List.dropLast_concat, weight_append]
    omega

theorem weight_of_group {t before rest inner behind : Text}
    (opening : Text.cutLast? '(' t = some (before, rest))
    (closing : Text.cutFirst? ')' rest = some (inner, behind)) :
    weight before + weight inner + weight behind + 7 = weight t := by
  have outside := congrArg weight (Text.append_of_cutLast? opening).1
  have inside := congrArg weight (Text.append_of_cutFirst? closing).1
  rw [weight_append, weight_cons, if_pos rfl] at outside
  rw [weight_append, weight_cons, if_neg (by decide)] at inside
  omega

theorem weight_of_cutAt? {c d : Char} {t left right : Text}
    (found : cutAt? [c, d] t = some (left, right)) :
    weight left.dropLast < weight t ∧ weight right < weight t := by
  have whole := congrArg weight (append_of_cutAt? found)
  rw [weight_append, List.cons_append, List.singleton_append, weight_cons, weight_cons] at whole
  have shorter := weight_dropLast_le left
  omega

/-- What the text of a condition is taken for. -/
inductive Reading where
  /-- The last bracket group, with what stands in front of it and behind it. -/
  | group (before inner behind : Text)
  | anyOf (left right : Text)
  | allOf (left right : Text)
  | negation (operand : Text)
  | name (name : Text)

/-- Looks at a trimmed condition. The character in front of a split is dropped. -/
def look (condition : Text) : Except SyntaxError Reading :=
  if condition.isEmpty then .error .emptyCondition
  else if !bracketsBalanced condition then .error (.incorrectBrackets condition)
  else
    match Text.cutLast? '(' condition with
    | some (before, rest) =>
      match Text.cutFirst? ')' rest with
      | some (inner, behind) => .ok (.group before inner behind)
      | none => .error (.incorrectBrackets condition)
    | none =>
      match cutAt? ['|', '|'] condition with
      | some (left, right) => .ok (.anyOf left.dropLast right)
      | none =>
        match cutAt? ['&', '&'] condition with
        | some (left, right) => .ok (.allOf left.dropLast right)
        | none =>
          match condition with
          | '!' :: operand => .ok (.negation operand)
          | name => .ok (.name name)

/-- The texts that are evaluated next are lighter, the rewritten one included. -/
def Reading.Lighter (bound : Nat) : Reading → Prop
  | group before inner behind =>
    weight inner < bound ∧ ∀ value, weight (before ++ word value ++ behind) < bound
  | anyOf left right => weight left < bound ∧ weight right < bound
  | allOf left right => weight left < bound ∧ weight right < bound
  | negation operand => weight operand < bound
  | name _ => True

theorem lighter_of_look {condition : Text} {reading : Reading}
    (looked : look condition = .ok reading) : reading.Lighter (weight condition) := by
  unfold look at looked
  split at looked
  · cases looked
  split at looked
  · cases looked
  split at looked
  · next opening =>
    split at looked
    · next closing =>
      cases looked
      have parts := weight_of_group opening closing
      refine ⟨by omega, fun value => ?_⟩
      have short := weight_word value
      rw [weight_append, weight_append]
      omega
    · cases looked
  split at looked
  · next found =>
    cases looked
    exact weight_of_cutAt? found
  split at looked
  · next found =>
    cases looked
    exact weight_of_cutAt? found
  split at looked
  · cases looked
    simp only [Reading.Lighter, weight_cons]
    omega
  · cases looked
    trivial

def evaluate (flags : FlagSet) (raw : Text) : Except SyntaxError Bool :=
  match _looked : look (Text.trim raw) with
  | .error error => .error error
  | .ok (.group before inner behind) =>
    match evaluate flags inner with
    | .error error => .error error
    | .ok value => evaluate flags (before ++ word value ++ behind)
  | .ok (.anyOf left right) =>
    match evaluate flags left with
    | .error error => .error error
    | .ok true => .ok true
    | .ok false => evaluate flags right
  | .ok (.allOf left right) =>
    match evaluate flags left with
    | .error error => .error error
    | .ok true => evaluate flags right
    | .ok false => .ok false
  | .ok (.negation operand) => (evaluate flags operand).map Bool.not
  | .ok (.name name) => .ok (name == "true".toList || flags.isEnabled name)
termination_by weight raw
decreasing_by
  all_goals have lighter := lighter_of_look _looked
  all_goals have light := weight_trim_le raw
  · exact Nat.lt_of_lt_of_le lighter.1 light
  · exact Nat.lt_of_lt_of_le (lighter.2 value) light
  · exact Nat.lt_of_lt_of_le lighter.1 light
  · exact Nat.lt_of_lt_of_le lighter.2 light
  · exact Nat.lt_of_lt_of_le lighter.1 light
  · exact Nat.lt_of_lt_of_le lighter.2 light
  · exact Nat.lt_of_lt_of_le lighter light

/-! ### One step of the evaluation -/

variable {flags : FlagSet} {raw : Text}

theorem evaluate_group {before inner behind : Text} {value : Bool}
    (looked : look (Text.trim raw) = .ok (.group before inner behind))
    (inside : evaluate flags inner = .ok value) :
    evaluate flags raw = evaluate flags (before ++ word value ++ behind) := by
  rw [evaluate]
  split <;> simp_all

theorem evaluate_anyOf {left right : Text} {first second : Bool}
    (looked : look (Text.trim raw) = .ok (.anyOf left right))
    (onLeft : evaluate flags left = .ok first) (onRight : evaluate flags right = .ok second) :
    evaluate flags raw = .ok (first || second) := by
  rw [evaluate]
  split <;> cases first <;> simp_all

theorem evaluate_allOf {left right : Text} {first second : Bool}
    (looked : look (Text.trim raw) = .ok (.allOf left right))
    (onLeft : evaluate flags left = .ok first) (onRight : evaluate flags right = .ok second) :
    evaluate flags raw = .ok (first && second) := by
  rw [evaluate]
  split <;> cases first <;> simp_all

theorem evaluate_negation {operand : Text} {value : Bool}
    (looked : look (Text.trim raw) = .ok (.negation operand))
    (inside : evaluate flags operand = .ok value) : evaluate flags raw = .ok (!value) := by
  rw [evaluate]
  split <;> simp_all [Except.map]

theorem evaluate_name {name : Text} (looked : look (Text.trim raw) = .ok (.name name)) :
    evaluate flags raw = .ok (name == "true".toList || flags.isEnabled name) := by
  rw [evaluate]
  split <;> simp_all

theorem evaluate_trim (raw : Text) : evaluate flags (Text.trim raw) = evaluate flags raw := by
  rw [evaluate, evaluate.eq_def flags raw, Text.trim_trim]

/-! ### Where a text is split -/

theorem after?_pair_eq_none {mark c : Char} {t : Text} (single : c = mark → t.head? ≠ some mark) :
    Text.after? [mark, mark] (c :: t) = none := by
  rw [Text.after?]
  split
  · next same =>
    cases t with
    | nil => rfl
    | cons d t => exact if_neg fun again => single same.symm (by rw [again]; rfl)
  · rfl

theorem cutAt?_eq_none {mark : Char} {t : Text} (unpaired : Unpaired mark t) :
    cutAt? [mark, mark] t = none := by
  induction t with
  | nil => rfl
  | cons c t ih => rw [cutAt?, after?_pair_eq_none unpaired.1, ih unpaired.2]; rfl

theorem cutAt?_append {mark : Char} {before : Text} (unpaired : Unpaired mark before)
    (apart : before.getLast? ≠ some mark) (behind : Text) :
    cutAt? [mark, mark] (before ++ mark :: mark :: behind) = some (before, behind) := by
  induction before with
  | nil => simp [cutAt?, Text.after?]
  | cons c before ih =>
    have single : c = mark → (before ++ mark :: mark :: behind).head? ≠ some mark := by
      cases before with
      | nil => exact fun same => absurd (by rw [same]; rfl) apart
      | cons d before => exact unpaired.1
    have below : before.getLast? ≠ some mark := fun last =>
      apart (by rw [List.getLast?_cons, last]; rfl)
    rw [List.cons_append, cutAt?, after?_pair_eq_none single, ih unpaired.2 below]
    rfl

end Rewriting

/-! ### Phrases without brackets -/

theorem paired_operator (mark : Char) (left right : Text) :
    ¬Unpaired mark (left ++ [' ', mark, mark, ' '] ++ right) := by
  intro whole
  have operator := (unpaired_of_append (unpaired_of_append whole).1).2
  exact operator.2.1 rfl rfl

theorem unpaired_operator {mark other : Char} {left right : Text} (before : Unpaired mark left)
    (behind : Unpaired mark right) (different : mark ≠ other) (notSpace : mark ≠ ' ') :
    Unpaired mark (left ++ [' ', other, other, ' '] ++ right) := by
  have operator : Unpaired mark [' ', other, other, ' '] :=
    unpaired_of_not_mem (by simp [different, notSpace])
  exact unpaired_append (unpaired_append before operator fun _ => by simp [Ne.symm notSpace]) behind
    fun last => absurd (by simpa using last) (Ne.symm notSpace)

namespace Phrase

variable (flags : FlagSet)

/-- A phrase without brackets that holds `||` can be taken apart at the first one. -/
theorem exists_or_split (phrase : Phrase) (flat : '(' ∉ phrase.render) :
    Unpaired '|' phrase.render ∨
      ∃ left right : Phrase, phrase.render = (left.or right).render ∧ Unpaired '|' left.render ∧
        phrase.run flags = (left.or right).run flags := by
  induction phrase with
  | name leaf => exact .inl ((contains_pair '|' _).mp leaf.noOr)
  | not operand ih =>
    rcases ih (List.not_mem_of_not_mem_cons flat) with
      unpaired | ⟨left, right, text, unpaired, same⟩
    · exact .inl ⟨nofun, unpaired⟩
    · refine .inr ⟨left.not, right, ?_, ⟨nofun, unpaired⟩, ?_⟩
      · rw [render, text]; rfl
      · funext s
        rw [run, same]; rfl
  | group inner ih => exact absurd List.mem_cons_self flat
  | and first second ihFirst ihSecond =>
    simp only [render, List.mem_append, not_or] at flat
    rcases ihFirst flat.1.1 with unpairedFirst | ⟨left, right, text, unpaired, same⟩
    · rcases ihSecond flat.2 with unpairedSecond | ⟨left, right, text, unpaired, same⟩
      · exact .inl (unpaired_operator unpairedFirst unpairedSecond (by decide) (by decide))
      · refine .inr ⟨first.and left, right, ?_,
          unpaired_operator unpairedFirst unpaired (by decide) (by decide), ?_⟩
        · simp only [render, text, List.append_assoc]
        · funext s
          rw [run, same]; rfl
    -- what follows the split is grouped anew, which neither the text nor the truth shows
    · refine .inr ⟨left, right.and second, ?_, unpaired, ?_⟩
      · simp only [render, text, List.append_assoc]
      · funext s
        rw [run, same]; rfl
  | or first second ihFirst ihSecond =>
    simp only [render, List.mem_append, not_or] at flat
    rcases ihFirst flat.1.1 with unpaired | ⟨left, right, text, unpaired, same⟩
    · exact .inr ⟨first, second, rfl, unpaired, rfl⟩
    · refine .inr ⟨left, right.or second, ?_, unpaired, ?_⟩
      · simp only [render, text, List.append_assoc]
      · funext s
        rw [run, same]; rfl

/-- One without brackets and without `||` can be taken apart at the first `&&`, if there is one. -/
theorem exists_and_split (phrase : Phrase) (flat : '(' ∉ phrase.render)
    (noOr : Unpaired '|' phrase.render) :
    Unpaired '&' phrase.render ∨
      ∃ left right : Phrase, phrase.render = (left.and right).render ∧ Unpaired '&' left.render ∧
        phrase.run flags = (left.and right).run flags := by
  induction phrase with
  | name leaf => exact .inl ((contains_pair '&' _).mp leaf.noAnd)
  | not operand ih =>
    rcases ih (List.not_mem_of_not_mem_cons flat) noOr.2 with
      unpaired | ⟨left, right, text, unpaired, same⟩
    · exact .inl ⟨nofun, unpaired⟩
    · refine .inr ⟨left.not, right, ?_, ⟨nofun, unpaired⟩, ?_⟩
      · rw [render, text]; rfl
      · funext s
        rw [run, same]; rfl
  | group inner ih => exact absurd List.mem_cons_self flat
  | and first second ihFirst ihSecond =>
    simp only [render, List.mem_append, not_or] at flat
    rcases ihFirst flat.1.1 (unpaired_of_append (unpaired_of_append noOr).1).1 with
      unpaired | ⟨left, right, text, unpaired, same⟩
    · exact .inr ⟨first, second, rfl, unpaired, rfl⟩
    · refine .inr ⟨left, right.and second, ?_, unpaired, ?_⟩
      · simp only [render, text, List.append_assoc]
      · funext s
        rw [run, same]; rfl
  | or first second ihFirst ihSecond => exact absurd noOr (paired_operator '|' _ _)

/-! ### Truth without brackets -/

theorem value_of_run_eq {first second : Phrase} (same : first.run flags = second.run flags) :
    first.value flags = second.value flags := by
  rw [value, value, same]

/-- A disjunct that holds in front of a phrase does not change what the phrase adds. -/
theorem run_disjunction (phrase : Phrase) (first : Bool) (s : Standing) :
    phrase.run flags { s with disjunction := first || s.disjunction } =
      (first || (phrase.run flags s).1, (phrase.run flags s).2) := by
  induction phrase generalizing s with
  | name leaf => rfl
  | not operand ih => exact ih { s with negated := !s.negated }
  | group inner ih => rfl
  | and left right ihLeft ihRight =>
    rw [run, ihLeft, run]
    exact ihRight ⟨(left.run flags s).1, (left.run flags s).2, false⟩
  | or left right ihLeft ihRight =>
    rw [run, ihLeft, run, Bool.or_assoc]
    exact ihRight ⟨(left.run flags s).1 || (left.run flags s).2, true, false⟩

theorem value_or (left right : Phrase) :
    (left.or right).value flags = (left.value flags || right.value flags) := by
  have added := right.run_disjunction flags (left.value flags) .start
  rw [show (Standing.start.disjunction) = false from rfl, Bool.or_false] at added
  have whole : (left.or right).run flags .start = right.run flags ⟨left.value flags, true, false⟩ :=
    rfl
  rw [value, whole, show (⟨left.value flags, true, false⟩ : Standing) =
    { Standing.start with disjunction := left.value flags } from rfl, added, Bool.or_assoc]
  rfl

/-- Without `||` a phrase leaves the disjuncts alone and adds conjuncts. -/
theorem run_of_no_or (phrase : Phrase) (noOr : Unpaired '|' phrase.render) (s : Standing) :
    phrase.run flags s =
      (s.disjunction, s.conjunction && (phrase.run flags ⟨false, true, s.negated⟩).2) := by
  induction phrase generalizing s with
  | name leaf => simp [run]
  | not operand ih => exact ih noOr.2 { s with negated := !s.negated }
  | group inner ih => simp [run]
  | and left right ihLeft ihRight =>
    have both := unpaired_of_append noOr
    have onLeft := ihLeft (unpaired_of_append both.1).1 s
    have behindLeft := fun s => ihRight both.2 ⟨(left.run flags s).1, (left.run flags s).2, false⟩
    rw [run, behindLeft s, run, behindLeft ⟨false, true, s.negated⟩, onLeft, Bool.and_assoc]
  | or left right ihLeft ihRight => exact absurd noOr (paired_operator '|' _ _)

theorem value_and {left right : Phrase} (noOr : Unpaired '|' (left.and right).render) :
    (left.and right).value flags = (left.value flags && right.value flags) := by
  have both := unpaired_of_append noOr
  have onLeft := left.run_of_no_or flags (unpaired_of_append both.1).1 .start
  have onRight := right.run_of_no_or flags both.2
  have startRight := onRight .start
  rw [value, value, value, run, onRight, onLeft, startRight]
  simp [Standing.start]

theorem run_of_operand (phrase : Phrase) (noOr : Unpaired '|' phrase.render)
    (noAnd : Unpaired '&' phrase.render) (s : Standing) :
    phrase.run flags s =
      (s.disjunction, s.conjunction && (s.negated ^^ (phrase.run flags .start).2)) := by
  induction phrase generalizing s with
  | name leaf => simp [run, Standing.start]
  | not operand ih =>
    have inside := ih noOr.2 noAnd.2
    have negated := inside { Standing.start with negated := true }
    have turned : (operand.not.run flags .start).2 = !(operand.run flags .start).2 := by
      rw [show operand.not.run flags .start =
        operand.run flags { Standing.start with negated := true } from rfl, negated]
      simp [Standing.start]
    rw [turned, run, inside]
    simp
  | group inner ih => simp [run, Standing.start]
  | and left right ihLeft ihRight => exact absurd noAnd (paired_operator '&' _ _)
  | or left right ihLeft ihRight => exact absurd noOr (paired_operator '|' _ _)

theorem value_not {operand : Phrase} (noOr : Unpaired '|' operand.render)
    (noAnd : Unpaired '&' operand.render) :
    operand.not.value flags = !operand.value flags := by
  have inside := operand.run_of_operand flags noOr noAnd
  have alone := inside .start
  rw [value, value, run, inside, alone]
  simp [Standing.start]

end Phrase

namespace Rewriting

variable (flags : FlagSet)

theorem look_of_flat {phrase : Phrase} (flat : '(' ∉ phrase.render) :
    look phrase.render =
      match cutAt? ['|', '|'] phrase.render with
      | some (left, right) => .ok (.anyOf left.dropLast right)
      | none =>
        match cutAt? ['&', '&'] phrase.render with
        | some (left, right) => .ok (.allOf left.dropLast right)
        | none =>
          match phrase.render with
          | '!' :: operand => .ok (.negation operand)
          | name => .ok (.name name) := by
  have nonempty : phrase.render.isEmpty = false := by simp [phrase.render_ne_nil]
  unfold look
  rw [nonempty, phrase.bracketsBalanced_render, Text.cutLast?_eq_none_iff.mpr flat]
  rfl

theorem evaluate_space (phrase : Phrase) :
    evaluate flags (' ' :: phrase.render) = evaluate flags phrase.render := by
  have space : ∀ c ∈ [' '], Text.isSpace c = true := by simp; decide
  have trimmed : Text.trim (' ' :: phrase.render) = phrase.render := by
    have whole := Text.trimBy_append space phrase.render_trimmed (List.forall_mem_nil _)
    rwa [List.append_nil] at whole
  rw [← evaluate_trim, trimmed]

theorem cutAt?_operator {mark : Char} (notSpace : mark ≠ ' ') {left : Text}
    (unpaired : Unpaired mark left) (right : Text) :
    cutAt? [mark, mark] (left ++ [' ', mark, mark, ' '] ++ right) =
      some (left ++ [' '], ' ' :: right) := by
  have before : Unpaired mark (left ++ [' ']) :=
    unpaired_append unpaired ⟨fun same => absurd same.symm notSpace, trivial⟩
      fun _ => by simp [Ne.symm notSpace]
  have found := cutAt?_append before (by simp [Ne.symm notSpace]) (' ' :: right)
  simpa using found

theorem look_or {left right : Phrase} (flat : '(' ∉ (left.or right).render)
    (unpaired : Unpaired '|' left.render) :
    look (left.or right).render = .ok (.anyOf left.render (' ' :: right.render)) := by
  have found : cutAt? ['|', '|'] (left.or right).render = _ :=
    cutAt?_operator (by decide) unpaired right.render
  rw [look_of_flat flat, found]
  simp

theorem look_and {left right : Phrase} (flat : '(' ∉ (left.and right).render)
    (noOr : Unpaired '|' (left.and right).render) (unpaired : Unpaired '&' left.render) :
    look (left.and right).render = .ok (.allOf left.render (' ' :: right.render)) := by
  have found : cutAt? ['&', '&'] (left.and right).render = _ :=
    cutAt?_operator (by decide) unpaired right.render
  rw [look_of_flat flat, cutAt?_eq_none noOr, found]
  simp

theorem look_not {operand : Phrase} (flat : '(' ∉ operand.not.render)
    (noOr : Unpaired '|' operand.not.render) (noAnd : Unpaired '&' operand.not.render) :
    look operand.not.render = .ok (.negation operand.render) := by
  rw [look_of_flat flat, cutAt?_eq_none noOr, cutAt?_eq_none noAnd]
  rfl

theorem look_name (leaf : Name) : look leaf.text = .ok (.name leaf.text) := by
  have flat : '(' ∉ (Phrase.name leaf).render := leaf.noOpen
  have noOr : Unpaired '|' (Phrase.name leaf).render := (contains_pair '|' _).mp leaf.noOr
  have noAnd : Unpaired '&' (Phrase.name leaf).render := (contains_pair '&' _).mp leaf.noAnd
  have looked := look_of_flat flat
  rw [cutAt?_eq_none noOr, cutAt?_eq_none noAnd] at looked
  dsimp only at looked
  split at looked
  · next operand text => exact absurd (by rw [show leaf.text = _ from text]; rfl) leaf.notNegated
  · exact looked

theorem eval_ofName (name : Text) :
    (Expr.ofName name).eval flags = (name == "true".toList || flags.isEnabled name) := by
  rw [Expr.ofName]
  split
  · next same => simp [same, Expr.eval]
  · next different => simp only [Expr.eval, beq_eq_false_iff_ne.mpr different, Bool.false_or]

theorem evaluate_of_flat (phrase : Phrase) (flat : '(' ∉ phrase.render) :
    evaluate flags phrase.render = .ok (phrase.value flags) := by
  generalize size : phrase.render.length = n
  induction n using Nat.strongRecOn generalizing phrase with
  | ind n ih =>
    have further : ∀ part : Phrase, part.render.length < n → '(' ∉ part.render →
        evaluate flags part.render = .ok (part.value flags) :=
      fun part shorter flat => ih part.render.length shorter part flat rfl
    rcases phrase.exists_or_split flags flat with noOr | ⟨left, right, text, unpaired, same⟩
    · rcases phrase.exists_and_split flags flat noOr with
        noAnd | ⟨left, right, text, unpaired, same⟩
      · cases phrase with
        | name leaf =>
          rw [evaluate_name (by rw [Phrase.trim_render]; exact look_name leaf), ← eval_ofName]
          simp [Phrase.value, Phrase.run, Standing.start]
        | not operand =>
          have inside := further operand (by rw [← size]; simp [Phrase.render])
            (List.not_mem_of_not_mem_cons flat)
          rw [evaluate_negation (by rw [Phrase.trim_render]; exact look_not flat noOr noAnd) inside,
            Phrase.value_not flags noOr.2 noAnd.2]
        | group inner => exact absurd List.mem_cons_self flat
        | and left right => exact absurd noAnd (paired_operator '&' _ _)
        | or left right => exact absurd noOr (paired_operator '|' _ _)
      · rw [text] at flat noOr size ⊢
        have apart := flat
        simp only [Phrase.render, List.mem_append, not_or] at apart
        have onLeft := further left (by rw [← size]; simp [Phrase.render]) apart.1.1
        have onRight := further right (by rw [← size]; simp [Phrase.render]; omega) apart.2
        rw [← evaluate_space] at onRight
        rw [evaluate_allOf (by rw [Phrase.trim_render]; exact look_and flat noOr unpaired) onLeft
          onRight, Phrase.value_of_run_eq flags same, Phrase.value_and flags noOr]
    · rw [text] at flat size ⊢
      have apart := flat
      simp only [Phrase.render, List.mem_append, not_or] at apart
      have onLeft := further left (by rw [← size]; simp [Phrase.render]) apart.1.1
      have onRight := further right (by rw [← size]; simp [Phrase.render]; omega) apart.2
      rw [← evaluate_space] at onRight
      rw [evaluate_anyOf (by rw [Phrase.trim_render]; exact look_or flat unpaired) onLeft onRight,
        Phrase.value_of_run_eq flags same, Phrase.value_or]

end Rewriting

/-! ### Rewriting a group in its surroundings -/

/-- A phrase with one operand left open. -/
inductive Frame where
  | hole
  | not (operand : Frame)
  | group (inner : Frame)
  | andLeft (left : Frame) (right : Phrase)
  | andRight (left : Phrase) (right : Frame)
  | orLeft (left : Frame) (right : Phrase)
  | orRight (left : Phrase) (right : Frame)

namespace Frame

def fill (part : Phrase) : Frame → Phrase
  | hole => part
  | not operand => (operand.fill part).not
  | group inner => (inner.fill part).group
  | andLeft left right => (left.fill part).and right
  | andRight left right => left.and (right.fill part)
  | orLeft left right => (left.fill part).or right
  | orRight left right => left.or (right.fill part)

def before : Frame → Text
  | hole => []
  | not operand => '!' :: operand.before
  | group inner => '(' :: inner.before
  | andLeft left _ => left.before
  | andRight left right => left.render ++ [' ', '&', '&', ' '] ++ right.before
  | orLeft left _ => left.before
  | orRight left right => left.render ++ [' ', '|', '|', ' '] ++ right.before

def behind : Frame → Text
  | hole => []
  | not operand => operand.behind
  | group inner => inner.behind ++ [')']
  | andLeft left right => left.behind ++ [' ', '&', '&', ' '] ++ right.render
  | andRight _ right => right.behind
  | orLeft left right => left.behind ++ [' ', '|', '|', ' '] ++ right.render
  | orRight _ right => right.behind

theorem render_fill (frame : Frame) (part : Phrase) :
    (frame.fill part).render = frame.before ++ part.render ++ frame.behind := by
  induction frame with
  | hole => simp [fill, before, behind]
  | not operand ih => simp [fill, before, behind, Phrase.render, ih]
  | group inner ih => simp [fill, before, behind, Phrase.render, ih]
  | andLeft left right ih => simp [fill, before, behind, Phrase.render, ih]
  | andRight left right ih => simp [fill, before, behind, Phrase.render, ih]
  | orLeft left right ih => simp [fill, before, behind, Phrase.render, ih]
  | orRight left right ih => simp [fill, before, behind, Phrase.render, ih]

/-- What is filled in counts by its truth alone. -/
theorem run_fill (flags : FlagSet) (frame : Frame) {part other : Phrase}
    (same : part.run flags = other.run flags) :
    (frame.fill part).run flags = (frame.fill other).run flags := by
  induction frame with
  | hole => exact same
  | not operand ih => funext s; simp only [fill, Phrase.run, ih]
  | group inner ih => funext s; simp only [fill, Phrase.run, ih]
  | andLeft left right ih => funext s; simp only [fill, Phrase.run, ih]
  | andRight left right ih => funext s; simp only [fill, Phrase.run, ih]
  | orLeft left right ih => funext s; simp only [fill, Phrase.run, ih]
  | orRight left right ih => funext s; simp only [fill, Phrase.run, ih]

end Frame

namespace Phrase

theorem no_close_of_flat {phrase : Phrase} (flat : '(' ∉ phrase.render) : ')' ∉ phrase.render := by
  induction phrase with
  | name leaf => exact leaf.noClose
  | not operand ih =>
    exact List.not_mem_cons_of_ne_of_not_mem (by decide) (ih (List.not_mem_of_not_mem_cons flat))
  | group inner ih => exact absurd List.mem_cons_self flat
  | and left right ihLeft ihRight =>
    simp only [render, List.mem_append, not_or] at flat ⊢
    exact ⟨⟨ihLeft flat.1.1, by decide⟩, ihRight flat.2⟩
  | or left right ihLeft ihRight =>
    simp only [render, List.mem_append, not_or] at flat ⊢
    exact ⟨⟨ihLeft flat.1.1, by decide⟩, ihRight flat.2⟩

/-- The last bracket of a phrase opens a group without brackets. -/
theorem exists_last_group (phrase : Phrase) (bracket : '(' ∈ phrase.render) :
    ∃ (frame : Frame) (inner : Phrase), phrase = frame.fill inner.group ∧ '(' ∉ inner.render ∧
      '(' ∉ frame.behind := by
  induction phrase with
  | name leaf => exact absurd bracket leaf.noOpen
  | not operand ih =>
    obtain ⟨frame, inner, rfl, flat, last⟩ := ih (by simpa [render] using bracket)
    exact ⟨frame.not, inner, rfl, flat, last⟩
  | group whole ih =>
    by_cases nested : '(' ∈ whole.render
    · obtain ⟨frame, inner, rfl, flat, last⟩ := ih nested
      exact ⟨frame.group, inner, rfl, flat, by simp [Frame.behind, last]⟩
    · exact ⟨.hole, whole, rfl, nested, List.not_mem_nil⟩
  | and left right ihLeft ihRight =>
    by_cases onRight : '(' ∈ right.render
    · obtain ⟨frame, inner, rfl, flat, last⟩ := ihRight onRight
      exact ⟨.andRight left frame, inner, rfl, flat, last⟩
    · obtain ⟨frame, inner, rfl, flat, last⟩ := ihLeft (by simpa [render, onRight] using bracket)
      exact ⟨.andLeft frame right, inner, rfl, flat, by simp [Frame.behind, last, onRight]⟩
  | or left right ihLeft ihRight =>
    by_cases onRight : '(' ∈ right.render
    · obtain ⟨frame, inner, rfl, flat, last⟩ := ihRight onRight
      exact ⟨.orRight left frame, inner, rfl, flat, last⟩
    · obtain ⟨frame, inner, rfl, flat, last⟩ := ihLeft (by simpa [render, onRight] using bracket)
      exact ⟨.orLeft frame right, inner, rfl, flat, by simp [Frame.behind, last, onRight]⟩

end Phrase

namespace Rewriting

variable {flags : FlagSet}

def wordName (value : Bool) : Name where
  text := word value
  nonempty := by cases value <;> nofun
  trimmed := by cases value <;> decide
  notNegated := by cases value <;> decide
  noOpen := by cases value <;> decide
  noClose := by cases value <;> decide
  noAnd := by cases value <;> decide
  noOr := by cases value <;> decide

theorem eval_word (disabled : flags.isEnabled "false".toList = false) (value : Bool) :
    (Expr.ofName (word value)).eval flags = value := by
  cases value with
  | true => rw [eval_ofName]; rfl
  | false => rw [eval_ofName, show word false = "false".toList from rfl, disabled]; rfl

/-- A group may be replaced by the word for its value. -/
theorem run_group (disabled : flags.isEnabled "false".toList = false) (inner : Phrase) :
    inner.group.run flags = (Phrase.name (wordName (inner.value flags))).run flags := by
  funext s
  rw [Phrase.run, Phrase.run, show (wordName (inner.value flags)).text = word (inner.value flags)
    from rfl, eval_word disabled]
  rfl

theorem look_group {frame : Frame} {inner : Phrase} (flat : '(' ∉ inner.render)
    (last : '(' ∉ frame.behind) :
    look (frame.fill inner.group).render = .ok (.group frame.before inner.render frame.behind) := by
  have text : (frame.fill inner.group).render =
      frame.before ++ '(' :: (inner.render ++ ')' :: frame.behind) := by
    rw [frame.render_fill]
    simp [Phrase.render]
  have nonempty : (frame.fill inner.group).render.isEmpty = false := by
    simp [(frame.fill inner.group).render_ne_nil]
  have opening : Text.cutLast? '(' (frame.fill inner.group).render =
      some (frame.before, inner.render ++ ')' :: frame.behind) := by
    rw [text]
    exact Text.cutLast?_append frame.before (by simp [flat, last])
  unfold look
  rw [nonempty, (frame.fill inner.group).bracketsBalanced_render, opening,
    if_neg Bool.false_ne_true, if_neg (by decide)]
  dsimp only
  rw [Text.cutFirst?_append (Phrase.no_close_of_flat flat)]

/-- Rewriting gives the truth of every phrase, one group after the other. -/
theorem evaluate_phrase (disabled : flags.isEnabled "false".toList = false) (phrase : Phrase) :
    evaluate flags phrase.render = .ok (phrase.value flags) := by
  generalize brackets : phrase.render.count '(' = n
  induction n using Nat.strongRecOn generalizing phrase with
  | ind n ih =>
    by_cases bracket : '(' ∈ phrase.render
    · obtain ⟨frame, inner, rfl, flat, last⟩ := phrase.exists_last_group bracket
      have rewritten : frame.before ++ word (inner.value flags) ++ frame.behind =
          (frame.fill (.name (wordName (inner.value flags)))).render :=
        (frame.render_fill (.name (wordName (inner.value flags)))).symm
      have fewer : (frame.fill (.name (wordName (inner.value flags)))).render.count '(' < n := by
        rw [← brackets, frame.render_fill, frame.render_fill]
        simp only [List.count_append, Phrase.render, List.count_cons_self]
        rw [List.count_eq_zero.mpr (wordName (inner.value flags)).noOpen]
        omega
      rw [evaluate_group (by rw [Phrase.trim_render]; exact look_group flat last)
        (evaluate_of_flat flags inner flat), rewritten, ih _ fewer _ rfl,
        Phrase.value_of_run_eq flags (frame.run_fill flags (run_group disabled inner))]
    · exact evaluate_of_flat flags phrase bracket

/-- Reading a tree and rewriting the text give the same value to every phrase, whatever its size and
nesting, under every flag set that does not enable a flag called `false`. -/
theorem evaluate_agrees (phrase : Phrase) (disabled : flags.isEnabled "false".toList = false) :
    ∃ value, Condition.evaluate flags phrase.render = .ok value ∧
      evaluate flags phrase.render = .ok value :=
  ⟨phrase.value flags, evaluate_render flags phrase, evaluate_phrase disabled phrase⟩

/-- A negated group beside names with spaces, single operators and a `!` in them. -/
theorem evaluate_agrees_nested :
    FlagSet.isEnabled (FlagSet.ofPairs [("a & b".toList, true)]) "false".toList = false ∧
      ∃ value, Condition.evaluate (FlagSet.ofPairs [("a & b".toList, true)])
          "!(x! || a & b) && true".toList = .ok value ∧
        evaluate (FlagSet.ofPairs [("a & b".toList, true)])
          "!(x! || a & b) && true".toList = .ok value :=
  ⟨by decide, evaluate_agrees
    (.and
      (.not (.group (.or
        (.name ⟨"x!".toList, by decide, by decide, by decide, by decide, by decide, by decide,
          by decide⟩)
        (.name ⟨"a & b".toList, by decide, by decide, by decide, by decide, by decide, by decide,
          by decide⟩))))
      (.name (wordName true)))
    (by decide)⟩

end Rewriting

end FilterPrep.Condition
