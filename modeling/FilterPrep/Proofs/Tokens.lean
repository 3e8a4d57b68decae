import FilterPrep.Proofs.Phrase

/-!
# Tokens and the text they are cut from

One induction principle for the scan, and from it what the tokens of every text are known to be: a
name is trimmed and holds nothing that would have ended it, the tokens cover the text except for
white space, and the bracket tokens are exactly the brackets of the text.
-/

namespace FilterPrep.Condition

/-- Nothing in the text ends a name. -/
structure Unbroken (t : Text) : Prop where
  noOpen : '(' ∉ t
  noClose : ')' ∉ t
  noAnd : Unpaired '&' t
  noOr : Unpaired '|' t

theorem unbroken_nil : Unbroken [] := ⟨nofun, nofun, trivial, trivial⟩

theorem Unbroken.of_append {first second : Text} (whole : Unbroken (first ++ second)) :
    Unbroken first ∧ Unbroken second := by
  obtain ⟨noOpen, noClose, noAnd, noOr⟩ := whole
  simp only [List.mem_append, not_or] at noOpen noClose
  obtain ⟨andBefore, andBehind⟩ := unpaired_of_append noAnd
  obtain ⟨orBefore, orBehind⟩ := unpaired_of_append noOr
  exact ⟨⟨noOpen.1, noClose.1, andBefore, orBefore⟩, ⟨noOpen.2, noClose.2, andBehind, orBehind⟩⟩

theorem Unbroken.trim {t : Text} (whole : Unbroken t) : Unbroken (Text.trim t) := by
  obtain ⟨lead, trail, split, -⟩ := Text.trimBy_split Text.isSpace t
  rw [split] at whole
  exact whole.of_append.1.of_append.2

namespace Token

/-! ### Where a name ends -/

theorem endsName_eq_false_iff {c : Char} {t : Text} :
    endsName (c :: t) = false ↔
      c ≠ '(' ∧ c ≠ ')' ∧ (c = '&' → t.head? ≠ some '&') ∧ (c = '|' → t.head? ≠ some '|') := by
  constructor
  · intro goesOn
    refine ⟨?_, ?_, ?_, ?_⟩
    · rintro rfl
      cases goesOn
    · rintro rfl
      cases goesOn
    · rintro rfl next
      obtain ⟨u, rfl⟩ := List.head?_eq_some_iff.mp next
      cases goesOn
    · rintro rfl next
      obtain ⟨u, rfl⟩ := List.head?_eq_some_iff.mp next
      cases goesOn
  · rintro ⟨notOpen, notClose, notAnd, notOr⟩
    exact endsName_eq_false notOpen notClose notAnd notOr

theorem nameSpan_cons {c : Char} {t : Text} (goesOn : endsName (c :: t) = false) :
    nameSpan (c :: t) = (c :: (nameSpan t).1, (nameSpan t).2) := by
  rw [nameSpan, if_neg (by simp [goesOn])]

theorem unbroken_nameSpan (t : Text) : Unbroken (nameSpan t).1 := by
  induction t with
  | nil => exact unbroken_nil
  | cons c t ih =>
    cases ends : endsName (c :: t) with
    | true =>
      rw [nameSpan, if_pos ends]
      exact unbroken_nil
    | false =>
      rw [nameSpan_cons ends]
      obtain ⟨notOpen, notClose, notAnd, notOr⟩ := endsName_eq_false_iff.mp ends
      have first : ∀ d, (nameSpan t).1.head? = some d → t.head? = some d := by
        intro d first
        rw [← nameSpan_append t, List.head?_append, first]
        rfl
      exact ⟨List.not_mem_cons_of_ne_of_not_mem notOpen.symm ih.noOpen,
        List.not_mem_cons_of_ne_of_not_mem notClose.symm ih.noClose,
        ⟨fun same next => notAnd same (first _ next), ih.noAnd⟩,
        ⟨fun same next => notOr same (first _ next), ih.noOr⟩⟩

theorem endsName_nameSpan (t : Text) : endsName (nameSpan t).2 = true := by
  induction t with
  | nil => rfl
  | cons c t ih =>
    cases ends : endsName (c :: t) with
    | true =>
      rw [nameSpan, if_pos ends]
      exact ends
    | false =>
      rw [nameSpan_cons ends]
      exact ih

/-! ### Following the scan -/

theorem scan_skip {c : Char} (space : Text.isAsciiSpace c = true) (operand : Bool) (offset : Nat)
    (t : Text) : scan operand offset (c :: t) = scan operand (offset + 1) t := by
  have other : ∀ d, Text.isAsciiSpace d = false → c ≠ d := by
    rintro d solid rfl
    exact Bool.false_ne_true (solid.symm.trans space)
  rw [scan.eq_6 operand offset c t (other '(' rfl) (other ')' rfl)
    (fun _ same => absurd same (other '&' rfl)) (fun _ same => absurd same (other '|' rfl)),
    if_pos space]

/-- A text is scanned bracket by bracket, operator by operator and name by name. -/
@[elab_as_elim]
theorem scan_induction {motive : Bool → Nat → Text → Prop}
    (nil : ∀ operand offset, motive operand offset [])
    (openBracket : ∀ operand offset t, motive true (offset + 1) t →
      motive operand offset ('(' :: t))
    (closeBracket : ∀ operand offset t, motive false (offset + 1) t →
      motive operand offset (')' :: t))
    (and : ∀ operand offset t, motive true (offset + 2) t → motive operand offset ('&' :: '&' :: t))
    (or : ∀ operand offset t, motive true (offset + 2) t → motive operand offset ('|' :: '|' :: t))
    (skip : ∀ operand offset c t, Text.isAsciiSpace c = true → motive operand (offset + 1) t →
      motive operand offset (c :: t))
    (not : ∀ offset t, motive true (offset + 1) t → motive true offset ('!' :: t))
    (name : ∀ operand offset c t name rest, nameSpan (c :: t) = (c :: name, rest) →
      Text.isAsciiSpace c = false → (operand && c == '!') = false →
      motive false (offset + Text.byteLength (c :: name)) rest → motive operand offset (c :: t))
    (operand : Bool) (offset : Nat) (t : Text) : motive operand offset t := by
  fun_induction scan operand offset t with
  | case1 operand offset => exact nil operand offset
  | case2 operand offset t ih => exact openBracket operand offset t ih
  | case3 operand offset t ih => exact closeBracket operand offset t ih
  | case4 operand offset t ih => exact and operand offset t ih
  | case5 operand offset t ih => exact or operand offset t ih
  | case6 operand offset c t notOpen notClose notAnd notOr space ih =>
    exact skip operand offset c t space ih
  | case7 operand offset c t notOpen notClose notAnd notOr solid negates ih =>
    obtain ⟨rfl, same⟩ := (Bool.and_eq_true_iff).mp negates
    obtain rfl := beq_iff_eq.mp same
    exact not offset t ih
  | case8 operand offset c t notOpen notClose notAnd notOr solid operator raw ih =>
    have goesOn : endsName (c :: t) = false := by
      apply endsName_eq_false notOpen notClose
      · intro same next
        obtain ⟨u, rfl⟩ := List.head?_eq_some_iff.mp next
        exact notAnd u same rfl
      · intro same next
        obtain ⟨u, rfl⟩ := List.head?_eq_some_iff.mp next
        exact notOr u same rfl
    exact name operand offset c t _ _ (nameSpan_cons goesOn) (by simpa using solid)
      (by simpa using operator) ih

/-- A token without its place. -/
def word (token : Token) : Kind × Text := (token.kind, token.text)

theorem map_word_scan (operand : Bool) (offset other : Nat) (t : Text) :
    (scan operand offset t).map word = (scan operand other t).map word := by
  induction operand, offset, t using scan_induction generalizing other with
  | nil operand offset => rw [scan, scan]
  | openBracket operand offset t ih | closeBracket operand offset t ih =>
    rw [scan, scan, List.map_cons, List.map_cons, ih (other + 1)]
    rfl
  | and operand offset t ih | or operand offset t ih =>
    rw [scan, scan, List.map_cons, List.map_cons, ih (other + 2)]
    rfl
  | skip operand offset c t space ih => rw [scan_skip space, scan_skip space, ih (other + 1)]
  | not offset t ih =>
    rw [scan_not, scan_not, List.map_cons, List.map_cons, ih (other + 1)]
    rfl
  | name operand offset c t name rest span solid operator ih =>
    rw [scan_of_nameSpan span solid operator, scan_of_nameSpan span solid operator, List.map_cons,
      List.map_cons, ih]
    rfl

theorem unbroken_of_nameSpan {t name rest : Text} (span : nameSpan t = (name, rest)) :
    Unbroken name := by
  have unbroken := unbroken_nameSpan t
  rwa [span] at unbroken

theorem append_of_nameSpan {t name rest : Text} (span : nameSpan t = (name, rest)) :
    t = name ++ rest := by
  have whole := nameSpan_append t
  rw [span] at whole
  exact whole.symm

/-- The text of a name token is trimmed and in one piece. -/
theorem name_of_mem_scan {operand : Bool} {offset : Nat} {t : Text} {token : Token}
    (member : token ∈ scan operand offset t) (isName : token.kind = .name) :
    Text.trim token.text = token.text ∧ Unbroken token.text := by
  induction operand, offset, t using scan_induction with
  | nil operand offset => simp [scan] at member
  | openBracket operand offset t ih | closeBracket operand offset t ih | and operand offset t ih
  | or operand offset t ih =>
    rw [scan] at member
    rcases List.mem_cons.mp member with rfl | further
    · cases isName
    · exact ih further
  | skip operand offset c t space ih =>
    rw [scan_skip space] at member
    exact ih member
  | not offset t ih =>
    rw [scan_not] at member
    rcases List.mem_cons.mp member with rfl | further
    · cases isName
    · exact ih further
  | name operand offset c t name rest span solid operator ih =>
    rw [scan_of_nameSpan span solid operator] at member
    rcases List.mem_cons.mp member with rfl | further
    · exact ⟨Text.trim_trim _, (unbroken_of_nameSpan span).trim⟩
    · exact ih further

/-! ### Places -/

/-- The tokens stand in the text at their offsets, one behind the other, and there is only white
space between them. -/
inductive Covers : Nat → Text → List Token → Prop where
  | done {offset : Nat} {gap : Text} (spaces : ∀ c ∈ gap, Text.isSpace c = true) :
      Covers offset gap []
  | token {offset : Nat} {gap rest : Text} {token : Token} {tokens : List Token}
      (spaces : ∀ c ∈ gap, Text.isSpace c = true)
      (starts : token.offset = offset + Text.byteLength gap)
      (covers : Covers (token.offset + Text.byteLength token.text) rest tokens) :
      Covers offset (gap ++ (token.text ++ rest)) (token :: tokens)

theorem Covers.append_spaces {offset : Nat} {gap t : Text} {tokens : List Token}
    (spaces : ∀ c ∈ gap, Text.isSpace c = true)
    (covers : Covers (offset + Text.byteLength gap) t tokens) :
    Covers offset (gap ++ t) tokens := by
  cases covers with
  | done further =>
    refine .done fun c member => ?_
    exact (List.mem_append.mp member).elim (spaces c) (further c)
  | token further starts covers =>
    rw [← List.append_assoc]
    refine .token (fun c member => ?_) ?_ covers
    · exact (List.mem_append.mp member).elim (spaces c) (further c)
    · rw [starts, Text.byteLength_append, Nat.add_assoc]

/-- A token that starts where the text does. -/
theorem Covers.here {kind : Kind} {word rest t : Text} {offset stop : Nat} {tokens : List Token}
    (whole : t = word ++ rest) (ends : stop = offset + Text.byteLength word)
    (covers : Covers stop rest tokens) : Covers offset t (⟨kind, word, offset⟩ :: tokens) := by
  rw [ends] at covers
  rw [whole]
  exact @Covers.token offset [] rest ⟨kind, word, offset⟩ tokens (List.forall_mem_nil _) rfl covers

/-- A name stands between the white space at both ends of its raw text. -/
theorem Covers.name {raw rest : Text} {offset : Nat} {tokens : List Token}
    (covers : Covers (offset + Text.byteLength raw) rest tokens) :
    Covers offset (raw ++ rest) (ofName raw offset :: tokens) := by
  obtain ⟨trail, back, behind⟩ := Text.trimEndBy_split Text.isSpace (Text.trimStart raw)
  have front : raw = raw.takeWhile Text.isSpace ++ Text.trimStart raw :=
    List.takeWhile_append_dropWhile.symm
  have lead : ∀ c ∈ raw.takeWhile Text.isSpace, Text.isSpace c = true :=
    List.all_eq_true.mp (List.all_takeWhile ..)
  generalize raw.takeWhile Text.isSpace = gap at front lead
  have inner : Text.byteLength (Text.trimStart raw) =
      Text.byteLength (Text.trim raw) + Text.byteLength trail := by
    rw [back, Text.byteLength_append]
    rfl
  have total : Text.byteLength raw =
      Text.byteLength gap + Text.byteLength (Text.trimStart raw) := by
    rw [← Text.byteLength_append, ← front]
  have starts : (ofName raw offset).offset = offset + Text.byteLength gap := by
    simp only [ofName]
    omega
  have whole : raw ++ rest = gap ++ ((ofName raw offset).text ++ (trail ++ rest)) := by
    conv_lhs => rw [front, back]
    simp only [List.append_assoc]
    rfl
  have ends : offset + Text.byteLength raw =
      (ofName raw offset).offset + Text.byteLength (ofName raw offset).text +
        Text.byteLength trail := by
    have text : (ofName raw offset).text = Text.trim raw := rfl
    rw [starts, text]
    omega
  rw [whole]
  rw [ends] at covers
  exact .token lead starts (.append_spaces behind covers)

theorem byteLength_isAsciiSpace {c : Char} (space : Text.isAsciiSpace c = true) :
    Text.byteLength [c] = 1 := by
  simp only [Text.isAsciiSpace, Bool.or_eq_true, beq_iff_eq] at space
  rcases space with (((rfl | rfl) | rfl) | rfl) | rfl <;> rfl

theorem covers_scan (operand : Bool) (offset : Nat) (t : Text) :
    Covers offset t (scan operand offset t) := by
  induction operand, offset, t using scan_induction with
  | nil operand offset =>
    rw [scan]
    exact .done (List.forall_mem_nil _)
  | openBracket operand offset t ih | closeBracket operand offset t ih | and operand offset t ih
  | or operand offset t ih =>
    rw [scan]
    exact .here rfl rfl ih
  | skip operand offset c t space ih =>
    have wide := Text.isSpace_of_isAsciiSpace space
    have single : Text.byteLength [c] = 1 := byteLength_isAsciiSpace space
    rw [scan_skip space]
    exact .append_spaces (List.forall_mem_singleton.mpr wide) (single ▸ ih)
  | not offset t ih =>
    rw [scan_not]
    exact .here rfl rfl ih
  | name operand offset c t name rest span solid operator ih =>
    rw [scan_of_nameSpan span solid operator, append_of_nameSpan span]
    exact .name ih

theorem Covers.place {offset : Nat} {t : Text} {token : Token} {tokens : List Token}
    (covers : Covers offset t tokens) (member : token ∈ tokens) :
    ∃ front back, t = front ++ (token.text ++ back) ∧
      token.offset = offset + Text.byteLength front := by
  induction covers with
  | done spaces => cases member
  | @token offset gap rest first tokens spaces starts covers ih =>
    rcases List.mem_cons.mp member with rfl | further
    · exact ⟨gap, rest, rfl, starts⟩
    · obtain ⟨front, back, rfl, later⟩ := ih further
      refine ⟨gap ++ (first.text ++ front), back, by simp only [List.append_assoc], ?_⟩
      rw [later, starts, Text.byteLength_append, Text.byteLength_append, Nat.add_assoc, Nat.add_assoc]

/-! ### Brackets -/

def bracket? (token : Token) : Option Char :=
  match token.kind with
  | .openBracket => some '('
  | .closeBracket => some ')'
  | _ => none

def isBracket (c : Char) : Bool := c == '(' || c == ')'

theorem filter_isBracket_of_unbroken {t : Text} (unbroken : Unbroken t) :
    t.filter isBracket = [] := by
  rw [List.filter_eq_nil_iff]
  intro c member bracket
  simp only [isBracket, Bool.or_eq_true, beq_iff_eq] at bracket
  rcases bracket with rfl | rfl
  · exact unbroken.noOpen member
  · exact unbroken.noClose member

theorem isBracket_of_isAsciiSpace {c : Char} (space : Text.isAsciiSpace c = true) :
    isBracket c = false := by
  simp only [isBracket, Bool.or_eq_false_iff, beq_eq_false_iff_ne]
  constructor
  · rintro rfl
    cases space
  · rintro rfl
    cases space

theorem brackets_scan (operand : Bool) (offset : Nat) (t : Text) :
    (scan operand offset t).filterMap bracket? = t.filter isBracket := by
  induction operand, offset, t using scan_induction with
  | nil operand offset => simp [scan]
  | openBracket operand offset t ih | closeBracket operand offset t ih | and operand offset t ih
  | or operand offset t ih =>
    rw [scan, List.filterMap_cons, ih]
    rfl
  | skip operand offset c t space ih =>
    rw [scan_skip space, ih, List.filter_cons_of_neg (by simp [isBracket_of_isAsciiSpace space])]
  | not offset t ih =>
    rw [scan_not, List.filterMap_cons, ih]
    rfl
  | name operand offset c t name rest span solid operator ih =>
    have unbroken := filter_isBracket_of_unbroken (unbroken_of_nameSpan span)
    rw [scan_of_nameSpan span solid operator, List.filterMap_cons, ih, append_of_nameSpan span,
      List.filter_append, unbroken]
    rfl

theorem balancedFrom_filter (depth : Nat) (t : Text) :
    balancedFrom depth (t.filter isBracket) = balancedFrom depth t := by
  fun_induction balancedFrom depth t with
  | case1 depth => rfl
  | case2 depth t ih => exact ih
  | case3 t => rfl
  | case4 depth t ih => exact ih
  | case5 depth c t notOpen notOutside notInside ih =>
    have notClose : c ≠ ')' := by
      cases depth with
      | zero => exact notOutside rfl
      | succ depth => exact notInside depth rfl
    have content : isBracket c = false := by
      simpa [isBracket] using And.intro notOpen notClose
    rw [List.filter_cons_of_neg (by simp [content]), ih]

end Token

end FilterPrep.Condition
