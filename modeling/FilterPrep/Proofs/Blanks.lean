import FilterPrep.Proofs.Tokens

/-!
# Blanks in front of operands

Only some blanks are skipped between tokens; any other starts a name, and is trimmed off again
afterwards. What is left of such a name may be nothing, or start with a `!` that was not taken for a
negation. `bare_iff_kinds_eq` says that this happens exactly if the blanks matter: if the text would
be cut into other kinds of tokens with a space for each of them.
-/

namespace FilterPrep.Condition

def plainBlank (c : Char) : Char := if Text.isSpace c then ' ' else c

/-- The text with a space for each blank. -/
def plainBlanks (t : Text) : Text := t.map plainBlank

@[simp] theorem plainBlanks_cons (c : Char) (t : Text) :
    plainBlanks (c :: t) = plainBlank c :: plainBlanks t := rfl

@[simp] theorem plainBlanks_append (first second : Text) :
    plainBlanks (first ++ second) = plainBlanks first ++ plainBlanks second :=
  List.map_append

theorem plainBlank_of_isSpace {c : Char} (blank : Text.isSpace c = true) : plainBlank c = ' ' :=
  if_pos blank

theorem plainBlank_of_solid {c : Char} (solid : Text.isSpace c = false) : plainBlank c = c :=
  if_neg (by simp [solid])

theorem plainBlank_eq_iff {c mark : Char} (solid : Text.isSpace mark = false) :
    plainBlank c = mark ↔ c = mark := by
  cases blank : Text.isSpace c with
  | false => rw [plainBlank_of_solid blank]
  | true =>
    rw [plainBlank_of_isSpace blank]
    constructor
    · rintro rfl
      cases solid
    · rintro rfl
      exact absurd (solid.symm.trans blank) Bool.false_ne_true

theorem head?_plainBlanks {mark : Char} (solid : Text.isSpace mark = false) (t : Text) :
    (plainBlanks t).head? = some mark ↔ t.head? = some mark := by
  cases t with
  | nil => rfl
  | cons c t => simp [plainBlank_eq_iff solid]

namespace Token

theorem endsName_plainBlanks (t : Text) : endsName (plainBlanks t) = endsName t := by
  cases t with
  | nil => rfl
  | cons c t =>
    have same : endsName (plainBlanks (c :: t)) = false ↔ endsName (c :: t) = false := by
      rw [plainBlanks_cons, endsName_eq_false_iff, endsName_eq_false_iff]
      simp only [ne_eq, plainBlank_eq_iff (show Text.isSpace '(' = false by decide),
        plainBlank_eq_iff (show Text.isSpace ')' = false by decide),
        plainBlank_eq_iff (show Text.isSpace '&' = false by decide),
        plainBlank_eq_iff (show Text.isSpace '|' = false by decide),
        head?_plainBlanks (show Text.isSpace '&' = false by decide),
        head?_plainBlanks (show Text.isSpace '|' = false by decide)]
    exact Bool.eq_iff_iff.mpr (by simpa using not_congr same)

theorem nameSpan_plainBlanks (t : Text) :
    nameSpan (plainBlanks t) = (plainBlanks (nameSpan t).1, plainBlanks (nameSpan t).2) := by
  induction t with
  | nil => rfl
  | cons c t ih =>
    have plain := endsName_plainBlanks (c :: t)
    cases ends : endsName (c :: t) with
    | true =>
      rw [ends, plainBlanks_cons] at plain
      rw [nameSpan, if_pos ends, plainBlanks_cons, nameSpan]
      exact if_pos plain
    | false =>
      rw [ends, plainBlanks_cons] at plain
      rw [nameSpan_cons ends, plainBlanks_cons, nameSpan_cons plain, ih]
      rfl

theorem nameSpan_of_append (lead : Text) {t name rest : Text}
    (span : nameSpan (lead ++ t) = (lead ++ name, rest)) : nameSpan t = (name, rest) := by
  induction lead with
  | nil => exact span
  | cons c lead ih =>
    rw [List.cons_append, List.cons_append] at span
    cases ends : endsName (c :: (lead ++ t)) with
    | true =>
      rw [nameSpan, if_pos ends] at span
      cases span
    | false =>
      rw [nameSpan_cons ends] at span
      obtain ⟨inside, behind⟩ := Prod.mk.inj span
      exact ih (Prod.ext (List.cons.inj inside).2 behind)

/-! ### Kinds of tokens -/

/-- What the tokens of a text are, without where they stand. -/
def kinds (operand : Bool) (t : Text) : List Kind := (scan operand 0 t).map Token.kind

theorem map_kind_scan (operand : Bool) (offset other : Nat) (t : Text) :
    (scan operand offset t).map Token.kind = (scan operand other t).map Token.kind := by
  have words := congrArg (List.map Prod.fst) (map_word_scan operand offset other t)
  rwa [List.map_map, List.map_map] at words

theorem kinds_eq_cons {operand next : Bool} {offset : Nat} {token : Token} {t rest : Text}
    (scanned : scan operand 0 t = token :: scan next offset rest) :
    kinds operand t = token.kind :: kinds next rest := by
  rw [kinds, scanned, List.map_cons, map_kind_scan next offset 0, kinds]

theorem kinds_open (operand : Bool) (t : Text) :
    kinds operand ('(' :: t) = .openBracket :: kinds true t :=
  kinds_eq_cons (scan.eq_2 operand 0 t)

theorem kinds_close (operand : Bool) (t : Text) :
    kinds operand (')' :: t) = .closeBracket :: kinds false t :=
  kinds_eq_cons (scan.eq_3 operand 0 t)

theorem kinds_and (operand : Bool) (t : Text) :
    kinds operand ('&' :: '&' :: t) = .and :: kinds true t :=
  kinds_eq_cons (scan.eq_4 operand 0 t)

theorem kinds_or (operand : Bool) (t : Text) :
    kinds operand ('|' :: '|' :: t) = .or :: kinds true t :=
  kinds_eq_cons (scan.eq_5 operand 0 t)

theorem kinds_not (t : Text) : kinds true ('!' :: t) = .not :: kinds true t :=
  kinds_eq_cons (scan_not 0 t)

theorem kinds_skip (lead : Text) (spaces : ∀ c ∈ lead, Text.isAsciiSpace c = true)
    (operand : Bool) (t : Text) : kinds operand (lead ++ t) = kinds operand t := by
  induction lead with
  | nil => rfl
  | cons c lead ih =>
    obtain ⟨space, others⟩ := List.forall_mem_cons.mp spaces
    rw [List.cons_append, kinds, scan_skip space, map_kind_scan operand _ 0]
    exact ih others

theorem kinds_name {operand : Bool} {c : Char} {t name rest : Text}
    (span : nameSpan (c :: t) = (c :: name, rest)) (solid : Text.isAsciiSpace c = false)
    (operator : (operand && c == '!') = false) :
    kinds operand (c :: t) = .name :: kinds false rest :=
  kinds_eq_cons (scan_of_nameSpan span solid operator 0)

theorem head?_kinds_of_endsName {t : Text} (ends : endsName t = true) (operand : Bool) :
    (kinds operand t).head? ≠ some .name := by
  unfold endsName at ends
  split at ends
  · simp [kinds, scan]
  · simp [kinds_open]
  · simp [kinds_close]
  · simp [kinds_and]
  · simp [kinds_or]
  · cases ends

/-- Whether an operand can start behind a token. -/
def Kind.opens : Kind → Bool
  | .name => false
  | .closeBracket => false
  | _ => true

/-- Names stand only where an operand can start. -/
def Placed : Bool → List Kind → Prop
  | _, [] => True
  | operand, kind :: kinds => (kind = .name → operand = true) ∧ Placed kind.opens kinds

/-- Something is left of the name, and no negation. -/
def Bare (name : Text) : Prop := name ≠ [] ∧ name.head? ≠ some '!'

theorem bare_trim_iff (raw : Text) :
    Bare (Text.trim raw) ↔ ∃ c body, raw.dropWhile Text.isSpace = c :: body ∧ c ≠ '!' := by
  rw [Text.trim, Text.trimBy]
  cases body : raw.dropWhile Text.isSpace with
  | nil => simp [Bare, Text.trimEndBy]
  | cons c rest =>
    have solid : Text.isSpace c = false :=
      Text.not_drop_of_head?_dropWhile raw c (by rw [body]; rfl)
    have kept := Text.trimEndBy_append_cons solid [] rest
    rw [List.nil_append, List.nil_append] at kept
    rw [kept]
    simp [Bare]

/-! ### A name that starts with blanks -/

variable {operand : Bool} {raw rest : Text}

theorem kinds_plainBlanks_append (operand : Bool) (raw rest : Text) :
    kinds operand (plainBlanks (raw ++ rest)) =
      kinds operand (plainBlanks (raw.dropWhile Text.isSpace ++ rest)) := by
  have spaces : ∀ c ∈ plainBlanks (raw.takeWhile Text.isSpace), Text.isAsciiSpace c = true := by
    intro c member
    obtain ⟨d, blank, rfl⟩ := List.mem_map.mp member
    rw [plainBlank_of_isSpace (List.mem_takeWhile_imp blank)]
    decide
  have whole : raw ++ rest = raw.takeWhile Text.isSpace ++ (raw.dropWhile Text.isSpace ++ rest) := by
    rw [← List.append_assoc, List.takeWhile_append_dropWhile]
  rw [whole, plainBlanks_append, kinds_skip _ spaces]

theorem kinds_plainBlanks_of_bare (span : nameSpan (raw ++ rest) = (raw, rest))
    (bare : Bare (Text.trim raw)) :
    kinds operand (plainBlanks (raw ++ rest)) = .name :: kinds false (plainBlanks rest) := by
  obtain ⟨c, body, dropped, notNot⟩ := (bare_trim_iff raw).mp bare
  have solid : Text.isSpace c = false :=
    Text.not_drop_of_head?_dropWhile raw c (by rw [dropped]; rfl)
  have split : raw.takeWhile Text.isSpace ++ c :: body = raw := by
    rw [← dropped, List.takeWhile_append_dropWhile]
  have inner : nameSpan (c :: body ++ rest) = (c :: body, rest) := by
    apply nameSpan_of_append (raw.takeWhile Text.isSpace)
    rw [← List.append_assoc, split, span]
  have plain : nameSpan (plainBlanks (c :: body ++ rest)) =
      (plainBlanks (c :: body), plainBlanks rest) := by
    rw [nameSpan_plainBlanks, inner]
  rw [List.cons_append, plainBlanks_cons, plainBlanks_cons, plainBlank_of_solid solid] at plain
  rw [kinds_plainBlanks_append, dropped, List.cons_append, plainBlanks_cons,
    plainBlank_of_solid solid]
  refine kinds_name plain ?_ ?_
  · cases space : Text.isAsciiSpace c with
    | false => rfl
    | true => exact absurd (solid.symm.trans (Text.isSpace_of_isAsciiSpace space)) (by decide)
  · simp [notNot]

theorem head?_kinds_plainBlanks (span : nameSpan (raw ++ rest) = (raw, rest))
    (notBare : ¬Bare (Text.trim raw)) :
    (kinds true (plainBlanks (raw ++ rest))).head? ≠ some .name := by
  rw [kinds_plainBlanks_append]
  cases dropped : raw.dropWhile Text.isSpace with
  | nil =>
    have ends : endsName (plainBlanks rest) = true := by
      have stops := endsName_nameSpan (raw ++ rest)
      rw [span] at stops
      rw [endsName_plainBlanks, stops]
    exact head?_kinds_of_endsName ends true
  | cons c body =>
    have negated : c = '!' := by
      by_contra other
      exact notBare ((bare_trim_iff raw).mpr ⟨c, body, dropped, other⟩)
    rw [negated, List.cons_append, plainBlanks_cons, plainBlank_of_solid (by decide), kinds_not]
    simp

/-! ### Bare names -/

theorem forall_names_cons {token : Token} {tokens : List Token} :
    (∀ other ∈ token :: tokens, other.kind = .name → Bare other.text) ↔
      (token.kind = .name → Bare token.text) ∧
        ∀ other ∈ tokens, other.kind = .name → Bare other.text :=
  List.forall_mem_cons

theorem forall_names_mark {token : Token} {tokens : List Token} {own plain : List Kind}
    (mark : token.kind ≠ .name)
    (further : (∀ other ∈ tokens, other.kind = .name → Bare other.text) ↔ own = plain) :
    (∀ other ∈ token :: tokens, other.kind = .name → Bare other.text) ↔
      token.kind :: own = token.kind :: plain := by
  rw [forall_names_cons, further, List.cons.injEq]
  exact ⟨fun both => ⟨rfl, both.2⟩, fun both => ⟨fun isName => absurd isName mark, both.2⟩⟩

/-- Where names stand only as operands, all of them are bare exactly if spaces could stand for the
blanks. -/
theorem bare_iff_kinds_eq (operand : Bool) (offset : Nat) (t : Text)
    (placed : Placed operand ((scan operand offset t).map Token.kind)) :
    (∀ token ∈ scan operand offset t, token.kind = .name → Bare token.text) ↔
      kinds operand t = kinds operand (plainBlanks t) := by
  induction operand, offset, t using scan_induction with
  | nil operand offset => simp [scan, plainBlanks]
  | openBracket operand offset t ih =>
    rw [scan] at placed ⊢
    rw [kinds_open, plainBlanks_cons, plainBlank_of_solid (by decide), kinds_open]
    exact forall_names_mark (by simp) (ih placed.2)
  | closeBracket operand offset t ih =>
    rw [scan] at placed ⊢
    rw [kinds_close, plainBlanks_cons, plainBlank_of_solid (by decide), kinds_close]
    exact forall_names_mark (by simp) (ih placed.2)
  | and operand offset t ih =>
    rw [scan] at placed ⊢
    rw [kinds_and, plainBlanks_cons, plainBlanks_cons, plainBlank_of_solid (by decide), kinds_and]
    exact forall_names_mark (by simp) (ih placed.2)
  | or operand offset t ih =>
    rw [scan] at placed ⊢
    rw [kinds_or, plainBlanks_cons, plainBlanks_cons, plainBlank_of_solid (by decide), kinds_or]
    exact forall_names_mark (by simp) (ih placed.2)
  | skip operand offset c t space ih =>
    have own : kinds operand (c :: t) = kinds operand t :=
      kinds_skip [c] (by simpa using space) operand t
    have plain : kinds operand (plainBlanks (c :: t)) = kinds operand (plainBlanks t) := by
      rw [plainBlanks_cons, plainBlank_of_isSpace (Text.isSpace_of_isAsciiSpace space)]
      exact kinds_skip [' '] (by simp [Text.isAsciiSpace]) operand _
    rw [scan_skip space] at placed ⊢
    rw [own, plain]
    exact ih placed
  | not offset t ih =>
    rw [scan_not] at placed ⊢
    rw [kinds_not, plainBlanks_cons, plainBlank_of_solid (by decide), kinds_not]
    exact forall_names_mark (by simp) (ih placed.2)
  | name operand offset c t name rest span solid operator ih =>
    have whole := append_of_nameSpan span
    rw [scan_of_nameSpan span solid operator] at placed ⊢
    obtain rfl : operand = true := placed.1 rfl
    rw [forall_names_cons, ih placed.2, kinds_name span solid operator, whole]
    rw [whole] at span
    -- a name that is not bare starts with a blank; once that is skipped, no name starts there
    by_cases bare : Bare (Text.trim (c :: name))
    · rw [kinds_plainBlanks_of_bare span bare, List.cons.injEq]
      exact ⟨fun both => ⟨rfl, both.2⟩, fun both => ⟨fun _ => bare, both.2⟩⟩
    · have other := head?_kinds_plainBlanks span bare
      constructor
      · intro both
        exact absurd (both.1 rfl) bare
      · intro same
        rw [← same] at other
        exact absurd rfl other

/-- No name is hidden behind a blank that is skipped. -/
theorem bare_of_ascii {operand : Bool} {offset : Nat} {t : Text}
    (placed : Placed operand ((scan operand offset t).map Token.kind))
    (ascii : ∀ c ∈ t, Text.isSpace c = true → Text.isAsciiSpace c = true) :
    ∀ token ∈ scan operand offset t, token.kind = .name → Bare token.text := by
  induction operand, offset, t using scan_induction with
  | nil operand offset => simp [scan]
  | openBracket operand offset t ih | closeBracket operand offset t ih =>
    rw [scan] at placed ⊢
    have behind := (List.forall_mem_cons.mp ascii).2
    exact forall_names_cons.mpr ⟨by simp, ih placed.2 behind⟩
  | and operand offset t ih | or operand offset t ih =>
    rw [scan] at placed ⊢
    have behind := (List.forall_mem_cons.mp (List.forall_mem_cons.mp ascii).2).2
    exact forall_names_cons.mpr ⟨by simp, ih placed.2 behind⟩
  | skip operand offset c t space ih =>
    rw [scan_skip space] at placed ⊢
    exact ih placed (List.forall_mem_cons.mp ascii).2
  | not offset t ih =>
    rw [scan_not] at placed ⊢
    exact forall_names_cons.mpr ⟨by simp, ih placed.2 (List.forall_mem_cons.mp ascii).2⟩
  | name operand offset c t name rest span solid operator ih =>
    rw [scan_of_nameSpan span solid operator] at placed ⊢
    obtain rfl : operand = true := placed.1 rfl
    have whole := append_of_nameSpan span
    have behind : ∀ d ∈ rest, Text.isSpace d = true → Text.isAsciiSpace d = true := by
      intro d member
      exact ascii d (by rw [whole]; exact List.mem_append_right _ member)
    have notBlank : ¬Text.isSpace c = true := by
      intro blank
      exact absurd (solid.symm.trans (ascii c List.mem_cons_self blank)) Bool.false_ne_true
    have bare : Bare (Text.trim (c :: name)) :=
      (bare_trim_iff _).mpr ⟨c, name, List.dropWhile_cons_of_neg notBlank, by simpa using operator⟩
    exact forall_names_cons.mpr ⟨fun _ => bare, ih placed.2 behind⟩

end Token

end FilterPrep.Condition
