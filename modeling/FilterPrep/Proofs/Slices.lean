import FilterPrep.Proofs.Blanks
import FilterPrep.Proofs.Encoding

/-!
# Tokens as slices of the bytes

A condition can be cut where it lies, in its UTF-8 bytes: every test of the scan is about an ASCII
character, and no byte of a longer character is one. `scanBytes?` walks over the bytes with one
byte of lookahead and decodes what it cuts; on the bytes of a text it never cuts into a character
and gives the tokens of that text (`scanBytes?_encode`). `ofText_slices` says what these tokens
are: slices of the text in order, with only white space between them.
-/

namespace FilterPrep.Condition.Token

open Utf8

/-! ### Scanning bytes -/

/-- Whether a name ends in front of these bytes. -/
def bytesEndName : List UInt8 → Bool
  | [] => true
  | b :: rest =>
    b == '('.toUInt8 || b == ')'.toUInt8 ||
      b == '&'.toUInt8 && rest.head? == some '&'.toUInt8 ||
      b == '|'.toUInt8 && rest.head? == some '|'.toUInt8

def nameLength : List UInt8 → Nat
  | [] => 0
  | b :: rest => if bytesEndName (b :: rest) then 0 else nameLength rest + 1

def isSpaceByte (b : UInt8) : Bool :=
  b == ' '.toUInt8 || b == '\t'.toUInt8 || b == '\n'.toUInt8 || b == '\x0C'.toUInt8 ||
    b == '\r'.toUInt8

/-- The kind of the token that starts with the byte `b`, and the number of its bytes behind `b`. -/
def tokenAt (operand : Bool) (b : UInt8) (rest : List UInt8) : Kind × Nat :=
  if b = '('.toUInt8 then (.openBracket, 0)
  else if b = ')'.toUInt8 then (.closeBracket, 0)
  else if b = '&'.toUInt8 ∧ rest.head? = some '&'.toUInt8 then (.and, 1)
  else if b = '|'.toUInt8 ∧ rest.head? = some '|'.toUInt8 then (.or, 1)
  else if b = '!'.toUInt8 ∧ operand then (.not, 0)
  else (.name, nameLength rest)

/-- The token of the raw characters `raw` that start at `offset`. -/
def ofRaw : Kind → (raw : Text) → (offset : Nat) → Token
  | .name, raw, offset => ofName raw offset
  | kind, raw, offset => ⟨kind, raw, offset⟩

/-- The tokens that are cut out of the bytes; none, if one of the slices is not a text. -/
def scanBytes? (operand : Bool) (offset : Nat) : List UInt8 → Option (List Token)
  | [] => some []
  | b :: rest =>
    if isSpaceByte b then scanBytes? operand (offset + 1) rest
    else
      let (kind, more) := tokenAt operand b rest
      (decode? (b :: rest.take more)).bind fun raw =>
        (scanBytes? kind.opens (offset + (more + 1)) (rest.drop more)).map
          (ofRaw kind raw offset :: ·)
termination_by bytes => bytes.length
decreasing_by
  · simp
  · simp only [List.length_drop, List.length_cons]
    omega

/-! ### Bytes and characters agree -/

theorem bytesEndName_eq_false_iff {b : UInt8} {rest : List UInt8} :
    bytesEndName (b :: rest) = false ↔
      b ≠ '('.toUInt8 ∧ b ≠ ')'.toUInt8 ∧ (b = '&'.toUInt8 → rest.head? ≠ some '&'.toUInt8) ∧
        (b = '|'.toUInt8 → rest.head? ≠ some '|'.toUInt8) := by
  simp [bytesEndName, and_assoc]

theorem head?_behind {c mark next : Char} {b : UInt8} {more : List UInt8}
    (bytes : String.utf8EncodeChar c = b :: more) (ascii : mark.toNat < 128)
    (asciiNext : next.toNat < 128) (t : Text) :
    (b = mark.toUInt8 ∧ (more ++ encode t).head? = some next.toUInt8) ↔
      c = mark ∧ t.head? = some next := by
  rw [lead_eq_iff bytes ascii]
  refine and_congr_right fun same => ?_
  rw [same, utf8EncodeChar_ascii ascii] at bytes
  rw [← (List.cons.inj bytes).2, List.nil_append, head?_encode asciiNext]

theorem bytesEndName_encode (t : Text) : bytesEndName (encode t) = endsName t := by
  cases t with
  | nil => rfl
  | cons c t =>
    obtain ⟨b, more, bytes⟩ := exists_lead c
    rw [encode_cons, bytes, List.cons_append]
    have alike : bytesEndName (b :: (more ++ encode t)) = false ↔ endsName (c :: t) = false := by
      rw [bytesEndName_eq_false_iff, endsName_eq_false_iff, ← not_and, ← not_and, ← not_and,
        ← not_and]
      simp only [ne_eq, lead_eq_iff bytes (show '('.toNat < 128 by decide),
        lead_eq_iff bytes (show ')'.toNat < 128 by decide),
        head?_behind bytes (show '&'.toNat < 128 by decide) (show '&'.toNat < 128 by decide),
        head?_behind bytes (show '|'.toNat < 128 by decide) (show '|'.toNat < 128 by decide)]
    rw [Bool.eq_iff_iff]
    simpa using not_congr alike

theorem nameLength_append {bytes : List UInt8} (long : ∀ b ∈ bytes, 128 ≤ b.toNat)
    (rest : List UInt8) : nameLength (bytes ++ rest) = bytes.length + nameLength rest := by
  induction bytes with
  | nil => simp
  | cons b bytes ih =>
    have high := long b List.mem_cons_self
    have other : ∀ mark : Char, mark.toNat < 128 → b ≠ mark.toUInt8 := by
      rintro mark ascii rfl
      rw [toNat_toUInt8 ascii] at high
      omega
    have goesOn : bytesEndName (b :: (bytes ++ rest)) = false :=
      bytesEndName_eq_false_iff.mpr ⟨other '(' (by decide), other ')' (by decide),
        fun same => absurd same (other '&' (by decide)),
        fun same => absurd same (other '|' (by decide))⟩
    rw [List.cons_append, nameLength, if_neg (by simp [goesOn]),
      ih fun x member => long x (List.mem_cons_of_mem b member), List.length_cons]
    omega

theorem nameLength_encode (t : Text) :
    nameLength (encode t) = Text.byteLength (nameSpan t).1 := by
  induction t with
  | nil => rfl
  | cons c t ih =>
    obtain ⟨b, more, bytes⟩ := exists_lead c
    have whole : encode (c :: t) = b :: (more ++ encode t) := by rw [encode_cons, bytes]; rfl
    have agrees := bytesEndName_encode (c :: t)
    cases ends : endsName (c :: t) with
    | true =>
      rw [ends, whole] at agrees
      rw [whole, nameLength, if_pos agrees, nameSpan, if_pos ends]
      rfl
    | false =>
      rw [nameSpan_cons ends, Text.byteLength, ← ih, ← String.length_utf8EncodeChar c]
      by_cases ascii : c.toNat < 128
      · rw [ends, encode_cons, utf8EncodeChar_ascii ascii, List.singleton_append] at agrees
        rw [encode_cons, utf8EncodeChar_ascii ascii, List.singleton_append, nameLength,
          if_neg (by simp [agrees]), List.length_singleton, Nat.add_comm]
      · rw [encode_cons, nameLength_append fun x member =>
          le_of_mem_utf8EncodeChar (Nat.le_of_not_lt ascii) member]

theorem isSpaceByte_eq {c : Char} {b : UInt8} {more : List UInt8}
    (bytes : String.utf8EncodeChar c = b :: more) : isSpaceByte b = Text.isAsciiSpace c := by
  rw [Bool.eq_iff_iff]
  simp only [isSpaceByte, Text.isAsciiSpace, Bool.or_eq_true, beq_iff_eq]
  rw [lead_eq_iff bytes (show ' '.toNat < 128 by decide),
    lead_eq_iff bytes (show '\t'.toNat < 128 by decide),
    lead_eq_iff bytes (show '\n'.toNat < 128 by decide),
    lead_eq_iff bytes (show '\x0C'.toNat < 128 by decide),
    lead_eq_iff bytes (show '\r'.toNat < 128 by decide)]

theorem scanBytes?_word {operand : Bool} {offset : Nat} (kind : Kind) (word rest : Text)
    {b : UInt8} {more : List UInt8} {tokens : List Token} (bytes : encode word = b :: more)
    (solid : isSpaceByte b = false)
    (here : tokenAt operand b (more ++ encode rest) = (kind, more.length))
    (behind : scanBytes? kind.opens (offset + Text.byteLength word) (encode rest) = some tokens) :
    scanBytes? operand offset (encode (word ++ rest)) =
      some (ofRaw kind word offset :: tokens) := by
  have size : more.length + 1 = Text.byteLength word := by
    rw [← length_encode, bytes, List.length_cons]
  rw [encode_append, bytes, List.cons_append, scanBytes?, if_neg (by simp [solid]), here]
  dsimp only
  rw [List.take_left, List.drop_left, ← bytes, decode?_encode, Option.bind_some, size, behind]
  rfl

theorem tokenAt_name {operand : Bool} {c : Char} {b : UInt8} {more : List UInt8} {t : Text}
    (bytes : String.utf8EncodeChar c = b :: more) (goesOn : endsName (c :: t) = false)
    (operator : (operand && c == '!') = false) :
    tokenAt operand b (more ++ encode t) = (.name, nameLength (more ++ encode t)) := by
  obtain ⟨notOpen, notClose, notAnd, notOr⟩ := endsName_eq_false_iff.mp goesOn
  have notNot : ¬(c = '!' ∧ operand = true) := by
    rintro ⟨rfl, rfl⟩
    cases operator
  rw [tokenAt, if_neg (mt (lead_eq_iff bytes (by decide)).mp notOpen),
    if_neg (mt (lead_eq_iff bytes (by decide)).mp notClose),
    if_neg (mt (head?_behind bytes (by decide) (by decide) t).mp (not_and.mpr notAnd)),
    if_neg (mt (head?_behind bytes (by decide) (by decide) t).mp (not_and.mpr notOr)),
    if_neg (mt (And.imp_left (lead_eq_iff bytes (by decide)).mp) notNot)]

/-- The bytes of a text are never cut inside a character, and the tokens are those of the text. -/
theorem scanBytes?_encode (operand : Bool) (offset : Nat) (t : Text) :
    scanBytes? operand offset (encode t) = some (scan operand offset t) := by
  induction operand, offset, t using scan_induction with
  | nil operand offset => simp [encode, scanBytes?, scan]
  | openBracket operand offset t ih =>
    rw [scan]
    exact scanBytes?_word .openBracket ['('] t rfl rfl rfl ih
  | closeBracket operand offset t ih =>
    rw [scan]
    exact scanBytes?_word .closeBracket [')'] t rfl rfl rfl ih
  | and operand offset t ih =>
    rw [scan]
    exact scanBytes?_word .and ['&', '&'] t rfl rfl rfl ih
  | or operand offset t ih =>
    rw [scan]
    exact scanBytes?_word .or ['|', '|'] t rfl rfl rfl ih
  | skip operand offset c t space ih =>
    obtain ⟨b, more, bytes⟩ := exists_lead c
    have size := byteLength_isAsciiSpace space
    rw [← length_encode, encode_cons, bytes, List.length_append, List.length_cons] at size
    obtain rfl : more = [] := List.length_eq_zero_iff.mp (by omega)
    rw [encode_cons, bytes, List.singleton_append, scanBytes?, isSpaceByte_eq bytes, if_pos space,
      ih, scan_skip space]
  | not offset t ih =>
    rw [scan_not]
    exact scanBytes?_word .not ['!'] t rfl rfl rfl ih
  | name operand offset c t name rest span solid operator ih =>
    obtain ⟨b, more, bytes⟩ := exists_lead c
    have whole : c :: t = (c :: name) ++ rest := append_of_nameSpan span
    have goesOn := endsName_of_nameSpan span
    rw [scan_of_nameSpan span solid operator, whole]
    have first : encode (c :: name) = b :: (more ++ encode name) := by rw [encode_cons, bytes]; rfl
    refine scanBytes?_word .name (c :: name) rest first ((isSpaceByte_eq bytes).trans solid) ?_ ih
    have tail : t = name ++ rest := (List.cons.inj whole).2
    have behind : more ++ encode name ++ encode rest = more ++ encode t := by
      rw [tail, encode_append, List.append_assoc]
    -- the first byte is taken without a test, and the test would have let it pass
    have size := nameLength_encode (c :: t)
    have agrees := bytesEndName_encode (c :: t)
    rw [encode_cons, bytes, List.cons_append] at size agrees
    rw [nameLength, if_neg (by simp [agrees, goesOn]), span, ← length_encode, first,
      List.length_cons] at size
    rw [behind, tokenAt_name bytes goesOn operator, Nat.succ.inj size]

/-! ### Where the tokens stand -/

/-- Where the text of a token ends, in bytes. -/
def stop (token : Token) : Nat := token.offset + Text.byteLength token.text

/-- The byte at `offset` starts a character of the text, or the text ends there. -/
def IsBoundary (t : Text) (offset : Nat) : Prop :=
  ∃ front back, t = front ++ back ∧ Text.byteLength front = offset

/-- The brackets of a text that starts at `offset`, as tokens. -/
def brackets (offset : Nat) : Text → List Token
  | [] => []
  | c :: t =>
    let behind := brackets (offset + c.utf8Size) t
    if c = '(' then ⟨.openBracket, ['('], offset⟩ :: behind
    else if c = ')' then ⟨.closeBracket, [')'], offset⟩ :: behind
    else behind

/-- The tokens are slices of the text, and nothing of it is lost between them. -/
structure Slices (t : Text) (tokens : List Token) : Prop where
  sliced : ∀ token ∈ tokens, IsBoundary t token.offset ∧ IsBoundary t token.stop ∧
    ((encode t).drop token.offset).take (Text.byteLength token.text) = encode token.text
  ordered : tokens.IsChain fun first second => first.stop ≤ second.offset
  covering : ∀ front c back, t = front ++ c :: back → Text.isSpace c = true ∨
    ∃ token ∈ tokens, token.offset ≤ Text.byteLength front ∧
      Text.byteLength front + c.utf8Size ≤ token.stop
  unbroken : ∀ token ∈ tokens, token.kind = .name → '(' ∉ token.text ∧ ')' ∉ token.text ∧
    ¬"&&".toList <:+: token.text ∧ ¬"||".toList <:+: token.text
  apart : tokens.IsChain fun first second => ¬(first.kind = .name ∧ second.kind = .name)
  bracketed : tokens.filter (fun token => token.kind = .openBracket ∨ token.kind = .closeBracket) =
    brackets 0 t

theorem Covers.le_head {offset : Nat} {t : Text} {tokens : List Token}
    (covers : Covers offset t tokens) {token : Token} (first : token ∈ tokens.head?) :
    offset ≤ token.offset := by
  cases covers with
  | done spaces => cases first
  | token spaces starts covers =>
    obtain rfl := Option.mem_some_iff.mp first
    omega

theorem Covers.ordered {offset : Nat} {t : Text} {tokens : List Token}
    (covers : Covers offset t tokens) :
    tokens.IsChain fun first second => first.stop ≤ second.offset := by
  induction covers with
  | done spaces => exact .nil
  | token spaces starts covers ih =>
    exact List.isChain_cons.mpr ⟨fun next first => covers.le_head first, ih⟩

theorem Covers.covering {offset : Nat} {t : Text} {tokens : List Token}
    (covers : Covers offset t tokens) {front back : Text} {c : Char}
    (whole : t = front ++ c :: back) :
    Text.isSpace c = true ∨ ∃ token ∈ tokens, token.offset ≤ offset + Text.byteLength front ∧
      offset + Text.byteLength front + c.utf8Size ≤ token.stop := by
  induction covers generalizing front with
  | done spaces => exact .inl (spaces c (by simp [whole]))
  | @token offset gap rest first tokens spaces starts covers ih =>
    -- the character stands in front of the token, in it or behind it
    obtain ⟨inner, inGap⟩ | ⟨lead, rfl, behindGap⟩ := Text.cons_of_append whole
    · exact .inl (spaces c (by simp [inGap]))
    obtain ⟨last, inToken⟩ | ⟨inner, rfl, behind⟩ := Text.cons_of_append behindGap
    · right
      refine ⟨first, List.mem_cons_self, ?_, ?_⟩
      · rw [starts, Text.byteLength_append]
        omega
      · rw [stop, starts, inToken, Text.byteLength_append, Text.byteLength_append, Text.byteLength]
        omega
    · have place : first.offset + Text.byteLength first.text + Text.byteLength inner =
          offset + Text.byteLength (gap ++ (first.text ++ inner)) := by
        rw [starts, Text.byteLength_append, Text.byteLength_append]
        omega
      have further := ih behind
      rw [place] at further
      obtain space | ⟨token, member, within⟩ := further
      · exact .inl space
      · exact .inr ⟨token, List.mem_cons_of_mem first member, within⟩

/-! ### Names -/

theorem not_infix_of_unpaired {mark : Char} {t : Text} (unpaired : Unpaired mark t) :
    ¬[mark, mark] <:+: t := by
  rintro ⟨front, back, rfl⟩
  obtain ⟨front, -⟩ := unpaired_of_append unpaired
  exact (unpaired_of_append front).2.1 rfl rfl

theorem head?_scan_of_endsName {t : Text} (ends : endsName t = true) (operand : Bool)
    (offset : Nat) : ∀ token ∈ (scan operand offset t).head?, token.kind ≠ .name := by
  intro token first isName
  apply head?_kinds_of_endsName ends operand
  rw [kinds, map_kind_scan operand 0 offset, List.head?_map, Option.mem_def.mp first, ← isName]
  rfl

theorem apart_scan (operand : Bool) (offset : Nat) (t : Text) :
    (scan operand offset t).IsChain fun first second =>
      ¬(first.kind = .name ∧ second.kind = .name) := by
  induction operand, offset, t using scan_induction with
  | nil operand offset =>
    rw [scan]
    exact .nil
  | openBracket operand offset t ih | closeBracket operand offset t ih | and operand offset t ih
  | or operand offset t ih =>
    rw [scan]
    exact List.isChain_cons.mpr ⟨fun next _ both => absurd both.1 (by simp), ih⟩
  | skip operand offset c t space ih =>
    rw [scan_skip space]
    exact ih
  | not offset t ih =>
    rw [scan_not]
    exact List.isChain_cons.mpr ⟨fun next _ both => absurd both.1 (by simp), ih⟩
  | name operand offset c t name rest span solid operator ih =>
    have ends := endsName_nameSpan (c :: t)
    rw [span] at ends
    rw [scan_of_nameSpan span solid operator]
    exact List.isChain_cons.mpr
      ⟨fun next first both => head?_scan_of_endsName ends _ _ next first both.2, ih⟩

/-! ### Brackets -/

theorem brackets_append (offset : Nat) (first second : Text) :
    brackets offset (first ++ second) =
      brackets offset first ++ brackets (offset + Text.byteLength first) second := by
  induction first generalizing offset with
  | nil => rfl
  | cons c first ih =>
    rw [List.cons_append, brackets, brackets, ih, Text.byteLength, Nat.add_assoc]
    split
    · rfl
    · split <;> rfl

theorem brackets_eq_nil {t : Text} (plain : ∀ c ∈ t, ¬isBracket c = true) (offset : Nat) :
    brackets offset t = [] := by
  induction t generalizing offset with
  | nil => rfl
  | cons c t ih =>
    obtain ⟨here, behind⟩ := List.forall_mem_cons.mp plain
    simp only [isBracket, Bool.or_eq_true, beq_iff_eq, not_or] at here
    rw [brackets, if_neg here.1, if_neg here.2, ih behind]

theorem filter_scan (operand : Bool) (offset : Nat) (t : Text) :
    (scan operand offset t).filter
      (fun token => token.kind = .openBracket ∨ token.kind = .closeBracket) =
        brackets offset t := by
  induction operand, offset, t using scan_induction with
  | nil operand offset => simp [scan, brackets]
  | openBracket operand offset t ih | closeBracket operand offset t ih =>
    rw [scan, List.filter_cons_of_pos (by simp), ih]
    rfl
  | and operand offset t ih | or operand offset t ih =>
    rw [scan, List.filter_cons_of_neg (by simp), ih]
    rfl
  | skip operand offset c t space ih =>
    have plain : ∀ d ∈ [c], ¬isBracket d = true := by simp [isBracket_of_isAsciiSpace space]
    rw [scan_skip space, ih, ← List.singleton_append, brackets_append, brackets_eq_nil plain,
      byteLength_isAsciiSpace space, List.nil_append]
  | not offset t ih =>
    rw [scan_not, List.filter_cons_of_neg (by simp), ih]
    rfl
  | name operand offset c t name rest span solid operator ih =>
    have plain := List.filter_eq_nil_iff.mp
      (filter_isBracket_of_unbroken (unbroken_of_nameSpan span))
    rw [scan_of_nameSpan span solid operator, List.filter_cons_of_neg (by simp [ofName]), ih,
      append_of_nameSpan span, brackets_append, brackets_eq_nil plain, List.nil_append]

/-- The bytes of every text can be cut without a look at its characters, and what is cut are slices
of the text between which nothing but white space is lost. -/
theorem ofText_slices (t : Text) :
    scanBytes? true 0 (encode t) = some (ofText t) ∧ Slices t (ofText t) := by
  have covers : Covers 0 t (ofText t) := covers_scan true 0 t
  refine ⟨scanBytes?_encode true 0 t, ?_, covers.ordered, ?_, ?_, apart_scan true 0 t,
    filter_scan true 0 t⟩
  · intro token member
    obtain ⟨front, back, whole, starts⟩ := covers.place member
    rw [Nat.zero_add] at starts
    refine ⟨⟨front, token.text ++ back, whole, starts.symm⟩, ⟨front ++ token.text, back, ?_, ?_⟩, ?_⟩
    · rw [whole, List.append_assoc]
    · rw [Text.byteLength_append, stop, starts]
    · rw [starts, whole, encode_slice]
  · intro front c back whole
    have covered := covers.covering whole
    rwa [Nat.zero_add] at covered
  · intro token member isName
    obtain ⟨-, unbroken⟩ := name_of_mem_scan member isName
    exact ⟨unbroken.noOpen, unbroken.noClose, not_infix_of_unpaired unbroken.noAnd,
      not_infix_of_unpaired unbroken.noOr⟩

/-- Characters of two and three bytes, a name of which nothing is left, and brackets. -/
theorem ofText_slices_wide :
    ∃ tokens : List Token,
      tokens = [⟨.name, "\u00E9".toList, 0⟩, ⟨.or, "||".toList, 5⟩, ⟨.not, "!".toList, 7⟩,
        ⟨.name, [], 9⟩, ⟨.openBracket, "(".toList, 9⟩, ⟨.name, "a & \u00E9".toList, 10⟩,
        ⟨.closeBracket, ")".toList, 16⟩, ⟨.name, "b".toList, 17⟩] ∧
      scanBytes? true 0 (encode "\u00E9\u2003||!\u000B(a & \u00E9)b".toList) = some tokens ∧
      Slices "\u00E9\u2003||!\u000B(a & \u00E9)b".toList tokens :=
  ⟨ofText "\u00E9\u2003||!\u000B(a & \u00E9)b".toList, by decide +kernel, ofText_slices _⟩

end FilterPrep.Condition.Token
