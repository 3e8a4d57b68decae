import FilterPrep.Checksum
import FilterPrep.Proofs.Text

/-!
# Signed documents

A document is signed by a line with its checksum in front. Whatever the document is, the line is
found there whole and nothing but the line is left out again, so that the signed document has the
checksum of the document and is valid exactly if that is the checksum on its line.
-/

namespace FilterPrep.Checksum

/-- What checksums are written with. -/
def isWritten (c : Char) : Bool :=
  c.isAlphanum || c == '_' || c == '+' || c == '/' || c == '='

/-- A value that can stand on the line of a checksum and still be found there as a whole. -/
structure IsChecksum (value : Text) : Prop where
  nonempty : value ≠ []
  length_le : value.length ≤ 187
  written : ∀ c ∈ value, isWritten c = true

/-- Nothing that would be taken for the end of the line in front. -/
def StartsInLine (content : Text) : Prop :=
  ∀ c, content.head? = some c → Lines.isBreak c = false

def header : Text := "! Checksum: ".toList

def signed (value content : Text) : Text := header ++ value ++ '\n' :: content

/-! ### Characters -/

theorem toNat_of_isWritten {c : Char} (written : isWritten c = true) : c.toNat < 0x80 := by
  simp only [isWritten, Char.isAlphanum, Char.isAlpha, Char.isUpper, Char.isLower, Char.isDigit,
    Bool.or_eq_true, Bool.and_eq_true, decide_eq_true_eq, beq_iff_eq, ge_iff_le,
    UInt32.le_iff_toNat_le] at written
  rcases written with ((((((⟨-, high⟩ | ⟨-, high⟩) | ⟨-, high⟩) | rfl) | rfl) | rfl) | rfl)
  · exact Nat.lt_of_le_of_lt high (by decide)
  · exact Nat.lt_of_le_of_lt high (by decide)
  · exact Nat.lt_of_le_of_lt high (by decide)
  all_goals decide

theorem isValueChar_of_isWritten {c : Char} (written : isWritten c = true) :
    isValueChar c = true :=
  char_cases (P := fun c => isWritten c = true → isValueChar c = true)
    (toNat_of_isWritten written) (by decide) written

theorem not_isSeparator_of_isWritten {c : Char} (written : isWritten c = true) :
    isSeparator c = false :=
  char_cases (P := fun c => isWritten c = true → isSeparator c = false)
    (toNat_of_isWritten written) (by decide) written

/-! ### The line of the checksum -/

theorem takeSome?_append {p : Char → Bool} {run rest : Text} (nonempty : run ≠ [])
    (inside : ∀ c ∈ run, p c = true) (stops : ∀ c, rest.head? = some c → p c = false) :
    takeSome? p (run ++ rest) = some (run, rest) := by
  rw [takeSome?, Text.takeWhile_append_of_head inside stops,
    Text.dropWhile_append_of_head inside stops, if_neg (by simpa using nonempty)]

theorem readDeclaration?_signed {value rest : Text} (checksum : IsChecksum value)
    (solid : StartsInLine rest) : readDeclaration? (signed value rest) = some (value, rest) := by
  have separators : takeSome? isSeparator ([':', ' '] ++ (value ++ '\n' :: rest)) =
      some ([':', ' '], value ++ '\n' :: rest) := by
    refine takeSome?_append nofun (List.all_eq_true.mp rfl) fun c first => ?_
    rw [List.head?_append_of_ne_nil _ checksum.nonempty] at first
    exact not_isSeparator_of_isWritten (checksum.written c (List.mem_of_mem_head? first))
  have word : takeSome? isValueChar (value ++ '\n' :: rest) = some (value, '\n' :: rest) := by
    refine takeSome?_append checksum.nonempty
      (fun c member => isValueChar_of_isWritten (checksum.written c member)) ?_
    rintro c ⟨⟩
    rfl
  have breaks : takeSome? Lines.isBreak (['\n'] ++ rest) = some (['\n'], rest) :=
    takeSome?_append nofun (List.all_eq_true.mp rfl) solid
  have lead : Text.after? ['!'] (Text.trimStart (signed value rest)) =
      some (" Checksum: ".toList ++ (value ++ '\n' :: rest)) := by
    rw [signed, List.append_assoc]
    rfl
  have name : afterWord? "checksum".toList
      (Text.trimStart (" Checksum: ".toList ++ (value ++ '\n' :: rest))) =
        some ([':', ' '] ++ (value ++ '\n' :: rest)) := rfl
  have line : ('\n' :: rest).dropWhile (fun c => !Lines.isBreak c) = ['\n'] ++ rest := rfl
  simp only [readDeclaration?, lead, name, separators, word, line, breaks, Option.bind_eq_bind,
    Option.bind_some]
  rfl

variable {value content : Text}

theorem signed_eq (value content : Text) :
    signed value content = header ++ value ++ ['\n'] ++ content := by
  simp [signed]

theorem searchLimit_eq (checksum : IsChecksum value) :
    searchLimit = (header ++ value ++ ['\n']).length + (187 - value.length) := by
  have length_le := checksum.length_le
  have twelve : header.length = 12 := rfl
  simp only [List.length_append, twelve, List.length_singleton, searchLimit]
  omega

theorem take_signed (checksum : IsChecksum value) (content : Text) :
    (signed value content).take searchLimit =
      signed value (content.take (187 - value.length)) := by
  rw [signed_eq, signed_eq, searchLimit_eq checksum, List.take_length_add_append]

theorem drop_signed (checksum : IsChecksum value) (content : Text) :
    (signed value content).drop searchLimit = content.drop (187 - value.length) := by
  rw [signed_eq, searchLimit_eq checksum, List.drop_length_add_append]

theorem readDeclaration?_take_signed (checksum : IsChecksum value) (solid : StartsInLine content) :
    readDeclaration? ((signed value content).take searchLimit) =
      some (value, content.take (187 - value.length)) := by
  rw [take_signed checksum]
  refine readDeclaration?_signed checksum fun c first => solid c ?_
  rw [List.head?_take] at first
  split at first
  · cases first
  · exact first

theorem declared?_signed (checksum : IsChecksum value) (solid : StartsInLine content) :
    declared? (signed value content) = some value := by
  rw [declared?, readDeclaration?_take_signed checksum solid]
  rfl

theorem body_signed (checksum : IsChecksum value) (solid : StartsInLine content) :
    body (signed value content) = content := by
  rw [body, readDeclaration?_take_signed checksum solid, drop_signed checksum]
  exact List.take_append_drop _ _

theorem body_of_undeclared (undeclared : declared? content = none) : body content = content := by
  rw [body, Option.map_eq_none_iff.mp undeclared]

/-! ### The checksum itself -/

theorem isWritten_digit (n : Nat) : isWritten (Base64.digit n) = true := by
  have small : ∀ n < 62, isWritten (Base64.digit n) = true := by decide
  by_cases letter : n < 62
  · exact small n letter
  · have notUpper : ¬n < 26 := by omega
    have notLower : ¬n < 52 := by omega
    rw [Base64.digit, if_neg notUpper, if_neg notLower, if_neg letter]
    split <;> rfl

theorem isWritten_encode (bytes : List UInt8) : ∀ c ∈ Base64.encode bytes, isWritten c = true := by
  fun_induction Base64.encode bytes with
  | case1 a b c rest n ih => simpa [isWritten_digit] using ih
  | case2 => simp [isWritten_digit]
  | case3 => simp [isWritten_digit]
  | case4 =>
    intro c member
    cases member

theorem isChecksum_calculate (content : Text) : IsChecksum (calculate content) := by
  have size : (calculate content).length = 22 := by
    rw [calculate, Base64.length_encode, Md5.length_digest]
  refine ⟨?_, by omega, isWritten_encode _⟩
  intro empty
  rw [empty] at size
  cases size

/-- Signing a document with its checksum, and with nothing else, makes it valid. -/
theorem signed_valid_iff (solid : StartsInLine content) (undeclared : declared? content = none) :
    IsChecksum (calculate content) ∧
      ∀ value, IsChecksum value →
        declared? (signed value content) = some value ∧
        calculate (signed value content) = calculate content ∧
        ∀ strict, isValid (signed value content) strict = true ↔ value = calculate content := by
  refine ⟨isChecksum_calculate content, fun value checksum => ?_⟩
  have declares := declared?_signed checksum solid
  have same : calculate (signed value content) = calculate content := by
    rw [calculate, calculate, normalize, normalize, body_signed checksum solid,
      body_of_undeclared undeclared]
  refine ⟨declares, same, fun strict => ?_⟩
  rw [isValid, declares]
  simp only [same, beq_iff_eq]
  exact eq_comm

theorem signed_valid_iff_rule :
    StartsInLine "||example.org^".toList ∧ declared? "||example.org^".toList = none ∧
      IsChecksum "AbC_+/d=".toList ∧
      declared? (signed "AbC_+/d=".toList "||example.org^".toList) = some "AbC_+/d=".toList ∧
      ∀ strict, isValid (signed "AbC_+/d=".toList "||example.org^".toList) strict = true ↔
        "AbC_+/d=".toList = calculate "||example.org^".toList := by
  have solid : StartsInLine "||example.org^".toList := by
    rintro c ⟨⟩
    rfl
  have undeclared : declared? "||example.org^".toList = none := by decide
  have checksum : IsChecksum "AbC_+/d=".toList :=
    ⟨by decide, by decide, List.all_eq_true.mp (by decide)⟩
  obtain ⟨declares, -, valid⟩ := (signed_valid_iff solid undeclared).2 _ checksum
  exact ⟨solid, undeclared, checksum, declares, valid⟩

end FilterPrep.Checksum
