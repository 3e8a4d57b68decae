import FilterPrep.Idna.MappingTable
import FilterPrep.Text.CharSet

/-!
# Mapping of domain names

Before a domain name is compared or written it is mapped: capitals and compatibility forms are
replaced, invisible characters are dropped, and some characters are not allowed at all.
-/

namespace FilterPrep.Idna

/-- What becomes of the characters of a range. -/
inductive Replacement where
  /-- The range moves so that its first character becomes this one. -/
  | onto (first : Nat)
  /-- Each character becomes this text. -/
  | text (t : Text)
  /-- Every second character becomes its successor. -/
  | successor

/-- The replacement of the characters from `first` to `last`. -/
structure Mapping where
  first : Nat
  last : Nat
  replacement : Replacement

namespace Mapping

def ofEntry (entry : Text) : Mapping :=
  match Text.cutFirst? '~' entry with
  | some (first, last) => ⟨Text.hexNat first, Text.hexNat last, .successor⟩
  | none =>
    match Text.cutFirst? '=' entry with
    | none => ⟨Text.hexNat entry, Text.hexNat entry, .onto (Text.hexNat entry)⟩
    | some (source, []) => ⟨(Text.range source).1, (Text.range source).2, .text []⟩
    | some (source, target) =>
      match Text.split (· == ',') target with
      | [start] => ⟨(Text.range source).1, (Text.range source).2, .onto (Text.hexNat start)⟩
      | parts =>
        ⟨(Text.range source).1, (Text.range source).2, .text (parts.map (Char.ofNat ∘ Text.hexNat))⟩

/-- What the mapping makes of one of its characters. -/
def apply (m : Mapping) (c : Char) : Text :=
  match m.replacement with
  | .onto first => [Char.ofNat (first + (c.toNat - m.first))]
  | .text t => t
  | .successor => if (c.toNat - m.first) % 2 = 0 then [Char.ofNat (c.toNat + 1)] else [c]

end Mapping

def mappings : List Mapping := (Text.entries mappingRows).map Mapping.ofEntry

def disallowed : CharSet := .ofRows disallowedRows

/-- What a character of a domain name is replaced by; `none` when it is not allowed. -/
def mapChar? (c : Char) : Option Text :=
  if c.toNat < 128 then some [c.toLower]
  else if disallowed.contains c then none
  else
    match mappings.find? fun m => m.first ≤ c.toNat && c.toNat ≤ m.last with
    | some m => some (m.apply c)
    | none => some [c]

/-- The mapped text; `none` when it holds a character that is not allowed. -/
def map? (t : Text) : Option Text := (t.mapM mapChar?).map List.flatten

end FilterPrep.Idna
