import FilterPrep.Text.Basic

/-!
# Flag sets

The named constants that conditions read. A flag set is kept as a list of entries in the order of
their names, without repetition, so that two sets with the same entries are equal and entries are
listed by name.
-/

namespace FilterPrep

/-- A finite map from flag names to truth values. -/
structure FlagSet where
  /-- The entries, by name. -/
  entries : List (Text × Bool)
  /-- Names grow strictly. -/
  ordered : entries.Pairwise fun a b => a.1 < b.1

namespace FlagSet

instance : DecidableEq FlagSet := fun a b =>
  if same : a.entries = b.entries then
    isTrue (by cases a; cases b; cases same; rfl)
  else isFalse fun h => same (h ▸ rfl)

def empty : FlagSet := ⟨[], .nil⟩

instance : Inhabited FlagSet := ⟨empty⟩

def lookup (name : Text) : List (Text × Bool) → Option Bool
  | [] => none
  | (other, value) :: rest => if name = other then some value else lookup name rest

/-- Entries with one more, in its place by name; an entry of that name is replaced. -/
def insertEntry (name : Text) (value : Bool) : List (Text × Bool) → List (Text × Bool)
  | [] => [(name, value)]
  | (other, old) :: rest =>
    if name < other then (name, value) :: (other, old) :: rest
    else if name = other then (name, value) :: rest
    else (other, old) :: insertEntry name value rest

theorem mem_insertEntry {name : Text} {value : Bool} {entry : Text × Bool}
    {entries : List (Text × Bool)} (member : entry ∈ insertEntry name value entries) :
    entry = (name, value) ∨ entry ∈ entries := by
  induction entries with
  | nil => simpa [insertEntry] using member
  | cons head rest ih =>
    obtain ⟨other, old⟩ := head
    simp only [insertEntry] at member
    split at member
    · simpa using member
    · split at member
      · rcases List.mem_cons.mp member with same | old
        · exact .inl same
        · exact .inr (List.mem_cons_of_mem _ old)
      · rcases List.mem_cons.mp member with same | below
        · exact .inr (same ▸ List.mem_cons_self ..)
        · exact (ih below).imp_right (List.mem_cons_of_mem _)

theorem insertEntry_ordered (name : Text) (value : Bool) {entries : List (Text × Bool)}
    (ordered : entries.Pairwise fun a b => a.1 < b.1) :
    (insertEntry name value entries).Pairwise fun a b => a.1 < b.1 := by
  induction entries with
  | nil => simp [insertEntry]
  | cons head rest ih =>
    obtain ⟨other, old⟩ := head
    obtain ⟨above, restOrdered⟩ := List.pairwise_cons.mp ordered
    simp only [insertEntry]
    split
    · next less =>
      refine List.pairwise_cons.mpr ⟨fun entry member => ?_, ordered⟩
      rcases List.mem_cons.mp member with same | below
      · exact same ▸ less
      · exact List.lt_trans less (above entry below)
    · next notLess =>
      split
      · next same =>
        exact List.pairwise_cons.mpr ⟨fun entry member => same ▸ above entry member, restOrdered⟩
      · next different =>
        refine List.pairwise_cons.mpr ⟨fun entry member => ?_, ih restOrdered⟩
        rcases mem_insertEntry member with same | below
        · have greater : other < name := by grind
          exact same ▸ greater
        · exact above entry below

/-- The set with `name` set to `value`, whatever it was before. -/
def set (flags : FlagSet) (name : Text) (value : Bool) : FlagSet :=
  ⟨insertEntry name value flags.entries, insertEntry_ordered name value flags.ordered⟩

def get? (flags : FlagSet) (name : Text) : Option Bool := lookup name flags.entries

@[simp] theorem get?_empty (name : Text) : empty.get? name = none := rfl

theorem lookup_insertEntry (name other : Text) (value : Bool) (entries : List (Text × Bool)) :
    lookup other (insertEntry name value entries) =
      if other = name then some value else lookup other entries := by
  induction entries with
  | nil => simp [insertEntry, lookup]
  | cons head rest ih =>
    obtain ⟨first, old⟩ := head
    simp only [insertEntry]
    split
    · simp [lookup]
    · split
      · next same =>
        subst same
        by_cases asked : other = name <;> simp [lookup, asked]
      · next different =>
        by_cases asked : other = first
        · have unasked : other ≠ name := fun h => different (h ▸ asked)
          simp [lookup, asked, asked ▸ unasked]
        · simp [lookup, asked, ih]

theorem get?_set (flags : FlagSet) (name other : Text) (value : Bool) :
    (flags.set name value).get? other = if other = name then some value else flags.get? other :=
  lookup_insertEntry name other value flags.entries

/-- Whether a flag is set to true; a missing flag is not. -/
def isEnabled (flags : FlagSet) (name : Text) : Bool := flags.get? name == some true

/-- The number of flags that are set, to either value. -/
def size (flags : FlagSet) : Nat := flags.entries.length

def isEmpty (flags : FlagSet) : Bool := flags.entries.isEmpty

/-- The set after all pairs, in order: a later pair wins. -/
def extend (flags : FlagSet) (pairs : List (Text × Bool)) : FlagSet :=
  pairs.foldl (fun flags (name, value) => flags.set name value) flags

/-- The set of the given pairs; of two with one name the later wins. -/
def ofPairs (pairs : List (Text × Bool)) : FlagSet := empty.extend pairs

end FlagSet

end FilterPrep
