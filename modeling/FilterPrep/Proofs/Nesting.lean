import FilterPrep.Block
import Mathlib

/-!
# Searching over nested blocks

What kind a line has is decided by its keyword alone. A search for the `else` or the end of a
block passes over every list of lines in which all blocks are closed, at whatever depth it starts;
and what a search has found is found again when more lines follow. Lines that close what they open
(`Closes`) hold the end of every block in them, and a search in them stays at the depth it counts.
-/

namespace FilterPrep

namespace Directive

namespace Kind

@[simp] theorem keyword_ifKind : keyword .ifKind = ['!', '#', 'i', 'f'] := rfl

@[simp] theorem keyword_elseKind : keyword .elseKind = ['!', '#', 'e', 'l', 's', 'e'] := rfl

@[simp] theorem keyword_endIfKind : keyword .endIfKind = ['!', '#', 'e', 'n', 'd', 'i', 'f'] := rfl

@[simp] theorem keyword_includeKind :
    keyword .includeKind = ['!', '#', 'i', 'n', 'c', 'l', 'u', 'd', 'e'] := rfl

theorem holds_iff {kind : Kind} {line : Line} :
    kind.holds line = true ↔ ∃ rest, line = kind.keyword ++ rest := by
  simp only [holds, Text.startsWith, Option.isSome_iff_exists, Text.after?_eq_some_iff]

theorem holds_keyword (kind : Kind) (rest : Text) : kind.holds (kind.keyword ++ rest) = true :=
  holds_iff.mpr ⟨rest, rfl⟩

/-- No keyword is the start of another. -/
theorem eq_of_holds {kind other : Kind} {line : Line} (first : kind.holds line = true)
    (second : other.holds line = true) : kind = other := by
  obtain ⟨rest, whole⟩ := holds_iff.mp first
  obtain ⟨rest', same⟩ := holds_iff.mp second
  rw [whole] at same
  cases kind <;> cases other <;> simp at same ⊢

theorem ofLine?_eq_some_iff {kind : Kind} {line : Line} :
    ofLine? line = some kind ↔ kind.holds line = true := by
  constructor
  · intro found
    exact List.find?_some (p := fun kind : Kind => kind.holds line) found
  · intro holds
    cases found : ofLine? line with
    | none =>
      have absent := List.find?_eq_none.mp found kind (by cases kind <;> simp [all])
      exact absurd holds absent
    | some other =>
      have same := List.find?_some (p := fun kind : Kind => kind.holds line) found
      rw [eq_of_holds holds same]

theorem holds_eq_false {kind : Kind} {line : Line} (other : ofLine? line ≠ some kind) :
    kind.holds line = false := by
  cases holds : kind.holds line with
  | false => rfl
  | true => exact absurd (ofLine?_eq_some_iff.mpr holds) other

theorem holds_other {kind other : Kind} {line : Line} (holds : kind.holds line = true)
    (different : other ≠ kind) : other.holds line = false :=
  holds_eq_false fun also => different (eq_of_holds (ofLine?_eq_some_iff.mp also) holds)

end Kind

theorem ofLine_keyword (kind : Kind) (rest : Text) :
    ofLine (kind.keyword ++ rest) = ofKind kind rest := by
  rw [ofLine, Kind.ofLine?_eq_some_iff.mpr (kind.holds_keyword rest)]
  simp only [List.drop_left]

/-- A line that conditions leave alone: plain content or an include. -/
def IsContent (line : Line) : Prop :=
  Kind.ofLine? line = none ∨ Kind.ofLine? line = some .includeKind

theorem kind?_ofLine (line : Line) : (ofLine line).kind? = Kind.ofLine? line := by
  unfold ofLine
  cases Kind.ofLine? line with
  | none => rfl
  | some kind => cases kind <;> rfl

theorem holds_of_kind? {line : Line} {kind : Kind} (is : (ofLine line).kind? = some kind) :
    kind.holds line = true :=
  Kind.ofLine?_eq_some_iff.mp ((kind?_ofLine line).symm.trans is)

theorem eq_keyword_of_otherwise {line : Line} {suffix : Text}
    (divides : ofLine line = .otherwise suffix) : line = Kind.elseKind.keyword ++ suffix := by
  obtain ⟨rest, rfl⟩ := Kind.holds_iff.mp (holds_of_kind? (congrArg kind? divides))
  cases (ofLine_keyword .elseKind rest).symm.trans divides
  rfl

theorem includeTarget?_eq_none_iff {line : Line} :
    includeTarget? line = none ↔ Kind.ofLine? line ≠ some .includeKind := by
  rw [← kind?_ofLine, includeTarget?]
  cases ofLine line <;> simp [kind?]

theorem ofLine_cases (line : Line) :
    (∃ condition, ofLine line = .ifThen condition) ∨ (∃ rest, ofLine line = .otherwise rest) ∨
      ofLine line = .endIf ∨ IsContent line := by
  unfold ofLine IsContent
  cases Kind.ofLine? line with
  | none => simp
  | some kind => cases kind <;> simp [ofKind]

theorem not_isContent {line : Line} {kind : Kind} (is : (ofLine line).kind? = some kind)
    (condition : kind ≠ .includeKind) : ¬IsContent line := by
  rw [kind?_ofLine] at is
  rintro (none | included)
  · exact nomatch is.symm.trans none
  · exact condition (Option.some.inj (is.symm.trans included))

theorem IsContent.ofLine?_ne {line : Line} {kind : Kind} (isContent : IsContent line)
    (condition : kind ≠ .includeKind) : Kind.ofLine? line ≠ some kind := fun is =>
  not_isContent (by rw [kind?_ofLine, is]) condition isContent

end Directive

namespace Block

open Directive

def shift (lines : Lines) (found : Lines × Line × Lines) : Lines × Line × Lines :=
  (lines ++ found.1, found.2)

/-- A search for `kind` that starts at depth `floor` or deeper goes on behind `lines` as deep as it
was in front of them. -/
def PassesFrom (floor : Nat) (kind : Kind) (lines : Lines) : Prop :=
  ∀ depth rest, floor ≤ depth →
    cut? kind depth (lines ++ rest) = (cut? kind depth rest).map (shift lines)

variable {floor : Nat} {kind : Kind}

theorem passes_nil : PassesFrom floor kind [] := by
  intro depth rest _
  cases found : cut? kind depth rest <;> simp [shift, found]

theorem passes_append {first second : Lines} (passFirst : PassesFrom floor kind first)
    (passSecond : PassesFrom floor kind second) : PassesFrom floor kind (first ++ second) := by
  intro depth rest enough
  rw [List.append_assoc, passFirst depth _ enough, passSecond depth rest enough, Option.map_map]
  congr 1
  funext found
  simp [shift]

theorem passes_mono {lines : Lines} {higher : Nat} (pass : PassesFrom floor kind lines)
    (above : floor ≤ higher) : PassesFrom higher kind lines :=
  fun depth rest enough => pass depth rest (Nat.le_trans above enough)

theorem passes_line {line : Line} (notIf : Kind.ofLine? line ≠ some .ifKind)
    (notEnd : Kind.ofLine? line ≠ some .endIfKind)
    (unsought : floor = 0 → Kind.ofLine? line ≠ some kind) : PassesFrom floor kind [line] := by
  intro depth rest enough
  have unfound : ¬(depth = 0 ∧ kind.holds line = true) := by
    rintro ⟨rfl, holds⟩
    exact unsought (Nat.le_zero.mp enough) (Kind.ofLine?_eq_some_iff.mpr holds)
  rw [List.singleton_append, cut?, Kind.holds_eq_false notIf, if_neg Bool.false_ne_true,
    if_neg unfound, Kind.holds_eq_false notEnd, if_neg Bool.false_ne_true]
  rfl

/-- Two branches with an `else` between them, where no `else` is searched. -/
theorem passes_divided {first second : Lines} (passFirst : PassesFrom floor kind first)
    (passSecond : PassesFrom floor kind second) (suffix : Text)
    (unsought : floor = 0 → kind ≠ .elseKind) :
    PassesFrom floor kind (first ++ (Kind.elseKind.keyword ++ suffix) :: second) := by
  have isElse := Kind.ofLine?_eq_some_iff.mpr (Kind.elseKind.holds_keyword suffix)
  have divider : PassesFrom floor kind [Kind.elseKind.keyword ++ suffix] := by
    apply passes_line
    · rw [isElse]
      simp
    · rw [isElse]
      simp
    · intro top same
      rw [isElse] at same
      exact unsought top (Option.some.inj same).symm
  exact passes_append passFirst (passes_append divider passSecond)

/-- Inside a block every search is one level deeper, so only what passes there matters. -/
theorem passes_block {body : Lines} (pass : PassesFrom 1 kind body)
    (condition closing : Text) :
    PassesFrom 0 kind
      ((Kind.ifKind.keyword ++ condition) :: body ++ [Kind.endIfKind.keyword ++ closing]) := by
  intro depth rest _
  have closes := Kind.endIfKind.holds_keyword closing
  have notOpen := Kind.holds_other closes (show Kind.ifKind ≠ .endIfKind by decide)
  rw [List.cons_append, List.cons_append, cut?, if_pos (Kind.ifKind.holds_keyword condition),
    List.append_assoc, pass (depth + 1) _ (Nat.le_add_left 1 depth), List.singleton_append, cut?,
    notOpen, if_neg Bool.false_ne_true, if_neg (fun deep => Nat.succ_ne_zero depth deep.1),
    if_pos closes, Nat.add_sub_cancel, Option.map_map, Option.map_map]
  congr 1
  funext found
  simp [shift]

theorem cut?_keyword (text : Text) (rest : Lines) (notIf : kind ≠ .ifKind) :
    cut? kind 0 ((kind.keyword ++ text) :: rest) = some ([], kind.keyword ++ text, rest) := by
  have holds := kind.holds_keyword text
  have notOpen := Kind.holds_other holds notIf.symm
  rw [cut?, notOpen, if_neg Bool.false_ne_true, if_pos ⟨rfl, holds⟩]

theorem cut?_of_passes {lines : Lines} (pass : PassesFrom 0 kind lines) (text : Text)
    (rest : Lines) (notIf : kind ≠ .ifKind) :
    cut? kind 0 (lines ++ (kind.keyword ++ text) :: rest) =
      some (lines, kind.keyword ++ text, rest) := by
  rw [pass 0 _ (Nat.le_refl 0), cut?_keyword text rest notIf]
  simp [shift]

theorem cut?_eq_none_of_passes {lines : Lines} (pass : PassesFrom 0 kind lines) :
    cut? kind 0 lines = none := by
  simpa [cut?] using pass 0 [] (Nat.le_refl 0)

theorem passes_content {line : Line} (isContent : IsContent line)
    (sought : kind = .elseKind ∨ kind = .endIfKind) : PassesFrom 0 kind [line] := by
  refine passes_line (isContent.ofLine?_ne (by decide)) (isContent.ofLine?_ne (by decide)) ?_
  intro _
  rcases sought with rfl | rfl
  · exact isContent.ofLine?_ne (by decide)
  · exact isContent.ofLine?_ne (by decide)

/-! ### One step of a search -/

variable {depth : Nat}

/-- How many blocks are open behind a line. -/
def depthBehind (depth : Nat) (line : Line) : Nat :=
  if Kind.ifKind.holds line then depth + 1
  else if Kind.endIfKind.holds line then depth - 1
  else depth

def FoundAt (kind : Kind) (depth : Nat) (line : Line) : Prop :=
  depth = 0 ∧ kind.holds line = true ∧ Kind.ifKind.holds line = false

instance (kind : Kind) (depth : Nat) (line : Line) : Decidable (FoundAt kind depth line) :=
  inferInstanceAs (Decidable (_ ∧ _))

theorem cut?_cons (line : Line) (rest : Lines) :
    cut? kind depth (line :: rest) =
      if FoundAt kind depth line then some ([], line, rest)
      else (cut? kind (depthBehind depth line) rest).map (shift [line]) := by
  rw [cut?]
  cases opens : Kind.ifKind.holds line with
  | true =>
    have missed : ¬FoundAt kind depth line := by
      intro found
      have closed := opens.symm.trans found.2.2
      cases closed
    rw [if_neg missed, depthBehind, opens]
    rfl
  | false =>
    rw [if_neg Bool.false_ne_true]
    by_cases found : depth = 0 ∧ kind.holds line = true
    · rw [if_pos found, if_pos ⟨found.1, found.2, opens⟩]
    · have missed : ¬FoundAt kind depth line := fun here => found ⟨here.1, here.2.1⟩
      rw [if_neg found, if_neg missed, depthBehind, opens, if_neg Bool.false_ne_true]
      split <;> rfl

theorem cut?_cons_eq_none_iff {line : Line} {rest : Lines} :
    cut? kind depth (line :: rest) = none ↔
      ¬FoundAt kind depth line ∧ cut? kind (depthBehind depth line) rest = none := by
  rw [cut?_cons]
  split
  · next here => simp [here]
  · next elsewhere => simp [elsewhere]

theorem cut?_cons_eq_some {head line : Line} {tail before behind : Lines}
    (found : cut? kind depth (head :: tail) = some (before, line, behind)) :
    (FoundAt kind depth head ∧ before = [] ∧ line = head ∧ behind = tail) ∨
      ¬FoundAt kind depth head ∧ ∃ inner, before = head :: inner ∧
        cut? kind (depthBehind depth head) tail = some (inner, line, behind) := by
  rw [cut?_cons] at found
  split at found
  · next here =>
    cases found
    exact .inl ⟨here, rfl, rfl, rfl⟩
  · next elsewhere =>
    obtain ⟨⟨inner, last, after⟩, deeper, same⟩ := Option.map_eq_some_iff.mp found
    cases same
    exact .inr ⟨elsewhere, inner, rfl, deeper⟩

theorem holds_of_cut? {lines before behind : Lines} {line : Line}
    (found : cut? kind depth lines = some (before, line, behind)) : kind.holds line = true := by
  induction lines generalizing depth before with
  | nil => cases found
  | cons head tail ih =>
    obtain ⟨here, -, rfl, -⟩ | ⟨-, inner, -, deeper⟩ := cut?_cons_eq_some found
    · exact here.2.1
    · exact ih deeper

theorem cut?_before {lines before behind : Lines} {line : Line}
    (found : cut? kind depth lines = some (before, line, behind)) :
    cut? kind depth before = none := by
  induction lines generalizing depth before with
  | nil => cases found
  | cons head tail ih =>
    obtain ⟨-, rfl, -, -⟩ | ⟨elsewhere, inner, rfl, deeper⟩ := cut?_cons_eq_some found
    · rfl
    · exact cut?_cons_eq_none_iff.mpr ⟨elsewhere, ih deeper⟩

theorem cut?_append {lines before behind : Lines} {line : Line}
    (found : cut? kind depth lines = some (before, line, behind)) (rest : Lines) :
    cut? kind depth (lines ++ rest) = some (before, line, behind ++ rest) := by
  induction lines generalizing depth before with
  | nil => cases found
  | cons head tail ih =>
    rw [List.cons_append, cut?_cons]
    obtain ⟨here, rfl, rfl, rfl⟩ | ⟨elsewhere, inner, rfl, deeper⟩ := cut?_cons_eq_some found
    · rw [if_pos here]
    · rw [if_neg elsewhere, ih deeper]
      rfl

/-! ### Lines that close their blocks -/

/-- Behind `depth` open blocks, the lines close these and all blocks of their own, and no others. -/
def Closes : (depth : Nat) → Lines → Prop
  | depth, [] => depth = 0
  | depth, line :: rest =>
    (Kind.endIfKind.holds line = true → 0 < depth) ∧ Closes (depthBehind depth line) rest

instance decidableCloses : (depth : Nat) → (lines : Lines) → Decidable (Closes depth lines)
  | depth, [] => inferInstanceAs (Decidable (depth = 0))
  | depth, line :: rest =>
    have := decidableCloses (depthBehind depth line) rest
    inferInstanceAs (Decidable (_ ∧ _))

theorem depthBehind_ifKind {line : Line} (opens : Kind.ifKind.holds line = true) (depth : Nat) :
    depthBehind depth line = depth + 1 := if_pos opens

theorem depthBehind_endIfKind {line : Line} (closes : Kind.endIfKind.holds line = true)
    (depth : Nat) : depthBehind depth line = depth - 1 := by
  have notOpen := Kind.holds_other closes (show Kind.ifKind ≠ .endIfKind by decide)
  rw [depthBehind, notOpen, if_neg Bool.false_ne_true, if_pos closes]

theorem depthBehind_add {line : Line} (inside : Kind.endIfKind.holds line = true → 0 < depth)
    (outer : Nat) : depthBehind (depth + outer) line = depthBehind depth line + outer := by
  unfold depthBehind
  split
  · omega
  · split
    · next closes =>
      have positive := inside closes
      omega
    · rfl

theorem pos_of_not_foundAt {line : Line} (missed : ¬FoundAt .endIfKind depth line)
    (closes : Kind.endIfKind.holds line = true) : 0 < depth := by
  have notOpen := Kind.holds_other closes (show Kind.ifKind ≠ .endIfKind by decide)
  exact Nat.pos_of_ne_zero fun top => missed ⟨top, closes, notOpen⟩

theorem closes_append {first : Lines} (closes : Closes depth first) (outer : Nat) (rest : Lines) :
    Closes (depth + outer) (first ++ rest) ↔ Closes outer rest := by
  induction first generalizing depth with
  | nil =>
    obtain rfl : depth = 0 := closes
    rw [Nat.zero_add, List.nil_append]
  | cons line first ih =>
    obtain ⟨inside, further⟩ := closes
    rw [List.cons_append, Closes, depthBehind_add inside, ih further]
    exact and_iff_right fun ends => Nat.add_pos_left (inside ends) outer

theorem closes_cons_level {line : Line} (notIf : Kind.ofLine? line ≠ some .ifKind)
    (notEnd : Kind.ofLine? line ≠ some .endIfKind) (rest : Lines) :
    Closes depth (line :: rest) ↔ Closes depth rest := by
  simp [Closes, depthBehind, Kind.holds_eq_false notIf, Kind.holds_eq_false notEnd]

theorem closes_cons_content {line : Line} (isContent : IsContent line) (rest : Lines) :
    Closes depth (line :: rest) ↔ Closes depth rest :=
  closes_cons_level (isContent.ofLine?_ne (by decide)) (isContent.ofLine?_ne (by decide)) rest

theorem closes_divided {first second : Lines} {line : Line} (closes : Closes depth first)
    (isElse : Kind.elseKind.holds line = true) :
    Closes depth (first ++ line :: second) ↔ Closes 0 second := by
  have is := Kind.ofLine?_eq_some_iff.mpr isElse
  rw [← Nat.add_zero depth, closes_append closes]
  exact closes_cons_level (by simp [is]) (by simp [is]) second

theorem not_closes_endIfKind {line : Line} (closes : Kind.endIfKind.holds line = true)
    (rest : Lines) : ¬Closes 0 (line :: rest) := fun closed => Nat.lt_irrefl 0 (closed.1 closes)

/-- Behind `depth` open blocks, the lines close none that is not open. -/
def NoSurplus : (depth : Nat) → Lines → Prop
  | _, [] => True
  | depth, line :: rest =>
    (Kind.endIfKind.holds line = true → 0 < depth) ∧ NoSurplus (depthBehind depth line) rest

theorem Closes.noSurplus {lines : Lines} (closes : Closes depth lines) : NoSurplus depth lines := by
  induction lines generalizing depth with
  | nil => trivial
  | cons line rest ih => exact ⟨closes.1, ih closes.2⟩

/-- In front of the line it finds, a search for the end of a block closes what it opens; so does
any search in lines that close no block but open ones. -/
theorem closes_of_noSurplus {lines before behind : Lines} {line : Line}
    (found : cut? kind depth lines = some (before, line, behind))
    (sound : kind = .endIfKind ∨ NoSurplus depth lines) : Closes depth before := by
  induction lines generalizing depth before with
  | nil => cases found
  | cons head tail ih =>
    obtain ⟨here, rfl, -, -⟩ | ⟨elsewhere, inner, rfl, deeper⟩ := cut?_cons_eq_some found
    · exact here.1
    · rcases sound with rfl | within
      · exact ⟨pos_of_not_foundAt elsewhere, ih deeper (.inl rfl)⟩
      · exact ⟨within.1, ih deeper (.inr within.2)⟩

theorem closes_of_cut? {lines before behind : Lines} {line : Line}
    (found : cut? kind depth lines = some (before, line, behind))
    (sound : kind = .endIfKind ∨ Closes depth lines) : Closes depth before :=
  closes_of_noSurplus found (sound.imp_right Closes.noSurplus)

theorem exists_cut?_of_closes {lines : Lines} (closes : Closes (depth + 1) lines) :
    ∃ body closing behind, cut? .endIfKind depth lines = some (body, closing, behind) := by
  induction lines generalizing depth with
  | nil => exact absurd closes (Nat.succ_ne_zero depth)
  | cons line rest ih =>
    rw [cut?_cons]
    by_cases here : FoundAt .endIfKind depth line
    · exact ⟨[], line, rest, if_pos here⟩
    · have further := closes.2
      rw [depthBehind_add (pos_of_not_foundAt here)] at further
      obtain ⟨body, closing, behind, found⟩ := ih further
      exact ⟨line :: body, closing, behind, by rw [if_neg here, found]; rfl⟩

theorem closes_block {line closing : Line} {rest body behind : Lines}
    (opens : Kind.ifKind.holds line = true)
    (found : cut? .endIfKind 0 rest = some (body, closing, behind)) :
    Closes 0 (line :: rest) ↔ Closes 0 behind := by
  have notEnd := Kind.holds_other opens (show Kind.endIfKind ≠ .ifKind by decide)
  have closes := holds_of_cut? found
  have inBody := closes_of_cut? found (.inl rfl)
  rw [append_of_cut? found, Closes, depthBehind_ifKind opens, closes_append inBody, Closes,
    depthBehind_endIfKind closes]
  simp [notEnd]

theorem exists_block_of_closes {line : Line} {rest : Lines}
    (opens : Kind.ifKind.holds line = true) (closes : Closes 0 (line :: rest)) :
    ∃ body closing behind, cut? .endIfKind 0 rest = some (body, closing, behind) ∧
      Closes 0 body ∧ Closes 0 behind := by
  have inside := closes.2
  rw [depthBehind_ifKind opens] at inside
  obtain ⟨body, closing, behind, found⟩ := exists_cut?_of_closes inside
  exact ⟨body, closing, behind, found, closes_of_cut? found (.inl rfl),
    (closes_block opens found).mp closes⟩

theorem cut?_endIfKind_of_closes {lines : Lines} (closes : Closes depth lines) :
    cut? .endIfKind depth lines = none := by
  induction lines generalizing depth with
  | nil => rfl
  | cons line rest ih =>
    have missed : ¬FoundAt .endIfKind depth line := fun here =>
      Nat.ne_of_gt (closes.1 here.2.1) here.1
    exact cut?_cons_eq_none_iff.mpr ⟨missed, ih closes.2⟩

/-- A search goes past lines that close their blocks, unless it stops at one of them that lies
outside every block. -/
theorem cut?_of_closes {lines : Lines} (closes : Closes depth lines) {outer : Nat}
    (missed : outer = 0 → cut? kind depth lines = none) (rest : Lines) :
    cut? kind (depth + outer) (lines ++ rest) = (cut? kind outer rest).map (shift lines) := by
  induction lines generalizing depth with
  | nil =>
    obtain rfl : depth = 0 := closes
    rw [Nat.zero_add]
    exact passes_nil outer rest (Nat.zero_le outer)
  | cons line lines ih =>
    have elsewhere : ¬FoundAt kind (depth + outer) line := by
      rintro ⟨top, holds⟩
      obtain ⟨rfl, rfl⟩ := Nat.add_eq_zero_iff.mp top
      exact (cut?_cons_eq_none_iff.mp (missed rfl)).1 ⟨rfl, holds⟩
    have further : outer = 0 → cut? kind (depthBehind depth line) lines = none := fun top =>
      (cut?_cons_eq_none_iff.mp (missed top)).2
    rw [List.cons_append, cut?_cons, if_neg elsewhere, depthBehind_add closes.1,
      ih closes.2 further, Option.map_map]
    rfl

theorem passes_of_closes {lines : Lines} (closes : Closes 0 lines)
    (missed : floor = 0 → cut? kind 0 lines = none) : PassesFrom floor kind lines := by
  intro depth rest enough
  rw [← cut?_of_closes closes (fun top => missed (Nat.le_zero.mp (top ▸ enough))) rest,
    Nat.zero_add]

theorem passes_closed {line closing : Line} {rest body behind : Lines}
    (opens : Kind.ifKind.holds line = true)
    (found : cut? .endIfKind 0 rest = some (body, closing, behind))
    (pass : PassesFrom 0 kind behind) : PassesFrom 0 kind (line :: rest) := by
  obtain ⟨condition, rfl⟩ := Kind.holds_iff.mp opens
  obtain ⟨text, rfl⟩ := Kind.holds_iff.mp (holds_of_cut? found)
  have inside : PassesFrom 1 kind body := passes_of_closes (closes_of_cut? found (.inl rfl)) nofun
  have block := passes_append (passes_block inside condition text) pass
  rw [append_of_cut? found]
  simpa using block

end Block

end FilterPrep
