import FilterPrep.Proofs.Resolver

/-!
# Include trees

What a document becomes when its includes are resolved, said without the resolver: a finite tree in
which every include line has the document it names below it, and the lines that the tree spells
out. `resolve_ok_iff_tree` shows that resolving succeeds exactly when there is such a tree, that it
gives the lines of the tree, and that no document has two.
-/

namespace FilterPrep.Include

/-- A document line by line, where each include line carries the location and the tree of the
document it names. -/
inductive Tree where
  | nil
  | plain (text : Line) (rest : Tree)
  | child (text : Line) (location : Location) (document rest : Tree)

namespace Tree

def lines : Tree → Lines
  | nil => []
  | plain text rest => text :: rest.lines
  | child text _ _ rest => text :: rest.lines

/-- The lines without the patch notes at an index below the limit. -/
def withoutNotes (lines : Lines) : Lines :=
  (lines.zipIdx.filter fun (line, i) => !(decide (i < patchNoteLimit) && isPatchNote line)).map
    Prod.fst

/-- The lines of the document with all documents below it in place of their include lines. -/
def splice : Tree → Lines
  | nil => []
  | plain text rest => text :: rest.splice
  | child _ _ document rest => withoutNotes document.splice ++ rest.splice

/-- The keys along every way from the root to a document below it. -/
def paths : Tree → List (List Text)
  | nil => []
  | plain _ rest => rest.paths
  | child _ location document rest =>
    [location.key] :: document.paths.map (location.key :: ·) ++ rest.paths

/-- Each include line names a document that may be included, can be fetched and has the lines that
stand below it; no other line names any. -/
def Valid (fetcher : Fetcher) (flags : Option FlagSet) : (origin : Option Text) → Tree → Prop
  | _, nil => True
  | origin, plain text rest =>
    Directive.includeTarget? text = none ∧ rest.Valid fetcher flags origin
  | origin, child text location document rest =>
    (∃ target raw, Directive.includeTarget? text = some target ∧
      Location.checkTarget target origin = .ok () ∧ location = Location.resolve target origin ∧
      fetcher (location.request target origin) = .ok raw ∧
      Selection.resolve flags (Lines.ofText raw) = .ok document.lines) ∧
    document.Valid fetcher flags location.childOrigin? ∧ rest.Valid fetcher flags origin

end Tree

/-- `tree` is the include tree of a document that belongs to no location: on no way down a document
occurs twice, and none is longer than the includes that may be open at once. -/
structure IsTreeOf (fetcher : Fetcher) (flags : Option FlagSet) (origin : Option Text)
    (lines : Lines) (tree : Tree) : Prop where
  lines_eq : tree.lines = lines
  valid : tree.Valid fetcher flags origin
  acyclic : ∀ path ∈ tree.paths, path.Nodup
  shallow : ∀ path ∈ tree.paths, path.length ≤ maxDepth

namespace Tree

variable {fetcher : Fetcher} {flags : Option FlagSet} {origin : Option Text}

/-- Every way down can be taken below the open documents `chain` with room for `room` more. -/
def Fits (chain : List Text) (room : Nat) (tree : Tree) : Prop :=
  ∀ path ∈ tree.paths, path.Nodup ∧ path.length ≤ room ∧ ∀ key ∈ path, key ∉ chain

theorem fits_child {chain : List Text} {room : Nat} {text : Line} {location : Location}
    {document rest : Tree} :
    (child text location document rest).Fits chain (room + 1) ↔
      location.key ∉ chain ∧ document.Fits (chain ++ [location.key]) room ∧
        rest.Fits chain (room + 1) := by
  constructor
  · intro fits
    refine ⟨?_, fun path member => ?_, fun path member => fits path (by simp [paths, member])⟩
    · exact (fits [location.key] (by simp [paths])).2.2 _ List.mem_cons_self
    · obtain ⟨nodup, short, fresh⟩ := fits (location.key :: path) (by simp [paths, member])
      obtain ⟨once, below⟩ := List.nodup_cons.mp nodup
      refine ⟨below, Nat.le_of_succ_le_succ short, fun key onPath => ?_⟩
      have notOpen := fresh key (List.mem_cons_of_mem _ onPath)
      simp only [List.mem_append, List.mem_singleton, not_or]
      exact ⟨notOpen, fun same => once (same ▸ onPath)⟩
  · rintro ⟨notOpen, below, behind⟩ path member
    simp only [paths, List.cons_append, List.mem_cons, List.mem_append, List.mem_map] at member
    rcases member with rfl | ⟨lower, inside, rfl⟩ | outside
    · exact ⟨by simp, by simp, by simpa using notOpen⟩
    · obtain ⟨nodup, short, fresh⟩ := below lower inside
      refine ⟨List.nodup_cons.mpr ⟨fun again => ?_, nodup⟩, Nat.succ_le_succ short, ?_⟩
      · exact fresh location.key again (by simp)
      · intro key onPath
        rcases List.mem_cons.mp onPath with rfl | deeper
        · exact notOpen
        · exact fun isOpen => fresh key deeper (List.mem_append_left _ isOpen)
    · exact behind path outside

theorem fits_nil {chain : List Text} {room : Nat} : (nil : Tree).Fits chain room :=
  fun _ member => nomatch member

theorem fits_child_iff {chain : List Text} {room : Nat} {text : Line} {location : Location}
    {document rest : Tree} :
    (child text location document rest).Fits chain room ↔
      (child text location document nil).Fits chain room ∧ rest.Fits chain room := by
  simp only [Fits, paths, List.append_nil, List.mem_append]
  constructor
  · intro fits
    exact ⟨fun path member => fits path (.inl member), fun path member => fits path (.inr member)⟩
  · rintro ⟨first, behind⟩ path (member | member)
    · exact first path member
    · exact behind path member

theorem not_fits_zero {chain : List Text} {text : Line} {location : Location}
    {document rest : Tree} : ¬(child text location document rest).Fits chain 0 := by
  intro fits
  have alone := (fits [location.key] (by simp [paths])).2.1
  exact absurd alone (by simp)

theorem eraseNearTop_eq (drop : Line → Bool) (limit start : Nat) (lines : Lines) :
    Lines.eraseNearTop drop (limit - start) lines =
      ((lines.zipIdx start).filter fun (line, i) => !(decide (i < limit) && drop line)).map
        Prod.fst := by
  induction lines generalizing start with
  | nil => cases limit - start <;> rfl
  | cons line rest ih =>
    rw [List.zipIdx_cons]
    by_cases near : start < limit
    · have step : limit - start = limit - (start + 1) + 1 := by omega
      rw [step, Lines.eraseNearTop, ih]
      by_cases dropped : drop line = true
      · simp [near, dropped]
      · simp [near, dropped]
    · have past : limit - start = 0 := by omega
      have beyond := ih (start + 1)
      rw [show limit - (start + 1) = 0 by omega, Lines.eraseNearTop] at beyond
      rw [past, Lines.eraseNearTop, List.filter_cons_of_pos (by simp [near]), List.map_cons,
        ← beyond]

theorem withoutNotes_eq (lines : Lines) :
    withoutNotes lines = Lines.eraseNearTop isPatchNote patchNoteLimit lines :=
  (eraseNearTop_eq isPatchNote patchNoteLimit 0 lines).symm

theorem eq_nil_of_lines {tree : Tree} (empty : tree.lines = []) : tree = nil := by
  cases tree with
  | nil => rfl
  | plain text rest => cases empty
  | child text location document rest => cases empty

theorem eq_plain_of_lines {tree : Tree} {text : Line} {lines : Lines}
    (valid : tree.Valid fetcher flags origin) (same : tree.lines = text :: lines)
    (names : Directive.includeTarget? text = none) :
    ∃ rest : Tree, rest.lines = lines ∧ tree = plain text rest := by
  cases tree with
  | nil => cases same
  | plain text' rest =>
    obtain ⟨rfl, below⟩ := List.cons.inj same
    exact ⟨rest, below, rfl⟩
  | child text' location document rest =>
    obtain ⟨rfl, -⟩ := List.cons.inj same
    obtain ⟨⟨target, raw, names', -⟩, -⟩ := valid
    exact nomatch names'.symm.trans names

theorem eq_child_of_lines {tree : Tree} {text : Line} {lines : Lines} {target : Text}
    (valid : tree.Valid fetcher flags origin) (same : tree.lines = text :: lines)
    (names : Directive.includeTarget? text = some target) :
    ∃ location document rest, lines = rest.lines ∧ tree = child text location document rest := by
  cases tree with
  | nil => cases same
  | plain text' rest =>
    obtain ⟨rfl, -⟩ := List.cons.inj same
    exact nomatch names.symm.trans valid.1
  | child text' location document rest =>
    obtain ⟨rfl, below⟩ := List.cons.inj same
    exact ⟨location, document, rest, below.symm, rfl⟩

theorem eq_of_valid {first second : Tree} (validFirst : first.Valid fetcher flags origin)
    (validSecond : second.Valid fetcher flags origin) (same : first.lines = second.lines) :
    first = second := by
  induction first generalizing second origin with
  | nil => exact (eq_nil_of_lines same.symm).symm
  | plain text rest ih =>
    obtain ⟨rest', below, rfl⟩ := eq_plain_of_lines validSecond same.symm validFirst.1
    rw [ih validFirst.2 validSecond.2 below.symm]
  | child text location document rest ihDocument ihRest =>
    obtain ⟨⟨target, raw, names, -, located, fetched, selected⟩, validDocument, validRest⟩ :=
      validFirst
    obtain ⟨location', document', rest', below, rfl⟩ :=
      eq_child_of_lines validSecond same.symm names
    obtain ⟨⟨target', raw', names', -, located', fetched', selected'⟩, validDocument',
      validRest'⟩ := validSecond
    obtain rfl := Option.some.inj (names.symm.trans names')
    obtain rfl := located.trans located'.symm
    obtain rfl := Except.ok.inj (fetched.symm.trans fetched')
    have inside := Except.ok.inj (selected.symm.trans selected')
    rw [ihDocument validDocument validDocument' inside, ihRest validRest validRest' below]

end Tree

/-! ### The resolver -/

variable {fetcher : Fetcher} {flags : Option FlagSet} {chain : List Text} {origin : Option Text}
  {room : Nat}

/-- Include lines are replaced one by one, so it is enough to know what each is replaced by: the
splice of the document that consists of this line alone. -/
theorem splice_ok_iff {expand : Lines → Line → Text → Traced Lines} (passed lines out : Lines)
    (expands : ∀ passed text target included, Directive.includeTarget? text = some target →
      ((expand passed text target).result = .ok included ↔
        ∃ location document, (Tree.child text location document .nil).Valid fetcher flags origin ∧
          (Tree.child text location document .nil).Fits chain room ∧
          (Tree.child text location document .nil).splice = included)) :
    (splice expand passed lines).result = .ok out ↔
      ∃ tree : Tree, tree.lines = lines ∧ tree.Valid fetcher flags origin ∧ tree.Fits chain room ∧
        tree.splice = out := by
  induction lines generalizing passed out with
  | nil =>
    constructor
    · intro done
      exact ⟨.nil, rfl, trivial, Tree.fits_nil, Except.ok.inj done⟩
    · rintro ⟨tree, empty, -, -, rfl⟩
      obtain rfl := Tree.eq_nil_of_lines empty
      rfl
  | cons text rest ih =>
    cases names : Directive.includeTarget? text with
    | none =>
      rw [splice_line_result_eq_ok names]
      simp only [ih]
      constructor
      · rintro ⟨_, ⟨tree, rfl, valid, fits, rfl⟩, rfl⟩
        exact ⟨.plain text tree, rfl, ⟨names, valid⟩, fits, rfl⟩
      · rintro ⟨tree, same, valid, fits, rfl⟩
        obtain ⟨below, rfl, rfl⟩ := Tree.eq_plain_of_lines valid same names
        exact ⟨_, ⟨below, rfl, valid.2, fits, rfl⟩, rfl⟩
    | some target =>
      rw [splice_include_result_eq_ok names]
      simp only [ih, expands _ _ _ _ names]
      constructor
      · rintro ⟨_, _, ⟨location, document, valid, fits, rfl⟩, ⟨tree, rfl, validRest, fitsRest, rfl⟩,
          rfl⟩
        refine ⟨.child text location document tree, rfl, ⟨valid.1, valid.2.1, validRest⟩, ?_, ?_⟩
        · exact Tree.fits_child_iff.mpr ⟨fits, fitsRest⟩
        · simp [Tree.splice]
      · rintro ⟨tree, same, valid, fits, rfl⟩
        obtain ⟨location, document, below, rfl, rfl⟩ := Tree.eq_child_of_lines valid same names
        obtain ⟨fitsChild, fitsRest⟩ := Tree.fits_child_iff.mp fits
        refine ⟨_, _, ⟨location, document, ⟨valid.1, valid.2.1, trivial⟩, fitsChild, rfl⟩,
          ⟨below, rfl, valid.2.2, fitsRest, rfl⟩, ?_⟩
        simp [Tree.splice]

/-- Resolving a document below the open documents `chain` succeeds exactly when it has an include
tree that fits there. -/
theorem resolveWithin_ok_iff (outermost : Bool) (lines out : Lines) :
    (resolveWithin fetcher flags outermost room chain origin lines).result = .ok out ↔
      ∃ tree : Tree, tree.lines = lines ∧ tree.Valid fetcher flags origin ∧ tree.Fits chain room ∧
        tree.splice = out := by
  -- on the number of includes that may still be opened
  induction room generalizing outermost chain origin lines out with
  | zero =>
    rw [resolveWithin, resolveWith_eq]
    refine splice_ok_iff [] lines out fun passed text target included names => ?_
    rw [includeOne_result_eq_ok]
    constructor
    · intro opened
      exact absurd opened.2 (openDocument_none_result included)
    · rintro ⟨location, document, -, fits, -⟩
      exact absurd fits Tree.not_fits_zero
  | succ room ih =>
    rw [resolveWithin, resolveWith_eq]
    refine splice_ok_iff [] lines out fun passed text target included names => ?_
    rw [includeOne_result_eq_ok, openDocument_result_eq_ok]
    simp only [ih]
    constructor
    · rintro ⟨accepted, fresh, raw, _, _, fetched, selected, ⟨document, rfl, valid, fits, rfl⟩, rfl⟩
      refine ⟨_, document, ⟨⟨target, raw, names, accepted, rfl, fetched, selected⟩, valid, trivial⟩,
        Tree.fits_child.mpr ⟨fresh, fits, Tree.fits_nil⟩, ?_⟩
      rw [Tree.splice, Tree.withoutNotes_eq, Tree.splice, List.append_nil]
    · rintro ⟨_, document, ⟨⟨target', raw, names', accepted, rfl, fetched, selected⟩, valid, -⟩,
        fits, rfl⟩
      obtain rfl := Option.some.inj (names.symm.trans names')
      obtain ⟨fresh, fitsBelow, -⟩ := Tree.fits_child.mp fits
      refine ⟨accepted, fresh, raw, _, _, fetched, selected, ⟨document, rfl, valid, fitsBelow, rfl⟩,
        ?_⟩
      rw [Tree.splice, Tree.withoutNotes_eq, Tree.splice, List.append_nil]

theorem isTreeOf_iff {lines : Lines} {tree : Tree} :
    IsTreeOf fetcher flags origin lines tree ↔
      tree.lines = lines ∧ tree.Valid fetcher flags origin ∧ tree.Fits [] maxDepth := by
  constructor
  · intro isTree
    exact ⟨isTree.lines_eq, isTree.valid, fun path onTree =>
      ⟨isTree.acyclic path onTree, isTree.shallow path onTree, by simp⟩⟩
  · rintro ⟨same, valid, fits⟩
    exact ⟨same, valid, fun path onTree => (fits path onTree).1,
      fun path onTree => (fits path onTree).2.1⟩

/-- Resolving a document that belongs to no location succeeds exactly when it has an include tree,
with the splice of the tree; and it has at most one. -/
theorem resolve_ok_iff_tree (fetcher : Fetcher) (flags : Option FlagSet) (origin : Option Text)
    (lines : Lines) :
    (∀ out, (resolve fetcher flags origin lines).result = .ok out ↔
      ∃ tree, IsTreeOf fetcher flags origin lines tree ∧ tree.splice = out) ∧
    ∀ first second, IsTreeOf fetcher flags origin lines first →
      IsTreeOf fetcher flags origin lines second → first = second := by
  constructor
  · intro out
    simp only [isTreeOf_iff, and_assoc]
    exact resolveWithin_ok_iff true lines out
  · intro first second isFirst isSecond
    exact Tree.eq_of_valid isFirst.valid isSecond.valid
      (isFirst.lines_eq.trans isSecond.lines_eq.symm)

end FilterPrep.Include
