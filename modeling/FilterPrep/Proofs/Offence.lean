import FilterPrep.Proofs.Exchange

/-!
# What is wrong with a document

`Offence` says of a whole document what an error about its conditions tells: which line it names,
where that line stands and what is wrong there. A branch is selected apart from the lines around it,
so its nesting is counted anew; but a branch closes its blocks and has no `else` left outside them,
and what goes wrong in it goes wrong in a block of the document (`Offence.inside`).
-/

namespace FilterPrep

open Directive

/-- The lines that an error about conditions names. -/
def CompileError.offending : CompileError → Lines
  | invalidDirective line _ => [line]
  | unexpectedElse line => [line]
  | unexpectedEndIf line => [line]
  | missingEndIf line => [line]
  | invalidElse elseLine ifLine => [elseLine, ifLine]
  | _ => []

theorem CompileError.infix_message {error : CompileError} {line : Line}
    (named : line ∈ error.offending) : line <:+: error.message := by
  cases error with
  | invalidDirective line cause =>
    obtain rfl := List.mem_singleton.mp named
    exact List.infix_append _ _ _
  | unexpectedElse line | unexpectedEndIf line | missingEndIf line =>
    obtain rfl := List.mem_singleton.mp named
    exact (List.suffix_append _ _).isInfix
  | invalidElse elseLine ifLine =>
    rcases List.mem_cons.mp named with rfl | second
    · exact ⟨_, " in block ".toList ++ ifLine, (List.append_assoc _ _ _).symm⟩
    · obtain rfl := List.mem_singleton.mp second
      exact (List.suffix_append _ _).isInfix
  | _ => cases named

namespace Block

variable {lines front behind body : Lines} {ifLine : Line}

/-- At some place of the document, inside other blocks or not, `ifLine` opens a block that is closed
behind the lines of `body`. -/
inductive HasBlock (lines : Lines) (ifLine : Line) (body : Lines) : Prop where
  | mk {front behind endLine} (whole : lines = front ++ ifLine :: (body ++ endLine :: behind))
      (opens : Kind.ifKind.holds ifLine = true) (balanced : Balanced body)
      (closes : Kind.endIfKind.holds endLine = true)

/-- `elseLine` is the first `else` of the lines that stands in none of their blocks. -/
structure FirstElse (lines first : Lines) (elseLine : Line) (second : Lines) : Prop where
  whole : lines = first ++ elseLine :: second
  contained : SelfContained first
  isElse : Kind.elseKind.holds elseLine = true

theorem HasBlock.append (block : HasBlock lines ifLine body) (front behind : Lines) :
    HasBlock (front ++ lines ++ behind) ifLine body := by
  obtain @⟨before, after, endLine, rfl, opens, balanced, closes⟩ := block
  exact ⟨(by simp : _ = (front ++ before) ++ ifLine :: (body ++ endLine :: (after ++ behind))),
    opens, balanced, closes⟩

theorem hasBlock_of_cut? {rest : Lines} {closing : Line} (opens : Kind.ifKind.holds ifLine = true)
    (found : cut? .endIfKind 0 rest = some (body, closing, behind)) :
    HasBlock (ifLine :: rest) ifLine body := by
  have balanced := balanced_iff_closes.mpr (closes_of_cut? found (.inl rfl))
  have whole : ifLine :: rest = [] ++ ifLine :: (body ++ closing :: behind) :=
    congrArg (ifLine :: ·) (append_of_cut? found)
  exact ⟨whole, opens, balanced, holds_of_cut? found⟩

theorem firstElse_of_cut? {first second : Lines} {elseLine : Line} (closes : Closes 0 lines)
    (found : cut? .elseKind 0 lines = some (first, elseLine, second)) :
    FirstElse lines first elseLine second := by
  have inFirst := closes_of_cut? found (.inr closes)
  exact ⟨append_of_cut? found, selfContained_iff.mpr ⟨inFirst, cut?_before found⟩,
    holds_of_cut? found⟩

theorem balanced_append {first second : Lines} (inFirst : Balanced first)
    (inSecond : Balanced second) : Balanced (first ++ second) := by
  rw [balanced_iff_closes] at *
  exact (closes_append inFirst 0 second).mpr inSecond

theorem balanced_behind {first second : Lines} (whole : Balanced (first ++ second))
    (inFirst : Balanced first) : Balanced second := by
  rw [balanced_iff_closes] at *
  exact (closes_append inFirst 0 second).mp whole

end Block

namespace Selection

open Block

/-- What an error about conditions tells of the document. -/
inductive Offence (lines : Lines) : CompileError → Prop where
  | condition {line rest cause} (member : line ∈ lines)
      (isIf : line = Kind.ifKind.keyword ++ rest)
      (unread : Condition.Expr.ofText rest = .error cause) :
      Offence lines (.invalidDirective line cause)
  | elseText {ifLine body first elseLine second suffix} (block : HasBlock lines ifLine body)
      (divides : FirstElse body first elseLine second)
      (isElse : elseLine = Kind.elseKind.keyword ++ suffix)
      (text : suffix.all Text.isSpace = false) : Offence lines (.invalidElse elseLine ifLine)
  | secondElse {ifLine body first elseLine second suffix between again behind}
      (block : HasBlock lines ifLine body) (divides : FirstElse body first elseLine second)
      (isElse : elseLine = Kind.elseKind.keyword ++ suffix)
      (blank : suffix.all Text.isSpace = true)
      (dividesAgain : FirstElse second between again behind) :
      Offence lines (.unexpectedElse again)
  | strayElse {front line behind} (whole : lines = front ++ line :: behind) (top : Balanced front)
      (isElse : Kind.elseKind.holds line = true) : Offence lines (.unexpectedElse line)
  | unclosed {front line behind} (whole : lines = front ++ line :: behind) (top : Balanced front)
      (isIf : Kind.ifKind.holds line = true)
      (unmatched : ∀ body endLine rest, behind = body ++ endLine :: rest →
        Kind.endIfKind.holds endLine = true → ¬Balanced body) :
      Offence lines (.missingEndIf line)
  | strayEnd {front line behind} (whole : lines = front ++ line :: behind) (top : Balanced front)
      (isEnd : Kind.endIfKind.holds line = true) : Offence lines (.unexpectedEndIf line)

variable {flags : FlagSet} {lines : Lines} {error : CompileError}

/-! ### Offences in a part of the document -/

theorem Offence.behind {front : Lines} (offence : Offence lines error) (closed : Balanced front) :
    Offence (front ++ lines) error := by
  have around : ∀ {ifLine body}, HasBlock lines ifLine body →
      HasBlock (front ++ lines) ifLine body := fun block => by simpa using block.append front []
  cases offence with
  | condition member isIf unread =>
    exact .condition (List.mem_append_right front member) isIf unread
  | elseText block divides isElse text => exact .elseText (around block) divides isElse text
  | secondElse block divides isElse blank again =>
    exact .secondElse (around block) divides isElse blank again
  | strayElse whole top isElse =>
    rw [whole, ← List.append_assoc]
    exact .strayElse rfl (balanced_append closed top) isElse
  | unclosed whole top isIf unmatched =>
    rw [whole, ← List.append_assoc]
    exact .unclosed rfl (balanced_append closed top) isIf unmatched
  | strayEnd whole top isEnd =>
    rw [whole, ← List.append_assoc]
    exact .strayEnd rfl (balanced_append closed top) isEnd

/-- What is wrong in a self-contained part is wrong in one of its blocks, wherever it stands. -/
theorem Offence.inside (offence : Offence lines error) (contained : SelfContained lines)
    (front behind : Lines) : Offence (front ++ lines ++ behind) error := by
  cases offence with
  | condition member isIf unread =>
    have inWhole := List.mem_append_left behind (List.mem_append_right front member)
    exact .condition inWhole isIf unread
  | elseText block divides isElse text =>
    exact .elseText (block.append front behind) divides isElse text
  | secondElse block divides isElse blank again =>
    exact .secondElse (block.append front behind) divides isElse blank again
  -- the other offences stand outside all blocks, and a self-contained part has none there
  | strayElse whole top isElse =>
    exact absurd top.2 (contained.inside _ _ _ whole isElse)
  | @unclosed before line after whole top isIf unmatched =>
    rw [whole] at contained
    have rest := balanced_iff_closes.mp (balanced_behind contained.balanced top)
    obtain ⟨body, closing, others, found, inBody, -⟩ := exists_block_of_closes isIf rest
    exact absurd (balanced_iff_closes.mpr inBody)
      (unmatched _ _ _ (append_of_cut? found) (holds_of_cut? found))
  | @strayEnd before line after whole top isEnd =>
    rw [whole] at contained
    have rest := balanced_iff_closes.mp (balanced_behind contained.balanced top)
    exact absurd rest (not_closes_endIfKind isEnd after)

/-! ### Every error is an offence -/

theorem offence_of_branch {ifLine closing : Line} {condition : Text} {rest body behind : Lines}
    (opens : ofLine ifLine = .ifThen condition)
    (found : cut? .endIfKind 0 rest = some (body, closing, behind))
    (failed : branch flags ifLine condition body = .error error) :
    Offence (ifLine :: rest) error := by
  have isIf := holds_of_kind? (congrArg kind? opens)
  have block := hasBlock_of_cut? isIf found
  have closes := closes_of_cut? found (.inl rfl)
  obtain ⟨cause, unread, rfl⟩ | ⟨first, elseLine, second, divided, wrong⟩ := branch_error failed
  · obtain ⟨text, rfl⟩ := Kind.holds_iff.mp isIf
    cases (ofLine_keyword .ifKind text).symm.trans opens
    rw [ofText_trim] at unread
    exact .condition List.mem_cons_self rfl unread
  · have divides := firstElse_of_cut? closes divided
    obtain ⟨suffix, rfl⟩ := Kind.holds_iff.mp divides.isElse
    rw [List.drop_left] at wrong
    obtain ⟨text, rfl⟩ | ⟨blank, between, again, after, twice, rfl⟩ := wrong
    · exact .elseText block divides rfl text
    · have inFirst := balanced_iff_closes.mp divides.contained.balanced
      rw [divides.whole, closes_divided inFirst divides.isElse] at closes
      exact .secondElse block divides rfl blank (firstElse_of_cut? closes twice)

theorem offence_of_select (failed : select flags lines = .error error) : Offence lines error := by
  induction lines using select_induction flags generalizing error with
  | nil =>
    rw [select] at failed
    cases failed
  | content line rest isContent ih =>
    rw [select_content isContent] at failed
    have top : Balanced [line] :=
      balanced_iff_closes.mpr ((closes_cons_content isContent []).mpr rfl)
    exact (ih (Except.map_eq_error.mp failed)).behind top
  | block line condition rest opens ih =>
    have isIf := holds_of_kind? (congrArg kind? opens)
    cases found : cut? .endIfKind 0 rest with
    | none =>
      rw [select_ifThen opens, found] at failed
      cases failed
      refine .unclosed (List.nil_append _).symm (by decide) isIf ?_
      rintro body endLine others rfl isEnd balanced
      have closes := balanced_iff_closes.mp balanced
      have closing :=
        cut?_of_holds closes (cut?_endIfKind_of_closes closes) isEnd (by decide) others
      cases closing.symm.trans found
    | some cut =>
      obtain ⟨body, closing, behind⟩ := cut
      obtain ⟨ihBehind, ihChosen⟩ := ih body closing behind found
      have whole := append_of_cut? found
      rcases select_block_error opens found failed with
        unchosen | ⟨chosen, choice, inside⟩ | further
      · exact offence_of_branch opens found unchosen
      · have closes := closes_of_cut? found (.inl rfl)
        have contained : SelfContained chosen := selfContained_iff.mpr
          ⟨closes_of_branch closes choice, undivided_of_branch choice⟩
        obtain ⟨before, after, within⟩ := infix_branch choice
        have lifted := (ihChosen chosen choice inside).inside contained (line :: before)
          (after ++ closing :: behind)
        rw [whole, ← within]
        simpa using lifted
      · have closed : Balanced (line :: (body ++ [closing])) := by
          have alone := cut?_of_holds (closes_of_cut? found (.inl rfl))
            (cut?_before found) (holds_of_cut? found) (by decide) []
          exact balanced_iff_closes.mpr ((closes_block isIf alone).mpr rfl)
        have lifted := (ihBehind further).behind closed
        rw [whole]
        simpa using lifted
  | stray line rest is =>
    rcases is with ⟨suffix, is⟩ | is
    · rw [select, is] at failed
      cases failed
      exact .strayElse (List.nil_append _).symm (by decide) (holds_of_kind? (congrArg kind? is))
    · rw [select, is] at failed
      cases failed
      exact .strayEnd (List.nil_append _).symm (by decide) (holds_of_kind? (congrArg kind? is))

/-- Whenever a document is refused, something is wrong with it: the error says what, names the lines
where it is, and shows them in its message. -/
theorem resolve_names_offence (flags : FlagSet) (lines : Lines) (error : CompileError)
    (failed : resolve (some flags) lines = .error error) :
    Offence lines error ∧ ∀ line ∈ error.offending, line <:+: error.message :=
  ⟨offence_of_select failed, fun _ => CompileError.infix_message⟩

/-- The `else` that is one too many stands two blocks deep, in a branch that is taken. -/
theorem resolve_names_offence_nested :
    resolve (some FlagSet.empty)
      ["!#if a".toList, "!#else".toList, "!#if b".toList, "!#else ".toList, "x".toList,
        "!#else c".toList, "!#endif".toList, "!#endif".toList] =
      .error (.unexpectedElse "!#else c".toList) ∧
    Offence
      ["!#if a".toList, "!#else".toList, "!#if b".toList, "!#else ".toList, "x".toList,
        "!#else c".toList, "!#endif".toList, "!#endif".toList]
      (.unexpectedElse "!#else c".toList) ∧
    "!#else c".toList <:+: (CompileError.unexpectedElse "!#else c".toList).message := by
  have failed : resolve (some FlagSet.empty)
      ["!#if a".toList, "!#else".toList, "!#if b".toList, "!#else ".toList, "x".toList,
        "!#else c".toList, "!#endif".toList, "!#endif".toList] =
      .error (.unexpectedElse "!#else c".toList) := by decide +kernel
  obtain ⟨offence, shown⟩ := resolve_names_offence _ _ _ failed
  exact ⟨failed, offence, shown _ List.mem_cons_self⟩

end Selection

end FilterPrep
