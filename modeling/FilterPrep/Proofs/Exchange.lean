import FilterPrep.Proofs.Balance

/-!
# Exchanging parts of a document

Two parts of a document are exchangeable when both keep their blocks and the `else` lines of these
to themselves and are selected alike in front of any lines. A document may then hold one for the
other at any place, in a block or outside (`Exchangeable.select_eq`). A block is exchangeable with
the branch that it takes, so the other branch has no influence (`untaken_irrelevant`).
-/

namespace FilterPrep

open Directive

namespace Block

/-- The lines are balanced and hold an `else` only inside a block of their own, where more blocks
have been opened than closed. -/
structure SelfContained (lines : Lines) : Prop where
  balanced : Balanced lines
  inside : ∀ front line behind, lines = front ++ line :: behind →
    Kind.elseKind.holds line = true → count .endIfKind front ≠ count .ifKind front

variable {kind : Kind} {lines : Lines}

theorem undivided_of_selfContained (contained : SelfContained lines) :
    cut? .elseKind 0 lines = none := by
  have closes := balanced_iff_closes.mp contained.balanced
  cases found : cut? .elseKind 0 lines with
  | none => rfl
  | some cut =>
    obtain ⟨front, line, behind⟩ := cut
    have level := (balanced_iff_closes.mpr (closes_of_cut? found (.inr closes))).2
    exact absurd level
      (contained.inside front line behind (append_of_cut? found) (holds_of_cut? found))

theorem cut?_of_holds {front : Lines} {line : Line} (closes : Closes 0 front)
    (missed : cut? kind 0 front = none) (holds : kind.holds line = true) (notIf : kind ≠ .ifKind)
    (behind : Lines) : cut? kind 0 (front ++ line :: behind) = some (front, line, behind) := by
  obtain ⟨text, rfl⟩ := Kind.holds_iff.mp holds
  exact cut?_of_passes (passes_of_closes closes fun _ => missed) text behind notIf

/-- A line of a kind behind lines that close their blocks is found, unless one is found earlier. -/
theorem exists_cut?_of_holds {front : Lines} {line : Line} (closes : Closes 0 front)
    (holds : kind.holds line = true) (notIf : kind ≠ .ifKind) (behind : Lines) :
    ∃ before found after, cut? kind 0 (front ++ line :: behind) = some (before, found, after) ∧
      before.length ≤ front.length := by
  cases earlier : cut? kind 0 front with
  | none => exact ⟨front, line, behind, cut?_of_holds closes earlier holds notIf behind, Nat.le_refl _⟩
  | some cut =>
    obtain ⟨before, found, after⟩ := cut
    refine ⟨before, found, _, cut?_append earlier (line :: behind), ?_⟩
    rw [append_of_cut? earlier, List.length_append]
    exact Nat.le_add_right _ _

theorem selfContained_iff :
    SelfContained lines ↔ Closes 0 lines ∧ cut? .elseKind 0 lines = none := by
  constructor
  · intro contained
    exact ⟨balanced_iff_closes.mp contained.balanced, undivided_of_selfContained contained⟩
  · rintro ⟨closes, undivided⟩
    have balanced := balanced_iff_closes.mpr closes
    refine ⟨balanced, ?_⟩
    rintro front line behind rfl isElse level
    have inFront := balanced_iff_closes.mp (balanced_front balanced level)
    obtain ⟨_, _, _, found, -⟩ := exists_cut?_of_holds inFront isElse (by decide) behind
    exact nomatch found.symm.trans undivided

instance (lines : Lines) : Decidable (SelfContained lines) :=
  decidable_of_iff _ selfContained_iff.symm

theorem SelfContained.passes (contained : SelfContained lines)
    (sought : kind = .elseKind ∨ kind = .endIfKind) : PassesFrom 0 kind lines := by
  obtain ⟨closes, undivided⟩ := selfContained_iff.mp contained
  rcases sought with rfl | rfl
  · exact passes_of_closes closes fun _ => undivided
  · exact passes_of_closes closes fun _ => cut?_endIfKind_of_closes closes

/-! ### One search in two documents -/

/-- The documents are the same, or differ in one place that holds `old` in the first and `new` in
the second. -/
def Exchanged (old new lines others : Lines) : Prop :=
  lines = others ∨
    ∃ front behind, lines = front ++ (old ++ behind) ∧ others = front ++ (new ++ behind)

variable {old new others : Lines}

theorem Exchanged.cons (line : Line) (exchanged : Exchanged old new lines others) :
    Exchanged old new (line :: lines) (line :: others) := by
  rcases exchanged with rfl | ⟨front, behind, rfl, rfl⟩
  · exact .inl rfl
  · exact .inr ⟨line :: front, behind, rfl, rfl⟩

/-- What two searches find, with what stands around it exchanged. -/
def ExchangedAround (old new : Lines) (found found' : Lines × Line × Lines) : Prop :=
  Exchanged old new found.1 found'.1 ∧ found.2.1 = found'.2.1 ∧
    Exchanged old new found.2.2 found'.2.2

theorem cut?_exchange (passOld : PassesFrom 0 kind old) (passNew : PassesFrom 0 kind new)
    (front behind : Lines) (depth : Nat) :
    Option.Rel (ExchangedAround old new) (cut? kind depth (front ++ (old ++ behind)))
      (cut? kind depth (front ++ (new ++ behind))) := by
  induction front generalizing depth with
  | nil =>
    rw [List.nil_append, List.nil_append, passOld depth behind (Nat.zero_le depth),
      passNew depth behind (Nat.zero_le depth)]
    cases cut? kind depth behind with
    | none => exact .none
    | some found =>
      obtain ⟨before, line, after⟩ := found
      exact .some ⟨.inr ⟨[], before, rfl, rfl⟩, rfl, .inl rfl⟩
  | cons line front ih =>
    rw [List.cons_append, List.cons_append, cut?_cons, cut?_cons]
    split
    · exact .some ⟨.inl rfl, rfl, .inr ⟨front, behind, rfl, rfl⟩⟩
    · have deeper := ih (depthBehind depth line)
      revert deeper
      generalize cut? kind (depthBehind depth line) (front ++ (old ++ behind)) = found
      generalize cut? kind (depthBehind depth line) (front ++ (new ++ behind)) = found'
      rintro (⟨before, same, after⟩ | -)
      · exact .some ⟨before.cons line, same, after⟩
      · exact .none

end Block

namespace Selection

open Block

variable {flags : FlagSet} {old new lines others : Lines}

/-- Both keep to themselves and are selected alike, whatever follows. -/
structure Exchangeable (flags : FlagSet) (old new : Lines) : Prop where
  containedOld : SelfContained old
  containedNew : SelfContained new
  alike : ∀ rest, select flags (old ++ rest) = select flags (new ++ rest)

namespace Exchangeable

theorem cut? {kind : Kind} (exchangeable : Exchangeable flags old new)
    (sought : kind = .elseKind ∨ kind = .endIfKind) (exchanged : Exchanged old new lines others) :
    Option.Rel (ExchangedAround old new) (Block.cut? kind 0 lines) (Block.cut? kind 0 others) := by
  rcases exchanged with rfl | ⟨front, behind, rfl, rfl⟩
  · cases Block.cut? kind 0 lines with
    | none => exact .none
    | some found => exact .some ⟨.inl rfl, rfl, .inl rfl⟩
  · exact cut?_exchange (exchangeable.containedOld.passes sought)
      (exchangeable.containedNew.passes sought) front behind 0

theorem branch {ifLine : Line} {condition : Text} (exchangeable : Exchangeable flags old new)
    (exchanged : Exchanged old new lines others) :
    (∃ error, branch flags ifLine condition lines = .error error ∧
        branch flags ifLine condition others = .error error) ∨
      ∃ chosen chosen', branch flags ifLine condition lines = .ok chosen ∧
        branch flags ifLine condition others = .ok chosen' ∧ Exchanged old new chosen chosen' := by
  unfold Selection.branch
  cases Condition.Expr.ofText condition with
  | error cause => exact .inl ⟨_, rfl, rfl⟩
  | ok tree =>
    have divided := exchangeable.cut? (.inl rfl) exchanged
    revert divided
    generalize Block.cut? .elseKind 0 lines = found
    generalize Block.cut? .elseKind 0 others = found'
    rintro (@⟨⟨first, elseLine, second⟩, ⟨first', other, second'⟩, inFirst, same, inSecond⟩ | -)
    · obtain rfl : elseLine = other := same
      dsimp only
      split
      · exact .inl ⟨_, rfl, rfl⟩
      · have repeated := exchangeable.cut? (.inl rfl) inSecond
        revert repeated
        generalize Block.cut? .elseKind 0 second = twice
        generalize Block.cut? .elseKind 0 second' = twice'
        rintro (@⟨⟨between, again, rest⟩, ⟨between', other, rest'⟩, -, same, -⟩ | -)
        · obtain rfl : again = other := same
          exact .inl ⟨_, rfl, rfl⟩
        · refine .inr ⟨_, _, rfl, rfl, ?_⟩
          cases tree.eval flags with
          | true => exact inFirst
          | false => exact inSecond
    · refine .inr ⟨_, _, rfl, rfl, ?_⟩
      cases tree.eval flags with
      | true => exact exchanged
      | false => exact .inl rfl

theorem select_cons {line : Line} {rest : Lines} (exchangeable : Exchangeable flags old new)
    (exchanged : Exchanged old new (line :: rest) others)
    (step : ∀ rest', Exchanged old new rest rest' →
      select flags (line :: rest) = select flags (line :: rest')) :
    select flags (line :: rest) = select flags others := by
  rcases exchanged with rfl | ⟨front, behind, whole, rfl⟩
  · rfl
  · cases front with
    | nil =>
      rw [whole]
      exact exchangeable.alike behind
    | cons first front =>
      obtain ⟨rfl, rfl⟩ := List.cons.inj whole
      exact step _ (.inr ⟨front, behind, rfl, rfl⟩)

/-- One of two exchangeable parts may stand for the other anywhere in a document. -/
theorem select_eq (exchangeable : Exchangeable flags old new)
    (exchanged : Exchanged old new lines others) : select flags lines = select flags others := by
  -- where the exchanged part itself comes first it decides alone; in front of it both documents are
  -- read line by line, and each block hands on two documents that differ in that place again
  induction lines using select_induction flags generalizing others with
  | nil =>
    rcases exchanged with rfl | ⟨front, behind, whole, rfl⟩
    · rfl
    · obtain ⟨rfl, empty⟩ := List.append_eq_nil_iff.mp whole.symm
      rw [List.nil_append, ← exchangeable.alike behind, empty]
  | content line rest isContent ih =>
    refine exchangeable.select_cons exchanged fun rest' further => ?_
    rw [select_content isContent, select_content isContent, ih further]
  | block line condition rest opens ih =>
    refine exchangeable.select_cons exchanged fun rest' further => ?_
    have closed := exchangeable.cut? (.inr rfl) further
    cases found : Block.cut? .endIfKind 0 rest with
    | none =>
      rw [found] at closed
      generalize found' : Block.cut? .endIfKind 0 rest' = cut at closed
      cases closed
      rw [select_ifThen opens, select_ifThen opens, found, found']
    | some cut =>
      obtain ⟨body, closing, behind⟩ := cut
      obtain ⟨ihBehind, ihChosen⟩ := ih body closing behind found
      rw [found] at closed
      generalize found' : Block.cut? .endIfKind 0 rest' = cut' at closed
      obtain @⟨-, ⟨body', closing', behind'⟩, inBody, -, inBehind⟩ := closed
      rw [select_closed opens found, select_closed opens found', ihBehind inBehind]
      rcases exchangeable.branch inBody with
        ⟨error, failed, failed'⟩ | ⟨chosen, chosen', choice, choice', inChosen⟩
      · rw [failed, failed']
      · rw [choice, choice', Except.ok_bind, Except.ok_bind, ihChosen chosen choice inChosen]
  | stray line rest is =>
    refine exchangeable.select_cons exchanged fun rest' further => ?_
    rcases is with ⟨suffix, is⟩ | is
    · rw [select, select, is]
    · rw [select, select, is]

end Exchangeable

/-! ### Blocks and their branches -/

theorem undivided_of_branch {ifLine : Line} {condition : Text} {body chosen : Lines}
    (choice : branch flags ifLine condition body = .ok chosen) :
    Block.cut? .elseKind 0 chosen = none := by
  obtain ⟨tree, -, ⟨undivided, rfl⟩ | ⟨first, elseLine, second, divided, -, once, rfl⟩⟩ :=
    branch_ok choice
  · split
    · exact undivided
    · rfl
  · split
    · exact cut?_before divided
    · exact once

/-- A block is exchangeable with the branch that it takes. -/
theorem exchangeable_block {ifLine endLine : Line} {condition : Text} {body chosen : Lines}
    (opens : ofLine ifLine = .ifThen condition) (ends : ofLine endLine = .endIf)
    (closes : Closes 0 body) (choice : branch flags ifLine condition body = .ok chosen) :
    Exchangeable flags (ifLine :: (body ++ [endLine])) chosen := by
  have isIf := holds_of_kind? (congrArg kind? opens)
  have isEnd := holds_of_kind? (congrArg kind? ends)
  have found := cut?_of_holds closes (cut?_endIfKind_of_closes closes) isEnd (by decide)
  have closesChosen := closes_of_branch closes choice
  refine ⟨selfContained_iff.mpr ⟨?_, ?_⟩, ?_, fun rest => ?_⟩
  · exact (closes_block isIf (found [])).mpr rfl
  · have pass : PassesFrom 0 .elseKind [] := passes_nil
    exact cut?_eq_none_of_passes (passes_closed isIf (found []) pass)
  · exact selfContained_iff.mpr ⟨closesChosen, undivided_of_branch choice⟩
  · rw [List.cons_append, List.append_assoc, List.singleton_append,
      select_closed opens (found rest), choice, Except.ok_bind,
      select_append_of_closes closesChosen]

section Branches

variable {ifLine elseLine endLine : Line} {condition suffix : Text} {value : Bool}

theorem select_exchange {body chosen : Lines} (opens : ofLine ifLine = .ifThen condition)
    (ends : ofLine endLine = .endIf) (closes : Closes 0 body)
    (choice : branch flags ifLine condition body = .ok chosen) (front behind : Lines) :
    select flags (front ++ ifLine :: body ++ endLine :: behind) =
      select flags (front ++ chosen ++ behind) := by
  have exchangeable := exchangeable_block opens ends closes choice
  exact exchangeable.select_eq (.inr ⟨front, behind, by simp, by simp⟩)

theorem select_single {body : Lines} (opens : ofLine ifLine = .ifThen condition)
    (evaluated : Condition.evaluate flags condition = .ok value)
    (ends : ofLine endLine = .endIf) (contained : SelfContained body) (front behind : Lines) :
    select flags (front ++ ifLine :: body ++ endLine :: behind) =
      select flags (front ++ (if value then body else []) ++ behind) := by
  obtain ⟨closes, undivided⟩ := selfContained_iff.mp contained
  have choice : branch flags ifLine (Text.trim condition) body = .ok (if value then body else []) :=
    branch_single evaluated undivided
  rw [trim_of_ifThen opens] at choice
  exact select_exchange opens ends closes choice front behind

theorem select_divided {first second : Lines} (opens : ofLine ifLine = .ifThen condition)
    (evaluated : Condition.evaluate flags condition = .ok value)
    (divides : ofLine elseLine = .otherwise suffix) (blank : suffix.all Text.isSpace = true)
    (ends : ofLine endLine = .endIf) (containedFirst : SelfContained first)
    (containedSecond : SelfContained second) (front behind : Lines) :
    select flags (front ++ ifLine :: first ++ elseLine :: second ++ endLine :: behind) =
      select flags (front ++ (if value then first else second) ++ behind) := by
  obtain ⟨closesFirst, undivided⟩ := selfContained_iff.mp containedFirst
  obtain ⟨closesSecond, once⟩ := selfContained_iff.mp containedSecond
  have isElse := holds_of_kind? (congrArg kind? divides)
  have closes := (closes_divided closesFirst isElse).mpr closesSecond
  have divided := cut?_of_holds closesFirst undivided isElse (by decide) second
  have choice : branch flags ifLine (Text.trim condition) (first ++ elseLine :: second) =
      .ok (if value then first else second) := by
    rw [eq_keyword_of_otherwise divides] at divided ⊢
    exact branch_divided evaluated divided blank once
  rw [trim_of_ifThen opens] at choice
  have exchanged := select_exchange opens ends closes choice front behind
  simpa using exchanged

/-- What stands in the branch that is not taken has no influence, wherever the block stands: one
self-contained branch gives the result, or the error, that any other gives. -/
theorem untaken_irrelevant {flags : FlagSet} {other other' body : Lines}
    (opens : ofLine ifLine = .ifThen condition)
    (evaluated : Condition.evaluate flags condition = .ok value)
    (divides : ofLine elseLine = .otherwise suffix) (blank : suffix.all Text.isSpace = true)
    (ends : ofLine endLine = .endIf) (contained : SelfContained other)
    (contained' : SelfContained other') (containedBody : SelfContained body)
    (front behind : Lines) :
    (value = false →
      resolve (some flags) (front ++ ifLine :: other ++ endLine :: behind) =
        resolve (some flags) (front ++ ifLine :: other' ++ endLine :: behind)) ∧
    (value = false →
      resolve (some flags)
          (front ++ ifLine :: other ++ elseLine :: body ++ endLine :: behind) =
        resolve (some flags)
          (front ++ ifLine :: other' ++ elseLine :: body ++ endLine :: behind)) ∧
    (value = true →
      resolve (some flags)
          (front ++ ifLine :: body ++ elseLine :: other ++ endLine :: behind) =
        resolve (some flags)
          (front ++ ifLine :: body ++ elseLine :: other' ++ endLine :: behind)) := by
  simp only [resolve]
  refine ⟨?_, ?_, ?_⟩
  · rintro rfl
    rw [select_single opens evaluated ends contained, select_single opens evaluated ends contained']
    rfl
  · rintro rfl
    rw [select_divided opens evaluated divides blank ends contained containedBody,
      select_divided opens evaluated divides blank ends contained' containedBody]
    rfl
  · rintro rfl
    rw [select_divided opens evaluated divides blank ends containedBody contained,
      select_divided opens evaluated divides blank ends containedBody contained']
    rfl

/-- Neither what cannot be read in the branch nor what is wrong behind the block tells two such
branches apart. -/
theorem untaken_irrelevant_malformed :
    resolve (some (FlagSet.ofPairs [("b".toList, true)]))
        ["!#if b".toList, "!#if a".toList, "!#if (".toList, "!#else x".toList, "!#else".toList,
          "!#endif".toList, "!#else ".toList, "y".toList, "!#endif".toList, "!#endif".toList,
          "!#endif".toList] =
      resolve (some (FlagSet.ofPairs [("b".toList, true)]))
        ["!#if b".toList, "!#if a".toList, "z".toList, "!#else ".toList, "y".toList,
          "!#endif".toList, "!#endif".toList, "!#endif".toList] ∧
    resolve (some (FlagSet.ofPairs [("b".toList, true)]))
        ["!#if b".toList, "y".toList, "!#else ".toList, "!#if (".toList, "!#else x".toList,
          "!#else".toList, "!#endif".toList, "!#endif".toList, "!#if".toList] =
      resolve (some (FlagSet.ofPairs [("b".toList, true)]))
        ["!#if b".toList, "y".toList, "!#else ".toList, "z".toList, "!#endif".toList,
          "!#if".toList] := by
  have disabled : Condition.evaluate (FlagSet.ofPairs [("b".toList, true)]) "a".toList =
      .ok false := by cbv
  have enabled : Condition.evaluate (FlagSet.ofPairs [("b".toList, true)]) "b".toList =
      .ok true := by cbv
  have malformed : SelfContained
      ["!#if (".toList, "!#else x".toList, "!#else".toList, "!#endif".toList] := by decide
  have plain : SelfContained ["z".toList] := by decide
  have body : SelfContained ["y".toList] := by decide
  have isIf : ofLine "!#if a".toList = .ifThen "a".toList := by decide
  have isIf' : ofLine "!#if b".toList = .ifThen "b".toList := by decide
  have isElse : ofLine "!#else ".toList = .otherwise " ".toList := by decide
  have isEnd : ofLine "!#endif".toList = .endIf := by decide
  exact ⟨(untaken_irrelevant isIf disabled isElse (by decide) isEnd malformed plain body
      ["!#if b".toList] ["!#endif".toList, "!#endif".toList]).2.1 rfl,
    (untaken_irrelevant isIf' enabled isElse (by decide) isEnd malformed plain body []
      ["!#if".toList]).2.2 rfl⟩

end Branches

end Selection

end FilterPrep
