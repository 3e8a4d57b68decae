import FilterPrep.Define
import FilterPrep.Proofs.Encoding
import FilterPrep.Proofs.Outcome
import FilterPrep.Proofs.Pieces

/-!
# Lists of definitions

How definitions are written is said without the reader: `Writes` for one of them, `Lists` for a list
with its separators. `flagsOfText_of_lists` shows that however a list is written, each flag gets its
last value, and that the same list in the environment yields to explicit definitions. A text that
is no such list is refused at its first piece that is not a definition.
-/

namespace FilterPrep

namespace Define

/-! ### The last value wins -/

/-- The value that the last definition of `name` gives it. -/
def lastValue (name : Text) (defines : List Define) : Option Bool :=
  (defines.reverse.find? fun define => define.1 == name).map Prod.snd

theorem lastValue_cons (name : Text) (define : Define) (defines : List Define) :
    lastValue name (define :: defines) =
      (lastValue name defines).or (if name = define.1 then some define.2 else none) := by
  rw [lastValue, List.reverse_cons, List.find?_append, lastValue, Option.map_or,
    List.find?_singleton]
  by_cases same : name = define.1
  · rw [if_pos same, if_pos (by simp [same])]
    rfl
  · rw [if_neg same, if_neg (by simpa using Ne.symm same)]
    rfl

theorem get?_extend (flags : FlagSet) (defines : List Define) (name : Text) :
    (flags.extend defines).get? name = (lastValue name defines).or (flags.get? name) := by
  induction defines generalizing flags with
  | nil => rfl
  | cons define defines ih =>
    have first : flags.extend (define :: defines) =
        (flags.set define.1 define.2).extend defines := rfl
    rw [first, ih, FlagSet.get?_set, lastValue_cons, Option.or_assoc]
    split <;> rfl

theorem get?_ofPairs (defines : List Define) (name : Text) :
    (FlagSet.ofPairs defines).get? name = lastValue name defines := by
  rw [FlagSet.ofPairs, get?_extend, FlagSet.get?_empty, Option.or_none]

/-! ### What is written is read -/

/-- A name that can be defined in a list. -/
structure IsName (name : Text) : Prop where
  nonempty : name ≠ []
  uncut : ∀ c ∈ name, isSeparator c = false
  noEquals : '=' ∉ name

/-- The words for a value. -/
def words : Bool → List Text
  | true => ["true".toList, "1".toList, "yes".toList]
  | false => ["false".toList, "0".toList, "no".toList]

/-- The ways to write a definition; a true one may be its bare name. -/
inductive Writes : Define → Text → Prop where
  | bare (name : Text) : Writes (name, true) name
  | valued (name : Text) {value : Bool} {word : Text} (spells : word ∈ words value) :
      Writes (name, value) (name ++ '=' :: word)

/-- The ways to write a list of definitions: separators stand behind each of them if more follows,
and there may be some in front of the first one and behind the last. -/
inductive Lists : List Define → Text → Prop where
  | done {gap : Text} (cuts : ∀ c ∈ gap, isSeparator c = true) : Lists [] gap
  | entry {define : Define} {defines : List Define} {gap entry rest : Text}
      (cuts : ∀ c ∈ gap, isSeparator c = true) (writes : Writes define entry)
      (ends : ∀ c, rest.head? = some c → isSeparator c = true) (lists : Lists defines rest) :
      Lists (define :: defines) (gap ++ (entry ++ rest))

variable {define : Define} {defines : List Define} {text entry name word : Text} {value : Bool}

theorem trim_of_uncut (uncut : ∀ c ∈ text, isSeparator c = false) : Text.trim text = text := by
  have solid : ∀ c ∈ text, Text.isSpace c = false := fun c member =>
    (Bool.or_eq_false_iff.mp (uncut c member)).2
  exact Text.trimBy_of_trimmed ⟨fun c first => solid c (List.mem_of_head? first),
    fun c last => solid c (List.mem_of_getLast? last)⟩

theorem value?_word (spells : word ∈ words value) : value? word = some value := by
  cases value <;> fin_cases spells <;> rfl

theorem uncut_word (spells : word ∈ words value) : ∀ c ∈ word, isSeparator c = false := by
  cases value <;> fin_cases spells <;> simp [isSeparator, Text.isSpace]

theorem named_of_isName (isName : IsName name) (define : Text) (value : Bool) :
    named define name value = .ok (name, value) :=
  if_neg (by simpa using isName.nonempty)

theorem ofText_of_writes (writes : Writes define entry) (isName : IsName define.1) :
    ofText entry = .ok define := by
  cases writes with
  | bare =>
    have noValue : Text.cutFirst? '=' entry = none := by
      rw [Option.eq_none_iff_forall_ne_some]
      rintro ⟨before, behind⟩ found
      obtain ⟨whole, -⟩ := Text.append_of_cutFirst? found
      exact isName.noEquals (whole ▸ List.mem_append_right _ List.mem_cons_self)
    simp only [ofText, noValue, trim_of_uncut isName.uncut]
    exact named_of_isName isName _ _
  | valued name spells =>
    simp only [ofText, Text.cutFirst?_append isName.noEquals, trim_of_uncut (uncut_word spells),
      value?_word spells, trim_of_uncut isName.uncut]
    exact named_of_isName isName _ _

theorem solid_of_writes (writes : Writes define entry) (isName : IsName define.1) :
    entry ≠ [] ∧ ∀ c ∈ entry, isSeparator c = false := by
  cases writes with
  | bare name => exact ⟨isName.nonempty, isName.uncut⟩
  | valued name spells =>
    refine ⟨by simp, fun c member => ?_⟩
    rcases List.mem_append.mp member with inName | inValue
    · exact isName.uncut c inName
    · rcases List.mem_cons.mp inValue with rfl | inWord
      · rfl
      · exact uncut_word spells c inWord

theorem listOfText_of_lists (lists : Lists defines text)
    (names : ∀ define ∈ defines, IsName define.1) : listOfText text = .ok defines := by
  induction lists with
  | @done gap cuts =>
    have none : pieces gap = [] := by
      rw [← List.append_nil gap]
      exact Text.filled_run cuts []
    rw [listOfText, none]
    rfl
  | @entry define defines gap entry rest cuts writes ends lists ih =>
    have isName := names define List.mem_cons_self
    obtain ⟨nonempty, uncut⟩ := solid_of_writes writes isName
    have parts : pieces (gap ++ (entry ++ rest)) = entry :: pieces rest :=
      (Text.filled_run cuts _).trans (Text.filled_piece nonempty uncut ends)
    have further := ih fun define member => names define (List.mem_cons_of_mem _ member)
    rw [listOfText] at further
    rw [listOfText, parts, List.mapM_cons, ofText_of_writes writes isName, further]
    rfl

/-! ### The first piece that is no definition -/

theorem flagsOfText_eq_error_iff {error : Error} :
    flagsOfText text = .error error ↔ listOfText text = .error error := by
  rw [flagsOfText, Except.map_eq_error]

theorem listOfText_eq_error_iff {error : Error} :
    listOfText text = .error error ↔ ∃ before piece behind,
      Text.PieceAt isSeparator text before piece behind ∧ ofText piece = .error error ∧
        ∀ front earlier back, Text.PieceAt isSeparator before front earlier back →
          ∃ define, ofText earlier = .ok define := by
  rw [listOfText, Except.mapM_eq_error_iff]
  constructor
  · rintro ⟨front, piece, back, pieces, fails, accepted⟩
    obtain ⟨before, behind, place, rfl, rfl⟩ := Text.filled_eq_iff.mp pieces
    refine ⟨before, piece, behind, place, fails, ?_⟩
    intro front earlier back inFront
    exact accepted earlier (Text.mem_filled_iff.mpr ⟨front, back, inFront⟩)
  · rintro ⟨before, piece, behind, place, fails, accepted⟩
    refine ⟨_, piece, _, place.filled_eq, fails, ?_⟩
    intro earlier member
    obtain ⟨front, back, inFront⟩ := Text.mem_filled_iff.mp member
    exact accepted front earlier back inFront

/-- However a list of definitions is written, a flag has the value of its last definition; in the
environment, it has it unless it is defined explicitly. A text is refused exactly if one of its
pieces is no definition, with the error of the first such piece. -/
theorem flagsOfText_of_lists :
    (∀ defines text, (∀ define ∈ defines, IsName define.1) → Lists defines text →
      (∃ flags, flagsOfText text = .ok flags ∧
        ∀ name, flags.get? name = lastValue name defines) ∧
      ∀ explicit, ∃ flags, Environment.flagsWith (some (Utf8.encode text)) explicit = .ok flags ∧
        ∀ name, flags.get? name = (lastValue name explicit).or (lastValue name defines)) ∧
    (∀ text, (∃ error, flagsOfText text = .error error) ↔ ∃ before piece behind,
      Text.PieceAt isSeparator text before piece behind ∧ ∃ error, ofText piece = .error error) ∧
    ∀ text error, flagsOfText text = .error error ↔ ∃ before piece behind,
      Text.PieceAt isSeparator text before piece behind ∧ ofText piece = .error error ∧
        ∀ front earlier back, Text.PieceAt isSeparator before front earlier back →
          ∃ define, ofText earlier = .ok define := by
  refine ⟨?_, ?_, ?_⟩
  · intro defines text names lists
    have read : flagsOfText text = .ok (.ofPairs defines) := by
      rw [flagsOfText, listOfText_of_lists lists names]
      rfl
    refine ⟨⟨_, read, get?_ofPairs defines⟩, fun explicit => ?_⟩
    have inherited : Environment.flags (some (Utf8.encode text)) = .ok (.ofPairs defines) := by
      simp only [Environment.flags, Utf8.decode?_encode, read]
    refine ⟨(FlagSet.ofPairs defines).extend explicit, ?_, fun name => ?_⟩
    · rw [Environment.flagsWith, inherited]
      rfl
    · rw [get?_extend, get?_ofPairs]
  · intro text
    constructor
    · rintro ⟨error, fails⟩
      obtain ⟨before, piece, behind, place, fails, -⟩ :=
        listOfText_eq_error_iff.mp (flagsOfText_eq_error_iff.mp fails)
      exact ⟨before, piece, behind, place, error, fails⟩
    · rintro ⟨before, piece, behind, place, error, fails⟩
      have member : piece ∈ pieces text := Text.mem_filled_iff.mpr ⟨before, behind, place⟩
      obtain ⟨first, fails⟩ := Except.exists_mapM_eq_error member fails
      exact ⟨first, flagsOfText_eq_error_iff.mpr fails⟩
  · intro text error
    rw [flagsOfText_eq_error_iff, listOfText_eq_error_iff]

/-- A flag that is defined twice, one that is overridden, and a list with two faults. -/
theorem flagsOfText_of_lists_repeated :
    Lists [("a".toList, true), ("b".toList, true), ("a".toList, false)]
      ", a=1\n b ,a=no\t".toList ∧
    (∃ flags, flagsOfText ", a=1\n b ,a=no\t".toList = .ok flags ∧
      flags.get? "a".toList = some false ∧ flags.get? "b".toList = some true ∧
        flags.get? "c".toList = none) ∧
    (∃ flags, Environment.flagsWith (some (Utf8.encode ", a=1\n b ,a=no\t".toList))
        [("b".toList, true), ("b".toList, false)] = .ok flags ∧
      flags.get? "a".toList = some false ∧ flags.get? "b".toList = some false) ∧
    flagsOfText "a,b=maybe =1".toList =
      .error (.invalidValue "maybe".toList "b".toList) := by
  obtain ⟨reads, -, refuses⟩ := flagsOfText_of_lists
  have names : ∀ define ∈ [("a".toList, true), ("b".toList, true), ("a".toList, false)],
      IsName define.1 := by
    intro define member
    fin_cases member <;> exact ⟨by decide, by simp [isSeparator, Text.isSpace], by decide⟩
  have cuts : ∀ {gap : Text}, gap.all isSeparator = true → ∀ c ∈ gap, isSeparator c = true :=
    fun all => List.all_eq_true.mp all
  have starts : ∀ {rest : Text}, rest.head?.all isSeparator = true →
      ∀ c, rest.head? = some c → isSeparator c = true := by
    intro rest all c first
    rwa [first] at all
  have lists : Lists [("a".toList, true), ("b".toList, true), ("a".toList, false)]
      ", a=1\n b ,a=no\t".toList := by
    refine @Lists.entry _ _ [',', ' '] "a=1".toList "\n b ,a=no\t".toList (cuts rfl)
      (@Writes.valued "a".toList true "1".toList (by decide)) (starts rfl) ?_
    refine @Lists.entry _ _ ['\n', ' '] "b".toList " ,a=no\t".toList (cuts rfl) (.bare _)
      (starts rfl) ?_
    refine @Lists.entry _ _ [' ', ','] "a=no".toList "\t".toList (cuts rfl)
      (@Writes.valued "a".toList false "no".toList (by decide)) (starts rfl) ?_
    exact .done (cuts rfl)
  obtain ⟨⟨flags, read, values⟩, overridden⟩ := reads _ _ names lists
  obtain ⟨merged, mergedRead, mergedValues⟩ :=
    overridden [("b".toList, true), ("b".toList, false)]
  refine ⟨lists, ⟨flags, read, values _, values _, values _⟩,
    ⟨merged, mergedRead, mergedValues _, mergedValues _⟩, ?_⟩
  refine (refuses _ _).mpr ⟨"a,".toList, "b=maybe".toList, " =1".toList, ?_, by rfl, ?_⟩
  · exact ⟨rfl, by decide, by simp [isSeparator, Text.isSpace], by simp [isSeparator],
      starts rfl⟩
  · intro front earlier back place
    have member := Text.mem_filled_iff.mpr ⟨front, back, place⟩
    have alone : Text.filled isSeparator "a,".toList = ["a".toList] := rfl
    rw [alone, List.mem_singleton] at member
    rw [member]
    exact ⟨("a".toList, true), rfl⟩

end Define

end FilterPrep
