import FilterPrep.Idna.ClassTable
import FilterPrep.Idna.Composition
import FilterPrep.Idna.Mapping

/-!
# Labels of domain names

A domain name is a sequence of labels. A label must not start with a mark, a joiner needs the
right neighbours, and in a name with right-to-left writing every label keeps to one direction.
-/

namespace FilterPrep.Idna

def nonspacing : CharSet := .ofRows nonspacingRows

def spacing : CharSet := .ofRows spacingRows

def leftToRightMark : CharSet := .ofRows leftToRightMarkRows

def transparentLetter : CharSet := .ofRows transparentLetterRows

def joinsLeft : CharSet := .ofRows joinsLeftRows

def joinsRight : CharSet := .ofRows joinsRightRows

def rightToLeft : CharSet := .ofRows rightToLeftRows

def arabicNumber : CharSet := .ofRows arabicNumberRows

def europeanNumber : CharSet := .ofRows europeanNumberRows

def neutral : CharSet := .ofRows neutralRows

def isMark (c : Char) : Bool := nonspacing.contains c || spacing.contains c

/-! ### Joiners -/

/-- What joining passes over. -/
def isTransparent (c : Char) : Bool := nonspacing.contains c || transparentLetter.contains c

/-- The combining class of the signs that suppress a vowel. -/
def viramaClass : Nat := 9

/-- Whether a non-joiner may stand between the characters `before`, last first, and `behind`. -/
def nonJoinerAllowed (before behind : Text) : Bool :=
  (before.head?.any fun c => combiningClass c == viramaClass) ||
    (((before.dropWhile isTransparent).head?.any joinsLeft.contains) &&
      ((behind.dropWhile isTransparent).head?.any joinsRight.contains))

/-- Whether every joiner of a label may stand where it does; `before` is what has been passed,
last first. -/
def joinersAllowed (before : Text) : Text → Bool
  | [] => true
  | c :: rest =>
    (if c = '\u200C' then nonJoinerAllowed before rest
      else if c = '\u200D' then before.head?.any fun d => combiningClass d == viramaClass
      else true) &&
      joinersAllowed (c :: before) rest

/-! ### Direction -/

/-- The classes that the direction rule tells apart. -/
inductive Direction where
  | left
  | right
  | arabicNumber
  | europeanNumber
  | neutral
  | mark
  deriving DecidableEq

def direction (c : Char) : Direction :=
  if rightToLeft.contains c then .right
  else if arabicNumber.contains c then .arabicNumber
  else if europeanNumber.contains c then .europeanNumber
  else if leftToRightMark.contains c then .left
  else if nonspacing.contains c then .mark
  else if neutral.contains c then .neutral
  else .left

/-- Whether a label makes the whole name subject to the direction rule. -/
def hasRightToLeft (label : Text) : Bool :=
  label.any fun c => direction c = .right || direction c = .arabicNumber

/-- The direction rule: the first character sets the direction of the label, all others and the
last one in front of the marks must agree with it, and the two kinds of digits do not mix. -/
def keepsDirection (label : Text) : Bool :=
  let classes := label.map direction
  let last? := (classes.reverse.dropWhile (· = .mark)).head?
  match classes.head? with
  | none => true
  | some .right =>
    !classes.contains .left &&
      (last?.any fun d => d = .right || d = .arabicNumber || d = .europeanNumber) &&
      !(classes.contains .arabicNumber && classes.contains .europeanNumber)
  | some .left =>
    !classes.contains .right && !classes.contains .arabicNumber &&
      (last?.any fun d => d = .left || d = .europeanNumber)
  | some _ => false

end FilterPrep.Idna
