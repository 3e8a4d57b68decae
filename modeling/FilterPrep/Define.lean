import FilterPrep.FlagSet
import FilterPrep.Text.Quoted
import FilterPrep.Text.Space

/-!
# Flag definitions

A definition is `name` or `name=value`. Lists of definitions are separated by commas and white
space; definitions in the environment are overridden by those given explicitly.
-/

namespace FilterPrep

abbrev Define := Text × Bool

namespace Define

/-- Why a text is not a definition. -/
inductive Error where
  | invalidValue (value name : Text)
  | emptyName (define : Text)
  deriving DecidableEq, Repr

def Error.message : Error → Text
  | invalidValue value name =>
    "invalid value ".toList ++ Text.quoted value ++ " for flag ".toList ++ Text.quoted name
  | emptyName define => "empty flag name in ".toList ++ Text.quoted define

def value? (word : Text) : Option Bool :=
  if ["true".toList, "1".toList, "yes".toList].contains word then some true
  else if ["false".toList, "0".toList, "no".toList].contains word then some false
  else none

/-- A name that must not be empty, read from `define`. -/
def named (define name : Text) (value : Bool) : Except Error Define :=
  if name.isEmpty then .error (.emptyName define) else .ok (name, value)

/-- Reads one definition; a bare name is true. -/
def ofText (define : Text) : Except Error Define :=
  match Text.cutFirst? '=' define with
  | none => named define (Text.trim define) true
  | some (name, word) =>
    match value? (Text.trim word) with
    | some value => named define (Text.trim name) value
    | none => .error (.invalidValue (Text.trim word) (Text.trim name))

def isSeparator (c : Char) : Bool := c == ',' || Text.isSpace c

/-- The definitions of a list, unread. -/
def pieces (text : Text) : List Text :=
  (Text.split isSeparator text).filter fun piece => !piece.isEmpty

/-- Reads a list of definitions; the first that cannot be read decides the error. -/
def listOfText (text : Text) : Except Error (List Define) := (pieces text).mapM ofText

/-- The flags of a list of definitions, later ones winning. -/
def flagsOfText (text : Text) : Except Error FlagSet := (listOfText text).map FlagSet.ofPairs

end Define

/-! ### The environment -/

namespace Environment

/-- The variable that holds definitions for every run. -/
def definesName : Text := "FILTERLIST_DEFINES".toList

/-- Why the variable could not be used. -/
inductive Error where
  | unparsable (cause : Define.Error)
  | notUnicode (value : List UInt8)
  deriving DecidableEq, Repr

def Error.message : Error → Text
  | unparsable _ => "unable to parse ".toList ++ definesName
  | notUnicode value =>
    "environment variable was not valid unicode: ".toList ++ Text.quotedBytes value

def Error.causes : Error → List Text
  | unparsable cause => [cause.message]
  | notUnicode _ => []

/-- The flags that the value of the variable defines. -/
def flags (value : Option (List UInt8)) : Except Error FlagSet :=
  match value with
  | none => .ok .empty
  | some bytes =>
    match Utf8.decode? bytes with
    | none => .error (.notUnicode bytes)
    | some text =>
      match Define.flagsOfText text with
      | .ok flags => .ok flags
      | .error cause => .error (.unparsable cause)

/-- The flags of the environment, overridden by `defines`. -/
def flagsWith (value : Option (List UInt8)) (defines : List Define) : Except Error FlagSet :=
  (flags value).map fun flags => flags.extend defines

end Environment

end FilterPrep
