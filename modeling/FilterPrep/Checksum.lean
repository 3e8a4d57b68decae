import FilterPrep.Checksum.Base64
import FilterPrep.Checksum.Md5
import FilterPrep.Error

/-!
# Checksums

A document may declare its checksum in a comment at its top. The checksum is the MD5 digest, in
Base64 without padding, of the document without that line, without carriage returns, and with
every run of line feeds collapsed to one.
-/

namespace FilterPrep.Checksum

/-- How many characters of a document are searched for the declaration. -/
def searchLimit : Nat := 200

/-- What follows `word`, compared without regard to case. -/
def afterWord? : (word t : Text) → Option Text
  | [], t => some t
  | _ :: _, [] => none
  | c :: word, d :: t => if Text.foldCase d = c then afterWord? word t else none

/-- What follows a run of at least one character that satisfies `p`, with the run in front. -/
def takeSome? (p : Char → Bool) (t : Text) : Option (Text × Text) :=
  if (t.takeWhile p).isEmpty then none else some (t.takeWhile p, t.dropWhile p)

def isSeparator (c : Char) : Bool := Text.isSpace c || c == '-' || c == ':'

/-- What a declared value consists of; letters are taken up to case folding. -/
def isValueChar (c : Char) : Bool :=
  (Text.foldCase c).isAlphanum || c == '_' || c == '+' || c == '/' || c == '='

/-- Reads the declaration at the start of a text: a comment mark, the word, separators, the value,
the rest of the line and its line breaks. The value is returned with what follows. -/
def readDeclaration? (t : Text) : Option (Text × Text) := do
  let comment ← Text.after? ['!'] (Text.trimStart t)
  let tail ← afterWord? "checksum".toList (Text.trimStart comment)
  let (_, tail) ← takeSome? isSeparator tail
  let (value, tail) ← takeSome? isValueChar tail
  let (_, rest) ← takeSome? Lines.isBreak (tail.dropWhile fun c => !Lines.isBreak c)
  return (value, rest)

def declared? (content : Text) : Option Text :=
  (readDeclaration? (content.take searchLimit)).map Prod.fst

def body (content : Text) : Text :=
  match readDeclaration? (content.take searchLimit) with
  | some (_, rest) => rest ++ content.drop searchLimit
  | none => content

/-- Every run of line feeds as one. -/
def collapseFeeds : Text → Text
  | [] => []
  | c :: t => if c = '\n' ∧ t.head? = some '\n' then collapseFeeds t else c :: collapseFeeds t

/-- The text whose digest is the checksum. -/
def normalize (content : Text) : Text := collapseFeeds ((body content).filter (· != '\r'))

def calculate (content : Text) : Text :=
  Base64.encode (Md5.digest ((normalize content).flatMap String.utf8EncodeChar))

/-- Whether the declared checksum is right; a document without one passes unless `strict`. -/
def isValid (content : Text) (strict : Bool) : Bool :=
  match declared? content with
  | some expected => calculate content == expected
  | none => !strict

def validate (content : Text) (strict : Bool) : Except CompileError Unit :=
  if isValid content strict then .ok () else .error .invalidChecksum

end FilterPrep.Checksum
