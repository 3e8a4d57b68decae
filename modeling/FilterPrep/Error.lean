import FilterPrep.Condition.Parser
import FilterPrep.Lines

/-!
# Errors

Everything that can go wrong while a list is compiled, as data. The wording of an error is given
by `message`, and `causes` lists the wording of the errors below it.
-/

namespace FilterPrep

inductive FetchError where
  | invalidStatus (url : Text) (status : Nat)
  | unsupportedContentType (url contentType : Text)
  | requestFailed (url reason : Text)
  /-- A local file could not be read. -/
  | unreadable (path cause : Text)
  deriving DecidableEq, Repr

/-- The content types that a served document may have. -/
def supportedContentTypes : List Text := ["text/plain".toList, "text/html".toList]

/-- Whether a content type names one of the supported types, possibly with parameters. -/
def isSupportedContentType (contentType : Text) : Bool :=
  supportedContentTypes.any fun supported => Text.contains supported contentType

def FetchError.message : FetchError → Text
  | invalidStatus url status =>
    "Response status for url ".toList ++ url ++ " is invalid: ".toList ++ Text.ofNat status
  | unsupportedContentType _ _ =>
    "Response content type should be one of: \"".toList ++
      Text.join ", ".toList supportedContentTypes ++ ['"']
  | requestFailed url reason =>
    "Failed to request url '".toList ++ url ++ "': ".toList ++ reason
  | unreadable path cause =>
    "Failed to read local file '".toList ++ path ++ "': ".toList ++ cause

def FetchError.causes : FetchError → List Text
  | unreadable _ cause => [cause]
  | _ => []

inductive PatchError where
  /-- No update is possible for now; the saved text stays in use. -/
  | unacceptableResponse (url : Text)
  | failed (url reason : Text)
  deriving DecidableEq, Repr

def PatchError.message : PatchError → Text
  | unacceptableResponse url => "Unacceptable response while patching ".toList ++ url
  | failed url reason => "Failed to apply patch to ".toList ++ url ++ ": ".toList ++ reason

inductive CompileError where
  | invalidDirective (line : Line) (cause : Condition.SyntaxError)
  | unexpectedElse (line : Line)
  | unexpectedEndIf (line : Line)
  | missingEndIf (line : Line)
  | invalidElse (elseLine ifLine : Line)
  | rejectedOrigin (origin : Text)
  | invalidUrl (url : Text)
  /-- An include line failed; `context` holds the lines in front of it. -/
  | includeFailed (line : Line) (context : Lines) (location : Option Text) (cause : CompileError)
  | includeCycle (chain : List Text)
  | includeTooDeep (limit : Nat) (location : Text)
  | invalidChecksum
  | emptyResponse
  | fetch (error : FetchError)
  | patch (error : PatchError)
  deriving DecidableEq, Repr

namespace CompileError

/-- The rows in front of the cause in the message of a failed include. -/
def includeRows (line : Line) (context : Lines) (location : Option Text) : List Text :=
  ["Failed to resolve the include directive '".toList ++ line ++ ['\'']] ++
    (match location with
      | some location => ["URL: '".toList ++ location ++ ['\'']]
      | none => []) ++
    (if context.isEmpty then []
      else ["Context:".toList, Lines.indented context, '\t' :: line])

def message : CompileError → Text
  | invalidDirective line cause =>
    "Invalid directives: ".toList ++ cause.message ++ ": '".toList ++ line ++ ['\'']
  | unexpectedElse line =>
    "Invalid directives: Found unexpected condition else branch: ".toList ++ line
  | unexpectedEndIf line => "Invalid directives: Found unexpected condition end: ".toList ++ line
  | missingEndIf line => "Invalid directives: Condition end not found: ".toList ++ line
  | invalidElse elseLine ifLine =>
    "Invalid directives: Found invalid !#else: ".toList ++ elseLine ++ " in block ".toList ++ ifLine
  | rejectedOrigin origin => "Include url is rejected with origin: ".toList ++ origin
  | invalidUrl url => "Invalid url: '".toList ++ url ++ ['\'']
  | includeFailed line context location cause =>
    Text.join ['\n'] (includeRows line context location ++ ['\t' :: cause.message]) ++ ['\n']
  | includeCycle chain => "Include cycle detected: ".toList ++ Text.join " -> ".toList chain
  | includeTooDeep limit location =>
    "Include depth limit of ".toList ++ Text.ofNat limit ++ " exceeded: ".toList ++ location
  | invalidChecksum => "Invalid checksum".toList
  | emptyResponse => "Response is empty".toList
  | fetch error => error.message
  | patch error => error.message

/-- The messages of the errors below this one, outermost first. -/
def causes : CompileError → List Text
  | invalidDirective _ cause => [cause.message]
  | includeFailed _ _ _ cause => cause.message :: cause.causes
  | fetch error => error.causes
  | _ => []

/-- The error at the bottom of failed includes. -/
def root : CompileError → CompileError
  | includeFailed _ _ _ cause => cause.root
  | error => error

end CompileError

end FilterPrep
