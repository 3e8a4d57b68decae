import FilterPrep.Url.Basic

/-!
# Reading addresses

Addresses are read by the rules of browsers: white space around an address and line breaks inside
it do not count, special schemes take backslashes for slashes, and every part is brought into its
canonical form.
-/

namespace FilterPrep.Url

/-- The address without controls and spaces around it. -/
def trim (t : Text) : Text := Text.trimBy (·.toNat ≤ 0x20) t

def isSchemeChar (c : Char) : Bool := c.isAlphanum || c == '+' || c == '-' || c == '.'

/-- The scheme in small letters and what is written behind its colon. -/
def readScheme? (t : Text) : Option (Text × Text) :=
  match Text.cutFirst? ':' t with
  | none => none
  | some (scheme, rest) =>
    match withoutIgnored scheme with
    | c :: scheme =>
      if c.isAlpha && scheme.all isSchemeChar then some (Text.asciiLower (c :: scheme), rest)
      else none
    | [] => none

/-- What separates the segments of a path. -/
def isSlash (special : Bool) (c : Char) : Bool := c == '/' || (special && c == '\\')

def endsAuthority (special : Bool) (c : Char) : Bool := isSlash special c || c == '?' || c == '#'

def endsPath (c : Char) : Bool := c == '?' || c == '#'

/-- Adds the query and the fragment that stand behind the path. -/
def withTail (scheme : Text) (authority : Option Authority) (path : Path) (tail : Text) : Url :=
  let (queryPart, fragment) := match Text.cutFirst? '#' tail with
    | some (front, fragment) => (front, some (Percent.encode Percent.fragment fragment))
    | none => (tail, none)
  let set := if isSpecialScheme scheme then Percent.specialQuery else Percent.query
  let query := match queryPart with
    | '?' :: query => some (Percent.encode set query)
    | _ => none
  ⟨scheme, authority, path, query, fragment⟩

/-! ### The authority -/

/-- The user part in front of the last `@`, and the rest. -/
def readUser (t : Text) : Text × Text × Text :=
  match Text.cutLast? '@' t with
  | none => ([], [], t)
  | some (user, rest) =>
    match Text.cutFirst? ':' user with
    | none => (Percent.encode Percent.userinfo user, [], rest)
    | some (username, password) =>
      (Percent.encode Percent.userinfo username, Percent.encode Percent.userinfo password, rest)

/-- The host, up to a colon outside brackets, and what follows; `inside` tells whether a bracket
is open. -/
def hostSpan (inside : Bool) : Text → Text × Text
  | [] => ([], [])
  | c :: t =>
    if c = ':' ∧ !inside then ([], c :: t)
    else
      let (host, rest) := hostSpan (if c = '[' then true else if c = ']' then false else inside) t
      (c :: host, rest)

/-- The port behind a colon and what follows its digits; a missing or usual port is dropped. -/
def readPort (scheme t : Text) : Except ParseError (Option Nat × Text) :=
  let ds := t.takeWhile Char.isDigit
  let rest := t.dropWhile Char.isDigit
  let port := ds.foldl (fun n c => 10 * n + (c.toNat - '0'.toNat)) 0
  if 65535 < port then .error .invalidPort
  else
    match rest with
    | [] => .ok (if ds.isEmpty ∨ defaultPort? scheme = some port then none else some port, [])
    | c :: _ =>
      if endsAuthority true c then
        .ok (if ds.isEmpty ∨ defaultPort? scheme = some port then none else some port, rest)
      else .error .invalidPort

/-- The host of an address with this scheme; only special schemes need one. -/
def readHost (scheme t : Text) : Except ParseError Host :=
  if isSpecialScheme scheme then
    if t.isEmpty then .error .emptyHost else Host.ofDomain t
  else Host.ofOther t

/-- The port of a host and what follows it. -/
def portOf (scheme : Text) (host : Host) : Text → Except ParseError (Option Nat × Text)
  | ':' :: t => if host.isEmpty then .error .emptyHost else readPort scheme t
  | t => .ok (none, t)

/-- Reads user, host and port from `t`; `behind` is what follows the authority. The text that
belongs to the path is returned as well. -/
def readAuthority (scheme t behind : Text) : Except ParseError (Authority × Text) :=
  let (username, password, hostPort) := readUser t
  if t = ['@'] ∧ !behind.isEmpty then .error .emptyHost
  else do
    let (hostText, rest) := hostSpan false hostPort
    let host ← readHost scheme hostText
    let (port, rest) ← portOf scheme host rest
    let authority : Authority := ⟨username, password, host, port⟩
    if host.isEmpty && authority.hasUser then .error .emptyHost
    else .ok (authority, rest ++ behind)

/-- Reads an address from behind the slashes in front of its authority. -/
def readHierarchy (scheme t : Text) : Except ParseError Url := do
  let special := isSpecialScheme scheme
  let (authorityText, behind) := t.span fun c => !endsAuthority special c
  let (authority, rest) ← readAuthority scheme authorityText behind
  let (pathText, tail) := rest.span fun c => !endsPath c
  let path := match pathText with
    | [] => if special then [[]] else []
    | c :: t =>
      Path.read (isSlash special) (if isSlash special c then t else c :: t)
  return withTail scheme (some authority) (.segments path) tail

/-! ### Files -/

def fileUrl (host : Host) (pathText tail : Text) : Url :=
  let path := DrivePath.read (isSlash true) pathText
  let host := if path.onDrive then .name [] else host
  withTail "file".toList (some (.ofHost host)) (.segments path.segments) tail

/-- The host of a file; the local host counts as none. -/
def readFileHost (t : Text) : Except ParseError Host :=
  if t.isEmpty then .ok (.name [])
  else
    match Host.ofDomain t with
    | .ok host => .ok (if host = .name "localhost".toList then .name [] else host)
    | .error error => .error error

/-- What is written behind a slash at the start of a text. -/
def behindSlash? (t : Text) : Option Text :=
  match t.dropWhile isIgnored with
  | c :: t => if isSlash true c then some t else none
  | [] => none

/-- Reads the address of a file from what is written behind its scheme. Without a host, the slash
in front of the path counts as an empty segment, so that no drive can follow it. -/
def readFile (t : Text) : Except ParseError Url :=
  let (pathText, tail) := t.span fun c => !endsPath c
  let tail := withoutIgnored tail
  match behindSlash? pathText with
  | none => .ok (fileUrl (.name []) pathText tail)
  | some inner =>
    match behindSlash? inner with
    | none => .ok (fileUrl (.name []) inner tail)
    | some rest =>
      let (hostText, path) := rest.span fun c => !isSlash true c
      let hostText := withoutIgnored hostText
      if Path.isDrive hostText then .ok (fileUrl (.name []) rest tail)
      else
        (readFileHost hostText).map fun host =>
          fileUrl host (if host.isEmpty then path else path.drop 1) tail

/-! ### Addresses -/

/-- Reads an address with any other scheme from behind that scheme. -/
def readOther (scheme t : Text) : Except ParseError Url :=
  if isSpecialScheme scheme then readHierarchy scheme (t.dropWhile (isSlash true))
  else
    match t with
    | '/' :: '/' :: rest => readHierarchy scheme rest
    | _ =>
      let (pathText, tail) := t.span fun c => !endsPath c
      let path := match pathText with
        | '/' :: t => .segments (Path.read (isSlash false) t)
        | t => .verbatim (Percent.encode Percent.controls t)
      .ok (withTail scheme none path tail)

def parse (t : Text) : Except ParseError Url :=
  match readScheme? (trim t) with
  | none => .error .relativeWithoutBase
  | some (scheme, rest) =>
    if isFileScheme scheme then readFile rest else readOther scheme (withoutIgnored rest)

/-- The origin of an address that may be nested at most `depth` deep. -/
def originWithin? : (depth : Nat) → Url → Option Origin
  | 0, url => url.ownOrigin?
  | depth + 1, url =>
    if url.scheme = "blob".toList then
      match parse url.path.render with
      | .ok inner => originWithin? depth inner
      | .error _ => none
    else url.ownOrigin?

/-- The origin of an address. The address of stored data has the origin of the address that it
nests in its path, and each nested address is shorter than the one around it. -/
def origin? (url : Url) : Option Origin := originWithin? url.path.render.length url

/-- The text of an origin; addresses without one all have the same. -/
def originText (url : Url) : Text :=
  match url.origin? with
  | some origin => origin.render
  | none => "null".toList

end FilterPrep.Url
