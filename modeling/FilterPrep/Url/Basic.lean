import FilterPrep.Url.Host
import FilterPrep.Url.Path

/-!
# Addresses

A parsed address, how it is written, and its origin. Two addresses have one origin when scheme,
host and port agree; most schemes have no origin that could be compared.
-/

namespace FilterPrep

/-- What stands between the slashes and the path. -/
structure Url.Authority where
  username : Text
  password : Text
  host : Url.Host
  /-- Given only when it is not the default of the scheme. -/
  port : Option Nat
  deriving DecidableEq, Repr

/-- A parsed address, in canonical form. -/
structure Url where
  scheme : Text
  authority : Option Url.Authority
  path : Url.Path
  query : Option Text
  fragment : Option Text
  deriving DecidableEq, Repr

namespace Url

/-- The port that a scheme uses when none is given. -/
def defaultPort? (scheme : Text) : Option Nat :=
  if scheme = "http".toList ∨ scheme = "ws".toList then some 80
  else if scheme = "https".toList ∨ scheme = "wss".toList then some 443
  else if scheme = "ftp".toList then some 21
  else none

def isFileScheme (scheme : Text) : Bool := scheme == "file".toList

/-- Schemes whose addresses always have a path and whose hosts are domain names. -/
def isSpecialScheme (scheme : Text) : Bool :=
  isFileScheme scheme || (defaultPort? scheme).isSome

namespace Authority

def ofHost (host : Host) : Authority := ⟨[], [], host, none⟩

def hasUser (a : Authority) : Bool := !a.username.isEmpty || !a.password.isEmpty

def render (a : Authority) : Text :=
  (if a.hasUser then
      a.username ++ (if a.password.isEmpty then [] else ':' :: a.password) ++ ['@']
    else []) ++
    a.host.render ++
    (match a.port with
      | some port => ':' :: Text.ofNat port
      | none => [])

end Authority

/-- What is written in front of a path so that it is not taken for an authority. -/
def pathGuard (url : Url) : Text :=
  match url.authority, url.path with
  | none, .segments ([] :: _ :: _) => ['/', '.']
  | _, _ => []

def render (url : Url) : Text :=
  url.scheme ++ [':'] ++
    (match url.authority with
      | some authority => '/' :: '/' :: authority.render
      | none => []) ++
    url.pathGuard ++ url.path.render ++
    (match url.query with
      | some query => '?' :: query
      | none => []) ++
    (match url.fragment with
      | some fragment => '#' :: fragment
      | none => [])

/-- The host, if there is one and it is not empty. -/
def host? (url : Url) : Option Host :=
  match url.authority with
  | some authority => if authority.host.isEmpty then none else some authority.host
  | none => none

/-! ### Origins -/

/-- What two addresses share when they may include each other. -/
structure Origin where
  scheme : Text
  host : Host
  port : Nat
  deriving DecidableEq, Repr

def Origin.render (origin : Origin) : Text :=
  origin.scheme ++ "://".toList ++ origin.host.render ++
    (if defaultPort? origin.scheme = some origin.port then []
      else ':' :: Text.ofNat origin.port)

/-- The origin of an address whose scheme has a default port; other addresses have none. -/
def ownOrigin? (url : Url) : Option Origin := do
  let authority ← url.authority
  let usual ← defaultPort? url.scheme
  return ⟨url.scheme, authority.host, authority.port.getD usual⟩

end Url

end FilterPrep
