import FilterPrep.Url.Parser

/-!
# Remote requests

A request can fail before any connection is made: the address does not parse, has no host, or has
a scheme that documents are not served by.
-/

namespace FilterPrep.Remote

def isServed (scheme : Text) : Bool := scheme == "http".toList || scheme == "https".toList

def badUrl (error : Url.ParseError) : Text :=
  "Bad URL: failed to parse URL: ".toList ++ error.message

/-- Why no connection is made for an address, if so. -/
def refusal? (address : Text) : Option Text :=
  match Url.parse address with
  | .error error => some (badUrl error)
  | .ok url =>
    if url.host?.isNone then some (badUrl .emptyHost)
    else if isServed url.scheme then none
    else
      some (url.render ++ ": Unknown Scheme: unknown scheme '".toList ++ url.scheme ++ ['\''])

/-- What is reported where there is no network. -/
def unconnected : Text := "Network Error: no connection".toList

/-- The reason for which a request fails where there is no network. -/
def failure (address : Text) : Text := (refusal? address).getD unconnected

end FilterPrep.Remote
