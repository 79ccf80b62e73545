import LoginGateway.Url.Reader
import LoginGateway.Web.Form

/-!
Where a login returns to: a path on the same site, with its query. Anything else becomes the root,
so that no login can be made to end on another site.
-/
set_option autoImplicit false

namespace LoginGateway.ReturnUrl

def maxLength : Nat := 2048

def root : List Char := ['/']

def withoutFragment (cs : List Char) : List Char := Text.before (· = '#') cs

-- Characters that a browser may drop or take for another, so that the text means another place.
def isUnsafe (c : Char) : Bool := c = '\\' || Text.isControl c || Text.isBlank c

def isLocal (cs : List Char) : Bool :=
  cs.head? = some '/' && !(['/', '/'].isPrefixOf cs) &&
    Text.Utf8.byteLength cs ≤ maxLength && !Text.contains [':', '/', '/'] cs && !cs.any isUnsafe

def restrict (cs : List Char) : List Char :=
  let candidate := Text.trim (withoutFragment cs)
  if isLocal candidate then candidate else root

def ofTarget (cs : List Char) : List Char :=
  let target := withoutFragment cs
  match Url.read target with
  | .ok address => restrict address.target
  | .error _ => restrict target

def restricted (input : String) : String := String.ofList (restrict input.toList)

def derived (target : String) : String := String.ofList (ofTarget target.toList)

end LoginGateway.ReturnUrl
