import LoginGateway.Token.Claims
import LoginGateway.Token.Header
import LoginGateway.Secret.KeySet
import LoginGateway.Hash.Hmac

/-!
Signed tokens: header, claims and signature, each in unpadded base64 and set apart by points. A
token verifies under a key if its signature is spelled as that key would sign the rest.
-/
set_option autoImplicit false

namespace LoginGateway.Token

def encode (bytes : Bytes) : List Char := Base64.encode .urlSafe bytes

def decode? (cs : List Char) : Option Bytes := Base64.decode? .urlSafe cs

def signature (key : Bytes) (message : List Char) : List Char :=
  encode (Hmac.sha256 key (Text.Utf8.encode message))

def message (claims : Claims) : List Char :=
  encode (Text.utf8 Header.text) ++ '.' :: encode (Text.utf8 claims.text)

def signWith (key : Bytes) (claims : Claims) : List Char :=
  message claims ++ '.' :: signature key (message claims)

def sign (set : KeySet) (claims : Claims) : Except Error String :=
  set.signingKey.map fun key => String.ofList (signWith key claims)

structure Parts where
  header : List Char
  payload : List Char
  signature : List Char
deriving DecidableEq

def Parts.message (p : Parts) : List Char := p.header ++ '.' :: p.payload

def parts? (cs : List Char) : Option Parts := do
  let (message, signature) ← Text.cutLast? (· = '.') cs
  let (header, payload) ← Text.cutLast? (· = '.') message
  return ⟨header, payload, signature⟩

def Parts.hasHeader (p : Parts) : Bool :=
  match (decode? p.header).bind Json.read? with
  | some j => Header.accepts j
  | none => false

def Parts.claims? (p : Parts) : Option Claims := (decode? p.payload).bind Claims.read?

def Parts.content? (p : Parts) : Option Claims := if p.hasHeader then p.claims? else none

def Parts.isSignedBy (p : Parts) (key : Bytes) : Bool := p.signature = Token.signature key p.message

def verifyWith? (key : Bytes) (p : Parts) : Option Claims :=
  if p.isSignedBy key then p.content? else none

def verify (set : KeySet) (token : String) : Except Error Claims :=
  match (parts? token.toList).bind fun p => set.verificationKeys.findSome? (verifyWith? · p) with
  | some claims => .ok claims
  | none => .error .noValidKey

end LoginGateway.Token
