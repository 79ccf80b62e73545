import LoginGateway.Url.Basic
import LoginGateway.Text.Quoted

/-!
What can go wrong, by cause, with the wording of each and the answer it leads to.
-/
set_option autoImplicit false

namespace LoginGateway

inductive Spelling where
  | hex
  | base64
  | base64Url
deriving DecidableEq

def Spelling.name : Spelling → String
  | .hex => "hex"
  | .base64 => "base64"
  | .base64Url => "base64url"

inductive ConfigProblem where
  | missing (field : String)
  | noSecret
  | emptySecret
  | malformedSecret (spelling : Spelling)
  | timeout (value : String)
  | certificates (value : String)
  | other (text : String)
deriving DecidableEq

def ConfigProblem.message : ConfigProblem → String
  | .missing field => field ++ " is required"
  | .noSecret => "at least one shared secret is required"
  | .emptySecret => "shared secret must not be empty"
  | .malformedSecret spelling =>
    "shared secret: invalid " ++ spelling.name ++ " after '" ++ spelling.name ++ ":' prefix"
  | .timeout value => "AUTHN_PROVIDER_TIMEOUT_SECS: " ++ Text.quoted value
  | .certificates value => "AUTHN_CLIENT_CERTIFICATES: " ++ Text.quoted value
  | .other text => text

inductive TokenProblem where
  | unusable (tokenType : String)
  | other (text : String)
deriving DecidableEq

def TokenProblem.message : TokenProblem → String
  | .unusable tokenType => "token type " ++ Text.quoted tokenType
  | .other text => text

-- How a call failed without a reply or a timeout: there is no such endpoint to call, nobody accepted the
-- connection, or it ended before the reply did.
inductive Fault where
  | badEndpoint
  | refused
  | brokenOff
deriving DecidableEq

inductive Error where
  | config (problem : ConfigProblem)
  | noSigningKey
  | noValidKey
  | badState
  | badSession
  | http (fault : Fault)
  | url (e : Url.Error)
  | json
  | providerStatus (status : Nat)
  | providerTimeout
  | tokenReply (problem : TokenProblem)
  | missingUsername
  | missingHost
  | internal (text : String)
deriving DecidableEq

namespace Error

def isTransient : Error → Bool
  | .providerTimeout => true
  | .http .refused => true
  | _ => false

def status (e : Error) : Nat :=
  match e with
  | .missingHost => 400
  | e => if e.isTransient then 503 else 500

def message? : Error → Option String
  | .config problem => some ("invalid config: " ++ problem.message)
  | .noSigningKey => some "invalid authenticator state, no shared secrets"
  | .noValidKey => some "no valid key found"
  | .badState => some "invalid state"
  | .badSession => some "bad cookie value state"
  | .http _ => none
  | .url e => some ("url parse error: " ++ e.message)
  | .json => none
  | .providerStatus status =>
    some ("provider returned status " ++ String.ofList (Text.Decimal.text status))
  | .providerTimeout => some "provider request timed out"
  | .tokenReply problem => some ("invalid token response: " ++ problem.message)
  | .missingUsername => some "userinfo carries no usable username"
  | .missingHost => some "request carries no Host header"
  | .internal text => some ("internal error: " ++ text)

end Error

end LoginGateway
