import LoginGateway.Request
import LoginGateway.Login
import LoginGateway.Session
import LoginGateway.Provider.Basic
import LoginGateway.Http.Response

/-!
The gateway: it tells who sent a request, sends strangers to the provider, and takes them back
with a session. It keeps no state but the keys, which every operation is given with the time.
-/
set_option autoImplicit false

namespace LoginGateway

structure Gateway where
  sessions : Sessions
  logins : Logins
  provider : Provider
  callbackPath : String
  clientCertificates : Bool
deriving DecidableEq

namespace Gateway

inductive Response where
  | redirect (location : String) (cookie : Option String)
  | failure (status : Nat) (message : String)
deriving DecidableEq

def Response.status : Response → Nat
  | .redirect _ _ => 302
  | .failure status _ => status

def Response.toHttp : Response → Except Http.Error Http.Response
  | .redirect location cookie => Http.redirect location cookie
  | .failure status message => Http.failure status message

inductive Source where
  | clientCertificate
  | sessionCookie
deriving DecidableEq

inductive Outcome where
  | authenticated (username : String) (source : Source)
  | respond (response : Response)
deriving DecidableEq

def ofConfig (config : Config) : Except Error (Gateway × KeySet) := do
  let c ← config.normalize
  let keys ← KeySet.ofSecrets c.sharedSecrets
  let provider ← Provider.ofConfig c
  return ({
    sessions := ⟨c.appName, c.cookieName⟩
    logins := ⟨c.appName⟩
    provider
    callbackPath := c.callbackPath
    clientCertificates := c.clientCertificates }, keys)

def rotate (set : KeySet) : Except Error KeySet := set.signingKey.map fun _ => set

def prepend (keys : KeySet) (secret : String) : Except Error KeySet := do
  let key ← Secret.decode secret
  rotate (keys.prepend key)

def schemeMark : List Char := [':', '/', '/']

def fromSlash (cs : List Char) : List Char :=
  match cs.dropWhile (· ≠ '/') with
  | [] => ['/']
  | path => path

def callbackRoute (g : Gateway) : List Char :=
  match Text.cutAt? schemeMark g.callbackPath.toList with
  | some (_, rest) => fromSlash rest
  | none => g.callbackPath.toList

def isCallback (g : Gateway) (r : Request) : Bool := r.path = g.callbackRoute

def redirectUri (g : Gateway) (r : Request) : Except Error String :=
  if Text.contains schemeMark g.callbackPath.toList then .ok g.callbackPath
  else
    match (r.host.map Text.trimmed).filter (· ≠ "") with
    | some host => .ok ("https://" ++ host ++ g.callbackPath)
    | none => .error .missingHost

def certified? (g : Gateway) (r : Request) : Option String :=
  if g.clientCertificates then (r.chains.bind Chains.leaf?).filter (· ≠ "") else none

def sessionUser (g : Gateway) (keys : KeySet) (now : UInt64) (r : Request) :
    Except Error (Option String) :=
  match Cookie.find? r.cookies g.sessions.cookieName with
  | some token => g.sessions.validate keys now token
  | none => .ok none

def badTransaction : String := "bad transaction with openid context"
def missingHost : Response := .failure 400 "missing Host header"

def authorizationUrl (g : Gateway) (keys : KeySet) (now : UInt64) (r : Request) :
    Except Error String := do
  let redirectUri ← g.redirectUri r
  let state ← g.logins.issue keys now r.target
  return g.provider.authorizationUrl state redirectUri

def toProvider (g : Gateway) (keys : KeySet) (now : UInt64) (r : Request) : Response :=
  match g.authorizationUrl keys now r with
  | .ok location => .redirect location none
  | .error .missingHost => missingHost
  | .error _ => .failure 500 "Internal Error"

def resolve (g : Gateway) (keys : KeySet) (now : UInt64) (r : Request) : Outcome :=
  match g.certified? r with
  | some username => .authenticated username .clientCertificate
  | none =>
    match g.sessionUser keys now r with
    | .ok (some username) => .authenticated username .sessionCookie
    | .ok none => .respond (g.toProvider keys now r)
    | .error _ => .respond (.failure 500 badTransaction)

structure Arrival where
  code : String
  returnUrl : String
  redirectUri : String
deriving DecidableEq

def arrival (g : Gateway) (keys : KeySet) (now : UInt64) (r : Request) :
    Except Response Arrival :=
  if r.method ≠ "GET" then .error (.failure 405 "Invalid method")
  else if r.parameter "code" = "" then .error (.failure 401 "null code")
  else
    match g.logins.validate keys now (r.parameter "state"), g.redirectUri r with
    | .error _, _ => .error (.failure 401 "null or bad inboundState")
    | .ok _, .error _ => .error missingHost
    | .ok returnUrl, .ok redirectUri => .ok ⟨r.parameter "code", returnUrl, redirectUri⟩

def failureMessage : Error → String
  | .missingUsername => "cannot determine username"
  | _ => badTransaction

def landing (g : Gateway) (keys : KeySet) (now : UInt64) (returnUrl : String)
    (username : Except Error String) : Response :=
  match username.bind (g.sessions.issue keys now) with
  | .ok cookie => .redirect (ReturnUrl.restricted returnUrl) (some cookie.header)
  | .error e => .failure e.status (failureMessage e)

structure Handled (α : Type) where
  answer : α
  attempts : List Attempt
deriving DecidableEq

def callback (g : Gateway) (keys : KeySet) (now : UInt64) (r : Request) (script : Script) :
    Handled Response :=
  match g.arrival keys now r with
  | .error response => ⟨response, []⟩
  | .ok a =>
    let call := g.provider.identify a.code a.redirectUri script
    ⟨g.landing keys now a.returnUrl call.result, call.attempts⟩

def handle (g : Gateway) (keys : KeySet) (now : UInt64) (r : Request) (script : Script) :
    Handled Outcome :=
  if g.isCallback r then
    let handled := g.callback keys now r script
    ⟨.respond handled.answer, handled.attempts⟩
  else ⟨g.resolve keys now r, []⟩

end Gateway

end LoginGateway
