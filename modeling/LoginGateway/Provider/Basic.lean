import LoginGateway.Provider.Call
import LoginGateway.Config

/-!
The provider: where it authorizes, exchanges codes and tells about users, and who we are to it.
Its addresses have been read when it is built, so that no later step can fail on them.
-/
set_option autoImplicit false

namespace LoginGateway

structure Provider where
  authorization : Url
  tokens : Url
  userinfo : Url
  clientId : String
  clientSecret : String
  scopes : String
deriving DecidableEq

namespace Provider

def address (text : String) : Except Error Url := (Url.ofString text).mapError Error.url

def ofConfig (c : Config) : Except Error Provider := do
  let authorization ← address c.authUrl
  let tokens ← address c.tokenUrl
  let userinfo ← address c.userinfoUrl
  return ⟨authorization, tokens, userinfo, c.clientId, c.clientSecret, c.scopes⟩

def authorizationPairs (p : Provider) (state redirectUri : String) : Form.Pairs :=
  [("response_type", "code"), ("client_id", p.clientId), ("scope", p.scopes),
    ("redirect_uri", redirectUri)] ++ if state = "" then [] else [("state", state)]

def authorizationUrl (p : Provider) (state redirectUri : String) : String :=
  (p.authorization.extend (Form.encode (p.authorizationPairs state redirectUri))).toString

def codePost (p : Provider) (code redirectUri : String) : Post :=
  ⟨p.tokens,
    [("redirect_uri", redirectUri), ("code", code), ("grant_type", "authorization_code"),
      ("client_id", p.clientId), ("client_secret", p.clientSecret)]⟩

def usable (token : AccessToken) : Except Error AccessToken :=
  if token.isUsable then .ok token else .error (.tokenReply (.unusable token.tokenType))

def exchangeCode (p : Provider) (code redirectUri : String) (script : Script) :
    Call AccessToken :=
  (Call.post AccessToken.ofJson? (p.codePost code redirectUri) script).check usable

def userinfoPost (p : Provider) (token : AccessToken) : Post :=
  ⟨p.userinfo, [("access_token", token.token)]⟩

def fetchUserinfo (p : Provider) (token : AccessToken) (script : Script) : Call UserInfo :=
  Call.post UserInfo.ofJson? (p.userinfoPost token) script

def named (user : UserInfo) : Except Error String :=
  if user.derived = "" then .error .missingUsername else .ok user.derived

def identify (p : Provider) (code redirectUri : String) (script : Script) : Call String :=
  ((p.exchangeCode code redirectUri script).andThen p.fetchUserinfo).check named

end Provider

end LoginGateway
