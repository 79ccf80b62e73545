import LoginGateway.Json.Fields
import LoginGateway.Error
import LoginGateway.Text.Blank
import LoginGateway.Session

/-!
The gateway's configuration: read from JSON or from environment variables, with defaults for what
is not given, and normalized so that what must be given is there and what may be blank is not.
-/
set_option autoImplicit false

namespace LoginGateway

structure Config where
  appName : String := ""
  sharedSecrets : List String := []
  authUrl : String := ""
  tokenUrl : String := ""
  userinfoUrl : String := ""
  clientId : String := ""
  clientSecret : String := ""
  scopes : String := "openid"
  callbackPath : String := "/auth/oauth2/callback"
  providerTimeout : UInt64 := 5
  connectTimeout : UInt64 := 2
  clientCertificates : Bool := true
  cookieName : String := Sessions.defaultCookieName
deriving DecidableEq

namespace Config

def defaults : Config := {}

def fieldNames : List String :=
  ["app_name", "shared_secrets", "auth_url", "token_url", "userinfo_url", "client_id",
    "client_secret", "scopes", "callback_path", "provider_timeout_secs", "connect_timeout_secs",
    "client_certificates", "cookie_name"]

def ofFields? (fields : Json.Fields) : Option Config := do
  let text (name : String) (default : String) := fields.read? name Json.text? default
  return {
    appName := ← text "app_name" defaults.appName
    sharedSecrets := ← fields.read? "shared_secrets" (Json.list? Json.text?) defaults.sharedSecrets
    authUrl := ← text "auth_url" defaults.authUrl
    tokenUrl := ← text "token_url" defaults.tokenUrl
    userinfoUrl := ← text "userinfo_url" defaults.userinfoUrl
    clientId := ← text "client_id" defaults.clientId
    clientSecret := ← text "client_secret" defaults.clientSecret
    scopes := ← text "scopes" defaults.scopes
    callbackPath := ← text "callback_path" defaults.callbackPath
    providerTimeout := ← fields.read? "provider_timeout_secs" Json.word? defaults.providerTimeout
    connectTimeout := ← fields.read? "connect_timeout_secs" Json.word? defaults.connectTimeout
    clientCertificates :=
      ← fields.read? "client_certificates" Json.bool? defaults.clientCertificates
    cookieName := ← text "cookie_name" defaults.cookieName }

def ofJson? (j : Json) : Option Config := (Json.fieldsOf? fieldNames j).bind ofFields?

def ofJson (j : Json) : Except Error Config :=
  match ofJson? j with
  | some config => .ok config
  | none => .error .json

def required (c : Config) : List (String × String) :=
  [("app_name", c.appName), ("auth_url", c.authUrl), ("token_url", c.tokenUrl),
    ("userinfo_url", c.userinfoUrl), ("client_id", c.clientId),
    ("client_secret", c.clientSecret)]

def missing? (c : Config) : Option String :=
  (c.required.find? fun (_, value) => Text.isBlankText value).map Prod.fst

def hasSecret (c : Config) : Bool :=
  match c.sharedSecrets with
  | first :: _ => !Text.isBlankText first
  | [] => false

def orDefault (text default : String) : String := if Text.isBlankText text then default else text

def orSeconds (seconds default : UInt64) : UInt64 := if seconds = 0 then default else seconds

def filled (c : Config) : Config :=
  { c with
    scopes := orDefault c.scopes defaults.scopes
    callbackPath := orDefault c.callbackPath defaults.callbackPath
    providerTimeout := orSeconds c.providerTimeout defaults.providerTimeout
    connectTimeout := orSeconds c.connectTimeout defaults.connectTimeout
    cookieName := orDefault c.cookieName defaults.cookieName }

def normalize (c : Config) : Except Error Config :=
  match c.missing? with
  | some field => .error (.config (.missing field))
  | none => if c.hasSecret then .ok c.filled else .error (.config .noSecret)

abbrev Environment := String → Option String

def secretList (text : String) : List String :=
  ((text.toList.splitOn ',').map Text.trim).filterMap fun entry =>
    if entry.isEmpty then none else some (String.ofList entry)

def timeout (value : String) : Except Error UInt64 :=
  match Text.Decimal.readWord? (Text.trim value.toList) with
  | some seconds => .ok seconds
  | none => .error (.config (.timeout value))

def flag (value : String) : Except Error Bool :=
  let word := Text.trimmed value
  if ["1", "true", "yes", "on"].contains word then .ok true
  else if ["0", "false", "no", "off"].contains word then .ok false
  else .error (.config (.certificates word))

def given {α : Type} (value : Option String) (read : String → Except Error α) (default : α) :
    Except Error α :=
  match value with
  | some text => read text
  | none => .ok default

def ofVariables (env : Environment) : Except Error Config := do
  let text (name : String) (default : String) := (env name).getD default
  return {
    appName := text "AUTHN_APP_NAME" defaults.appName
    sharedSecrets := ((env "AUTHN_SHARED_SECRETS").map secretList).getD defaults.sharedSecrets
    authUrl := text "AUTHN_AUTH_URL" defaults.authUrl
    tokenUrl := text "AUTHN_TOKEN_URL" defaults.tokenUrl
    userinfoUrl := text "AUTHN_USERINFO_URL" defaults.userinfoUrl
    clientId := text "AUTHN_CLIENT_ID" defaults.clientId
    clientSecret := text "AUTHN_CLIENT_SECRET" defaults.clientSecret
    scopes := text "AUTHN_SCOPES" defaults.scopes
    callbackPath := text "AUTHN_CALLBACK_PATH" defaults.callbackPath
    providerTimeout :=
      ← given (env "AUTHN_PROVIDER_TIMEOUT_SECS") timeout defaults.providerTimeout
    connectTimeout := defaults.connectTimeout
    clientCertificates :=
      ← given (env "AUTHN_CLIENT_CERTIFICATES") flag defaults.clientCertificates
    cookieName := text "AUTHN_COOKIE_NAME" defaults.cookieName }

def ofEnvironment (env : Environment) : Except Error Config := ofVariables env >>= normalize

end Config

end LoginGateway
