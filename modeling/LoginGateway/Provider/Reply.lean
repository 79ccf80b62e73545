import LoginGateway.Json.Fields
import LoginGateway.Json.Reader
import LoginGateway.Error

/-!
What a provider answers: an access token or a user's record, each read from a complete reply of a
good status.
-/
set_option autoImplicit false

namespace LoginGateway

structure AccessToken where
  token : String
  tokenType : String
  expiresIn : Option UInt64
  idToken : Option String
deriving DecidableEq

def AccessToken.fieldNames : List String := ["access_token", "token_type", "expires_in", "id_token"]

def AccessToken.ofJson? (j : Json) : Option AccessToken := do
  let fields ← Json.fieldsOf? fieldNames j
  return {
    token := ← fields.text? "access_token"
    tokenType := ← fields.text? "token_type"
    expiresIn := ← fields.nullable? "expires_in" Json.word?
    idToken := ← fields.nullable? "id_token" Json.text? }

def AccessToken.isUsable (t : AccessToken) : Bool := t.tokenType = "Bearer" && t.token ≠ ""

structure UserInfo where
  subject : String
  name : String
  login : String
  username : String
  preferredUsername : String
  email : String
deriving DecidableEq

def UserInfo.fieldNames : List String :=
  ["sub", "name", "login", "username", "preferred_username", "email"]

def UserInfo.ofJson? (j : Json) : Option UserInfo := do
  let fields ← Json.fieldsOf? fieldNames j
  return {
    subject := ← fields.text? "sub"
    name := ← fields.text? "name"
    login := ← fields.text? "login"
    username := ← fields.text? "username"
    preferredUsername := ← fields.text? "preferred_username"
    email := ← fields.text? "email" }

def UserInfo.derived (u : UserInfo) : String :=
  ([u.username, u.login, u.preferredUsername, u.email].find? (· ≠ "")).getD ""

inductive Reply where
  | complete (status : Nat) (body : Bytes)
  | timedOut
  | refused
  | brokenOff
deriving DecidableEq

variable {α : Type}

def readDocument (decode : Json → Option α) (body : Bytes) : Except Error α :=
  match (Json.read? body).bind decode with
  | some value => .ok value
  | none => .error .json

def Reply.read (decode : Json → Option α) : Reply → Except Error α
  | .complete status body =>
    if status < 300 then readDocument decode body else .error (.providerStatus status)
  | .timedOut => .error .providerTimeout
  | .refused => .error (.http .refused)
  | .brokenOff => .error (.http .brokenOff)

-- The replies that the next calls get, and the one that all calls after them get.
structure Script where
  replies : List Reply
  after : Reply
deriving DecidableEq

def Script.next (s : Script) : Reply × Script :=
  match s.replies with
  | [] => (s.after, s)
  | reply :: rest => (reply, { s with replies := rest })

end LoginGateway
