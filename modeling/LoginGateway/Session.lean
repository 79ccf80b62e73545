import LoginGateway.Token.Basic
import LoginGateway.Cookie

/-!
Sessions, kept in nothing but a signed cookie. A cookie that is forged, expired, foreign or of
another kind counts as none; one that is genuine and names nobody is an error.
-/
set_option autoImplicit false

namespace LoginGateway

structure Sessions where
  issuer : String
  cookieName : String
deriving DecidableEq

namespace Sessions

def lifetime : UInt64 := 7200

def defaultCookieName : String := "auth_cookie"

def issue (s : Sessions) (set : KeySet) (now : UInt64) (username : String) :
    Except Error SessionCookie :=
  let claims := Claims.issue s.issuer now lifetime (.session username)
  (Token.sign set claims).map fun token => ⟨s.cookieName, token, claims.expires⟩

def username? (s : Sessions) (now : UInt64) (claims : Claims) : Option String :=
  match claims.purpose with
  | .session username =>
    if claims.issuer = s.issuer && claims.isCurrent now then some username else none
  | .login _ => none

def validate (s : Sessions) (set : KeySet) (now : UInt64) (token : String) :
    Except Error (Option String) :=
  match (Token.verify set token).toOption.bind (s.username? now) with
  | none => .ok none
  | some username => if username.isEmpty then .error .badSession else .ok (some username)

end Sessions

end LoginGateway
