import LoginGateway.Token.Basic
import LoginGateway.ReturnUrl

/-!
The state of a login on its way to the provider and back, kept in nothing but a signed token that
names the place to return to. All that is wrong with one is told in the same way.
-/
set_option autoImplicit false

namespace LoginGateway

structure Logins where
  issuer : String
deriving DecidableEq

namespace Logins

def lifetime : UInt64 := 300

def issue (l : Logins) (set : KeySet) (now : UInt64) (target : String) : Except Error String :=
  Token.sign set (Claims.issue l.issuer now lifetime (.login (ReturnUrl.derived target)))

def returnUrl? (l : Logins) (now : UInt64) (claims : Claims) : Option String :=
  match claims.purpose with
  | .login returnUrl =>
    if claims.issuer = l.issuer && claims.isCurrent now then some returnUrl else none
  | .session _ => none

def validate (l : Logins) (set : KeySet) (now : UInt64) (token : String) : Except Error String :=
  match (Token.verify set token).toOption.bind (l.returnUrl? now) with
  | some returnUrl => .ok returnUrl
  | none => .error .badState

end Logins

end LoginGateway
