import LoginGateway.Text.Blank
import LoginGateway.Text.Split
import LoginGateway.Time.HttpDate

/-!
Cookies: the pairs that a browser sends, and a session cookie as it is set.
-/
set_option autoImplicit false

namespace LoginGateway.Cookie

def pairs (header : List Char) : List (List Char × List Char) :=
  (header.splitOn ';').filterMap fun piece => Text.cut? (· = '=') (Text.trim piece)

def value? (header name : List Char) : Option (List Char) := (pairs header).lookup name

def find? (header : Option String) (name : String) : Option String :=
  (header.bind fun text => value? text.toList name.toList).map String.ofList

end LoginGateway.Cookie

namespace LoginGateway

structure SessionCookie where
  name : String
  value : String
  expires : UInt64
deriving DecidableEq

def SessionCookie.header (c : SessionCookie) : String :=
  c.name ++ "=" ++ c.value ++ "; Path=/; Expires=" ++ HttpDate.toString c.expires ++
    "; HttpOnly; Secure; SameSite=Lax"

end LoginGateway
