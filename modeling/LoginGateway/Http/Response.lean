import LoginGateway.Http.Field
import LoginGateway.Text.Utf8

/-!
Responses as they are sent.
-/
set_option autoImplicit false

namespace LoginGateway.Http

structure Response where
  status : Nat
  fields : List (String × String)
  body : String
deriving DecidableEq

def checkValue (value : String) : Except Error String :=
  if isFieldValue (Text.utf8 value) then .ok value else .error .fieldValue

def checkStatus (status : Nat) : Except Error Nat :=
  if 100 ≤ status && status ≤ 999 then .ok status else .error .status

def noStore : String × String := ("cache-control", "no-store")

def redirect (location : String) (cookie : Option String) : Except Error Response := do
  let location ← checkValue location
  let cookies ← (cookie.toList).mapM checkValue
  return ⟨302, [noStore, ("location", location)] ++ cookies.map fun c => ("set-cookie", c), ""⟩

def failure (status : Nat) (message : String) : Except Error Response := do
  let status ← checkStatus status
  return ⟨status, [noStore, ("content-type", "text/plain; charset=utf-8")], message ++ "\n"⟩

end LoginGateway.Http
