import LoginGateway.Secret.Basic

/-!
The keys in use, the newest first. The first key signs, and every key that is not empty verifies.
-/
set_option autoImplicit false

namespace LoginGateway

structure KeySet where
  keys : List Bytes
deriving DecidableEq

namespace KeySet

def signingKey (set : KeySet) : Except Error Bytes :=
  match set.keys with
  | (b :: rest) :: _ => .ok (b :: rest)
  | _ => .error .noSigningKey

def verificationKeys (set : KeySet) : List Bytes := set.keys.filter fun key => !key.isEmpty

def ofSecrets (secrets : List String) : Except Error KeySet := do
  let keys ← secrets.mapM Secret.decode
  let _ ← signingKey ⟨keys⟩
  return ⟨keys⟩

def prepend (set : KeySet) (key : Bytes) : KeySet := ⟨key :: set.keys⟩

def size (set : KeySet) : Nat := set.keys.length

def isEmpty (set : KeySet) : Bool := set.keys.isEmpty

def summary (set : KeySet) : String :=
  "SecretSet \x7b keys: " ++ String.ofList (Text.Decimal.text set.size) ++ " \x7d"

end KeySet

end LoginGateway
