import LoginGateway.Error
import LoginGateway.Text.Blank
import LoginGateway.Text.Split
import LoginGateway.Bytes.Base64

/-!
Shared secrets as they are configured: in one of three marked spellings, or as plain text whose
UTF-8 bytes are the key. Blanks around a secret do not count, and no key is empty.
-/
set_option autoImplicit false

namespace LoginGateway.Secret

def mark (spelling : Spelling) : List Char := spelling.name.toList ++ [':']

-- A spelling's mark and what follows it; the marks differ at their colon or before it.
def marked? (cs : List Char) : Option (Spelling × List Char) :=
  [Spelling.hex, .base64, .base64Url].findSome? fun spelling =>
    ((mark spelling).isPrefixOf? cs).map fun rest => (spelling, rest)

def spelled? : Spelling → List Char → Option Bytes
  | .hex => Hex.decode?
  | .base64 => Base64.decodeEither? .standard
  | .base64Url => Base64.decodeEither? .urlSafe

def bytes (cs : List Char) : Except Error Bytes :=
  match marked? cs with
  | none => .ok (Text.Utf8.encode cs)
  | some (spelling, rest) =>
    match spelled? spelling rest with
    | some key => .ok key
    | none => .error (.config (.malformedSecret spelling))

def decode (secret : String) : Except Error Bytes := do
  let key ← bytes (Text.trim secret.toList)
  if key.isEmpty then .error (.config .emptySecret) else .ok key

end LoginGateway.Secret
