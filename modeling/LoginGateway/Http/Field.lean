import LoginGateway.Text.Utf8
import LoginGateway.Text.Blank

/-!
The fields of HTTP messages. Methods and names are tokens; a value holds any bytes but controls,
tabs apart, and is text if all of them are ASCII.
-/
set_option autoImplicit false

namespace LoginGateway.Http

inductive Error where
  | method
  | fieldName
  | fieldValue
  | status
  | targetCharacter
  | targetEmpty
  | targetFormat
  | targetAuthority
  | schemeLength
  | targetLength
deriving DecidableEq

def Error.message : Error → String
  | .method => "invalid HTTP method"
  | .fieldName => "invalid HTTP header name"
  | .fieldValue => "failed to parse header value"
  | .status => "invalid status code"
  | .targetCharacter => "invalid uri character"
  | .targetEmpty => "empty string"
  | .targetFormat => "invalid format"
  | .targetAuthority => "invalid authority"
  | .schemeLength => "scheme too long"
  | .targetLength => "uri too long"

def isTokenChar (c : Char) : Bool :=
  c.isAlphanum ||
    ['!', '#', '$', '%', '&', '\'', '*', '+', '-', '.', '^', '_', '`', '|', '~'].contains c

def isToken (s : String) : Bool := s ≠ "" && s.toList.all isTokenChar

def maxNameLength : Nat := 65535

def isFieldName (s : String) : Bool := isToken s && s.length ≤ maxNameLength

def isValueByte (b : UInt8) : Bool := b == 0x09 || (0x20 ≤ b && b != 0x7F)

def isFieldValue (bytes : Bytes) : Bool := bytes.all isValueByte

structure Field where
  name : String
  value : Bytes
deriving DecidableEq

def Field.read (name : String) (value : Bytes) : Except Error Field :=
  if !isFieldName name then .error .fieldName
  else if !isFieldValue value then .error .fieldValue
  else .ok ⟨String.ofList (name.toList.map Char.toLower), value⟩

def Field.text? (f : Field) : Option String :=
  if f.value.all (· < 0x80) then some (String.ofList (f.value.map Char.ofUInt8)) else none

def valuesOf (name : String) (fields : List Field) : List Field := fields.filter (·.name = name)

end LoginGateway.Http
