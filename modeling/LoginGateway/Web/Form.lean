import LoginGateway.Web.Percent
import LoginGateway.Text.Split

/-!
Form encoding: pairs of a name and a value joined by `=` and `&`. A space is written as a plus
sign, letters, digits and `*-._` stand for themselves, and all else is escaped.
-/
set_option autoImplicit false

namespace LoginGateway.Form

abbrev Pairs := List (String × String)

def isSafe (c : Char) : Bool :=
  c.isAlphanum || c == '*' || c == '-' || c == '.' || c == '_'

def encodeChar (c : Char) : List Char :=
  if c = ' ' then ['+'] else if isSafe c then [c] else Percent.escape c

def encodeText (s : String) : List Char := s.toList.flatMap encodeChar

def encodePair (pair : String × String) : List Char :=
  encodeText pair.1 ++ '=' :: encodeText pair.2

def encode : Pairs → List Char
  | [] => []
  | [pair] => encodePair pair
  | pair :: rest => encodePair pair ++ '&' :: encode rest

def plusToSpace (b : UInt8) : UInt8 := if b = 0x2B then 0x20 else b

def decodeText (bytes : Bytes) : String :=
  String.ofList (Text.Utf8.decodeLossy (Percent.decode (bytes.map plusToSpace)))

def decodePair (piece : Bytes) : String × String :=
  match Text.cut? (· = 0x3D) piece with
  | some (name, value) => (decodeText name, decodeText value)
  | none => (decodeText piece, "")

def decode (cs : List Char) : Pairs :=
  (((Text.Utf8.encode cs).splitOn 0x26).filter fun piece => !piece.isEmpty).map decodePair

def value? (pairs : Pairs) (name : String) : Option String := pairs.lookup name

end LoginGateway.Form
