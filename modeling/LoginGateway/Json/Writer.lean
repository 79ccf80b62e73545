import LoginGateway.Json.Basic
import LoginGateway.Bytes.Hex

/-!
Writing a document: no blanks, members in their order, and in strings only what has to be escaped,
with the short escapes where there are any.
-/
set_option autoImplicit false

namespace LoginGateway.Json

def escapeChar (c : Char) : List Char :=
  match c with
  | '"' => ['\\', '"']
  | '\\' => ['\\', '\\']
  | '\x08' => ['\\', 'b']
  | '\t' => ['\\', 't']
  | '\n' => ['\\', 'n']
  | '\x0c' => ['\\', 'f']
  | '\r' => ['\\', 'r']
  | c =>
    if c.toNat < 0x20 then
      ['\\', 'u', '0', '0', Hex.digitChar (c.toNat / 16), Hex.digitChar (c.toNat % 16)]
    else [c]

def quote (s : String) : List Char := '"' :: s.toList.flatMap escapeChar ++ ['"']

def quoteText (s : Option String) : List Char := quote (s.getD "\uFFFD")

mutual
def write : Json → List Char
  | .null => "null".toList
  | .bool b => if b then "true".toList else "false".toList
  | .number n => n.text
  | .text s => quoteText s
  | .array items => '[' :: writeItems items ++ [']']
  | .object members => '\x7b' :: writeMembers members ++ ['\x7d']
def writeItems : List Json → List Char
  | [] => []
  | [item] => write item
  | item :: rest => write item ++ ',' :: writeItems rest
def writeMembers : List (Option String × Json) → List Char
  | [] => []
  | [(name, value)] => quoteText name ++ ':' :: write value
  | (name, value) :: rest => quoteText name ++ ':' :: write value ++ ',' :: writeMembers rest
end

def compact (j : Json) : String := String.ofList j.write

end LoginGateway.Json
