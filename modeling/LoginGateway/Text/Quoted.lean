import LoginGateway.Unicode.Shown

/-!
Quoted values in messages. The quotes are double; a quote, a backslash and the four controls with
a letter of their own are escaped with a backslash, and what is not shown as it stands is written
as a code point.
-/
set_option autoImplicit false

namespace LoginGateway.Text.Quoted

def codePoint (c : Char) : List Char := ['\\', 'u', '\x7b'] ++ Hex.text c.toNat ++ ['\x7d']

def escapeChar (c : Char) : List Char :=
  match c with
  | '\x00' => ['\\', '0']
  | '\t' => ['\\', 't']
  | '\r' => ['\\', 'r']
  | '\n' => ['\\', 'n']
  | '"' => ['\\', '"']
  | '\\' => ['\\', '\\']
  | c => if Unicode.isShown c then [c] else codePoint c

def encode (cs : List Char) : List Char := '"' :: cs.flatMap escapeChar ++ ['"']

end LoginGateway.Text.Quoted

namespace LoginGateway.Text

def quoted (s : String) : String := String.ofList (Quoted.encode s.toList)

end LoginGateway.Text
