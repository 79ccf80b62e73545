/-!
Blanks are the characters with the Unicode property White_Space. Configuration values, cookies
and addresses are trimmed by this class, and by no smaller one.
-/
set_option autoImplicit false

namespace LoginGateway.Text

def isBlank (c : Char) : Bool :=
  let n := c.toNat
  (9 ≤ n && n ≤ 13) || n == 0x20 || n == 0x85 || n == 0xA0 || n == 0x1680 ||
    (0x2000 ≤ n && n ≤ 0x200A) || n == 0x2028 || n == 0x2029 || n == 0x202F || n == 0x205F ||
    n == 0x3000

def isControl (c : Char) : Bool := c.toNat < 0x20 || c.toNat == 0x7F

variable {α : Type}

def strip (drop : α → Bool) (xs : List α) : List α := ((xs.dropWhile drop).reverse.dropWhile drop).reverse

def trim (cs : List Char) : List Char := strip isBlank cs

def trimmed (s : String) : String := String.ofList (trim s.toList)

def isBlankText (s : String) : Bool := s.toList.all isBlank

end LoginGateway.Text
