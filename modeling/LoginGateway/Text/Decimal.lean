/-!
Natural numbers in decimal, written without leading zeros and read from digits alone.
-/
set_option autoImplicit false

namespace LoginGateway.Text.Decimal

def digitChar (d : Nat) : Char := Char.ofNat (0x30 + d % 10)

def digit? (c : Char) : Option Nat :=
  if '0' ≤ c ∧ c ≤ '9' then some (c.toNat - 0x30) else none

def digits (n : Nat) : List Nat :=
  if n < 10 then [n] else digits (n / 10) ++ [n % 10]

def value (ds : List Nat) : Nat := ds.foldl (fun n d => n * 10 + d) 0

def text (n : Nat) : List Char := (digits n).map digitChar

def padded (width n : Nat) : List Char :=
  List.replicate (width - (text n).length) '0' ++ text n

def read? (cs : List Char) : Option Nat :=
  if cs.isEmpty then none else (cs.mapM digit?).map value

def wordLimit : Nat := Nat.pow 2 64

def word? (n : Nat) : Option UInt64 := if n < wordLimit then some (UInt64.ofNat n) else none

def readWord? : List Char → Option UInt64
  | '+' :: cs => (read? cs).bind word?
  | cs => (read? cs).bind word?

end LoginGateway.Text.Decimal
