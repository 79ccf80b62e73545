import LoginGateway.Bytes.Hex

/-!
Percent escapes: a byte written as a percent sign and two digits. Reading leaves a percent sign
alone that no two digits follow.
-/
set_option autoImplicit false

namespace LoginGateway.Percent

def escapeByte (b : UInt8) : List Char :=
  ['%', Hex.upperDigit (b.toNat / 16), Hex.upperDigit (b.toNat % 16)]

def escape (c : Char) : List Char := (String.utf8EncodeChar c).flatMap escapeByte

def isVisible (c : Char) : Bool := 0x20 ≤ c.toNat && c.toNat < 0x7F

def encode (isKept : Char → Bool) (cs : List Char) : List Char :=
  cs.flatMap fun c => if isKept c then [c] else escape c

def pair? (high low : UInt8) : Option UInt8 :=
  Hex.pair? (Char.ofUInt8 high) (Char.ofUInt8 low)

def decode : Bytes → Bytes
  | [] => []
  | 0x25 :: high :: low :: rest =>
    match pair? high low with
    | some b => b :: decode rest
    | none => 0x25 :: decode (high :: low :: rest)
  | b :: rest => b :: decode rest

end LoginGateway.Percent
