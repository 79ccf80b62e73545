import LoginGateway.Text.Utf8

/-!
Base64 over two alphabets. Reading is strict: a spelling is accepted only if writing produces it,
so the unused low bits of the last symbol are zero and padding is whole or absent.
-/
set_option autoImplicit false

namespace LoginGateway.Base64

structure Alphabet where
  symbol62 : Char
  symbol63 : Char
deriving DecidableEq

def Alphabet.standard : Alphabet := ⟨'+', '/'⟩
def Alphabet.urlSafe : Alphabet := ⟨'-', '_'⟩

def Alphabet.symbol (a : Alphabet) (n : Nat) : Char :=
  if n < 26 then Char.ofNat (0x41 + n)
  else if n < 52 then Char.ofNat (0x61 + (n - 26))
  else if n < 62 then Char.ofNat (0x30 + (n - 52))
  else if n = 62 then a.symbol62
  else a.symbol63

def Alphabet.sextet? (a : Alphabet) (c : Char) : Option Nat :=
  if 'A' ≤ c ∧ c ≤ 'Z' then some (c.toNat - 0x41)
  else if 'a' ≤ c ∧ c ≤ 'z' then some (c.toNat - 0x61 + 26)
  else if '0' ≤ c ∧ c ≤ '9' then some (c.toNat - 0x30 + 52)
  else if c = a.symbol62 then some 62
  else if c = a.symbol63 then some 63
  else none

def encode (a : Alphabet) : Bytes → List Char
  | [] => []
  | [x] => [a.symbol (x.toNat / 4), a.symbol (x.toNat % 4 * 16)]
  | [x, y] =>
    [a.symbol (x.toNat / 4), a.symbol (x.toNat % 4 * 16 + y.toNat / 16),
      a.symbol (y.toNat % 16 * 4)]
  | x :: y :: z :: rest =>
    a.symbol (x.toNat / 4) :: a.symbol (x.toNat % 4 * 16 + y.toNat / 16) ::
      a.symbol (y.toNat % 16 * 4 + z.toNat / 64) :: a.symbol (z.toNat % 64) :: encode a rest

def padding (length : Nat) : Nat := (4 - length % 4) % 4

def encodePadded (a : Alphabet) (bytes : Bytes) : List Char :=
  let core := encode a bytes
  core ++ List.replicate (padding core.length) '='

def decode? (a : Alphabet) : List Char → Option Bytes
  | [] => some []
  | [_] => none
  | [c, d] => do
    let p ← a.sextet? c
    let q ← a.sextet? d
    if q % 16 = 0 then some [UInt8.ofNat (p * 4 + q / 16)] else none
  | [c, d, e] => do
    let p ← a.sextet? c
    let q ← a.sextet? d
    let r ← a.sextet? e
    if r % 4 = 0 then
      some [UInt8.ofNat (p * 4 + q / 16), UInt8.ofNat (q % 16 * 16 + r / 4)]
    else none
  | c :: d :: e :: f :: rest => do
    let p ← a.sextet? c
    let q ← a.sextet? d
    let r ← a.sextet? e
    let s ← a.sextet? f
    let bytes ← decode? a rest
    return UInt8.ofNat (p * 4 + q / 16) :: UInt8.ofNat (q % 16 * 16 + r / 4) ::
      UInt8.ofNat (r % 4 * 64 + s) :: bytes

def dropPad (cs : List Char) : List Char :=
  if cs.getLast? = some '=' then cs.dropLast else cs

def decodePadded? (a : Alphabet) (cs : List Char) : Option Bytes :=
  if cs.length % 4 = 0 then decode? a (dropPad (dropPad cs)) else none

def decodeEither? (a : Alphabet) (cs : List Char) : Option Bytes :=
  (decodePadded? a cs).or (decode? a cs)

end LoginGateway.Base64
