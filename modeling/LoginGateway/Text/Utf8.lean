/-!
UTF-8, written and read. Reading takes one byte at a time and remembers how many bytes the
character still owes and which values the next one may have, so that overlong forms, surrogates
and values past U+10FFFF are refused at their first wrong byte. Each longest ill-formed run of a
started character counts once: strict reading refuses it, lossy reading puts U+FFFD in its place.
-/
set_option autoImplicit false

namespace LoginGateway

abbrev Bytes := List UInt8

namespace Text.Utf8

def encode (cs : List Char) : Bytes := cs.flatMap String.utf8EncodeChar

def byteLength (cs : List Char) : Nat := (encode cs).length

-- A character that has begun: the bytes it owes, the range of the next one, the bits so far.
structure Pending where
  owed : Nat
  low : Nat
  high : Nat
  bits : Nat
deriving DecidableEq

inductive Lead where
  | ascii (c : Char)
  | opens (pending : Pending)
  | stray
deriving DecidableEq

def lead (b : Nat) : Lead :=
  if b < 0x80 then .ascii (Char.ofNat b)
  else if b < 0xC2 then .stray
  else if b < 0xE0 then .opens ⟨1, 0x80, 0xBF, b - 0xC0⟩
  else if b = 0xE0 then .opens ⟨2, 0xA0, 0xBF, 0⟩
  else if b = 0xED then .opens ⟨2, 0x80, 0x9F, 0xD⟩
  else if b < 0xF0 then .opens ⟨2, 0x80, 0xBF, b - 0xE0⟩
  else if b = 0xF0 then .opens ⟨3, 0x90, 0xBF, 0⟩
  else if b < 0xF4 then .opens ⟨3, 0x80, 0xBF, b - 0xF0⟩
  else if b = 0xF4 then .opens ⟨3, 0x80, 0x8F, 4⟩
  else .stray

def Pending.accepts (p : Pending) (b : Nat) : Bool := p.low ≤ b && b ≤ p.high

def Pending.next (p : Pending) (b : Nat) : Pending :=
  ⟨p.owed - 1, 0x80, 0xBF, p.bits * 0x40 + b % 0x40⟩

-- The characters in turn, `none` for each ill-formed run.
def scan : Option Pending → Bytes → List (Option Char)
  | none, [] => []
  | some _, [] => [none]
  | none, byte :: rest =>
    match lead byte.toNat with
    | .ascii c => some c :: scan none rest
    | .opens pending => scan (some pending) rest
    | .stray => none :: scan none rest
  | some pending, byte :: rest =>
    if pending.accepts byte.toNat then
      let p := pending.next byte.toNat
      if p.owed = 0 then some (Char.ofNat p.bits) :: scan none rest else scan (some p) rest
    else
      match lead byte.toNat with
      | .ascii c => none :: some c :: scan none rest
      | .opens next => none :: scan (some next) rest
      | .stray => none :: none :: scan none rest

def decode? (bytes : Bytes) : Option (List Char) := (scan none bytes).mapM id

def decodeLossy (bytes : Bytes) : List Char := (scan none bytes).map fun c => c.getD '\uFFFD'

def read? (bytes : Bytes) : Option String := (decode? bytes).map String.ofList

end Text.Utf8

def Text.utf8 (s : String) : Bytes := Text.Utf8.encode s.toList

end LoginGateway
