import LoginGateway.Text.Decimal

/-!
Number literals of JSON, kept as written. A literal is a natural number only if it has neither
sign, fraction nor exponent. A literal read for its value has to fit a binary floating point
number of 53 bits; of its digits those count that fit 64 bits, and the others only move the point.
-/
set_option autoImplicit false

namespace LoginGateway.Json

structure Numeral where
  negative : Bool
  whole : List Nat
  fraction : List Nat
  exponent : Option Int
deriving DecidableEq

namespace Numeral

def ofNat (n : Nat) : Numeral := ⟨false, Text.Decimal.digits n, [], none⟩

def natural? (n : Numeral) : Option Nat :=
  if n.negative || !n.fraction.isEmpty || n.exponent.isSome then none
  else some (Text.Decimal.value n.whole)

-- Appends digits to a number while it stays below 64 bits; the digits from the first that does not fit are
-- only counted.
def absorb (n : Nat) : List Nat → Nat × Nat
  | [] => (n, 0)
  | d :: ds =>
    if n * 10 + d < Text.Decimal.wordLimit then absorb (n * 10 + d) ds else (n, ds.length + 1)

def scaled (n : Numeral) : Nat × Int :=
  let (whole, left) := absorb 0 n.whole
  let (significand, unread) := absorb whole n.fraction
  (significand, (left : Int) - ((n.fraction.length : Int) - unread) + n.exponent.getD 0)

-- The nearest number of 53 significant bits, a tie going to the even one.
def nearest (n : Nat) : Nat :=
  if n < Nat.pow 2 53 then n
  else
    let unit := Nat.pow 2 (n.log2 - 52)
    let quotient := n / unit
    let rest := n % unit
    let up := rest * 2 > unit || (rest * 2 = unit && quotient % 2 = 1)
    (if up then quotient + 1 else quotient) * unit

-- The least product that is rounded past the largest finite double.
def overflow : Nat := (Nat.pow 2 54 - 1) * Nat.pow 2 970

def fitsDouble (n : Numeral) : Bool :=
  let (significand, power) := n.scaled
  significand == 0 || power < 0 ||
    (power ≤ 308 && nearest significand * nearest (Nat.pow 10 power.toNat) < overflow)

def digitsText (ds : List Nat) : List Char := ds.map Text.Decimal.digitChar

def exponentText (e : Int) : List Char :=
  if e < 0 then 'e' :: '-' :: Text.Decimal.text e.natAbs else 'e' :: Text.Decimal.text e.natAbs

def text (n : Numeral) : List Char :=
  (if n.negative then ['-'] else []) ++ digitsText n.whole ++
    (if n.fraction.isEmpty then [] else '.' :: digitsText n.fraction) ++
    (n.exponent.map exponentText).getD []

end Numeral

end LoginGateway.Json
