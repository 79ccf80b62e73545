import LoginGateway.Text.Split

/-!
Punycode: a label as its ASCII characters followed by the places and values of all others. Places
are told by differences in a number system of 36 digits whose thresholds follow a bias, and the
bias follows the differences.
-/
set_option autoImplicit false

namespace LoginGateway.Url.Punycode

def base : Nat := 36
def firstBias : Nat := 72
def firstCode : Nat := 128

def digitChar (d : Nat) : Char :=
  if d < 26 then Char.ofNat (0x61 + d) else Char.ofNat (0x30 + (d - 26))

def digit? (c : Char) : Option Nat :=
  if 'a' ≤ c ∧ c ≤ 'z' then some (c.toNat - 0x61)
  else if '0' ≤ c ∧ c ≤ '9' then some (c.toNat - 0x30 + 26)
  else none

def threshold (bias place : Nat) : Nat := min 26 (max 1 (place - bias))

theorem threshold_pos (bias place : Nat) : 1 ≤ threshold bias place := by
  unfold threshold
  omega

def scale (delta place : Nat) : Nat :=
  if delta > 455 then scale (delta / 35) (place + base) else place + 36 * delta / (delta + 38)
termination_by delta

def adapt (delta count : Nat) (first : Bool) : Nat :=
  let damped := if first then delta / 700 else delta / 2
  scale (damped + damped / count) 0

def isBasic (c : Char) : Bool := c.toNat < firstCode

structure Decoder where
  chars : List Char
  code : Nat
  place : Nat
  bias : Nat
  delta : Nat
  weight : Nat
  digits : Nat
  first : Bool

def Decoder.isOpen (d : Decoder) : Bool := d.digits ≠ 0

def char? (n : Nat) : Option Char := if n.isValidChar then some (Char.ofNat n) else none

def Decoder.finish (d : Decoder) (delta : Nat) : Option Decoder := do
  let count := d.chars.length + 1
  let position := d.place + delta
  let code := d.code + position / count
  let c ← char? code
  let place := position % count
  return { d with
    chars := d.chars.take place ++ c :: d.chars.drop place
    code
    place := place + 1
    bias := adapt delta count d.first
    delta := 0
    weight := 1
    digits := 0
    first := false }

def Decoder.step (d : Decoder) (c : Char) : Option Decoder := do
  let digit ← digit? c
  let limit := threshold d.bias (base * (d.digits + 1))
  let delta := d.delta + digit * d.weight
  if digit < limit then d.finish delta
  else some { d with delta, weight := d.weight * (base - limit), digits := d.digits + 1 }

-- The basic characters and the digits: cut at the last hyphen, unless nothing is before it.
def halves (cs : List Char) : List Char × List Char :=
  match Text.cutLast? (· = '-') cs with
  | some (b :: basics, digits) => (b :: basics, digits)
  | _ => ([], cs)

def decode? (cs : List Char) : Option (List Char) := do
  let (basics, digits) := halves cs
  let start : Decoder := ⟨basics, firstCode, 0, firstBias, 0, 1, 0, true⟩
  let last ← digits.foldlM Decoder.step start
  if last.isOpen || !basics.all isBasic then none else some last.chars

theorem quotient_lt {q t : Nat} (positive : 1 ≤ t) (large : ¬ q < t) :
    (q - t) / (base - t) < q := by
  have := Nat.div_le_self (q - t) (base - t)
  omega

def spell (bias place q : Nat) : List Char :=
  let limit := threshold bias place
  if q < limit then [digitChar q]
  else
    digitChar (limit + (q - limit) % (base - limit)) ::
      spell bias (place + base) ((q - limit) / (base - limit))
termination_by q
decreasing_by exact quotient_lt (threshold_pos bias place) (by assumption)

structure Encoder where
  written : List Char
  code : Nat
  delta : Nat
  bias : Nat
  handled : Nat
  first : Bool

def Encoder.pass (code : Nat) (e : Encoder) (c : Char) : Encoder :=
  if c.toNat < code then { e with delta := e.delta + 1 }
  else if c.toNat = code then
    { e with
      written := e.written ++ spell e.bias base e.delta
      delta := 0
      bias := adapt e.delta (e.handled + 1) e.first
      handled := e.handled + 1
      first := false }
  else e

def Encoder.write (label : List Char) (e : Encoder) (code : Nat) : Encoder :=
  let start := { e with delta := e.delta + (code - e.code) * (e.handled + 1) }
  let passed := label.foldl (Encoder.pass code) start
  { passed with code := code + 1, delta := passed.delta + 1 }

def values (label : List Char) : List Nat :=
  (((label.filter fun c => !isBasic c).map Char.toNat).mergeSort).eraseDups

def encode (label : List Char) : List Char :=
  let basics := label.filter isBasic
  let start : Encoder :=
    ⟨if basics.isEmpty then [] else basics ++ ['-'], firstCode, 0, firstBias, basics.length, true⟩
  ((values label).foldl (Encoder.write label) start).written

end LoginGateway.Url.Punycode
