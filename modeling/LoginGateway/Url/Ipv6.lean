import LoginGateway.Bytes.Hex
import LoginGateway.Text.Decimal
import LoginGateway.Text.Split

/-!
IPv6 addresses: eight groups of 16 bits. One run of zero groups may be left out, and the last two
groups may be given as an IPv4 address in plain decimal. They are written with the first longest
run of at least two zero groups left out.
-/
set_option autoImplicit false

namespace LoginGateway.Url.Ipv6

abbrev Groups := List Nat

def group? (cs : List Char) : Option Nat :=
  if cs.isEmpty || cs.length > 4 then none else Hex.value? cs

def byte? (cs : List Char) : Option Nat := do
  let n ← Text.Decimal.read? cs
  if n < 256 && Text.Decimal.text n = cs then some n else none

def embedded? (cs : List Char) : Option Groups :=
  match (cs.splitOn '.').mapM byte? with
  | some [a, b, c, d] => some [a * 256 + b, c * 256 + d]
  | _ => none

def groups? : List (List Char) → Option Groups
  | [] => some []
  | [last] => ((group? last).map fun g => [g]).or (embedded? last)
  | part :: rest => do
    let g ← group? part
    let gs ← groups? rest
    return g :: gs

def run? (cs : List Char) : Option Groups :=
  if cs.isEmpty then some [] else groups? (cs.splitOn ':')

-- The groups before a left-out run, where no IPv4 address may stand.
def front? (cs : List Char) : Option Groups :=
  if cs.isEmpty then some [] else (cs.splitOn ':').mapM group?

def read? (cs : List Char) : Option Groups :=
  match Text.cutAt? [':', ':'] cs with
  | none => do
    let groups ← run? cs
    if groups.length = 8 then some groups else none
  | some (front, back) => do
    let high ← front? front
    let low ← run? back
    let given := high.length + low.length
    if given < 8 then some (high ++ List.replicate (8 - given) 0 ++ low) else none

def zeros (groups : Groups) : Nat := (groups.takeWhile (· = 0)).length

-- The longest run of zeros, as its start and length; the first of equals.
def longest : Nat → Groups → Nat × Nat
  | _, [] => (0, 0)
  | i, g :: rest =>
    let here := zeros (g :: rest)
    let later := longest (i + 1) rest
    if here ≠ 0 ∧ later.2 ≤ here then (i, here) else later

def joined : Groups → List Char
  | [] => []
  | [g] => Hex.text g
  | g :: rest => Hex.text g ++ ':' :: joined rest

def text (groups : Groups) : List Char :=
  let (start, count) := longest 0 groups
  if count < 2 then joined groups
  else joined (groups.take start) ++ ':' :: ':' :: joined (groups.drop (start + count))

end LoginGateway.Url.Ipv6
