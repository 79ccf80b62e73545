import LoginGateway.Bytes.Hex
import LoginGateway.Text.Decimal

/-!
IPv4 addresses as hosts write them: up to four numbers, each decimal, octal after `0` or
hexadecimal after `0x`; the last number fills all the bytes that the others leave.
-/
set_option autoImplicit false

namespace LoginGateway.Url.Ipv4

def valueIn? (base : Nat) (cs : List Char) : Option Nat := do
  let ds ← cs.mapM Hex.digit?
  if ds.all (· < base) then some (ds.foldl (fun n d => n * base + d) 0) else none

def number? : List Char → Option Nat
  | [] => none
  | '0' :: 'x' :: rest => valueIn? 16 rest
  | '0' :: 'X' :: rest => valueIn? 16 rest
  | '0' :: d :: rest => valueIn? 8 (d :: rest)
  | cs => valueIn? 10 cs

def parts (cs : List Char) : List (List Char) :=
  let split := cs.splitOn '.'
  if split.getLast? = some [] then split.dropLast else split

def isDigits (cs : List Char) : Bool :=
  !cs.isEmpty && cs.all fun c => (Text.Decimal.digit? c).isSome

-- A host whose last part is a number is an address or nothing.
def endsInNumber (cs : List Char) : Bool :=
  match (parts cs).getLast? with
  | some last => isDigits last || (number? last).isSome
  | none => false

def combine : Nat → List Nat → Option Nat
  | _, [] => none
  | room, [last] => if last < Nat.pow 256 room then some last else none
  | room, n :: rest => do
    let value ← combine (room - 1) rest
    if n < 256 then some (n * Nat.pow 256 (room - 1) + value) else none

def read? (cs : List Char) : Option Nat := do
  let split := parts cs
  if split.length ≤ 4 then combine 4 (← split.mapM number?) else none

def text (address : Nat) : List Char :=
  let byte (i : Nat) := Text.Decimal.text (address / Nat.pow 256 i % 256)
  byte 3 ++ '.' :: byte 2 ++ '.' :: byte 1 ++ '.' :: byte 0

end LoginGateway.Url.Ipv4
