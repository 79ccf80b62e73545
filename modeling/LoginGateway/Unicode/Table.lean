import LoginGateway.Bytes.Hex
import LoginGateway.Text.Split

/-!
Properties of characters, held as stretches of code points in ascending order. A table is written
as text: its entries are set apart by blanks, an entry is `first-last:values` in hexadecimal, and
the values are set apart by points. A stretch of one code point leaves out `-last`, and a table
of a mere class leaves out `:values`.
-/
set_option autoImplicit false

namespace LoginGateway.Unicode

structure Stretch where
  first : Nat
  last : Nat
  values : List Nat
deriving Inhabited

abbrev Table := Array Stretch

namespace Table

def number (cs : List Char) : Nat := (Hex.value? cs).getD 0

def stretch (cs : List Char) : Stretch :=
  let (range, values) := (Text.cut? (· = ':') cs).getD (cs, [])
  let (first, last) := (Text.cut? (· = '-') range).getD (range, range)
  ⟨number first, number last,
    if values.isEmpty then [] else (values.splitOn '.').map number⟩

def ofText (text : String) : Table :=
  let entries := (text.toList.splitOnP Char.isWhitespace).filter fun entry => !entry.isEmpty
  (entries.map stretch).toArray

def search (table : Table) (n low high : Nat) : Option Stretch :=
  if low < high then
    let middle := (low + high) / 2
    match table[middle]? with
    | none => none
    | some found =>
      if n < found.first then search table n low middle
      else if found.last < n then search table n (middle + 1) high
      else some found
  else none
termination_by high - low

def find? (table : Table) (c : Char) : Option Stretch := search table c.toNat 0 table.size

def contains (table : Table) (c : Char) : Bool := (find? table c).isSome

def values? (table : Table) (c : Char) : Option (List Nat) := (find? table c).map Stretch.values

end Table

end LoginGateway.Unicode
