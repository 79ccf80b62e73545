import LoginGateway.Json.Numeral

/-!
JSON documents. A string may fail to be text, by ill-formed bytes or a lone surrogate; it is then
`none`, so that a reader can skip it where its value does not matter. What does matter is told by
`isSound` and `depth`.
-/
set_option autoImplicit false

namespace LoginGateway

inductive Json where
  | null
  | bool (b : Bool)
  | number (n : Json.Numeral)
  | text (s : Option String)
  | array (items : List Json)
  | object (members : List (Option String × Json))
deriving Inhabited

namespace Json

abbrev Members := List (Option String × Json)

def str (s : String) : Json := .text (some s)
def nat (n : Nat) : Json := .number (.ofNat n)
def word (n : UInt64) : Json := .nat n.toNat
def fields (members : List (String × Json)) : Json :=
  .object (members.map fun (name, value) => (some name, value))

mutual
def depth : Json → Nat
  | .array items => itemsDepth items + 1
  | .object members => membersDepth members + 1
  | _ => 0
def itemsDepth : List Json → Nat
  | [] => 0
  | item :: rest => max (depth item) (itemsDepth rest)
def membersDepth : List (Option String × Json) → Nat
  | [] => 0
  | (_, value) :: rest => max (depth value) (membersDepth rest)
end

mutual
-- Every string is text and every number fits a double.
def isSound : Json → Bool
  | .null => true
  | .bool _ => true
  | .number n => n.fitsDouble
  | .text s => s.isSome
  | .array items => itemsSound items
  | .object members => membersSound members
def itemsSound : List Json → Bool
  | [] => true
  | item :: rest => isSound item && itemsSound rest
def membersSound : List (Option String × Json) → Bool
  | [] => true
  | (name, value) :: rest => name.isSome && isSound value && membersSound rest
end

-- The deepest document that is read for all its values.
def maxDepth : Nat := 127

def isReadable (outer : Nat) (j : Json) : Bool := j.isSound && outer + j.depth ≤ maxDepth

end Json

end LoginGateway
