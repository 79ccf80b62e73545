import LoginGateway.Json.Basic

/-!
Records in JSON: an object that names its fields in any order, or an array that gives them in the
record's own order. A field is given at most once, and members of other names do not count.
-/
set_option autoImplicit false

namespace LoginGateway.Json

abbrev Fields := String → Option Json

def named? (members : Members) : Option (List (String × Json)) :=
  members.mapM fun (name, value) => name.map fun n => (n, value)

def isGivenOnce (members : List (String × Json)) (name : String) : Bool :=
  (members.map Prod.fst).count name ≤ 1

def membersOf? (names : List String) (members : Members) : Option Fields := do
  let named ← named? members
  if names.all (isGivenOnce named) then some fun name => named.lookup name else none

def itemsOf? (names : List String) (items : List Json) : Option Fields :=
  if items.length ≤ names.length then some fun name => (names.zip items).lookup name else none

def fieldsOf? (names : List String) : Json → Option Fields
  | .object members => membersOf? names members
  | .array items => itemsOf? names items
  | _ => none

variable {α : Type}

def Fields.read? (fields : Fields) (name : String) (decode : Json → Option α) (default : α) :
    Option α :=
  match fields name with
  | none => some default
  | some value => decode value

def text? : Json → Option String
  | .text s => s
  | _ => none

def bool? : Json → Option Bool
  | .bool b => some b
  | _ => none

def word? : Json → Option UInt64
  | .number n => n.natural?.bind Text.Decimal.word?
  | _ => none

def list? (decode : Json → Option α) : Json → Option (List α)
  | .array items => items.mapM decode
  | _ => none

def nullable? (decode : Json → Option α) : Json → Option (Option α)
  | .null => some none
  | value => (decode value).map some

def Fields.text? (fields : Fields) (name : String) : Option String :=
  fields.read? name Json.text? ""

def Fields.word? (fields : Fields) (name : String) : Option UInt64 :=
  fields.read? name Json.word? 0

def Fields.nullable? (fields : Fields) (name : String) (decode : Json → Option α) :
    Option (Option α) :=
  fields.read? name (Json.nullable? decode) none

end LoginGateway.Json
