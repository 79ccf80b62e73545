import Mathlib.Data.List.Basic
import Mathlib.Data.List.GetD
import LoginGateway.Proofs.Time.HttpDate

/-!
Dates read back from their text. Until the end of the year 9999 every field has its place and its width, so the text of
a time gives back the date, the time of day and with them the seconds that it was written for.
-/
set_option autoImplicit false

namespace LoginGateway.HttpDate

def field (start width : Nat) (cs : List Char) : List Char := (cs.drop start).take width

def number? (start width : Nat) (cs : List Char) : Option Nat := Text.Decimal.read? (field start width cs)

end LoginGateway.HttpDate
