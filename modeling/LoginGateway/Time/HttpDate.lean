import LoginGateway.Time.Calendar
import LoginGateway.Text.Decimal

/-!
Dates as HTTP fields write them: weekday, date and time of day, always GMT. A time past the last
year that the calendar is kept for is written as the epoch.
-/
set_option autoImplicit false

namespace LoginGateway.HttpDate

def weekdays : List String := ["Mon", "Tue", "Wed", "Thu", "Fri", "Sat", "Sun"]

def months : List String :=
  ["Jan", "Feb", "Mar", "Apr", "May", "Jun", "Jul", "Aug", "Sep", "Oct", "Nov", "Dec"]

-- The last second of the year 262142.
def lastSecond : Nat := 8210266876799

def yearText (year : Nat) : List Char :=
  if year ≤ 9999 then Text.Decimal.padded 4 year else '+' :: Text.Decimal.text year

def pair (n : Nat) : List Char := Text.Decimal.padded 2 n

def dayText (day : Nat) : List Char :=
  let date := Calendar.dateOf day
  let weekday := (weekdays.getD (Calendar.weekdayOf day) "").toList
  let month := (months.getD date.month "").toList
  weekday ++ [',', ' '] ++ pair date.day ++ ' ' :: month ++ ' ' :: yearText date.year

def clockText (second : Nat) : List Char :=
  pair (second / 3600) ++ ':' :: pair (second / 60 % 60) ++ ':' :: pair (second % 60)

def text (seconds : UInt64) : List Char :=
  let kept := if seconds.toNat ≤ lastSecond then seconds.toNat else 0
  dayText (Calendar.epochDay + kept / 86400) ++ ' ' :: clockText (kept % 86400) ++ " GMT".toList

def toString (seconds : UInt64) : String := String.ofList (text seconds)

end LoginGateway.HttpDate
