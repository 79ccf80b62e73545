/-!
The Gregorian calendar, carried back before its introduction. Days are counted from the first of
January of the year 1, a Monday.
-/
set_option autoImplicit false

namespace LoginGateway.Calendar

-- A date; the month counts from 0 and the day of the month from 1.
structure Date where
  year : Nat
  month : Nat
  day : Nat
deriving DecidableEq

def isLeap (year : Nat) : Bool := year % 4 = 0 && (year % 100 ≠ 0 || year % 400 = 0)

def monthLengths (year : Nat) : List Nat :=
  [31, if isLeap year then 29 else 28, 31, 30, 31, 30, 31, 31, 30, 31, 30, 31]

-- The days in 400 years, 100 years, 4 years and one, each without a leap day at its end.
def cycleDays : Nat := 146097
def centuryDays : Nat := 36524
def quadDays : Nat := 1461
def yearDays : Nat := 365

-- The year of a day, and the days before it in that year. Each cycle's last part is the longer one, so a
-- day past the equal parts belongs to the last.
def yearOf (day : Nat) : Nat × Nat :=
  let inCycle := day % cycleDays
  let century := min 3 (inCycle / centuryDays)
  let inCentury := inCycle - century * centuryDays
  let inQuad := inCentury % quadDays
  let year := min 3 (inQuad / yearDays)
  (day / cycleDays * 400 + century * 100 + inCentury / quadDays * 4 + year + 1,
    inQuad - year * yearDays)

def monthOf : List Nat → Nat → Nat × Nat
  | [], day => (0, day)
  | length :: rest, day =>
    if day < length then (0, day)
    else
      let (month, left) := monthOf rest (day - length)
      (month + 1, left)

def dateOf (day : Nat) : Date :=
  let (year, dayOfYear) := yearOf day
  let (month, left) := monthOf (monthLengths year) dayOfYear
  ⟨year, month, left + 1⟩

-- The weekday, counted from Monday as 0.
def weekdayOf (day : Nat) : Nat := day % 7

-- The day count of the first of January 1970.
def epochDay : Nat := 719162

end LoginGateway.Calendar
