import LoginGateway.Time.HttpDate
import LoginGateway.Proofs.Text.Decimal
import LoginGateway.Proofs.Time.Calendar

/-!
The text of a date tells the time that it was written for: it spells the one real date and time of day that lies as many
seconds behind the start of 1970. Whatever the time, the text is of few letters.
-/
set_option autoImplicit false

namespace LoginGateway.HttpDate

structure Stamp where
  date : Calendar.Date
  hour : Nat
  minute : Nat
  second : Nat
deriving DecidableEq

def newYear (year : Nat) : Stamp := ⟨⟨year, 0, 1⟩, 0, 0, 0⟩

structure Stamp.IsReal (t : Stamp) : Prop where
  date : t.date.IsReal
  since : 1970 ≤ t.date.year
  hour : t.hour < 24
  minute : t.minute < 60
  second : t.second < 60

def Stamp.seconds (t : Stamp) : Nat :=
  (t.date.number - (newYear 1970).date.number) * 86400 + t.hour * 3600 + t.minute * 60 + t.second

def twoDigits (n : Nat) : List Char := [Text.Decimal.digitChar (n / 10), Text.Decimal.digitChar (n % 10)]

def fourDigits (n : Nat) : List Char := twoDigits (n / 100) ++ twoDigits (n % 100)

def Stamp.text (t : Stamp) : List Char :=
  (weekdays.getD (t.date.number % 7) "").toList ++ ',' :: ' ' :: twoDigits t.date.day ++ ' ' ::
    (months.getD t.date.month "").toList ++ ' ' :: fourDigits t.date.year ++ ' ' :: twoDigits t.hour ++ ':' ::
    twoDigits t.minute ++ ':' :: twoDigits t.second ++ " GMT".toList

theorem epoch_day : (newYear 1970).date.number = Calendar.epochDay := by
  rw [newYear, Calendar.Date.number, Calendar.days_of_eq]
  rfl

theorem since_iff (d : Calendar.Date) (real : d.IsReal) : 1970 ≤ d.year ↔ Calendar.epochDay ≤ d.number := by
  have start : Calendar.daysOf 1969 = Calendar.epochDay := Calendar.days_of_eq 1969
  have before := d.year_le_iff real 1969
  rw [start] at before
  omega

theorem seconds_cut (t : Stamp) (real : t.IsReal) :
    Calendar.epochDay + t.seconds / 86400 = t.date.number ∧
      t.seconds % 86400 = t.hour * 3600 + t.minute * 60 + t.second := by
  obtain ⟨date, since, hour, minute, second⟩ := real
  have late := (since_iff t.date date).mp since
  rw [Stamp.seconds, epoch_day]
  omega

def stampOf (seconds : Nat) : Stamp :=
  ⟨Calendar.dateOf (Calendar.epochDay + seconds / 86400), seconds % 86400 / 3600, seconds % 86400 / 60 % 60,
    seconds % 86400 % 60⟩

theorem stamp_of_real (seconds : Nat) : (stampOf seconds).IsReal ∧ (stampOf seconds).seconds = seconds := by
  obtain ⟨real, number⟩ := Calendar.date_of_real (Calendar.epochDay + seconds / 86400)
  constructor
  · refine ⟨real, (since_iff _ real).mpr (by omega), ?_, ?_, ?_⟩ <;> dsimp only [stampOf] <;> omega
  · rw [Stamp.seconds, epoch_day]
    dsimp only [stampOf]
    rw [number]
    omega

theorem clock_cut (hour minute second : Nat) (minutes : minute < 60) (seconds : second < 60) :
    (hour * 3600 + minute * 60 + second) / 3600 = hour ∧ (hour * 3600 + minute * 60 + second) / 60 % 60 = minute ∧
      (hour * 3600 + minute * 60 + second) % 60 = second := by
  omega

theorem stamp_of_seconds (t : Stamp) (real : t.IsReal) : stampOf t.seconds = t := by
  obtain ⟨days, clock⟩ := seconds_cut t real
  obtain ⟨hour, minute, second⟩ := clock_cut t.hour t.minute t.second real.minute real.second
  rw [stampOf, days, clock, Calendar.date_of_number t.date real.date, hour, minute, second]

theorem stamp_of_iff (seconds : Nat) (t : Stamp) : t.IsReal ∧ t.seconds = seconds ↔ t = stampOf seconds := by
  constructor
  · rintro ⟨real, rfl⟩
    exact (stamp_of_seconds t real).symm
  · rintro rfl
    exact stamp_of_real seconds

theorem new_year_seconds : (newYear 10000).seconds = 253402300800 := by
  rw [Stamp.seconds, epoch_day, newYear, Calendar.Date.number, Calendar.days_of_eq]
  rfl

theorem before_new_year_iff (t : Stamp) (real : t.IsReal) : t.seconds < (newYear 10000).seconds ↔ t.date.year ≤ 9999 := by
  have whole : Calendar.daysOf 9999 = 3652059 := Calendar.days_of_eq 9999
  have epoch : Calendar.epochDay = 719162 := rfl
  obtain ⟨days, _⟩ := seconds_cut t real
  rw [t.date.year_le_iff real.date, whole, new_year_seconds]
  omega

theorem pair_digits (n : Nat) (small : n < 100) : pair n = twoDigits n := by
  rw [pair, Text.Decimal.padded_step 1 n (Nat.le_refl 1), Text.Decimal.padded_one _ (by omega)]
  rfl

theorem year_digits (year : Nat) (early : year ≤ 9999) : yearText year = fourDigits year := by
  have first : year / 10 / 10 = year / 100 := Nat.div_div_eq_div_mul year 10 10
  have third : year / 10 % 10 = year % 100 / 10 := by omega
  have last : year % 10 = year % 100 % 10 := by omega
  have front : Text.Decimal.padded 2 (year / 100) = twoDigits (year / 100) := pair_digits _ (by omega)
  rw [yearText, if_pos early, Text.Decimal.padded_step 3 year (by decide), Text.Decimal.padded_step 2 _ (by decide), first,
    front, third, last, List.append_assoc]
  rfl

theorem month_length_bound (d : Calendar.Date) (real : d.IsReal) : d.day < 100 := by
  have within : ∀ length ∈ Calendar.monthLengths d.year, length ≤ 31 := by
    rw [Calendar.monthLengths]
    cases Calendar.isLeap d.year <;> decide
  have last := real.last
  rw [List.getD_eq_getElem?_getD] at last
  cases found : (Calendar.monthLengths d.year)[d.month]? with
  | none =>
      rw [found] at last
      exact Nat.lt_of_le_of_lt last (by decide)
  | some length =>
      have most := within length (List.mem_of_getElem? found)
      rw [found, Option.getD_some] at last
      omega

theorem day_text_spelled (d : Calendar.Date) (real : d.IsReal) (early : d.year ≤ 9999) :
    dayText d.number = (weekdays.getD (d.number % 7) "").toList ++ ',' :: ' ' :: twoDigits d.day ++ ' ' ::
      (months.getD d.month "").toList ++ ' ' :: fourDigits d.year := by
  simp only [dayText, Calendar.date_of_number d real, pair_digits _ (month_length_bound d real), year_digits _ early,
    Calendar.weekdayOf, List.append_assoc, List.cons_append, List.nil_append]

theorem clock_text_spelled (hour minute second : Nat) (hours : hour < 24) (minutes : minute < 60) (seconds : second < 60) :
    clockText (hour * 3600 + minute * 60 + second) =
      twoDigits hour ++ ':' :: twoDigits minute ++ ':' :: twoDigits second := by
  obtain ⟨first, next, last⟩ := clock_cut hour minute second minutes seconds
  rw [clockText, first, next, last, pair_digits _ (by omega), pair_digits _ (by omega), pair_digits _ (by omega),
    List.append_assoc, List.cons_append]

theorem text_spelled (t : Stamp) (real : t.IsReal) (early : t.date.year ≤ 9999) (seconds : UInt64)
    (told : t.seconds = seconds.toNat) : text seconds = t.text := by
  obtain ⟨days, clock⟩ := seconds_cut t real
  have before := (before_new_year_iff t real).mpr early
  have kept : seconds.toNat ≤ lastSecond := by
    rw [new_year_seconds] at before
    rw [lastSecond]
    omega
  rw [text, if_pos kept, ← told, days, clock, day_text_spelled t.date real.date early,
    clock_text_spelled _ _ _ real.hour real.minute real.second, Stamp.text]
  simp only [List.append_assoc, List.cons_append]

-- The example of the standard that the format is from.
example : toString 784111777 = "Sun, 06 Nov 1994 08:49:37 GMT" := by cbv

def letters : List Char := " ,:+0123456789".toList ++ (weekdays ++ months ++ ["GMT"]).flatMap String.toList

theorem digit_letters : ∀ d, d < 10 → Text.Decimal.digitChar d ∈ letters := by decide

theorem name_letters (names : List String) (known : ∀ name ∈ names, name.toList ⊆ letters) (n : Nat) :
    (names.getD n "").toList ⊆ letters := by
  rw [List.getD_eq_getElem?_getD]
  cases found : names[n]? with
  | none => exact List.nil_subset _
  | some name => exact known name (List.mem_of_getElem? found)

theorem pair_letters (n : Nat) : pair n ⊆ letters := Text.Decimal.padded_all (· ∈ letters) digit_letters 2 n

theorem year_letters (year : Nat) : yearText year ⊆ letters := by
  have sign : '+' ∈ letters := by decide
  rw [yearText]
  by_cases early : year ≤ 9999
  · rw [if_pos early]
    exact Text.Decimal.padded_all (· ∈ letters) digit_letters 4 year
  · rw [if_neg early]
    exact List.cons_subset.mpr ⟨sign, Text.Decimal.text_all (· ∈ letters) digit_letters year⟩

theorem text_letters (seconds : UInt64) : text seconds ⊆ letters := by
  have space : ' ' ∈ letters := by decide
  have colon : ':' ∈ letters := by decide
  have comma : [',', ' '] ⊆ letters := by decide
  have zone : " GMT".toList ⊆ letters := by decide
  have weekday := name_letters weekdays (by decide)
  have month := name_letters months (by decide)
  rw [text, dayText, clockText]
  simp only [List.append_subset, List.cons_subset (a := ' '), List.cons_subset (a := ':')]
  exact ⟨⟨⟨⟨⟨⟨weekday _, comma⟩, pair_letters _⟩, space, month _⟩, space, year_letters _⟩, space,
    ⟨pair_letters _, colon, pair_letters _⟩, colon, pair_letters _⟩, zone⟩

end LoginGateway.HttpDate
