import Mathlib.Algebra.Order.Ring.Nat
import LoginGateway.Time.Calendar

/-!
Dates are counted right. A date has a number, the days that have gone by before it; every day has one real date of
its number, and no two real dates share one.
-/
set_option autoImplicit false

namespace LoginGateway.Calendar

def daysOf : Nat → Nat
  | 0 => 0
  | years + 1 => daysOf years + (monthLengths (years + 1)).sum

def Date.number (d : Date) : Nat :=
  daysOf (d.year - 1) + ((monthLengths d.year).take d.month).sum + (d.day - 1)

structure Date.IsReal (d : Date) : Prop where
  year : 1 ≤ d.year
  first : 1 ≤ d.day
  last : d.day ≤ (monthLengths d.year).getD d.month 0

theorem year_length (year : Nat) : (monthLengths year).sum = if isLeap year then 366 else 365 := by
  rw [monthLengths]
  cases isLeap year <;> rfl

theorem leap_iff (year : Nat) : isLeap year ↔ year % 4 = 0 ∧ (year % 100 = 0 → year % 400 = 0) := by
  simp only [isLeap, Bool.and_eq_true, Bool.or_eq_true, decide_eq_true_eq, ne_eq]
  exact and_congr_right fun _ => Decidable.imp_iff_not_or.symm

theorem days_of_eq (years : Nat) : daysOf years = 365 * years + years / 4 - years / 100 + years / 400 := by
  induction years with
  | zero => rfl
  | succ years ih =>
      have leap := leap_iff (years + 1)
      rw [daysOf, ih, year_length]
      by_cases longer : isLeap (years + 1)
      · have divides := leap.mp longer
        rw [if_pos longer]
        omega
      · have divides := mt leap.mpr longer
        rw [if_neg longer]
        omega

theorem days_of_mono : Monotone daysOf := monotone_nat_of_le_succ fun _ => Nat.le_add_right _ _

-- A day is divided into four hundred years, hundreds, fours and single years. The last of four years is the longer one,
-- unless it ends a hundred that does not end the four hundred.
theorem days_of_parts (cycle century quad year : Nat) (centuries : century ≤ 3) (quads : quad ≤ 24) (years : year ≤ 3) :
    daysOf (cycle * 400 + century * 100 + quad * 4 + year) =
        cycle * cycleDays + century * centuryDays + quad * quadDays + year * yearDays ∧
      (monthLengths (cycle * 400 + century * 100 + quad * 4 + year + 1)).sum =
        if year = 3 ∧ (quad = 24 → century = 3) then 366 else 365 := by
  have leap := leap_iff (cycle * 400 + century * 100 + quad * 4 + year + 1)
  constructor
  · rw [days_of_eq, cycleDays, centuryDays, quadDays, yearDays]
    omega
  · rw [year_length]
    by_cases longer : year = 3 ∧ (quad = 24 → century = 3)
    · rw [if_pos longer, if_pos (leap.mpr (by omega))]
    · rw [if_neg longer, if_neg (mt leap.mp (by omega))]

theorem year_of_within (day : Nat) :
    ∃ years left, yearOf day = (years + 1, left) ∧ daysOf years + left = day ∧ left < (monthLengths (years + 1)).sum := by
  obtain ⟨century, centuryEq⟩ : ∃ century, century = min 3 (day % cycleDays / centuryDays) := ⟨_, rfl⟩
  obtain ⟨quad, quadEq⟩ : ∃ quad, quad = (day % cycleDays - century * centuryDays) / quadDays := ⟨_, rfl⟩
  obtain ⟨year, yearEq⟩ :
      ∃ year, year = min 3 ((day % cycleDays - century * centuryDays) % quadDays / yearDays) := ⟨_, rfl⟩
  have found : yearOf day = (day / cycleDays * 400 + century * 100 + quad * 4 + year + 1,
      (day % cycleDays - century * centuryDays) % quadDays - year * yearDays) := by
    rw [yearEq, quadEq, centuryEq, yearOf]
  simp only [cycleDays, centuryDays, quadDays, yearDays] at centuryEq quadEq yearEq found
  obtain ⟨whole, length⟩ := days_of_parts (day / 146097) century quad year (by omega) (by omega) (by omega)
  refine ⟨_, _, found, ?_, ?_⟩
  · rw [whole, cycleDays, centuryDays, quadDays, yearDays]
    omega
  · rw [length]
    split
    · omega
    · omega

theorem year_of_days (years left : Nat) (short : left < (monthLengths (years + 1)).sum) :
    yearOf (daysOf years + left) = (years + 1, left) := by
  obtain ⟨others, rest, found, whole, within⟩ := year_of_within (daysOf years + left)
  have next (n : Nat) : daysOf (n + 1) = daysOf n + (monthLengths (n + 1)).sum := rfl
  have same : others = years := by
    rcases Nat.lt_trichotomy others years with less | same | more
    · have ahead := days_of_mono (Nat.succ_le_of_lt less)
      rw [Nat.succ_eq_add_one, next] at ahead
      omega
    · exact same
    · have ahead := days_of_mono (Nat.succ_le_of_lt more)
      rw [Nat.succ_eq_add_one, next] at ahead
      omega
  rw [found, same]
  rw [same] at whole
  rw [Nat.add_left_cancel whole]

theorem month_of_within (lengths : List Nat) (day : Nat) (within : day < lengths.sum) :
    ∃ month left, monthOf lengths day = (month, left) ∧ (lengths.take month).sum + left = day ∧
      left < lengths.getD month 0 := by
  induction lengths generalizing day with
  | nil => cases within
  | cons length rest ih =>
      rw [monthOf]
      by_cases here : day < length
      · exact ⟨0, day, by rw [if_pos here], by simp, here⟩
      · rw [List.sum_cons] at within
        obtain ⟨month, left, found, whole, short⟩ := ih (day - length) (by omega)
        refine ⟨month + 1, left, by rw [if_neg here, found], ?_, short⟩
        rw [List.take_succ_cons, List.sum_cons]
        omega

theorem month_of_days (lengths : List Nat) (month left : Nat) (short : left < lengths.getD month 0) :
    monthOf lengths ((lengths.take month).sum + left) = (month, left) := by
  induction lengths generalizing month with
  | nil => simp at short
  | cons length rest ih =>
      cases month with
      | zero =>
          have here : left < length := short
          simp [monthOf, here]
      | succ month =>
          have later : ¬ (length + ((rest.take month).sum + left)) < length := by omega
          rw [List.take_succ_cons, List.sum_cons, Nat.add_assoc, monthOf, if_neg later, Nat.add_sub_cancel_left,
            ih month short]

theorem month_ends (lengths : List Nat) (month left : Nat) (short : left < lengths.getD month 0) :
    (lengths.take month).sum + left < lengths.sum := by
  induction lengths generalizing month with
  | nil => simp at short
  | cons length rest ih =>
      rw [List.sum_cons]
      cases month with
      | zero =>
          have here : left < length := short
          rw [List.take_zero, List.sum_nil]
          omega
      | succ month =>
          have later := ih month short
          rw [List.take_succ_cons, List.sum_cons]
          omega

theorem date_of_real (day : Nat) : (dateOf day).IsReal ∧ (dateOf day).number = day := by
  obtain ⟨years, dayOfYear, foundYear, wholeYear, within⟩ := year_of_within day
  obtain ⟨month, left, foundMonth, wholeMonth, short⟩ := month_of_within _ dayOfYear within
  have made : dateOf day = ⟨years + 1, month, left + 1⟩ := by
    rw [dateOf, foundYear]
    dsimp only
    rw [foundMonth]
  rw [made]
  refine ⟨⟨Nat.le_add_left 1 years, Nat.le_add_left 1 left, short⟩, ?_⟩
  rw [Date.number]
  simp only [Nat.add_sub_cancel]
  omega

theorem date_of_number (d : Date) (real : d.IsReal) : dateOf d.number = d := by
  obtain ⟨year, month, day⟩ := d
  obtain ⟨counted, first, last⟩ := real
  dsimp only at counted first last
  obtain ⟨years, rfl⟩ := Nat.exists_eq_add_of_le' counted
  have short : day - 1 < (monthLengths (years + 1)).getD month 0 := by omega
  have ends := month_ends _ month (day - 1) short
  rw [Date.number]
  simp only [Nat.add_sub_cancel, Nat.add_assoc]
  rw [dateOf, year_of_days years _ ends]
  dsimp only
  rw [month_of_days _ month _ short]
  dsimp only
  rw [Nat.sub_add_cancel first]

theorem Date.year_le_iff (d : Date) (real : d.IsReal) (year : Nat) : d.year ≤ year ↔ d.number < daysOf year := by
  obtain ⟨counted, first, last⟩ := real
  have short : d.day - 1 < (monthLengths d.year).getD d.month 0 := by omega
  have ends := month_ends _ d.month (d.day - 1) short
  obtain ⟨years, same⟩ := Nat.exists_eq_add_of_le' counted
  have whole : daysOf d.year = daysOf years + (monthLengths d.year).sum := by rw [same, daysOf]
  have number : d.number = daysOf years + ((monthLengths d.year).take d.month).sum + (d.day - 1) := by
    rw [Date.number, same, Nat.add_sub_cancel]
  constructor
  · intro before
    have ahead := days_of_mono before
    omega
  · intro before
    by_contra after
    have ahead : daysOf year ≤ daysOf years := days_of_mono (by omega)
    omega

end LoginGateway.Calendar
