import Mathlib.Tactic.IntervalCases
import Mathlib.Tactic.MkIffOfInductiveProp
import ImsiPseudonym.Calendar

/-!
The Gregorian calendar by counting: each year and each month has its length, and a date denotes the
days before it, year by year from 1970 and month by month.  Main statements: `isValid_ofInstant` and
`denoted_ofInstant`, every instant has a date and time, which denotes it, and `startOfYear_le_iff`.
-/
namespace ImsiPseudonym
namespace DateTime

/-- Every fourth year is a leap year, but of the full centuries only every fourth. -/
def IsLeap (year : Int) : Prop :=
  year % 4 = 0 ∧ (year % 100 = 0 → year % 400 = 0)

instance (year : Int) : Decidable (IsLeap year) :=
  inferInstanceAs (Decidable (_ ∧ (_ → _)))

def yearLength (year : Int) : Nat :=
  if IsLeap year then 366 else 365

/-- The days of a month, counted from January as 1. -/
def monthLength (year : Int) : Nat → Nat
  | 0 => 0
  | 2 => if IsLeap year then 29 else 28
  | 4 | 6 | 9 | 11 => 30
  | _ => 31

/-- The days in so many years, from a year on. -/
def daysInYears (year : Int) : Nat → Nat
  | 0 => 0
  | count + 1 => daysInYears year count + yearLength (year + count)

/-- The days between the start of 1970 and the start of a year. -/
def daysBeforeYear (year : Int) : Int :=
  daysInYears 1970 (year - 1970).toNat - daysInYears year (1970 - year).toNat

def daysBeforeMonth (year : Int) : Nat → Nat
  | 0 => 0
  | month + 1 => daysBeforeMonth year month + monthLength year month

theorem monthLength_le (year : Int) (month : Nat) : monthLength year month ≤ 31 := by
  unfold monthLength
  split <;> first | decide | skip
  split <;> decide

/-- A year that ends in February has as many days as the calendar year of that February. -/
theorem yearLength_eq (year : Int) :
    (yearLength year : Int) = daysToYear year - daysToYear (year - 1) := by
  by_cases hleap : IsLeap year
  · rw [yearLength, if_pos hleap]
    simp only [IsLeap, daysToYear] at *
    omega
  · rw [yearLength, if_neg hleap]
    simp only [IsLeap, daysToYear] at *
    omega

theorem daysInYears_eq (year : Int) (count : Nat) :
    (daysInYears year count : Int) = daysToYear (year + count - 1) - daysToYear (year - 1) := by
  induction count with
  | zero => simp [daysInYears]
  | succ count ih =>
      have hlast : year + (count + 1 : Nat) - 1 = year + count := by omega
      rw [daysInYears, Int.natCast_add, ih, yearLength_eq, hlast]
      omega

theorem daysBeforeYear_eq (year : Int) :
    daysBeforeYear year = daysToYear (year - 1) + 306 - firstDayOf1970 := by
  have hfirst : daysToYear (1970 - 1) + 306 = firstDayOf1970 := by decide
  rw [daysBeforeYear, daysInYears_eq, daysInYears_eq]
  rcases Int.le_total 1970 year with hle | hle
  · have hafter : (1970 : Int) + (year - 1970).toNat - 1 = year - 1 := by omega
    have hbefore : year + (1970 - year).toNat - 1 = year - 1 := by omega
    rw [hafter, hbefore]
    omega
  · have hafter : (1970 : Int) + (year - 1970).toNat - 1 = 1969 := by omega
    have hbefore : year + (1970 - year).toNat - 1 = 1969 := by omega
    rw [hafter, hbefore]
    omega

theorem daysBeforeYear_succ (year : Int) :
    daysBeforeYear (year + 1) = daysBeforeYear year + yearLength year := by
  have hsucc : year + 1 - 1 = year := by omega
  rw [daysBeforeYear_eq, daysBeforeYear_eq, yearLength_eq, hsucc]
  omega

theorem daysBeforeYear_mono {year later : Int} (h : year ≤ later) :
    daysBeforeYear year ≤ daysBeforeYear later := by
  obtain ⟨count, rfl⟩ := Int.le.dest h
  induction count with
  | zero => simp
  | succ count ih =>
      have hstep := daysBeforeYear_succ (year + count)
      have hlater : year + (count + 1 : Nat) = year + count + 1 := by omega
      rw [hlater, hstep]
      have := ih (by omega)
      omega

/-- The date is one of the calendar, and the time one of the day. -/
@[mk_iff]
structure IsValid (d : DateTime) : Prop where
  month : 1 ≤ d.month ∧ d.month ≤ 12
  day : 1 ≤ d.day ∧ d.day ≤ monthLength d.year d.month
  hour : d.hour < 24
  minute : d.minute < 60
  second : d.second < 60
  millisecond : d.millisecond < 1000

instance (d : DateTime) : Decidable d.IsValid :=
  decidable_of_iff _ (isValid_iff d).symm

/-- The milliseconds from the start of 1970 to a date and time, with all years and months counted by
their lengths. -/
def denoted (d : DateTime) : Int :=
  (daysBeforeYear d.year + daysBeforeMonth d.year d.month + (d.day - 1 : Int)) * 86400000 +
    d.hour * 3600000 + d.minute * 60000 + d.second * 1000 + d.millisecond

/-- January and February are the last months of the years that begin in March. -/
theorem daysBeforeMonth_of_le_two {month : Nat} (hlow : 1 ≤ month) (hhigh : month ≤ 2) (year : Int) :
    daysBeforeMonth year month + 306 = daysToMonth (month + 9) := by
  interval_cases month <;> simp [daysBeforeMonth, monthLength, daysToMonth]

theorem daysBeforeMonth_of_three_le {month : Nat} (hlow : 3 ≤ month) (hhigh : month ≤ 12)
    (year : Int) : daysBeforeMonth year month + 306 = daysToMonth (month - 3) + yearLength year := by
  by_cases hleap : IsLeap year <;> interval_cases month <;>
    simp [daysBeforeMonth, monthLength, yearLength, daysToMonth, hleap]

/-- Counting years from March comes to the same. -/
theorem days_eq {d : DateTime} (h : 1 ≤ d.month ∧ d.month ≤ 12) :
    d.days = daysBeforeYear d.year + daysBeforeMonth d.year d.month + (d.day - 1 : Int) := by
  obtain ⟨hlow, hhigh⟩ := h
  rw [days, marchYear, marchMonth, daysBeforeYear_eq]
  by_cases hmonth : d.month ≤ 2
  · have hdays := daysBeforeMonth_of_le_two hlow hmonth d.year
    rw [if_pos hmonth, if_pos hmonth]
    omega
  · have hdays := daysBeforeMonth_of_three_le (by omega) hhigh d.year
    have hyear := yearLength_eq d.year
    rw [if_neg hmonth, if_neg hmonth]
    omega

theorem denoted_eq_toInstant {d : DateTime} (h : 1 ≤ d.month ∧ d.month ≤ 12) :
    d.denoted = d.toInstant := by
  have hday : ImsiPseudonym.day = 86400000 := rfl
  rw [denoted, toInstant, days_eq h, millisOfDay, hday]
  push_cast
  omega

/-- Only the last of four years has a day 366, and of these not the last of a century, unless that is
the last of four centuries. -/
theorem yearOfDay_parts (n : Int) : ∃ era century fourYears year rest : Int,
    yearOfDay n = 400 * era + 100 * century + 4 * fourYears + year ∧
      n = 146097 * era + 36524 * century + 1461 * fourYears + 365 * year + rest ∧
      (0 ≤ century ∧ century ≤ 3) ∧ (0 ≤ fourYears ∧ fourYears ≤ 24) ∧ (0 ≤ year ∧ year ≤ 3) ∧
      (0 ≤ rest ∧ rest ≤ 365) ∧ (rest = 365 → year = 3 ∧ (fourYears ≤ 23 ∨ century = 3)) := by
  have hn := Int.ediv_mul_add_emod n 146097
  have hlow := Int.emod_nonneg n (b := 146097) (by decide)
  have hhigh := Int.emod_lt_of_pos n (b := 146097) (by decide)
  refine ⟨n / 146097, min (n % 146097 / 36524) 3,
    (n % 146097 - min (n % 146097 / 36524) 3 * 36524) / 1461,
    min ((n % 146097 - min (n % 146097 / 36524) 3 * 36524) % 1461 / 365) 3,
    (n % 146097 - min (n % 146097 / 36524) 3 * 36524) % 1461 -
      365 * min ((n % 146097 - min (n % 146097 / 36524) 3 * 36524) % 1461 / 365) 3, rfl, ?_⟩
  generalize n / 146097 = era at *
  generalize n % 146097 = inEra at *
  obtain ⟨century, hcentury⟩ : ∃ century, century = min (inEra / 36524) 3 := ⟨_, rfl⟩
  rw [← hcentury]
  obtain ⟨inCentury, hinCentury⟩ : ∃ inCentury, inCentury = inEra - century * 36524 := ⟨_, rfl⟩
  rw [← hinCentury]
  omega

/-- A day lies before the first day of the next year. -/
theorem lt_daysToYear_succ (n : Int) : n < daysToYear (yearOfDay n + 1) := by
  obtain ⟨era, century, fourYears, year, rest, hyear, hn, hcentury, hfour, hlast, hrest, hlong⟩ :=
    yearOfDay_parts n
  have hlength := yearLength_eq (yearOfDay n + 1)
  have hstart := daysToYear_eq era century fourYears year hcentury hfour hlast
  rw [Int.add_sub_cancel, hyear, hstart] at hlength
  rw [hyear]
  by_cases hleap : IsLeap (400 * era + 100 * century + 4 * fourYears + year + 1)
  · rw [yearLength, if_pos hleap] at hlength
    omega
  · rw [yearLength, if_neg hleap] at hlength
    unfold IsLeap at hleap
    have hshort : rest ≠ 365 := by omega
    omega

theorem lt_daysToMonth_succ (day : Nat) : day < daysToMonth (monthOfDay day + 1) := by
  simp only [daysToMonth, monthOfDay]
  omega

/-- The months from March to January, by their place in the year that begins in March. -/
theorem daysToMonth_succ {month : Nat} (h : month < 11) (year : Int) :
    daysToMonth (month + 1) =
      daysToMonth month + monthLength year (if month < 10 then month + 3 else month - 9) := by
  interval_cases month <;> rfl

/-- The year and the month of a date from those that count from March. -/
theorem day_le_monthLength {n : Int} {month : Nat} (hmonth : month = monthOfDay (dayOfYear n)) :
    dayOfYear n - daysToMonth month + 1 ≤
      monthLength (if month < 10 then yearOfDay n else yearOfDay n + 1)
        (if month < 10 then month + 3 else month - 9) := by
  have hlt := monthOfDay_lt (dayOfYear_lt n)
  have hle := daysToMonth_monthOfDay_le (dayOfYear n)
  rw [← hmonth] at hlt hle
  by_cases hfebruary : month < 11
  · have hnext := lt_daysToMonth_succ (dayOfYear n)
    rw [← hmonth, daysToMonth_succ hfebruary (if month < 10 then yearOfDay n else yearOfDay n + 1)]
      at hnext
    omega
  · have hlast : month = 11 := by omega
    have hend := lt_daysToYear_succ n
    have hday := daysToYear_add_dayOfYear n
    have hlength := yearLength_eq (yearOfDay n + 1)
    have hbefore : daysToMonth 11 = 337 := rfl
    rw [Int.add_sub_cancel] at hlength
    subst hlast
    simp only [Nat.reduceLT, if_false, Nat.reduceSub, monthLength, hbefore]
    by_cases hleap : IsLeap (yearOfDay n + 1)
    · rw [yearLength, if_pos hleap] at hlength
      rw [if_pos hleap]
      omega
    · rw [yearLength, if_neg hleap] at hlength
      rw [if_neg hleap]
      omega

theorem isValid_ofInstant (t : Instant) : (ofInstant t).IsValid := by
  have hmonth := monthOfDay_lt (dayOfYear_lt (t / ImsiPseudonym.day + firstDayOf1970))
  have htime : (t % ImsiPseudonym.day).toNat < 86400000 := by
    have hlt := Int.emod_lt_of_pos t (b := 86400000) (by decide)
    have hday : ImsiPseudonym.day = 86400000 := rfl
    rw [hday]
    omega
  constructor
  · simp only [ofInstant]
    split <;> omega
  · exact ⟨Nat.le_add_left 1 _, day_le_monthLength rfl⟩
  · simp only [ofInstant]
    omega
  · exact Nat.mod_lt _ (by decide)
  · exact Nat.mod_lt _ (by decide)
  · exact Nat.mod_lt _ (by decide)

/-- An instant is the one that its date and time denote. -/
theorem denoted_ofInstant (t : Instant) : (ofInstant t).denoted = t := by
  rw [denoted_eq_toInstant (isValid_ofInstant t).month, toInstant_ofInstant]

def startOfYear (year : Int) : Int :=
  daysBeforeYear year * 86400000

theorem daysBeforeMonth_mono {month later : Nat} (h : month ≤ later) (year : Int) :
    daysBeforeMonth year month ≤ daysBeforeMonth year later := by
  induction h with
  | refl => exact Nat.le_refl _
  | step _ ih => exact Nat.le_trans ih (Nat.le_add_right _ _)

/-- The days of a year are those of its twelve months. -/
theorem daysBeforeMonth_thirteen (year : Int) : daysBeforeMonth year 13 = yearLength year := by
  by_cases hleap : IsLeap year <;> simp [daysBeforeMonth, monthLength, yearLength, hleap]

theorem IsValid.mem_year {d : DateTime} (h : d.IsValid) :
    startOfYear d.year ≤ d.denoted ∧ d.denoted < startOfYear (d.year + 1) := by
  have hmonths := daysBeforeMonth_mono (Nat.succ_le_succ h.month.2) d.year
  rw [daysBeforeMonth_thirteen, daysBeforeMonth] at hmonths
  obtain ⟨hlow, hhigh⟩ := h.day
  have hhour := h.hour
  have hminute := h.minute
  have hsecond := h.second
  have hmillisecond := h.millisecond
  rw [startOfYear, startOfYear, denoted, daysBeforeYear_succ]
  constructor <;> omega

/-- An instant lies in a year or later, if it does not lie before the first instant of that year. -/
theorem startOfYear_le_iff (year t : Int) :
    startOfYear year ≤ t ↔ year ≤ (ofInstant t).year := by
  obtain ⟨hstart, hend⟩ := (isValid_ofInstant t).mem_year
  rw [denoted_ofInstant] at hstart hend
  unfold startOfYear at *
  constructor
  · intro h
    by_contra hlt
    have hmono := daysBeforeYear_mono (Int.add_one_le_of_lt (Int.not_le.mp hlt))
    omega
  · intro h
    have hmono := daysBeforeYear_mono h
    omega

end DateTime
end ImsiPseudonym
