import ImsiPseudonym.Decimal.Integer
import ImsiPseudonym.Instant

/-!
Instants as dates and times of day in UTC, by the Gregorian calendar carried on in both directions.
Years are counted from March, so that the leap day is the last day of its year.  Main statement:
`toInstant_ofInstant`, no two instants are written as the same date and time.
-/
namespace ImsiPseudonym

structure DateTime where
  year : Int
  month : Nat
  day : Nat
  hour : Nat
  minute : Nat
  second : Nat
  millisecond : Nat
deriving DecidableEq, Repr

namespace DateTime

/-- The days between the first of March of year 0 and the first of March of a year. -/
def daysToYear (year : Int) : Int :=
  365 * year + year / 4 - year / 100 + year / 400

/-- The days between the first of March and the first of a month, both counted from March. -/
def daysToMonth (month : Nat) : Nat :=
  (153 * month + 2) / 5

/-- The first day of 1970, counted from the first of March of year 0. -/
def firstDayOf1970 : Int := 719468

/-- The year that a day lies in.  Four centuries are 146097 days; the last century of the four, and
the last year of each four years, is one day longer than the others. -/
def yearOfDay (n : Int) : Int :=
  let era := n % 146097
  let century := min (era / 36524) 3
  let rest := era - century * 36524
  let year := min (rest % 1461 / 365) 3
  400 * (n / 146097) + 100 * century + 4 * (rest / 1461) + year

/-- The place of a day in its year. -/
def dayOfYear (n : Int) : Nat :=
  (n - daysToYear (yearOfDay n)).toNat

/-- The month that a day of the year lies in, counted from March. -/
def monthOfDay (day : Nat) : Nat :=
  (5 * day + 2) / 153

/-- The year that a date's month belongs to when years begin in March. -/
def marchYear (d : DateTime) : Int :=
  if d.month ≤ 2 then d.year - 1 else d.year

/-- The place of a date's month in the year when years begin in March. -/
def marchMonth (d : DateTime) : Nat :=
  if d.month ≤ 2 then d.month + 9 else d.month - 3

/-- The days between the start of 1970 and a date. -/
def days (d : DateTime) : Int :=
  daysToYear d.marchYear + daysToMonth d.marchMonth + d.day - 1 - firstDayOf1970

def millisOfDay (d : DateTime) : Nat :=
  ((d.hour * 60 + d.minute) * 60 + d.second) * 1000 + d.millisecond

def toInstant (d : DateTime) : Instant :=
  d.days * ImsiPseudonym.day + d.millisOfDay

def ofInstant (t : Instant) : DateTime :=
  let n := t / ImsiPseudonym.day + firstDayOf1970
  let month := monthOfDay (dayOfYear n)
  let time := (t % ImsiPseudonym.day).toNat
  { year := if month < 10 then yearOfDay n else yearOfDay n + 1
    month := if month < 10 then month + 3 else month - 9
    day := dayOfYear n - daysToMonth month + 1
    hour := time / 3600000
    minute := time / 60000 % 60
    second := time / 1000 % 60
    millisecond := time % 1000 }

/-- The days before a year, from its place in its century, among four centuries. -/
theorem daysToYear_eq (era century fourYears year : Int)
    (hcentury : 0 ≤ century ∧ century ≤ 3) (hfour : 0 ≤ fourYears ∧ fourYears ≤ 24)
    (hyear : 0 ≤ year ∧ year ≤ 3) :
    daysToYear (400 * era + 100 * century + 4 * fourYears + year) =
      146097 * era + 36524 * century + 1461 * fourYears + 365 * year := by
  have hquarter : (400 * era + 100 * century + 4 * fourYears + year) / 4 =
      100 * era + 25 * century + fourYears := by omega
  have hhundredth : (400 * era + 100 * century + 4 * fourYears + year) / 100 =
      4 * era + century := by omega
  have hlast : (400 * era + 100 * century + 4 * fourYears + year) / 400 = era := by omega
  rw [daysToYear, hquarter, hhundredth, hlast]
  omega

/-- A day lies in its year: at or after its first day and less than 366 days later. -/
theorem daysToYear_yearOfDay (n : Int) :
    daysToYear (yearOfDay n) ≤ n ∧ n < daysToYear (yearOfDay n) + 366 := by
  have hn := Int.ediv_mul_add_emod n 146097
  have hlow := Int.emod_nonneg n (b := 146097) (by decide)
  have hhigh := Int.emod_lt_of_pos n (b := 146097) (by decide)
  simp only [yearOfDay]
  generalize n / 146097 = a at *
  generalize n % 146097 = era at *
  rw [daysToYear_eq _ _ _ _ (by omega) (by omega) (by omega)]
  omega

theorem dayOfYear_lt (n : Int) : dayOfYear n < 366 := by
  have := daysToYear_yearOfDay n
  simp only [dayOfYear]
  omega

theorem daysToYear_add_dayOfYear (n : Int) : daysToYear (yearOfDay n) + dayOfYear n = n := by
  have := daysToYear_yearOfDay n
  simp only [dayOfYear]
  omega

theorem monthOfDay_lt {day : Nat} (h : day < 366) : monthOfDay day < 12 := by
  simp only [monthOfDay]
  omega

theorem daysToMonth_monthOfDay_le (day : Nat) : daysToMonth (monthOfDay day) ≤ day := by
  simp only [daysToMonth, monthOfDay]
  omega

@[simp] theorem marchYear_ofInstant (t : Instant) :
    (ofInstant t).marchYear = yearOfDay (t / ImsiPseudonym.day + firstDayOf1970) := by
  have := monthOfDay_lt (dayOfYear_lt (t / ImsiPseudonym.day + firstDayOf1970))
  simp only [marchYear, ofInstant]
  split <;> split <;> omega

@[simp] theorem marchMonth_ofInstant (t : Instant) :
    (ofInstant t).marchMonth =
      monthOfDay (dayOfYear (t / ImsiPseudonym.day + firstDayOf1970)) := by
  have := monthOfDay_lt (dayOfYear_lt (t / ImsiPseudonym.day + firstDayOf1970))
  simp only [marchMonth, ofInstant]
  split <;> split <;> omega

@[simp] theorem days_ofInstant (t : Instant) : (ofInstant t).days = t / ImsiPseudonym.day := by
  have hyear := daysToYear_add_dayOfYear (t / ImsiPseudonym.day + firstDayOf1970)
  have hmonth := daysToMonth_monthOfDay_le
    (dayOfYear (t / ImsiPseudonym.day + firstDayOf1970))
  simp only [days, marchYear_ofInstant, marchMonth_ofInstant]
  simp only [ofInstant]
  omega

@[simp] theorem millisOfDay_ofInstant (t : Instant) :
    (ofInstant t).millisOfDay = (t % ImsiPseudonym.day).toNat := by
  simp only [millisOfDay, ofInstant]
  omega

@[simp] theorem toInstant_ofInstant (t : Instant) : (ofInstant t).toInstant = t := by
  have hrest : 0 ≤ t % ImsiPseudonym.day := Int.emod_nonneg t (by decide)
  simp only [toInstant, days_ofInstant, millisOfDay_ofInstant, Int.toNat_of_nonneg hrest]
  exact Int.ediv_mul_add_emod t _

def firstYear : Int := -262143

def lastYear : Int := 262142

/-- A year by four digits; one that needs more, or that lies before year 0, has a sign. -/
def yearText (year : Int) : List Char :=
  if 0 ≤ year ∧ year ≤ 9999 then Decimal.padded 4 year.natAbs
  else (if year < 0 then '-' else '+') :: Decimal.padded 4 year.natAbs

/-- The date and time as RFC 3339 writes it, with milliseconds only where there are any. -/
def text (d : DateTime) : String :=
  let two := Decimal.padded 2
  let fraction := if d.millisecond = 0 then [] else '.' :: Decimal.padded 3 d.millisecond
  String.ofList <|
    yearText d.year ++ '-' :: two d.month ++ '-' :: two d.day ++
      'T' :: two d.hour ++ ':' :: two d.minute ++ ':' :: two d.second ++ fraction ++
      "+00:00".toList

end DateTime

/-- The text of an instant, if it lies in a year that is written. -/
def Instant.text? (t : Instant) : Option String :=
  let d := DateTime.ofInstant t
  if DateTime.firstYear ≤ d.year ∧ d.year ≤ DateTime.lastYear then some d.text else none

example : Instant.text? 951782400001 = some "2000-02-29T00:00:00.001+00:00" := by decide +kernel
example : Instant.text? (-62167219200001) = some "-0001-12-31T23:59:59.999+00:00" := by
  decide +kernel
example : Instant.text? 253402300800000 = some "+10000-01-01T00:00:00+00:00" := by decide +kernel
example : Instant.text? (-8334632851200001) = none := by decide +kernel

end ImsiPseudonym
