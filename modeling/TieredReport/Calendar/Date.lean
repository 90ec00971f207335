/-
# Dates of the proleptic Gregorian calendar

The Gregorian rules run backwards without end, year 0 and negative years
included; a date here has a year from -262143 to 262142.

Key definitions: `Calendar.isLeap`, `Calendar.daysIn`, `Calendar.Date`, `Calendar.Date.of?`,
`Calendar.Date.ofEpochDay?`.
-/

namespace TieredReport.Calendar

/-- Whether a year has 366 days. -/
def isLeap (year : Int) : Bool := year % 4 == 0 && (year % 100 != 0 || year % 400 == 0)

/-- The number of days of a month, months counted from one. -/
def daysIn (year : Int) (month : Nat) : Nat :=
  match month with
  | 2 => if isLeap year then 29 else 28
  | 4 | 6 | 9 | 11 => 30
  | _ => 31

/-- A day of the calendar. -/
structure Date where
  year : Int
  month : Nat
  day : Nat
  year_ge : -262143 ≤ year
  year_le : year ≤ 262142
  month_ge : 1 ≤ month
  month_le : month ≤ 12
  day_ge : 1 ≤ day
  day_le : day ≤ daysIn year month
  deriving DecidableEq

namespace Date

/-- The date with this year, month and day, if there is one. -/
def of? (year : Int) (month day : Nat) : Option Date :=
  if h : (-262143 ≤ year ∧ year ≤ 262142) ∧ (1 ≤ month ∧ month ≤ 12) ∧ 1 ≤ day ∧
      day ≤ daysIn year month then
    some ⟨year, month, day, h.1.1, h.1.2, h.2.1.1, h.2.1.2, h.2.2.1, h.2.2.2⟩
  else none

/-- The date that lies so many days after 1970-01-01. Years are counted from the first of March,
so that a leap day is the last day of its year; 400 years make an era of 146097 days. -/
def ofEpochDay? (n : Int) : Option Date :=
  let fromEra := n + 719468
  let era := fromEra / 146097
  let dayOfEra := fromEra % 146097
  let yearOfEra := (dayOfEra - dayOfEra / 1460 + dayOfEra / 36524 - dayOfEra / 146096) / 365
  let dayOfYear := dayOfEra - (365 * yearOfEra + yearOfEra / 4 - yearOfEra / 100)
  let marchMonth := (5 * dayOfYear + 2) / 153
  let day := dayOfYear - (153 * marchMonth + 2) / 5 + 1
  let month := if marchMonth < 10 then marchMonth + 3 else marchMonth - 9
  let year := yearOfEra + era * 400 + if month ≤ 2 then 1 else 0
  of? year month.toNat day.toNat

/-- The date at which so many milliseconds have passed since the start of 1970. -/
def ofEpochMillis? (ms : Int) : Option Date := ofEpochDay? (ms / 86400000)

/-- A date is found again from its year, month and day. -/
theorem of?_self (d : Date) : of? d.year d.month d.day = some d :=
  dif_pos ⟨⟨d.year_ge, d.year_le⟩, ⟨d.month_ge, d.month_le⟩, d.day_ge, d.day_le⟩

end Date

end TieredReport.Calendar
