/-
# Date patterns

A pattern is a text with tokens for parts of a date: `YYYY`, `YY`, `MMMM`,
`MMM`, `MM`, `M`, `DD` and `D`. At each place the longest token counts. Text in
square brackets is copied without the brackets, a bracket without its partner
is copied as it is, and so is everything else.

Key definitions: `Calendar.Part`, `Calendar.nextPart`, `Calendar.parts`, `Calendar.Part.text`,
`Calendar.formatDate`.
Key theorem: `Calendar.nextPart_length_le`.
-/
import TieredReport.Calendar.Date
import TieredReport.Locale
import TieredReport.Number.Digits

namespace TieredReport.Calendar

/-- One part of a pattern. -/
inductive Part where
  | copy (text : List Char)
  | year
  | yearOfCentury
  | monthName
  | monthAbbreviation
  | paddedMonth
  | month
  | paddedDay
  | day
  deriving DecidableEq

/-- The part that starts with `c`, and what follows it. -/
def nextPart (c : Char) (rest : List Char) : Part × List Char :=
  if c = '[' then
    match Text.cut? ']' rest with
    | some (text, after) => (.copy text, after)
    | none => (.copy [c], rest)
  else if c = 'Y' then
    match rest with
    | 'Y' :: 'Y' :: 'Y' :: after => (.year, after)
    | 'Y' :: after => (.yearOfCentury, after)
    | _ => (.copy [c], rest)
  else if c = 'M' then
    match rest with
    | 'M' :: 'M' :: 'M' :: after => (.monthName, after)
    | 'M' :: 'M' :: after => (.monthAbbreviation, after)
    | 'M' :: after => (.paddedMonth, after)
    | _ => (.month, rest)
  else if c = 'D' then
    match rest with
    | 'D' :: after => (.paddedDay, after)
    | _ => (.day, rest)
  else (.copy [c], rest)

theorem nextPart_length_le (c : Char) (rest : List Char) :
    (nextPart c rest).2.length ≤ rest.length := by
  unfold nextPart
  split
  · split
    · next text after h =>
      simp only [(Text.cut?_eq_some h).1, List.length_append, List.length_cons]
      omega
    · exact Nat.le_refl _
  · repeat' split
    all_goals simp only [List.length_cons]; omega

/-- The parts of a pattern. -/
def parts : List Char → List Part
  | [] => []
  | c :: rest => (nextPart c rest).1 :: parts (nextPart c rest).2
termination_by s => s.length
decreasing_by
  have := nextPart_length_le c rest
  simp only [List.length_cons]
  omega

/-- A year in at least four characters, a minus sign among them. -/
def yearText (year : Int) : List Char :=
  match year with
  | .ofNat n => Number.padLeft 4 (Number.digits n)
  | .negSucc n => '-' :: Number.padLeft 3 (Number.digits (n + 1))

/-- The name of a month, months counted from one. -/
def monthName (locale : Locale) (month : Nat) : List Char :=
  (locale.monthNames.getD (month - 1) "").toList

/-- What a part stands for at a date. -/
def Part.text (locale : Locale) (d : Date) : Part → List Char
  | .copy s => s
  | .year => yearText d.year
  | .yearOfCentury => Number.padLeft 2 (Number.digits (d.year % 100).toNat)
  | .monthName => Calendar.monthName locale d.month
  | .monthAbbreviation => (Calendar.monthName locale d.month).take 3
  | .paddedMonth => Number.padLeft 2 (Number.digits d.month)
  | .month => Number.digits d.month
  | .paddedDay => Number.padLeft 2 (Number.digits d.day)
  | .day => Number.digits d.day

/-- A date in the form of a pattern. -/
def formatDate (d : Date) (pattern : List Char) (locale : Locale) : List Char :=
  (parts pattern).flatMap (Part.text locale d)

end TieredReport.Calendar
