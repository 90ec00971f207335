/-
# Reading dates

Three grammars are tried in turn: a timestamp with an offset, a timestamp
without one, and a bare date. The first is strict, with padded numbers. The
other two take unpadded numbers with blanks before them, and a year with a sign
may have any number of digits. Of a timestamp only the written date counts.

Key definitions: `Calendar.timestamp?`, `Calendar.localTime?`, `Calendar.plainDate?`,
`Calendar.dateOfText?`, `Calendar.dateOfValue?`.
-/
import TieredReport.Calendar.Date
import TieredReport.Value

namespace TieredReport.Calendar

/-! ### Numbers and marks -/

/-- The digits at the front of a text, at most `most` of them, and what follows. -/
def digitRun : (most : Nat) → List Char → List Char × List Char
  | 0, s => ([], s)
  | _ + 1, [] => ([], [])
  | most + 1, c :: rest =>
    if c.isDigit then
      let (ds, after) := digitRun most rest
      (c :: ds, after)
    else ([], c :: rest)

/-- A number of `least` to `most` digits at the front of a text, and what follows. -/
def number? (least most : Nat) (s : List Char) : Option (Nat × List Char) :=
  let (ds, after) := digitRun most s
  if ds.length < least then none else (Number.value? ds).map fun n => (n, after)

/-- What follows one of these characters. -/
def mark? (marks : List Char) : List Char → Option (List Char)
  | [] => none
  | c :: rest => if marks.contains c then some rest else none

/-! ### Timestamps with an offset -/

/-- A date in padded numbers, and what follows. -/
def paddedDate? (s : List Char) : Option (Date × List Char) := do
  let (year, s) ← number? 4 4 s
  let s ← mark? ['-'] s
  let (month, s) ← number? 2 2 s
  let s ← mark? ['-'] s
  let (day, s) ← number? 2 2 s
  let date ← Date.of? year month day
  return (date, s)

/-- What follows a fraction of a second, which may be absent. -/
def afterFraction? (s : List Char) : Option (List Char) :=
  match s with
  | '.' :: rest => (number? 1 rest.length rest).map (·.2)
  | _ => some s

/-- What follows an offset: `Z`, or a sign, hours below 24 and minutes below 60. -/
def afterOffset? (s : List Char) : Option (List Char) :=
  match mark? ['Z', 'z'] s with
  | some rest => some rest
  | none => do
    let s ← mark? ['+', '-', '−'] s
    let (hours, s) ← number? 2 2 s
    let s ← mark? [':'] s
    let (minutes, s) ← number? 2 2 s
    if hours < 24 ∧ minutes < 60 then some s else none

/-- A timestamp with an offset, such as `2024-03-05T10:30:00.5+01:00`. A leap second counts. -/
def timestamp? (s : List Char) : Option Date := do
  let (date, s) ← paddedDate? s
  let s ← mark? ['T', 't', ' '] s
  let (hour, s) ← number? 2 2 s
  let s ← mark? [':'] s
  let (minute, s) ← number? 2 2 s
  let s ← mark? [':'] s
  let (second, s) ← number? 2 2 s
  let s ← afterFraction? s
  let s ← afterOffset? s
  if hour < 24 ∧ minute < 60 ∧ second ≤ 60 ∧ s.isEmpty then some date else none

/-! ### Dates and timestamps without an offset -/

/-- A number of one or two digits after blanks, and what follows. -/
def looseNumber? (s : List Char) : Option (Nat × List Char) := number? 1 2 (Text.trimStart s)

/-- A year after blanks, and what follows: up to four digits, or a sign and any number of them. -/
def looseYear? (s : List Char) : Option (Int × List Char) :=
  match Text.trimStart s with
  | '-' :: rest => (number? 1 rest.length rest).map fun (n, after) => (-(n : Int), after)
  | '+' :: rest => (number? 1 rest.length rest).map fun (n, after) => ((n : Int), after)
  | s => (number? 1 4 s).map fun (n, after) => ((n : Int), after)

/-- A date in unpadded numbers, and what follows. -/
def looseDate? (s : List Char) : Option (Date × List Char) := do
  let (year, s) ← looseYear? s
  let s ← mark? ['-'] s
  let (month, s) ← looseNumber? s
  let s ← mark? ['-'] s
  let (day, s) ← looseNumber? s
  let date ← Date.of? year month day
  return (date, s)

/-- A timestamp without an offset, such as `2024-3-5T9:05:00`. -/
def localTime? (s : List Char) : Option Date := do
  let (date, s) ← looseDate? s
  let s ← mark? ['T'] s
  let (hour, s) ← looseNumber? s
  let s ← mark? [':'] s
  let (minute, s) ← looseNumber? s
  let s ← mark? [':'] s
  let (second, s) ← looseNumber? s
  if hour < 24 ∧ minute < 60 ∧ second ≤ 60 ∧ s.isEmpty then some date else none

/-- A bare date, such as `2024-03-05`. -/
def plainDate? (s : List Char) : Option Date := do
  let (date, s) ← looseDate? s
  if s.isEmpty then some date else none

/-- The date that a text stands for, blanks around it aside. -/
def dateOfText? (s : String) : Option Date :=
  let s := Text.trim s.toList
  (timestamp? s).orElse fun _ => (localTime? s).orElse fun _ => plainDate? s

/-- The date that a value stands for; a number counts milliseconds since 1970, its fraction cut
off. -/
def dateOfValue? : Value → Option Date
  | .number ms => Date.ofEpochMillis? (Number.truncToInt ms)
  | .text s => dateOfText? s
  | _ => none

end TieredReport.Calendar
