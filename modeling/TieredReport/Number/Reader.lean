/-
# Reading numbers

A number text is an optional sign, digits with an optional point (one side of
it may be empty) and an optional exponent, or one of the words `inf`,
`infinity` and `nan` in any case. The value is the nearest binary64 number;
what is too large is infinite.

Key definitions: `Number.Scientific`, `Number.Scientific.toFloat`, `Number.unsigned?`,
`Number.parse?`, `Number.nat?`, `Number.int?`.
-/
import TieredReport.Number.Digits
import TieredReport.Text.Case
import TieredReport.Text.Split

namespace TieredReport.Number

/-- The decimal number `coefficient * 10 ^ exponent` as it was written. -/
structure Scientific where
  coefficient : Nat
  exponent : Int

/-- The nearest binary64 number. Beyond `10 ^ 310` it is infinite and below `10 ^ -330` zero, so
no power of ten outside that range is computed. -/
def Scientific.toFloat (d : Scientific) : Float :=
  if d.coefficient = 0 then 0
  else
    let point : Int := (digits d.coefficient).length + d.exponent
    if 310 < point then 1 / 0
    else if point < -330 then 0
    else
      match d.exponent with
      | .ofNat e => Float.ofScientific d.coefficient false e
      | .negSucc e => Float.ofScientific d.coefficient true (e + 1)

/-- A sign, if there is one, and what follows it. -/
def signed (s : List Char) : Bool × List Char :=
  match s with
  | '-' :: rest => (true, rest)
  | '+' :: rest => (false, rest)
  | _ => (false, s)

/-- A natural number in ASCII digits, at least one. -/
def digits? (s : List Char) : Option Nat := if s.isEmpty then none else value? s

/-- An integer in ASCII digits with an optional sign. -/
def signedDigits? (s : List Char) : Option Int :=
  let (negative, ds) := signed s
  (digits? ds).map fun n => if negative then -(n : Int) else n

/-- Digits with an optional point; at least one digit. -/
def fixedPoint? (s : List Char) : Option Scientific :=
  match Text.cut? '.' s with
  | none => (digits? s).map fun n => ⟨n, 0⟩
  | some (whole, fraction) =>
    (digits? (whole ++ fraction)).map fun n => ⟨n, -(fraction.length : Int)⟩

/-- A number text without sign. -/
def unsigned? (s : List Char) : Option Scientific :=
  match Text.cut? 'e' (s.map Char.toLower) with
  | none => fixedPoint? s
  | some (significand, exponent) => do
    let d ← fixedPoint? significand
    let e ← signedDigits? exponent
    return { d with exponent := d.exponent + e }

/-- The words for numbers that are not finite, in lower case. -/
def word? (s : List Char) : Option Float :=
  match String.ofList (s.map Char.toLower) with
  | "inf" | "infinity" => some (1 / 0)
  | "nan" => some (0 / 0)
  | _ => none

/-- The number that a text stands for. -/
def parse? (s : List Char) : Option Float :=
  let (negative, body) := signed s
  let size := (word? body).orElse fun _ => (unsigned? body).map Scientific.toFloat
  size.map fun x => if negative then -x else x

/-- A natural number up to a limit: digits, with a plus sign if need be. -/
def nat? (limit : Nat) (s : List Char) : Option Nat :=
  let ds :=
    match s with
    | '+' :: rest => rest
    | _ => s
  (digits? ds).filter (· ≤ limit)

/-- The largest 64-bit natural number. -/
def maxNat64 : Nat := UInt64.size - 1

/-- A signed integer of 64 bits: digits with an optional sign. -/
def int64? (s : List Char) : Option Int :=
  (signedDigits? s).filter fun n => Int64.minValue.toInt ≤ n && n ≤ Int64.maxValue.toInt

end TieredReport.Number
