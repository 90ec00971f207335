/-
# The exact magnitude of a binary64 number

A finite binary64 number is, sign aside, a natural number times a power of two.
All texts of numbers, fixed or shortest, are made from that exact value by
arithmetic on natural numbers.

Key definitions: `Number.Magnitude`, `Number.magnitude`, `Number.signBit`,
`Number.integer?`, `Number.truncToNat`, `Number.truncToInt`.
-/

namespace TieredReport.Number

/-- A binary64 number without its sign; `finite m q` is `m * 2 ^ q`. -/
inductive Magnitude where
  | notANumber
  | infinite
  | finite (m : Nat) (q : Int)
  deriving DecidableEq, Repr

/-- The 52 bits of the significand field. -/
def significandField (x : Float) : Nat := x.toBits.toNat % Nat.pow 2 52

/-- The 11 bits of the exponent field. -/
def exponentField (x : Float) : Nat := x.toBits.toNat / Nat.pow 2 52 % Nat.pow 2 11

/-- Whether the sign bit is set. -/
def signBit (x : Float) : Bool := Nat.pow 2 63 ≤ x.toBits.toNat

/-- The magnitude that the exponent and significand fields stand for. -/
def magnitude (x : Float) : Magnitude :=
  if exponentField x = 2047 then
    if significandField x = 0 then .infinite else .notANumber
  else if exponentField x = 0 then .finite (significandField x) (-1074)
  else .finite (Nat.pow 2 52 + significandField x) ((exponentField x : Int) - 1075)

/-- The whole part of `m * 2 ^ q`. -/
def floorScaled (m : Nat) (q : Int) : Nat :=
  match q with
  | .ofNat k => m * Nat.pow 2 k
  | .negSucc k => m / Nat.pow 2 (k + 1)

/-- Whether `m * 2 ^ q` is a whole number. -/
def isWhole (m : Nat) (q : Int) : Bool :=
  match q with
  | .ofNat _ => true
  | .negSucc k => m % Nat.pow 2 (k + 1) == 0

/-- The value of a finite whole number. -/
def integer? (x : Float) : Option Int :=
  match magnitude x with
  | .finite m q =>
    if isWhole m q then
      some (if signBit x then -(floorScaled m q : Int) else floorScaled m q)
    else none
  | _ => none

/-- The whole part of a number, clamped to `0 ... limit`; zero where there is no number. -/
def truncToNat (limit : Nat) (x : Float) : Nat :=
  if signBit x then 0
  else
    match magnitude x with
    | .notANumber => 0
    | .infinite => limit
    | .finite m q => min limit (floorScaled m q)

/-- The number without its fraction, clamped to 64 bits with sign; zero where there is no number. -/
def truncToInt (x : Float) : Int :=
  match magnitude x with
  | .notANumber => 0
  | .infinite => if signBit x then Int64.minValue.toInt else Int64.maxValue.toInt
  | .finite m q =>
    if signBit x then max Int64.minValue.toInt (-(floorScaled m q : Int))
    else min Int64.maxValue.toInt (floorScaled m q)

end TieredReport.Number
