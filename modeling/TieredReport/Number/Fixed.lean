/-
# Numbers with a fixed count of fraction digits

The exact value `m * 2 ^ q` is scaled by a power of ten and rounded to a whole
number, a half going to the even neighbour; the digits of that number, cut
before the last `places`, are the text.

Key definitions: `Number.roundHalfEven`, `Number.fixedUnits`, `Number.fixedMagnitude`.
Key theorems: `Number.roundHalfEven_near`, `Number.roundHalfEven_tie`.
-/
import TieredReport.Number.Digits
import TieredReport.Number.Magnitude

namespace TieredReport.Number

/-- The whole number nearest to `num / den`, a half going to the even neighbour. -/
def roundHalfEven (num den : Nat) : Nat :=
  let whole := num / den
  let twice := 2 * (num % den)
  if twice < den then whole
  else if den < twice then whole + 1
  else whole + whole % 2

/-- `m * 2 ^ q` in units of `10 ^ -places`, rounded. -/
def fixedUnits (places m : Nat) (q : Int) : Nat :=
  match q with
  | .ofNat k => m * Nat.pow 2 k * Nat.pow 10 places
  | .negSucc k => roundHalfEven (m * Nat.pow 10 places) (Nat.pow 2 (k + 1))

/-- The whole part and the fraction of a count of units of `10 ^ -places`. -/
def placeUnits (places units : Nat) : List Char × List Char :=
  let one := Nat.pow 10 places
  (digits (units / one), (digits (one + units % one)).drop 1)

/-- The whole part and the fraction digits of a magnitude; a magnitude that is not finite is a
word without fraction. -/
def fixedParts (places : Nat) : Magnitude → List Char × List Char
  | .notANumber => ("NaN".toList, [])
  | .infinite => ("inf".toList, [])
  | .finite m q =>
    if places = 0 then (digits (fixedUnits 0 m q), [])
    else placeUnits places (fixedUnits places m q)

/-- A magnitude with a fixed count of fraction digits, `1234.50`. -/
def fixedMagnitude (places : Nat) (v : Magnitude) : List Char :=
  match fixedParts places v with
  | (whole, []) => whole
  | (whole, fraction) => whole ++ '.' :: fraction

/-- The rounded quotient is within half a unit of the exact one. -/
theorem roundHalfEven_near (num den : Nat) (h : 0 < den) :
    2 * num ≤ 2 * (roundHalfEven num den * den) + den ∧
      2 * (roundHalfEven num den * den) ≤ 2 * num + den := by
  have hdiv : den * (num / den) + num % den = num := Nat.div_add_mod num den
  have hmod : num % den < den := Nat.mod_lt num h
  have hcomm : num / den * den = den * (num / den) := Nat.mul_comm _ _
  simp only [roundHalfEven]
  split
  · omega
  · split
    · rw [Nat.add_mul, Nat.one_mul]; omega
    · rcases Nat.mod_two_eq_zero_or_one (num / den) with h2 | h2 <;> rw [h2, Nat.add_mul] <;> omega

/-- A quotient half way between two whole numbers goes to the even one. -/
theorem roundHalfEven_tie (num den : Nat) (h : 2 * (num % den) = den) :
    roundHalfEven num den % 2 = 0 := by
  simp only [roundHalfEven, h, Nat.lt_irrefl, if_false]
  omega

end TieredReport.Number
