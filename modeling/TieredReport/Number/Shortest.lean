/-
# The fewest digits that read back as the same number

The reals that round to a binary64 number form an interval around it. The
shortest text of the number is the coarsest decimal grid `10 ^ k` with a point
in that interval; of two such points the nearer is taken, and the exact middle
goes the way the caller asks.

Key definitions: `Number.Decimal`, `Number.Tie`, `Number.shortest`.
-/

namespace TieredReport.Number

/-- The decimal number `coefficient * 10 ^ exponent`. -/
structure Decimal where
  coefficient : Nat
  exponent : Int
  deriving DecidableEq, Repr

/-- Which of two equally near neighbours is taken. -/
inductive Tie where
  | up
  | toEven
  deriving DecidableEq, Repr

/-- A value and the bounds of its interval, as numerators over one denominator. -/
structure Interval where
  low : Nat
  value : Nat
  high : Nat
  den : Nat
  closed : Bool

/-- The interval of the reals that round to `m * 2 ^ q`, for `0 < m`. The gap below a power of two
is half the gap above it; the bounds belong to the interval iff `m` is even. -/
def Interval.around (m : Nat) (q : Int) : Interval :=
  let below := if m = Nat.pow 2 52 ∧ q ≠ -1074 then 1 else 2
  let (num, den) : Nat × Nat :=
    match q with
    | .ofNat k => (Nat.pow 2 k, 4)
    | .negSucc k => (1, 4 * Nat.pow 2 (k + 1))
  ⟨(4 * m - below) * num, 4 * m * num, (4 * m + 2) * num, den, m % 2 == 0⟩

/-- Whether `num / den` lies in the interval, on a common denominator. -/
def Interval.contains (i : Interval) (scaled unit : Nat) : Bool :=
  if i.closed then i.low * unit ≤ scaled && scaled ≤ i.high * unit
  else i.low * unit < scaled && scaled < i.high * unit

/-- The point of the grid `10 ^ k` that lies in the interval and nearest to its value. -/
def Interval.onGrid? (i : Interval) (tie : Tie) (k : Int) : Option Decimal :=
  let (step, unit) : Nat × Nat :=
    match k with
    | .ofNat n => (Nat.pow 10 n * i.den, 1)
    | .negSucc n => (i.den, Nat.pow 10 (n + 1))
  let floor := i.value * unit / step
  let under := i.value * unit - floor * step
  let lower := i.contains (floor * step) unit
  let upper := i.contains ((floor + 1) * step) unit
  let takeUpper :=
    upper && (!lower || step < 2 * under ||
      (2 * under == step && (tie == .up || floor % 2 == 1)))
  if takeUpper then some ⟨floor + 1, k⟩
  else if lower then some ⟨floor, k⟩
  else none

/-- The first hit on the grids `10 ^ k`, `10 ^ (k - 1)`, ... -/
def Interval.coarsest (i : Interval) (tie : Tie) : (grids : Nat) → (k : Int) → Decimal
  | 0, k => ⟨0, k⟩
  | grids + 1, k =>
    match i.onGrid? tie k with
    | some d => d
    | none => i.coarsest tie grids (k - 1)

/-- An exponent of ten that is too coarse for `m * 2 ^ q`, by at most two. -/
def coarseExponent (m : Nat) (q : Int) : Int := ((m.log2 : Int) + 1 + q) * 30103 / 100000 + 1

/-- The shortest decimal that reads back as `m * 2 ^ q`, for `0 < m`. Seventeen digits always
suffice, so the grids tried never run out. -/
def shortest (tie : Tie) (m : Nat) (q : Int) : Decimal :=
  (Interval.around m q).coarsest tie 20 (coarseExponent m q)

end TieredReport.Number
