/-
# The order of binary64 numbers

Two numbers have an order unless one of them is no number (`isSome_compare`), and the order in
the other direction is the reverse (`compare_swap`). Less-than and equality are read off that
order (`lt_iff_compare`, `beq_eq_compare`).

Key theorems: `compare_swap`, `isSome_compare_iff`, `beq_eq_compare`, `beq_comm`.
-/
import TieredReport.Proofs.Number.Negation

namespace TieredReport.Number

open Float.Model (UnpackedFloat)
open Float.Model.UnpackedFloat (Sign)

theorem compareSign_swap (s t : Sign) : (compare s t).swap = compare t s := by
  cases s <;> cases t <;> rfl

/-- Finite numbers are ordered by exponent, then by significand. -/
theorem compareFinite_swap (e e' : Int) (m m' : Nat) :
    ((compare e e').then (compare m m')).swap = (compare e' e).then (compare m' m) := by
  rw [Ordering.swap_then, Int.compare_swap, Nat.compare_swap]

/-- **The order in the other direction is the reverse.** -/
theorem compare_swap (f g : UnpackedFloat) : g.compare f = (f.compare g).map Ordering.swap := by
  cases f with
  | notANumber => cases g <;> rfl
  | infinity s =>
    cases g with
    | notANumber => cases s <;> rfl
    | infinity t => exact congrArg some (compareSign_swap s t).symm
    | zero t => cases s <;> rfl
    | finite t m e h => cases s <;> cases t <;> rfl
  | zero s =>
    cases g with
    | notANumber => rfl
    | infinity t => cases t <;> rfl
    | zero t => rfl
    | finite t m e h => cases t <;> rfl
  | finite s m e h =>
    cases g with
    | notANumber => cases s <;> rfl
    | infinity t => cases s <;> cases t <;> rfl
    | zero t => cases s <;> rfl
    | finite t m' e' h' =>
      have hswap := compareFinite_swap e e' m m'
      cases s with
      | positive =>
        cases t with
        | positive => exact congrArg some hswap.symm
        | negative => rfl
      | negative =>
        cases t with
        | positive => rfl
        | negative => exact congrArg (fun o => some o.swap) hswap.symm

/-- What is no number has no order, and everything else has. -/
theorem isSome_compare (f g : UnpackedFloat) :
    (f.compare g).isSome = (!f.isNaN && !g.isNaN) := by
  cases f with
  | notANumber => cases g <;> rfl
  | infinity s => cases g <;> cases s <;> rfl
  | zero s =>
    cases g with
    | notANumber => rfl
    | infinity t => cases t <;> rfl
    | zero t => rfl
    | finite t m e h => cases t <;> rfl
  | finite s m e h =>
    cases g with
    | notANumber => cases s <;> rfl
    | infinity t => cases s <;> cases t <;> rfl
    | zero t => cases s <;> rfl
    | finite t m' e' h' => cases s <;> cases t <;> rfl

theorem isSome_compare_iff {x y : Float} :
    ((unpacked x).compare (unpacked y)).isSome = true ↔ x.isNaN = false ∧ y.isNaN = false := by
  rw [isSome_compare, Bool.and_eq_true, Bool.not_eq_true', Bool.not_eq_true']
  rfl

theorem beq_eq_compare (x y : Float) :
    (x == y) = ((unpacked x).compare (unpacked y) == some .eq) := rfl

theorem beq_comm (x y : Float) : (x == y) = (y == x) := by
  rw [beq_eq_compare, beq_eq_compare, compare_swap (unpacked x) (unpacked y)]
  cases (unpacked x).compare (unpacked y) with
  | none => rfl
  | some o => cases o <;> rfl

end TieredReport.Number
