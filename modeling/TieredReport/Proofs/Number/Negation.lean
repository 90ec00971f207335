/-
# Negation and the sign of a product

A binary64 number is read off its bits as no number, as infinite, as zero, or as a
whole number times a power of two, the last three with a sign (`unpacked`). Negation
changes that sign and nothing else (`unpacked_neg`), also behind an operation that has
rounded its result: rounding and packing treat both signs alike (`unpack_pack_neg`).
So a negated factor negates the product (`neg_mul_eq`), the magnitude of a number is
that of its negation (`magnitude_neg`), and the sign of a product is that of its
factors even where it overflows or is rounded to zero (`sign?_unpacked_mul`).

Key definitions: `unpacked`, `sign?`.
Key theorems: `unpack_pack_neg`, `unpacked_neg`, `neg_mul_eq`, `magnitude_eq`, `magnitude_neg`,
`negative_iff`, `positive_iff`, `sign?_unpacked_mul`.
-/
import Mathlib
import TieredReport.Number.Magnitude

namespace TieredReport.Number

open Float.Model (Format UnpackedFloat)
open Float.Model.UnpackedFloat

variable {x y : Float}

/-- What the bits of a number stand for. -/
def unpacked (x : Float) : UnpackedFloat := x.toModel.unpack

/-- The sign of what is a number. -/
def sign? : UnpackedFloat → Option Sign
  | .notANumber => none
  | .infinity s => some s
  | .zero s => some s
  | .finite s _ _ _ => some s

/-! ### Negation -/

theorem unpack_packComponents_neg (spec : Format) (s : Sign) (e : BitVec spec.exponentBits)
    (m : BitVec spec.mantissaBitsWithoutImplicit) :
    unpack spec (packComponents spec (-s) e m) = (unpack spec (packComponents spec s e m)).neg := by
  unfold unpack
  simp only [unpackMantissa_packComponents, unpackExponent_packComponents,
    unpackSign_packComponents, Sign.ofBitVec_toBitVec]
  split_ifs <;> rfl

/-- **Packing treats both signs alike.** -/
theorem unpack_pack_neg (spec : Format) (f : UnpackedFloat) :
    unpack spec (pack spec f.neg) = (unpack spec (pack spec f)).neg := by
  cases f with
  | notANumber =>
    show unpack spec (packedNaN spec) = (unpack spec (packedNaN spec)).neg
    rw [unpack_packedNaN]
    rfl
  | infinity s => exact unpack_packComponents_neg spec s _ _
  | zero s => exact unpack_packComponents_neg spec s _ _
  | finite s m e h =>
    rw [UnpackedFloat.neg, pack, pack]
    split_ifs
    · exact unpack_packComponents_neg spec s _ _
    · exact unpack_packComponents_neg spec s _ _
    · exact unpack_packComponents_neg spec s _ _

theorem unpacked_neg (x : Float) : unpacked (-x) = (unpacked x).neg := by
  calc unpacked (-x)
      = unpack .binary64 (pack .binary64 (unpacked x).neg) := rfl
    _ = (unpack .binary64 (pack .binary64 (unpacked x))).neg := unpack_pack_neg _ _
    _ = (unpacked x).neg := by
      rw [unpacked, Float.Model.unpack, pack_unpack_of_valid x.toModel.valid]

theorem unpacked_mul (x y : Float) : unpacked (x * y) =
    unpack .binary64 (pack .binary64 (mul .binary64 (unpacked x) (unpacked y))) := rfl

theorem neg_mul_sign (s t : Sign) : -s * t = -(s * t) := by
  cases s <;> cases t <;> rfl

theorem roundWithAccuracy_neg (spec : Format) (s : Sign) (m : Nat) (e : Int) (a : Accuracy) :
    roundWithAccuracy spec (-s) m e a = (roundWithAccuracy spec s m e a).neg := by
  unfold roundWithAccuracy
  dsimp only
  split_ifs <;> rfl

theorem mul_neg_left (spec : Format) (f g : UnpackedFloat) :
    mul spec f.neg g = (mul spec f g).neg := by
  cases f <;> cases g <;>
    simp [UnpackedFloat.neg, mul, neg_mul_sign, roundWithAccuracy_neg]

/-- A number is told by what its bits stand for. -/
theorem eq_of_unpacked_eq (h : unpacked x = unpacked y) : x = y := by
  have hbits := (unpack_inj_of_valid x.toModel.valid y.toModel.valid).1 h
  exact Float.toBits_inj.1 (UInt64.toBitVec_inj.1 hbits)

/-- **A negated factor negates the product.** -/
theorem neg_mul_eq (x y : Float) : -x * y = -(x * y) := by
  apply eq_of_unpacked_eq
  rw [unpacked_neg, unpacked_mul, unpacked_mul, unpacked_neg, mul_neg_left, unpack_pack_neg]

/-! ### Magnitude -/

theorem exponentField_eq (x : Float) : exponentField x =
    (@unpackExponent .binary64 x.toModel.toBits.toBitVec).toNat := by
  rw [unpackExponent_def, BitVec.extractLsb'_toNat, Nat.shiftRight_eq_div_pow]
  rfl

theorem significandField_eq (x : Float) : significandField x =
    (@unpackMantissa .binary64 x.toModel.toBits.toBitVec).toNat := by
  rw [unpackMantissa_def, BitVec.extractLsb'_toNat, Nat.shiftRight_zero]
  rfl

/-- A significand with the leading one that its field leaves out. -/
theorem toNat_implicit_append {n : Nat} (m : BitVec n) : (1#1 ++ m).toNat = Nat.pow 2 n + m.toNat := by
  rw [BitVec.toNat_append, ← Nat.shiftLeft_add_eq_or_of_lt m.isLt, Nat.shiftLeft_eq]
  exact congrArg (· + m.toNat) (Nat.one_mul _)

/-- The magnitude of a number forgets its sign. -/
theorem magnitude_eq (x : Float) : magnitude x =
    match unpacked x with
    | .notANumber => .notANumber
    | .infinity _ => .infinite
    | .zero _ => .finite 0 (-1074)
    | .finite _ m e _ => .finite m e := by
  let b := x.toModel.toBits.toBitVec
  have htop : exponentField x = 2047 ↔ @unpackExponent .binary64 b = -1#11 := by
    rw [exponentField_eq]
    exact BitVec.toNat_inj (y := -1#11)
  have hbottom : exponentField x = 0 ↔ @unpackExponent .binary64 b = 0#11 := by
    rw [exponentField_eq]
    exact BitVec.toNat_inj (y := 0#11)
  have hempty : significandField x = 0 ↔ @unpackMantissa .binary64 b = 0#52 := by
    rw [significandField_eq]
    exact BitVec.toNat_inj (y := 0#52)
  have hunpack : unpacked x = unpack .binary64 b := rfl
  rw [hunpack, magnitude, unpack]
  by_cases he : exponentField x = 2047
  · rw [if_pos he, if_pos (htop.1 he)]
    by_cases hm : significandField x = 0
    · rw [if_pos hm, if_pos (hempty.1 hm)]
    · rw [if_neg hm, if_neg fun h => hm (hempty.2 h)]
  rw [if_neg he, if_neg fun h => he (htop.2 h)]
  by_cases hz : exponentField x = 0
  · rw [if_pos hz, if_pos (hbottom.1 hz)]
    by_cases hm : significandField x = 0
    · rw [dif_pos (hempty.1 hm), hm]
    · rw [dif_neg fun h => hm (hempty.2 h)]
      show Magnitude.finite _ _ = Magnitude.finite _ _
      rw [← significandField_eq, ← exponentField_eq, hz]
      rfl
  · rw [if_neg hz, if_neg fun h => hz (hbottom.2 h)]
    show Magnitude.finite _ _ = Magnitude.finite _ _
    rw [toNat_implicit_append, ← significandField_eq, ← exponentField_eq]
    rfl

theorem magnitude_neg (x : Float) : magnitude (-x) = magnitude x := by
  rw [magnitude_eq, magnitude_eq, unpacked_neg]
  cases unpacked x <;> rfl

/-! ### Sign -/

theorem sign?_neg (f : UnpackedFloat) : sign? f.neg = (sign? f).map (-·) := by
  cases f <;> rfl

theorem magnitude_ne_notANumber {s : Sign} (h : sign? (unpacked x) = some s) :
    magnitude x ≠ .notANumber := by
  rw [magnitude_eq]
  cases hx : unpacked x with
  | notANumber => rw [hx] at h; cases h
  | infinity s => exact Magnitude.noConfusion
  | zero s => exact Magnitude.noConfusion
  | finite s m e h => exact Magnitude.noConfusion

theorem lt_iff_compare : x < y ↔ (unpacked x).compare (unpacked y) = some .lt :=
  decide_eq_true_iff.trans beq_iff_eq

theorem unpacked_zero : unpacked 0 = .zero .positive := rfl

/-- The negative numbers are those with a minus sign that are neither zero nor no number. -/
theorem negative_iff : x < 0 ↔ sign? (unpacked x) = some .negative ∧ ∀ s, unpacked x ≠ .zero s := by
  rw [lt_iff_compare, unpacked_zero]
  cases unpacked x with
  | notANumber => simp [UnpackedFloat.compare, sign?]
  | infinity s => cases s <;> simp [UnpackedFloat.compare, sign?]
  | zero s => simp [UnpackedFloat.compare, sign?]
  | finite s m e h => cases s <;> simp [UnpackedFloat.compare, sign?]

/-- The positive numbers are those without a minus sign that are neither zero nor no number. -/
theorem positive_iff : 0 < x ↔ sign? (unpacked x) = some .positive ∧ ∀ s, unpacked x ≠ .zero s := by
  rw [lt_iff_compare, unpacked_zero]
  cases unpacked x with
  | notANumber => simp [UnpackedFloat.compare, sign?]
  | infinity s => cases s <;> simp [UnpackedFloat.compare, sign?]
  | zero s => simp [UnpackedFloat.compare, sign?]
  | finite s m e h => cases s <;> simp [UnpackedFloat.compare, sign?]

/-- The sign of a result is not lost where it is packed. -/
theorem sign?_unpack_pack (f : UnpackedFloat) :
    sign? (unpack .binary64 (pack .binary64 f)) = sign? f := by
  have hparts : ∀ (s : Sign) (e : BitVec 11) (m : BitVec 52), (e = -1#11 → m = 0#52) →
      sign? (unpack .binary64 (packComponents .binary64 s e m)) = some s := by
    intro s e m hinfinite
    unfold unpack
    simp only [unpackMantissa_packComponents, unpackExponent_packComponents,
      unpackSign_packComponents, Sign.ofBitVec_toBitVec]
    split_ifs with he hm hz hm
    · rfl
    · exact absurd (hinfinite he) hm
    · rfl
    · rfl
    · rfl
  cases f with
  | notANumber =>
    show sign? (unpack .binary64 (packedNaN .binary64)) = none
    rw [unpack_packedNaN]
    rfl
  | infinity s => exact hparts s _ _ fun _ => rfl
  | zero s => exact hparts s _ _ fun _ => rfl
  | finite s m e h =>
    rw [pack]
    generalize (e + _ + _ : Int).toNat = biased
    split_ifs with hover hnormal
    · exact hparts s _ _ fun _ => rfl
    · refine hparts s _ _ fun htop => ?_
      -- the exponent field of an infinite number is out of reach
      have hover : ¬ 2048 ≤ biased + 1 := hover
      have hfield : biased % 2048 = 2047 := congrArg BitVec.toNat htop
      omega
    · exact hparts s _ _ fun htop => absurd htop (by decide)

theorem sign?_roundWithAccuracy (spec : Format) (s : Sign) (m : Nat) (e : Int) (a : Accuracy) :
    sign? (roundWithAccuracy spec s m e a) = some s := by
  unfold roundWithAccuracy
  dsimp only
  split_ifs <;> rfl

/-- A product with a finite factor other than zero has the sign of both factors. -/
theorem sign?_unpacked_mul {s t : Sign} {m : Nat} {e : Int} {h : 0 < m}
    (hx : sign? (unpacked x) = some s) (hy : unpacked y = .finite t m e h) :
    sign? (unpacked (x * y)) = some (s * t) := by
  rw [unpacked_mul, sign?_unpack_pack, hy]
  cases hf : unpacked x with
  | notANumber => simp [hf, sign?] at hx
  | infinity s' =>
    obtain rfl : s' = s := by simpa [hf, sign?] using hx
    rfl
  | zero s' =>
    obtain rfl : s' = s := by simpa [hf, sign?] using hx
    rfl
  | finite s' m' e' h' =>
    obtain rfl : s' = s := by simpa [hf, sign?] using hx
    exact sign?_roundWithAccuracy _ _ _ _ _

end TieredReport.Number
