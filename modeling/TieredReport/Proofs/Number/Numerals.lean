/-
# The length and the value of a numeral

A number below `10 ^ (k + 1)` has at most `k + 1` digits, and one from `10 ^ k` on has more
than `k`. Zeros before a numeral bring it to a length and leave its value alone, so a number
that is small enough is padded to exactly the width asked for (`length_padLeft_digits`) and is
read back from it (`value?_padLeft_digits`). A numeral that goes on counts its beginning in
larger units (`value?_append`); so the digits behind the first one of `10 ^ k + r` are those of
`r`, with the zeros that fill them up (`value?_drop_digits`).

Key theorems: `length_digits_le`, `lt_length_digits`, `length_padLeft_digits`,
`value?_padLeft_digits`, `padLeft_digits_inj`, `value?_append`, `value?_drop_digits`.
-/
import Mathlib.Data.List.Induction
import Mathlib.Tactic.Ring
import TieredReport.Number.Digits

namespace TieredReport.Number

variable {ds : List Char} {n : Nat}

/-! ### Length -/

theorem length_digits_le : ∀ {k n : Nat}, n < 10 ^ (k + 1) → (digits n).length ≤ k + 1
  | k, n, h => by
    rw [digits]
    split
    · simp
    · next hn =>
      cases k with
      | zero => omega
      | succ k =>
        have hrest : n / 10 < 10 ^ (k + 1) := by omega
        have ih := length_digits_le hrest
        rw [List.length_append, List.length_singleton]
        omega

theorem lt_length_digits : ∀ {k n : Nat}, 10 ^ k ≤ n → k < (digits n).length
  | 0, n, _ => List.length_pos_iff.2 (digits_ne_nil n)
  | k + 1, n, h => by
    have hten : 10 ≤ n := by
      have hpos : 0 < 10 ^ k := Nat.pow_pos (by decide)
      omega
    have hrest : 10 ^ k ≤ n / 10 := by omega
    have ih := lt_length_digits hrest
    rw [digits, if_neg (by omega), List.length_append, List.length_singleton]
    omega

/-! ### Padding -/

theorem length_padLeft (width : Nat) (ds : List Char) :
    (padLeft width ds).length = max width ds.length := by
  rw [padLeft, List.length_append, List.length_replicate]
  omega

/-- A number that is small enough is padded to the width asked for. -/
theorem length_padLeft_digits {k : Nat} (h : n < 10 ^ (k + 1)) :
    (padLeft (k + 1) (digits n)).length = k + 1 := by
  rw [length_padLeft]
  exact Nat.max_eq_left (length_digits_le h)

theorem padLeft_digits_ne_nil (width n : Nat) : padLeft width (digits n) ≠ [] :=
  List.append_ne_nil_of_right_ne_nil _ (digits_ne_nil n)

theorem padLeft_digits_all_isDigit (width n : Nat) :
    ∀ c ∈ padLeft width (digits n), c.isDigit = true := by
  intro c hc
  rcases List.mem_append.1 hc with hc | hc
  · rw [List.eq_of_mem_replicate hc]
    rfl
  · exact digits_all_isDigit n c hc

/-- Zeros before a numeral do not change its value. -/
theorem value?_padLeft (width : Nat) (ds : List Char) : value? (padLeft width ds) = value? ds := by
  rw [padLeft, value?, value?, List.foldl_append]
  congr 1
  induction width - ds.length with
  | zero => rfl
  | succ zeros ih => rw [List.replicate_succ, List.foldl_cons]; exact ih

/-- A padded number is read back. -/
theorem value?_padLeft_digits (width n : Nat) : value? (padLeft width (digits n)) = some n := by
  rw [value?_padLeft, value?_digits]

/-- Different numbers have different digits. -/
theorem digits_inj {m : Nat} : digits m = digits n ↔ m = n := by
  refine ⟨fun h => ?_, congrArg digits⟩
  have hvalue := congrArg value? h
  rw [value?_digits, value?_digits] at hvalue
  exact Option.some.inj hvalue

theorem padLeft_digits_inj {width m : Nat} :
    padLeft width (digits m) = padLeft width (digits n) ↔ m = n := by
  refine ⟨fun h => ?_, fun h => by rw [h]⟩
  have hvalue := congrArg value? h
  rw [value?_padLeft_digits, value?_padLeft_digits] at hvalue
  exact Option.some.inj hvalue

/-! ### Value -/

/-- **The digits in front count in larger units.** -/
theorem value?_append {front : List Char} {x : Nat} (hx : value? front = some x)
    (ds : List Char) :
    value? (front ++ ds) = (value? ds).map fun y => x * 10 ^ ds.length + y := by
  induction ds using List.reverseRecOn with
  | nil =>
    rw [List.append_nil, hx]
    simp [value?]
  | append_singleton ds c ih =>
    rw [← List.append_assoc, value?_append_singleton, value?_append_singleton, ih]
    cases value? ds with
    | none => rfl
    | some y =>
      by_cases hc : c.isDigit = true
      · simp only [Option.map_some, addDigit, Option.bind_some, if_pos hc, List.length_append,
          List.length_singleton, Option.some_inj]
        ring
      · simp [addDigit, hc]

theorem value?_lt (h : value? ds = some n) : n < 10 ^ ds.length := by
  induction ds using List.reverseRecOn generalizing n with
  | nil =>
    cases h
    decide
  | append_singleton ds c ih =>
    rw [value?_append_singleton] at h
    obtain ⟨m, hm, hc⟩ := Option.bind_eq_some_iff.1 h
    have hlt := ih hm
    by_cases hdigit : c.isDigit = true
    · have hrange : c.toNat - 48 ≤ 9 := by
        have hle : c.toNat ≤ 57 := by
          simpa [Char.isDigit, UInt32.le_iff_toNat_le] using (Bool.and_eq_true_iff.1 hdigit).2
        omega
      rw [if_pos hdigit] at hc
      rw [List.length_append, List.length_singleton, Nat.pow_succ, ← Option.some.inj hc]
      omega
    · rw [if_neg hdigit] at hc
      cases hc

/-- Behind its first digit, the numeral of `10 ^ k + r` is the numeral of `r` at the width `k`. -/
theorem value?_drop_digits {k r : Nat} (hr : r < 10 ^ k) :
    ((digits (10 ^ k + r)).drop 1).length = k ∧
      value? ((digits (10 ^ k + r)).drop 1) = some r := by
  have hle : (digits (10 ^ k + r)).length ≤ k + 1 := by
    refine length_digits_le ?_
    rw [Nat.pow_succ]
    omega
  have hlt := lt_length_digits (Nat.le_add_right (10 ^ k) r)
  have hvalue := value?_digits (10 ^ k + r)
  have hdigits := digits_all_isDigit (10 ^ k + r)
  obtain ⟨first, rest, heq⟩ := List.exists_cons_of_ne_nil (digits_ne_nil (10 ^ k + r))
  rw [heq] at hle hlt hvalue hdigits ⊢
  have hlength : rest.length = k := by
    rw [List.length_cons] at hle hlt
    omega
  refine ⟨hlength, ?_⟩
  have hfirst : value? [first] = some (first.toNat - 48) := by
    simp [value?, addDigit, hdigits first List.mem_cons_self]
  have hsplit := value?_append hfirst rest
  rw [List.singleton_append, hvalue, hlength] at hsplit
  obtain ⟨y, hy, hsum⟩ := Option.map_eq_some_iff.1 hsplit.symm
  have hylt := value?_lt hy
  rw [hlength] at hylt
  -- the first digit is a one: a zero gives too little, and more gives too much
  rw [List.drop_one, List.tail_cons, hy]
  cases hone : first.toNat - 48 with
  | zero =>
    rw [hone] at hsum
    omega
  | succ more =>
    rw [hone] at hsum
    cases more with
    | zero => exact congrArg some (by omega)
    | succ more =>
      rw [Nat.add_mul, Nat.add_mul] at hsum
      omega

end TieredReport.Number
