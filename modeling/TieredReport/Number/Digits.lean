/-
# Decimal digits of a natural number

Key definitions: `Number.digits`, `Number.padLeft`, `Number.value?`.
Key theorems: `Number.digits_ne_nil`, `Number.digits_all_isDigit`, `Number.value?_digits`.
-/

namespace TieredReport.Number

/-- The character of a digit below ten. -/
def digitChar (d : Nat) : Char := Char.ofNat (48 + d)

/-- The decimal digits of a number, without leading zeros. -/
def digits (n : Nat) : List Char :=
  if n < 10 then [digitChar n] else digits (n / 10) ++ [digitChar (n % 10)]

/-- Digits with zeros before them up to a least length. -/
def padLeft (width : Nat) (ds : List Char) : List Char :=
  List.replicate (width - ds.length) '0' ++ ds

/-- Appending one character to a digit string of known value. -/
def addDigit (n : Option Nat) (c : Char) : Option Nat :=
  n.bind fun n => if c.isDigit then some (10 * n + (c.toNat - 48)) else none

/-- The value of a string of ASCII digits. -/
def value? (ds : List Char) : Option Nat := ds.foldl addDigit (some 0)

theorem toNat_digitChar : ∀ d < 10, (digitChar d).toNat = 48 + d := by decide

theorem isDigit_digitChar : ∀ d < 10, (digitChar d).isDigit = true := by decide

theorem digits_ne_nil (n : Nat) : digits n ≠ [] := by
  fun_induction digits n <;> simp

theorem digits_all_isDigit (n : Nat) : ∀ c ∈ digits n, c.isDigit = true := by
  fun_induction digits n with
  | case1 n h => simpa using isDigit_digitChar n h
  | case2 n h ih =>
    intro c hc
    rcases List.mem_append.1 hc with hc | hc
    · exact ih c hc
    · rw [List.mem_singleton.1 hc]
      exact isDigit_digitChar _ (Nat.mod_lt _ (by decide))

theorem value?_append_singleton (ds : List Char) (c : Char) :
    value? (ds ++ [c]) = addDigit (value? ds) c := by
  simp [value?, List.foldl_append]

/-- Reading the digits of a number gives the number back. -/
theorem value?_digits (n : Nat) : value? (digits n) = some n := by
  fun_induction digits n with
  | case1 n h => simp [value?, addDigit, isDigit_digitChar n h, toNat_digitChar n h]
  | case2 n h ih =>
    have hmod : n % 10 < 10 := Nat.mod_lt _ (by decide)
    have hn : 10 * (n / 10) + n % 10 = n := Nat.div_add_mod n 10
    rw [value?_append_singleton, ih]
    simp [addDigit, isDigit_digitChar _ hmod, toNat_digitChar _ hmod, hn]

end TieredReport.Number
