/-
# Trimming

The two ends of a text are trimmed independently of each other
(`trimStart_trimEnd`), so a trimmed text has nothing left to trim
(`trim_trim`); and a beginning without blanks is out of the reach of what is
trimmed behind it (`trimEnd_append`).

Key theorems: `trimEnd_cons`, `trimStart_trimEnd`, `trim_trim`, `trim_trimEnd`,
`trimEnd_append`, `trim_eq_self`, `trim_append_append`, `trim_eq_nil_iff`.
-/
import Mathlib.Data.List.DropRight
import TieredReport.Text.Blank

namespace TieredReport.Text

theorem isBlank_of_isDigit {c : Char} (h : c.isDigit = true) : isBlank c = false := by
  have hrange : 48 ≤ c.toNat ∧ c.toNat ≤ 57 := by
    simpa [Char.isDigit, UInt32.le_iff_toNat_le] using h
  simp only [isBlank, Bool.or_eq_false_iff, Bool.and_eq_false_iff, decide_eq_false_iff_not,
    beq_eq_false_iff_ne]
  omega

/-- A first character stays, unless it is blank and nothing else stays. -/
theorem trimEnd_cons (c : Char) (s : List Char) :
    trimEnd (c :: s) = if trimEnd s = [] ∧ isBlank c = true then [] else c :: trimEnd s := by
  unfold trimEnd
  rw [List.reverse_cons, List.dropWhile_append]
  by_cases hs : s.reverse.dropWhile isBlank = []
  · by_cases hc : isBlank c = true <;> simp [hs, hc]
  · simp [hs]

theorem trimEnd_cons_of_not_blank {c : Char} (hc : isBlank c = false) (s : List Char) :
    trimEnd (c :: s) = c :: trimEnd s := by
  rw [trimEnd_cons, if_neg (by simp [hc])]

theorem trimStart_cons_of_blank {c : Char} (hc : isBlank c = true) (s : List Char) :
    trimStart (c :: s) = trimStart s := by
  simp [trimStart, hc]

theorem trimStart_cons_of_not_blank {c : Char} (hc : isBlank c = false) (s : List Char) :
    trimStart (c :: s) = c :: s := by
  simp [trimStart, hc]

/-- The two ends are trimmed independently. -/
theorem trimStart_trimEnd : ∀ s : List Char, trimStart (trimEnd s) = trimEnd (trimStart s)
  | [] => rfl
  | c :: s => by
    have ih := trimStart_trimEnd s
    cases hc : isBlank c with
    | false =>
      rw [trimStart_cons_of_not_blank hc, trimEnd_cons_of_not_blank hc,
        trimStart_cons_of_not_blank hc]
    | true =>
      rw [trimStart_cons_of_blank hc, ← ih, trimEnd_cons]
      split
      · next h => rw [h.1]
      · exact trimStart_cons_of_blank hc _

theorem trimEnd_trimEnd (s : List Char) : trimEnd (trimEnd s) = trimEnd s :=
  List.rdropWhile_idempotent isBlank s

theorem trimStart_trimStart (s : List Char) : trimStart (trimStart s) = trimStart s :=
  List.dropWhile_idempotent isBlank s

/-- A trimmed text has nothing left to trim. -/
theorem trim_trim (s : List Char) : trim (trim s) = trim s := by
  unfold trim
  rw [trimStart_trimEnd, trimStart_trimStart, trimEnd_trimEnd]

theorem trim_trimEnd (s : List Char) : trim (trimEnd s) = trim s := by
  unfold trim
  rw [trimStart_trimEnd, trimEnd_trimEnd]

theorem trim_cons_of_blank {c : Char} (hc : isBlank c = true) (s : List Char) :
    trim (c :: s) = trim s := by
  unfold trim
  rw [trimStart_cons_of_blank hc]

/-- What is trimmed at the end leaves a beginning without blanks alone. -/
theorem trimEnd_append {start : List Char} (h : start.any isBlank = false) (s : List Char) :
    trimEnd (start ++ s) = start ++ trimEnd s := by
  induction start with
  | nil => rfl
  | cons c start ih =>
    rw [List.any_cons, Bool.or_eq_false_iff] at h
    rw [List.cons_append, trimEnd_cons_of_not_blank h.1, ih h.2]
    rfl

/-- A text that neither begins nor ends with a blank has nothing to trim. -/
theorem trim_eq_self {s : List Char} (hfirst : s.head?.any isBlank = false)
    (hlast : s.getLast?.any isBlank = false) : trim s = s := by
  cases s with
  | nil => rfl
  | cons c s =>
    rw [trim, trimStart_cons_of_not_blank (by simpa using hfirst)]
    refine List.rdropWhile_eq_self_iff.2 fun hne => ?_
    rw [List.getLast?_eq_some_getLast hne] at hlast
    simpa using hlast

/-- Blanks around a text do not count. -/
theorem trim_append_append {lead trail : List Char} (hlead : lead.all isBlank = true)
    (htrail : trail.all isBlank = true) (s : List Char) : trim (lead ++ (s ++ trail)) = trim s := by
  have hend : trimEnd (s ++ trail) = trimEnd s := by
    have hdrop : trail.reverse.dropWhile isBlank = [] := by
      rw [List.dropWhile_eq_nil_iff]
      intro c hc
      exact List.all_eq_true.1 htrail c (List.mem_reverse.1 hc)
    rw [trimEnd, List.reverse_append, List.dropWhile_append, hdrop]
    rfl
  induction lead with
  | nil => rw [List.nil_append, ← trim_trimEnd, hend, trim_trimEnd]
  | cons c lead ih =>
    rw [List.all_cons, Bool.and_eq_true] at hlead
    rw [List.cons_append, trim_cons_of_blank hlead.1, ih hlead.2]

/-- Nothing is left of a text if and only if it holds nothing but blanks. -/
theorem trim_eq_nil_iff {s : List Char} : trim s = [] ↔ s.all isBlank = true := by
  induction s with
  | nil => exact ⟨fun _ => rfl, fun _ => rfl⟩
  | cons c s ih =>
    rw [List.all_cons]
    cases hc : isBlank c with
    | false =>
      rw [trim, trimStart_cons_of_not_blank hc, trimEnd_cons_of_not_blank hc]
      simp
    | true => rw [trim_cons_of_blank hc, ih, Bool.true_and]

end TieredReport.Text
