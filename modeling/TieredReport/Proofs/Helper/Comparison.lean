/-
# The comparing helpers agree with each other

Four of the comparing helpers ask for the order of two values, which may not have one; the
other two ask whether they are equal, by rules of their own. The order in the other direction
is the reverse (`ordering?_swap`), two values have an order exactly if they are comparable
(`isSome_ordering?_iff`), and where values are comparable, equal ones have the order of equals
(`ordering?_of_looseEq`). Numbers and texts are equal exactly if they have that order
(`looseEq_iff_ordering?`).

Key definitions: `Builtin.Comparable`, `Builtin.holds`, `Builtin.Consistent`.
Key theorems: `Builtin.ordering?_swap`, `Builtin.isSome_ordering?_iff`, `Builtin.looseEq_comm`,
`Builtin.ordering?_of_looseEq`, `Builtin.looseEq_iff_ordering?`, `Builtin.comparing_consistent`.
-/
import TieredReport.Helper.Builtin
import TieredReport.Proofs.Number.Order

namespace TieredReport

namespace Value

mutual

/-- Equality of values does not depend on their order. -/
theorem eq_swap : ∀ a b : Value, a.eq b = b.eq a
  | .null, b => by cases b <;> rfl
  | .bool s, b => by
    cases b with
    | bool t => exact Bool.beq_comm
    | _ => rfl
  | .number x, b => by
    cases b with
    | number y => exact Number.beq_comm x y
    | _ => rfl
  | .text s, b => by
    cases b with
    | text t => exact Bool.beq_comm
    | _ => rfl
  | .array xs, b => by
    cases b with
    | array ys => exact eqItems_comm xs ys
    | _ => rfl
  | .map xs, b => by
    cases b with
    | map ys => exact eqMembers_comm xs ys
    | _ => rfl

theorem eqItems_comm : ∀ xs ys : List Value, eqItems xs ys = eqItems ys xs
  | [], [] => rfl
  | [], _ :: _ => rfl
  | _ :: _, [] => rfl
  | x :: xs, y :: ys => by rw [eqItems, eqItems, eq_swap x y, eqItems_comm xs ys]

theorem eqMembers_comm : ∀ xs ys : List (String × Value), eqMembers xs ys = eqMembers ys xs
  | [], [] => rfl
  | [], _ :: _ => rfl
  | _ :: _, [] => rfl
  | (m, x) :: xs, (n, y) :: ys => by
    have hnames : (m == n) = (n == m) := Bool.beq_comm
    rw [eqMembers, eqMembers, hnames, eq_swap x y, eqMembers_comm xs ys]

end

end Value

namespace Builtin

variable {a b : Value} {x y : Float} {s t : String}

/-! ### The order of two values -/

theorem numberOrdering?_eq (x y : Float) :
    numberOrdering? x y = (Number.unpacked x).compare (Number.unpacked y) := by
  have hlt := Number.lt_iff_compare (x := x) (y := y)
  have hgt := Number.lt_iff_compare (x := y) (y := x)
  have heq := Number.beq_eq_compare x y
  rw [Number.compare_swap (Number.unpacked x) (Number.unpacked y)] at hgt
  rw [numberOrdering?, heq]
  cases hcompare : (Number.unpacked x).compare (Number.unpacked y) with
  | none =>
    rw [hcompare] at hlt hgt
    rw [if_neg (by simp [hlt]), if_neg (by simp [hgt])]
    rfl
  | some o =>
    rw [hcompare] at hlt hgt
    cases o with
    | lt => rw [if_pos (hlt.2 rfl)]
    | eq =>
      rw [if_neg (by simp [hlt]), if_neg (by simp [hgt])]
      rfl
    | gt => rw [if_neg (by simp [hlt]), if_pos (hgt.2 rfl)]

theorem numberOrdering?_swap (x y : Float) :
    numberOrdering? y x = (numberOrdering? x y).map Ordering.swap := by
  rw [numberOrdering?_eq, numberOrdering?_eq, Number.compare_swap]

theorem textOrdering_swap (s t : String) : textOrdering t s = (textOrdering s t).swap := by
  rw [textOrdering, textOrdering]
  rcases lt_trichotomy s t with h | rfl | h
  · rw [if_pos h, if_neg (lt_asymm h), if_neg h.ne']
    rfl
  · rw [if_neg (lt_irrefl s), if_pos rfl]
    rfl
  · rw [if_pos h, if_neg (lt_asymm h), if_neg h.ne']
    rfl

theorem textOrdering_eq_iff (s t : String) : textOrdering s t = .eq ↔ s = t := by
  rw [textOrdering]
  rcases lt_trichotomy s t with h | rfl | h
  · rw [if_pos h]
    exact iff_of_false Ordering.noConfusion h.ne
  · rw [if_neg (lt_irrefl s), if_pos rfl]
    exact iff_of_true rfl rfl
  · rw [if_neg (lt_asymm h), if_neg h.ne']
    exact iff_of_false Ordering.noConfusion h.ne'

theorem numberOrdering?_eq_some_eq_iff : numberOrdering? x y = some .eq ↔ (x == y) = true := by
  rw [numberOrdering?_eq, Number.beq_eq_compare, beq_iff_eq]

theorem ordering?_texts (s t : String) :
    ordering? (.text s) (.text t) = some (textOrdering s t) := rfl

/-- Values that are not both texts are ordered as numbers. -/
theorem ordering?_of_not_texts (h : ∀ s t, a = .text s → b ≠ .text t) :
    ordering? a b = a.number?.bind fun x => b.number?.bind fun y => numberOrdering? x y := by
  unfold ordering?
  split
  · exact absurd rfl (h _ _ rfl)
  · cases a.number? with
    | none => rfl
    | some x => cases b.number? <;> rfl

theorem texts_or_not (a b : Value) :
    (∃ s t, a = .text s ∧ b = .text t) ∨ ∀ s t, a = .text s → b ≠ .text t := by
  cases a with
  | text s =>
    cases b with
    | text t => exact .inl ⟨s, t, rfl, rfl⟩
    | _ => exact .inr fun _ _ _ => Value.noConfusion
  | _ => exact .inr fun _ _ h => Value.noConfusion h

/-- **The order in the other direction is the reverse.** -/
theorem ordering?_swap (a b : Value) : ordering? b a = (ordering? a b).map Ordering.swap := by
  rcases texts_or_not a b with ⟨s, t, rfl, rfl⟩ | h
  · exact congrArg some (textOrdering_swap s t)
  · rw [ordering?_of_not_texts h, ordering?_of_not_texts fun s t hb ha => h t s ha hb]
    cases a.number? with
    | none => cases b.number? <;> rfl
    | some x =>
      cases b.number? with
      | none => rfl
      | some y => exact numberOrdering?_swap x y

/-- Two values can be compared if both are texts or both stand for numbers. -/
inductive Comparable : Value → Value → Prop
  | texts (s t : String) : Comparable (.text s) (.text t)
  | numbers {a b : Value} {x y : Float} (hx : a.number? = some x) (hxNum : x.isNaN = false)
      (hy : b.number? = some y) (hyNum : y.isNaN = false) : Comparable a b

/-- Two values have an order if and only if they can be compared. -/
theorem isSome_ordering?_iff : (ordering? a b).isSome = true ↔ Comparable a b := by
  rcases texts_or_not a b with ⟨s, t, rfl, rfl⟩ | h
  · exact iff_of_true rfl (.texts s t)
  rw [ordering?_of_not_texts h]
  constructor
  · intro hsome
    cases hx : a.number? with
    | none => simp [hx] at hsome
    | some x =>
      cases hy : b.number? with
      | none => simp [hx, hy] at hsome
      | some y =>
        have horder : (numberOrdering? x y).isSome = true := by simpa [hx, hy] using hsome
        rw [numberOrdering?_eq, Number.isSome_compare_iff] at horder
        exact .numbers hx horder.1 hy horder.2
  · rintro (⟨s, t⟩ | ⟨hx, hxNum, hy, hyNum⟩)
    · exact absurd rfl (h s t rfl)
    · rw [hx, hy, Option.bind_some, Option.bind_some, numberOrdering?_eq,
        Number.isSome_compare_iff]
      exact ⟨hxNum, hyNum⟩

/-! ### Equality of two values -/

/-- Equality of helpers does not depend on the order of the values. -/
theorem looseEq_comm (a b : Value) : looseEq a b = looseEq b a := by
  cases a with
  | number x =>
    cases b with
    | text s => rfl
    | _ => exact Value.eq_swap _ _
  | text s =>
    cases b with
    | number x => rfl
    | _ => exact Value.eq_swap _ _
  | _ => cases b <;> exact Value.eq_swap _ _

/-- Whether a value is a number or a text. -/
def isNumberOrText : Value → Bool
  | .number _ => true
  | .text _ => true
  | _ => false

theorem looseEq_number_text_iff :
    looseEq (.number x) (.text s) = true ↔ ordering? (.number x) (.text s) = some .eq := by
  rw [ordering?_of_not_texts fun _ _ h => Value.noConfusion h, Value.number?, Value.number?,
    Option.bind_some, looseEq]
  cases Value.textNumber? s with
  | none => simp
  | some y => rw [Option.bind_some, numberOrdering?_eq_some_eq_iff, Number.beq_comm]

/-- **Numbers and texts are equal exactly if they have the order of equals.** -/
theorem looseEq_iff_ordering? (ha : isNumberOrText a = true) (hb : isNumberOrText b = true) :
    looseEq a b = true ↔ ordering? a b = some .eq := by
  cases a with
  | number x =>
    cases b with
    | number y => exact numberOrdering?_eq_some_eq_iff.symm
    | text s => exact looseEq_number_text_iff
    | _ => cases hb
  | text s =>
    cases b with
    | number x =>
      rw [looseEq_comm, looseEq_number_text_iff, ordering?_swap (.number x) (.text s)]
      cases ordering? (.number x) (.text s) with
      | none => simp
      | some o => cases o <;> simp
    | text t =>
      rw [ordering?_texts, Option.some_inj, textOrdering_eq_iff]
      exact beq_iff_eq
    | _ => cases hb
  | _ => cases ha

theorem ordering?_bool_self (v : Bool) : ordering? (.bool v) (.bool v) = some .eq := by
  cases v with
  | false => decide +kernel
  | true => decide +kernel

theorem looseEq_bool (v : Bool) (hb : isNumberOrText b = true) :
    looseEq (.bool v) b = false := by
  cases b with
  | number y => rfl
  | text s => rfl
  | _ => cases hb

/-- What stands for a number is a number, a text or a boolean. -/
theorem number?_cases (h : a.number?.isSome = true) :
    isNumberOrText a = true ∨ ∃ v, a = .bool v := by
  cases a with
  | number x => exact .inl rfl
  | text s => exact .inl rfl
  | bool v => exact .inr ⟨v, rfl⟩
  | _ => cases h

/-- Equal values that can be compared have the order of equals. -/
theorem ordering?_of_looseEq (hcomparable : Comparable a b) (h : looseEq a b = true) :
    ordering? a b = some .eq := by
  rcases hcomparable with ⟨s, t⟩ | ⟨hx, -, hy, -⟩
  · exact (looseEq_iff_ordering? rfl rfl).1 h
  have hxSome := number?_cases (Option.isSome_of_eq_some hx)
  have hySome := number?_cases (Option.isSome_of_eq_some hy)
  rcases hxSome with hx | ⟨v, rfl⟩
  · rcases hySome with hy | ⟨w, rfl⟩
    · exact (looseEq_iff_ordering? hx hy).1 h
    · rw [looseEq_comm, looseEq_bool w hx] at h
      cases h
  · rcases hySome with hy | ⟨w, rfl⟩
    · rw [looseEq_bool v hy] at h
      cases h
    · obtain rfl : v = w := beq_iff_eq.1 h
      exact ordering?_bool_self v

/-! ### What the helpers say -/

/-- The helpers that compare two values. -/
def comparing : List Builtin := [eq, ne, gt, gte, lt, lte]

/-- What a comparing helper says of two values. -/
def holds (defaults : FormatDefaults) (h : Builtin) (a b : Value) : Bool :=
  match h.call defaults [a, b] with
  | .ok (.bool v) => v
  | _ => false

/-- The comparing helpers agree with each other on two values. -/
structure Consistent (defaults : FormatDefaults) (a b : Value) : Prop where
  answers : ∀ h ∈ comparing, h.call defaults [a, b] = .ok (.bool (h.holds defaults a b))
  gt_swap : gt.holds defaults a b = lt.holds defaults b a
  gte_swap : gte.holds defaults a b = lte.holds defaults b a
  not_gt_and_lt : ¬ (gt.holds defaults a b = true ∧ lt.holds defaults a b = true)
  of_comparable : Comparable a b →
    gte.holds defaults a b = !lt.holds defaults a b ∧
      lte.holds defaults a b = !gt.holds defaults a b
  of_not_comparable : ¬ Comparable a b →
    gt.holds defaults a b = false ∧ lt.holds defaults a b = false ∧
      gte.holds defaults a b = false ∧ lte.holds defaults a b = false
  ne_eq_not : ne.holds defaults a b = !eq.holds defaults a b
  eq_swap : eq.holds defaults a b = eq.holds defaults b a
  of_eq : Comparable a b → eq.holds defaults a b = true →
    gte.holds defaults a b = true ∧ lte.holds defaults a b = true
  eq_iff : isNumberOrText a = true → isNumberOrText b = true →
    (eq.holds defaults a b = true ↔
      gte.holds defaults a b = true ∧ lte.holds defaults a b = true)

theorem answers_comparing (defaults : FormatDefaults) (a b : Value) :
    ∀ h ∈ comparing, h.call defaults [a, b] = .ok (.bool (h.holds defaults a b)) := by
  intro h hmem
  have hcases : h = eq ∨ h = ne ∨ h = gt ∨ h = gte ∨ h = lt ∨ h = lte := by
    simpa [comparing] using hmem
  rcases hcases with rfl | rfl | rfl | rfl | rfl | rfl <;> rfl

section

variable (defaults : FormatDefaults) (a b : Value)

theorem holds_gt : gt.holds defaults a b = (ordering? a b).any (· == .gt) := rfl

theorem holds_gte : gte.holds defaults a b = (ordering? a b).any (· != .lt) := rfl

theorem holds_lt : lt.holds defaults a b = (ordering? a b).any (· == .lt) := rfl

theorem holds_lte : lte.holds defaults a b = (ordering? a b).any (· != .gt) := rfl

theorem holds_eq : eq.holds defaults a b = looseEq a b := rfl

theorem holds_ne : ne.holds defaults a b = !looseEq a b := rfl

end

/-- **The comparing helpers agree with each other.** -/
theorem comparing_consistent (defaults : FormatDefaults) (a b : Value) :
    Consistent defaults a b where
  answers := answers_comparing defaults a b
  gt_swap := by
    rw [holds_gt, holds_lt, ordering?_swap a b]
    cases ordering? a b with
    | none => rfl
    | some o => cases o <;> rfl
  gte_swap := by
    rw [holds_gte, holds_lte, ordering?_swap a b]
    cases ordering? a b with
    | none => rfl
    | some o => cases o <;> rfl
  not_gt_and_lt := by
    rw [holds_gt, holds_lt]
    cases ordering? a b with
    | none => decide
    | some o => cases o <;> decide
  of_comparable hcomparable := by
    obtain ⟨o, ho⟩ := Option.isSome_iff_exists.1 (isSome_ordering?_iff.2 hcomparable)
    rw [holds_gt, holds_gte, holds_lt, holds_lte, ho]
    cases o <;> decide
  of_not_comparable hnot := by
    have hnone : ordering? a b = none :=
      Option.not_isSome_iff_eq_none.1 fun hsome => hnot (isSome_ordering?_iff.1 hsome)
    rw [holds_gt, holds_gte, holds_lt, holds_lte, hnone]
    decide
  ne_eq_not := by rw [holds_ne, holds_eq]
  eq_swap := by rw [holds_eq, holds_eq, looseEq_comm]
  of_eq hcomparable h := by
    rw [holds_eq] at h
    rw [holds_gte, holds_lte, ordering?_of_looseEq hcomparable h]
    decide
  eq_iff ha hb := by
    rw [holds_eq, looseEq_iff_ordering? ha hb, holds_gte, holds_lte]
    cases ordering? a b with
    | none => decide
    | some o => cases o <;> decide

/-- A text that reads as a number is compared with a number as that number and with a text as a text;
one that does not cannot be compared with a number. -/
example :
    let ten : Value := .text "10"
    (gt.holds {} ten (.number 9) = true ∧ eq.holds {} ten (.number 10) = true) ∧
      lt.holds {} ten (.text "9") = true ∧
      gt.holds {} (.text "ten") (.number 9) = false ∧
        lte.holds {} (.text "ten") (.number 9) = false := by
  decide +kernel

end Builtin

end TieredReport
