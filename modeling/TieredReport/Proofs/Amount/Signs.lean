/-
# The sign of an amount

The sign of an amount is not read off the number alone but also off the text of its
magnitude: a negative number has a minus sign where that text shows a digit other than
zero. That text is the same for a number and its negation, and a product with a hundred
has the sign of its other factor, so the three ways to write an amount behave alike
(`Style`): the sign is there unless every digit shown is zero, and then the texts of the
amount and of its negation are equal.

One text has no digit to read, that of an infinite magnitude. Its sign is lost, for an
infinite number and for a percentage that overflows, and this is the only loss
(`keepsSign_iff`): a negative and a positive amount look alike where both are shown as
zero, and where both are infinite.

Key definitions: `Style`, `Style.text`, `AllZero`, `Style.KeepsSign`.
Key theorems: `Number.fixedParts_zero`, `showsNonzero_eq_false_iff`, `Style.text_eq`,
`Style.text_eq_cons`, `Style.text_eq_text_iff`, `keepsSign_iff`.
-/
import TieredReport.Amount
import TieredReport.Proofs.Number.Negation

namespace TieredReport

/-! ### Digits with a fixed count of places -/

namespace Number

theorem digits_ten_pow : ∀ places, digits (Nat.pow 10 places) = '1' :: List.replicate places '0'
  | 0 => by rw [digits]; rfl
  | places + 1 => by
    have hpow : Nat.pow 10 (places + 1) = 10 * Nat.pow 10 places := Nat.pow_succ'
    have hpos : 0 < Nat.pow 10 places := Nat.pow_pos (by decide)
    have hdiv : 10 * Nat.pow 10 places / 10 = Nat.pow 10 places := by omega
    have hmod : 10 * Nat.pow 10 places % 10 = 0 := by omega
    rw [hpow, digits, if_neg (by omega), hdiv, hmod, digits_ten_pow places, List.replicate_succ',
      List.cons_append]
    rfl

theorem fixedUnits_zero (places : Nat) (q : Int) : fixedUnits places 0 q = 0 := by
  cases q with
  | ofNat k => simp [fixedUnits]
  | negSucc k => simp [fixedUnits, roundHalfEven]

/-- Zero is written with zeros. -/
theorem fixedParts_zero (places : Nat) (q : Int) :
    fixedParts places (.finite 0 q) = (['0'], List.replicate places '0') := by
  have hzero : digits 0 = ['0'] := by rw [digits]; rfl
  rw [fixedParts]
  by_cases hplaces : places = 0
  · rw [if_pos hplaces, fixedUnits_zero, hzero, hplaces, List.replicate_zero]
  · rw [if_neg hplaces, fixedUnits_zero, placeUnits, Nat.zero_div, Nat.zero_mod, hzero,
      Nat.add_zero, digits_ten_pow, List.drop_one, List.tail_cons]

theorem fixedParts_whole_ne_nil (places m : Nat) (q : Int) :
    (fixedParts places (.finite m q)).1 ≠ [] := by
  rw [fixedParts]
  split
  · exact digits_ne_nil _
  · exact digits_ne_nil _

/-- A finite number is written with digits alone. -/
theorem isDigit_of_mem_fixedParts {places m : Nat} {q : Int} {c : Char}
    (hc : c ∈ (fixedParts places (.finite m q)).1 ∨ c ∈ (fixedParts places (.finite m q)).2) :
    c.isDigit = true := by
  rw [fixedParts] at hc
  split at hc
  · rcases hc with hc | hc
    · exact digits_all_isDigit _ c hc
    · cases hc
  · rcases hc with hc | hc
    · exact digits_all_isDigit _ c hc
    · exact digits_all_isDigit _ c (List.mem_of_mem_drop hc)

theorem minus_not_mem_fixedParts (places : Nat) (v : Magnitude) :
    '-' ∉ (fixedParts places v).1 ∧ '-' ∉ (fixedParts places v).2 := by
  cases v with
  | notANumber =>
    show '-' ∉ "NaN".toList ∧ '-' ∉ []
    decide
  | infinite =>
    show '-' ∉ "inf".toList ∧ '-' ∉ []
    decide
  | finite m q =>
    constructor
    · intro hc
      exact absurd (isDigit_of_mem_fixedParts (.inl hc)) (by decide)
    · intro hc
      exact absurd (isDigit_of_mem_fixedParts (.inr hc)) (by decide)

end Number

namespace Amount

open Float.Model.UnpackedFloat (Sign)

variable {locale : Locale} {places : Nat} {x y : Float} {c : Char}

/-! ### The text of a magnitude -/

theorem mem_grouped {separator : Char} : ∀ {s : List Char},
    c ∈ grouped separator s → c ∈ s ∨ c = separator
  | [], h => .inl h
  | d :: s, h => by
    rw [grouped] at h
    rcases eq_or_ne c d with rfl | hcd
    · exact .inl List.mem_cons_self
    have hrest : c = separator ∨ c ∈ grouped separator s := by
      split at h
      · simpa [hcd] using h
      · exact .inr (by simpa [hcd] using h)
    rcases hrest with hc | hc
    · exact .inr hc
    · exact (mem_grouped hc).imp_left (List.mem_cons_of_mem d)

theorem mem_grouped_of_mem {separator : Char} : ∀ {s : List Char},
    c ∈ s → c ∈ grouped separator s
  | d :: s, h => by
    rw [grouped]
    rcases List.mem_cons.1 h with rfl | h
    · split <;> exact List.mem_cons_self
    · have hc : c ∈ grouped separator s := mem_grouped_of_mem h
      split
      · exact List.mem_cons_of_mem _ (List.mem_cons_of_mem _ hc)
      · exact List.mem_cons_of_mem _ hc

theorem mem_magnitudeText (hc : c ∈ magnitudeText locale places x) :
    (c = locale.groupSeparator ∨ c = locale.decimalSeparator) ∨
      c ∈ (Number.fixedParts (min places maxPlaces) (Number.magnitude x)).1 ∨
      c ∈ (Number.fixedParts (min places maxPlaces) (Number.magnitude x)).2 := by
  rw [magnitudeText] at hc
  generalize Number.fixedParts (min places maxPlaces) (Number.magnitude x) = parts at hc
  obtain ⟨whole, fraction⟩ := parts
  cases fraction with
  | nil => exact (mem_grouped hc).elim (fun h => .inr (.inl h)) fun h => .inl (.inl h)
  | cons d fraction =>
    rcases List.mem_append.1 hc with hc | hc
    · exact (mem_grouped hc).elim (fun h => .inr (.inl h)) fun h => .inl (.inl h)
    · exact (List.mem_cons.1 hc).elim (fun h => .inl (.inr h)) fun h => .inr (.inr h)

theorem mem_magnitudeText_of_mem
    (hc : c ∈ (Number.fixedParts (min places maxPlaces) (Number.magnitude x)).1) :
    c ∈ magnitudeText locale places x := by
  rw [magnitudeText]
  generalize Number.fixedParts (min places maxPlaces) (Number.magnitude x) = parts at hc
  obtain ⟨whole, fraction⟩ := parts
  cases fraction with
  | nil => exact mem_grouped_of_mem hc
  | cons d fraction => exact List.mem_append_left _ (mem_grouped_of_mem hc)

/-- No separator of a known locale is a digit or a minus sign. -/
theorem separators_of_mem_all : ∀ locale ∈ Locale.all,
    (locale.groupSeparator.isDigit = false ∧ locale.decimalSeparator.isDigit = false) ∧
      locale.groupSeparator ≠ '-' ∧ locale.decimalSeparator ≠ '-' := by
  decide

theorem minus_not_mem_magnitudeText (hlocale : locale ∈ Locale.all) :
    '-' ∉ magnitudeText locale places x := by
  intro hc
  obtain ⟨-, hgroup, hdecimal⟩ := separators_of_mem_all locale hlocale
  have hparts := Number.minus_not_mem_fixedParts (min places maxPlaces) (Number.magnitude x)
  rcases mem_magnitudeText hc with (h | h) | h | h
  · exact hgroup h.symm
  · exact hdecimal h.symm
  · exact hparts.1 h
  · exact hparts.2 h

/-- A text shows digits, and each of them is zero. -/
structure AllZero (text : List Char) : Prop where
  shown : ∃ c ∈ text, c.isDigit = true
  zero : ∀ c ∈ text, c.isDigit = true → c = '0'

theorem showsNonzero_eq_false {text : List Char} :
    showsNonzero text = false ↔ ∀ c ∈ text, c.isDigit = true → c = '0' := by
  simp [showsNonzero]

theorem magnitudeText_infinite (h : Number.magnitude x = .infinite) :
    magnitudeText locale places x = ['i', 'n', 'f'] := by
  simp [magnitudeText, h, Number.fixedParts, grouped]

/-- A text of zero shows zeros. -/
theorem showsNonzero_of_zero (hlocale : locale ∈ Locale.all) {q : Int}
    (h : Number.magnitude x = .finite 0 q) :
    showsNonzero (magnitudeText locale places x) = false := by
  obtain ⟨⟨hgroup, hdecimal⟩, -⟩ := separators_of_mem_all locale hlocale
  refine showsNonzero_eq_false.2 fun c hc hdigit => ?_
  have hparts := mem_magnitudeText hc
  rw [h, Number.fixedParts_zero] at hparts
  rcases hparts with (rfl | rfl) | hc | hc
  · rw [hgroup] at hdigit; cases hdigit
  · rw [hdecimal] at hdigit; cases hdigit
  · exact List.mem_singleton.1 hc
  · exact List.eq_of_mem_replicate hc

/-- A magnitude shows no digit other than zero where it is shown as zero and where it is
infinite. -/
theorem showsNonzero_eq_false_iff (h : Number.magnitude x ≠ .notANumber) :
    showsNonzero (magnitudeText locale places x) = false ↔
      AllZero (magnitudeText locale places x) ∨ Number.magnitude x = .infinite := by
  cases hv : Number.magnitude x with
  | notANumber => exact absurd hv h
  | infinite => simp [magnitudeText_infinite hv, showsNonzero]
  | finite m q =>
    obtain ⟨c, hc⟩ := List.exists_mem_of_ne_nil _
      (Number.fixedParts_whole_ne_nil (min places maxPlaces) m q)
    have hshown : ∃ c ∈ magnitudeText locale places x, c.isDigit = true :=
      ⟨c, mem_magnitudeText_of_mem (by rw [hv]; exact hc),
        Number.isDigit_of_mem_fixedParts (.inl hc)⟩
    rw [showsNonzero_eq_false]
    constructor
    · intro hzero
      exact .inl ⟨hshown, hzero⟩
    · rintro (hzero | hinfinite)
      · exact hzero.zero
      · cases hinfinite

theorem not_allZero_of_infinite (h : Number.magnitude x = .infinite) :
    ¬ AllZero (magnitudeText locale places x) := by
  rintro ⟨⟨c, hc, hdigit⟩, -⟩
  rw [magnitudeText_infinite h] at hc
  -- none of the three letters is a digit
  have hletter : c = 'i' ∨ c = 'n' ∨ c = 'f' := by simpa using hc
  rcases hletter with rfl | rfl | rfl <;> exact absurd hdigit (by decide)

/-! ### The sign of a text -/

theorem signText_of_negative (hlocale : locale ∈ Locale.all)
    (hx : Number.sign? (Number.unpacked x) = some .negative) :
    signText x (magnitudeText locale places x) =
      if showsNonzero (magnitudeText locale places x) then ['-'] else [] := by
  rw [signText]
  by_cases hshows : showsNonzero (magnitudeText locale places x) = true
  · -- what shows a digit other than zero is not a negative zero
    have hlt : x < 0 := by
      refine Number.negative_iff.2 ⟨hx, fun s hs => ?_⟩
      have hzero : Number.magnitude x = .finite 0 (-1074) := by rw [Number.magnitude_eq, hs]
      rw [showsNonzero_of_zero hlocale hzero] at hshows
      cases hshows
    simp [hshows, hlt]
  · simp [hshows]

theorem signText_of_positive (hx : Number.sign? (Number.unpacked x) = some .positive)
    (text : List Char) : signText x text = [] := by
  have hlt : ¬ x < 0 := by
    intro h
    have hneg := (Number.negative_iff.1 h).1
    rw [hx] at hneg
    cases hneg
  simp [signText, hlt]

/-! ### The three ways to write an amount -/

/-- A way to write an amount. -/
inductive Style where
  | number
  | currency (code : String)
  | percentage

namespace Style

/-- An amount in a style. -/
def text (style : Style) (locale : Locale) (places : Nat) (x : Float) : List Char :=
  match style with
  | number => Amount.number locale places x
  | currency code => Amount.currency locale code places x
  | percentage => Amount.percentage locale places x

/-- The number whose digits a style shows. -/
def shown (style : Style) (x : Float) : Float :=
  match style with
  | number => x
  | currency _ => x
  | percentage => x * 100

/-- The digits that a style shows. -/
def digits (style : Style) (locale : Locale) (places : Nat) (x : Float) : List Char :=
  magnitudeText locale places (style.shown x)

/-- What stands before the digits, the sign aside. -/
def before (style : Style) (locale : Locale) : List Char :=
  match style with
  | number => []
  | currency code =>
    if locale.symbolAfter then []
    else if 1 < (currencySymbol code).toList.length then
      (currencySymbol code).toList ++ [noBreakSpace]
    else (currencySymbol code).toList
  | percentage => []

/-- What stands behind the digits. -/
def after (style : Style) (locale : Locale) : List Char :=
  match style with
  | number => []
  | currency code =>
    if locale.symbolAfter then noBreakSpace :: (currencySymbol code).toList else []
  | percentage => if locale.percentSpace then [noBreakSpace, '%'] else ['%']

/-- An amount without its sign. -/
def unsigned (style : Style) (locale : Locale) (places : Nat) (x : Float) : List Char :=
  style.before locale ++ (style.digits locale places x ++ style.after locale)

/-- The sign of a negative amount is kept: its text is that of its negation with a minus sign
before it, or equal to it where all digits shown are zero. -/
structure KeepsSign (style : Style) (locale : Locale) (places : Nat) (x : Float) : Prop where
  zero : AllZero (style.digits locale places x) →
    style.text locale places x = style.text locale places (-x)
  nonzero : ¬ AllZero (style.digits locale places x) →
    style.text locale places x = '-' :: style.text locale places (-x)

variable {style : Style}

/-- **An amount is its sign and the rest**, in every style. -/
theorem text_eq : style.text locale places x =
    signText (style.shown x) (style.digits locale places x) ++ style.unsigned locale places x := by
  cases style with
  | number => simp [text, shown, digits, unsigned, before, after, Amount.number]
  | currency code =>
    simp only [text, shown, digits, unsigned, before, after, Amount.currency]
    split
    · simp
    · split <;> simp
  | percentage => simp [text, shown, digits, unsigned, before, after, Amount.number,
      Amount.percentage]

theorem shown_neg : style.shown (-x) = -style.shown x := by
  cases style with
  | number => rfl
  | currency code => rfl
  | percentage => exact Number.neg_mul_eq x 100

theorem sign?_shown (style : Style) {s : Sign} (hx : Number.sign? (Number.unpacked x) = some s) :
    Number.sign? (Number.unpacked (style.shown x)) = some s := by
  cases style with
  | number => exact hx
  | currency code => exact hx
  | percentage =>
    have hundred : Number.unpacked 100 =
        .finite .positive 7036874417766400 (-46) (by decide) := rfl
    have hsign : s * .positive = s := by cases s <;> rfl
    rw [shown, Number.sign?_unpacked_mul hx hundred, hsign]

theorem digits_neg : style.digits locale places (-x) = style.digits locale places x := by
  rw [digits, shown_neg, magnitudeText, Number.magnitude_neg]
  rfl

theorem unsigned_neg : style.unsigned locale places (-x) = style.unsigned locale places x := by
  rw [unsigned, digits_neg, unsigned]

theorem unsigned_inj :
    style.unsigned locale places x = style.unsigned locale places y ↔
      style.digits locale places x = style.digits locale places y := by
  rw [unsigned, unsigned, List.append_cancel_left_eq, List.append_cancel_right_eq]

theorem text_of_positive (hx : Number.sign? (Number.unpacked x) = some .positive) :
    style.text locale places x = style.unsigned locale places x := by
  rw [text_eq, signText_of_positive (style.sign?_shown hx), List.nil_append]

theorem text_neg_of_negative (hx : Number.sign? (Number.unpacked x) = some .negative) :
    style.text locale places (-x) = style.unsigned locale places x := by
  have hneg : Number.sign? (Number.unpacked (-x)) = some .positive := by
    rw [Number.unpacked_neg, Number.sign?_neg, hx]
    rfl
  rw [text_of_positive hneg, unsigned_neg]

/-- The text of a negative amount has no sign where it is shown as zero or is infinite. -/
theorem text_eq_unsigned (hlocale : locale ∈ Locale.all)
    (hx : Number.sign? (Number.unpacked x) = some .negative)
    (h : AllZero (style.digits locale places x) ∨ Number.magnitude (style.shown x) = .infinite) :
    style.text locale places x = style.unsigned locale places x := by
  have hshown := style.sign?_shown hx
  have hplain : showsNonzero (style.digits locale places x) = false :=
    (showsNonzero_eq_false_iff (Number.magnitude_ne_notANumber hshown)).2 h
  rw [text_eq, digits, signText_of_negative hlocale hshown, ← digits, hplain]
  rfl

/-- The text of any other negative amount has its sign. -/
theorem text_eq_cons (hlocale : locale ∈ Locale.all)
    (hx : Number.sign? (Number.unpacked x) = some .negative)
    (h : ¬ (AllZero (style.digits locale places x) ∨
      Number.magnitude (style.shown x) = .infinite)) :
    style.text locale places x = '-' :: style.unsigned locale places x := by
  have hshown := style.sign?_shown hx
  have hnonzero : showsNonzero (style.digits locale places x) = true := by
    refine eq_true_of_ne_false fun hplain => h ?_
    exact (showsNonzero_eq_false_iff (Number.magnitude_ne_notANumber hshown)).1 hplain
  rw [text_eq, digits, signText_of_negative hlocale hshown, ← digits, hnonzero]
  rfl

/-- A text with a sign before it shows a minus sign more than any text without. -/
theorem cons_unsigned_ne (hlocale : locale ∈ Locale.all) :
    '-' :: style.unsigned locale places x ≠ style.unsigned locale places y := by
  have hcount : ∀ z, (style.unsigned locale places z).count '-' =
      (style.before locale).count '-' + (style.after locale).count '-' := by
    intro z
    have hdigits : (style.digits locale places z).count '-' = 0 :=
      List.count_eq_zero.2 (minus_not_mem_magnitudeText hlocale)
    rw [unsigned, List.count_append, List.count_append, hdigits, Nat.zero_add]
  intro h
  have hcounts := congrArg (List.count '-') h
  rw [List.count_cons_self, hcount x, hcount y] at hcounts
  omega

end Style

/-- An infinite magnitude shows no digit that could be zero, and its sign is lost. -/
theorem Style.not_keepsSign_of_infinite {style : Style} (hlocale : locale ∈ Locale.all)
    (hx : Number.sign? (Number.unpacked x) = some .negative)
    (h : Number.magnitude (style.shown x) = .infinite) : ¬ style.KeepsSign locale places x := by
  intro hkeeps
  have hsigned := hkeeps.nonzero (not_allZero_of_infinite h)
  rw [text_neg_of_negative hx, text_eq_unsigned hlocale hx (.inr h)] at hsigned
  exact List.cons_ne_self _ _ hsigned.symm

theorem Style.keepsSign_of_not_infinite {style : Style} (hlocale : locale ∈ Locale.all)
    (hx : Number.sign? (Number.unpacked x) = some .negative)
    (h : Number.magnitude (style.shown x) ≠ .infinite) : style.KeepsSign locale places x where
  zero hzero := by rw [text_neg_of_negative hx, text_eq_unsigned hlocale hx (.inl hzero)]
  nonzero hnonzero := by
    rw [text_neg_of_negative hx, text_eq_cons hlocale hx fun hplain => hplain.elim hnonzero h]

/-- A negative and a positive amount look alike where the same digits are shown and the sign is
not. -/
theorem Style.text_eq_text_iff {style : Style} (hlocale : locale ∈ Locale.all)
    (hx : Number.sign? (Number.unpacked x) = some .negative)
    (hy : Number.sign? (Number.unpacked y) = some .positive) :
    style.text locale places x = style.text locale places y ↔
      style.digits locale places x = style.digits locale places y ∧
        (AllZero (style.digits locale places x) ∨
          Number.magnitude (style.shown x) = .infinite) := by
  rw [text_of_positive hy]
  by_cases h : AllZero (style.digits locale places x) ∨
      Number.magnitude (style.shown x) = .infinite
  · rw [text_eq_unsigned hlocale hx h, unsigned_inj, and_iff_left h]
  · rw [text_eq_cons hlocale hx h]
    exact iff_of_false (cons_unsigned_ne hlocale) fun hzero => h hzero.2

/-- **The sign of a negative amount is lost where its magnitude is infinite, and nowhere else.**
It looks like a positive amount where the same digits are shown for both and all are zero, or
where it is infinite and so is the other. -/
theorem keepsSign_iff (hlocale : locale ∈ Locale.all) (style : Style) (places : Nat) (hx : x < 0) :
    (style.KeepsSign locale places x ↔ Number.magnitude (style.shown x) ≠ .infinite) ∧
      ∀ y, 0 < y → (style.text locale places x = style.text locale places y ↔
        style.digits locale places x = style.digits locale places y ∧
          (AllZero (style.digits locale places x) ∨
            Number.magnitude (style.shown x) = .infinite)) := by
  have hnegative := (Number.negative_iff.1 hx).1
  refine ⟨⟨fun hkeeps hinfinite => ?_, fun hfinite => ?_⟩, fun y hy => ?_⟩
  · exact Style.not_keepsSign_of_infinite hlocale hnegative hinfinite hkeeps
  · exact Style.keepsSign_of_not_infinite hlocale hnegative hfinite
  · exact Style.text_eq_text_iff hlocale hnegative (Number.positive_iff.1 hy).1

/-- A negative amount in euros is written with its sign before the digits and the symbol behind
them. -/
theorem keepsSign_iff_euros :
    (Locale.deDE ∈ Locale.all ∧ (-1234.5 : Float) < 0) ∧
      (Style.currency "EUR").KeepsSign .deDE 2 (-1234.5) ∧
      (Style.currency "EUR").text .deDE 2 (-1234.5) = "-1.234,50\u00a0€".toList := by
  have hlocale : Locale.deDE ∈ Locale.all := by simp [Locale.all]
  have hlt : (-1234.5 : Float) < 0 := by decide +kernel
  refine ⟨⟨hlocale, hlt⟩, ?_, by decide +kernel⟩
  exact (keepsSign_iff hlocale (.currency "EUR") 2 hlt).1.2 (by decide +kernel)

/-- A percentage that overflows is written without its sign, like its negation, and neither is
shown as zero. -/
theorem not_keepsSign_overflow :
    (Locale.enUS ∈ Locale.all ∧ (-1e308 : Float) < 0 ∧ (0 : Float) < 1e308) ∧
      ¬ Style.percentage.KeepsSign .enUS 1 (-1e308) ∧
      Style.percentage.text .enUS 1 (-1e308) = "inf%".toList ∧
      Style.percentage.text .enUS 1 1e308 = "inf%".toList ∧
      ¬ AllZero (Style.percentage.digits .enUS 1 (-1e308)) := by
  have hlocale : Locale.enUS ∈ Locale.all := by simp [Locale.all]
  have hlt : (-1e308 : Float) < 0 := by decide +kernel
  have hinfinite : Number.magnitude (Style.percentage.shown (-1e308)) = .infinite := by
    decide +kernel
  refine ⟨⟨hlocale, hlt, by decide +kernel⟩, ?_, by decide +kernel, by decide +kernel, ?_⟩
  · exact Style.not_keepsSign_of_infinite hlocale (Number.negative_iff.1 hlt).1 hinfinite
  · exact not_allZero_of_infinite hinfinite

end Amount

end TieredReport
