/-
# Formatted dates are read back

A date in the form `YYYY-MM-DD` is a year, a padded month and a padded day. A number whose
digits are followed by no further digit is read as it was written (`number?_append`), so the
last of the three grammars reads the same fields; the first two would need a time behind the
day. Only the width of the year sets a bound: without a sign no more than four digits of it
are read, so that the date is read back up to the year 9999 and not after it.

Key definition: `isoText`.
Key theorems: `digitRun_append`, `number?_append`, `looseYear?_yearText`, `looseDate?_isoText`,
`timestamp?_isoText`, `dateOfValue?_formatDate`.
-/
import TieredReport.Calendar.Pattern
import TieredReport.Calendar.Reader
import TieredReport.Proofs.Number.Numerals
import TieredReport.Proofs.Text.Trim

namespace TieredReport.Calendar

open Number

variable {most least n : Nat} {ds after : List Char} {c : Char}

/-! ### Numbers with more text behind them -/

/-- The digits in front are read up to the first character that is no digit. -/
theorem digitRun_append (hds : ∀ c ∈ ds, c.isDigit = true)
    (hstop : ∀ c ∈ after.head?, c.isDigit = false) :
    ∀ {most : Nat}, ds.length ≤ most → digitRun most (ds ++ after) = (ds, after) := by
  induction ds with
  | nil =>
    intro most _
    cases most with
    | zero => rfl
    | succ most =>
      cases after with
      | nil => rfl
      | cons c rest => simp [digitRun, hstop c rfl]
  | cons c ds ih =>
    intro most hmost
    rw [List.forall_mem_cons] at hds
    cases most with
    | zero => simp at hmost
    | succ most =>
      have hrest : ds.length ≤ most := Nat.le_of_succ_le_succ hmost
      rw [List.cons_append, digitRun, if_pos hds.1, ih hds.2 hrest]

/-- No more digits are read than are asked for. -/
theorem digitRun_of_le (hds : ∀ c ∈ ds, c.isDigit = true) (after : List Char) :
    ∀ {most : Nat}, most ≤ ds.length →
      digitRun most (ds ++ after) = (ds.take most, ds.drop most ++ after) := by
  induction ds with
  | nil =>
    intro most hmost
    rw [Nat.le_zero.1 hmost]
    rfl
  | cons c ds ih =>
    intro most hmost
    rw [List.forall_mem_cons] at hds
    cases most with
    | zero => rfl
    | succ most =>
      rw [List.cons_append, digitRun, if_pos hds.1, ih hds.2 (Nat.le_of_succ_le_succ hmost)]
      rfl

/-- A number is read as it was written. -/
theorem number?_append (hds : ∀ c ∈ ds, c.isDigit = true) (hvalue : value? ds = some n)
    (hstop : ∀ c ∈ after.head?, c.isDigit = false) (hleast : least ≤ ds.length)
    (hmost : ds.length ≤ most) : number? least most (ds ++ after) = some (n, after) := by
  rw [number?, digitRun_append hds hstop hmost]
  simp only
  rw [if_neg (Nat.not_lt.2 hleast), hvalue]
  rfl

/-- A padded number is read as it was written. -/
theorem number?_padLeft (width n : Nat) (hstop : ∀ c ∈ after.head?, c.isDigit = false)
    (hleast : least ≤ (padLeft width (digits n)).length)
    (hmost : (padLeft width (digits n)).length ≤ most) :
    number? least most (padLeft width (digits n) ++ after) = some (n, after) :=
  number?_append (padLeft_digits_all_isDigit width n) (value?_padLeft_digits width n) hstop
    hleast hmost

/-- A number that is small enough for its width is read at that width. -/
theorem number?_width {k : Nat} (hn : n < 10 ^ (k + 1))
    (hstop : ∀ c ∈ after.head?, c.isDigit = false) (hleast : least ≤ k + 1) :
    number? least (k + 1) (padLeft (k + 1) (digits n) ++ after) = some (n, after) := by
  have hlength := length_padLeft_digits hn
  exact number?_padLeft (k + 1) n hstop (by omega) (by omega)

/-! ### Blanks -/

theorem trimStart_append (hne : ds ≠ []) (hds : ∀ c ∈ ds, c.isDigit = true) (after : List Char) :
    Text.trimStart (ds ++ after) = ds ++ after := by
  obtain ⟨c, rest, rfl⟩ := List.exists_cons_of_ne_nil hne
  exact Text.trimStart_cons_of_not_blank (Text.isBlank_of_isDigit (hds c List.mem_cons_self)) _

theorem looseNumber?_padLeft (hn : n < 10 ^ 2) (hstop : ∀ c ∈ after.head?, c.isDigit = false) :
    looseNumber? (padLeft 2 (digits n) ++ after) = some (n, after) := by
  rw [looseNumber?, trimStart_append (padLeft_digits_ne_nil 2 n) (padLeft_digits_all_isDigit 2 n)]
  exact number?_width hn hstop (by decide)

/-! ### Years -/

/-- A year without a sign in front of it is read up to its fourth digit. -/
theorem looseYear?_append (hne : ds ≠ []) (hds : ∀ c ∈ ds, c.isDigit = true)
    (after : List Char) : looseYear? (ds ++ after) =
      (number? 1 4 (ds ++ after)).map fun (n, after) => ((n : Int), after) := by
  rw [looseYear?, trimStart_append hne hds]
  obtain ⟨c, rest, rfl⟩ := List.exists_cons_of_ne_nil hne
  have hc := hds c List.mem_cons_self
  split
  · next heq =>
    obtain rfl : c = '-' := (List.cons.inj heq).1
    cases hc
  · next heq =>
    obtain rfl : c = '+' := (List.cons.inj heq).1
    cases hc
  · rfl

/-- A year that is not too late is read as it was written. -/
theorem looseYear?_yearText {year : Int} (hyear : year ≤ 9999)
    (hstop : ∀ c ∈ after.head?, c.isDigit = false) :
    looseYear? (yearText year ++ after) = some (year, after) := by
  cases year with
  | ofNat n =>
    have hn : n < 10 ^ 4 := by
      have hle : (n : Int) ≤ 9999 := hyear
      omega
    have hread : number? 1 4 (padLeft 4 (digits n) ++ after) = some (n, after) :=
      number?_width hn hstop (by decide)
    rw [yearText, looseYear?_append (padLeft_digits_ne_nil 4 n) (padLeft_digits_all_isDigit 4 n),
      hread]
    rfl
  | negSucc n =>
    let text := padLeft 3 (digits (n + 1))
    have hpos : 1 ≤ text.length := List.length_pos_iff.2 (padLeft_digits_ne_nil 3 (n + 1))
    have hmost : text.length ≤ (text ++ after).length := by
      rw [List.length_append]
      exact Nat.le_add_right _ _
    have hread : number? 1 (text ++ after).length (text ++ after) = some (n + 1, after) :=
      number?_padLeft 3 (n + 1) hstop hpos hmost
    rw [yearText, List.cons_append, looseYear?, Text.trimStart_cons_of_not_blank (by decide)]
    show (number? 1 (text ++ after).length (text ++ after)).map _ = _
    rw [hread]
    rfl

/-! ### The form `YYYY-MM-DD` -/

/-- A month and a day, each behind a hyphen. -/
def monthAndDay (d : Date) : List Char :=
  '-' :: (padLeft 2 (digits d.month) ++ '-' :: padLeft 2 (digits d.day))

theorem formatDate_iso (d : Date) (locale : Locale) :
    formatDate d "YYYY-MM-DD".toList locale = yearText d.year ++ monthAndDay d := by
  have hparts : parts "YYYY-MM-DD".toList =
      [.year, .copy ['-'], .paddedMonth, .copy ['-'], .paddedDay] := by decide +kernel
  rw [formatDate, hparts, monthAndDay]
  simp [Part.text]

/-- A hyphen ends a number. -/
theorem hyphen_stops (s : List Char) : ∀ c ∈ ('-' :: s).head?, c.isDigit = false := by
  rintro c ⟨⟩
  rfl

theorem Date.month_lt (d : Date) : d.month < 10 ^ 2 := Nat.lt_of_le_of_lt d.month_le (by decide)

theorem Date.day_lt (d : Date) : d.day < 10 ^ 2 := by
  have hday := d.day_le
  have hdays : daysIn d.year d.month ≤ 31 := by
    unfold daysIn
    split
    · split <;> decide
    all_goals decide
  omega

/-- A month and a day are read as they were written, and nothing is left. -/
theorem looseDate?_of_year {s : List Char} (d : Date)
    (h : looseYear? s = some (d.year, monthAndDay d)) : looseDate? s = some (d, []) := by
  have hmonthRead := looseNumber?_padLeft d.month_lt (hyphen_stops (padLeft 2 (digits d.day)))
  have hdayRead : looseNumber? (padLeft 2 (digits d.day) ++ []) = some (d.day, []) :=
    looseNumber?_padLeft d.day_lt (by simp)
  rw [List.append_nil] at hdayRead
  simp [looseDate?, h, monthAndDay, mark?, hmonthRead, hdayRead, Date.of?_self]

theorem paddedDate?_of_year {s : List Char} {d : Date} {n : Nat} (hn : d.year = n)
    (h : number? 4 4 s = some (n, monthAndDay d)) : paddedDate? s = some (d, []) := by
  have hmonthRead := number?_width d.month_lt (hyphen_stops (padLeft 2 (digits d.day)))
    (Nat.le_refl 2)
  have hdayRead : number? 2 2 (padLeft 2 (digits d.day) ++ []) = some (d.day, []) :=
    number?_width d.day_lt (by simp) (Nat.le_refl 2)
  rw [List.append_nil] at hdayRead
  simp [paddedDate?, h, monthAndDay, mark?, hmonthRead, hdayRead, ← hn, Date.of?_self]

/-! ### The three grammars -/

/-- The text of a date in the form `YYYY-MM-DD`. -/
def isoText (d : Date) : List Char := yearText d.year ++ monthAndDay d

/-- Where more digits stand than are read, no hyphen follows the number. -/
theorem mark?_of_number? {left : List Char} (hds : ∀ c ∈ ds, c.isDigit = true)
    (hmost : most < ds.length) (h : number? least most (ds ++ after) = some (n, left)) :
    mark? ['-'] left = none := by
  rw [number?, digitRun_of_le hds after (Nat.le_of_lt hmost)] at h
  simp only at h
  split at h
  · cases h
  · obtain ⟨_, -, heq⟩ := Option.map_eq_some_iff.1 h
    have hleft : ds.drop most ++ after = left := congrArg Prod.snd heq
    have hc : ds[most].isDigit = true := hds _ (List.getElem_mem hmost)
    have hne : ds[most] ≠ '-' := fun hhyphen => by rw [hhyphen] at hc; cases hc
    rw [← hleft, List.drop_eq_getElem_cons hmost, List.cons_append]
    simp [mark?, hne]

section

variable {d : Date}

theorem looseDate?_isoText (h : d.year ≤ 9999) : looseDate? (isoText d) = some (d, []) :=
  looseDate?_of_year d (looseYear?_yearText h (hyphen_stops _))

/-- A year of five digits is not read to its end. -/
theorem dates_of_late (h : 9999 < d.year) :
    paddedDate? (isoText d) = none ∧ looseDate? (isoText d) = none := by
  obtain ⟨n, hn⟩ := Int.eq_ofNat_of_zero_le (by omega : 0 ≤ d.year)
  have hlarge : 10 ^ 4 ≤ n := by omega
  have hlength := lt_length_digits hlarge
  have htext : isoText d = digits n ++ monthAndDay d := by
    rw [isoText, hn]
    show padLeft 4 (digits n) ++ _ = _
    rw [padLeft, Nat.sub_eq_zero_of_le (Nat.le_of_lt hlength)]
    rfl
  have hdigits := digits_all_isDigit n
  constructor
  · rw [htext, paddedDate?]
    cases hread : number? 4 4 (digits n ++ monthAndDay d) with
    | none => rfl
    | some read =>
      have hmark := mark?_of_number? hdigits hlength hread
      simp [hmark]
  · rw [htext, looseDate?, looseYear?_append (digits_ne_nil n) hdigits]
    cases hread : number? 1 4 (digits n ++ monthAndDay d) with
    | none => rfl
    | some read =>
      have hmark := mark?_of_number? hdigits hlength hread
      simp [hmark]

/-- The padded form takes a date to its end, if it takes it at all. -/
theorem left_of_paddedDate? {date : Date} {left : List Char}
    (h : paddedDate? (isoText d) = some (date, left)) : left = [] := by
  cases hyear : d.year with
  | negSucc n =>
    -- the sign is no digit
    have hnone : paddedDate? (isoText d) = none := by
      rw [isoText, hyear, yearText, List.cons_append]
      simp [paddedDate?, number?, digitRun]
    rw [hnone] at h
    cases h
  | ofNat n =>
    by_cases hlate : 9999 < d.year
    · rw [(dates_of_late hlate).1] at h
      cases h
    · rw [hyear] at hlate
      have hle : (n : Int) ≤ 9999 := Int.not_lt.1 hlate
      have hn : n < 10 ^ 4 := by omega
      have hread : number? 4 4 (isoText d) = some (n, monthAndDay d) := by
        rw [isoText, hyear]
        exact number?_width hn (hyphen_stops _) (Nat.le_refl 4)
      rw [paddedDate?_of_year hyear hread] at h
      cases h
      rfl

theorem timestamp?_isoText : timestamp? (isoText d) = none := by
  rw [timestamp?]
  cases h : paddedDate? (isoText d) with
  | none => rfl
  | some read =>
    obtain ⟨date, left⟩ := read
    rw [left_of_paddedDate? h]
    rfl

theorem localTime?_isoText : localTime? (isoText d) = none := by
  rw [localTime?]
  by_cases hyear : d.year ≤ 9999
  · rw [looseDate?_isoText hyear]
    rfl
  · rw [(dates_of_late (Int.not_le.1 hyear)).2]
    rfl

theorem plainDate?_isoText_iff : plainDate? (isoText d) = some d ↔ d.year ≤ 9999 := by
  rw [plainDate?]
  by_cases hyear : d.year ≤ 9999
  · rw [looseDate?_isoText hyear]
    exact iff_of_true rfl hyear
  · rw [(dates_of_late (Int.not_le.1 hyear)).2]
    refine iff_of_false (fun h => ?_) hyear
    cases h

theorem isBlank_of_mem_isoText : ∀ c ∈ isoText d, Text.isBlank c = false := by
  have hpadded : ∀ width n, ∀ c ∈ padLeft width (digits n), Text.isBlank c = false :=
    fun width n c hc => Text.isBlank_of_isDigit (padLeft_digits_all_isDigit width n c hc)
  have hhyphen : Text.isBlank '-' = false := by decide
  have hyear : ∀ c ∈ yearText d.year, Text.isBlank c = false := by
    cases d.year with
    | ofNat n => exact hpadded 4 n
    | negSucc n => exact List.forall_mem_cons.2 ⟨hhyphen, hpadded 3 (n + 1)⟩
  rw [isoText, monthAndDay, List.forall_mem_append, List.forall_mem_cons, List.forall_mem_append,
    List.forall_mem_cons]
  exact ⟨hyear, hhyphen, hpadded 2 d.month, hhyphen, hpadded 2 d.day⟩

theorem trim_isoText : Text.trim (isoText d) = isoText d := by
  refine Text.trim_eq_self ?_ ?_
  · cases h : (isoText d).head? with
    | none => rfl
    | some c => exact isBlank_of_mem_isoText c (List.mem_of_head? h)
  · cases h : (isoText d).getLast? with
    | none => rfl
    | some c => exact isBlank_of_mem_isoText c (List.mem_of_getLast? h)

/-- **A date in the form `YYYY-MM-DD` is read back, up to the year 9999**, whatever the locale it
is formatted in and whatever blanks stand around it. -/
theorem dateOfValue?_formatDate (d : Date) (locale : Locale) {lead trail : List Char}
    (hlead : lead.all Text.isBlank = true) (htrail : trail.all Text.isBlank = true) :
    dateOfValue? (.text (String.ofList
      (lead ++ (formatDate d "YYYY-MM-DD".toList locale ++ trail)))) = some d ↔
        d.year ≤ 9999 := by
  rw [formatDate_iso, ← isoText, dateOfValue?, dateOfText?, String.toList_ofList,
    Text.trim_append_append hlead htrail, trim_isoText]
  simp only [timestamp?_isoText, localTime?_isoText]
  exact plainDate?_isoText_iff

end

/-- A leap day before year 0 is read back; the sign counts for the width of the year. -/
theorem dateOfValue?_formatDate_leap_day : ∃ d : Date,
    (d.year = -4 ∧ d.month = 2 ∧ d.day = 29) ∧
      (" \u00a0".toList.all Text.isBlank = true ∧ "\n".toList.all Text.isBlank = true) ∧
      formatDate d "YYYY-MM-DD".toList .jaJP = "-004-02-29".toList ∧
      dateOfValue? (.text (String.ofList (" \u00a0".toList ++
        (formatDate d "YYYY-MM-DD".toList .jaJP ++ "\n".toList)))) = some d := by
  let d : Date :=
    ⟨-4, 2, 29, by decide, by decide, by decide, by decide, by decide, by decide⟩
  exact ⟨d, ⟨rfl, rfl, rfl⟩, ⟨by decide, by decide⟩, by decide +kernel,
    (dateOfValue?_formatDate d .jaJP (by decide) (by decide)).2 (by decide)⟩

end TieredReport.Calendar
