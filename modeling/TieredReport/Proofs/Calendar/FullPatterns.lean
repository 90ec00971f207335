/-
# Which dates a full pattern tells apart

A full pattern has a token for the year, one for the month and one for the day, in any order
and with marks between each two (`FullPattern`). No mark stands in the text of a field, the
sign of a year aside, so a formatted date can be cut into its fields again (`Solid.cut`): two
dates have the same text if and only if they have the same text in each field
(`Fielded.formatDate_eq_iff`). Years and days are told by their numbers, and so are months
written as numbers. The names of the months differ in every known locale, and so do their first
three characters, but for June and July in French, which are both abbreviated to `jui`
(`monthName_eq_iff`, `abbreviation_eq_iff`).

Key definitions: `Token`, `IsGap`, `Fielded`, `FullPattern`, `TellsApart`, `Solid`,
`JuneAndJuly`.
Key theorems: `formatDate_cons`, `Solid.cut`, `solid_text`, `Fielded.formatDate_eq_iff`,
`abbreviation_eq_iff`, `tellsApart_iff`.
-/
import TieredReport.Proofs.Calendar.Patterns
import TieredReport.Proofs.Number.Numerals

namespace TieredReport.Calendar

open Number

/-! ### Full patterns -/

/-- A token of a pattern, and the part of a date that it stands for. -/
structure Token where
  letters : List Char
  part : Part
  deriving DecidableEq

namespace Token

/-- The token for the year. -/
def year : Token := ⟨"YYYY".toList, .year⟩

/-- The token for the first three characters of the month's name. -/
def monthAbbreviation : Token := ⟨"MMM".toList, .monthAbbreviation⟩

/-- The tokens for the month. -/
def months : List Token :=
  [⟨"MMMM".toList, .monthName⟩, monthAbbreviation, ⟨"MM".toList, .paddedMonth⟩,
    ⟨"M".toList, .month⟩]

/-- The token for the day without padding. -/
def day : Token := ⟨"D".toList, .day⟩

/-- The tokens for the day. -/
def days : List Token := [⟨"DD".toList, .paddedDay⟩, day]

/-- The tokens of full patterns. -/
def all : List Token := year :: (months ++ days)

end Token

/-- The characters that may stand between two fields. -/
def fieldMarks : List Char := [' ', '-', '/', '.', ',']

/-- A text of one or more marks. -/
structure IsGap (s : List Char) : Prop where
  ne_nil : s ≠ []
  marks : ∀ c ∈ s, c ∈ fieldMarks

/-- A pattern of these tokens, in this order, with marks between each two. -/
inductive Fielded : List Token → List Char → Prop where
  | one (t : Token) : Fielded [t] t.letters
  | cons (t : Token) {gap p : List Char} {ts : List Token} (hgap : IsGap gap)
      (hrest : Fielded ts p) : Fielded (t :: ts) (t.letters ++ (gap ++ p))

/-- A pattern of the year, the month by the token `month`, and the day, in any order. -/
structure FullPattern (month : Token) (p : List Char) : Prop where
  month_mem : month ∈ Token.months
  fielded : ∃ day ∈ Token.days, ∃ ts : List Token,
    ts.Perm [Token.year, month, day] ∧ Fielded ts p

/-- The day, the month and the year, in this order. -/
theorem FullPattern.dayFirst {month day : Token} {gap gap' : List Char}
    (hmonth : month ∈ Token.months) (hday : day ∈ Token.days) (hgap : IsGap gap)
    (hgap' : IsGap gap') : FullPattern month
      (day.letters ++ (gap ++ (month.letters ++ (gap' ++ Token.year.letters)))) where
  month_mem := hmonth
  fielded := ⟨day, hday, [day, month, Token.year], List.reverse_perm [Token.year, month, day],
    .cons day hgap (.cons month hgap' (.one Token.year))⟩

/-- No two dates of the years 0 to 9999 have the same text. -/
def TellsApart (locale : Locale) (p : List Char) : Prop :=
  ∀ d d' : Date, (0 ≤ d.year ∧ d.year ≤ 9999) → (0 ≤ d'.year ∧ d'.year ≤ 9999) → d ≠ d' →
    formatDate d p locale ≠ formatDate d' p locale

variable {d d' : Date} {locale : Locale} {p gap : List Char} {t month : Token}

/-! ### Fields and the gaps between them -/

theorem fieldMarks_plain : ∀ c ∈ fieldMarks, c ≠ '[' ∧ c ∉ tokenLetters := by
  simp [fieldMarks, tokenLetters]

theorem letters_plain : ∀ t ∈ Token.all, '[' ∉ t.letters := by decide

theorem formatDate_token (ht : t ∈ Token.all) :
    formatDate d t.letters locale = t.part.text locale d := by
  have hparts : ∀ t ∈ Token.all, parts t.letters = [t.part] := by
    simp [Token.all, Token.months, Token.days, Token.year, Token.monthAbbreviation, Token.day,
      parts, nextPart]
  rw [formatDate, hparts t ht, List.flatMap_singleton]

/-- Marks are copied. -/
theorem formatDate_marks (h : ∀ c ∈ gap, c ∈ fieldMarks) : formatDate d gap locale = gap := by
  induction gap with
  | nil => rw [formatDate, parts, List.flatMap_nil]
  | cons c gap ih =>
    rw [List.forall_mem_cons] at h
    obtain ⟨hbracket, hletter⟩ := fieldMarks_plain c h.1
    have hrest := ih h.2
    rw [formatDate] at hrest
    rw [formatDate, parts, nextPart_other hbracket hletter, List.flatMap_cons, hrest]
    rfl

theorem IsGap.not_mem (hgap : IsGap gap) : '[' ∉ gap := fun hmem =>
  (fieldMarks_plain _ (hgap.marks _ hmem)).1 rfl

theorem IsGap.apart_before (hgap : IsGap gap) (ht : t ∈ Token.all) (p : List Char) :
    Apart t.letters (gap ++ p) where
  letters := by
    obtain ⟨mark, rest, rfl⟩ := List.exists_cons_of_ne_nil hgap.ne_nil
    rintro c hc ⟨-, hhead⟩
    obtain rfl : mark = c := Option.some.inj hhead
    exact (fieldMarks_plain mark (hgap.marks mark List.mem_cons_self)).2 hc
  brackets := .inr (.of_not_mem (letters_plain t ht))

theorem IsGap.apart_behind (hgap : IsGap gap) (p : List Char) : Apart gap p where
  letters := by
    rintro c hc ⟨hlast, -⟩
    exact (fieldMarks_plain c (hgap.marks c (List.mem_of_getLast? hlast))).2 hc
  brackets := .inr (.of_not_mem hgap.not_mem)

/-- A token with marks behind it is formatted on its own, and the marks are copied. -/
theorem formatDate_cons (ht : t ∈ Token.all) (hgap : IsGap gap) :
    formatDate d (t.letters ++ (gap ++ p)) locale =
      t.part.text locale d ++ (gap ++ formatDate d p locale) := by
  rw [formatDate_append (hgap.apart_before ht p), formatDate_append (hgap.apart_behind p),
    formatDate_token ht, formatDate_marks hgap.marks]

/-! ### Cutting a text into its fields -/

/-- No mark stands behind the first character, which may be the sign of a year. -/
structure Solid (s : List Char) : Prop where
  ne_nil : s ≠ []
  tail : ∀ c ∈ s.tail, c ∉ fieldMarks

/-- **Where marks follow, a text ends at the first of them.** -/
theorem Solid.cut {a b r r' : List Char} (ha : Solid a) (hb : Solid b) (hgap : IsGap gap)
    (h : a ++ (gap ++ r) = b ++ (gap ++ r')) : a = b ∧ r = r' := by
  obtain ⟨c, a, rfl⟩ := List.exists_cons_of_ne_nil ha.ne_nil
  obtain ⟨c', b, rfl⟩ := List.exists_cons_of_ne_nil hb.ne_nil
  obtain ⟨mark, rest, rfl⟩ := List.exists_cons_of_ne_nil hgap.ne_nil
  have hmark : mark ∈ fieldMarks := hgap.marks mark List.mem_cons_self
  have hafter : mark ∉ a := fun hmem => ha.tail mark hmem hmark
  have hafter' : mark ∉ b := fun hmem => hb.tail mark hmem hmark
  obtain ⟨rfl, htails⟩ := List.cons.inj h
  have hcut := congrArg (Text.cut? mark) htails
  simp only [List.append_eq, List.cons_append] at hcut
  rw [Text.cut?_append hafter, Text.cut?_append hafter'] at hcut
  obtain ⟨rfl, hrest⟩ := Prod.mk.inj (Option.some.inj hcut)
  exact ⟨rfl, List.append_cancel_left hrest⟩

theorem Solid.of_not_marks {s : List Char} (hne : s ≠ []) (h : ∀ c ∈ s, c ∉ fieldMarks) :
    Solid s :=
  ⟨hne, fun c hc => h c (List.mem_of_mem_tail hc)⟩

/-- Every mark comes before the digits and the letters. -/
theorem not_mark_of_lt {c : Char} (h : '/'.toNat < c.toNat) : c ∉ fieldMarks := by
  have hmarks : ∀ mark ∈ fieldMarks, mark.toNat ≤ '/'.toNat := by simp [fieldMarks]
  exact fun hc => absurd h (Nat.not_lt.2 (hmarks c hc))

theorem not_mark_of_isDigit {c : Char} (h : c.isDigit = true) : c ∉ fieldMarks := by
  have hzero : '0'.toNat ≤ c.toNat := by
    simpa [Char.isDigit, UInt32.le_iff_toNat_le] using (Bool.and_eq_true_iff.1 h).1
  have hslash : '/'.toNat < '0'.toNat := by decide
  exact not_mark_of_lt (Nat.lt_of_lt_of_le hslash hzero)

theorem solid_digits (n : Nat) : Solid (digits n) :=
  .of_not_marks (digits_ne_nil n) fun c hc => not_mark_of_isDigit (digits_all_isDigit n c hc)

theorem solid_padLeft (width n : Nat) : Solid (padLeft width (digits n)) :=
  .of_not_marks (padLeft_digits_ne_nil width n) fun c hc =>
    not_mark_of_isDigit (padLeft_digits_all_isDigit width n c hc)

theorem solid_yearText : ∀ year : Int, Solid (yearText year)
  | .ofNat n => solid_padLeft 4 n
  | .negSucc n =>
    ⟨List.cons_ne_nil _ _, fun c hc =>
      not_mark_of_isDigit (padLeft_digits_all_isDigit 3 (n + 1) c hc)⟩

/-- The months, counted from one. -/
def monthNumbers : List Nat := List.range' 1 12

theorem Date.month_mem (d : Date) : d.month ∈ monthNumbers :=
  List.mem_range'_1.2 ⟨d.month_ge, Nat.lt_succ_of_le d.month_le⟩

/-- The names of the months of each known locale, gone through once: none is empty, every
character in them comes after the last of the marks, and the first three characters are those of a
later month for June in French only. -/
theorem monthName_table : ∀ locale ∈ Locale.all, ∀ m ∈ monthNumbers,
    (monthName locale m ≠ [] ∧ (monthName locale m).all ('/'.toNat < ·.toNat) = true) ∧
      ∀ m' ∈ monthNumbers, m < m' →
        ((monthName locale m).take 3 = (monthName locale m').take 3 ↔
          locale.tag = "fr-FR" ∧ m = 6 ∧ m' = 7) := by
  decide +kernel

/-- Every month of a known locale has a name, and no mark stands in it. -/
theorem monthName_plain (hlocale : locale ∈ Locale.all) (d : Date) :
    monthName locale d.month ≠ [] ∧ ∀ c ∈ monthName locale d.month, c ∉ fieldMarks := by
  obtain ⟨hne, hall⟩ := (monthName_table locale hlocale d.month d.month_mem).1
  refine ⟨hne, fun c hc => not_mark_of_lt ?_⟩
  exact of_decide_eq_true (List.all_eq_true.1 hall c hc)

/-- No text of a field has a mark behind its first character. -/
theorem solid_text (hlocale : locale ∈ Locale.all) (ht : t ∈ Token.all) :
    Solid (t.part.text locale d) := by
  obtain ⟨hname, hmarks⟩ := monthName_plain hlocale d
  have hparts : ∀ t ∈ Token.all, t.part ∈ [.year, .monthName, .monthAbbreviation, .paddedMonth,
      .month, .paddedDay, .day] := by decide
  cases hpart : t.part with
  | copy s => simpa [hpart] using hparts t ht
  | yearOfCentury => simpa [hpart] using hparts t ht
  | year => exact solid_yearText d.year
  | monthName => exact .of_not_marks hname hmarks
  | monthAbbreviation =>
    refine .of_not_marks (fun hnil => ?_) fun c hc => hmarks c (List.mem_of_mem_take hc)
    rcases List.take_eq_nil_iff.1 hnil with h | h
    · cases h
    · exact hname h
  | paddedMonth => exact solid_padLeft 2 d.month
  | month => exact solid_digits d.month
  | paddedDay => exact solid_padLeft 2 d.day
  | day => exact solid_digits d.day

/-- **Two dates have the same text if each of its fields has.** -/
theorem Fielded.formatDate_eq_iff {ts : List Token} (hlocale : locale ∈ Locale.all)
    (hp : Fielded ts p) (hts : ∀ t ∈ ts, t ∈ Token.all) :
    formatDate d p locale = formatDate d' p locale ↔
      ∀ t ∈ ts, t.part.text locale d = t.part.text locale d' := by
  induction hp with
  | one t =>
    rw [formatDate_token (hts t List.mem_cons_self), formatDate_token (hts t List.mem_cons_self)]
    simp only [List.mem_singleton, forall_eq]
  | cons t hgap _ ih =>
    rw [List.forall_mem_cons] at hts
    rw [formatDate_cons hts.1 hgap, formatDate_cons hts.1 hgap, List.forall_mem_cons]
    constructor
    · intro h
      -- the gap is the same in both texts, so its first mark ends the field in both
      obtain ⟨hfield, hrest⟩ :=
        (solid_text hlocale hts.1).cut (solid_text hlocale hts.1) hgap h
      exact ⟨hfield, (ih hts.2).1 hrest⟩
    · rintro ⟨hfield, hrest⟩
      rw [hfield, (ih hts.2).2 hrest]

/-! ### Telling each field from its text -/

theorem yearText_inj {year year' : Int} : yearText year = yearText year' ↔ year = year' := by
  refine ⟨fun h => ?_, congrArg yearText⟩
  -- a sign stands before the digits of a year before 0, and is none itself
  have hsign : ∀ m n : Nat, padLeft 4 (digits m) ≠ '-' :: padLeft 3 (digits n) := by
    intro m n heq
    have hminus : '-' ∈ padLeft 4 (digits m) := heq ▸ List.mem_cons_self
    have hdigit := padLeft_digits_all_isDigit 4 m '-' hminus
    cases hdigit
  cases year with
  | ofNat m =>
    cases year' with
    | ofNat n => exact congrArg Int.ofNat (padLeft_digits_inj.1 h)
    | negSucc n => exact absurd h (hsign m (n + 1))
  | negSucc m =>
    cases year' with
    | ofNat n => exact absurd h.symm (hsign n (m + 1))
    | negSucc n =>
      have hsucc : m + 1 = n + 1 := padLeft_digits_inj.1 (List.cons.inj h).2
      rw [Nat.succ.inj hsucc]

theorem day_text_eq_iff (ht : t ∈ Token.days) :
    t.part.text locale d = t.part.text locale d' ↔ d.day = d'.day := by
  rw [Token.days, List.mem_cons, List.mem_singleton] at ht
  rcases ht with rfl | rfl
  · exact padLeft_digits_inj
  · exact digits_inj

/-- One month is June and the other July. -/
def JuneAndJuly (m m' : Nat) : Prop := m = 6 ∧ m' = 7 ∨ m = 7 ∧ m' = 6

/-- **Only June and July in French begin with the same three characters.** -/
theorem abbreviation_eq_iff (hlocale : locale ∈ Locale.all) (d d' : Date) :
    (monthName locale d.month).take 3 = (monthName locale d'.month).take 3 ↔
      d.month = d'.month ∨ locale.tag = "fr-FR" ∧ JuneAndJuly d.month d'.month := by
  -- the table has each pair of months once, the earlier one first
  unfold JuneAndJuly
  rcases Nat.lt_trichotomy d.month d'.month with hlt | heq | hgt
  · rw [(monthName_table locale hlocale _ d.month_mem).2 _ d'.month_mem hlt]
    constructor
    · rintro ⟨hfrench, hmonths⟩
      exact .inr ⟨hfrench, .inl hmonths⟩
    · rintro (heq | ⟨hfrench, hmonths | hmonths⟩)
      · omega
      · exact ⟨hfrench, hmonths⟩
      · omega
  · rw [heq]
    exact iff_of_true rfl (.inl rfl)
  · rw [eq_comm, (monthName_table locale hlocale _ d'.month_mem).2 _ d.month_mem hgt]
    constructor
    · rintro ⟨hfrench, hmonths⟩
      exact .inr ⟨hfrench, .inr hmonths.symm⟩
    · rintro (heq | ⟨hfrench, hmonths | hmonths⟩)
      · omega
      · omega
      · exact ⟨hfrench, hmonths.symm⟩

/-- No two months of a locale have the same name. -/
theorem monthName_eq_iff (hlocale : locale ∈ Locale.all) (d d' : Date) :
    monthName locale d.month = monthName locale d'.month ↔ d.month = d'.month := by
  have hdiffer : ∀ locale ∈ Locale.all, monthName locale 6 ≠ monthName locale 7 := by
    simp [Locale.all, monthName, Locale.enUS, Locale.enGB, Locale.deDE, Locale.frFR, Locale.esES,
      Locale.jaJP, Locale.englishMonths]
  refine ⟨fun h => ?_, fun h => by rw [h]⟩
  have habbreviated := congrArg (List.take 3) h
  rcases (abbreviation_eq_iff hlocale d d').1 habbreviated with hmonth | ⟨-, hjune | hjuly⟩
  · exact hmonth
  · rw [hjune.1, hjune.2] at h
    exact absurd h (hdiffer locale hlocale)
  · rw [hjuly.1, hjuly.2] at h
    exact absurd h.symm (hdiffer locale hlocale)

theorem month_text_eq_iff (hlocale : locale ∈ Locale.all) (ht : t ∈ Token.months) :
    t.part.text locale d = t.part.text locale d' ↔
      d.month = d'.month ∨
        (locale.tag = "fr-FR" ∧ t = .monthAbbreviation) ∧ JuneAndJuly d.month d'.month := by
  by_cases habbreviated : t = .monthAbbreviation
  · subst habbreviated
    rw [and_iff_left rfl]
    exact abbreviation_eq_iff hlocale d d'
  · have hnoClash : ¬ ((locale.tag = "fr-FR" ∧ t = .monthAbbreviation) ∧
        JuneAndJuly d.month d'.month) := fun hclash => habbreviated hclash.1.2
    rw [or_iff_left hnoClash]
    simp only [Token.months, List.mem_cons, List.not_mem_nil, or_false] at ht
    rcases ht with rfl | rfl | rfl | rfl
    · exact monthName_eq_iff hlocale d d'
    · exact absurd rfl habbreviated
    · exact padLeft_digits_inj
    · exact digits_inj

/-! ### Telling the date -/

/-- A day of June. -/
def Date.fifthOfJune : Date :=
  ⟨2024, 6, 5, by decide, by decide, by decide, by decide, by decide, by decide⟩

/-- The same day of July. -/
def Date.fifthOfJuly : Date :=
  ⟨2024, 7, 5, by decide, by decide, by decide, by decide, by decide, by decide⟩

theorem Date.eq_of_fields (hyear : d.year = d'.year) (hmonth : d.month = d'.month)
    (hday : d.day = d'.day) : d = d' := by
  have hself : Date.of? d.year d.month d.day = Date.of? d'.year d'.month d'.day := by
    rw [hyear, hmonth, hday]
  exact Option.some.inj (d.of?_self.symm.trans (hself.trans d'.of?_self))

/-- Two dates have the same text in a full pattern if year, month and day have. -/
theorem FullPattern.formatDate_eq_iff (hlocale : locale ∈ Locale.all) (hp : FullPattern month p) :
    formatDate d p locale = formatDate d' p locale ↔
      d.year = d'.year ∧
        month.part.text locale d = month.part.text locale d' ∧ d.day = d'.day := by
  obtain ⟨hmonth, day, hday, ts, hperm, hfielded⟩ := hp
  have hts : ∀ t ∈ ts, t ∈ Token.all := by
    intro t ht
    have hmem : t = Token.year ∨ t = month ∨ t = day := by simpa using hperm.mem_iff.1 ht
    rcases hmem with rfl | rfl | rfl
    · exact List.mem_cons_self
    · exact List.mem_cons_of_mem _ (List.mem_append_left _ hmonth)
    · exact List.mem_cons_of_mem _ (List.mem_append_right _ hday)
  have hyear : Token.year.part.text locale d = Token.year.part.text locale d' ↔
      d.year = d'.year := yearText_inj
  rw [hfielded.formatDate_eq_iff hlocale hts]
  simp only [hperm.mem_iff, List.forall_mem_cons, List.not_mem_nil, false_implies, implies_true,
    and_true]
  rw [hyear, day_text_eq_iff hday]

/-- **A full pattern tells dates apart, unless it abbreviates the month in French.** There two
dates, whatever their years, have the same text if they are the same day of June and of July of
one year, and no others have. -/
theorem tellsApart_iff (hlocale : locale ∈ Locale.all) (hp : FullPattern month p) :
    (TellsApart locale p ↔ ¬ (locale.tag = "fr-FR" ∧ month = .monthAbbreviation)) ∧
      ∀ d d' : Date, formatDate d p locale = formatDate d' p locale ↔
        d = d' ∨ (locale.tag = "fr-FR" ∧ month = .monthAbbreviation) ∧
          d.year = d'.year ∧ JuneAndJuly d.month d'.month ∧ d.day = d'.day := by
  have heq : ∀ d d' : Date, formatDate d p locale = formatDate d' p locale ↔
      d = d' ∨ (locale.tag = "fr-FR" ∧ month = .monthAbbreviation) ∧
        d.year = d'.year ∧ JuneAndJuly d.month d'.month ∧ d.day = d'.day := by
    intro d d'
    rw [hp.formatDate_eq_iff hlocale, month_text_eq_iff hlocale hp.month_mem]
    constructor
    · rintro ⟨hyear, hmonth | ⟨hfrench, hmonths⟩, hday⟩
      · exact .inl (Date.eq_of_fields hyear hmonth hday)
      · exact .inr ⟨hfrench, hyear, hmonths, hday⟩
    · rintro (rfl | ⟨hfrench, hyear, hmonths, hday⟩)
      · exact ⟨rfl, .inl rfl, rfl⟩
      · exact ⟨hyear, .inr ⟨hfrench, hmonths⟩, hday⟩
  refine ⟨⟨fun hapart hfrench => ?_, fun hfrench d d' _ _ hne htext => ?_⟩, heq⟩
  · have htext : formatDate .fifthOfJune p locale = formatDate .fifthOfJuly p locale :=
      (heq _ _).2 (.inr ⟨hfrench, rfl, .inl ⟨rfl, rfl⟩, rfl⟩)
    exact hapart .fifthOfJune .fifthOfJuly (by decide) (by decide) (by decide) htext
  · rcases (heq d d').1 htext with rfl | ⟨hclash, -⟩
    · exact hne rfl
    · exact hfrench hclash

/-- German months are told from their abbreviations. -/
theorem tellsApart_iff_german :
    (Locale.deDE ∈ Locale.all ∧ FullPattern .monthAbbreviation "D. MMM YYYY".toList) ∧
      TellsApart .deDE "D. MMM YYYY".toList := by
  have hlocale : Locale.deDE ∈ Locale.all := by simp [Locale.all]
  have hdot : IsGap ". ".toList := ⟨by decide, by simp [fieldMarks]⟩
  have hspace : IsGap " ".toList := ⟨by decide, by simp [fieldMarks]⟩
  have hp : FullPattern .monthAbbreviation "D. MMM YYYY".toList :=
    .dayFirst (by decide) (by decide : Token.day ∈ Token.days) hdot hspace
  exact ⟨⟨hlocale, hp⟩, (tellsApart_iff hlocale hp).1.2 (by decide)⟩

/-- In French the fifth of June and the fifth of July are both `5 jui 2024`. -/
theorem not_tellsApart_french :
    (Locale.frFR ∈ Locale.all ∧ FullPattern .monthAbbreviation "D MMM YYYY".toList) ∧
      formatDate .fifthOfJune "D MMM YYYY".toList .frFR = "5 jui 2024".toList ∧
      formatDate .fifthOfJuly "D MMM YYYY".toList .frFR = "5 jui 2024".toList ∧
      ¬ TellsApart .frFR "D MMM YYYY".toList := by
  have hlocale : Locale.frFR ∈ Locale.all := by simp [Locale.all]
  have hspace : IsGap " ".toList := ⟨by decide, by simp [fieldMarks]⟩
  have hp : FullPattern .monthAbbreviation "D MMM YYYY".toList :=
    .dayFirst (by decide) (by decide : Token.day ∈ Token.days) hspace hspace
  obtain ⟨hjune, hjuly⟩ :
      formatDate .fifthOfJune "D MMM YYYY".toList .frFR = "5 jui 2024".toList ∧
        formatDate .fifthOfJuly "D MMM YYYY".toList .frFR = "5 jui 2024".toList := by
    decide +kernel
  refine ⟨⟨hlocale, hp⟩, hjune, hjuly, fun hapart => ?_⟩
  exact hapart .fifthOfJune .fifthOfJuly (by decide) (by decide) (by decide)
    (hjune.trans hjuly.symm)

end TieredReport.Calendar
