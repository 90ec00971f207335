/-
# Grouped digits

A magnitude is the plain text of a number, cut at its point, with a separator before every
third character of the integer part from its end. No separator of a known locale is a letter
or a digit, so nothing of the plain text is taken for a separator: deleting the group
separators and putting the point back gives the plain text (`plain_inLocale`), and the
pieces between the group separators are the groups (`splitOn_grouped`). Two magnitudes are
therefore written alike in a locale only where their plain texts are equal.

Key definitions: `Number.IsPlain`, `partsAt`, `plain`, `InThrees`, `Faithful`.
Key theorems: `Number.value?_fixedParts`, `splitOn_grouped`, `magnitudeText_eq`,
`plain_inLocale`, `partsAt_inLocale`, `number_faithful`.
-/
import TieredReport.Proofs.Amount.Signs
import TieredReport.Proofs.Number.Numerals

namespace TieredReport

/-! ### The parts of a plain text -/

namespace Number

/-- A fraction behind its mark; where there is no fraction there is no mark. -/
def withMark (mark : Char) : List Char → List Char
  | [] => []
  | c :: fraction => mark :: c :: fraction

theorem fixedMagnitude_eq (places : Nat) (v : Magnitude) : fixedMagnitude places v =
    (fixedParts places v).1 ++ withMark '.' (fixedParts places v).2 := by
  rw [fixedMagnitude]
  rcases fixedParts places v with ⟨whole, _ | ⟨c, fraction⟩⟩
  · exact (List.append_nil whole).symm
  · rfl

theorem fixedParts_ne_nil (places : Nat) (v : Magnitude) : (fixedParts places v).1 ≠ [] := by
  cases v with
  | notANumber => exact List.cons_ne_nil _ _
  | infinite => exact List.cons_ne_nil _ _
  | finite m q => exact fixedParts_whole_ne_nil places m q

/-- A plain text is made of letters and digits, its point aside. -/
theorem isAlphanum_of_mem_fixedParts (places : Nat) (v : Magnitude) (c : Char)
    (hc : c ∈ (fixedParts places v).1 ∨ c ∈ (fixedParts places v).2) : c.isAlphanum = true := by
  have hnan : ∀ c ∈ "NaN".toList, c.isAlphanum = true := List.all_eq_true.1 rfl
  have hinf : ∀ c ∈ "inf".toList, c.isAlphanum = true := List.all_eq_true.1 rfl
  cases v with
  | notANumber => exact hnan c (hc.resolve_right List.not_mem_nil)
  | infinite => exact hinf c (hc.resolve_right List.not_mem_nil)
  | finite m q => rw [Char.isAlphanum, isDigit_of_mem_fixedParts hc, Bool.or_true]

/-- The digits of a finite number: as many of the fraction as are asked for, and read as one
number they are its units of the last place. -/
theorem value?_fixedParts (places m : Nat) (q : Int) :
    (fixedParts places (.finite m q)).2.length = places ∧
      value? ((fixedParts places (.finite m q)).1 ++ (fixedParts places (.finite m q)).2) =
        some (fixedUnits places m q) := by
  rw [fixedParts]
  split
  · next hplaces =>
    subst hplaces
    exact ⟨rfl, by rw [List.append_nil, value?_digits]⟩
  · have hmod : fixedUnits places m q % 10 ^ places < 10 ^ places :=
      Nat.mod_lt _ (Nat.pow_pos (by decide))
    obtain ⟨hlength, hvalue⟩ := value?_drop_digits hmod
    refine ⟨hlength, ?_⟩
    show value? (digits (fixedUnits places m q / 10 ^ places) ++
      (digits (10 ^ places + fixedUnits places m q % 10 ^ places)).drop 1) = _
    rw [value?_append (value?_digits _), hvalue, hlength, Option.map_some, Nat.mul_comm,
      Nat.div_add_mod]

/-- A text is the plain text of `m * 2 ^ q`: digits with a point before the last `places` of
them, which read as one number are the units of the last place, rounded. -/
def IsPlain (places m : Nat) (q : Int) (text : List Char) : Prop :=
  ∃ whole fraction, text = whole ++ withMark '.' fraction ∧ whole ≠ [] ∧
    fraction.length = places ∧ value? (whole ++ fraction) = some (fixedUnits places m q)

theorem isPlain_fixedMagnitude (places m : Nat) (q : Int) :
    IsPlain places m q (fixedMagnitude places (.finite m q)) := by
  obtain ⟨hlength, hvalue⟩ := value?_fixedParts places m q
  exact ⟨_, _, fixedMagnitude_eq _ _, fixedParts_ne_nil _ _, hlength, hvalue⟩

end Number

namespace Amount

variable {locale : Locale} {places : Nat} {x : Float} {separator c : Char} {s : List Char}

/-! ### Grouping -/

theorem grouped_ne_nil (h : s ≠ []) : grouped separator s ≠ [] := by
  cases s with
  | nil => exact absurd rfl h
  | cons c rest =>
    rw [grouped]
    split
    · exact List.cons_ne_nil _ _
    · exact List.cons_ne_nil _ _

/-- Deleting the separators gives the characters back. -/
theorem filter_grouped : ∀ {s : List Char}, separator ∉ s →
    (grouped separator s).filter (· != separator) = s
  | [], _ => rfl
  | c :: rest, h => by
    obtain ⟨hc, hrest⟩ := List.ne_and_not_mem_of_not_mem_cons h
    have ih := filter_grouped hrest
    rw [grouped]
    split
    · simp [hc.symm, ih]
    · simp [hc.symm, ih]

/-- Pieces of three characters behind a leading piece of one to three. -/
structure InThrees (pieces : List (List Char)) : Prop where
  leading : ∃ piece, pieces.head? = some piece ∧ 1 ≤ piece.length ∧ piece.length ≤ 3
  others : ∀ piece ∈ pieces.tail, piece.length = 3

/-- The pieces between the separators, and the length that is left for the leading one. -/
theorem splitOn_grouped : ∀ {s : List Char}, s ≠ [] → separator ∉ s →
    ∃ leading groups, Text.splitOn separator (grouped separator s) = leading :: groups ∧
      leading.length = (s.length - 1) % 3 + 1 ∧ ∀ group ∈ groups, group.length = 3
  | [], hne, _ => absurd rfl hne
  | [c], _, h => by
    have hc : c ≠ separator := (List.ne_and_not_mem_of_not_mem_cons h).1.symm
    refine ⟨[c], [], ?_, rfl, fun _ hg => absurd hg List.not_mem_nil⟩
    simp [grouped, Text.splitOn, hc]
  | c :: d :: rest, _, h => by
    obtain ⟨hc, hrest⟩ := List.ne_and_not_mem_of_not_mem_cons h
    obtain ⟨leading, groups, hsplit, hleading, hgroups⟩ :=
      splitOn_grouped (List.cons_ne_nil d rest) hrest
    rw [List.length_cons] at hleading ⊢
    rw [grouped]
    by_cases hthird : (d :: rest).length % 3 = 0
    · -- a separator stands behind the first character, so the next group is full
      refine ⟨[c], leading :: groups, ?_, ?_, ?_⟩
      · rw [if_pos ⟨hthird, List.cons_ne_nil d rest⟩]
        simp [Text.splitOn, hc.symm, hsplit]
      · rw [List.length_cons] at hthird
        simp [List.length_cons, hthird]
      · rw [List.length_cons] at hthird
        refine List.forall_mem_cons.2 ⟨?_, hgroups⟩
        omega
    · refine ⟨c :: leading, groups, ?_, ?_, hgroups⟩
      · rw [if_neg fun h => hthird h.1]
        simp [Text.splitOn, hc.symm, hsplit]
      · rw [List.length_cons] at hthird ⊢
        simp only [List.length_cons]
        omega

theorem inThrees_grouped (hne : s ≠ []) (h : separator ∉ s) :
    InThrees (Text.splitOn separator (grouped separator s)) := by
  obtain ⟨leading, groups, hsplit, hleading, hgroups⟩ := splitOn_grouped hne h
  rw [hsplit]
  exact ⟨⟨leading, rfl, by omega, by omega⟩, hgroups⟩

theorem head?_grouped (s : List Char) : (grouped separator s).head? = s.head? := by
  cases s with
  | nil => rfl
  | cons c rest =>
    rw [grouped]
    split
    · rfl
    · rfl

theorem getLast?_grouped (separator : Char) : ∀ s : List Char,
    (grouped separator s).getLast? = s.getLast?
  | [] => rfl
  | [_] => rfl
  | c :: d :: rest => by
    have hne : grouped separator (d :: rest) ≠ [] := grouped_ne_nil (List.cons_ne_nil d rest)
    have ih := getLast?_grouped separator (d :: rest)
    rw [grouped, List.getLast?_cons_cons, ← ih]
    obtain ⟨e, more, heq⟩ := List.exists_cons_of_ne_nil hne
    rw [heq]
    split
    · rw [List.getLast?_cons_cons, List.getLast?_cons_cons]
    · rw [List.getLast?_cons_cons]

/-! ### The text of a magnitude -/

/-- The parts of a text before and behind a mark; without the mark nothing stands behind it. -/
def partsAt (mark : Char) (text : List Char) : List Char × List Char :=
  (Text.cut? mark text).getD (text, [])

theorem partsAt_append_withMark {mark : Char} {whole : List Char} (h : mark ∉ whole)
    (fraction : List Char) :
    partsAt mark (whole ++ Number.withMark mark fraction) = (whole, fraction) := by
  rw [partsAt]
  cases fraction with
  | nil =>
    cases hcut : Text.cut? mark (whole ++ Number.withMark mark []) with
    | none => rw [Number.withMark, List.append_nil]; rfl
    | some parts =>
      -- a cut would need the mark
      rw [Number.withMark, List.append_nil] at hcut
      refine absurd ?_ h
      rw [(Text.cut?_eq_some hcut).1]
      exact List.mem_append_right _ List.mem_cons_self
  | cons d fraction =>
    rw [Number.withMark, Text.cut?_append h]
    rfl

/-- A text in a locale without its group separators and with a point for its decimal
separator. -/
def plain (locale : Locale) (text : List Char) : List Char :=
  (text.filter (· != locale.groupSeparator)).map fun c =>
    if c = locale.decimalSeparator then '.' else c

/-- A text in a locale is a plain text with its integer part in groups. -/
structure Faithful (locale : Locale) (text fixed : List Char) : Prop where
  plain_eq : plain locale text = fixed
  groups : InThrees
    (Text.splitOn locale.groupSeparator (partsAt locale.decimalSeparator text).1)
  starts : (partsAt locale.decimalSeparator text).1.head? ≠ some locale.groupSeparator
  ends : (partsAt locale.decimalSeparator text).1.getLast? ≠ some locale.groupSeparator
  fraction : locale.groupSeparator ∉ (partsAt locale.decimalSeparator text).2

/-- The separators of a known locale differ, and neither is a letter or a digit. -/
theorem separators_apart : ∀ locale ∈ Locale.all,
    (locale.groupSeparator.isAlphanum = false ∧ locale.decimalSeparator.isAlphanum = false) ∧
      locale.groupSeparator ≠ locale.decimalSeparator := by
  decide

/-- The parts of a plain text, written in a locale. -/
def inLocale (locale : Locale) (parts : List Char × List Char) : List Char :=
  grouped locale.groupSeparator parts.1 ++ Number.withMark locale.decimalSeparator parts.2

theorem magnitudeText_eq (locale : Locale) (places : Nat) (x : Float) :
    magnitudeText locale places x =
      inLocale locale (Number.fixedParts (min places maxPlaces) (Number.magnitude x)) := by
  rw [magnitudeText, inLocale]
  rcases Number.fixedParts (min places maxPlaces) (Number.magnitude x) with
    ⟨whole, _ | ⟨c, fraction⟩⟩
  · exact (List.append_nil _).symm
  · rfl

section

variable {parts : List Char × List Char} (hlocale : locale ∈ Locale.all)
  (hparts : ∀ c, c ∈ parts.1 ∨ c ∈ parts.2 → c.isAlphanum = true)
include hlocale hparts

/-- No separator occurs in the parts of a plain text. -/
theorem separators_not_mem :
    (locale.groupSeparator ∉ parts.1 ∧ locale.groupSeparator ∉ parts.2) ∧
      locale.decimalSeparator ∉ parts.1 ∧ locale.decimalSeparator ∉ parts.2 := by
  obtain ⟨⟨hgroup, hdecimal⟩, -⟩ := separators_apart locale hlocale
  have hnot : ∀ {c : Char}, c.isAlphanum = false → c ∉ parts.1 ∧ c ∉ parts.2 := by
    intro c hc
    constructor
    · intro hmem
      exact absurd (hparts c (.inl hmem)) (by simp [hc])
    · intro hmem
      exact absurd (hparts c (.inr hmem)) (by simp [hc])
  exact ⟨hnot hgroup, hnot hdecimal⟩

theorem partsAt_inLocale : partsAt locale.decimalSeparator (inLocale locale parts) =
    (grouped locale.groupSeparator parts.1, parts.2) := by
  have hapart := (separators_apart locale hlocale).2
  have hdecimal := (separators_not_mem hlocale hparts).2.1
  refine partsAt_append_withMark (fun hmem => ?_) _
  exact (mem_grouped hmem).elim hdecimal hapart.symm

/-- **Without its separators a text in a locale is the plain text.** -/
theorem plain_inLocale :
    plain locale (inLocale locale parts) = parts.1 ++ Number.withMark '.' parts.2 := by
  obtain ⟨⟨hgroup1, hgroup2⟩, hdecimal1, hdecimal2⟩ := separators_not_mem hlocale hparts
  have hapart := (separators_apart locale hlocale).2
  have hkept : ∀ {s : List Char}, locale.decimalSeparator ∉ s →
      s.map (fun c => if c = locale.decimalSeparator then '.' else c) = s := by
    intro s hs
    have hsame : ∀ c ∈ s, (if c = locale.decimalSeparator then '.' else c) = id c :=
      fun c hc => if_neg (ne_of_mem_of_not_mem hc hs)
    rw [List.map_congr_left hsame, List.map_id]
  have hfilter : parts.2.filter (· != locale.groupSeparator) = parts.2 :=
    List.filter_eq_self.2 fun c hc => bne_iff_ne.2 (ne_of_mem_of_not_mem hc hgroup2)
  rw [plain, inLocale, List.filter_append, filter_grouped hgroup1, List.map_append,
    hkept hdecimal1]
  rcases parts with ⟨whole, _ | ⟨d, fraction⟩⟩
  · rfl
  · rw [Number.withMark, Number.withMark, List.filter_cons, if_pos (bne_iff_ne.2 hapart.symm),
      hfilter, List.map_cons, if_pos rfl, hkept hdecimal2]

theorem faithful_inLocale (hne : parts.1 ≠ []) :
    Faithful locale (inLocale locale parts) (parts.1 ++ Number.withMark '.' parts.2) := by
  obtain ⟨⟨hgroup1, hgroup2⟩, -⟩ := separators_not_mem hlocale hparts
  have hcut := partsAt_inLocale hlocale hparts
  constructor
  · exact plain_inLocale hlocale hparts
  · rw [hcut]
    exact inThrees_grouped hne hgroup1
  · rw [hcut, head?_grouped]
    exact fun h => hgroup1 (List.mem_of_head? h)
  · rw [hcut, getLast?_grouped]
    exact fun h => hgroup1 (List.mem_of_getLast? h)
  · rw [hcut]
    exact hgroup2

end

theorem faithful_magnitudeText (hlocale : locale ∈ Locale.all) (places : Nat) (x : Float) :
    Faithful locale (magnitudeText locale places x)
      (Number.fixedMagnitude (min places 20) (Number.magnitude x)) := by
  rw [magnitudeText_eq, Number.fixedMagnitude_eq]
  exact faithful_inLocale hlocale (Number.isAlphanum_of_mem_fixedParts _ _)
    (Number.fixedParts_ne_nil _ _)

/-- **A number in a locale shows its plain text and nothing else.** It is a magnitude with at
most a minus sign before it. That magnitude is the plain text, of up to twenty fraction digits,
with its integer part in groups; and magnitudes with different plain texts are written
differently. -/
theorem number_faithful (hlocale : locale ∈ Locale.all) (places : Nat) (x : Float) :
    (∃ sign, (sign = [] ∨ sign = ['-']) ∧
      number locale places x = sign ++ magnitudeText locale places x) ∧
    Faithful locale (magnitudeText locale places x)
      (Number.fixedMagnitude (min places 20) (Number.magnitude x)) ∧
    (∀ m q, Number.magnitude x = .finite m q → Number.IsPlain (min places 20) m q
      (Number.fixedMagnitude (min places 20) (Number.magnitude x))) ∧
    ∀ places' y, Number.fixedMagnitude (min places 20) (Number.magnitude x) ≠
        Number.fixedMagnitude (min places' 20) (Number.magnitude y) →
      magnitudeText locale places x ≠ magnitudeText locale places' y := by
  have hfaithful := faithful_magnitudeText hlocale
  refine ⟨?_, hfaithful places x, fun m q hx => ?_, fun places' y hne heq => hne ?_⟩
  · refine ⟨signText x (magnitudeText locale places x), ?_, rfl⟩
    rw [signText]
    split
    · exact .inr rfl
    · exact .inl rfl
  · rw [hx]
    exact Number.isPlain_fixedMagnitude _ m q
  · rw [← (hfaithful places x).plain_eq, ← (hfaithful places' y).plain_eq, heq]

/-- In German the point divides the groups and the comma marks the fraction. -/
theorem number_faithful_german :
    Locale.deDE ∈ Locale.all ∧
      number .deDE 2 (-1234567.891) = "-1.234.567,89".toList ∧
      Number.fixedMagnitude 2 (Number.magnitude (-1234567.891)) = "1234567.89".toList ∧
      Faithful .deDE (magnitudeText .deDE 2 (-1234567.891))
        (Number.fixedMagnitude (min 2 20) (Number.magnitude (-1234567.891))) ∧
      magnitudeText .deDE 2 (-1234567.891) ≠ magnitudeText .deDE 0 123456789 := by
  have hlocale : Locale.deDE ∈ Locale.all := by simp [Locale.all]
  obtain ⟨-, hfaithful, -, hapart⟩ := number_faithful hlocale 2 (-1234567.891)
  exact ⟨hlocale, by decide +kernel, by decide +kernel, hfaithful,
    hapart 0 123456789 (by decide +kernel)⟩

end Amount

end TieredReport
