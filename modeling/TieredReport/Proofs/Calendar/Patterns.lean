/-
# Date patterns, piece by piece

A token is a run of one letter, and of the runs that a letter has the longest one in front
counts (`longestRun`). So the first part of a pattern is not changed by what is written behind
the pattern, unless a run or a bracketed text goes on there (`nextPart_append`); two patterns
that are apart in this sense (`Apart`) can be cut into parts one after the other
(`parts_append`), and what a part stands for is never looked at again.

Key definitions: `longestRun`, `tokenLetters`, `Closed`, `Apart`, `monthTokens`.
Key theorems: `longestRun_append`, `nextPart_append`, `parts_append`, `formatDate_append`,
`formatDate_piecewise`.
-/
import TieredReport.Calendar.Pattern

namespace TieredReport.Calendar

variable {c : Char} {p p' q rest : List Char}

/-! ### Runs of one letter -/

/-- The first of these runs of a letter `c` that a text goes on with behind a first `c`, and what
follows it. -/
def longestRun (c : Char) (runs : List (Nat × Part)) (single : Part) (rest : List Char) :
    Part × List Char :=
  match runs.find? fun run => (List.replicate run.1 c).isPrefixOf rest with
  | some run => (run.2, rest.drop run.1)
  | none => (single, rest)

/-- A run ends with the text that it stands in, unless the same letter follows. -/
theorem isPrefixOf_replicate_append : ∀ {rest : List Char} (n : Nat),
    ¬ ((c :: rest).getLast? = some c ∧ q.head? = some c) →
      (List.replicate n c).isPrefixOf (rest ++ q) = (List.replicate n c).isPrefixOf rest
  | _, 0, _ => rfl
  | [], n + 1, h => by
    cases q with
    | nil => rfl
    | cons d q =>
      have hne : c ≠ d := fun hcd => h ⟨rfl, by rw [hcd]; rfl⟩
      rw [List.replicate_succ, List.nil_append, List.isPrefixOf_cons_cons,
        beq_eq_false_iff_ne.2 hne]
      rfl
  | d :: rest, n + 1, h => by
    rw [List.replicate_succ, List.cons_append, List.isPrefixOf_cons_cons, List.isPrefixOf_cons_cons]
    by_cases hcd : c = d
    · subst hcd
      rw [isPrefixOf_replicate_append n (by simpa using h)]
    · rw [beq_eq_false_iff_ne.2 hcd]
      rfl

theorem longestRun_append (runs : List (Nat × Part)) (single : Part)
    (h : ¬ ((c :: rest).getLast? = some c ∧ q.head? = some c)) :
    longestRun c runs single (rest ++ q) =
      ((longestRun c runs single rest).1, (longestRun c runs single rest).2 ++ q) := by
  rw [longestRun, longestRun]
  simp only [isPrefixOf_replicate_append _ h]
  cases hfind : runs.find? fun run => (List.replicate run.1 c).isPrefixOf rest with
  | none => rfl
  | some run =>
    have hprefix := List.find?_some hfind
    have hlength : run.1 ≤ rest.length := by
      simpa using (List.isPrefixOf_iff_prefix.1 hprefix).length_le
    simp only
    rw [List.drop_append_of_le_length hlength]

theorem longestRun_suffix (runs : List (Nat × Part)) (single : Part) :
    (longestRun c runs single rest).2 <:+ rest := by
  rw [longestRun]
  split
  · exact List.drop_suffix _ _
  · exact List.suffix_refl rest

theorem isPrefixOf_eq_false {start s : List Char} (h : ∀ after, s = start ++ after → False) :
    start.isPrefixOf s = false := by
  refine eq_false_of_ne_true fun hprefix => ?_
  obtain ⟨after, heq⟩ := List.isPrefixOf_iff_prefix.1 hprefix
  exact h after heq.symm

/-! ### The first part of a pattern -/

theorem nextPart_bracket (rest : List Char) : nextPart '[' rest =
    match Text.cut? ']' rest with
    | some (text, after) => (.copy text, after)
    | none => (.copy ['['], rest) := rfl

theorem nextPart_year (rest : List Char) : nextPart 'Y' rest =
    longestRun 'Y' [(3, .year), (1, .yearOfCentury)] (.copy ['Y']) rest := by
  unfold nextPart
  rw [if_neg (by decide), if_pos rfl, longestRun]
  split
  · rfl
  · next after hthree =>
    rw [List.find?_cons, isPrefixOf_eq_false fun t ht => hthree t (List.cons.inj ht).2]
    rfl
  · next hthree hone =>
    rw [List.find?_cons, isPrefixOf_eq_false hthree, List.find?_cons, isPrefixOf_eq_false hone]
    rfl

theorem nextPart_month (rest : List Char) : nextPart 'M' rest =
    longestRun 'M' [(3, .monthName), (2, .monthAbbreviation), (1, .paddedMonth)] .month rest := by
  unfold nextPart
  rw [if_neg (by decide), if_neg (by decide), if_pos rfl, longestRun]
  split
  · rfl
  · next after hthree =>
    rw [List.find?_cons,
      isPrefixOf_eq_false fun t ht => hthree t (List.cons.inj (List.cons.inj ht).2).2]
    rfl
  · next after hthree htwo =>
    rw [List.find?_cons, isPrefixOf_eq_false fun t ht => hthree t (List.cons.inj ht).2,
      List.find?_cons, isPrefixOf_eq_false fun t ht => htwo t (List.cons.inj ht).2]
    rfl
  · next hthree htwo hone =>
    rw [List.find?_cons, isPrefixOf_eq_false hthree, List.find?_cons, isPrefixOf_eq_false htwo,
      List.find?_cons, isPrefixOf_eq_false hone]
    rfl

theorem nextPart_day (rest : List Char) : nextPart 'D' rest =
    longestRun 'D' [(1, .paddedDay)] .day rest := by
  unfold nextPart
  rw [if_neg (by decide), if_neg (by decide), if_neg (by decide), if_pos rfl, longestRun]
  split
  · rfl
  · next hone =>
    rw [List.find?_cons, isPrefixOf_eq_false hone]
    rfl

/-- The letters that tokens are made of. -/
def tokenLetters : List Char := ['Y', 'M', 'D']

theorem nextPart_letter (hc : c ∈ tokenLetters) :
    ∃ runs single, ∀ rest, nextPart c rest = longestRun c runs single rest := by
  have hcases : c = 'Y' ∨ c = 'M' ∨ c = 'D' := by simpa [tokenLetters] using hc
  rcases hcases with rfl | rfl | rfl
  · exact ⟨_, _, nextPart_year⟩
  · exact ⟨_, _, nextPart_month⟩
  · exact ⟨_, _, nextPart_day⟩

theorem nextPart_other (hbracket : c ≠ '[') (hc : c ∉ tokenLetters) (rest : List Char) :
    nextPart c rest = (.copy [c], rest) := by
  have hcases : c ≠ 'Y' ∧ c ≠ 'M' ∧ c ≠ 'D' := by simpa [tokenLetters] using hc
  unfold nextPart
  rw [if_neg hbracket, if_neg hcases.1, if_neg hcases.2.1, if_neg hcases.2.2]

/-- What follows the first part is an end of the pattern. -/
theorem nextPart_suffix (c : Char) (rest : List Char) : (nextPart c rest).2 <:+ rest := by
  by_cases hbracket : c = '['
  · rw [hbracket, nextPart_bracket]
    cases hcut : Text.cut? ']' rest with
    | none => exact List.suffix_refl rest
    | some parts =>
      rw [(Text.cut?_eq_some hcut).1]
      exact ⟨parts.1 ++ [']'], by simp⟩
  by_cases hc : c ∈ tokenLetters
  · obtain ⟨runs, single, hrun⟩ := nextPart_letter hc
    rw [hrun]
    exact longestRun_suffix runs single
  · rewrite [nextPart_other hbracket hc]
    exact List.suffix_refl rest

/-! ### Patterns that are apart -/

/-- Every opening bracket has a closing one behind it. -/
def Closed (p : List Char) : Prop := ∀ before after, p = before ++ '[' :: after → ']' ∈ after

/-- No run of a letter and no bracketed text goes on from one pattern into the next. -/
structure Apart (p q : List Char) : Prop where
  letters : ∀ c ∈ tokenLetters, ¬ (p.getLast? = some c ∧ q.head? = some c)
  brackets : ']' ∉ q ∨ Closed p

theorem Closed.of_suffix (h : Closed p) (hsuffix : p' <:+ p) : Closed p' := by
  obtain ⟨start, rfl⟩ := hsuffix
  intro before after heq
  exact h (start ++ before) after (by rw [heq, List.append_assoc])

theorem Closed.of_not_mem (h : '[' ∉ p) : Closed p := by
  rintro before after rfl
  exact absurd (List.mem_append_right before List.mem_cons_self) h

/-- What ends with a closing bracket leaves none open. -/
theorem Closed.of_getLast? (h : p.getLast? = some ']') : Closed p := by
  rintro before after rfl
  cases after with
  | nil => simp at h
  | cons c after =>
    rw [List.getLast?_append, List.getLast?_cons_cons] at h
    refine List.mem_of_getLast? ?_
    simpa using h

/-- Patterns are apart if one does not end with the character that the next begins with. -/
theorem Apart.of_ne (hends : p.getLast? ≠ q.head?) (hbrackets : ']' ∉ q ∨ Closed p) :
    Apart p q where
  letters _ _ hboth := hends (hboth.1.trans hboth.2.symm)
  brackets := hbrackets

theorem Apart.of_suffix (h : Apart p q) (hsuffix : p' <:+ p) : Apart p' q where
  letters c hc hboth := by
    refine h.letters c hc ⟨?_, hboth.2⟩
    obtain ⟨start, rfl⟩ := hsuffix
    rw [List.getLast?_append, hboth.1]
    rfl
  brackets := h.brackets.imp_right fun hclosed => hclosed.of_suffix hsuffix

/-- **The first part of a pattern does not depend on what is apart from it.** -/
theorem nextPart_append (h : Apart (c :: rest) q) :
    nextPart c (rest ++ q) = ((nextPart c rest).1, (nextPart c rest).2 ++ q) := by
  by_cases hbracket : c = '['
  · subst hbracket
    rw [nextPart_bracket, nextPart_bracket]
    cases hcut : Text.cut? ']' rest with
    | some parts =>
      obtain ⟨heq, hnot⟩ := Text.cut?_eq_some hcut
      have happend : Text.cut? ']' (rest ++ q) = some (parts.1, parts.2 ++ q) := by
        rw [heq, List.append_assoc]
        exact Text.cut?_append hnot _
      rw [happend]
    | none =>
      -- the bracket is left open here, so nothing that follows may close it
      have hrest : ']' ∉ rest := Text.cut?_eq_none_iff.1 hcut
      have hq : ']' ∉ q := h.brackets.resolve_right fun hclosed => hrest (hclosed [] rest rfl)
      have happend : Text.cut? ']' (rest ++ q) = none :=
        Text.cut?_eq_none_iff.2 fun hmem => (List.mem_append.1 hmem).elim hrest hq
      rw [happend]
  by_cases hc : c ∈ tokenLetters
  · obtain ⟨runs, single, hrun⟩ := nextPart_letter hc
    rw [hrun, hrun]
    exact longestRun_append runs single (h.letters c hc)
  · rw [nextPart_other hbracket hc, nextPart_other hbracket hc]

/-- Patterns that are apart are cut into parts one after the other. -/
theorem parts_append (h : Apart p q) : parts (p ++ q) = parts p ++ parts q := by
  fun_induction parts p with
  | case1 => rfl
  | case2 c rest ih =>
    have hrest : Apart (nextPart c rest).2 q :=
      h.of_suffix ((nextPart_suffix c rest).trans (List.suffix_cons c rest))
    rw [List.cons_append, parts, nextPart_append h, ih hrest, List.cons_append]

/-! ### Formatted dates -/

variable {d : Date} {locale : Locale}

theorem formatDate_append (h : Apart p q) :
    formatDate d (p ++ q) locale = formatDate d p locale ++ formatDate d q locale := by
  rw [formatDate, parts_append h, List.flatMap_append]
  rfl

/-- A text in brackets is copied. -/
theorem formatDate_bracketed {w : List Char} (h : ']' ∉ w) :
    formatDate d ('[' :: (w ++ [']'])) locale = w := by
  rw [formatDate, parts, nextPart_bracket, Text.cut?_append h, parts, List.flatMap_singleton]
  rfl

/-- The tokens for the name of a month, each with what is written for it. -/
def monthTokens (locale : Locale) (month : Nat) : List (List Char × List Char) :=
  [("MMMM".toList, monthName locale month), ("MMM".toList, (monthName locale month).take 3)]

theorem formatDate_monthToken {token name : List Char}
    (h : (token, name) ∈ monthTokens locale d.month) : formatDate d token locale = name := by
  have hlong : parts "MMMM".toList = [.monthName] := by decide +kernel
  have hshort : parts "MMM".toList = [.monthAbbreviation] := by decide +kernel
  rw [monthTokens, List.mem_cons, List.mem_singleton] at h
  rcases h with h | h
  · obtain ⟨rfl, rfl⟩ := Prod.mk.inj h
    rw [formatDate, hlong, List.flatMap_singleton]
    rfl
  · obtain ⟨rfl, rfl⟩ := Prod.mk.inj h
    rw [formatDate, hshort, List.flatMap_singleton]
    rfl

/-- **Patterns that are apart are formatted piece by piece.** Text in brackets is copied as it is
wherever it stands behind closed brackets, and so is the name of a month, in full or abbreviated,
whatever stands around it: neither is looked at for tokens again. -/
theorem formatDate_piecewise (d : Date) (locale : Locale) :
    (∀ p q, Apart p q →
      formatDate d (p ++ q) locale = formatDate d p locale ++ formatDate d q locale) ∧
    (∀ w, ']' ∉ w → formatDate d ('[' :: (w ++ [']'])) locale = w) ∧
    (∀ p w q, Closed p → ']' ∉ w → formatDate d (p ++ ('[' :: (w ++ [']']) ++ q)) locale =
      formatDate d p locale ++ (w ++ formatDate d q locale)) ∧
    ∀ p token name q, (token, name) ∈ monthTokens locale d.month →
      Apart p (token ++ q) → Apart token q →
        formatDate d (p ++ (token ++ q)) locale =
          formatDate d p locale ++ (name ++ formatDate d q locale) := by
  refine ⟨fun p q h => formatDate_append h, fun w hw => formatDate_bracketed hw,
    fun p w q hp hw => ?_, fun p token name q htoken hp hq => ?_⟩
  · have hopen : '[' ∉ tokenLetters := by decide
    have hclose : ']' ∉ tokenLetters := by decide
    have hlast : ('[' :: (w ++ [']'])).getLast? = some ']' := by
      rw [← List.cons_append, List.getLast?_concat]
    have hbefore : Apart p ('[' :: (w ++ [']']) ++ q) := by
      refine ⟨fun c hc hboth => hopen ?_, .inr hp⟩
      rwa [Option.some.inj hboth.2]
    have hbehind : Apart ('[' :: (w ++ [']'])) q := by
      refine ⟨fun c hc hboth => hclose ?_, .inr (.of_getLast? hlast)⟩
      rwa [Option.some.inj (hlast.symm.trans hboth.1)]
    rw [formatDate_append hbefore, formatDate_append hbehind, formatDate_bracketed hw]
  · rw [formatDate_append hp, formatDate_append hq, formatDate_monthToken htoken]

/-- The letters in brackets and those of the month's name are copied, and so is a bracket that is
left open. -/
theorem formatDate_piecewise_french : ∃ d : Date, (d.year = 2024 ∧ d.month = 3 ∧ d.day = 5) ∧
    (Apart "D ".toList "[M D] MMMM [Y".toList ∧
      formatDate d ("D ".toList ++ "[M D] MMMM [Y".toList) .frFR =
        formatDate d "D ".toList .frFR ++ formatDate d "[M D] MMMM [Y".toList .frFR) ∧
    (Closed "D ".toList ∧ ']' ∉ "M D".toList ∧
      formatDate d ("D ".toList ++ ('[' :: ("M D".toList ++ [']']) ++ " MMMM [Y".toList)) .frFR =
        formatDate d "D ".toList .frFR ++
          ("M D".toList ++ formatDate d " MMMM [Y".toList .frFR)) ∧
    (("MMMM".toList, monthName .frFR d.month) ∈ monthTokens .frFR d.month ∧
      Apart "[M D] ".toList ("MMMM".toList ++ " [Y".toList) ∧
      Apart "MMMM".toList " [Y".toList ∧
      formatDate d ("[M D] ".toList ++ ("MMMM".toList ++ " [Y".toList)) .frFR =
        formatDate d "[M D] ".toList .frFR ++
          (monthName .frFR d.month ++ formatDate d " [Y".toList .frFR)) ∧
    formatDate d "D [M D] MMMM [Y".toList .frFR = "5 M D mars [Y".toList := by
  let d : Date := ⟨2024, 3, 5, by decide, by decide, by decide, by decide, by decide, by decide⟩
  obtain ⟨happend, -, hbracketed, hmonth⟩ := formatDate_piecewise d .frFR
  have hclosed : Closed "D ".toList := .of_not_mem (by decide)
  have hapart : Apart "D ".toList "[M D] MMMM [Y".toList := .of_ne (by decide) (.inr hclosed)
  have hbefore : Apart "[M D] ".toList ("MMMM".toList ++ " [Y".toList) :=
    .of_ne (by decide) (.inl (by decide))
  have hbehind : Apart "MMMM".toList " [Y".toList := .of_ne (by decide) (.inl (by decide))
  have htoken : ("MMMM".toList, monthName .frFR d.month) ∈ monthTokens .frFR d.month :=
    List.mem_cons_self
  exact ⟨d, ⟨rfl, rfl, rfl⟩, ⟨hapart, happend _ _ hapart⟩,
    ⟨hclosed, by decide, hbracketed _ _ _ hclosed (by decide)⟩,
    ⟨htoken, hbefore, hbehind, hmonth _ _ _ _ htoken hbefore hbehind⟩, by decide +kernel⟩

end TieredReport.Calendar
