/-
# Writing words so that they are read back

An expression is written as a head and its arguments, with blanks between them. An
argument that is one word without quotes stands for itself; any other text is put
between quotes, with a backslash before each quote in it. Reading such a text goes
over it twice, and by different rules. The scan for words lets a backslash guard
whatever comes next, so also another backslash; the text between the quotes is then
freed of just those backslashes that stand before a quote. The two agree on where the
text ends if backslashes come in pairs wherever they meet a quote, one in the text or
the one behind it (`BackslashesPaired`): behind as many of them as there are, the scan
is as it was in front of them (`wordsFrom_escapeQuotes`).

Under this condition the words that were written are the words that are found, and
each argument is read as what it was (`parse_written`).

Key definitions: `escapeQuotes`, `trailingBackslashes`, `BackslashesPaired`, `IsBareWord`,
`WrittenArg`, `writtenArgs`.
Key theorems: `unescapeQuotes_escapeQuotes`, `wordsFrom_escapeQuotes`, `words_written`,
`WrittenArg.parse_spelling`, `parse_written`.
-/
import TieredReport.Markup.Expression
import TieredReport.Proofs.Text.Trim

namespace TieredReport.Markup

/-- A text with a backslash before each quote. -/
def escapeQuotes (s : List Char) : List Char :=
  s.flatMap fun c => if c = '"' then ['\\', '"'] else [c]

/-- The number of backslashes that a text ends in. -/
def trailingBackslashes (s : List Char) : Nat := (s.reverse.takeWhile (· = '\\')).length

/-- Every run of backslashes that stands before a quote or at the end is of even length. -/
structure BackslashesPaired (s : List Char) : Prop where
  beforeQuote : ∀ start rest, s = start ++ '"' :: rest → trailingBackslashes start % 2 = 0
  atEnd : trailingBackslashes s % 2 = 0

/-- A word that needs no quotes. -/
structure IsBareWord (w : List Char) : Prop where
  ne_nil : w ≠ []
  not_blank : ∀ c ∈ w, Text.isBlank c = false
  not_quote : '"' ∉ w

/-- An argument to be written: a word as it is, or a text between quotes. -/
inductive WrittenArg where
  | bare (word : List Char)
  | quoted (s : List Char)

namespace WrittenArg

/-- An argument as it is written. -/
def spelling : WrittenArg → List Char
  | .bare word => word
  | .quoted s => '"' :: (escapeQuotes s ++ ['"'])

/-- An argument that can be written so that it is read back. -/
def WellFormed : WrittenArg → Prop
  | .bare word => IsBareWord word
  | .quoted s => BackslashesPaired s

/-- The argument that is meant. -/
def arg : WrittenArg → Arg
  | .bare word => .parse word
  | .quoted s => .literal (.text (String.ofList s))

end WrittenArg

/-- Arguments as they are written, each with the blanks before it. -/
def writtenArgs (args : List (List Char × WrittenArg)) : List Char :=
  args.flatMap fun a => a.1 ++ a.2.spelling

/-- What may stand behind the head: arguments that can be written, each behind some blanks. -/
def ArgsWellFormed (args : List (List Char × WrittenArg)) : Prop :=
  ∀ a ∈ args, (a.1 ≠ [] ∧ a.1.all Text.isBlank = true) ∧ a.2.WellFormed

/-! ### Quotes -/

theorem escapeQuotes_cons (c : Char) (s : List Char) :
    escapeQuotes (c :: s) = (if c = '"' then ['\\', '"'] else [c]) ++ escapeQuotes s := rfl

theorem escapeQuotes_append_singleton (s : List Char) (c : Char) :
    escapeQuotes (s ++ [c]) = escapeQuotes s ++ if c = '"' then ['\\', '"'] else [c] := by
  simp [escapeQuotes]

/-- An escaped text does not begin with a quote. -/
theorem head?_escapeQuotes (s : List Char) : (escapeQuotes s).head? ≠ some '"' := by
  cases s with
  | nil => simp [escapeQuotes]
  | cons c s =>
    rw [escapeQuotes_cons]
    by_cases hc : c = '"' <;> simp [hc]

/-- A character stays, unless it is a backslash before a quote. -/
theorem unescapeQuotes_cons {c : Char} {s : List Char} (h : s.head? ≠ some '"') :
    unescapeQuotes (c :: s) = c :: unescapeQuotes s := by
  rw [unescapeQuotes]
  intro rest _ hs
  exact h (by rw [hs]; rfl)

/-- **Unescaping gives the text back.** -/
theorem unescapeQuotes_escapeQuotes (s : List Char) : unescapeQuotes (escapeQuotes s) = s := by
  induction s with
  | nil => rfl
  | cons c s ih =>
    rw [escapeQuotes_cons]
    by_cases hc : c = '"'
    · rw [if_pos hc, hc]
      show '"' :: unescapeQuotes (escapeQuotes s) = '"' :: s
      rw [ih]
    · rw [if_neg hc, List.singleton_append, unescapeQuotes_cons (head?_escapeQuotes s), ih]

/-! ### The scan inside quotes -/

/-- The condition can be checked place by place. -/
theorem backslashesPaired_iff {s : List Char} : BackslashesPaired s ↔
    (∀ i < s.length, s[i]? = some '"' → trailingBackslashes (s.take i) % 2 = 0) ∧
      trailingBackslashes s % 2 = 0 := by
  constructor
  · refine fun h => ⟨fun i hi hquote => h.beforeQuote _ (s.drop (i + 1)) ?_, h.atEnd⟩
    have hget : s[i] = '"' := by simpa [List.getElem?_eq_getElem hi] using hquote
    rw [← hget, ← List.drop_eq_getElem_cons hi, List.take_append_drop]
  · rintro ⟨hbefore, hend⟩
    refine ⟨fun start rest hs => ?_, hend⟩
    have hplace := hbefore start.length (by simp [hs]) (by simp [hs])
    rwa [hs, List.take_left] at hplace

instance (s : List Char) : Decidable (BackslashesPaired s) :=
  decidable_of_iff _ backslashesPaired_iff.symm

theorem isBareWord_iff {w : List Char} : IsBareWord w ↔
    w ≠ [] ∧ (w.all fun c => !Text.isBlank c && c != '"') = true := by
  constructor
  · intro h
    refine ⟨h.ne_nil, List.all_eq_true.2 fun c hc => ?_⟩
    have hquote : c ≠ '"' := ne_of_mem_of_not_mem hc h.not_quote
    simp [h.not_blank c hc, hquote]
  · rintro ⟨hne, hall⟩
    have hplain : ∀ c ∈ w, Text.isBlank c = false ∧ c ≠ '"' := by simpa using hall
    exact ⟨hne, fun c hc => (hplain c hc).1, fun hquote => (hplain _ hquote).2 rfl⟩

instance (w : List Char) : Decidable (IsBareWord w) :=
  decidable_of_iff _ isBareWord_iff.symm

theorem trailingBackslashes_append_singleton (s : List Char) (c : Char) :
    trailingBackslashes (s ++ [c]) = if c = '\\' then trailingBackslashes s + 1 else 0 := by
  unfold trailingBackslashes
  rw [List.reverse_append, List.reverse_singleton, List.singleton_append]
  by_cases hc : c = '\\'
  · rw [if_pos hc, List.takeWhile_cons_of_pos (by simpa using hc), List.length_cons]
  · rw [if_neg hc, List.takeWhile_cons_of_neg (by simpa using hc), List.length_nil]

/-- Inside quotes every character belongs to the word. -/
theorem wordsFrom_of_quoted {q : Quoting} (hq : q ≠ .bare) (word : List Char) (c : Char)
    (rest : List Char) : wordsFrom q word (c :: rest) = wordsFrom (q.next c) (word ++ [c]) rest := by
  rw [wordsFrom, if_neg fun h => hq h.1]

/-- How the scan stands inside quotes behind a text: behind an odd number of backslashes the next
character is guarded. -/
def quotingBehind (s : List Char) : Quoting :=
  if trailingBackslashes s % 2 = 0 then .quoted else .escaped

theorem quotingBehind_ne_bare (s : List Char) : quotingBehind s ≠ .bare := by
  unfold quotingBehind
  split <;> simp

/-- A character other than a quote changes how the scan stands by whether it is a backslash. -/
theorem quotingBehind_append_singleton {c : Char} (hc : c ≠ '"') (s : List Char) :
    (quotingBehind s).next c = quotingBehind (s ++ [c]) := by
  unfold quotingBehind
  rw [trailingBackslashes_append_singleton]
  by_cases hback : c = '\\'
  · rw [if_pos hback]
    rcases Nat.mod_two_eq_zero_or_one (trailingBackslashes s) with heven | hodd
    · rw [if_pos heven, if_neg (by omega), hback]
      rfl
    · rw [if_neg (by omega), if_pos (by omega)]
      rfl
  · rw [if_neg hback, if_pos (Nat.zero_mod 2)]
    by_cases heven : trailingBackslashes s % 2 = 0
    · rw [if_pos heven, Quoting.next, if_neg hback, if_neg hc]
    · rw [if_neg heven, Quoting.next]

/-- **The scan of an escaped text.** It does not leave the quotes, and whether the character behind
the text is guarded is told by the backslashes that the text ends in. -/
theorem wordsFrom_escapeQuotes {s : List Char}
    (hs : ∀ start rest, s = start ++ '"' :: rest → trailingBackslashes start % 2 = 0)
    (word rest : List Char) :
    wordsFrom .quoted word (escapeQuotes s ++ rest) =
      wordsFrom (quotingBehind s) (word ++ escapeQuotes s) rest := by
  induction s using List.reverseRecOn generalizing rest with
  | nil =>
    rw [escapeQuotes, List.flatMap_nil, List.nil_append, List.append_nil]
    rfl
  | append_singleton s c ih =>
    have hbefore : ∀ start rest, s = start ++ '"' :: rest → trailingBackslashes start % 2 = 0 :=
      fun start rest heq => hs start (rest ++ [c]) (by rw [heq]; simp)
    rw [escapeQuotes_append_singleton, List.append_assoc, ih hbefore]
    by_cases hc : c = '"'
    · -- the added backslash is not guarded itself, so it guards the quote
      have heven : trailingBackslashes s % 2 = 0 := hs s [] (by rw [hc])
      have hstart : quotingBehind s = .quoted := if_pos heven
      have hend : quotingBehind (s ++ [c]) = .quoted := by
        rw [quotingBehind, trailingBackslashes_append_singleton, hc]
        rfl
      rw [if_pos hc, hstart, hend, List.cons_append, List.singleton_append,
        wordsFrom_of_quoted (by simp)]
      show wordsFrom .escaped _ _ = _
      rw [wordsFrom_of_quoted (by simp)]
      simp [Quoting.next]
    · rw [if_neg hc, List.singleton_append, wordsFrom_of_quoted (quotingBehind_ne_bare s),
        quotingBehind_append_singleton hc, List.append_assoc]

/-- A text in quotes is scanned to its end. -/
theorem wordsFrom_quoted {s : List Char} (hs : BackslashesPaired s) (word rest : List Char) :
    wordsFrom .bare word ((WrittenArg.quoted s).spelling ++ rest) =
      wordsFrom .bare (word ++ (WrittenArg.quoted s).spelling) rest := by
  have hend : quotingBehind s = .quoted := if_pos hs.atEnd
  have hopen : ∀ rest, wordsFrom .bare word ('"' :: rest) = wordsFrom .quoted (word ++ ['"']) rest :=
    fun rest => by rw [wordsFrom, if_neg (by decide)]; rfl
  have hclose : ∀ word, wordsFrom .quoted word ('"' :: rest) = wordsFrom .bare (word ++ ['"']) rest :=
    fun word => wordsFrom_of_quoted (by simp) word '"' rest
  rw [WrittenArg.spelling, List.cons_append, hopen, List.append_assoc,
    wordsFrom_escapeQuotes hs.beforeQuote, hend, List.singleton_append, hclose]
  simp

/-! ### The words of a written expression -/

/-- A word without quotes is scanned to its end. -/
theorem wordsFrom_bare {w : List Char} (hblank : ∀ c ∈ w, Text.isBlank c = false)
    (hquote : '"' ∉ w) (word rest : List Char) :
    wordsFrom .bare word (w ++ rest) = wordsFrom .bare (word ++ w) rest := by
  induction w generalizing word with
  | nil => rw [List.nil_append, List.append_nil]
  | cons c w ih =>
    obtain ⟨hc, hw⟩ := List.forall_mem_cons.1 hblank
    obtain ⟨hne, hnot⟩ := List.ne_and_not_mem_of_not_mem_cons hquote
    have hnext : Quoting.bare.next c = .bare := if_neg hne.symm
    rw [List.cons_append, wordsFrom, if_neg (by simp [hc]), hnext, ih hw hnot, List.append_assoc,
      List.singleton_append]

theorem WrittenArg.wordsFrom_spelling {a : WrittenArg} (h : a.WellFormed) (word rest : List Char) :
    wordsFrom .bare word (a.spelling ++ rest) = wordsFrom .bare (word ++ a.spelling) rest := by
  cases a with
  | bare w => exact wordsFrom_bare h.not_blank h.not_quote word rest
  | quoted s => exact wordsFrom_quoted h word rest

/-- Blanks end a word. -/
theorem wordsFrom_blanks {gap : List Char} (hne : gap ≠ []) (hgap : gap.all Text.isBlank = true)
    (word rest : List Char) :
    wordsFrom .bare word (gap ++ rest) = wordThen word (wordsFrom .bare [] rest) := by
  induction gap generalizing word with
  | nil => exact absurd rfl hne
  | cons c gap ih =>
    rw [List.all_cons, Bool.and_eq_true] at hgap
    rw [List.cons_append, wordsFrom, if_pos ⟨rfl, hgap.1⟩]
    cases gap with
    | nil => rfl
    | cons d gap =>
      rw [ih (by simp) hgap.2]
      rfl

theorem writtenArgs_cons (gap : List Char) (a : WrittenArg) (args : List (List Char × WrittenArg)) :
    writtenArgs ((gap, a) :: args) = gap ++ (a.spelling ++ writtenArgs args) := by
  simp [writtenArgs]

/-- No argument is written as nothing. -/
theorem WrittenArg.spelling_ne_nil {a : WrittenArg} (h : a.WellFormed) : a.spelling ≠ [] := by
  cases a with
  | bare w => exact h.ne_nil
  | quoted s => simp [spelling]

/-- The arguments end the word before them, and are words of their own. -/
theorem wordsFrom_writtenArgs {args : List (List Char × WrittenArg)} (hargs : ArgsWellFormed args)
    {word : List Char} (hword : word ≠ []) :
    wordsFrom .bare word (writtenArgs args) = word :: args.map fun a => a.2.spelling := by
  have hthen : ∀ {w : List Char} (rest : List (List Char)), w ≠ [] → wordThen w rest = w :: rest :=
    fun rest hw => if_neg (by simpa using hw)
  induction args generalizing word with
  | nil => exact hthen [] hword
  | cons a args ih =>
    obtain ⟨gap, a⟩ := a
    obtain ⟨⟨⟨hne, hgap⟩, ha⟩, hrest⟩ := List.forall_mem_cons.1 hargs
    calc wordsFrom .bare word (writtenArgs ((gap, a) :: args))
        = wordThen word (wordsFrom .bare [] (a.spelling ++ writtenArgs args)) := by
          rw [writtenArgs_cons, wordsFrom_blanks hne hgap]
      _ = word :: wordsFrom .bare a.spelling (writtenArgs args) := by
          rw [hthen _ hword, a.wordsFrom_spelling ha, List.nil_append]
      _ = word :: a.spelling :: args.map fun a => a.2.spelling := by
          rw [ih hrest (a.spelling_ne_nil ha)]

/-- **The words that are found are those that were written.** -/
theorem words_written {head : List Char} (hhead : IsBareWord head)
    {args : List (List Char × WrittenArg)} (hargs : ArgsWellFormed args) :
    words (head ++ writtenArgs args) = head :: args.map fun a => a.2.spelling := by
  rw [words, wordsFrom_bare hhead.not_blank hhead.not_quote, List.nil_append,
    wordsFrom_writtenArgs hargs hhead.ne_nil]

/-! ### Reading what was written -/

/-- An argument is read as what was meant. -/
theorem WrittenArg.parse_spelling (a : WrittenArg) : Arg.parse a.spelling = a.arg := by
  cases a with
  | bare w => rfl
  | quoted s =>
    have hquoted : quotedText? (WrittenArg.quoted s).spelling = some s := by
      rw [spelling, quotedText?, List.getLast?_concat, if_pos rfl, List.dropLast_concat,
        unescapeQuotes_escapeQuotes]
    rw [Arg.parse, literal?, hquoted]
    rfl

/-- No argument ends in a blank. -/
theorem WrittenArg.getLast?_spelling {a : WrittenArg} (h : a.WellFormed) :
    a.spelling.getLast?.any Text.isBlank = false := by
  cases a with
  | bare w =>
    rw [spelling, List.getLast?_eq_some_getLast h.ne_nil]
    exact h.not_blank _ (List.getLast_mem h.ne_nil)
  | quoted s =>
    rw [spelling, ← List.cons_append, List.getLast?_concat]
    rfl

/-- A written expression neither begins nor ends with a blank. -/
theorem trim_written {head : List Char} (hhead : IsBareWord head)
    {args : List (List Char × WrittenArg)} (hargs : ArgsWellFormed args) :
    Text.trim (head ++ writtenArgs args) = head ++ writtenArgs args := by
  refine Text.trim_eq_self ?_ ?_
  · obtain ⟨c, rest, hcons⟩ := List.exists_cons_of_ne_nil hhead.ne_nil
    rw [hcons, List.cons_append, List.head?_cons]
    exact hhead.not_blank c (by rw [hcons]; exact List.mem_cons_self)
  · induction args using List.reverseRecOn with
    | nil =>
      rw [writtenArgs, List.flatMap_nil, List.append_nil]
      exact WrittenArg.getLast?_spelling (a := .bare head) hhead
    | append_singleton args a =>
      have ha : a.2.WellFormed := (hargs a (by simp)).2
      have hends : head ++ writtenArgs (args ++ [a]) =
          (head ++ (writtenArgs args ++ a.1)) ++ a.2.spelling := by
        simp [writtenArgs]
      rw [hends, List.getLast?_append_of_ne_nil _ (a.2.spelling_ne_nil ha)]
      exact a.2.getLast?_spelling ha

/-- **Reading gives back what was written.** A head and any arguments, written with blanks between
them and around them, are read as that head and those arguments: a text in quotes is itself, with
whatever blanks, quotes and backslashes it holds, and any other word is read on its own. A head
without arguments can be a literal. -/
theorem parse_written {lead head trail : List Char} (hlead : lead.all Text.isBlank = true)
    (htrail : trail.all Text.isBlank = true) (hhead : IsBareWord head)
    {args : List (List Char × WrittenArg)} (hargs : ArgsWellFormed args) :
    Expression.parse (lead ++ (head ++ writtenArgs args ++ trail)) =
      { source := String.ofList (head ++ writtenArgs args)
        head := String.ofList head
        args := args.map fun a => a.2.arg
        literal := if args = [] then literal? head else none } := by
  have hbody : Text.trim (lead ++ (head ++ writtenArgs args ++ trail)) = head ++ writtenArgs args := by
    rw [Text.trim_append_append hlead htrail, trim_written hhead hargs]
  have hargs' : (args.map fun a => a.2.spelling).map Arg.parse = args.map fun a => a.2.arg := by
    rw [List.map_map]
    exact List.map_congr_left fun a _ => a.2.parse_spelling
  rw [Expression.parse, hbody, words_written hhead hargs]
  cases args with
  | nil => rfl
  | cons a args =>
    rw [if_neg (by simp)]
    exact congrArg (fun args => Expression.mk _ _ args none) hargs'

/-- A text with blanks, quotes, and pairs of backslashes before a quote and at its end. -/
theorem parse_written_backslashes :
    let head := "join".toList
    let args : List (List Char × WrittenArg) :=
      [([' ', '\t'], .quoted "a\n\\\\\"b \\\\".toList), (['\u00a0'], .bare "x\\".toList),
        ([' '], .quoted [])]
    IsBareWord head ∧ ArgsWellFormed args ∧
      Expression.parse ([' '] ++ (head ++ writtenArgs args ++ ['\n'])) =
        { source := "join \t\"a\n\\\\\\\"b \\\\\"\u00a0x\\ \"\""
          head := "join"
          args := [.literal (.text "a\n\\\\\"b \\\\"), .path "x\\", .literal (.text "")]
          literal := none } := by
  intro head args
  have hhead : IsBareWord head := by decide
  have hargs : ArgsWellFormed args := by
    have htext : BackslashesPaired "a\n\\\\\"b \\\\".toList := by decide
    have hpath : IsBareWord "x\\".toList := by decide
    have hempty : BackslashesPaired [] := by decide
    simp only [ArgsWellFormed, args, List.forall_mem_cons]
    exact ⟨⟨⟨by decide, rfl⟩, htext⟩, ⟨⟨by decide, rfl⟩, hpath⟩, ⟨⟨by decide, rfl⟩, hempty⟩, by simp⟩
  have hlead : [' '].all Text.isBlank = true := rfl
  have htrail : ['\n'].all Text.isBlank = true := rfl
  exact ⟨hhead, hargs, parse_written hlead htrail hhead hargs⟩

end TieredReport.Markup
