/-
# Where the scan cuts a source

A tag is found by looking for the first `{{` and, behind it, the first `}}`.
Both cuts fall where the writer meant them if what stands before the mark is
`Clear`: the mark's character is not doubled in it and does not end it. So a
source can be put together from texts and tags that are clear of their marks,
and the scan takes it apart again (`pieces_append_tag`, `pieces_text`); and the
body of every tag that a scan finds is clear (`clear_of_mem_pieces`).

Key definitions: `Clear`, `IsTag`.
Key theorems: `cutPair?_append`, `pieces_append_tag`, `clear_of_mem_pieces`.
-/
import TieredReport.Markup.Tag

namespace TieredReport.Markup

/-- What may stand before a doubled mark: the mark is not doubled in it, and it does not end in
one. -/
structure Clear (mark : Char) (s : List Char) : Prop where
  undoubled : ¬ [mark, mark] <:+: s
  last_ne : s.getLast? ≠ some mark

/-- The text is a tag, and the tag reads as `tag`. -/
def IsTag (raw : List Char) (tag : Tag) : Prop :=
  ∃ body, raw = tagSpelling body ∧ Clear '}' body ∧ Tag.ofBody body = tag

/-! ### Clear texts -/

theorem clear_nil (mark : Char) : Clear mark [] := ⟨by simp, by simp⟩

/-- A character before a text doubles the mark only together with the first one of the text. -/
theorem infix_cons_cons {mark a b : Char} {s : List Char} :
    [mark, mark] <:+: a :: b :: s ↔ (a = mark ∧ b = mark) ∨ [mark, mark] <:+: b :: s := by
  rw [List.infix_cons_iff, List.cons_prefix_cons, List.cons_prefix_cons]
  simp only [List.nil_prefix, and_true]
  exact or_congr_left ⟨fun h => ⟨h.1.symm, h.2.symm⟩, fun h => ⟨h.1.symm, h.2.symm⟩⟩

theorem clear_singleton {mark a : Char} : Clear mark [a] ↔ a ≠ mark := by
  constructor
  · intro h ha
    exact h.last_ne (by simp [ha])
  · intro ha
    refine ⟨fun h => ?_, by simpa using ha⟩
    have := h.length_le
    simp at this

theorem clear_cons_cons {mark a b : Char} {s : List Char} :
    Clear mark (a :: b :: s) ↔ ¬ (a = mark ∧ b = mark) ∧ Clear mark (b :: s) := by
  constructor
  · intro h
    have hd := h.undoubled
    rw [infix_cons_cons, not_or] at hd
    exact ⟨hd.1, hd.2, by simpa [List.getLast?_cons_cons] using h.last_ne⟩
  · rintro ⟨hab, h⟩
    refine ⟨?_, by simpa [List.getLast?_cons_cons] using h.last_ne⟩
    rw [infix_cons_cons, not_or]
    exact ⟨hab, h.undoubled⟩

/-- A text stays clear behind a text without the mark. -/
theorem Clear.append_left {mark : Char} : ∀ {start s : List Char}, mark ∉ start → Clear mark s →
    Clear mark (start ++ s)
  | [], _, _, h => h
  | [a], [], hs, _ => clear_singleton.2 fun ha => hs (by simp [ha])
  | [a], b :: s, hs, h => clear_cons_cons.2 ⟨fun hab => hs (by simp [hab.1]), h⟩
  | a :: b :: start, s, hs, h =>
    clear_cons_cons.2 ⟨fun hab => hs (by simp [hab.1]),
      @append_left mark (b :: start) s (fun hb => hs (List.mem_cons_of_mem _ hb)) h⟩

/-! ### Cutting at the first doubled mark -/

/-- A clear text is what stands before the first doubled mark. -/
theorem cutPair?_append {mark : Char} : ∀ {s : List Char} (rest : List Char), Clear mark s →
    cutPair? mark (s ++ mark :: mark :: rest) = some (s, rest)
  | [], _, _ => by simp [cutPair?]
  | [a], rest, h => by
    have ha : a ≠ mark := clear_singleton.1 h
    simp [cutPair?, ha]
  | a :: b :: s, rest, h => by
    obtain ⟨hab, hs⟩ := clear_cons_cons.1 h
    have ih := cutPair?_append rest hs
    simp only [List.cons_append] at ih ⊢
    rw [cutPair?, if_neg hab, ih]
    rfl

/-- What stands before the first doubled mark is clear. -/
theorem clear_of_cutPair? {mark : Char} {s before after : List Char}
    (h : cutPair? mark s = some (before, after)) : Clear mark before := by
  fun_induction cutPair? mark s generalizing before with
  | case1 a b rest hab =>
    cases h
    exact clear_nil mark
  | case2 a b rest hab ih =>
    obtain ⟨⟨before', after'⟩, hcut, heq⟩ := Option.map_eq_some_iff.1 h
    cases heq
    have hclear := ih hcut
    -- what follows `a` is either the doubled mark itself or another character before it
    have hs := cutPair?_eq_some hcut
    cases before' with
    | nil =>
      obtain ⟨rfl, -⟩ := List.cons.inj hs
      exact clear_singleton.2 fun ha => hab ⟨ha, rfl⟩
    | cons c before' =>
      obtain ⟨rfl, -⟩ := List.cons.inj hs
      exact clear_cons_cons.2 ⟨hab, hclear⟩
  | case3 s hs => simp at h

/-- Without a doubled mark there is no cut. -/
theorem cutPair?_eq_none {mark : Char} {s : List Char} (h : ¬ [mark, mark] <:+: s) :
    cutPair? mark s = none := by
  cases hcut : cutPair? mark s with
  | none => rfl
  | some cut =>
    obtain ⟨before, after⟩ := cut
    refine absurd ?_ h
    rw [cutPair?_eq_some hcut]
    exact ⟨before, after, by simp⟩

/-! ### The pieces of a source -/

theorem tagSpelling_append (body rest : List Char) :
    tagSpelling body ++ rest = '{' :: '{' :: (body ++ '}' :: '}' :: rest) := by
  simp [tagSpelling]

/-- A source that starts with a clear text and a tag has these as its first pieces. -/
theorem pieces_append_tag {s body : List Char} (rest : List Char) (hs : Clear '{' s)
    (hbody : Clear '}' body) :
    pieces (s ++ (tagSpelling body ++ rest)) = textThen s (.tag body :: pieces rest) := by
  have hopen := cutPair?_append (body ++ '}' :: '}' :: rest) hs
  have hclose := cutPair?_append rest hbody
  rw [tagSpelling_append, pieces]
  split
  · next h => simp [h] at hopen
  · next before inside h =>
    obtain ⟨rfl, rfl⟩ : before = s ∧ inside = body ++ '}' :: '}' :: rest := by
      simpa [h] using hopen
    split
    · next h' => simp [h'] at hclose
    · next body' rest' h' =>
      obtain ⟨rfl, rfl⟩ : body' = body ∧ rest' = rest := by simpa [h'] using hclose
      rfl

/-- A source without a tag is one text. -/
theorem pieces_text {s : List Char} (h : ¬ ['{', '{'] <:+: s) : pieces s = textThen s [] := by
  have hopen := cutPair?_eq_none h
  rw [pieces]
  split
  · rfl
  · next before inside h' => simp [h'] at hopen

theorem mem_textThen {x : Piece} {s : List Char} {rest : List Piece} (h : x ∈ textThen s rest) :
    x = .text s ∨ x ∈ rest := by
  unfold textThen at h
  split at h
  · exact Or.inr h
  · exact List.mem_cons.1 h

/-- The body of a tag that the scan finds is clear. -/
theorem clear_of_mem_pieces {s body : List Char} (h : .tag body ∈ pieces s) : Clear '}' body := by
  fun_induction pieces s with
  | case1 s hopen =>
    rcases mem_textThen h with h | h <;> simp at h
  | case2 s before inside hopen hclose =>
    rcases mem_textThen h with h | h <;> simp at h
  | case3 s before inside hopen body' rest hclose ih =>
    rcases mem_textThen h with h | h
    · simp at h
    · rcases List.mem_cons.1 h with h | h
      · cases h
        exact clear_of_cutPair? hclose
      · exact ih h

end TieredReport.Markup
