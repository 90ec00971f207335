/-
# Cutting text at a separator

Dotted paths, `key=value` arguments, locale tags and the fraction of a decimal
are all cut at a single character; `List.splitOn`-style results keep empty
pieces.

Key definitions: `Text.splitOn`, `Text.cut?`, `Text.afterStart?`, `Text.beforeEnd?`.
Key theorems: `Text.cut?_eq_some`, `Text.cut?_eq_none_iff`, `Text.cut?_append`,
`Text.splitOn_eq_cut?`.
-/

namespace TieredReport.Text

/-- The pieces of a text between the occurrences of a separator, empty ones included. -/
def splitOn (sep : Char) : List Char → List (List Char)
  | [] => [[]]
  | c :: rest =>
    if c = sep then [] :: splitOn sep rest
    else
      match splitOn sep rest with
      | [] => [[c]]
      | piece :: pieces => (c :: piece) :: pieces

/-- The text before and after the first occurrence of a separator. -/
def cut? (sep : Char) : List Char → Option (List Char × List Char)
  | [] => none
  | c :: rest =>
    if c = sep then some ([], rest)
    else (cut? sep rest).map fun (before, after) => (c :: before, after)

/-- What follows a given beginning. -/
def afterStart? : (start : List Char) → List Char → Option (List Char)
  | [], s => some s
  | _ :: _, [] => none
  | p :: ps, c :: cs => if p = c then afterStart? ps cs else none

/-- What precedes a given ending. -/
def beforeEnd? (ending s : List Char) : Option (List Char) :=
  (afterStart? ending.reverse s.reverse).map List.reverse

/-- A cut loses nothing but the separator, and takes the first one. -/
theorem cut?_eq_some {sep : Char} {s before after : List Char} (h : cut? sep s = some (before, after)) :
    s = before ++ sep :: after ∧ sep ∉ before := by
  induction s generalizing before with
  | nil => simp [cut?] at h
  | cons c rest ih =>
    unfold cut? at h
    split at h
    · next hc => cases h; simp [hc]
    · next hc =>
      obtain ⟨⟨b, a⟩, hcut, heq⟩ := Option.map_eq_some_iff.1 h
      cases heq
      obtain ⟨hs, hmem⟩ := ih hcut
      exact ⟨by rw [hs]; rfl, by simp [hmem, Ne.symm hc]⟩

/-- There is no cut where there is no separator. -/
theorem cut?_eq_none_iff {sep : Char} {s : List Char} : cut? sep s = none ↔ sep ∉ s := by
  induction s with
  | nil => simp [cut?]
  | cons c rest ih =>
    rw [cut?]
    split
    · next hc => simp [hc]
    · next hc => simp [ih, Ne.symm hc]

/-- A text is cut at a separator that none stands before. -/
theorem cut?_append {sep : Char} {before : List Char} (h : sep ∉ before) (after : List Char) :
    cut? sep (before ++ sep :: after) = some (before, after) := by
  induction before with
  | nil => simp [cut?]
  | cons c before ih =>
    obtain ⟨hc, hbefore⟩ := List.ne_and_not_mem_of_not_mem_cons h
    rw [List.cons_append, cut?, if_neg hc.symm, ih hbefore]
    rfl

/-- The first piece of a text ends where a cut takes it, and the others are those of the rest. -/
theorem splitOn_eq_cut? (sep : Char) (s : List Char) : splitOn sep s =
    match cut? sep s with
    | none => [s]
    | some (before, after) => before :: splitOn sep after := by
  induction s with
  | nil => rfl
  | cons c rest ih =>
    rw [splitOn, cut?]
    by_cases hc : c = sep
    · rw [if_pos hc, if_pos hc]
    · rw [if_neg hc, if_neg hc, ih]
      cases cut? sep rest <;> rfl

end TieredReport.Text
