/-
# Pieces of a source: text and tags

A tag runs from `{{` to the next `}}`; everything else is text, also a `{{`
that no `}}` follows. Tags are told apart by their trimmed bodies.

Key definitions: `Markup.BlockKind`, `Markup.Tag`, `Markup.Tag.ofBody`, `Markup.Piece`,
`Markup.cutPair?`, `Markup.pieces`.
Key theorems: `Markup.cutPair?_eq_some`, `Markup.pieces_spelling`.
-/
import TieredReport.Markup.Expression

namespace TieredReport.Markup

/-- The two kinds of block. -/
inductive BlockKind where
  | cond
  | loop
  deriving DecidableEq

/-- What a tag does. The bodies are trimmed. -/
inductive Tag where
  | opening (kind : BlockKind) (argument : List Char)
  | closing (kind : BlockKind)
  | otherwise
  | reference (body : List Char)
  | expression (body : List Char)
  | unsupported
  deriving DecidableEq

/-- The argument of a block tag with this keyword. -/
def blockArgument? (keyword tag : List Char) : Option (List Char) :=
  match Text.afterStart? keyword tag with
  | some [] => some []
  | some (c :: rest) => if Text.isBlank c then some (Text.trim (c :: rest)) else none
  | none => none

/-- A tag that opens no block, by its trimmed body. -/
def Tag.ofPlainBody (tag : List Char) : Tag :=
  if tag = "/if".toList then .closing .cond
  else if tag = "/each".toList then .closing .loop
  else if tag = "else".toList then .otherwise
  else
    match tag with
    | '>' :: rest => .reference (Text.trim rest)
    | '#' :: _ | '/' :: _ => .unsupported
    | _ => .expression tag

/-- The tag with this body. -/
def Tag.ofBody (body : List Char) : Tag :=
  let tag := Text.trim body
  match blockArgument? "#if".toList tag with
  | some argument => .opening .cond argument
  | none =>
    match blockArgument? "#each".toList tag with
    | some argument => .opening .loop argument
    | none => .ofPlainBody tag

/-! ### Pieces -/

/-- A piece of a source: text, or the body of a tag. -/
inductive Piece where
  | text (s : List Char)
  | tag (body : List Char)
  deriving DecidableEq

/-- A tag with this body as it is written. -/
def tagSpelling (body : List Char) : List Char := '{' :: '{' :: (body ++ ['}', '}'])

/-- A piece as it is written. -/
def Piece.spelling : Piece → List Char
  | .text s => s
  | .tag body => tagSpelling body

/-- The text before and after the first occurrence of a doubled character. -/
def cutPair? (mark : Char) : List Char → Option (List Char × List Char)
  | a :: b :: rest =>
    if a = mark ∧ b = mark then some ([], rest)
    else (cutPair? mark (b :: rest)).map fun (before, after) => (a :: before, after)
  | _ => none

/-- A cut loses nothing but the doubled character. -/
theorem cutPair?_eq_some {mark : Char} {s before after : List Char}
    (h : cutPair? mark s = some (before, after)) : s = before ++ mark :: mark :: after := by
  fun_induction cutPair? mark s generalizing before with
  | case1 a b rest hab => cases h; simp [hab.1, hab.2]
  | case2 a b rest hab ih =>
    obtain ⟨⟨before', after'⟩, hcut, heq⟩ := Option.map_eq_some_iff.1 h
    cases heq
    rw [ih hcut]
    rfl
  | case3 s hs => simp at h

/-- A piece of text, unless it is empty, before the pieces that follow. -/
def textThen (s : List Char) (rest : List Piece) : List Piece :=
  if s.isEmpty then rest else .text s :: rest

/-- The pieces of a source. -/
def pieces (s : List Char) : List Piece :=
  match _hopen : cutPair? '{' s with
  | none => textThen s []
  | some (before, inside) =>
    match _hclose : cutPair? '}' inside with
    | none => textThen s []
    | some (body, rest) => textThen before (.tag body :: pieces rest)
termination_by s.length
decreasing_by
  rw [cutPair?_eq_some _hopen, cutPair?_eq_some _hclose]
  simp only [List.length_append, List.length_cons]
  omega

/-- The pieces of a source, written one after the other, are the source. -/
theorem pieces_spelling (s : List Char) : (pieces s).flatMap Piece.spelling = s := by
  fun_induction pieces s with
  | case1 s hopen => unfold textThen; split <;> simp_all [Piece.spelling]
  | case2 s before inside hopen hclose => unfold textThen; split <;> simp_all [Piece.spelling]
  | case3 s before inside hopen body rest hclose ih =>
    have h : s = before ++ (tagSpelling body ++ rest) := by
      rw [cutPair?_eq_some hopen, cutPair?_eq_some hclose]
      simp [tagSpelling]
    rw [h]
    unfold textThen
    split
    · next he => simp [List.isEmpty_iff.1 he, Piece.spelling, ih]
    · simp [Piece.spelling, ih]

end TieredReport.Markup
