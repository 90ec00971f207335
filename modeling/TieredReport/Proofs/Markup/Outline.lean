/-
# Where blocks are opened and closed

How a parser matches tags depends on the kinds of the blocks that are open and of those beyond the
cap, and on nothing else in its state. Its outline has these, and for each open block also what the
block has from its opening tag (`Parser.outline_piece`).

A block is told from others by its place, which is that of its opening tag. It stays open as long
as the stack is higher than it was before that tag. Every block on the stack was opened at some
place and stayed open (`exists_opensAt`), and a closing tag that finds it turns it into a node with
the kind and the expression of its opening tag (`ClosesAt.node`).

Key definitions: `BlockTag`, `Outline`, `Outline.step`, `Parser.before`, `OpensAt`, `StaysOpen`,
`ClosesAt`.
Key theorems: `Parser.outline_piece`, `outlineAt_succ`, `exists_opensAt`, `StaysOpen.suffix`,
`ClosesAt.node`.
-/
import TieredReport.Proofs.Markup.Spelling

namespace TieredReport.Markup

/-! ### Block tags -/

/-- What a block has from its opening tag. -/
structure BlockHead where
  kind : BlockKind
  openTag : String
  expr : Expression

/-- A tag that opens a block, or one that closes a block of a kind. -/
inductive BlockTag where
  | opening (head : BlockHead)
  | closing (kind : BlockKind)

/-- The block tag that a tag is, by how it is written. -/
def Tag.blockTag? (raw : List Char) : Tag → Option BlockTag
  | .opening kind argument => some (.opening ⟨kind, String.ofList raw, .parse argument⟩)
  | .closing kind => some (.closing kind)
  | _ => none

theorem Tag.eq_closing_of_blockTag? {raw : List Char} {t : Tag} {kind : BlockKind}
    (h : t.blockTag? raw = some (.closing kind)) : t = .closing kind := by
  cases t with
  | closing kind' =>
    cases h
    rfl
  | opening => cases h
  | otherwise => cases h
  | reference => cases h
  | expression => cases h
  | unsupported => cases h

/-- The block tag that a piece is, if it is one. -/
def Piece.blockTag? : Piece → Option BlockTag
  | .text _ => none
  | .tag body => (Tag.ofBody body).blockTag? (tagSpelling body)

/-! ### Outlines -/

/-- The heads of the open blocks and the kinds of the blocks beyond the cap, innermost first. -/
structure Outline where
  opened : List BlockHead
  beyond : List BlockKind

namespace Outline

/-- What a closing tag leaves of the open blocks: those around the innermost one of its kind. -/
def around (kind : BlockKind) (heads : List BlockHead) : List BlockHead :=
  match heads.findIdx? (·.kind = kind) with
  | none => heads
  | some inner => heads.drop (inner + 1)

/-- At an opening tag, a block is opened, or there is one more beyond the cap. -/
def opening (cap : Nat) (o : Outline) (head : BlockHead) : Outline :=
  if o.beyond = [] ∧ o.opened.length < cap then { o with opened := head :: o.opened }
  else { o with beyond := head.kind :: o.beyond }

/-- At a closing tag, an open block ends, or the innermost one beyond the cap if it is of that
kind. -/
def closing (o : Outline) (kind : BlockKind) : Outline :=
  match o.beyond with
  | [] => { o with opened := around kind o.opened }
  | innermost :: outer => if kind = innermost then { o with beyond := outer } else o

/-- What becomes of the outline at a piece that is a block tag or none. -/
def step (cap : Nat) (o : Outline) : Option BlockTag → Outline
  | none => o
  | some (.opening head) => o.opening cap head
  | some (.closing kind) => o.closing kind

variable {o : Outline} {cap : Nat} {t : Option BlockTag} {kind : BlockKind}

theorem opening_of_room (hactive : o.beyond = []) (hroom : o.opened.length < cap)
    (head : BlockHead) : o.opening cap head = ⟨head :: o.opened, []⟩ := by
  rw [opening, if_pos ⟨hactive, hroom⟩, hactive]

theorem opening_of_full (hfull : ¬ (o.beyond = [] ∧ o.opened.length < cap)) (head : BlockHead) :
    o.opening cap head = ⟨o.opened, head.kind :: o.beyond⟩ := if_neg hfull

theorem closing_of_active (hactive : o.beyond = []) (kind : BlockKind) :
    o.closing kind = ⟨around kind o.opened, []⟩ := by
  rw [closing, hactive]

/-- Among blocks beyond the cap only the innermost one of these may end. -/
theorem closing_of_beyond {innermost : BlockKind} {outer : List BlockKind}
    (hbeyond : o.beyond = innermost :: outer) (kind : BlockKind) :
    o.closing kind = ⟨o.opened, if kind = innermost then outer else innermost :: outer⟩ := by
  obtain ⟨opened, beyond⟩ := o
  obtain rfl : beyond = innermost :: outer := hbeyond
  simp only [closing]
  split <;> rfl

variable {heads : List BlockHead}

theorem findIdx?_of_mem (h : kind ∈ heads.map (·.kind)) :
    ∃ inner, heads.findIdx? (·.kind = kind) = some inner ∧ inner < heads.length := by
  obtain ⟨head, hmem, hkind⟩ := List.mem_map.1 h
  have hsome : (heads.findIdx? (·.kind = kind)).isSome = true := by
    rw [List.findIdx?_isSome]
    exact List.any_eq_true.2 ⟨head, hmem, decide_eq_true hkind⟩
  obtain ⟨inner, hinner⟩ := Option.isSome_iff_exists.1 hsome
  exact ⟨inner, hinner, (List.findIdx?_eq_some_iff_getElem.1 hinner).1⟩

theorem findIdx?_of_notMem (h : kind ∉ heads.map (·.kind)) :
    heads.findIdx? (·.kind = kind) = none :=
  List.findIdx?_eq_none_iff.2 fun head hmem => decide_eq_false fun heq =>
    h (List.mem_map.2 ⟨head, hmem, heq⟩)

theorem around_of_notMem (h : kind ∉ heads.map (·.kind)) : around kind heads = heads := by
  rw [around, findIdx?_of_notMem h]

/-- A closing tag leaves alone what is around a list that holds its kind. -/
theorem around_append (h : kind ∈ heads.map (·.kind)) (rest : List BlockHead) :
    around kind (heads ++ rest) = around kind heads ++ rest := by
  obtain ⟨inner, hinner, hlt⟩ := findIdx?_of_mem h
  unfold around
  rw [List.findIdx?_append, hinner]
  exact List.drop_append_of_le_length hlt

theorem around_suffix (kind : BlockKind) (heads : List BlockHead) :
    around kind heads <:+ heads := by
  unfold around
  split
  · exact List.suffix_rfl
  · exact List.drop_suffix _ _

/-- A step takes blocks off the stack, or it is that of an opening tag that puts its block there:
outside blocks beyond the cap, with room under the cap. -/
theorem opened_step (cap : Nat) (o : Outline) (t : Option BlockTag) :
    (o.step cap t).opened <:+ o.opened ∨
      ∃ head, t = some (.opening head) ∧ o.beyond = [] ∧ o.opened.length < cap ∧
        (o.step cap t).opened = head :: o.opened := by
  rcases t with _ | head | kind
  · exact Or.inl List.suffix_rfl
  · by_cases hroom : o.beyond = [] ∧ o.opened.length < cap
    · rw [step, opening_of_room hroom.1 hroom.2]
      exact Or.inr ⟨head, rfl, hroom.1, hroom.2, rfl⟩
    · rw [step, opening_of_full hroom]
      exact Or.inl List.suffix_rfl
  · left
    rw [step]
    cases hbeyond : o.beyond with
    | nil =>
      rw [closing_of_active hbeyond]
      exact around_suffix kind _
    | cons innermost outer =>
      have hsame : (o.closing kind).opened = o.opened := by rw [closing_of_beyond hbeyond]
      exact hsame ▸ List.suffix_rfl

/-- With room under the cap no block is beyond it. -/
theorem beyond_step (hactive : o.beyond = []) (hroom : t ≠ none → o.opened.length < cap) :
    (o.step cap t).beyond = [] := by
  rcases t with _ | head | kind
  · exact hactive
  · rw [step, opening_of_room hactive (hroom (Option.some_ne_none _))]
  · rw [step, closing_of_active hactive]

/-- Where a block is beyond the cap, the open blocks stay as they are. -/
theorem opened_step_of_beyond (hbeyond : (o.step cap t).beyond ≠ []) :
    (o.step cap t).opened = o.opened := by
  rcases t with _ | head | kind
  · rfl
  · rw [step] at hbeyond ⊢
    by_cases hroom : o.beyond = [] ∧ o.opened.length < cap
    · rw [opening_of_room hroom.1 hroom.2] at hbeyond
      exact absurd rfl hbeyond
    · rw [opening_of_full hroom]
  · rw [step] at hbeyond ⊢
    cases hold : o.beyond with
    | nil =>
      rw [closing_of_active hold] at hbeyond
      exact absurd rfl hbeyond
    | cons innermost outer => rw [closing_of_beyond hold]

end Outline

/-! ### The outline of a parser -/

/-- The head of an open block. -/
def OpenBlock.head (b : OpenBlock) : BlockHead := ⟨b.kind, b.openTag, b.expr⟩

theorem OpenBlock.head_update (b : OpenBlock) (f : List Node → List Node) :
    (b.update f).head = b.head := by
  unfold update
  split <;> rfl

namespace Parser

variable {p : Parser}

/-- The outline of a parser. -/
def outline (p : Parser) : Outline := ⟨p.stack.map (·.head), p.verbatim⟩

@[simp] theorem outline_update (p : Parser) (f : List Node → List Node) :
    (p.update f).outline = p.outline := by
  unfold update outline
  split
  · rfl
  · next b rest h => simp [h, OpenBlock.head_update]

@[simp] theorem outline_push (p : Parser) (n : Node) : (p.push n).outline = p.outline :=
  outline_update p _

@[simp] theorem outline_pushText (p : Parser) (s : List Char) :
    (p.pushText s).outline = p.outline :=
  outline_update p _

theorem outline_unwind (count : Nat) (p : Parser) :
    (p.unwind count).outline = ⟨p.outline.opened.drop count, p.outline.beyond⟩ := by
  induction count generalizing p with
  | zero => rfl
  | succ count ih =>
    unfold unwind
    split
    · next h => simp [outline, h]
    · next b rest h =>
      rw [ih, outline_update]
      simp [outline, h]

theorem outline_closeInnermost (p : Parser) :
    p.closeInnermost.outline = ⟨p.outline.opened.drop 1, p.outline.beyond⟩ := by
  unfold closeInnermost
  split
  · next h => simp [outline, h]
  · next b rest h =>
    rw [outline_push]
    simp [outline, h]

theorem findIdx?_outline (p : Parser) (kind : BlockKind) :
    p.outline.opened.findIdx? (·.kind = kind) = p.stack.findIdx? (·.kind = kind) :=
  List.findIdx?_map

theorem outline_close (p : Parser) (kind : BlockKind) (raw : List Char) :
    (p.close kind raw).outline = ⟨Outline.around kind p.outline.opened, p.outline.beyond⟩ := by
  unfold close Outline.around
  rw [findIdx?_outline]
  cases p.stack.findIdx? (·.kind = kind) with
  | none => exact outline_pushText p raw
  | some inner => rw [outline_closeInnermost, outline_unwind, List.drop_drop]

theorem outline_otherwise (p : Parser) (raw : List Char) :
    (p.otherwise raw).outline = p.outline := by
  unfold otherwise
  split
  · exact outline_pushText p raw
  · next b rest h =>
    split
    · simp [outline, h, OpenBlock.head]
    · exact outline_pushText p raw

theorem outline_opening (cap : Nat) (raw : List Char) (kind : BlockKind) (argument : List Char)
    (hactive : p.verbatim = []) :
    (p.opening cap raw kind argument).outline =
      p.outline.opening cap ⟨kind, String.ofList raw, .parse argument⟩ := by
  have hlength : p.outline.opened.length = p.stack.length := List.length_map _
  unfold opening Outline.opening
  rw [hlength]
  by_cases hfull : cap ≤ p.stack.length
  · rw [if_pos hfull, if_neg fun h => absurd h.2 (Nat.not_lt.2 hfull), outline_pushText]
    simp [outline, hactive]
  · rw [if_neg hfull, if_pos ⟨hactive, Nat.not_le.1 hfull⟩]
    rfl

/-- A tag outside blocks beyond the cap. -/
theorem outline_activeTag (cap : Nat) (raw : List Char) (t : Tag) (hactive : p.verbatim = []) :
    (p.activeTag cap raw t).outline = p.outline.step cap (t.blockTag? raw) := by
  cases t with
  | opening kind argument => exact outline_opening cap raw kind argument hactive
  | closing kind =>
    have hbeyond : p.outline.beyond = [] := hactive
    simp only [activeTag, outline_close, Tag.blockTag?, Outline.step, Outline.closing, hbeyond]
  | otherwise => exact outline_otherwise p raw
  | reference body =>
    simp only [activeTag, Tag.blockTag?, Outline.step]
    split
    · exact outline_push p _
    · exact outline_pushText p raw
  | expression body => exact outline_push p _
  | unsupported => exact outline_pushText p raw

/-- A tag among blocks beyond the cap. -/
theorem outline_verbatimTag (cap : Nat) (raw : List Char) (t : Tag) (hbeyond : p.verbatim ≠ []) :
    (p.verbatimTag raw t).outline = p.outline.step cap (t.blockTag? raw) := by
  obtain ⟨innermost, outer, hverbatim⟩ := List.exists_cons_of_ne_nil hbeyond
  unfold verbatimTag
  rw [outline_pushText]
  cases t with
  | opening kind argument =>
    simp [outline, Tag.blockTag?, Outline.step, Outline.opening, hverbatim]
  | closing kind =>
    simp only [outline, Tag.blockTag?, Outline.step, Outline.closing, hverbatim]
    split <;> rfl
  | otherwise => rfl
  | reference body => rfl
  | expression body => rfl
  | unsupported => rfl

/-- **All that a piece does to the outline.** -/
theorem outline_piece (cap : Nat) (p : Parser) (x : Piece) :
    (p.piece cap x).outline = p.outline.step cap x.blockTag? := by
  cases x with
  | text s => exact outline_pushText p s
  | tag body =>
    rw [Parser.piece]
    split
    · next h => exact outline_activeTag cap _ _ (List.isEmpty_iff.1 h)
    · next h => exact outline_verbatimTag cap _ _ fun hnil => h (List.isEmpty_iff.2 hnil)

end Parser

/-! ### Places -/

/-- The parser before the piece at a place. -/
def Parser.before (cap : Nat) (xs : List Piece) (n : Nat) : Parser :=
  (xs.take n).foldl (piece cap) initial

/-- The block tag at a place, if there is one. -/
def tagAt (xs : List Piece) (n : Nat) : Option BlockTag := xs[n]?.bind Piece.blockTag?

/-- The number of blocks that are open before a place. -/
def depthAt (cap : Nat) (xs : List Piece) (n : Nat) : Nat := (Parser.before cap xs n).stack.length

/-- A block is opened at a place: an opening tag is met outside blocks beyond the cap, while fewer
blocks are open than the cap allows. -/
structure OpensAt (cap : Nat) (xs : List Piece) (i : Nat) : Prop where
  tag : ∃ head, tagAt xs i = some (.opening head)
  active : (Parser.before cap xs i).verbatim = []
  room : depthAt cap xs i < cap

/-- The block opened at a place is still open at a later one: the blocks below it on the stack were
never all that was left. -/
def StaysOpen (cap : Nat) (xs : List Piece) (i j : Nat) : Prop :=
  i < j ∧ ∀ k, i < k → k ≤ j → depthAt cap xs i < depthAt cap xs k

/-- The block opened at a place becomes a node at a later one: a closing tag is met outside blocks
beyond the cap, and the innermost open block of its kind is that block. -/
structure ClosesAt (cap : Nat) (xs : List Piece) (i j : Nat) : Prop where
  opens : OpensAt cap xs i
  stays : StaysOpen cap xs i j
  active : (Parser.before cap xs j).verbatim = []
  closes : ∃ kind inner, tagAt xs j = some (.closing kind) ∧
    (Parser.before cap xs j).stack.findIdx? (·.kind = kind) = some inner ∧
    depthAt cap xs i + 1 + inner = depthAt cap xs j

/-- The outline of the parser before a place. -/
def outlineAt (cap : Nat) (xs : List Piece) (n : Nat) : Outline := (Parser.before cap xs n).outline

variable {cap : Nat} {xs : List Piece} {i j n : Nat}

theorem length_outlineAt (cap : Nat) (xs : List Piece) (n : Nat) :
    (outlineAt cap xs n).opened.length = depthAt cap xs n :=
  List.length_map _

theorem before_succ (cap : Nat) (xs : List Piece) (n : Nat) :
    Parser.before cap xs (n + 1) = xs[n]?.toList.foldl (Parser.piece cap) (.before cap xs n) := by
  rw [Parser.before, List.take_add_one, List.foldl_append, Parser.before]

/-- **The outline goes from place to place by steps.** -/
theorem outlineAt_succ (cap : Nat) (xs : List Piece) (n : Nat) :
    outlineAt cap xs (n + 1) = (outlineAt cap xs n).step cap (tagAt xs n) := by
  rw [outlineAt, before_succ, tagAt]
  cases xs[n]? with
  | none => rfl
  | some x => exact Parser.outline_piece cap _ x

/-- From a place to the next one blocks are taken off the stack, or one is opened. -/
theorem opened_succ (cap : Nat) (xs : List Piece) (n : Nat) :
    (outlineAt cap xs (n + 1)).opened <:+ (outlineAt cap xs n).opened ∨
      OpensAt cap xs n ∧ ∃ head, tagAt xs n = some (.opening head) ∧
        (outlineAt cap xs (n + 1)).opened = head :: (outlineAt cap xs n).opened := by
  rw [outlineAt_succ]
  rcases Outline.opened_step cap (outlineAt cap xs n) (tagAt xs n) with
    hsuffix | ⟨head, htag, hactive, hroom, heq⟩
  · exact Or.inl hsuffix
  · rw [length_outlineAt] at hroom
    exact Or.inr ⟨⟨⟨head, htag⟩, hactive, hroom⟩, head, htag, heq⟩

/-- The depth grows only where a block is opened. -/
theorem depthAt_succ (cap : Nat) (xs : List Piece) (n : Nat) :
    depthAt cap xs (n + 1) ≤ depthAt cap xs n ∨
      OpensAt cap xs n ∧ depthAt cap xs (n + 1) = depthAt cap xs n + 1 := by
  rw [← length_outlineAt, ← length_outlineAt]
  rcases opened_succ cap xs n with hsuffix | ⟨hopens, head, -, heq⟩
  · exact Or.inl hsuffix.length_le
  · rw [heq]
    exact Or.inr ⟨hopens, rfl⟩

theorem depthAt_le (cap : Nat) (xs : List Piece) (n : Nat) : depthAt cap xs n ≤ n := by
  induction n with
  | zero => exact Nat.le_refl 0
  | succ n ih =>
    rcases depthAt_succ cap xs n with hle | ⟨-, heq⟩ <;> omega

theorem StaysOpen.succ (h : StaysOpen cap xs i n)
    (hdepth : depthAt cap xs i < depthAt cap xs (n + 1)) : StaysOpen cap xs i (n + 1) := by
  refine ⟨Nat.lt_succ_of_lt h.1, fun k hi hk => ?_⟩
  rcases Nat.le_succ_iff.1 hk with hk | rfl
  · exact h.2 k hi hk
  · exact hdepth

/-- **Every block on the stack was opened somewhere** and stayed open. -/
theorem exists_opensAt {d : Nat} (h : d < depthAt cap xs n) :
    ∃ i, OpensAt cap xs i ∧ depthAt cap xs i = d ∧ StaysOpen cap xs i n := by
  induction n with
  | zero => exact absurd h (Nat.not_lt_zero d)
  | succ n ih =>
    have hearlier (hd : d < depthAt cap xs n) :
        ∃ i, OpensAt cap xs i ∧ depthAt cap xs i = d ∧ StaysOpen cap xs i (n + 1) := by
      obtain ⟨i, hopens, hdepth, hstays⟩ := ih hd
      exact ⟨i, hopens, hdepth, hstays.succ (hdepth ▸ h)⟩
    rcases depthAt_succ cap xs n with hle | ⟨hopens, heq⟩
    · exact hearlier (Nat.lt_of_lt_of_le h hle)
    · rw [heq] at h
      rcases Nat.lt_succ_iff_lt_or_eq.1 h with hd | rfl
      · exact hearlier hd
      · refine ⟨n, hopens, rfl, Nat.lt_succ_self n, fun k hn hk => ?_⟩
        obtain rfl : k = n + 1 := Nat.le_antisymm hk hn
        exact heq ▸ Nat.lt_succ_self _

/-! ### What a block becomes -/

/-- The block opened at a place is on the stack behind it. -/
theorem OpensAt.opened_succ (h : OpensAt cap xs i) {head : BlockHead}
    (htag : tagAt xs i = some (.opening head)) :
    (outlineAt cap xs (i + 1)).opened = head :: (outlineAt cap xs i).opened := by
  have hroom : (outlineAt cap xs i).opened.length < cap := length_outlineAt cap xs i ▸ h.room
  rw [outlineAt_succ, htag, Outline.step, Outline.opening_of_room h.active hroom]

/-- As long as a block is open, it is on the stack with all that is below it. -/
theorem StaysOpen.suffix (h : StaysOpen cap xs i n) :
    (outlineAt cap xs (i + 1)).opened <:+ (outlineAt cap xs n).opened := by
  obtain ⟨hi, hdepth⟩ := h
  induction hi with
  | refl => exact List.suffix_rfl
  | @step n hi ih =>
    have hbefore := ih fun k hik hkn => hdepth k hik (Nat.le_succ_of_le hkn)
    rcases Markup.opened_succ cap xs n with hsuffix | ⟨-, head, -, heq⟩
    · refine List.suffix_of_suffix_length_le hbefore hsuffix ?_
      have hgrown : depthAt cap xs (i + 1) ≤ depthAt cap xs i + 1 := by
        rcases depthAt_succ cap xs i with hle | ⟨-, heq⟩ <;> omega
      rw [length_outlineAt, length_outlineAt]
      exact Nat.le_trans hgrown (hdepth (n + 1) (Nat.lt_succ_of_lt hi) (Nat.le_refl _))
    · rw [heq]
      exact hbefore.trans (List.suffix_cons _ _)

/-- **A block that is closed becomes a node** with the kind and the expression of its opening tag,
among what it was opened in. -/
theorem ClosesAt.node (h : ClosesAt cap xs i j) :
    ∃ (head : BlockHead) (p : Parser) (primary alternate : List Node),
      tagAt xs i = some (.opening head) ∧ p.stack.length = depthAt cap xs i ∧
      Parser.before cap xs (j + 1) = p.push (.block head.kind head.expr primary alternate) := by
  obtain ⟨head, htag⟩ := h.opens.tag
  have hopened := h.opens.opened_succ htag
  obtain ⟨kind, inner, hclosing, hinner, hdepth⟩ := h.closes
  obtain ⟨x, hx, hbody⟩ := Option.bind_eq_some_iff.1 hclosing
  -- flattening the blocks inside brings the block back to the top of the stack
  let unwound := (Parser.before cap xs j).unwind inner
  have hunwound : unwound.stack.map (·.head) = head :: (outlineAt cap xs i).opened := by
    have hdrop := List.suffix_iff_eq_drop.1 h.stays.suffix
    have hcount : depthAt cap xs j - depthAt cap xs (i + 1) = inner := by
      rw [← length_outlineAt cap xs (i + 1), hopened, List.length_cons, length_outlineAt]
      omega
    rw [length_outlineAt, length_outlineAt, hcount] at hdrop
    rw [← hopened, hdrop]
    exact congrArg Outline.opened (Parser.outline_unwind inner _)
  obtain ⟨b, rest, hstack, hb, hrest⟩ := List.map_eq_cons_iff.1 hunwound
  have hlength : rest.length = depthAt cap xs i := by
    rw [← length_outlineAt, ← hrest, List.length_map]
  refine ⟨head, { unwound with stack := rest }, b.primary, b.alternate, htag, hlength, ?_⟩
  have hclose : Parser.before cap xs (j + 1) = unwound.closeInnermost := by
    rw [before_succ, hx]
    cases x with
    | text s => cases hbody
    | tag body =>
      have htag : Tag.ofBody body = .closing kind := Tag.eq_closing_of_blockTag? hbody
      simp only [Option.toList, List.foldl_cons, List.foldl_nil, Parser.piece, h.active,
        List.isEmpty_nil, if_true, htag, Parser.activeTag, Parser.close, hinner]
      rfl
  rw [hclose, Parser.closeInnermost, hstack, ← hb]
  rfl

end TieredReport.Markup
