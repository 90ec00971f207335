/-
# Parsing loses nothing

A tree spells a text if the text can be read off it from left to right: a text,
an expression and a reference stand for what was written, and a block for its
opening tag, its branches, the else tag between them and its closing tag. The
tags of a block are not kept in the tree, so they may be any that read alike.

Every source is spelled by its tree (`parse_spells`), whatever is wrong with
it. What carries the proof is the text that a parser holds halfway
(`Parser.Holds`): the nodes that are finished spell a beginning, and every open
block its opening tag and what has been read behind it. Each way of going on
adds the next piece to the end of that text, and flattening a block into what
encloses it leaves the text alone.

Key definitions: `SpellsNode`, `Spells`, `OpenBlock.Holds`, `Parser.Holds`.
Key theorems: `Parser.Holds.update`, `Parser.Holds.unwind`, `Parser.Holds.piece`,
`parse_spells`.
-/
import TieredReport.Markup.Tree
import TieredReport.Proofs.Markup.Scan

namespace TieredReport.Markup

mutual

/-- The texts that a node may have been written as. -/
inductive SpellsNode : Node → List Char → Prop where
  | text (s : String) : SpellsNode (.text s) s.toList
  | expression {raw : String} {x : List Char} :
      IsTag raw.toList (.expression x) → SpellsNode (.expression raw (.parse x)) raw.toList
  | reference {raw name : String} {args : List (String × Arg)} {x : List Char} :
      IsTag raw.toList (.reference x) → reference? x = some (name, args) →
      SpellsNode (.reference raw name args) raw.toList
  | block {kind : BlockKind} {o c a s : List Char} {primary : List Node} :
      IsTag o (.opening kind a) → Spells primary s → IsTag c (.closing kind) →
      SpellsNode (.block kind (.parse a) primary []) (o ++ s ++ c)
  | blockElse {kind : BlockKind} {o e c a s t : List Char} {primary alternate : List Node} :
      IsTag o (.opening kind a) → Spells primary s → IsTag e .otherwise → Spells alternate t →
      IsTag c (.closing kind) →
      SpellsNode (.block kind (.parse a) primary alternate) (o ++ s ++ (e ++ t) ++ c)

/-- The texts that some nodes, one after the other, may have been written as. -/
inductive Spells : List Node → List Char → Prop where
  | nil : Spells [] []
  | cons {n : Node} {ns : List Node} {s t : List Char} :
      SpellsNode n s → Spells ns t → Spells (n :: ns) (s ++ t)

end

/-! ### Putting nodes together -/

theorem Spells.singleton {n : Node} {s : List Char} (h : SpellsNode n s) : Spells [n] s := by
  have := Spells.cons h .nil
  rwa [List.append_nil] at this

theorem Spells.append {ns ms : List Node} {s t : List Char} (hn : Spells ns s) (hm : Spells ms t) :
    Spells (ns ++ ms) (s ++ t) := by
  induction ns generalizing s with
  | nil =>
    cases hn
    exact hm
  | cons n ns ih =>
    cases hn with
    | cons h hrest =>
      rw [List.cons_append, List.append_assoc]
      exact .cons h (ih hrest)

theorem spells_text (s : List Char) : Spells [.text (String.ofList s)] s := by
  have := SpellsNode.text (String.ofList s)
  rw [String.toList_ofList] at this
  exact .singleton this

/-- A text stands for itself only. -/
theorem SpellsNode.eq_of_text {u : String} {s : List Char} (h : SpellsNode (.text u) s) :
    s = u.toList := by
  generalize hn : Node.text u = n at h
  cases h with
  | text u' => rw [Node.text.inj hn]
  | expression => cases hn
  | reference => cases hn
  | @block kind => cases kind <;> cases hn
  | @blockElse kind => cases kind <;> cases hn

theorem spellsNode_expression {raw x : List Char} (h : IsTag raw (.expression x)) :
    SpellsNode (.expression (String.ofList raw) (.parse x)) raw := by
  have := @SpellsNode.expression (String.ofList raw) x
  rw [String.toList_ofList] at this
  exact this h

theorem spellsNode_reference {raw x : List Char} {name : String} {args : List (String × Arg)}
    (h : IsTag raw (.reference x)) (hx : reference? x = some (name, args)) :
    SpellsNode (.reference (String.ofList raw) name args) raw := by
  have := @SpellsNode.reference (String.ofList raw) name args x
  rw [String.toList_ofList] at this
  exact this h hx

/-- A text goes to the end, whether it joins the last node or becomes one. -/
theorem Spells.appendText {ns : List Node} {s : List Char} (h : Spells ns s) (t : String) :
    Spells (appendText ns t) (s ++ t.toList) := by
  fun_induction Markup.appendText ns t generalizing s with
  | case1 t =>
    cases h
    exact .singleton (.text t)
  | case2 u t =>
    cases h with
    | cons hu hnil =>
      cases hnil
      rw [hu.eq_of_text, List.append_nil, ← String.toList_append]
      exact .singleton (.text (u ++ t))
  | case3 n rest t _ ih =>
    cases h with
    | cons hn hrest =>
      rw [List.append_assoc]
      exact .cons hn (ih hrest)

/-! ### The text of an open block -/

/-- The text that an open block holds: its opening tag and what was read behind it. -/
inductive OpenBlock.Holds : OpenBlock → List Char → Prop where
  | primary {kind : BlockKind} {o a s : List Char} {ns : List Node} :
      IsTag o (.opening kind a) → Spells ns s →
      Holds ⟨kind, String.ofList o, .parse a, ns, none, []⟩ (o ++ s)
  | alternate {kind : BlockKind} {o a e s t : List Char} {ns ms : List Node} :
      IsTag o (.opening kind a) → Spells ns s → IsTag e .otherwise → Spells ms t →
      Holds ⟨kind, String.ofList o, .parse a, ns, some (String.ofList e), ms⟩ (o ++ s ++ (e ++ t))

/-- A change to a list of nodes that adds a text to the end of what they spell. -/
def Adds (f : List Node → List Node) (x : List Char) : Prop :=
  ∀ ns s, Spells ns s → Spells (f ns) (s ++ x)

namespace OpenBlock

variable {b : OpenBlock} {s x : List Char}

theorem holds_start {kind : BlockKind} {raw argument : List Char}
    (h : IsTag raw (.opening kind argument)) :
    (start kind (String.ofList raw) argument).Holds raw := by
  have := Holds.primary h .nil
  rwa [List.append_nil] at this

/-- What is added goes to the branch that is being filled, which is the end of the block. -/
theorem Holds.update {f : List Node → List Node} (h : b.Holds s) (hf : Adds f x) :
    (b.update f).Holds (s ++ x) := by
  cases h with
  | primary ho hs =>
    rw [List.append_assoc]
    exact .primary ho (hf _ _ hs)
  | alternate ho hs he ht =>
    rw [List.append_assoc, List.append_assoc _ _ x]
    exact .alternate ho hs he (hf _ _ ht)

/-- An else tag begins the other branch. -/
theorem Holds.otherwise {e : List Char} (h : b.Holds s) (hnone : b.elseTag = none)
    (he : IsTag e .otherwise) : { b with elseTag := some (String.ofList e) }.Holds (s ++ e) := by
  cases h with
  | primary ho hs =>
    have := Holds.alternate ho hs he .nil
    rwa [List.append_nil] at this
  | alternate => simp at hnone

/-- Flattening changes nothing that is spelled. -/
theorem Holds.flatten (h : b.Holds s) : Spells b.flatten s := by
  cases h with
  | primary ho hs =>
    simp only [OpenBlock.flatten, List.append_nil]
    exact (spells_text _).append hs
  | alternate ho hs he ht =>
    rw [List.append_assoc]
    exact (spells_text _).append (hs.append ((spells_text _).append ht))

/-- A closing tag of its kind makes the block a node. -/
theorem Holds.toNode {c : List Char} (h : b.Holds s) (hc : IsTag c (.closing b.kind)) :
    SpellsNode b.toNode (s ++ c) := by
  cases h with
  | primary ho hs => exact .block ho hs hc
  | alternate ho hs he ht => exact .blockElse ho hs he ht hc

theorem kind_update (b : OpenBlock) (f : List Node → List Node) : (b.update f).kind = b.kind := by
  unfold update
  split <;> rfl

end OpenBlock

/-! ### The text of a parser -/

/-- The text held by the finished nodes and the open blocks on a stack, the innermost last. -/
inductive Held (root : List Node) : List OpenBlock → List Char → Prop where
  | root {s : List Char} : Spells root s → Held root [] s
  | block {b : OpenBlock} {rest : List OpenBlock} {s t : List Char} :
      Held root rest s → b.Holds t → Held root (b :: rest) (s ++ t)

namespace Parser

variable {p : Parser} {s x : List Char}

/-- The parser holds the text `s`: it is what was read so far. -/
def Holds (p : Parser) (s : List Char) : Prop := Held p.root p.stack s

theorem holds_initial : initial.Holds [] := .root .nil

theorem Holds.update {f : List Node → List Node} (h : p.Holds s) (hf : Adds f x) :
    (p.update f).Holds (s ++ x) := by
  obtain ⟨root, stack, verbatim, tooDeep⟩ := p
  cases h with
  | root hs => exact .root (hf _ _ hs)
  | block hrest hb =>
    rw [List.append_assoc]
    exact .block hrest (hb.update hf)

theorem Holds.push {n : Node} (h : p.Holds s) (hn : SpellsNode n x) : (p.push n).Holds (s ++ x) :=
  h.update fun _ _ hns => hns.append (.singleton hn)

theorem Holds.pushText (h : p.Holds s) (x : List Char) : (p.pushText x).Holds (s ++ x) := by
  refine h.update fun ns t hns => ?_
  have := hns.appendText (String.ofList x)
  rwa [String.toList_ofList] at this

/-- Unwinding leaves the text alone. -/
theorem Holds.unwind (count : Nat) (h : p.Holds s) : (p.unwind count).Holds s := by
  induction count generalizing p with
  | zero => exact h
  | succ count ih =>
    obtain ⟨root, stack, verbatim, tooDeep⟩ := p
    cases h with
    | root hs => exact .root hs
    | @block b rest s t hrest hb =>
      have hrest' : Holds ⟨root, rest, verbatim, tooDeep⟩ s := hrest
      exact ih (hrest'.update fun ns u hns => hns.append hb.flatten)

/-- Adding nodes opens and closes no block. -/
theorem kinds_update (p : Parser) (f : List Node → List Node) :
    (p.update f).stack.map (·.kind) = p.stack.map (·.kind) := by
  unfold update
  split
  · next h => simp [h]
  · next b rest h => simp [h, OpenBlock.kind_update]

/-- Unwinding takes the innermost blocks off the stack and no other. -/
theorem kinds_unwind (count : Nat) (p : Parser) :
    (p.unwind count).stack.map (·.kind) = (p.stack.map (·.kind)).drop count := by
  induction count generalizing p with
  | zero => rfl
  | succ count ih =>
    unfold unwind
    split
    · next h => simp [h]
    · next b rest h =>
      rw [ih, kinds_update, h]
      rfl

/-- The innermost block becomes a node at a closing tag of its kind. -/
theorem Holds.closeInnermost {kind : BlockKind} {kinds : List BlockKind} {c : List Char}
    (h : p.Holds s) (hkind : p.stack.map (·.kind) = kind :: kinds) (hc : IsTag c (.closing kind)) :
    p.closeInnermost.Holds (s ++ c) := by
  obtain ⟨root, stack, verbatim, tooDeep⟩ := p
  cases h with
  | root hs => simp at hkind
  | @block b rest s t hrest hb =>
    obtain ⟨rfl, -⟩ := List.cons.inj hkind
    have hrest' : Holds ⟨root, rest, verbatim, tooDeep⟩ s := hrest
    rw [List.append_assoc]
    exact hrest'.push (hb.toNode hc)

theorem Holds.close {kind : BlockKind} {c : List Char} (h : p.Holds s)
    (hc : IsTag c (.closing kind)) : (p.close kind c).Holds (s ++ c) := by
  unfold Parser.close
  split
  · exact h.pushText c
  · next inner hinner =>
    obtain ⟨hlt, hkind, -⟩ := List.findIdx?_eq_some_iff_getElem.1 hinner
    -- the block that was found is the innermost one after the unwinding
    have hkinds : (p.unwind inner).stack.map (·.kind) =
        kind :: (p.stack.map (·.kind)).drop (inner + 1) := by
      rw [kinds_unwind, List.drop_eq_getElem_cons (by simpa using hlt)]
      simpa using hkind
    exact (h.unwind inner).closeInnermost hkinds hc

theorem Holds.otherwise {e : List Char} (h : p.Holds s) (he : IsTag e .otherwise) :
    (p.otherwise e).Holds (s ++ e) := by
  obtain ⟨root, stack, verbatim, tooDeep⟩ := p
  cases stack with
  | nil => exact h.pushText e
  | cons b rest =>
    cases helse : b.elseTag with
    | some tag =>
      simp only [Parser.otherwise, helse]
      exact h.pushText e
    | none =>
      simp only [Parser.otherwise, helse]
      cases h with
      | block hrest hb =>
        rw [List.append_assoc]
        exact .block hrest (hb.otherwise helse he)

theorem Holds.opening {cap : Nat} {kind : BlockKind} {raw argument : List Char} (h : p.Holds s)
    (hraw : IsTag raw (.opening kind argument)) :
    (p.opening cap raw kind argument).Holds (s ++ raw) := by
  unfold Parser.opening
  split
  · refine Holds.pushText ?_ raw
    exact h
  · exact .block h (OpenBlock.holds_start hraw)

theorem Holds.verbatimTag (h : p.Holds s) (raw : List Char) (tag : Tag) :
    (p.verbatimTag raw tag).Holds (s ++ raw) := by
  unfold Parser.verbatimTag
  refine Holds.pushText ?_ raw
  exact h

theorem Holds.activeTag {cap : Nat} {raw : List Char} {tag : Tag} (h : p.Holds s)
    (hraw : IsTag raw tag) : (p.activeTag cap raw tag).Holds (s ++ raw) := by
  cases tag with
  | opening kind argument => exact h.opening hraw
  | closing kind => exact h.close hraw
  | otherwise => exact h.otherwise hraw
  | reference body =>
    cases hbody : reference? body with
    | none =>
      simp only [Parser.activeTag, hbody]
      exact h.pushText raw
    | some named =>
      simp only [Parser.activeTag, hbody]
      exact h.push (spellsNode_reference hraw hbody)
  | expression body => exact h.push (spellsNode_expression hraw)
  | unsupported => exact h.pushText raw

/-- **A piece goes to the end of the text that is held.** -/
theorem Holds.piece {cap : Nat} {x : Piece} (h : p.Holds s)
    (hx : ∀ body, x = .tag body → Clear '}' body) : (p.piece cap x).Holds (s ++ x.spelling) := by
  cases x with
  | text t => exact h.pushText t
  | tag body =>
    simp only [Parser.piece]
    split
    · exact h.activeTag ⟨body, rfl, hx body rfl, rfl⟩
    · exact h.verbatimTag _ _

/-- A parser that was given some pieces holds their text. -/
theorem Holds.pieces {cap : Nat} {xs : List Piece} (h : p.Holds s)
    (hxs : ∀ body, .tag body ∈ xs → Clear '}' body) :
    (xs.foldl (Parser.piece cap) p).Holds (s ++ xs.flatMap Piece.spelling) := by
  induction xs generalizing p s with
  | nil => simpa using h
  | cons x xs ih =>
    have hx : (p.piece cap x).Holds (s ++ x.spelling) :=
      h.piece fun body hbody => hxs body (by simp [hbody])
    have := ih hx fun body hbody => hxs body (List.mem_cons_of_mem _ hbody)
    rwa [List.append_assoc] at this

/-- In the end no block is open. -/
theorem stack_finish (p : Parser) : p.finish.stack = [] := by
  have h := kinds_unwind p.stack.length p
  rw [List.drop_of_length_le (by simp)] at h
  exact List.map_eq_nil_iff.1 h

theorem Holds.finish (h : p.Holds s) : Spells p.finish.root s := by
  have hfin : p.finish.Holds s := h.unwind _
  unfold Holds at hfin
  rw [stack_finish] at hfin
  cases hfin with
  | root hs => exact hs

end Parser

/-- **Parsing is lossless.** Whatever the source and the cap, the tree spells the source. -/
theorem parse_spells (cap : Nat) (source : String) :
    Spells (parse cap source).nodes source.toList := by
  have h : ((pieces source.toList).foldl (Parser.piece cap) .initial).Holds
      ([] ++ (pieces source.toList).flatMap Piece.spelling) :=
    Parser.holds_initial.pieces fun _ => clear_of_mem_pieces
  rw [List.nil_append, pieces_spelling] at h
  exact h.finish

/-- A block, and an expression and a reference inside it, are nodes and not the text of their tags. -/
example :
    (parse 64 ("\x7b\x7b#if ready\x7d\x7dBy \x7b\x7b author.name \x7d\x7d" ++
        "\x7b\x7b> note \x7d\x7d\x7b\x7b/if\x7d\x7d")).nodes =
      [.cond (.parse "ready".toList) [.text "By ",
        .expression "\x7b\x7b author.name \x7d\x7d" (.parse "author.name".toList),
        .reference "\x7b\x7b> note \x7d\x7d" "note" []] []] := by
  with_unfolding_all rfl

end TieredReport.Markup
