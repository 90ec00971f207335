/-
# How the cap on open blocks changes the matching of tags

A closing tag finds its block in one of two ways. Outside blocks beyond the cap it ends the
innermost open block of its kind, however deep in the stack that is, and the blocks inside of that
one are flattened. Among blocks beyond the cap it is compared with the innermost one of these, and
if the kinds differ it is text. So a block beyond the cap that has no closing tag hides the closing
tags of the blocks around it.

Parsing under a cap is followed side by side with parsing under none. The stack of the second is
that of the first with some blocks on top, and these are among the blocks beyond the cap, in their
order (`Outline.Over`). A step keeps this, or it meets a hidden tag (`Outline.Over.step`). So the
blocks that are opened under the cap end where they end without it exactly if none of their closing
tags is hidden (`keepsMatches_iff`); and they do if without the cap no closing tag flattens a block
(`keepsMatches_of_nested`).

Key definitions: `noCap`, `KeepsMatches`, `NoneHidden`, `Outline.Over`, `Outline.Hides`, `Nested`,
`Outline.Extends`.
Key theorems: `parse_of_noCap_le`, `Outline.Over.step`, `StaysOpen.of_over`,
`exists_closesAt_of_hides`, `keepsMatches_iff`, `Outline.Extends.step`, `keepsMatches_of_nested`.
-/
import TieredReport.Proofs.Markup.Outline

namespace TieredReport.Markup

variable {cap : Nat} {xs : List Piece} {i j n : Nat}

/-- A cap that is never met: no more blocks are open than there are pieces. -/
def noCap (xs : List Piece) : Nat := xs.length

/-- A block that is opened under the cap, and without a cap becomes a node at some closing tag,
becomes a node at the same closing tag under the cap. -/
def KeepsMatches (cap : Nat) (xs : List Piece) : Prop :=
  ∀ i j, OpensAt cap xs i → ClosesAt (noCap xs) xs i j → ClosesAt cap xs i j

/-- No closing tag is hidden: where a block opened under the cap becomes a node without a cap, no
block beyond the cap is pending. -/
def NoneHidden (cap : Nat) (xs : List Piece) : Prop :=
  ∀ i j, OpensAt cap xs i → ClosesAt (noCap xs) xs i j → (Parser.before cap xs j).verbatim = []

/-! ### Parsing without a cap -/

theorem depthAt_lt_noCap (cap : Nat) (h : tagAt xs n ≠ none) : depthAt cap xs n < noCap xs := by
  obtain ⟨t, ht⟩ := Option.ne_none_iff_exists'.1 h
  obtain ⟨x, hx, -⟩ := Option.bind_eq_some_iff.1 ht
  exact Nat.lt_of_le_of_lt (depthAt_le cap xs n) (List.getElem?_eq_some_iff.1 hx).1

theorem outlineAt_lt_noCap (cap : Nat) (h : tagAt xs n ≠ none) :
    (outlineAt cap xs n).opened.length < noCap xs := by
  rw [length_outlineAt]
  exact depthAt_lt_noCap cap h

/-- Without a cap no block is beyond it. -/
theorem beyond_noCap (xs : List Piece) (n : Nat) : (outlineAt (noCap xs) xs n).beyond = [] := by
  induction n with
  | zero => rfl
  | succ n ih =>
    rw [outlineAt_succ]
    exact Outline.beyond_step ih (outlineAt_lt_noCap _)

/-- With room under two caps a piece is taken the same. -/
theorem Parser.piece_of_room {p : Parser} {cap cap' : Nat} (h : p.stack.length < cap)
    (h' : p.stack.length < cap') (x : Piece) : p.piece cap' x = p.piece cap x := by
  have hactive : ∀ raw t, p.activeTag cap' raw t = p.activeTag cap raw t := by
    intro raw t
    cases t with
    | opening kind argument =>
      simp only [activeTag, Parser.opening, if_neg (Nat.not_le.2 h), if_neg (Nat.not_le.2 h')]
    | closing kind => rfl
    | otherwise => rfl
    | reference body => rfl
    | expression body => rfl
    | unsupported => rfl
  cases x with
  | text s => rfl
  | tag body => simp only [piece, hactive]

theorem before_of_noCap_le (h : noCap xs ≤ cap) (n : Nat) :
    Parser.before cap xs n = Parser.before (noCap xs) xs n := by
  induction n with
  | zero => rfl
  | succ n ih =>
    rw [before_succ, before_succ, ih]
    cases hx : xs[n]? with
    | none => rfl
    | some x =>
      have hlt : n < noCap xs := (List.getElem?_eq_some_iff.1 hx).1
      have hroom := Nat.lt_of_le_of_lt (depthAt_le (noCap xs) xs n) hlt
      exact Parser.piece_of_room hroom (Nat.lt_of_lt_of_le hroom h) x

/-- **A cap that is never met** might as well be any larger one. -/
theorem parse_of_noCap_le {source : String} (h : noCap (pieces source.toList) ≤ cap) :
    parse cap source = parse (noCap (pieces source.toList)) source := by
  have hbefore := before_of_noCap_le h (pieces source.toList).length
  unfold Parser.before at hbefore
  rw [List.take_length] at hbefore
  rw [parse, parse, hbefore]

/-! ### A step side by side -/

namespace Outline

variable {free capped : Outline}

/-- The blocks open in the first outline are those open in the second one and some more on top,
which are among the blocks beyond its cap. -/
def Over (free capped : Outline) : Prop :=
  free.beyond = [] ∧ ∃ top, free.opened = top ++ capped.opened ∧
    (top.map (·.kind)).Sublist capped.beyond

theorem Over.refl (hactive : free.beyond = []) : free.Over free :=
  ⟨hactive, [], rfl, List.nil_sublist _⟩

theorem Over.length_le (h : free.Over capped) : capped.opened.length ≤ free.opened.length := by
  obtain ⟨-, top, hopened, -⟩ := h
  rw [hopened, List.length_append]
  exact Nat.le_add_left _ _

/-- Outside blocks beyond the cap the same blocks are open. -/
theorem Over.opened_eq (h : free.Over capped) (hactive : capped.beyond = []) :
    free.opened = capped.opened := by
  obtain ⟨-, top, hopened, hsub⟩ := h
  rw [hactive, List.sublist_nil, List.map_eq_nil_iff] at hsub
  rw [hopened, hsub, List.nil_append]

/-- At a closing tag of the innermost kind, what is among some blocks loses no less than they. -/
theorem around_sublist_of_cons {kind : BlockKind} {top : List BlockHead} {outer : List BlockKind}
    (h : (top.map (·.kind)).Sublist (kind :: outer)) :
    ((around kind top).map (·.kind)).Sublist outer := by
  by_cases hmem : kind ∈ top.map (·.kind)
  · obtain ⟨inner, hinner, -⟩ := findIdx?_of_mem hmem
    have htail : ((top.map (·.kind)).drop (inner + 1)).Sublist (top.map (·.kind)).tail := by
      rw [← List.drop_one, Nat.add_comm, ← List.drop_drop]
      exact List.drop_sublist _ _
    rw [around, hinner, List.map_drop]
    exact htail.trans h.tail
  · rw [around_of_notMem hmem]
    rcases List.sublist_cons_iff.1 h with hsub | ⟨rest, heq, -⟩
    · exact hsub
    · exact absurd (heq ▸ List.mem_cons_self) hmem

/-- A closing tag is hidden: among blocks beyond the cap it meets one that is open under the cap. -/
def Hides (capped free : Outline) (kind : BlockKind) : Prop :=
  capped.beyond ≠ [] ∧ ∃ inner, free.opened.findIdx? (·.kind = kind) = some inner ∧
    free.opened.length ≤ inner + capped.opened.length

/-- A closing tag that is not hidden leaves the blocks alone that are open under the cap, where a
block is beyond it. -/
theorem around_append_of_not_hides {kind : BlockKind} {top : List BlockHead}
    (hopened : free.opened = top ++ capped.opened) (hbeyond : capped.beyond ≠ [])
    (hshown : ¬ capped.Hides free kind) :
    around kind free.opened = around kind top ++ capped.opened := by
  by_cases htop : kind ∈ top.map (·.kind)
  · rw [hopened, around_append htop]
  · have hcapped : kind ∉ capped.opened.map (·.kind) := by
      intro hmem
      obtain ⟨inner, hinner, -⟩ := findIdx?_of_mem hmem
      refine hshown ⟨hbeyond, inner + top.length, ?_, ?_⟩
      · rw [hopened, List.findIdx?_append, findIdx?_of_notMem htop, hinner]
        rfl
      · rw [hopened, List.length_append]
        omega
    have hnone : kind ∉ (top ++ capped.opened).map (·.kind) := by
      rw [List.map_append, List.mem_append]
      exact fun hmem => hmem.elim htop hcapped
    rw [hopened, around_of_notMem hnone, around_of_notMem htop]

/-- A block on top ends with one beyond the cap, or further out than that. -/
theorem Over.closing (h : free.Over capped) (kind : BlockKind)
    (hshown : ¬ capped.Hides free kind) : (free.closing kind).Over (capped.closing kind) := by
  cases hbeyond : capped.beyond with
  | nil =>
    rw [closing_of_active h.1, closing_of_active hbeyond, h.opened_eq hbeyond]
    exact Over.refl rfl
  | cons innermost outer =>
    obtain ⟨hactive, top, hopened, hsub⟩ := h
    have hleft := around_append_of_not_hides hopened (hbeyond ▸ List.cons_ne_nil _ _) hshown
    rw [closing_of_active hactive, closing_of_beyond hbeyond]
    rw [hbeyond] at hsub
    refine ⟨rfl, around kind top, hleft, ?_⟩
    split
    · next heq =>
      subst heq
      exact around_sublist_of_cons hsub
    · exact ((around_suffix kind top).sublist.map _).trans hsub

/-- **A step keeps the blocks on top among those beyond the cap**, unless it meets a hidden tag. -/
theorem Over.step {cap' : Nat} {t : Option BlockTag} (h : free.Over capped)
    (hroom : t ≠ none → free.opened.length < cap')
    (hshown : ∀ kind, t = some (.closing kind) → ¬ capped.Hides free kind) :
    (free.step cap' t).Over (capped.step cap t) := by
  rcases t with _ | head | kind
  · exact h
  · rw [Outline.step, Outline.step, opening_of_room h.1 (hroom (Option.some_ne_none _))]
    by_cases hcap : capped.beyond = [] ∧ capped.opened.length < cap
    · rw [opening_of_room hcap.1 hcap.2, h.opened_eq hcap.1]
      exact Over.refl rfl
    · obtain ⟨-, top, hopened, hsub⟩ := h
      rw [opening_of_full hcap, hopened]
      exact ⟨rfl, head :: top, rfl, hsub.cons_cons head.kind⟩
  · exact h.closing kind (hshown kind rfl)

end Outline

/-! ### Side by side from place to place -/

/-- Before a place, parsing without a cap has the open blocks of parsing under the cap, and more on
top. -/
def OverAt (cap : Nat) (xs : List Piece) (n : Nat) : Prop :=
  (outlineAt (noCap xs) xs n).Over (outlineAt cap xs n)

theorem overAt_zero (cap : Nat) (xs : List Piece) : OverAt cap xs 0 := Outline.Over.refl rfl

theorem OverAt.succ (h : OverAt cap xs n) (hshown : ∀ kind, tagAt xs n = some (.closing kind) →
    ¬ (outlineAt cap xs n).Hides (outlineAt (noCap xs) xs n) kind) : OverAt cap xs (n + 1) := by
  rw [OverAt, outlineAt_succ, outlineAt_succ]
  exact Outline.Over.step h (outlineAt_lt_noCap _) hshown

theorem OverAt.depthAt_le (h : OverAt cap xs n) : depthAt cap xs n ≤ depthAt (noCap xs) xs n := by
  rw [← length_outlineAt, ← length_outlineAt]
  exact h.length_le

theorem OverAt.depthAt_eq (h : OverAt cap xs n) (hactive : (Parser.before cap xs n).verbatim = []) :
    depthAt (noCap xs) xs n = depthAt cap xs n := by
  rw [← length_outlineAt, ← length_outlineAt, h.opened_eq hactive]

/-- A block that is opened under the cap and stays open without one stays open under the cap. -/
theorem StaysOpen.of_over (hover : ∀ k ≤ j, OverAt cap xs k) (hopens : OpensAt cap xs i)
    (h : StaysOpen (noCap xs) xs i j) : StaysOpen cap xs i j := by
  have hstart : depthAt (noCap xs) xs i = depthAt cap xs i :=
    (hover i (Nat.le_of_lt h.1)).depthAt_eq hopens.active
  have hactive : ∀ k, i < k → k ≤ j → (outlineAt cap xs k).beyond = [] →
      depthAt cap xs i < depthAt cap xs k := by
    intro k hi hk hbeyond
    rw [← hstart, ← (hover k hk).depthAt_eq hbeyond]
    exact h.2 k hi hk
  refine ⟨h.1, fun k hi => ?_⟩
  -- the depth changes only outside blocks beyond the cap, and there it is the same without a cap
  induction hi with
  | refl =>
    intro hk
    refine hactive _ (Nat.lt_succ_self i) hk ?_
    rw [outlineAt_succ]
    exact Outline.beyond_step hopens.active fun _ => length_outlineAt cap xs i ▸ hopens.room
  | @step k hi ih =>
    intro hk
    by_cases hbeyond : (outlineAt cap xs (k + 1)).beyond = []
    · exact hactive _ (Nat.lt_succ_of_lt hi) hk hbeyond
    · have hsame : (outlineAt cap xs (k + 1)).opened = (outlineAt cap xs k).opened := by
        rw [outlineAt_succ] at hbeyond ⊢
        exact Outline.opened_step_of_beyond hbeyond
      rw [← length_outlineAt cap xs (k + 1), hsame, length_outlineAt]
      exact ih (Nat.le_of_succ_le hk)

/-- A hidden closing tag is that of a block opened under the cap. -/
theorem exists_closesAt_of_hides (hover : ∀ k ≤ n, OverAt cap xs k) {kind : BlockKind}
    (htag : tagAt xs n = some (.closing kind))
    (hhides : (outlineAt cap xs n).Hides (outlineAt (noCap xs) xs n) kind) :
    ∃ i, OpensAt cap xs i ∧ ClosesAt (noCap xs) xs i n := by
  obtain ⟨-, inner, hinner, hle⟩ := hhides
  have hlt : inner < (outlineAt (noCap xs) xs n).opened.length :=
    (List.findIdx?_eq_some_iff_getElem.1 hinner).1
  rw [length_outlineAt] at hlt hle
  rw [length_outlineAt] at hle
  have hdepth : depthAt (noCap xs) xs n - (inner + 1) < depthAt cap xs n := by omega
  obtain ⟨i, hopens, hi, hstays⟩ := exists_opensAt hdepth
  have hstart : depthAt (noCap xs) xs i = depthAt cap xs i :=
    (hover i (Nat.le_of_lt hstays.1)).depthAt_eq hopens.active
  refine ⟨i, hopens, ⟨hopens.tag, beyond_noCap xs i, ?_⟩, ⟨hstays.1, fun k hik hkn => ?_⟩,
    beyond_noCap xs n, kind, inner, htag, ?_, ?_⟩
  · obtain ⟨head, htag⟩ := hopens.tag
    exact depthAt_lt_noCap _ (htag ▸ Option.some_ne_none _)
  · rw [hstart]
    exact Nat.lt_of_lt_of_le (hstays.2 k hik hkn) (hover k hkn).depthAt_le
  · rw [← Parser.findIdx?_outline]
    exact hinner
  · omega

/-- **If no closing tag of a block opened under the cap is hidden,** the two stay side by side. -/
theorem overAt_of_noneHidden (h : NoneHidden cap xs) : ∀ k ≤ n, OverAt cap xs k := by
  induction n with
  | zero =>
    intro k hk
    obtain rfl := Nat.le_zero.1 hk
    exact overAt_zero cap xs
  | succ n ih =>
    intro k hk
    rcases Nat.le_succ_iff.1 hk with hk | rfl
    · exact ih k hk
    · refine (ih n (Nat.le_refl n)).succ fun kind htag hhides => ?_
      obtain ⟨i, hopens, hcloses⟩ := exists_closesAt_of_hides ih htag hhides
      exact hhides.1 (h i n hopens hcloses)

/-- A block ends under the cap where it ends without one, if its closing tag is not hidden. -/
theorem ClosesAt.of_over (hover : ∀ k ≤ j, OverAt cap xs k) (hopens : OpensAt cap xs i)
    (h : ClosesAt (noCap xs) xs i j) (hactive : (Parser.before cap xs j).verbatim = []) :
    ClosesAt cap xs i j := by
  have hstart : depthAt (noCap xs) xs i = depthAt cap xs i :=
    (hover i (Nat.le_of_lt h.stays.1)).depthAt_eq hopens.active
  have hend := (hover j (Nat.le_refl j)).depthAt_eq hactive
  have hopened := (hover j (Nat.le_refl j)).opened_eq hactive
  obtain ⟨kind, inner, htag, hinner, hdepth⟩ := h.closes
  refine ⟨hopens, h.stays.of_over hover hopens, hactive, kind, inner, htag, ?_, ?_⟩
  · rw [← Parser.findIdx?_outline] at hinner ⊢
    exact hopened ▸ hinner
  · rw [← hstart, ← hend]
    exact hdepth

/-- **The cap changes no other block exactly if no closing tag is hidden.** The blocks opened under
the cap become nodes at the closing tags at which they do without a cap, if and only if none of
these tags is met among blocks beyond the cap. -/
theorem keepsMatches_iff (cap : Nat) (source : String) :
    KeepsMatches cap (pieces source.toList) ↔ NoneHidden cap (pieces source.toList) := by
  constructor
  · intro h i j hopens hcloses
    exact (h i j hopens hcloses).active
  · intro h i j hopens hcloses
    exact hcloses.of_over (overAt_of_noneHidden h) hopens (h i j hopens hcloses)

/-- The closing tag of a condition is hidden by a loop beyond the cap that has none. -/
theorem not_keepsMatches_unclosed :
    let source := "\x7b\x7b#if a\x7d\x7d\x7b\x7b#each x\x7d\x7d\x7b\x7b/if\x7d\x7d"
    ¬ KeepsMatches 1 (pieces source.toList) ∧
      (parse 1 source).nodes = [.text "\x7b\x7b#if a\x7d\x7d",
        .text "\x7b\x7b#each x\x7d\x7d\x7b\x7b/if\x7d\x7d"] ∧
      (parse 64 source).nodes =
        [.cond (.parse "a".toList) [.text "\x7b\x7b#each x\x7d\x7d"] []] := by
  intro source
  let xs : List Piece := [.tag "#if a".toList, .tag "#each x".toList, .tag "/if".toList]
  have hpieces : pieces source.toList = xs := by decide +kernel
  have hopens : ∀ cap, 0 < cap → OpensAt cap xs 0 := fun cap hcap => ⟨⟨_, rfl⟩, rfl, hcap⟩
  have hdepth : ∀ k ≤ 2, 0 < k → 0 < depthAt (noCap xs) xs k := by decide
  refine ⟨fun hkeeps => ?_, ?_, ?_⟩
  · rw [hpieces] at hkeeps
    have hcloses := hkeeps 0 2 (hopens 1 (by decide)) {
      opens := hopens 3 (by decide)
      stays := ⟨by decide, fun k hi hk => hdepth k hk hi⟩
      active := rfl
      closes := ⟨.cond, 1, rfl, rfl, rfl⟩ }
    exact absurd hcloses.active (by decide)
  · simp only [parse, hpieces]
    rfl
  · simp only [parse, hpieces]
    rfl

/-! ### Nested sources -/

/-- Without a cap no closing tag flattens a block: it ends the innermost open block, or none. -/
def Nested (xs : List Piece) : Prop :=
  ∀ j kind inner, tagAt xs j = some (.closing kind) →
    (Parser.before (noCap xs) xs j).stack.findIdx? (·.kind = kind) = some inner → inner = 0

namespace Outline

variable {free capped : Outline}

/-- The blocks open in the first outline are those open in the second one and all the blocks beyond
its cap on top. -/
def Extends (free capped : Outline) : Prop :=
  free.beyond = [] ∧ ∃ top, free.opened = top ++ capped.opened ∧
    top.map (·.kind) = capped.beyond

theorem Extends.over (h : free.Extends capped) : free.Over capped := by
  obtain ⟨hactive, top, hopened, htop⟩ := h
  exact ⟨hactive, top, hopened, htop ▸ List.Sublist.refl _⟩

theorem Extends.length_eq (h : free.Extends capped) :
    free.opened.length = capped.beyond.length + capped.opened.length := by
  obtain ⟨-, top, hopened, htop⟩ := h
  rw [hopened, ← htop, List.length_append, List.length_map]

/-- A closing tag that flattens no block ends the innermost block beyond the cap, or none. -/
theorem Extends.closing (h : free.Extends capped) (kind : BlockKind)
    (hnested : ∀ inner, free.opened.findIdx? (·.kind = kind) = some inner → inner = 0) :
    (free.closing kind).Extends (capped.closing kind) := by
  obtain ⟨hactive, top, hopened, htop⟩ := h
  rw [closing_of_active hactive]
  cases top with
  | nil =>
    rw [closing_of_active htop.symm, hopened]
    exact ⟨rfl, [], rfl, rfl⟩
  | cons innermost outer =>
    rw [closing_of_beyond htop.symm]
    rw [hopened] at hnested ⊢
    by_cases heq : kind = innermost.kind
    · have hfirst : (innermost :: outer ++ capped.opened).findIdx? (·.kind = kind) = some 0 := by
        rw [List.cons_append, List.findIdx?_cons, if_pos (decide_eq_true heq.symm)]
      rw [if_pos heq, around, hfirst]
      exact ⟨rfl, outer, rfl, rfl⟩
    · have hnone : kind ∉ (innermost :: outer ++ capped.opened).map (·.kind) := by
        intro hmem
        obtain ⟨inner, hinner, -⟩ := findIdx?_of_mem hmem
        obtain rfl := hnested inner hinner
        obtain ⟨_, hkind, -⟩ := List.findIdx?_eq_some_iff_getElem.1 hinner
        exact heq (of_decide_eq_true hkind).symm
      rw [if_neg heq, around_of_notMem hnone]
      exact ⟨rfl, innermost :: outer, rfl, rfl⟩

theorem Extends.step {cap' : Nat} {t : Option BlockTag} (h : free.Extends capped)
    (hroom : t ≠ none → free.opened.length < cap')
    (hnested : ∀ kind inner, t = some (.closing kind) →
      free.opened.findIdx? (·.kind = kind) = some inner → inner = 0) :
    (free.step cap' t).Extends (capped.step cap t) := by
  rcases t with _ | head | kind
  · exact h
  · rw [Outline.step, Outline.step, opening_of_room h.1 (hroom (Option.some_ne_none _))]
    by_cases hcap : capped.beyond = [] ∧ capped.opened.length < cap
    · rw [opening_of_room hcap.1 hcap.2, h.over.opened_eq hcap.1]
      exact ⟨rfl, [], rfl, rfl⟩
    · obtain ⟨-, top, hopened, htop⟩ := h
      rw [opening_of_full hcap, hopened, ← htop]
      exact ⟨rfl, head :: top, rfl, rfl⟩
  · exact h.closing kind fun inner => hnested kind inner rfl

end Outline

theorem extends_outlineAt (h : Nested xs) (cap n : Nat) :
    (outlineAt (noCap xs) xs n).Extends (outlineAt cap xs n) := by
  induction n with
  | zero => exact ⟨rfl, [], rfl, rfl⟩
  | succ n ih =>
    rw [outlineAt_succ, outlineAt_succ]
    refine ih.step (outlineAt_lt_noCap _) fun kind inner htag hinner => h n kind inner htag ?_
    rw [← Parser.findIdx?_outline]
    exact hinner

/-- **The cap changes no other block of a nested source.** -/
theorem keepsMatches_of_nested (h : Nested xs) (cap : Nat) : KeepsMatches cap xs := by
  intro i j hopens hcloses
  have hover : ∀ k, OverAt cap xs k := fun k => (extends_outlineAt h cap k).over
  refine hcloses.of_over (fun k _ => hover k) hopens ?_
  -- the block is the innermost one without a cap, and it is still open under the cap
  have hstays : StaysOpen cap xs i j := hcloses.stays.of_over (fun k _ => hover k) hopens
  have hstart := (hover i).depthAt_eq hopens.active
  have hdepth := hstays.2 j hstays.1 (Nat.le_refl j)
  obtain ⟨kind, inner, htag, hinner, hend⟩ := hcloses.closes
  obtain rfl := h j kind inner htag hinner
  have hlength := (extends_outlineAt h cap j).length_eq
  rw [length_outlineAt, length_outlineAt] at hlength
  have hbeyond : (outlineAt cap xs j).beyond.length = 0 := by omega
  exact List.length_eq_zero_iff.1 hbeyond

end TieredReport.Markup
