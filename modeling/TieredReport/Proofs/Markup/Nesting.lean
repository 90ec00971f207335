/-
# The cap of parsing leaves nothing for the cap of rendering

Parsing bounds the blocks that are open at a time, rendering the blocks that it is inside of. The
two counts are the same: under a cap, no block of a parsed tree has more blocks on its path from the
root than the cap, itself included (`nestings_parse_le`). A tree without references has then room
for its blocks under the same cap, and rendering it skips none of them (`HasRoom.depth_render`,
`parse_within_cap`).

The open blocks are no part of the tree yet, and a block that is never closed leaves its content to
the block around it. What carries the parser through is that each open block has room, under the
blocks around it and itself, for the blocks that it holds so far (`Parser.Within`). Closing a block
uses that room up, and flattening it only frees some.

Key definitions: `Node.branches`, `BlockAt`, `hasReference`, `Parser.Within`, `HasRoom`.
Key theorems: `Parser.Within.piece`, `nestings_parse_le`, `HasRoom.depth_render`,
`HasRoom.evaluates`, `parse_within_cap`.
-/
import TieredReport.Proofs.Markup.Caps
import TieredReport.Proofs.Markup.Evaluation
import TieredReport.Proofs.Markup.Layout

namespace TieredReport

namespace Markup

/-! ### Blocks in a tree -/

/-- The branches of a block; no other node has any. -/
def Node.branches : Node → List (List Node)
  | .cond _ thenBranch elseBranch => [thenBranch, elseBranch]
  | .loop _ body elseBranch => [body, elseBranch]
  | .text _ | .expression _ _ | .reference _ _ _ => []

/-- A block stands in some nodes, with `k` blocks on its path from the root, itself included. -/
inductive BlockAt (block : Node) : (k : Nat) → List Node → Prop where
  | here {rest : List Node} : block.branches ≠ [] → BlockAt block 1 (block :: rest)
  | inside {k : Nat} {n : Node} {branch rest : List Node} :
      branch ∈ n.branches → BlockAt block k branch → BlockAt block (k + 1) (n :: rest)
  | later {k : Nat} {n : Node} {rest : List Node} :
      BlockAt block k rest → BlockAt block k (n :: rest)

mutual

/-- Whether a node is a reference or has one inside. -/
def Node.hasReference : Node → Bool
  | .text _ | .expression _ _ => false
  | .cond _ thenBranch elseBranch => Markup.hasReference thenBranch || Markup.hasReference elseBranch
  | .loop _ body elseBranch => Markup.hasReference body || Markup.hasReference elseBranch
  | .reference _ _ _ => true

/-- Whether there is a reference in some nodes. -/
def hasReference : List Node → Bool
  | [] => false
  | n :: rest => n.hasReference || hasReference rest

end

variable {n block : Node} {nodes rest branch : List Node} {k cap : Nat}

/-- A block is one more than what is inside. -/
theorem nestings_lt_of_branch (h : branch ∈ n.branches) : nestings branch < n.nesting := by
  unfold Node.branches at h
  cases n <;> simp only [List.mem_cons, List.not_mem_nil, or_false] at h
  all_goals
    rw [Node.nesting]
    rcases h with rfl | rfl <;> omega

theorem nesting_pos (h : n.branches ≠ []) : 0 < n.nesting := by
  obtain ⟨branch, hbranch⟩ := List.exists_mem_of_ne_nil _ h
  exact Nat.zero_lt_of_lt (nestings_lt_of_branch hbranch)

theorem hasReference_of_branch (h : branch ∈ n.branches) (hn : n.hasReference = false) :
    hasReference branch = false := by
  unfold Node.branches at h
  cases n <;> simp only [List.mem_cons, List.not_mem_nil, or_false] at h
  all_goals
    rw [Node.hasReference, Bool.or_eq_false_iff] at hn
    rcases h with rfl | rfl
    · exact hn.1
    · exact hn.2

/-- The blocks on a path are inside one another. -/
theorem BlockAt.le_nestings (h : BlockAt block k nodes) : k ≤ nestings nodes := by
  induction h with
  | here hblock =>
    have hpos := nesting_pos hblock
    rw [nestings]
    omega
  | inside hbranch _ ih =>
    have hlt := nestings_lt_of_branch hbranch
    rw [nestings]
    omega
  | later _ ih =>
    rw [nestings]
    omega

/-! ### Nesting of what parsing puts together -/

theorem nestings_append (ns ms : List Node) :
    nestings (ns ++ ms) = max (nestings ns) (nestings ms) := by
  induction ns with
  | nil => simp [nestings]
  | cons n ns ih => rw [List.cons_append, nestings, nestings, ih, Nat.max_assoc]

theorem nestings_singleton (n : Node) : nestings [n] = n.nesting := by
  simp [nestings]

theorem nestings_appendText (ns : List Node) (t : String) :
    nestings (appendText ns t) = nestings ns := by
  induction ns with
  | nil => simp [appendText, nestings, Node.nesting]
  | cons n rest ih =>
    cases rest with
    | nil => cases n <;> simp [appendText, nestings, Node.nesting]
    | cons m rest =>
      rw [appendText, nestings, nestings, ih]
      intro _ _ hnil
      cases hnil

namespace OpenBlock

/-- The number of blocks inside one another in what an open block holds so far. -/
def nesting (b : OpenBlock) : Nat := max (nestings b.primary) (nestings b.alternate)

theorem nesting_start (kind : BlockKind) (openTag : String) (argument : List Char) :
    (start kind openTag argument).nesting = 0 := by
  simp [nesting, start, nestings]

theorem nesting_toNode (b : OpenBlock) : b.toNode.nesting = b.nesting + 1 :=
  nesting_block b.kind b.expr b.primary b.alternate

/-- Flattening adds no block around what was inside. -/
theorem nestings_flatten_le (b : OpenBlock) : nestings b.flatten ≤ b.nesting := by
  unfold flatten nesting
  rw [nestings_append, nestings, Node.nesting]
  cases b.elseTag with
  | none =>
    simp only [nestings]
    omega
  | some tag =>
    simp only [nestings, Node.nesting]
    omega

theorem nesting_update_le {d : Nat} {b : OpenBlock} {f : List Node → List Node}
    (h : b.nesting ≤ d) (hf : ∀ ns, nestings ns ≤ d → nestings (f ns) ≤ d) :
    (b.update f).nesting ≤ d := by
  have hprimary : nestings b.primary ≤ d := Nat.le_trans (Nat.le_max_left _ _) h
  have halternate : nestings b.alternate ≤ d := Nat.le_trans (Nat.le_max_right _ _) h
  unfold update
  cases b.elseTag with
  | none => exact Nat.max_le.2 ⟨hf _ hprimary, halternate⟩
  | some tag => exact Nat.max_le.2 ⟨hprimary, hf _ halternate⟩

end OpenBlock

/-! ### The parser stays within the cap -/

/-- Each open block has room, under the blocks around it and itself, for the blocks that it holds
so far. -/
def StackWithin (cap : Nat) : List OpenBlock → Prop
  | [] => True
  | b :: outer => b.nesting + (outer.length + 1) ≤ cap ∧ StackWithin cap outer

namespace Parser

/-- There is room for all that is finished, and for what the open blocks hold so far. -/
structure Within (cap : Nat) (p : Parser) : Prop where
  root : nestings p.root ≤ cap
  stack : StackWithin cap p.stack

variable {p : Parser}

namespace Within

/-- What is filled may change as far as there is room under the open blocks. -/
theorem update (h : p.Within cap) {f : List Node → List Node}
    (hf : ∀ ns, nestings ns + p.stack.length ≤ cap → nestings (f ns) + p.stack.length ≤ cap) :
    (p.update f).Within cap := by
  obtain ⟨hroot, hstack⟩ := h
  unfold Parser.update
  cases hp : p.stack with
  | nil =>
    rw [hp] at hf
    exact ⟨hf p.root hroot, trivial⟩
  | cons b outer =>
    rw [hp] at hf hstack
    rw [List.length_cons] at hf
    obtain ⟨hb, houter⟩ := hstack
    have hroom : b.nesting ≤ cap - (outer.length + 1) := by omega
    have hupdate : (b.update f).nesting ≤ cap - (outer.length + 1) := by
      refine OpenBlock.nesting_update_le hroom fun ns hns => ?_
      have hns' := hf ns (by omega)
      omega
    exact ⟨hroot, by omega, houter⟩

theorem append (h : p.Within cap) {ms : List Node} (hms : nestings ms + p.stack.length ≤ cap) :
    (p.update (· ++ ms)).Within cap := by
  refine h.update fun ns hns => ?_
  rw [nestings_append]
  omega

theorem push (h : p.Within cap) (hn : n.nesting + p.stack.length ≤ cap) :
    (p.push n).Within cap := by
  rw [← nestings_singleton] at hn
  exact h.append hn

theorem pushText (h : p.Within cap) (s : List Char) : (p.pushText s).Within cap :=
  h.update fun ns hns => by rwa [nestings_appendText]

/-- As many blocks are open as there is room for. -/
theorem length_le (h : p.Within cap) : p.stack.length ≤ cap := by
  have hstack := h.stack
  cases hp : p.stack with
  | nil => exact Nat.zero_le cap
  | cons b outer =>
    rw [hp] at hstack
    have hb := hstack.1
    rw [List.length_cons]
    omega

theorem unwind (count : Nat) (h : p.Within cap) : (p.unwind count).Within cap := by
  induction count generalizing p with
  | zero => exact h
  | succ count ih =>
    unfold Parser.unwind
    cases hp : p.stack with
    | nil => exact h
    | cons b outer =>
      obtain ⟨hroot, hstack⟩ := h
      rw [hp] at hstack
      obtain ⟨hb, houter⟩ := hstack
      have hflat := b.nestings_flatten_le
      have hwithin : Within cap { p with stack := outer } := ⟨hroot, houter⟩
      exact ih (hwithin.append (by simp only; omega))

theorem closeInnermost (h : p.Within cap) : p.closeInnermost.Within cap := by
  unfold Parser.closeInnermost
  cases hp : p.stack with
  | nil => exact h
  | cons b outer =>
    obtain ⟨hroot, hstack⟩ := h
    rw [hp] at hstack
    obtain ⟨hb, houter⟩ := hstack
    have hwithin : Within cap { p with stack := outer } := ⟨hroot, houter⟩
    refine hwithin.push ?_
    rw [OpenBlock.nesting_toNode]
    simp only
    omega

theorem close (h : p.Within cap) (kind : BlockKind) (raw : List Char) :
    (p.close kind raw).Within cap := by
  unfold Parser.close
  cases p.stack.findIdx? (·.kind = kind) with
  | none => exact h.pushText raw
  | some inner => exact (h.unwind inner).closeInnermost

theorem otherwise (h : p.Within cap) (raw : List Char) : (p.otherwise raw).Within cap := by
  unfold Parser.otherwise
  cases hp : p.stack with
  | nil => exact h.pushText raw
  | cons b outer =>
    simp only
    cases b.elseTag with
    | none =>
      obtain ⟨hroot, hstack⟩ := h
      rw [hp] at hstack
      exact ⟨hroot, hstack⟩
    | some tag => exact h.pushText raw

/-- What is awaited and what is counted takes no room. -/
theorem counting (h : p.Within cap) (verbatim : List BlockKind) (tooDeep : Nat) :
    Within cap { p with verbatim, tooDeep } :=
  ⟨h.root, h.stack⟩

theorem verbatimTag (h : p.Within cap) (raw : List Char) (tag : Tag) :
    (p.verbatimTag raw tag).Within cap :=
  (h.counting _ _).pushText raw

/-- A block is opened where the open ones leave room for it. -/
theorem opening (h : p.Within cap) (raw : List Char) (kind : BlockKind) (argument : List Char) :
    (p.opening cap raw kind argument).Within cap := by
  unfold Parser.opening
  by_cases hfull : cap ≤ p.stack.length
  · rw [if_pos hfull]
    exact (h.counting _ _).pushText raw
  · rw [if_neg hfull]
    refine ⟨h.root, ?_, h.stack⟩
    rw [OpenBlock.nesting_start]
    omega

theorem activeTag (h : p.Within cap) (raw : List Char) (tag : Tag) :
    (p.activeTag cap raw tag).Within cap := by
  have hlength := h.length_le
  cases tag with
  | opening kind argument => exact h.opening raw kind argument
  | closing kind => exact h.close kind raw
  | otherwise => exact h.otherwise raw
  | reference body =>
    simp only [Parser.activeTag]
    cases reference? body with
    | none => exact h.pushText raw
    | some reference => exact h.push (by rw [Node.nesting]; omega)
  | expression body => exact h.push (by rw [Node.nesting]; omega)
  | unsupported => exact h.pushText raw

/-- **A piece keeps the parser within the cap.** -/
theorem piece (h : p.Within cap) (x : Piece) : (p.piece cap x).Within cap := by
  cases x with
  | text s => exact h.pushText s
  | tag body =>
    unfold Parser.piece
    cases p.verbatim.isEmpty with
    | true => exact h.activeTag _ _
    | false => exact h.verbatimTag _ _

theorem pieces (xs : List Piece) (h : p.Within cap) :
    (xs.foldl (Parser.piece cap) p).Within cap := by
  induction xs generalizing p with
  | nil => exact h
  | cons x xs ih => exact ih (h.piece x)

end Within

theorem within_initial (cap : Nat) : initial.Within cap :=
  ⟨by simp [initial, nestings], trivial⟩

end Parser

/-- **The nesting of a parsed tree is at most the cap.** -/
theorem nestings_parse_le (cap : Nat) (source : String) :
    nestings (parse cap source).nodes ≤ cap :=
  (((Parser.within_initial cap).pieces (pieces source.toList)).unwind _).root

end Markup

/-! ### Runs that meet no cap -/

namespace Run

variable {α β : Type} {x : Run α} {f : α → Run β}

theorem depth_bind (hx : x.failures.depth = 0) (hf : ∀ a, (f a).failures.depth = 0) :
    (x.bind f).failures.depth = 0 := by
  unfold bind
  cases x.outcome with
  | error reason => exact hx
  | ok a => rw [Failures.depth_add, hx, hf a]

theorem depth_concat {xs : List (Run String)} (h : ∀ x ∈ xs, x.failures.depth = 0) :
    (concat xs).failures.depth = 0 := by
  induction xs with
  | nil => rfl
  | cons x xs ih =>
    rw [List.forall_mem_cons] at h
    exact depth_bind h.1 fun s => depth_bind (ih h.2) fun t => rfl

end Run

namespace Markup

theorem depth_recover {α : Type} (reply : Reply) (value : Value → α) (recovered : α) :
    (recover reply value recovered).failures.depth = 0 := by
  cases reply <;> rfl

/-! ### Rendering where there is room -/

/-- Nodes without references whose blocks are no more inside one another than may still be
entered. -/
structure HasRoom (blocks : Nat) (nodes : List Node) : Prop where
  noReference : hasReference nodes = false
  nesting : nestings nodes ≤ blocks

namespace HasRoom

variable {n : Node} {nodes rest : List Node} {blocks blocks' : Nat}

theorem mono (h : HasRoom blocks nodes) (hblocks : blocks ≤ blocks') : HasRoom blocks' nodes :=
  ⟨h.noReference, Nat.le_trans h.nesting hblocks⟩

theorem uncons (h : HasRoom blocks (n :: rest)) : HasRoom blocks [n] ∧ HasRoom blocks rest := by
  obtain ⟨hreference, hnesting⟩ := h
  rw [hasReference, Bool.or_eq_false_iff] at hreference
  rw [nestings, Nat.max_le] at hnesting
  refine ⟨⟨?_, ?_⟩, hreference.2, hnesting.2⟩
  · simp [hasReference, hreference.1]
  · rw [nestings_singleton]
    exact hnesting.1

/-- A block may be entered, and its branches have room after that. -/
theorem inside (h : HasRoom blocks (n :: rest)) (hn : n.branches ≠ []) :
    ∃ inner, blocks = inner + 1 ∧ ∀ branch ∈ n.branches, HasRoom inner branch := by
  obtain ⟨hreference, hnesting⟩ := h
  rw [hasReference, Bool.or_eq_false_iff] at hreference
  rw [nestings, Nat.max_le] at hnesting
  have hpos := nesting_pos hn
  refine ⟨blocks - 1, by omega, fun branch hbranch => ⟨?_, ?_⟩⟩
  · exact hasReference_of_branch hbranch hreference.1
  · have hlt := nestings_lt_of_branch hbranch
    omega

theorem cond {e : Expression} {thenBranch elseBranch : List Node}
    (h : HasRoom blocks (.cond e thenBranch elseBranch :: rest)) :
    ∃ inner, blocks = inner + 1 ∧ HasRoom inner thenBranch ∧ HasRoom inner elseBranch := by
  obtain ⟨inner, rfl, hbranches⟩ := h.inside (List.cons_ne_nil _ _)
  exact ⟨inner, rfl, hbranches _ (by simp [Node.branches]), hbranches _ (by simp [Node.branches])⟩

theorem loop {e : Expression} {body elseBranch : List Node}
    (h : HasRoom blocks (.loop e body elseBranch :: rest)) :
    ∃ inner, blocks = inner + 1 ∧ HasRoom inner body ∧ HasRoom inner elseBranch := by
  obtain ⟨inner, rfl, hbranches⟩ := h.inside (List.cons_ne_nil _ _)
  exact ⟨inner, rfl, hbranches _ (by simp [Node.branches]), hbranches _ (by simp [Node.branches])⟩

theorem not_reference {raw name : String} {args : List (String × Arg)} :
    ¬ HasRoom blocks (.reference raw name args :: rest) := by
  intro h
  have hreference := h.noReference
  rw [hasReference, Node.hasReference, Bool.true_or] at hreference
  cases hreference

/-- **Nodes that have room are rendered without a skip.** -/
theorem depth_render (helpers : HelperRegistry) (partials : PartialRegistry) (depth : Nat)
    (nodes : List Node) : ∀ (blocks : Nat) (ctx : Context), HasRoom blocks nodes →
      (render helpers partials depth blocks ctx nodes).failures.depth = 0 := by
  induction depth, nodes using renderInduction partials with
  | nil depth =>
    intro blocks ctx _
    rw [render_nil]
    rfl
  | cons depth n rest ihnode ihrest =>
    intro blocks ctx h
    rw [render_cons]
    have hnode := ihnode blocks ctx h.uncons.1
    have hrest := ihrest blocks ctx h.uncons.2
    exact Run.depth_bind hnode fun s => Run.depth_bind hrest fun t => rfl
  | text depth s =>
    intro blocks ctx _
    rw [render_text]
    rfl
  | expression depth raw e =>
    intro blocks ctx _
    rw [render_expression]
    exact depth_recover _ _ _
  | cond depth e thenBranch elseBranch ihthen ihelse =>
    intro blocks ctx h
    obtain ⟨blocks, rfl, hthen, helse⟩ := h.cond
    rw [render_cond]
    refine Run.depth_bind (depth_recover _ _ _) fun b => ?_
    cases b with
    | true => exact ihthen blocks ctx hthen
    | false => exact ihelse blocks ctx helse
  | loop depth e body elseBranch ihbody ihelse =>
    intro blocks ctx h
    obtain ⟨blocks, rfl, hbody, helse⟩ := h.loop
    rw [render_loop]
    refine Run.depth_bind (depth_recover _ _ _) fun items => ?_
    cases items with
    | none => exact ihelse blocks ctx helse
    | some items =>
      refine Run.depth_concat fun x hx => ?_
      obtain ⟨i, hi, rfl⟩ := List.mem_mapIdx.1 hx
      exact ihbody blocks _ hbody
  | referenceZero raw name args =>
    intro blocks ctx h
    exact absurd h not_reference
  | referenceSucc depth raw name args ih =>
    intro blocks ctx h
    exact absurd h not_reference

variable {helpers : HelperRegistry} {partials : PartialRegistry} {depth : Nat}
  {ctx inner : Context} {e : Expression}

/-- Where there is room, it does not matter how much. -/
theorem render_eq (h : HasRoom blocks nodes) (h' : HasRoom blocks' nodes) :
    render helpers partials depth blocks' ctx nodes =
      render helpers partials depth blocks ctx nodes := by
  -- both walks are the one with no more room than is needed
  have hroom : HasRoom (nestings nodes) nodes := ⟨h.noReference, Nat.le_refl _⟩
  have hdepth := depth_render helpers partials depth nodes _ ctx hroom
  have hneeded {blocks : Nat} (hblocks : nestings nodes ≤ blocks) :
      render helpers partials depth blocks ctx nodes =
        render helpers partials depth (nestings nodes) ctx nodes :=
    render_fits helpers rfl depth nodes depth _ _ ctx (Nat.le_refl _) hblocks hdepth
  rw [hneeded h.nesting, hneeded h'.nesting]

/-- The same expressions are evaluated, in the same contexts. -/
theorem evaluates (h : HasRoom blocks nodes) (h' : HasRoom blocks' nodes)
    (hfound : Evaluates helpers partials depth blocks ctx nodes e inner) :
    Evaluates helpers partials depth blocks' ctx nodes e inner := by
  induction hfound generalizing blocks' with
  | expression => exact .expression
  | condition =>
    obtain ⟨blocks', rfl, -⟩ := h'.cond
    exact .condition
  | @branch _ _ _ _ _ _ b _ _ _ hb _ ih =>
    obtain ⟨_, ⟨⟩, hthen, helse⟩ := h.cond
    obtain ⟨blocks', rfl, hthen', helse'⟩ := h'.cond
    refine .branch hb ?_
    cases b with
    | true => exact ih hthen hthen'
    | false => exact ih helse helse'
  | source =>
    obtain ⟨blocks', rfl, -⟩ := h'.loop
    exact .source
  | iteration hitems hitem hbefore _ ih =>
    obtain ⟨_, ⟨⟩, hbody, -⟩ := h.loop
    obtain ⟨blocks', rfl, hbody', -⟩ := h'.loop
    refine .iteration hitems hitem (fun j x hj hx => hbefore j x hj ?_) (ih hbody hbody')
    simpa only [iterations, render_eq hbody hbody'] using hx
  | noItems hitems _ ih =>
    obtain ⟨_, ⟨⟩, -, helse⟩ := h.loop
    obtain ⟨blocks', rfl, -, helse'⟩ := h'.loop
    exact .noItems hitems (ih helse helse')
  | reference => exact absurd h not_reference
  | later hn _ ih =>
    refine .later ?_ (ih h.uncons.2 h'.uncons.2)
    rwa [render_eq h.uncons.1 h'.uncons.1]

end HasRoom

/-- **The cap of parsing leaves nothing for the cap of rendering.** Under a cap no block of a parsed
tree has more blocks on its path from the root, itself included. So where the tree has no
references, rendering under the same cap skips no block: a source counts as nested too deeply what
its parsing counts, rendering its tree counts nothing of it, and under larger caps it would come to
the same and evaluate the same expressions. -/
theorem parse_within_cap (cap : Nat) (source : String) :
    (∀ block k, BlockAt block k (parse cap source).nodes → k ≤ cap) ∧
    ∀ (r : Renderer) (ctx : Context), r.blockCap = cap →
      hasReference (parse cap source).nodes = false →
      (r.renderSource ctx source).failures.depth = (parse cap source).tooDeep ∧
      (r.render ctx (parse cap source).nodes).failures.depth = 0 ∧
      ∀ cap', cap ≤ cap' →
        Renderer.render { r with blockCap := cap' } ctx (parse cap source).nodes =
          r.render ctx (parse cap source).nodes ∧
        ∀ e inner,
          Evaluates r.helpers r.partials r.partialCap cap' ctx (parse cap source).nodes e inner ↔
            Evaluates r.helpers r.partials r.partialCap cap ctx (parse cap source).nodes e inner := by
  have hnesting := nestings_parse_le cap source
  refine ⟨fun block k hblock => Nat.le_trans hblock.le_nestings hnesting, ?_⟩
  rintro r ctx rfl hreference
  have hroom : HasRoom r.blockCap (parse r.blockCap source).nodes := ⟨hreference, hnesting⟩
  have hdepth : (r.render ctx (parse r.blockCap source).nodes).failures.depth = 0 :=
    HasRoom.depth_render _ _ _ _ _ ctx hroom
  refine ⟨?_, hdepth, fun cap' hcap => ?_⟩
  · show (parse r.blockCap source).tooDeep + (r.render ctx _).failures.depth = _
    rw [hdepth, Nat.add_zero]
  · have hroom' := hroom.mono hcap
    exact ⟨hroom.render_eq hroom', fun e inner => ⟨hroom'.evaluates hroom, hroom.evaluates hroom'⟩⟩

/-- A block too deep, one that another closing tag flattens, and one that is never closed. -/
theorem parse_within_cap_unclosed :
    let source := "\x7b\x7b#each rows\x7d\x7d\x7b\x7b#if this\x7d\x7d\x7b\x7b#if a\x7d\x7dx" ++
      "\x7b\x7b/if\x7d\x7dy\x7b\x7b/each\x7d\x7d\x7b\x7b#if b\x7d\x7d" ++
      "\x7b\x7b#if rows\x7d\x7dz\x7b\x7b/if\x7d\x7d"
    let r : Renderer := ⟨.standard {}, .empty 2, 8, 2⟩
    let ctx : Context := .root (.map [("rows", .array [.bool true, .bool false])])
    hasReference (parse 2 source).nodes = false ∧
      (r.renderSource ctx source).failures.depth = 1 ∧
      Renderer.render { r with blockCap := 64 } ctx (parse 2 source).nodes =
        r.render ctx (parse 2 source).nodes := by
  intro source r ctx
  have hreference : hasReference (parse 2 source).nodes = false := by decide +kernel
  have htooDeep : (parse 2 source).tooDeep = 1 := by decide +kernel
  obtain ⟨hdepth, -, hlarger⟩ := (parse_within_cap 2 source).2 r ctx rfl hreference
  exact ⟨hreference, hdepth.trans htooDeep, (hlarger 64 (by decide)).1⟩

end Markup

end TieredReport
