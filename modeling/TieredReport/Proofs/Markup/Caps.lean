/-
# Caps on nesting are seen only where they are exceeded

Three guards bound the nesting of blocks and of partials: an opening tag at the
cap is text while a source is parsed, a block without budget renders nothing, and
a reference without budget stays its tag. Each of them counts a failure when it
acts. So a rendition that counts none has met no guard, and none of them would
have acted under larger caps (`rendition_of_larger_caps`).

For the parser this is one step at a time: a piece is counted as too deep, or it
is taken the same under a larger cap (`Parser.piece_caps`). For rendering two
walks are followed side by side, each with its own budgets, and the second one
has to be the first only as long as that has met no cap (`Run.Fits`).

Key definitions: `PartialRegistry.registerAll`, `Rendition`, `rendition`, `Run.Fits`.
Key theorems: `Parser.piece_caps`, `parse_of_larger_cap`, `registerAll_of_larger_cap`, `render_fits`,
`rendition_of_larger_caps`.
-/
import TieredReport.Proofs.Markup.Rendering

namespace TieredReport

namespace Markup

/-- Register sources as partials, one after the other; also the number of blocks that were too
deep. -/
def PartialRegistry.registerAll (r : PartialRegistry) :
    List (String × String) → PartialRegistry × Nat
  | [] => (r, 0)
  | (name, source) :: rest =>
    let (registered, tooDeep) := r.register name source
    let (all, more) := registered.registerAll rest
    (all, tooDeep + more)

/-- What comes of registering partials and rendering a source with them: the parsed partials, and
the run with all that was counted on the way. -/
structure Rendition where
  partials : Fields Partial
  run : Run String

/-- Register partials in an empty registry and render a source with them, under a cap on nested
partials and one on nested blocks. -/
def rendition (helpers : HelperRegistry) (partialCap blockCap : Nat)
    (sources : List (String × String)) (ctx : Context) (source : String) : Rendition :=
  let (registry, tooDeep) := (PartialRegistry.empty blockCap).registerAll sources
  ⟨registry.partials, (Run.count (.tooDeep tooDeep)).bind fun _ =>
    Renderer.renderSource ⟨helpers, registry, partialCap, blockCap⟩ ctx source⟩

/-! ### Parsing -/

namespace Parser

variable {cap cap' : Nat} {p : Parser}

@[simp] theorem tooDeep_update (p : Parser) (f : List Node → List Node) :
    (p.update f).tooDeep = p.tooDeep := by
  unfold update
  cases p.stack <;> rfl

@[simp] theorem tooDeep_push (p : Parser) (n : Node) : (p.push n).tooDeep = p.tooDeep :=
  tooDeep_update p _

@[simp] theorem tooDeep_pushText (p : Parser) (s : List Char) :
    (p.pushText s).tooDeep = p.tooDeep :=
  tooDeep_update p _

@[simp] theorem tooDeep_unwind (count : Nat) (p : Parser) :
    (p.unwind count).tooDeep = p.tooDeep := by
  induction count generalizing p with
  | zero => rfl
  | succ count ih =>
    unfold unwind
    cases p.stack with
    | nil => rfl
    | cons b rest => rw [ih, tooDeep_update]

@[simp] theorem tooDeep_closeInnermost (p : Parser) : p.closeInnermost.tooDeep = p.tooDeep := by
  unfold closeInnermost
  cases p.stack with
  | nil => rfl
  | cons b rest => rw [tooDeep_push]

@[simp] theorem tooDeep_close (p : Parser) (kind : BlockKind) (raw : List Char) :
    (p.close kind raw).tooDeep = p.tooDeep := by
  unfold close
  cases p.stack.findIdx? (·.kind = kind) <;> simp

@[simp] theorem tooDeep_otherwise (p : Parser) (raw : List Char) :
    (p.otherwise raw).tooDeep = p.tooDeep := by
  unfold otherwise
  split
  · exact tooDeep_pushText p raw
  · split
    · rfl
    · exact tooDeep_pushText p raw

@[simp] theorem tooDeep_verbatimTag (p : Parser) (raw : List Char) (tag : Tag) :
    (p.verbatimTag raw tag).tooDeep = p.tooDeep :=
  tooDeep_pushText _ raw

/-- Only an opening tag asks for the cap: it is counted as too deep, or it opens a block under a
larger cap as well. -/
theorem opening_caps (h : cap ≤ cap') (p : Parser) (raw : List Char) (kind : BlockKind)
    (argument : List Char) :
    (p.opening cap raw kind argument).tooDeep = p.tooDeep + 1 ∨
    (p.opening cap raw kind argument).tooDeep = p.tooDeep ∧
      p.opening cap' raw kind argument = p.opening cap raw kind argument := by
  by_cases hfull : cap ≤ p.stack.length
  · left
    rw [opening, if_pos hfull, tooDeep_pushText]
  · right
    have hfull' : ¬ cap' ≤ p.stack.length := fun hle => hfull (Nat.le_trans h hle)
    rw [opening, opening, if_neg hfull, if_neg hfull']
    exact ⟨rfl, rfl⟩

/-- **A piece meets the cap or does not see it.** -/
theorem piece_caps (h : cap ≤ cap') (p : Parser) (x : Piece) :
    (p.piece cap x).tooDeep = p.tooDeep + 1 ∨
    (p.piece cap x).tooDeep = p.tooDeep ∧ p.piece cap' x = p.piece cap x := by
  cases x with
  | text s => exact Or.inr ⟨tooDeep_pushText p s, rfl⟩
  | tag body =>
    unfold piece
    cases p.verbatim.isEmpty with
    | false => exact Or.inr ⟨tooDeep_verbatimTag p _ _, rfl⟩
    | true =>
      simp only [if_true]
      generalize tagSpelling body = raw
      cases Tag.ofBody body with
      | opening kind argument => exact opening_caps h p raw kind argument
      | closing kind => exact Or.inr ⟨tooDeep_close p kind raw, rfl⟩
      | otherwise => exact Or.inr ⟨tooDeep_otherwise p raw, rfl⟩
      | reference body =>
        refine Or.inr ⟨?_, rfl⟩
        simp only [activeTag]
        split
        · exact tooDeep_push p _
        · exact tooDeep_pushText p raw
      | expression body => exact Or.inr ⟨tooDeep_push p _, rfl⟩
      | unsupported => exact Or.inr ⟨tooDeep_pushText p raw, rfl⟩

/-- So do pieces in a row. -/
theorem pieces_caps (h : cap ≤ cap') (xs : List Piece) (p : Parser) :
    p.tooDeep < (xs.foldl (piece cap) p).tooDeep ∨
    (xs.foldl (piece cap) p).tooDeep = p.tooDeep ∧
      xs.foldl (piece cap') p = xs.foldl (piece cap) p := by
  induction xs generalizing p with
  | nil => exact Or.inr ⟨rfl, rfl⟩
  | cons x xs ih =>
    rw [List.foldl_cons, List.foldl_cons]
    have hrest := ih (p.piece cap x)
    rcases piece_caps h p x with hmet | ⟨hsame, heq⟩
    · left
      omega
    · rw [heq, ← hsame]
      exact hrest

end Parser

variable {cap cap' : Nat}

/-- **Parsing under a larger cap** gives the same tree, if no block was too deep. -/
theorem parse_of_larger_cap (h : cap ≤ cap') {source : String}
    (hdepth : (parse cap source).tooDeep = 0) : parse cap' source = parse cap source := by
  unfold parse at hdepth ⊢
  rcases Parser.pieces_caps h (pieces source.toList) .initial with hmet | ⟨-, heq⟩
  · have hzero : ((pieces source.toList).foldl (Parser.piece cap) .initial).tooDeep = 0 :=
      (Parser.tooDeep_unwind _ _).symm.trans hdepth
    rw [hzero] at hmet
    cases hmet
  · rw [heq]

/-- **Registering under a larger cap** gives the same partials, if no block was too deep. -/
theorem registerAll_of_larger_cap (h : cap ≤ cap') (sources : List (String × String))
    (partials : Fields Partial)
    (hdepth : (PartialRegistry.registerAll ⟨cap, partials⟩ sources).2 = 0) :
    PartialRegistry.registerAll ⟨cap', partials⟩ sources =
      (⟨cap', (PartialRegistry.registerAll ⟨cap, partials⟩ sources).1.partials⟩, 0) := by
  induction sources generalizing partials with
  | nil => rfl
  | cons s rest ih =>
    obtain ⟨name, source⟩ := s
    simp only [PartialRegistry.registerAll, PartialRegistry.register, Partial.parse,
      Nat.add_eq_zero_iff] at hdepth ⊢
    obtain ⟨hsource, hrest⟩ := hdepth
    rw [parse_of_larger_cap h hsource, hsource, ih _ hrest]
    rfl

end Markup

/-! ### Runs side by side -/

namespace Run

variable {α β : Type} {x y : Run α} {f g : α → Run β}

/-- A run fits another one if it is that one, unless it met a cap. -/
def Fits (x y : Run α) : Prop := x.failures.depth = 0 → y = x

theorem Fits.refl (x : Run α) : x.Fits x := fun _ => rfl

/-- A run that met a cap fits every other. -/
theorem Fits.of_tooDeep (h : x.failures.depth ≠ 0) : x.Fits y := fun hzero => absurd hzero h

theorem Fits.bind (hx : x.Fits y) (hf : ∀ a, (f a).Fits (g a)) : (x.bind f).Fits (y.bind g) := by
  intro hdepth
  unfold Run.bind at hdepth ⊢
  cases hout : x.outcome with
  | error reason =>
    simp only [hout] at hdepth
    rw [hx hdepth]
    simp only [hout]
  | ok a =>
    simp only [hout, Failures.depth_add, Nat.add_eq_zero_iff] at hdepth
    rw [hx hdepth.1]
    simp only [hout, hf a hdepth.2]

/-- Texts in a row fit if each does. -/
theorem Fits.concat_mapIdx (items : List β) {f g : Nat → β → Run String}
    (h : ∀ i b, (f i b).Fits (g i b)) : (concat (items.mapIdx f)).Fits (concat (items.mapIdx g)) := by
  induction items generalizing f g with
  | nil => exact Fits.refl _
  | cons b items ih =>
    rw [List.mapIdx_cons, List.mapIdx_cons, concat, concat]
    have hrest := ih fun i b => h (i + 1) b
    exact (h 0 b).bind fun s => hrest.bind fun t => Fits.refl _

end Run

/-! ### Rendering -/

namespace Markup

variable {helpers : HelperRegistry} {partials partials' : PartialRegistry} {source : String}

/-- **Rendering with larger budgets** comes to the same, unless a cap was met. -/
theorem render_fits (helpers : HelperRegistry) (hpartials : partials'.get? = partials.get?)
    (depth : Nat) (nodes : List Node) : ∀ (depth' blocks blocks' : Nat) (ctx : Context),
      depth ≤ depth' → blocks ≤ blocks' →
      (render helpers partials depth blocks ctx nodes).Fits
        (render helpers partials' depth' blocks' ctx nodes) := by
  -- the induction is on the first walk, whose budgets are the smaller ones: wherever it still enters
  -- a block or a partial, the second one can follow
  induction depth, nodes using renderInduction partials with
  | nil depth =>
    intro depth' blocks blocks' ctx _ _
    rw [render_nil, render_nil]
    exact Run.Fits.refl _
  | cons depth n rest ihnode ihrest =>
    intro depth' blocks blocks' ctx hdepth hblocks
    rw [render_cons helpers partials, render_cons helpers partials']
    have hnode := ihnode depth' blocks blocks' ctx hdepth hblocks
    have hrest := ihrest depth' blocks blocks' ctx hdepth hblocks
    exact hnode.bind fun s => hrest.bind fun t => Run.Fits.refl _
  | text depth s =>
    intro depth' blocks blocks' ctx _ _
    rw [render_text, render_text]
    exact Run.Fits.refl _
  | expression depth raw e =>
    intro depth' blocks blocks' ctx _ _
    rw [render_expression, render_expression]
    exact Run.Fits.refl _
  | cond depth e thenBranch elseBranch ihthen ihelse =>
    intro depth' blocks blocks' ctx hdepth hblocks
    cases blocks with
    | zero =>
      rw [render_cond_zero]
      exact Run.Fits.of_tooDeep Nat.one_ne_zero
    | succ blocks =>
      obtain ⟨blocks', rfl⟩ := Nat.exists_eq_add_one_of_ne_zero (Nat.ne_zero_of_lt hblocks)
      have hblocks := Nat.le_of_succ_le_succ hblocks
      rw [render_cond, render_cond]
      refine (Run.Fits.refl _).bind fun b => ?_
      cases b with
      | true => exact ihthen depth' blocks blocks' ctx hdepth hblocks
      | false => exact ihelse depth' blocks blocks' ctx hdepth hblocks
  | loop depth e body elseBranch ihbody ihelse =>
    intro depth' blocks blocks' ctx hdepth hblocks
    cases blocks with
    | zero =>
      rw [render_loop_zero]
      exact Run.Fits.of_tooDeep Nat.one_ne_zero
    | succ blocks =>
      obtain ⟨blocks', rfl⟩ := Nat.exists_eq_add_one_of_ne_zero (Nat.ne_zero_of_lt hblocks)
      have hblocks := Nat.le_of_succ_le_succ hblocks
      rw [render_loop, render_loop]
      refine (Run.Fits.refl _).bind fun items => ?_
      cases items with
      | none => exact ihelse depth' blocks blocks' ctx hdepth hblocks
      | some items =>
        exact Run.Fits.concat_mapIdx items fun i item => ihbody depth' blocks blocks' _ hdepth hblocks
  | referenceZero raw name args =>
    intro depth' blocks blocks' ctx _ _
    rw [render_reference_zero]
    exact Run.Fits.of_tooDeep Nat.one_ne_zero
  | referenceSucc depth raw name args ih =>
    intro depth' blocks blocks' ctx hdepth hblocks
    obtain ⟨depth', rfl⟩ := Nat.exists_eq_add_one_of_ne_zero (Nat.ne_zero_of_lt hdepth)
    have hdepth := Nat.le_of_succ_le_succ hdepth
    rw [render_reference, render_reference, hpartials]
    cases hp : partials.get? name with
    | none => exact Run.Fits.refl _
    | some p => exact ih p hp depth' blocks blocks' _ hdepth hblocks

/-- A source comes to the same with larger caps and the same partials, unless a cap was met. -/
theorem renderSource_fits (r r' : Renderer) (hhelpers : r'.helpers = r.helpers)
    (hpartials : r'.partials.get? = r.partials.get?) (hdepth : r.partialCap ≤ r'.partialCap)
    (hblocks : r.blockCap ≤ r'.blockCap) (ctx : Context) (source : String) :
    (r.renderSource ctx source).Fits (r'.renderSource ctx source) := by
  unfold Renderer.renderSource
  by_cases hparsed : (parse r.blockCap source).tooDeep = 0
  · simp only [parse_of_larger_cap hblocks hparsed, Renderer.render, hhelpers]
    refine (Run.Fits.refl _).bind fun _ => ?_
    exact render_fits r.helpers hpartials _ _ _ _ _ ctx hdepth hblocks
  · apply Run.Fits.of_tooDeep
    simp only [Run.count, Run.bind, Failures.depth_add]
    exact fun hzero => hparsed (Nat.eq_zero_of_add_eq_zero_right hzero)

/-- **Caps are observable only where they are exceeded.** If registering partials and rendering a
source counts nothing as nested too deeply, larger caps give the same partials and the same text,
or crash for the same reason, and count the same. -/
theorem rendition_of_larger_caps (helpers : HelperRegistry) {partialCap partialCap' blockCap
    blockCap' : Nat} (hpartial : partialCap ≤ partialCap') (hblock : blockCap ≤ blockCap')
    (sources : List (String × String)) (ctx : Context) (source : String)
    (hdepth : (rendition helpers partialCap blockCap sources ctx source).run.failures.depth = 0) :
    rendition helpers partialCap' blockCap' sources ctx source =
      rendition helpers partialCap blockCap sources ctx source := by
  let registered := (PartialRegistry.empty blockCap).registerAll sources
  let r : Renderer := ⟨helpers, registered.1, partialCap, blockCap⟩
  let r' : Renderer :=
    ⟨helpers, ⟨blockCap', registered.1.partials⟩, partialCap', blockCap'⟩
  have hsum : registered.2 = 0 ∧ (r.renderSource ctx source).failures.depth = 0 :=
    Nat.add_eq_zero_iff.1 hdepth
  have hregister : (PartialRegistry.empty blockCap').registerAll sources =
      (⟨blockCap', registered.1.partials⟩, 0) := registerAll_of_larger_cap hblock sources [] hsum.1
  have hfits : (r.renderSource ctx source).Fits (r'.renderSource ctx source) :=
    renderSource_fits r r' rfl rfl hpartial hblock ctx source
  have hrender : r'.renderSource ctx source = r.renderSource ctx source := hfits hsum.2
  calc rendition helpers partialCap' blockCap' sources ctx source
      = ⟨registered.1.partials, (Run.count (.tooDeep 0)).bind fun _ =>
          r'.renderSource ctx source⟩ := by rw [rendition, hregister]
    _ = ⟨registered.1.partials, (Run.count (.tooDeep registered.2)).bind fun _ =>
          r.renderSource ctx source⟩ := by rw [hrender, hsum.1]
    _ = rendition helpers partialCap blockCap sources ctx source := rfl

/-- A partial that refers to itself once more, as deep as the smaller caps allow. -/
theorem rendition_of_larger_caps_recursive :
    let sources := [("tree",
      "\x7b\x7b#if child\x7d\x7d(\x7b\x7b> tree child=leaf\x7d\x7d)\x7b\x7b/if\x7d\x7d")]
    let ctx : Context := .root (.map [("child", .text "b")])
    rendition (.standard {}) 32 64 sources ctx "\x7b\x7b> tree\x7d\x7d" =
      rendition (.standard {}) 2 2 sources ctx "\x7b\x7b> tree\x7d\x7d" := by
  intro sources ctx
  have hdepth : (rendition (.standard {}) 2 2 sources ctx
      "\x7b\x7b> tree\x7d\x7d").run.failures.depth = 0 := by decide +kernel
  exact rendition_of_larger_caps (.standard {}) (by decide) (by decide) sources ctx _ hdepth

end Markup

end TieredReport
