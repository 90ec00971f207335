/-
# Partials without arguments, written out in place

A reference without arguments renders the nodes of its partial in the context where it stands and
under the blocks that are left there. So the nodes could as well stand in its place, as many times
inside one another as the cap on partials allows; the references that are left then, and those to
unknown names, could be the text of their tags. That is the tree `unfolded`, which has no references
at all, and it renders to the text of the tree that it was made from (`render_unfolded`), partials
that refer to themselves included.

What goes with each other is the cap that is left when a partial is entered and the cap that its
nodes are unfolded under; the budget of blocks and the context are the same in both renderings
(`render_unfolded_alike`). What is counted is not the same: a reference that is left as its tag is
counted, a text is not. Only the failed helper calls stay as they are (`Run.Alike`).

Key definitions: `replaceReferences`, `unfolded`, `hasArguments`, `Run.Alike`.
Key theorems: `unfolded_reference`, `hasReference_unfolded`, `render_append`,
`render_unfolded_alike`, `Renderer.render_unfolded`.
-/
import TieredReport.Proofs.Markup.Nesting

namespace TieredReport

namespace Run

variable {α β : Type} {x y : Run α}

/-- Two runs come to the same: they have one result or crash for one reason, and as many helper
calls fail. They may differ in what else they count. -/
structure Alike (x y : Run α) : Prop where
  outcome : x.outcome = y.outcome
  helper : x.failures.helper = y.failures.helper

theorem Alike.refl (x : Run α) : x.Alike x := ⟨rfl, rfl⟩

theorem Alike.bind {f g : α → Run β} (hx : x.Alike y) (hf : ∀ a, (f a).Alike (g a)) :
    (x.bind f).Alike (y.bind g) := by
  obtain ⟨houtcome, hhelper⟩ := hx
  cases hy : y.outcome with
  | error reason =>
    rw [hy] at houtcome
    exact ⟨by simp [Run.bind, houtcome, hy], by simp [Run.bind, houtcome, hy, hhelper]⟩
  | ok a =>
    rw [hy] at houtcome
    obtain ⟨hresult, hcalls⟩ := hf a
    exact ⟨by simp [Run.bind, houtcome, hy, hresult],
      by simp [Run.bind, houtcome, hy, hhelper, hcalls]⟩

/-- Texts in a row are alike if each is. -/
theorem Alike.concat_mapIdx (items : List β) {f g : Nat → β → Run String}
    (h : ∀ i b, (f i b).Alike (g i b)) :
    (concat (items.mapIdx f)).Alike (concat (items.mapIdx g)) := by
  induction items generalizing f g with
  | nil => exact .refl _
  | cons b items ih =>
    rw [List.mapIdx_cons, List.mapIdx_cons, concat, concat]
    have hrest := ih fun i b => h (i + 1) b
    exact (h 0 b).bind fun s => hrest.bind fun t => .refl _

end Run

namespace Markup

/-! ### Unfolding -/

mutual

/-- A node with other nodes in the place of each reference, given by its tag and its name. -/
def Node.replaceReferences (inPlace : String → String → List Node) : Node → List Node
  | .text s => [.text s]
  | .expression raw e => [.expression raw e]
  | .cond e thenBranch elseBranch =>
    [.cond e (Markup.replaceReferences inPlace thenBranch) (Markup.replaceReferences inPlace elseBranch)]
  | .loop e body elseBranch =>
    [.loop e (Markup.replaceReferences inPlace body) (Markup.replaceReferences inPlace elseBranch)]
  | .reference raw name _ => inPlace raw name

/-- Some nodes with other nodes in the place of each reference. -/
def replaceReferences (inPlace : String → String → List Node) : List Node → List Node
  | [] => []
  | n :: rest => n.replaceReferences inPlace ++ replaceReferences inPlace rest

end

mutual

/-- Whether a node is a reference with arguments or has one inside. -/
def Node.hasArguments : Node → Bool
  | .text _ | .expression _ _ => false
  | .cond _ thenBranch elseBranch => Markup.hasArguments thenBranch || Markup.hasArguments elseBranch
  | .loop _ body elseBranch => Markup.hasArguments body || Markup.hasArguments elseBranch
  | .reference _ _ args => !args.isEmpty

/-- Whether a reference in some nodes has arguments. -/
def hasArguments : List Node → Bool
  | [] => false
  | n :: rest => n.hasArguments || hasArguments rest

end

/-- Some nodes with each reference to a partial replaced by its nodes, unfolded in turn; at most
`depth` partials inside one another. The references that are left then, and those to unknown names,
become the text of their tags. -/
def unfolded (partials : PartialRegistry) : (depth : Nat) → List Node → List Node
  | 0 => replaceReferences fun raw _ => [.text raw]
  | depth + 1 => replaceReferences fun raw name =>
    match partials.get? name with
    | none => [.text raw]
    | some p => unfolded partials depth p.nodes

variable (partials : PartialRegistry) (depth : Nat)

/-! ### Equations -/

/-- What stands in the place of a reference. -/
def replacementAt : Nat → String → String → List Node
  | 0, raw, _ => [.text raw]
  | depth + 1, raw, name =>
    match partials.get? name with
    | none => [.text raw]
    | some p => unfolded partials depth p.nodes

theorem unfolded_eq_replaceReferences (nodes : List Node) : unfolded partials depth nodes =
    replaceReferences (replacementAt partials depth) nodes := by
  cases depth <;> rfl

theorem unfolded_nil : unfolded partials depth [] = [] := by
  rw [unfolded_eq_replaceReferences]
  rfl

theorem unfolded_singleton (n : Node) : unfolded partials depth [n] =
    n.replaceReferences (replacementAt partials depth) := by
  have hlast : replaceReferences (replacementAt partials depth) [n] =
      n.replaceReferences (replacementAt partials depth) ++ [] := rfl
  rw [unfolded_eq_replaceReferences, hlast, List.append_nil]

theorem unfolded_cons (n : Node) (rest : List Node) : unfolded partials depth (n :: rest) =
    unfolded partials depth [n] ++ unfolded partials depth rest := by
  rw [unfolded_singleton, unfolded_eq_replaceReferences, unfolded_eq_replaceReferences]
  rfl

theorem unfolded_text (s : String) : unfolded partials depth [.text s] = [.text s] := by
  rw [unfolded_singleton]
  rfl

theorem unfolded_expression (raw : String) (e : Expression) :
    unfolded partials depth [.expression raw e] = [.expression raw e] := by
  rw [unfolded_singleton]
  rfl

theorem unfolded_cond (e : Expression) (thenBranch elseBranch : List Node) :
    unfolded partials depth [.cond e thenBranch elseBranch] =
      [.cond e (unfolded partials depth thenBranch) (unfolded partials depth elseBranch)] := by
  rw [unfolded_singleton, unfolded_eq_replaceReferences, unfolded_eq_replaceReferences]
  rfl

theorem unfolded_loop (e : Expression) (body elseBranch : List Node) :
    unfolded partials depth [.loop e body elseBranch] =
      [.loop e (unfolded partials depth body) (unfolded partials depth elseBranch)] := by
  rw [unfolded_singleton, unfolded_eq_replaceReferences, unfolded_eq_replaceReferences]
  rfl

theorem unfolded_reference_zero (raw name : String) (args : List (String × Arg)) :
    unfolded partials 0 [.reference raw name args] = [.text raw] := by
  rw [unfolded_singleton]
  rfl

theorem unfolded_reference (raw name : String) (args : List (String × Arg)) :
    unfolded partials (depth + 1) [.reference raw name args] =
      match partials.get? name with
      | none => [.text raw]
      | some p => unfolded partials depth p.nodes := by
  rw [unfolded_singleton]
  rfl

/-! ### No reference is left -/

theorem hasReference_append (ns ms : List Node) :
    hasReference (ns ++ ms) = (hasReference ns || hasReference ms) := by
  induction ns with
  | nil => rfl
  | cons n ns ih => rw [List.cons_append, hasReference, hasReference, ih, Bool.or_assoc]

/-- **An unfolded tree has no references.** -/
theorem hasReference_unfolded (nodes : List Node) :
    hasReference (unfolded partials depth nodes) = false := by
  induction depth, nodes using renderInduction partials with
  | nil depth =>
    rw [unfolded_nil]
    rfl
  | cons depth n rest ihnode ihrest =>
    rw [unfolded_cons, hasReference_append, ihnode, ihrest]
    rfl
  | text depth s =>
    rw [unfolded_text]
    rfl
  | expression depth raw e =>
    rw [unfolded_expression]
    rfl
  | cond depth e thenBranch elseBranch ihthen ihelse =>
    rw [unfolded_cond, hasReference, Node.hasReference, ihthen, ihelse]
    rfl
  | loop depth e body elseBranch ihbody ihelse =>
    rw [unfolded_loop, hasReference, Node.hasReference, ihbody, ihelse]
    rfl
  | referenceZero raw name args =>
    rw [unfolded_reference_zero]
    rfl
  | referenceSucc depth raw name args ih =>
    rw [unfolded_reference]
    cases hp : partials.get? name with
    | none => rfl
    | some p => exact ih p hp

/-! ### Rendering -/

variable {partials depth} {helpers : HelperRegistry}

/-- Nodes after others are rendered after them. -/
theorem render_append (helpers : HelperRegistry) (partials : PartialRegistry) (depth blocks : Nat)
    (ctx : Context) (ns ms : List Node) : render helpers partials depth blocks ctx (ns ++ ms) =
      (render helpers partials depth blocks ctx ns).bind fun s =>
        (render helpers partials depth blocks ctx ms).bind fun t => Run.pure (s ++ t) := by
  induction ns with
  | nil =>
    rw [List.nil_append, render_nil, Run.pure_bind]
    simp only [String.empty_append]
    exact (Run.bind_pure _).symm
  | cons n ns ih =>
    rw [List.cons_append, render_cons, ih, render_cons helpers partials depth blocks ctx n ns]
    simp only [Run.bind_assoc, Run.pure_bind, String.append_assoc]

/-- Without arguments a partial has the context of the reference. -/
theorem referenceContext_of_no_arguments (ctx : Context) {args : List (String × Arg)}
    (h : args.isEmpty = true) : referenceContext ctx args = ctx := by
  rw [referenceContext, if_pos h]

/-- **A tree and its unfolding render alike**, with the cap that the tree is unfolded under; for the
unfolding it does not matter which partials there are. -/
theorem render_unfolded_alike (helpers : HelperRegistry) (partials others : PartialRegistry)
    (cap : Nat) (hpartials : ∀ name p, partials.get? name = some p → hasArguments p.nodes = false)
    (depth : Nat) (nodes : List Node) : ∀ (blocks : Nat) (ctx : Context),
      hasArguments nodes = false →
      (render helpers partials depth blocks ctx nodes).Alike
        (render helpers others cap blocks ctx (unfolded partials depth nodes)) := by
  induction depth, nodes using renderInduction partials with
  | nil depth =>
    intro blocks ctx _
    rw [unfolded_nil, render_nil, render_nil]
    exact .refl _
  | cons depth n rest ihnode ihrest =>
    intro blocks ctx hargs
    rw [hasArguments, Bool.or_eq_false_iff] at hargs
    have hnode := ihnode blocks ctx (by simp [hasArguments, hargs.1])
    have hrest := ihrest blocks ctx hargs.2
    rw [unfolded_cons, render_cons, render_append]
    exact hnode.bind fun s => hrest.bind fun t => .refl _
  | text depth s =>
    intro blocks ctx _
    rw [unfolded_text, render_text, render_text]
    exact .refl _
  | expression depth raw e =>
    intro blocks ctx _
    rw [unfolded_expression, render_expression, render_expression]
    exact .refl _
  | cond depth e thenBranch elseBranch ihthen ihelse =>
    intro blocks ctx hargs
    simp only [hasArguments, Node.hasArguments, Bool.or_false, Bool.or_eq_false_iff] at hargs
    rw [unfolded_cond]
    cases blocks with
    | zero =>
      rw [render_cond_zero, render_cond_zero]
      exact .refl _
    | succ blocks =>
      rw [render_cond, render_cond]
      refine (Run.Alike.refl _).bind fun b => ?_
      cases b with
      | true => exact ihthen blocks ctx hargs.1
      | false => exact ihelse blocks ctx hargs.2
  | loop depth e body elseBranch ihbody ihelse =>
    intro blocks ctx hargs
    simp only [hasArguments, Node.hasArguments, Bool.or_false, Bool.or_eq_false_iff] at hargs
    rw [unfolded_loop]
    cases blocks with
    | zero =>
      rw [render_loop_zero, render_loop_zero]
      exact .refl _
    | succ blocks =>
      rw [render_loop, render_loop]
      refine (Run.Alike.refl _).bind fun items => ?_
      cases items with
      | none => exact ihelse blocks ctx hargs.2
      | some items => exact Run.Alike.concat_mapIdx items fun i item => ihbody blocks _ hargs.1
  | referenceZero raw name args =>
    intro blocks ctx _
    rw [unfolded_reference_zero, render_reference_zero, render_text]
    exact ⟨rfl, rfl⟩
  | referenceSucc depth raw name args ih =>
    intro blocks ctx hargs
    simp only [hasArguments, Node.hasArguments, Bool.or_false, Bool.not_eq_false'] at hargs
    rw [unfolded_reference, render_reference, referenceContext_of_no_arguments ctx hargs]
    cases hp : partials.get? name with
    | none =>
      simp only
      rw [render_text]
      exact ⟨rfl, rfl⟩
    | some p => exact ih p hp blocks ctx (hpartials name p hp)

/-- **Bounded expansion is bounded unfolding.** Where no reference has arguments, neither in a tree
nor in a registered partial, the tree renders to the text that it has after its partials are written
out in place as deep as the cap on partials allows, or crashes for the same reason. What is rendered
then has no references, so neither the partials nor their cap matter any more. -/
theorem Renderer.render_unfolded (r : Renderer) (ctx : Context) (nodes : List Node)
    (hnodes : hasArguments nodes = false)
    (hpartials : ∀ name p, r.partials.get? name = some p → hasArguments p.nodes = false) :
    hasReference (unfolded r.partials r.partialCap nodes) = false ∧
      ∀ (others : PartialRegistry) (cap : Nat),
        (r.render ctx nodes).Alike (Renderer.render ⟨r.helpers, others, cap, r.blockCap⟩ ctx
          (unfolded r.partials r.partialCap nodes)) := by
  refine ⟨hasReference_unfolded r.partials r.partialCap nodes, fun others cap => ?_⟩
  exact render_unfolded_alike r.helpers r.partials others cap hpartials r.partialCap nodes
    r.blockCap ctx hnodes

/-- Two partials that refer to each other, one of them in a loop and with an unknown name behind. -/
theorem Renderer.render_unfolded_mutual :
    let sources := [("ping", "i\x7b\x7b#each rows\x7d\x7d\x7b\x7b> pong\x7d\x7d\x7b\x7b/each\x7d\x7d"),
      ("pong", "o\x7b\x7b> ping\x7d\x7d\x7b\x7b> none\x7d\x7d")]
    let r : Renderer := ⟨.standard {}, ((PartialRegistry.empty 64).registerAll sources).1, 3, 64⟩
    let ctx : Context := .root (.map [("rows", .array [.bool true])])
    let tree := (parse 64 "\x7b\x7b> ping\x7d\x7d").nodes
    let text := "ioi\x7b\x7b> pong\x7d\x7d\x7b\x7b> none\x7d\x7d"
    (hasArguments tree = false ∧
        ∀ name p, r.partials.get? name = some p → hasArguments p.nodes = false) ∧
      (r.render ctx tree).outcome.toOption = some text ∧
      (Renderer.render ⟨.standard {}, .empty 64, 0, 64⟩ ctx
        (unfolded r.partials 3 tree)).outcome.toOption = some text := by
  intro sources r ctx tree text
  have htree : hasArguments tree = false := by decide +kernel
  have hregistered : ∀ f ∈ r.partials.partials, hasArguments f.2.nodes = false := by
    decide +kernel
  have hpartials : ∀ name p, r.partials.get? name = some p → hasArguments p.nodes = false :=
    fun name p hp => hregistered (name, p) (Fields.mem_of_get? hp)
  have htext : (r.render ctx tree).outcome.toOption = some text := by decide +kernel
  have halike := (r.render_unfolded ctx tree htree hpartials).2 (.empty 64) 0
  refine ⟨⟨htree, hpartials⟩, htext, ?_⟩
  rw [← halike.outcome]
  exact htext

end Markup

end TieredReport
