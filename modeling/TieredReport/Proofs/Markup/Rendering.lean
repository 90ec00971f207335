/-
# Equations and induction for rendering

A tree is rendered with two budgets, for the partials and for the blocks that may
still be entered. The budgets, the context and the nodes on the right of each
equation below are those that a step down leads to, so later proofs neither
unfold the walk nor speak of how references are handed to it. Properties of
rendering are proved by one induction (`renderInduction`): on the partials that
may still be entered, and below that on the tree.

Key definitions: `Run.Succeeds`, `iterations`, `TreeCases`.
Key theorems: `render_cons`, `render_cond`, `render_loop`, `render_reference`,
`renderInduction`.
-/
import TieredReport.Markup.Render

namespace TieredReport

namespace Run

variable {α β : Type} {x : Run α} {f : α → Run β} {reason : String}

/-- A run has a result. -/
def Succeeds (x : Run α) : Prop := ∃ a, x.outcome = .ok a

theorem outcome_bind_of_ok {a : α} (h : x.outcome = .ok a) :
    (x.bind f).outcome = (f a).outcome := by
  simp [bind, h]

theorem outcome_bind_of_error (h : x.outcome = .error reason) :
    (x.bind f).outcome = .error reason := by
  simp [bind, h]

/-- What comes after a run matters only for the results that it can have. -/
theorem bind_congr {g : α → Run β} (h : ∀ a, x.outcome = .ok a → f a = g a) :
    x.bind f = x.bind g := by
  unfold bind
  cases hx : x.outcome with
  | error reason => rfl
  | ok a => simp only [h a hx]

/-- Two runs in a row crash if the first one does, or it has a result and the second one does. -/
theorem outcome_bind_eq_error_iff : (x.bind f).outcome = .error reason ↔
    x.outcome = .error reason ∨ ∃ a, x.outcome = .ok a ∧ (f a).outcome = .error reason := by
  cases h : x.outcome with
  | error reason' => simp [outcome_bind_of_error h]
  | ok a => simp [outcome_bind_of_ok h]

/-- Runs in a row crash where one of them does and those before it have results. -/
theorem outcome_concat_eq_error_iff {xs : List (Run String)} :
    (concat xs).outcome = .error reason ↔
      ∃ (i : Nat) (x : Run String), xs[i]? = some x ∧ x.outcome = .error reason ∧
        ∀ (j : Nat) (y : Run String), j < i → xs[j]? = some y → y.Succeeds := by
  induction xs with
  | nil => simp [concat, pure]
  | cons x xs ih =>
    rw [concat, outcome_bind_eq_error_iff]
    constructor
    · rintro (hx | ⟨s, hs, hrest⟩)
      · exact ⟨0, x, rfl, hx, fun j y hj => absurd hj (Nat.not_lt_zero j)⟩
      · rw [outcome_bind_eq_error_iff] at hrest
        rcases hrest with hrest | ⟨t, -, ht⟩
        · obtain ⟨i, y, hy, herror, hbefore⟩ := ih.1 hrest
          refine ⟨i + 1, y, hy, herror, fun j z hj hz => ?_⟩
          cases j with
          | zero =>
            cases hz
            exact ⟨s, hs⟩
          | succ j => exact hbefore j z (Nat.lt_of_succ_lt_succ hj) hz
        · cases ht
    · rintro ⟨i, y, hy, herror, hbefore⟩
      cases i with
      | zero =>
        cases hy
        exact Or.inl herror
      | succ i =>
        obtain ⟨s, hs⟩ := hbefore 0 x (Nat.succ_pos i) rfl
        refine Or.inr ⟨s, hs, outcome_bind_of_error (ih.2 ⟨i, y, hy, herror, fun j z hj hz => ?_⟩)⟩
        exact hbefore (j + 1) z (Nat.succ_lt_succ hj) hz

end Run

namespace Markup

variable (helpers : HelperRegistry) (partials : PartialRegistry) (depth blocks : Nat)
  (ctx : Context)

/-! ### Equations -/

/-- How references are rendered with at most `depth` partials inside one another. -/
def referencesAt : Nat → References
  | 0 => fun _ _ raw _ _ => ⟨.ok raw, .tooDeep 1⟩
  | depth + 1 => expandReference partials (render helpers partials depth)

theorem render_eq_renderNodes (nodes : List Node) : render helpers partials depth blocks ctx nodes =
    renderNodes helpers (referencesAt helpers partials depth) blocks ctx nodes := by
  cases depth <;> rfl

theorem render_nil : render helpers partials depth blocks ctx [] = Run.pure "" := by
  rw [render_eq_renderNodes]
  rfl

theorem render_singleton (n : Node) : render helpers partials depth blocks ctx [n] =
    renderNode helpers (referencesAt helpers partials depth) blocks ctx n := by
  have hlast : renderNodes helpers (referencesAt helpers partials depth) blocks ctx [n] =
      (renderNode helpers (referencesAt helpers partials depth) blocks ctx n).bind fun s =>
        (Run.pure "").bind fun t => Run.pure (s ++ t) := rfl
  rw [render_eq_renderNodes, hlast]
  simp only [Run.pure_bind, String.append_empty]
  exact Run.bind_pure _

theorem render_cons (n : Node) (rest : List Node) :
    render helpers partials depth blocks ctx (n :: rest) =
      (render helpers partials depth blocks ctx [n]).bind fun s =>
        (render helpers partials depth blocks ctx rest).bind fun t => Run.pure (s ++ t) := by
  rw [render_singleton, render_eq_renderNodes, render_eq_renderNodes]
  rfl

theorem render_text (s : String) :
    render helpers partials depth blocks ctx [.text s] = Run.pure s := by
  rw [render_singleton]
  rfl

theorem render_expression (raw : String) (e : Expression) :
    render helpers partials depth blocks ctx [.expression raw e] =
      recover (evaluate helpers ctx e) Value.render raw := by
  rw [render_singleton]
  rfl

theorem render_cond_zero (e : Expression) (thenBranch elseBranch : List Node) :
    render helpers partials depth 0 ctx [.cond e thenBranch elseBranch] =
      ⟨.ok "", .tooDeep 1⟩ := by
  rw [render_singleton]
  rfl

theorem render_cond (e : Expression) (thenBranch elseBranch : List Node) :
    render helpers partials depth (blocks + 1) ctx [.cond e thenBranch elseBranch] =
      (holds helpers ctx e).bind fun b =>
        render helpers partials depth blocks ctx (if b then thenBranch else elseBranch) := by
  rw [render_singleton]
  change (holds helpers ctx e).bind _ = _
  congr 1
  funext b
  cases b <;> simp [render_eq_renderNodes]

/-- The items that a loop runs over, if its source is a filled array. -/
def itemsOf (e : Expression) : Run (Option (List Value)) :=
  recover (evaluate helpers ctx e) loopItems none

theorem render_loop_zero (e : Expression) (body elseBranch : List Node) :
    render helpers partials depth 0 ctx [.loop e body elseBranch] = ⟨.ok "", .tooDeep 1⟩ := by
  rw [render_singleton]
  rfl

/-- The runs of the body of a loop, one for each item. -/
def iterations (body : List Node) (items : List Value) : List (Run String) :=
  items.mapIdx fun i item =>
    render helpers partials depth blocks (ctx.iteration item i items.length) body

theorem render_loop (e : Expression) (body elseBranch : List Node) :
    render helpers partials depth (blocks + 1) ctx [.loop e body elseBranch] =
      (itemsOf helpers ctx e).bind fun items =>
        match items with
        | none => render helpers partials depth blocks ctx elseBranch
        | some items => Run.concat (iterations helpers partials depth blocks ctx body items) := by
  rw [render_singleton]
  change (itemsOf helpers ctx e).bind _ = _
  congr 1
  funext items
  cases items <;> simp [iterations, render_eq_renderNodes]

theorem render_reference_zero (raw name : String) (args : List (String × Arg)) :
    render helpers partials 0 blocks ctx [.reference raw name args] = ⟨.ok raw, .tooDeep 1⟩ := by
  rw [render_singleton]
  rfl

theorem render_reference (raw name : String) (args : List (String × Arg)) :
    render helpers partials (depth + 1) blocks ctx [.reference raw name args] =
      match partials.get? name with
      | none => ⟨.ok raw, .oneMissing⟩
      | some p => render helpers partials depth blocks (referenceContext ctx args) p.nodes := by
  rw [render_singleton]
  rfl

/-! ### Induction -/

variable {helpers partials depth blocks ctx}

/-- What has to be shown of a property of trees, one case for each kind of node. -/
structure TreeCases (P : List Node → Prop) : Prop where
  nil : P []
  cons : ∀ n rest, P [n] → P rest → P (n :: rest)
  text : ∀ s, P [.text s]
  expression : ∀ raw e, P [.expression raw e]
  cond : ∀ e thenBranch elseBranch, P thenBranch → P elseBranch →
    P [.cond e thenBranch elseBranch]
  loop : ∀ e body elseBranch, P body → P elseBranch → P [.loop e body elseBranch]
  reference : ∀ raw name args, P [.reference raw name args]

mutual

/-- Induction on a node. -/
theorem TreeCases.node {P : List Node → Prop} (h : TreeCases P) : ∀ n : Node, P [n]
  | .text s => h.text s
  | .expression raw e => h.expression raw e
  | .cond e thenBranch elseBranch =>
    h.cond e thenBranch elseBranch (h.nodes thenBranch) (h.nodes elseBranch)
  | .loop e body elseBranch => h.loop e body elseBranch (h.nodes body) (h.nodes elseBranch)
  | .reference raw name args => h.reference raw name args

/-- Induction on a tree. -/
theorem TreeCases.nodes {P : List Node → Prop} (h : TreeCases P) : ∀ ns : List Node, P ns
  | [] => h.nil
  | n :: rest => h.cons n rest (h.node n) (h.nodes rest)

end

/-- **Induction on what rendering comes to.** Only a reference leads outside the tree; it takes one
of the partials that may still be entered. -/
@[elab_as_elim]
theorem renderInduction {P : Nat → List Node → Prop} (partials : PartialRegistry)
    (nil : ∀ depth, P depth [])
    (cons : ∀ depth n rest, P depth [n] → P depth rest → P depth (n :: rest))
    (text : ∀ depth s, P depth [.text s])
    (expression : ∀ depth raw e, P depth [.expression raw e])
    (cond : ∀ depth e thenBranch elseBranch, P depth thenBranch → P depth elseBranch →
      P depth [.cond e thenBranch elseBranch])
    (loop : ∀ depth e body elseBranch, P depth body → P depth elseBranch →
      P depth [.loop e body elseBranch])
    (referenceZero : ∀ raw name args, P 0 [.reference raw name args])
    (referenceSucc : ∀ depth raw name args,
      (∀ p, partials.get? name = some p → P depth p.nodes) →
      P (depth + 1) [.reference raw name args])
    (depth : Nat) (nodes : List Node) : P depth nodes := by
  have htree : ∀ depth, (∀ raw name args, P depth [.reference raw name args]) →
      TreeCases (P depth) := fun depth hreference =>
    ⟨nil depth, cons depth, text depth, expression depth, cond depth, loop depth, hreference⟩
  induction depth generalizing nodes with
  | zero => exact (htree 0 referenceZero).nodes nodes
  | succ depth ih =>
    refine (htree (depth + 1) fun raw name args => ?_).nodes nodes
    exact referenceSucc depth raw name args fun p _ => ih p.nodes

end Markup

end TieredReport
