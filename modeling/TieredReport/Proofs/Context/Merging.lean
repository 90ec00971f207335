/-
# A chain of scopes stands for one merged scope

A loop and a partial put a scope in front of a chain; they could as well copy the one scope there is
and write their bindings over it. Both contexts bind every name alike, lead every path to the same
value and render every tree to the same text with the same counts (`afterSteps_agrees`). So nothing
can tell from the outside how many scopes a context has.

That scopes in front of a chain hide what is behind them, and that a later binding replaces an
earlier one, is one fact about maps: what was written over a map is found first (`get?_override`).

Key definitions: `Fields.override`, `Context.Step`, `Context.afterSteps`, `Context.mergedScope`.
Key theorems: `Fields.get?_override`, `Context.get?_afterSteps`, `Context.afterSteps_agrees`.
-/
import Mathlib.Data.List.Induction
import TieredReport.Proofs.Markup.RootKeys

namespace TieredReport

namespace Fields

universe u

variable {α : Type u}

/-- A map with some bindings written over it, one after the other. -/
def override (fs : Fields α) (bindings : List (String × α)) : Fields α :=
  bindings.foldl (fun fs b => insert fs b.1 b.2) fs

/-- **What was written over a map is found first.** -/
theorem get?_override (fs : Fields α) (bindings : List (String × α)) (name : String) :
    get? (override fs bindings) name = (get? (ofList bindings) name).or (get? fs name) := by
  induction bindings using List.reverseRecOn with
  | nil => rfl
  | append_singleton bindings b ih =>
    have hover : override fs (bindings ++ [b]) = insert (override fs bindings) b.1 b.2 := by
      simp [override]
    have hlist : ofList (bindings ++ [b]) = insert (ofList bindings) b.1 b.2 := by
      simp [ofList]
    rw [hover, hlist, get?_insert, get?_insert, ih]
    by_cases hb : b.1 = name
    · rw [if_pos hb, if_pos hb, Option.some_or]
    · rw [if_neg hb, if_neg hb]

end Fields

namespace Context

/-! ### Steps -/

/-- A step into a loop or a partial, or any other that puts bindings in front of a context. -/
inductive Step where
  | extend (bindings : List (String × Value))
  | iteration (item : Value) (index length : Nat)

/-- The bindings that a step puts in front. -/
def Step.bindings : Step → List (String × Value)
  | .extend bindings => bindings
  | .iteration item index length => iterationBindings item index length

/-- The context after a step. -/
def step (ctx : Context) : Step → Context
  | .extend bindings => ctx.extend bindings
  | .iteration item index length => ctx.iteration item index length

/-- The context after some steps. -/
def afterSteps (ctx : Context) (steps : List Step) : Context := steps.foldl step ctx

/-- The members of a map, with the bindings of some steps written over them. -/
def mergedScope (members : Scope) (steps : List Step) : Scope :=
  steps.foldl (fun scope s => scope.override s.bindings) members

variable {members : Scope} {steps : List Step} {key : String}

theorem step_eq_extend (ctx : Context) (s : Step) : ctx.step s = ctx.extend s.bindings := by
  cases s <;> rfl

/-- A step hides what its bindings bind, and nothing else. -/
theorem get?_step (ctx : Context) (s : Step) (key : String) :
    (ctx.step s).get? key = (Fields.get? (Fields.ofList s.bindings) key).or (ctx.get? key) := by
  rw [step_eq_extend, get?_extend]
  cases Fields.get? (Fields.ofList s.bindings) key <;> rfl

/-- A step adds one scope. -/
theorem depth_step (ctx : Context) (s : Step) : (ctx.step s).depth = ctx.depth + 1 := by
  rw [step_eq_extend]
  rfl

theorem depth_afterSteps (ctx : Context) (steps : List Step) :
    (ctx.afterSteps steps).depth = steps.length + ctx.depth := by
  unfold afterSteps
  induction steps generalizing ctx with
  | nil => rw [List.foldl_nil, List.length_nil, Nat.zero_add]
  | cons s steps ih =>
    rw [List.foldl_cons, ih, depth_step, List.length_cons]
    omega

theorem get?_root_map (members : Scope) (key : String) :
    (root (.map members)).get? key = Fields.get? members key := by
  unfold root get? getIn
  cases Fields.get? members key <;> rfl

/-- **The chain binds what the merged scope binds.** -/
theorem get?_afterSteps (members : Scope) (steps : List Step) (key : String) :
    ((root (.map members)).afterSteps steps).get? key =
      Fields.get? (mergedScope members steps) key := by
  induction steps using List.reverseRecOn with
  | nil => exact get?_root_map members key
  | append_singleton steps s ih =>
    have hchain : (root (.map members)).afterSteps (steps ++ [s]) =
        ((root (.map members)).afterSteps steps).step s := by
      simp [afterSteps]
    have hmerged : mergedScope members (steps ++ [s]) =
        (mergedScope members steps).override s.bindings := by
      simp [mergedScope]
    rw [hchain, hmerged, get?_step, Fields.get?_override, ih]

/-- **A chain of scopes stands for one merged scope.** Put scopes in front of a root map, by steps
into loops and partials in any order, or write their bindings over the map: names and paths have the
same values in both contexts, and every tree renders to the same text, or crashes for the same
reason, and counts the same. -/
theorem afterSteps_agrees (members : Scope) (steps : List Step) :
    let chain := (root (.map members)).afterSteps steps
    let merged := root (.map (mergedScope members steps))
    (chain.depth = steps.length + 1 ∧ merged.depth = 1) ∧
      (∀ key, chain.get? key = merged.get? key) ∧
      (∀ path, chain.resolve path = merged.resolve path) ∧
      ∀ (r : Markup.Renderer) (nodes : List Markup.Node),
        r.render chain nodes = r.render merged nodes := by
  intro chain merged
  have hagree : chain.AgreeOn (fun _ => True) merged := fun key _ => by
    rw [get?_root_map]
    exact get?_afterSteps members steps key
  refine ⟨⟨depth_afterSteps _ steps, rfl⟩, fun key => hagree key trivial,
    fun path => hagree.resolve trivial, fun r nodes => ?_⟩
  exact Markup.render_eq_of_agreeOn r.helpers (fun _ _ _ _ _ => trivial) r.partialCap nodes
    r.blockCap chain merged (fun _ _ => trivial) hagree

end Context

end TieredReport
