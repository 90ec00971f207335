/-
# What rendering evaluates

Rendering comes to some of the expressions in a tree, and to some of them more
than once: a branch is left out, a body is gone through for each item, a partial
is entered. `Evaluates` says which expressions are evaluated, and in which
contexts. What stands behind a crash is not.

A rendering crashes exactly if it evaluates an expression whose helper crashes on
the values it is called with (`outcome_render_eq_error_iff`); nothing else in a
tree can end it early.

Key definitions: `Calls`, `Evaluates`.
Key theorems: `evaluate_eq_crash_iff`, `Evaluates.outcome_render`, `exists_evaluates`,
`outcome_render_eq_error_iff`.
-/
import TieredReport.Proofs.Markup.Rendering

namespace TieredReport.Markup

/-- To evaluate an expression is to call a helper with some values. -/
def Calls (helpers : HelperRegistry) (ctx : Context) (e : Expression) (h : Helper)
    (args : List Value) : Prop :=
  e.literal = none ∧ helpers.get? e.head = some h ∧ args = e.args.map (Arg.resolve ctx)

/-- Rendering some nodes in a context evaluates an expression in a context. -/
inductive Evaluates (helpers : HelperRegistry) (partials : PartialRegistry) :
    (depth blocks : Nat) → Context → List Node → Expression → Context → Prop where
  | expression {depth blocks : Nat} {ctx : Context} {raw : String} {e : Expression}
      {rest : List Node} :
      Evaluates helpers partials depth blocks ctx (.expression raw e :: rest) e ctx
  | condition {depth blocks : Nat} {ctx : Context} {e : Expression}
      {thenBranch elseBranch rest : List Node} :
      Evaluates helpers partials depth (blocks + 1) ctx (.cond e thenBranch elseBranch :: rest) e ctx
  | branch {depth blocks : Nat} {ctx inner : Context} {e found : Expression} {b : Bool}
      {thenBranch elseBranch rest : List Node} :
      (holds helpers ctx e).outcome = .ok b →
      Evaluates helpers partials depth blocks ctx (if b then thenBranch else elseBranch) found inner →
      Evaluates helpers partials depth (blocks + 1) ctx (.cond e thenBranch elseBranch :: rest) found
        inner
  | source {depth blocks : Nat} {ctx : Context} {e : Expression} {body elseBranch rest : List Node} :
      Evaluates helpers partials depth (blocks + 1) ctx (.loop e body elseBranch :: rest) e ctx
  | iteration {depth blocks : Nat} {ctx inner : Context} {e found : Expression}
      {body elseBranch rest : List Node} {items : List Value} {i : Nat} {item : Value} :
      (itemsOf helpers ctx e).outcome = .ok (some items) → items[i]? = some item →
      (∀ j x, j < i → (iterations helpers partials depth blocks ctx body items)[j]? = some x →
        x.Succeeds) →
      Evaluates helpers partials depth blocks (ctx.iteration item i items.length) body found inner →
      Evaluates helpers partials depth (blocks + 1) ctx (.loop e body elseBranch :: rest) found inner
  | noItems {depth blocks : Nat} {ctx inner : Context} {e found : Expression}
      {body elseBranch rest : List Node} :
      (itemsOf helpers ctx e).outcome = .ok none →
      Evaluates helpers partials depth blocks ctx elseBranch found inner →
      Evaluates helpers partials depth (blocks + 1) ctx (.loop e body elseBranch :: rest) found inner
  | reference {depth blocks : Nat} {ctx inner : Context} {raw name : String}
      {args : List (String × Arg)} {found : Expression} {rest : List Node} {p : Partial} :
      partials.get? name = some p →
      Evaluates helpers partials depth blocks (referenceContext ctx args) p.nodes found inner →
      Evaluates helpers partials (depth + 1) blocks ctx (.reference raw name args :: rest) found inner
  | later {depth blocks : Nat} {ctx inner : Context} {found : Expression} {n : Node}
      {rest : List Node} :
      (render helpers partials depth blocks ctx [n]).Succeeds →
      Evaluates helpers partials depth blocks ctx rest found inner →
      Evaluates helpers partials depth blocks ctx (n :: rest) found inner

variable {helpers : HelperRegistry} {partials : PartialRegistry} {depth blocks : Nat}
  {ctx inner : Context} {e : Expression} {n : Node} {nodes rest : List Node} {reason : String}

/-! ### Crashes of single expressions -/

/-- Only a helper that is called can make an evaluation crash. -/
theorem evaluate_eq_crash_iff : evaluate helpers ctx e = .crash reason ↔
    ∃ h args, Calls helpers ctx e h args ∧ h.call helpers.defaults args = .crash reason := by
  unfold evaluate Calls
  cases hliteral : e.literal with
  | some v => simp
  | none =>
    cases hget : helpers.get? e.head with
    | none => simp
    | some h =>
      constructor
      · intro hcrash
        exact ⟨h, _, ⟨rfl, rfl, rfl⟩, hcrash⟩
      · rintro ⟨h', args, ⟨-, heq, rfl⟩, hcrash⟩
        cases heq
        exact hcrash

theorem outcome_recover_eq_error_iff {α : Type} {reply : Reply} {value : Value → α} {recovered : α} :
    (recover reply value recovered).outcome = .error reason ↔ reply = .crash reason := by
  cases reply <;> simp [recover, Run.pure, Run.crash]

/-! ### From the expression to the whole -/

theorem outcome_render_cons_of_error
    (h : (render helpers partials depth blocks ctx [n]).outcome = .error reason) :
    (render helpers partials depth blocks ctx (n :: rest)).outcome = .error reason := by
  rw [render_cons]
  exact Run.outcome_bind_of_error h

/-- A crash of an evaluated expression is one of the rendering. -/
theorem Evaluates.outcome_render
    (h : Evaluates helpers partials depth blocks ctx nodes e inner)
    (hcrash : evaluate helpers inner e = .crash reason) :
    (render helpers partials depth blocks ctx nodes).outcome = .error reason := by
  induction h with
  | expression =>
    apply outcome_render_cons_of_error
    rw [render_expression]
    exact outcome_recover_eq_error_iff.2 hcrash
  | condition =>
    apply outcome_render_cons_of_error
    rw [render_cond]
    exact Run.outcome_bind_of_error (outcome_recover_eq_error_iff.2 hcrash)
  | branch hb _ ih =>
    apply outcome_render_cons_of_error
    rw [render_cond, Run.outcome_bind_of_ok hb]
    exact ih hcrash
  | source =>
    apply outcome_render_cons_of_error
    rw [render_loop]
    exact Run.outcome_bind_of_error (outcome_recover_eq_error_iff.2 hcrash)
  | @iteration _ _ _ _ _ _ _ _ _ items i item hitems hitem hbefore _ ih =>
    apply outcome_render_cons_of_error
    rw [render_loop, Run.outcome_bind_of_ok hitems]
    refine Run.outcome_concat_eq_error_iff.2 ⟨i, _, ?_, ih hcrash, hbefore⟩
    rw [iterations, List.getElem?_mapIdx, hitem]
    rfl
  | noItems hitems _ ih =>
    apply outcome_render_cons_of_error
    rw [render_loop, Run.outcome_bind_of_ok hitems]
    exact ih hcrash
  | reference hp _ ih =>
    apply outcome_render_cons_of_error
    rw [render_reference, hp]
    exact ih hcrash
  | later hn _ ih =>
    obtain ⟨s, hs⟩ := hn
    rw [render_cons, Run.outcome_bind_of_ok hs]
    exact Run.outcome_bind_of_error (ih hcrash)

/-! ### From the whole to the expression -/

theorem not_evaluates_nil : ¬ Evaluates helpers partials depth blocks ctx [] e inner := by
  intro h
  cases h

/-- What is evaluated in the first node is evaluated, whatever follows. -/
theorem Evaluates.of_singleton (h : Evaluates helpers partials depth blocks ctx [n] e inner) :
    Evaluates helpers partials depth blocks ctx (n :: rest) e inner := by
  cases h with
  | expression => exact .expression
  | condition => exact .condition
  | branch hb hfound => exact .branch hb hfound
  | source => exact .source
  | iteration hitems hitem hbefore hfound => exact .iteration hitems hitem hbefore hfound
  | noItems hitems hfound => exact .noItems hitems hfound
  | reference hp hfound => exact .reference hp hfound
  | later _ hnil => exact absurd hnil not_evaluates_nil

/-- A crash of a rendering is one of an evaluated expression. -/
theorem exists_evaluates (helpers : HelperRegistry) (partials : PartialRegistry) {reason : String}
    (depth : Nat) (nodes : List Node) : ∀ (blocks : Nat) (ctx : Context),
      (render helpers partials depth blocks ctx nodes).outcome = .error reason →
      ∃ e inner, Evaluates helpers partials depth blocks ctx nodes e inner ∧
        evaluate helpers inner e = .crash reason := by
  induction depth, nodes using renderInduction partials with
  | nil depth =>
    intro blocks ctx h
    rw [render_nil] at h
    cases h
  | cons depth n rest ihnode ihrest =>
    intro blocks ctx h
    rw [render_cons, Run.outcome_bind_eq_error_iff] at h
    rcases h with h | ⟨s, hs, h⟩
    · obtain ⟨e, inner, hfound, hcrash⟩ := ihnode blocks ctx h
      exact ⟨e, inner, hfound.of_singleton, hcrash⟩
    · rcases Run.outcome_bind_eq_error_iff.1 h with h | ⟨t, -, h⟩
      · obtain ⟨e, inner, hfound, hcrash⟩ := ihrest blocks ctx h
        exact ⟨e, inner, .later ⟨s, hs⟩ hfound, hcrash⟩
      · cases h
  | text depth s =>
    intro blocks ctx h
    rw [render_text] at h
    cases h
  | expression depth raw e =>
    intro blocks ctx h
    rw [render_expression] at h
    exact ⟨e, ctx, .expression, outcome_recover_eq_error_iff.1 h⟩
  | cond depth e thenBranch elseBranch ihthen ihelse =>
    intro blocks ctx h
    cases blocks with
    | zero =>
      rw [render_cond_zero] at h
      cases h
    | succ blocks =>
      rw [render_cond, Run.outcome_bind_eq_error_iff] at h
      rcases h with h | ⟨b, hb, h⟩
      · exact ⟨e, ctx, .condition, outcome_recover_eq_error_iff.1 h⟩
      · have ih : ∃ found inner, Evaluates helpers partials depth blocks ctx
            (if b then thenBranch else elseBranch) found inner ∧
            evaluate helpers inner found = .crash reason := by
          cases b with
          | true => exact ihthen blocks ctx h
          | false => exact ihelse blocks ctx h
        obtain ⟨found, inner, hfound, hcrash⟩ := ih
        exact ⟨found, inner, .branch hb hfound, hcrash⟩
  | loop depth e body elseBranch ihbody ihelse =>
    intro blocks ctx h
    cases blocks with
    | zero =>
      rw [render_loop_zero] at h
      cases h
    | succ blocks =>
      rw [render_loop, Run.outcome_bind_eq_error_iff] at h
      rcases h with h | ⟨items, hitems, h⟩
      · exact ⟨e, ctx, .source, outcome_recover_eq_error_iff.1 h⟩
      · cases items with
        | none =>
          obtain ⟨found, inner, hfound, hcrash⟩ := ihelse blocks ctx h
          exact ⟨found, inner, .noItems hitems hfound, hcrash⟩
        | some items =>
          obtain ⟨i, x, hx, herror, hbefore⟩ := Run.outcome_concat_eq_error_iff.1 h
          rw [iterations, List.getElem?_mapIdx, Option.map_eq_some_iff] at hx
          obtain ⟨item, hitem, rfl⟩ := hx
          obtain ⟨found, inner, hfound, hcrash⟩ := ihbody blocks _ herror
          exact ⟨found, inner, .iteration hitems hitem hbefore hfound, hcrash⟩
  | referenceZero raw name args =>
    intro blocks ctx h
    rw [render_reference_zero] at h
    cases h
  | referenceSucc depth raw name args ih =>
    intro blocks ctx h
    rw [render_reference] at h
    cases hp : partials.get? name with
    | none =>
      rw [hp] at h
      cases h
    | some p =>
      rw [hp] at h
      obtain ⟨found, inner, hfound, hcrash⟩ := ih p hp blocks _ h
      exact ⟨found, inner, .reference hp hfound, hcrash⟩

/-- **When rendering crashes.** It does exactly if it evaluates an expression that does. -/
theorem outcome_render_eq_error_iff :
    (render helpers partials depth blocks ctx nodes).outcome = .error reason ↔
      ∃ e inner, Evaluates helpers partials depth blocks ctx nodes e inner ∧
        evaluate helpers inner e = .crash reason := by
  constructor
  · exact exists_evaluates helpers partials depth nodes blocks ctx
  · rintro ⟨e, inner, hfound, hcrash⟩
    exact hfound.outcome_render hcrash

end TieredReport.Markup
