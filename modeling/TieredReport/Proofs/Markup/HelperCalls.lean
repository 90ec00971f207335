/-
# The helper calls of a rendering

A trace is a rendering together with the helper calls that are made during it, in
their order: the same walk, with a note of the call wherever an expression is
evaluated. Without the notes it is the rendering (`run_trace`).

A helper that always fails is recovered where it is called, and nowhere else
(`render_of_failing_helper`). Put the tag in place of each expression that calls
it, and the literal false in place of each such condition and source of a loop, in
the tree and in the partials: the text stays the same, and so do the counts, up to
one failure for each call that is no longer made. The two walks are followed side
by side, and the second one counts what the first one does less the calls that
this one has made so far (`Traced.Covers`).

Key definitions: `Traced`, `trace`, `Traced.callsOf`, `Expression.calls`, `silence`,
`PartialRegistry.mapNodes`, `Traced.Covers`.
Key theorems: `run_trace`, `Traced.Covers.bind`, `traceNodes_covers`, `trace_covers`,
`render_of_failing_helper`.
-/
import TieredReport.Proofs.Markup.Rendering

namespace TieredReport.Markup

/-! ### Runs that note calls -/

/-- A run, and the helper calls made during it: names and arguments, in order. -/
structure Traced (α : Type) where
  run : Run α
  calls : List (String × List Value)

namespace Traced

variable {α β : Type}

/-- A run during which no helper is called. -/
def quiet (x : Run α) : Traced α := ⟨x, []⟩

/-- A run, and after its result another one. -/
def bind (x : Traced α) (f : α → Traced β) : Traced β where
  run := x.run.bind fun a => (f a).run
  calls := x.calls ++
    match x.run.outcome with
    | .ok a => (f a).calls
    | .error _ => []

/-- The texts of some runs, one after the other. -/
def concat : List (Traced String) → Traced String
  | [] => quiet (Run.pure "")
  | x :: xs => x.bind fun s => (concat xs).bind fun t => quiet (Run.pure (s ++ t))

/-- The number of calls of a helper. -/
def callsOf (name : String) (x : Traced α) : Nat := x.calls.countP (·.1 = name)

theorem run_concat_mapIdx (items : List β) {f : Nat → β → Traced String}
    {g : Nat → β → Run String} (h : ∀ i b, (f i b).run = g i b) :
    (concat (items.mapIdx f)).run = Run.concat (items.mapIdx g) := by
  induction items generalizing f g with
  | nil => rfl
  | cons b items ih =>
    have hrest := ih fun i b => h (i + 1) b
    rw [List.mapIdx_cons, List.mapIdx_cons, Run.concat, ← hrest, ← h]
    rfl

end Traced

/-! ### Traces -/

/-- The helper call that the evaluation of an expression is, if it is one. -/
def callOf (helpers : HelperRegistry) (ctx : Context) (e : Expression) :
    List (String × List Value) :=
  match e.literal, helpers.get? e.head with
  | none, some _ => [(e.head, e.args.map (Arg.resolve ctx))]
  | _, _ => []

/-- The evaluation of an expression, and what is made of its reply. -/
def traceReply {α : Type} (helpers : HelperRegistry) (ctx : Context) (e : Expression)
    (value : Value → α) (recovered : α) : Traced α :=
  ⟨recover (evaluate helpers ctx e) value recovered, callOf helpers ctx e⟩

/-- How references are traced. -/
abbrev TracedReferences :=
  (blocks : Nat) → Context → String → String → List (String × Arg) → Traced String

mutual

/-- The trace of a node. -/
def traceNode (helpers : HelperRegistry) (refs : TracedReferences) (blocks : Nat) (ctx : Context) :
    Node → Traced String
  | .text s => .quiet (Run.pure s)
  | .expression raw e => traceReply helpers ctx e Value.render raw
  | .cond e thenBranch elseBranch =>
    match blocks with
    | 0 => .quiet ⟨.ok "", .tooDeep 1⟩
    | blocks + 1 =>
      (traceReply helpers ctx e Value.truthy false).bind fun b =>
        if b then traceNodes helpers refs blocks ctx thenBranch
        else traceNodes helpers refs blocks ctx elseBranch
  | .loop e body elseBranch =>
    match blocks with
    | 0 => .quiet ⟨.ok "", .tooDeep 1⟩
    | blocks + 1 =>
      (traceReply helpers ctx e loopItems none).bind fun items =>
        match items with
        | none => traceNodes helpers refs blocks ctx elseBranch
        | some items =>
          Traced.concat (items.mapIdx fun i item =>
            traceNodes helpers refs blocks (ctx.iteration item i items.length) body)
  | .reference raw name args => refs blocks ctx raw name args

/-- The trace of some nodes. -/
def traceNodes (helpers : HelperRegistry) (refs : TracedReferences) (blocks : Nat) (ctx : Context) :
    List Node → Traced String
  | [] => .quiet (Run.pure "")
  | n :: rest =>
    (traceNode helpers refs blocks ctx n).bind fun s =>
      (traceNodes helpers refs blocks ctx rest).bind fun t => .quiet (Run.pure (s ++ t))

end

/-- The trace of some nodes, at most `depth` partials and at most `blocks` blocks deep. -/
def trace (helpers : HelperRegistry) (partials : PartialRegistry) :
    (depth blocks : Nat) → Context → List Node → Traced String
  | 0, blocks, ctx, nodes =>
    traceNodes helpers (fun _ _ raw _ _ => .quiet ⟨.ok raw, .tooDeep 1⟩) blocks ctx nodes
  | depth + 1, blocks, ctx, nodes =>
    traceNodes helpers (fun blocks ctx raw name args =>
      match partials.get? name with
      | none => .quiet ⟨.ok raw, .oneMissing⟩
      | some p => trace helpers partials depth blocks (referenceContext ctx args) p.nodes)
      blocks ctx nodes

/-- The trace of a tree. -/
def Renderer.trace (r : Renderer) (ctx : Context) (nodes : List Node) : Traced String :=
  Markup.trace r.helpers r.partials r.partialCap r.blockCap ctx nodes

/-! ### Without the notes -/

section

variable {helpers : HelperRegistry} {traced : TracedReferences} {refs : References}

/-- References are rendered as they are traced. -/
def TracedReferences.RunTo (traced : TracedReferences) (refs : References) : Prop :=
  ∀ blocks ctx raw name args, (traced blocks ctx raw name args).run = refs blocks ctx raw name args

mutual

theorem run_traceNode (hrefs : traced.RunTo refs) : ∀ (n : Node) (blocks : Nat) (ctx : Context),
    (traceNode helpers traced blocks ctx n).run = renderNode helpers refs blocks ctx n
  | .text s, blocks, ctx => by rw [traceNode, renderNode, Traced.quiet]
  | .expression raw e, blocks, ctx => by rw [traceNode, renderNode, traceReply]
  | .cond e thenBranch elseBranch, 0, ctx => by rw [traceNode, renderNode, Traced.quiet]
  | .cond e thenBranch elseBranch, blocks + 1, ctx => by
    have hthen := run_traceNodes hrefs thenBranch blocks ctx
    have helse := run_traceNodes hrefs elseBranch blocks ctx
    rw [traceNode, renderNode, ← hthen, ← helse]
    refine congrArg (Run.bind _) (funext fun b => ?_)
    cases b <;> rfl
  | .loop e body elseBranch, 0, ctx => by rw [traceNode, renderNode, Traced.quiet]
  | .loop e body elseBranch, blocks + 1, ctx => by
    have hbody := run_traceNodes hrefs body blocks
    have helse := run_traceNodes hrefs elseBranch blocks ctx
    rw [traceNode, renderNode, ← helse]
    refine congrArg (Run.bind _) (funext fun items => ?_)
    cases items with
    | none => rfl
    | some items => exact Traced.run_concat_mapIdx items fun i item => hbody _
  | .reference raw name args, blocks, ctx => by
    rw [traceNode, renderNode, hrefs]

theorem run_traceNodes (hrefs : traced.RunTo refs) :
    ∀ (ns : List Node) (blocks : Nat) (ctx : Context),
      (traceNodes helpers traced blocks ctx ns).run = renderNodes helpers refs blocks ctx ns
  | [], blocks, ctx => by rw [traceNodes, renderNodes, Traced.quiet]
  | n :: rest, blocks, ctx => by
    have hnode := run_traceNode hrefs n blocks ctx
    have hrest := run_traceNodes hrefs rest blocks ctx
    rw [traceNodes, renderNodes, ← hnode, ← hrest]
    rfl

end

end

/-- **A trace is a rendering**, with the calls noted. -/
theorem run_trace (helpers : HelperRegistry) (partials : PartialRegistry) :
    ∀ (depth blocks : Nat) (ctx : Context) (nodes : List Node),
      (trace helpers partials depth blocks ctx nodes).run =
        render helpers partials depth blocks ctx nodes
  | 0, blocks, ctx, nodes => run_traceNodes (fun _ _ _ _ _ => rfl) nodes blocks ctx
  | depth + 1, blocks, ctx, nodes => by
    refine run_traceNodes (fun blocks ctx raw name args => ?_) nodes blocks ctx
    unfold expandReference
    cases partials.get? name with
    | none => rfl
    | some p => exact run_trace helpers partials depth blocks _ p.nodes

/-! ### Without the calls of a helper -/

/-- Whether an expression calls the helper of a name, if there is one: it is no literal, and the
name is its head. -/
def Expression.calls (name : String) (e : Expression) : Bool := e.literal.isNone && e.head == name

/-- The literal false. -/
def Expression.never : Expression := .parse "false".toList

/-- An expression, or the literal false in place of a call of a helper. -/
def Expression.silence (name : String) (e : Expression) : Expression :=
  if e.calls name then .never else e

mutual

/-- A node in which nothing calls a helper: tags stand in place of the expressions that do, and the
literal false in place of such conditions and sources of loops. -/
def Node.silence (name : String) : Node → Node
  | .text s => .text s
  | .expression raw e => if e.calls name then .text raw else .expression raw e
  | .cond e thenBranch elseBranch =>
    .cond (e.silence name) (Markup.silence name thenBranch) (Markup.silence name elseBranch)
  | .loop e body elseBranch =>
    .loop (e.silence name) (Markup.silence name body) (Markup.silence name elseBranch)
  | .reference raw partialName args => .reference raw partialName args

/-- Some nodes in which nothing calls a helper. -/
def silence (name : String) : List Node → List Node
  | [] => []
  | n :: rest => n.silence name :: silence name rest

end

/-- A registry in which the nodes of every partial are changed. -/
def PartialRegistry.mapNodes (f : List Node → List Node) (r : PartialRegistry) : PartialRegistry :=
  { r with partials := r.partials.map fun entry =>
      (entry.1, { entry.2 with nodes := f entry.2.nodes }) }

theorem PartialRegistry.get?_mapNodes (f : List Node → List Node) (r : PartialRegistry)
    (name : String) :
    (r.mapNodes f).get? name = (r.get? name).map fun p => { p with nodes := f p.nodes } := by
  obtain ⟨cap, partials⟩ := r
  unfold PartialRegistry.mapNodes PartialRegistry.get?
  induction partials with
  | nil => rfl
  | cons entry rest ih =>
    rw [List.map_cons, Fields.get?, Fields.get?]
    split
    · rfl
    · exact ih

/-! ### Runs side by side -/

namespace Traced

variable {α β : Type} {name : String} {x : Traced α} {y : Run α}

/-- A traced run comes to what another run comes to, and counts what that counts and one failure for
each of its calls of a helper. -/
structure Covers (name : String) (x : Traced α) (y : Run α) : Prop where
  outcome : x.run.outcome = y.outcome
  failures : x.run.failures = y.failures + { helper := x.callsOf name }

theorem covers_quiet (name : String) (y : Run α) : (quiet y).Covers name y :=
  ⟨rfl, (Failures.add_none _).symm⟩

theorem Covers.bind {f : α → Traced β} {g : α → Run β} (hx : x.Covers name y)
    (hf : ∀ a, (f a).Covers name (g a)) : (x.bind f).Covers name (y.bind g) := by
  obtain ⟨houtcome, hfailures⟩ := hx
  unfold Traced.bind Run.bind
  cases hy : y.outcome with
  | error reason =>
    rw [hy] at houtcome
    constructor
    · simp only [houtcome]
    · simp only [houtcome, hfailures, callsOf, List.append_nil]
  | ok a =>
    rw [hy] at houtcome
    constructor
    · simp only [houtcome, (hf a).outcome]
    · simp only [houtcome, hfailures, (hf a).failures, callsOf, List.countP_append]
      ext
      · simp only [Failures.helper_add]
        omega
      · simp only [Failures.missing_add, Nat.add_zero]
      · simp only [Failures.depth_add, Nat.add_zero]

theorem Covers.concat_mapIdx (items : List β) {f : Nat → β → Traced String}
    {g : Nat → β → Run String} (h : ∀ i b, (f i b).Covers name (g i b)) :
    (concat (items.mapIdx f)).Covers name (Run.concat (items.mapIdx g)) := by
  induction items generalizing f g with
  | nil => exact covers_quiet name _
  | cons b items ih =>
    rw [List.mapIdx_cons, List.mapIdx_cons, concat, Run.concat]
    have hrest := ih fun i b => h (i + 1) b
    exact (h 0 b).bind fun s => hrest.bind fun t => covers_quiet name _

end Traced

/-! ### A helper that always fails -/

/-- The helper of a name fails, whatever it is called with. -/
def AlwaysFails (helpers : HelperRegistry) (name : String) : Prop :=
  ∃ h, helpers.get? name = some h ∧ ∀ args, ∃ e, h.call helpers.defaults args = .failure e

variable {helpers : HelperRegistry} {name : String}

theorem evaluate_never (helpers : HelperRegistry) (ctx : Context) :
    evaluate helpers ctx .never = .value (.bool false) := rfl

/-- A call of a helper that always fails is one failure. -/
theorem traceReply_of_calls {α : Type} (hfails : AlwaysFails helpers name) (ctx : Context)
    {e : Expression} (he : e.calls name = true) (value : Value → α) (recovered : α) :
    (traceReply helpers ctx e value recovered).Covers name (Run.pure recovered) := by
  obtain ⟨h, hget, hfail⟩ := hfails
  obtain ⟨hliteral, hhead⟩ := (Bool.and_eq_true _ _).mp he
  rw [Option.isNone_iff_eq_none] at hliteral
  obtain rfl := eq_of_beq hhead
  obtain ⟨error, herror⟩ := hfail (e.args.map (Arg.resolve ctx))
  constructor
  · simp [traceReply, evaluate, hliteral, hget, herror, recover, Run.pure]
  · simp [traceReply, evaluate, callOf, hliteral, hget, herror, recover, Run.pure, Traced.callsOf,
      Failures.oneHelper]

/-- What is not a call of the helper is evaluated as it is. -/
theorem traceReply_of_not_calls {α : Type} (ctx : Context) {e : Expression}
    (he : e.calls name = false) (value : Value → α) (recovered : α) :
    (traceReply helpers ctx e value recovered).Covers name
      (recover (evaluate helpers ctx e) value recovered) := by
  have hcalls : (traceReply helpers ctx e value recovered).callsOf name = 0 := by
    unfold Traced.callsOf traceReply callOf
    unfold Expression.calls at he
    cases hliteral : e.literal <;> cases hget : helpers.get? e.head <;> simp_all
  refine ⟨rfl, ?_⟩
  rw [hcalls]
  exact (Failures.add_none _).symm

/-- The literal false comes to what a failed call is recovered to. -/
theorem traceReply_covers {α : Type} (hfails : AlwaysFails helpers name) (ctx : Context)
    (e : Expression) {value : Value → α} {recovered : α}
    (hfalse : value (.bool false) = recovered) :
    (traceReply helpers ctx e value recovered).Covers name
      (recover (evaluate helpers ctx (e.silence name)) value recovered) := by
  unfold Expression.silence
  cases he : e.calls name with
  | false => exact traceReply_of_not_calls ctx he value recovered
  | true =>
    rw [if_pos rfl, evaluate_never, recover, hfalse]
    exact traceReply_of_calls hfails ctx he value recovered

section

variable {traced : TracedReferences} {refs : References}

/-- The trace of each reference covers how it is rendered without the calls. -/
def TracedReferences.Covers (name : String) (traced : TracedReferences) (refs : References) :
    Prop :=
  ∀ blocks ctx raw partialName args,
    (traced blocks ctx raw partialName args).Covers name (refs blocks ctx raw partialName args)

mutual

theorem traceNode_covers (hfails : AlwaysFails helpers name) (hrefs : traced.Covers name refs) :
    ∀ (n : Node) (blocks : Nat) (ctx : Context),
      (traceNode helpers traced blocks ctx n).Covers name
        (renderNode helpers refs blocks ctx (n.silence name))
  | .text s, blocks, ctx => by
    rw [traceNode, Node.silence, renderNode]
    exact Traced.covers_quiet name _
  | .expression raw e, blocks, ctx => by
    rw [traceNode, Node.silence]
    cases he : e.calls name with
    | false =>
      rw [if_neg Bool.false_ne_true, renderNode]
      exact traceReply_of_not_calls ctx he Value.render raw
    | true =>
      rw [if_pos rfl, renderNode]
      exact traceReply_of_calls hfails ctx he Value.render raw
  | .cond e thenBranch elseBranch, 0, ctx => by
    rw [traceNode, Node.silence, renderNode]
    exact Traced.covers_quiet name _
  | .cond e thenBranch elseBranch, blocks + 1, ctx => by
    rw [traceNode, Node.silence, renderNode]
    refine (traceReply_covers hfails ctx e rfl).bind fun b => ?_
    cases b with
    | true => exact traceNodes_covers hfails hrefs thenBranch blocks ctx
    | false => exact traceNodes_covers hfails hrefs elseBranch blocks ctx
  | .loop e body elseBranch, 0, ctx => by
    rw [traceNode, Node.silence, renderNode]
    exact Traced.covers_quiet name _
  | .loop e body elseBranch, blocks + 1, ctx => by
    rw [traceNode, Node.silence, renderNode]
    refine (traceReply_covers hfails ctx e rfl).bind fun items => ?_
    cases items with
    | none => exact traceNodes_covers hfails hrefs elseBranch blocks ctx
    | some items =>
      have hbody := traceNodes_covers hfails hrefs body blocks
      exact Traced.Covers.concat_mapIdx items fun i item => hbody _
  | .reference raw partialName args, blocks, ctx => by
    rw [traceNode, Node.silence, renderNode]
    exact hrefs blocks ctx raw partialName args

/-- **Nodes are rendered as they are without the calls of the helper,** and each call counts. -/
theorem traceNodes_covers (hfails : AlwaysFails helpers name) (hrefs : traced.Covers name refs) :
    ∀ (ns : List Node) (blocks : Nat) (ctx : Context),
      (traceNodes helpers traced blocks ctx ns).Covers name
        (renderNodes helpers refs blocks ctx (silence name ns))
  | [], blocks, ctx => by
    rw [traceNodes, silence, renderNodes]
    exact Traced.covers_quiet name _
  | n :: rest, blocks, ctx => by
    rw [traceNodes, silence, renderNodes]
    have hnode := traceNode_covers hfails hrefs n blocks ctx
    have hrest := traceNodes_covers hfails hrefs rest blocks ctx
    exact hnode.bind fun s => hrest.bind fun t => Traced.covers_quiet name _

end

end

/-- So are nodes with the partials that they refer to. -/
theorem trace_covers (hfails : AlwaysFails helpers name) (partials : PartialRegistry) :
    ∀ (depth blocks : Nat) (ctx : Context) (nodes : List Node),
      (trace helpers partials depth blocks ctx nodes).Covers name
        (render helpers (partials.mapNodes (silence name)) depth blocks ctx (silence name nodes))
  | 0, blocks, ctx, nodes =>
    traceNodes_covers hfails (fun _ _ _ _ _ => Traced.covers_quiet name _) nodes blocks ctx
  | depth + 1, blocks, ctx, nodes => by
    refine traceNodes_covers hfails (fun blocks ctx raw partialName args => ?_) nodes blocks ctx
    rw [expandReference, PartialRegistry.get?_mapNodes]
    cases partials.get? partialName with
    | none => exact Traced.covers_quiet name _
    | some p => exact trace_covers hfails partials depth blocks _ p.nodes

/-- **A failing helper is recovered where it is called.** Without its calls, in the tree and in the
partials, the text is the same, or the crash; and what is counted differs by one failure for each
call that was made. -/
theorem Renderer.render_of_failing_helper (r : Renderer) {name : String}
    (hfails : AlwaysFails r.helpers name) (ctx : Context) (nodes : List Node) :
    let silenced : Renderer := { r with partials := r.partials.mapNodes (silence name) }
    (r.trace ctx nodes).run = r.render ctx nodes ∧
      (r.render ctx nodes).outcome = (silenced.render ctx (silence name nodes)).outcome ∧
      (r.render ctx nodes).failures = (silenced.render ctx (silence name nodes)).failures +
        { helper := (r.trace ctx nodes).callsOf name } := by
  intro silenced
  have hrun : (r.trace ctx nodes).run = r.render ctx nodes :=
    run_trace r.helpers r.partials r.partialCap r.blockCap ctx nodes
  have hcovers : (r.trace ctx nodes).Covers name (silenced.render ctx (silence name nodes)) :=
    trace_covers hfails r.partials r.partialCap r.blockCap ctx nodes
  rw [← hrun]
  exact ⟨rfl, hcovers.outcome, hcovers.failures⟩

/-- A helper that fails in a tag, in a condition and as the source of a loop in a partial, in each
of two rounds of a loop. -/
theorem Renderer.render_of_failing_helper_in_loop :
    let boom := (HelperRegistry.standard {}).register "boom" fun _ => .failure (.custom "boom" "")
    let row := "\x7b\x7b#each boom\x7d\x7d+\x7b\x7belse\x7d\x7d-\x7b\x7b/each\x7d\x7d"
    let source := "\x7b\x7b#each rows\x7d\x7d\x7b\x7bboom this\x7d\x7d\x7b\x7b#if boom\x7d\x7dx" ++
      "\x7b\x7b/if\x7d\x7d\x7b\x7b> row\x7d\x7d\x7b\x7b/each\x7d\x7d"
    let r : Renderer := ⟨boom, ((PartialRegistry.empty 64).register "row" row).1, 32, 64⟩
    let silenced : Renderer := { r with partials := r.partials.mapNodes (silence "boom") }
    let ctx : Context := .root (.map [("rows", .array [.text "a", .text "b"])])
    let nodes := (parse 64 source).nodes
    AlwaysFails r.helpers "boom" ∧ (r.trace ctx nodes).callsOf "boom" = 6 ∧
      (r.render ctx nodes).outcome = (silenced.render ctx (silence "boom" nodes)).outcome ∧
      (r.render ctx nodes).failures =
        (silenced.render ctx (silence "boom" nodes)).failures + { helper := 6 } := by
  intro boom row source r silenced ctx nodes
  have hfails : AlwaysFails r.helpers "boom" := ⟨_, rfl, fun _ => ⟨_, rfl⟩⟩
  have hcalls : (r.trace ctx nodes).callsOf "boom" = 6 := by decide +kernel
  obtain ⟨-, houtcome, hfailures⟩ := r.render_of_failing_helper hfails ctx nodes
  rw [hcalls] at hfailures
  exact ⟨hfails, hcalls, houtcome, hfailures⟩

end TieredReport.Markup
