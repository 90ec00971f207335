/-
# Rendering a tree

A tree is rendered in one walk. An expression whose helper fails is left as its
tag; a condition that fails does not hold; a loop over anything but a filled
array renders its other branch. A reference renders the nodes of its partial,
with its arguments, resolved where it stands, in a scope of their own.

Two budgets bound the walk: `blocks` counts the blocks that may still be
entered on the way down, also through partials, and `depth` the partials that
may still be entered. A block without budget renders nothing, a reference
without budget is left as its tag, and both are counted. The walk is
structural in the tree; only references look elsewhere, so they are handed to
`expand`, and recursion on `depth` ties the knot.

Key definitions: `Markup.Expansion`, `Markup.renderNodes`, `Markup.render`,
`Markup.Renderer`, `Markup.Renderer.renderSource`.
-/
import TieredReport.Markup.Evaluate
import TieredReport.Markup.Partial

namespace TieredReport.Markup

/-- What the nodes of a partial render to, given the block budget and the context where it is
referred to. -/
abbrev Expansion := (blocks : Nat) → Context → List Node → Run String

/-- The items of a loop, if the source is a filled array. -/
def loopItems (v : Value) : Option (List Value) :=
  match v with
  | .array (item :: items) => some (item :: items)
  | _ => none

/-- The context inside a partial; without arguments it is that of the reference. -/
def referenceContext (ctx : Context) (args : List (String × Arg)) : Context :=
  if args.isEmpty then ctx else ctx.extend (args.map fun a => (a.1, a.2.resolve ctx))

/-- A reference: its partial where there is one, otherwise its tag, counted as unknown. -/
def expandReference (partials : PartialRegistry) (expand : Expansion) (blocks : Nat) (ctx : Context)
    (raw name : String) (args : List (String × Arg)) : Run String :=
  match partials.get? name with
  | none => ⟨.ok raw, .oneMissing⟩
  | some p => expand blocks (referenceContext ctx args) p.nodes

/-- How references are rendered: the block budget, the context, and tag, name and arguments. -/
abbrev References := (blocks : Nat) → Context → String → String → List (String × Arg) → Run String

mutual

/-- The text of a node. -/
def renderNode (helpers : HelperRegistry) (refs : References) (blocks : Nat) (ctx : Context) :
    Node → Run String
  | .text s => Run.pure s
  | .expression raw e => recover (evaluate helpers ctx e) Value.render raw
  | .cond e thenBranch elseBranch =>
    match blocks with
    | 0 => ⟨.ok "", .tooDeep 1⟩
    | blocks + 1 =>
      (holds helpers ctx e).bind fun b =>
        if b then renderNodes helpers refs blocks ctx thenBranch
        else renderNodes helpers refs blocks ctx elseBranch
  | .loop e body elseBranch =>
    match blocks with
    | 0 => ⟨.ok "", .tooDeep 1⟩
    | blocks + 1 =>
      (recover (evaluate helpers ctx e) loopItems none).bind fun items =>
        match items with
        | none => renderNodes helpers refs blocks ctx elseBranch
        | some items =>
          Run.concat (items.mapIdx fun i item =>
            renderNodes helpers refs blocks (ctx.iteration item i items.length) body)
  | .reference raw name args => refs blocks ctx raw name args

/-- The texts of some nodes, one after the other. -/
def renderNodes (helpers : HelperRegistry) (refs : References) (blocks : Nat) (ctx : Context) :
    List Node → Run String
  | [] => Run.pure ""
  | n :: rest =>
    (renderNode helpers refs blocks ctx n).bind fun s =>
      (renderNodes helpers refs blocks ctx rest).bind fun t => Run.pure (s ++ t)

end

/-- The text of some nodes, with at most `depth` partials inside one another and `blocks` blocks. -/
def render (helpers : HelperRegistry) (partials : PartialRegistry) :
    (depth blocks : Nat) → Context → List Node → Run String
  | 0, blocks, ctx, nodes =>
    renderNodes helpers (fun _ _ raw _ _ => ⟨.ok raw, .tooDeep 1⟩) blocks ctx nodes
  | depth + 1, blocks, ctx, nodes =>
    renderNodes helpers (expandReference partials (render helpers partials depth)) blocks ctx nodes

/-- What a source is rendered with. -/
structure Renderer where
  helpers : HelperRegistry
  partials : PartialRegistry
  partialCap : Nat
  blockCap : Nat

namespace Renderer

/-- Render a tree. -/
def render (r : Renderer) (ctx : Context) (nodes : List Node) : Run String :=
  Markup.render r.helpers r.partials r.partialCap r.blockCap ctx nodes

/-- Parse and render a source. -/
def renderSource (r : Renderer) (ctx : Context) (source : String) : Run String :=
  let parsed := parse r.blockCap source
  (Run.count (.tooDeep parsed.tooDeep)).bind fun _ => r.render ctx parsed.nodes

end Renderer

end TieredReport.Markup
