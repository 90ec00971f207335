/-
# Evaluating expressions

A literal is its own value. Otherwise, where the head names a helper, that
helper is called with the other words as arguments; and where it does not, the
whole body is a path, and a path that leads nowhere gives null.

Key definitions: `Markup.evaluate`, `Markup.holds`.
-/
import TieredReport.Helper.Registry
import TieredReport.Markup.Node
import TieredReport.Markup.Run

namespace TieredReport.Markup

/-- The value of an expression, or what became of the helper call that it is. -/
def evaluate (helpers : HelperRegistry) (ctx : Context) (e : Expression) : Reply :=
  match e.literal with
  | some v => .value v
  | none =>
    match helpers.get? e.head with
    | some h => h.call helpers.defaults (e.args.map (Arg.resolve ctx))
    | none => .value (ctx.resolveOrNull e.source)

/-- A value, or `recovered` in place of a failed helper call, which is counted. -/
def recover {α : Type} (reply : Reply) (value : Value → α) (recovered : α) : Run α :=
  match reply with
  | .value v => Run.pure (value v)
  | .failure _ => ⟨.ok recovered, .oneHelper⟩
  | .crash reason => Run.crash reason

/-- Whether a condition holds; a failed helper call does not. -/
def holds (helpers : HelperRegistry) (ctx : Context) (e : Expression) : Run Bool :=
  recover (evaluate helpers ctx e) Value.truthy false

end TieredReport.Markup
