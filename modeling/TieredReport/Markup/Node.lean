/-
# The tree of a source

Text that is pushed next to text joins it, so neighbouring texts arise only where
an unclosed block is flattened back into its tags and content.

Key definitions: `Markup.Node`, `Markup.Node.block`, `Markup.appendText`,
`Markup.reference?`.
-/
import TieredReport.Markup.Tag

namespace TieredReport.Markup

/-- A node of a parsed source. `raw` is the tag as it was written. -/
inductive Node where
  | text (s : String)
  | expression (raw : String) (expr : Expression)
  | cond (condition : Expression) (thenBranch elseBranch : List Node)
  | loop (source : Expression) (body elseBranch : List Node)
  | reference (raw : String) (name : String) (args : List (String × Arg))

/-- A block of a kind. -/
def Node.block : BlockKind → Expression → List Node → List Node → Node
  | .cond, e, primary, alternate => .cond e primary alternate
  | .loop, e, primary, alternate => .loop e primary alternate

/-- Nodes followed by a text, which joins a text that stands last. -/
def appendText : List Node → String → List Node
  | [], t => [.text t]
  | [.text s], t => [.text (s ++ t)]
  | n :: rest, t => n :: appendText rest t

/-- A named argument of a reference: `name=value` with both sides filled. -/
def namedArg? (word : List Char) : Option (String × Arg) :=
  match Text.cut? '=' word with
  | some (name, value) =>
    if name.isEmpty || value.isEmpty then none else some (String.ofList name, Arg.parse value)
  | none => none

/-- The name and the arguments in the body of a reference; words that are no named argument do not
count. -/
def reference? (body : List Char) : Option (String × List (String × Arg)) :=
  match words body with
  | [] => none
  | name :: rest => some (String.ofList name, rest.filterMap namedArg?)

end TieredReport.Markup
