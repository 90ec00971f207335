/-
# Parsing a source into a tree

Block tags are matched with a stack of open blocks. Parsing never fails: a
closing tag without a partner, a stray `{{else}}`, an unknown block tag or a
`{{` without its `}}` is kept as text, and a block that is never closed is
flattened back into its opening tag followed by its content.

At most `cap` blocks are open at a time. A block opened beyond that is kept as
text up to its closing tag, and counted.

Key definitions: `Markup.OpenBlock`, `Markup.Parser`, `Markup.Parser.piece`,
`Markup.Parser.finish`, `Markup.Parsed`, `Markup.parse`.
-/
import TieredReport.Markup.Node

namespace TieredReport.Markup

/-- A block whose closing tag has not been met. -/
structure OpenBlock where
  kind : BlockKind
  openTag : String
  expr : Expression
  primary : List Node
  elseTag : Option String
  alternate : List Node

namespace OpenBlock

/-- The block that a tag opens. -/
def start (kind : BlockKind) (openTag : String) (argument : List Char) : OpenBlock :=
  ⟨kind, openTag, .parse argument, [], none, []⟩

/-- Change the branch that is being filled. -/
def update (b : OpenBlock) (f : List Node → List Node) : OpenBlock :=
  match b.elseTag with
  | none => { b with primary := f b.primary }
  | some _ => { b with alternate := f b.alternate }

/-- The finished block. -/
def toNode (b : OpenBlock) : Node := .block b.kind b.expr b.primary b.alternate

/-- The block as its tags and their content, without a closing tag. -/
def flatten (b : OpenBlock) : List Node :=
  .text b.openTag :: b.primary ++
    match b.elseTag with
    | none => []
    | some tag => .text tag :: b.alternate

end OpenBlock

/-- The nodes finished so far, the open blocks, innermost first, and the blocks beyond the cap
whose closing tags are awaited, innermost first. -/
structure Parser where
  root : List Node
  stack : List OpenBlock
  verbatim : List BlockKind
  tooDeep : Nat

namespace Parser

/-- The parser before the first piece. -/
def initial : Parser := ⟨[], [], [], 0⟩

/-- Change the list of nodes that is being filled. -/
def update (p : Parser) (f : List Node → List Node) : Parser :=
  match p.stack with
  | [] => { p with root := f p.root }
  | b :: rest => { p with stack := b.update f :: rest }

/-- Add a node. -/
def push (p : Parser) (n : Node) : Parser := p.update (· ++ [n])

/-- Add a text. -/
def pushText (p : Parser) (s : List Char) : Parser := p.update (appendText · (String.ofList s))

/-- Flatten the innermost `count` open blocks, one after the other, into what encloses them. -/
def unwind : (count : Nat) → Parser → Parser
  | 0, p => p
  | count + 1, p =>
    match p.stack with
    | [] => p
    | b :: rest => unwind count (update { p with stack := rest } (· ++ b.flatten))

/-- Turn the innermost open block into a node. -/
def closeInnermost (p : Parser) : Parser :=
  match p.stack with
  | [] => p
  | b :: rest => push { p with stack := rest } b.toNode

/-- A closing tag ends the innermost block of its kind; the blocks inside that one are flattened. -/
def close (p : Parser) (kind : BlockKind) (raw : List Char) : Parser :=
  match p.stack.findIdx? (·.kind = kind) with
  | none => p.pushText raw
  | some inner => (p.unwind inner).closeInnermost

/-- An else tag begins the other branch of the innermost block, once. -/
def otherwise (p : Parser) (raw : List Char) : Parser :=
  match p.stack with
  | [] => p.pushText raw
  | b :: rest =>
    match b.elseTag with
    | none => { p with stack := { b with elseTag := some (String.ofList raw) } :: rest }
    | some _ => p.pushText raw

/-- A tag among blocks beyond the cap is text; only their own tags are followed. -/
def verbatimTag (p : Parser) (raw : List Char) (tag : Tag) : Parser :=
  let verbatim :=
    match tag, p.verbatim with
    | .opening kind _, kinds => kind :: kinds
    | .closing kind, innermost :: outer => if kind = innermost then outer else innermost :: outer
    | _, kinds => kinds
  { p with verbatim }.pushText raw

/-- An opening tag. -/
def opening (cap : Nat) (p : Parser) (raw : List Char) (kind : BlockKind)
    (argument : List Char) : Parser :=
  if cap ≤ p.stack.length then
    { p with verbatim := [kind], tooDeep := p.tooDeep + 1 }.pushText raw
  else { p with stack := .start kind (String.ofList raw) argument :: p.stack }

/-- A tag outside blocks beyond the cap. -/
def activeTag (cap : Nat) (p : Parser) (raw : List Char) : Tag → Parser
  | .opening kind argument => p.opening cap raw kind argument
  | .closing kind => p.close kind raw
  | .otherwise => p.otherwise raw
  | .reference body =>
    match reference? body with
    | some (name, args) => p.push (.reference (String.ofList raw) name args)
    | none => p.pushText raw
  | .expression body => p.push (.expression (String.ofList raw) (.parse body))
  | .unsupported => p.pushText raw

/-- One piece of the source. -/
def piece (cap : Nat) (p : Parser) : Piece → Parser
  | .text s => p.pushText s
  | .tag body =>
    if p.verbatim.isEmpty then p.activeTag cap (tagSpelling body) (.ofBody body)
    else p.verbatimTag (tagSpelling body) (.ofBody body)

/-- The parser after the last piece: blocks still open are flattened. -/
def finish (p : Parser) : Parser := p.unwind p.stack.length

end Parser

/-- A tree and the number of blocks that were too deep for it. -/
structure Parsed where
  nodes : List Node
  tooDeep : Nat

/-- The cap on nested blocks where none is given. -/
def defaultBlockCap : Nat := 64

/-- Parse a source with at most `cap` blocks open at a time. -/
def parse (cap : Nat) (source : String) : Parsed :=
  let p := ((pieces source.toList).foldl (Parser.piece cap) .initial).finish
  ⟨p.root, p.tooDeep⟩

end TieredReport.Markup
