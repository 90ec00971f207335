/-
# Sources as they are meant to be written

An `Element` is a node together with the way it is written: for a block that is
the argument of its opening tag, blanks included, which the tree does not keep.
The trees that can be written without anything left to recover are the
`Printable` ones, and each of them is the tree of some well-formed elements
(`Printables.exists_elements`).

Elements are cut at a depth by turning every block with that many blocks around
it into the text that it is written as. Cut below their deepest block, they are
their own tree (`cutTree_eq_nodes`).

Key definitions: `Node.Printable`, `Element`, `Element.WellFormed`, `written`, `print`,
`Element.node`, `Element.cut`, `mergeTexts`, `cutTree`, `cutCounts`, `nestings`.
Key theorems: `Printables.exists_elements`, `cutTree_eq_nodes`.
-/
import TieredReport.Markup.Tree
import TieredReport.Proofs.Markup.Scan

namespace TieredReport.Markup

/-! ### Trees that can be written -/

/-- Whether a node is a text. -/
def Node.isText : Node → Bool
  | .text _ => true
  | _ => false

mutual

/-- A node that can be written so that nothing in it is taken for something else. -/
def Node.Printable : Node → Prop
  | .text s => s ≠ "" ∧ Clear '{' s.toList
  | .expression raw e => ∃ x, IsTag raw.toList (.expression x) ∧ e = .parse x
  | .reference raw name args =>
    ∃ x, IsTag raw.toList (.reference x) ∧ reference? x = some (name, args)
  | .cond e thenBranch elseBranch =>
    (∃ a, Clear '}' a ∧ e = .parse a) ∧ Printables thenBranch ∧ Printables elseBranch
  | .loop e body elseBranch =>
    (∃ a, Clear '}' a ∧ e = .parse a) ∧ Printables body ∧ Printables elseBranch

/-- Printable nodes, no two texts among them side by side. -/
def Printables : List Node → Prop
  | [] => True
  | n :: rest =>
    n.Printable ∧ (n.isText = true → (rest.head?.any Node.isText) = false) ∧ Printables rest

end

mutual

/-- The number of blocks inside one another in a node. -/
def Node.nesting : Node → Nat
  | .text _ | .expression _ _ | .reference _ _ _ => 0
  | .cond _ thenBranch elseBranch => max (nestings thenBranch) (nestings elseBranch) + 1
  | .loop _ body elseBranch => max (nestings body) (nestings elseBranch) + 1

/-- The number of blocks inside one another in some nodes. -/
def nestings : List Node → Nat
  | [] => 0
  | n :: rest => max n.nesting (nestings rest)

end

/-- A node before others; two texts become one. -/
def joinNode : Node → List Node → List Node
  | .text s, .text t :: rest => .text (s ++ t) :: rest
  | n, rest => n :: rest

/-- Neighbouring texts made one. -/
def mergeTexts (ns : List Node) : List Node := ns.foldr joinNode []

/-! ### Elements -/

/-- A node and how it is written: bodies of tags, and the argument of a block. -/
inductive Element where
  | text (s : List Char)
  | expression (body source : List Char)
  | reference (body : List Char) (name : String) (args : List (String × Arg))
  | block (kind : BlockKind) (argument : List Char) (primary alternate : List Element)

/-- The word that names a kind of block in its tags. -/
def BlockKind.keyword : BlockKind → List Char
  | .cond => "if".toList
  | .loop => "each".toList

/-- The body of an opening tag. -/
def BlockKind.openBody (kind : BlockKind) (argument : List Char) : List Char :=
  '#' :: (kind.keyword ++ ' ' :: argument)

/-- The body of a closing tag. -/
def BlockKind.closeBody (kind : BlockKind) : List Char := '/' :: kind.keyword

/-- The body of an else tag. -/
def elseBody : List Char := "else".toList

/-- Whether an element is a text. -/
def Element.isText : Element → Bool
  | .text _ => true
  | _ => false

mutual

/-- An element with what belongs to its kind, so that it is read as what it is. -/
def Element.WellFormed : Element → Prop
  | .text s => s ≠ [] ∧ Clear '{' s
  | .expression body source => Clear '}' body ∧ Tag.ofBody body = .expression source
  | .reference body name args =>
    Clear '}' body ∧ ∃ x, Tag.ofBody body = .reference x ∧ reference? x = some (name, args)
  | .block _ argument primary alternate =>
    Clear '}' argument ∧ WellFormeds primary ∧ WellFormeds alternate

/-- Well-formed elements, no two texts among them side by side. -/
def WellFormeds : List Element → Prop
  | [] => True
  | e :: rest =>
    e.WellFormed ∧ (e.isText = true → (rest.head?.any Element.isText) = false) ∧ WellFormeds rest

end

mutual

/-- The text and the tags that an element is written as. An empty branch needs no else tag. -/
def Element.written : Element → List Piece
  | .text s => [.text s]
  | .expression body _ => [.tag body]
  | .reference body _ _ => [.tag body]
  | .block kind argument primary alternate =>
    .tag (kind.openBody argument) ::
      (written primary ++ ((if alternate.isEmpty then [] else .tag elseBody :: written alternate) ++
        [.tag kind.closeBody]))

/-- The texts and the tags that some elements are written as. -/
def written : List Element → List Piece
  | [] => []
  | e :: rest => e.written ++ written rest

end

/-- Elements as they are written. -/
def print (es : List Element) : List Char := (written es).flatMap Piece.spelling

/-- An element as it is written. -/
def Element.print (e : Element) : List Char := e.written.flatMap Piece.spelling

mutual

/-- The node of an element. -/
def Element.node : Element → Node
  | .text s => .text (String.ofList s)
  | .expression body source => .expression (String.ofList (tagSpelling body)) (.parse source)
  | .reference body name args => .reference (String.ofList (tagSpelling body)) name args
  | .block kind argument primary alternate =>
    .block kind (.parse argument) (nodes primary) (nodes alternate)

/-- The tree of some elements. -/
def nodes : List Element → List Node
  | [] => []
  | e :: rest => e.node :: nodes rest

end

mutual

/-- The node of an element in which the blocks inside `depth` others, and no further, stand as the
texts that they are written as. -/
def Element.cut : (depth : Nat) → Element → Node
  | _, .text s => Element.node (.text s)
  | _, .expression body source => Element.node (.expression body source)
  | _, .reference body name args => Element.node (.reference body name args)
  | 0, .block kind argument primary alternate =>
    .text (String.ofList (Element.print (.block kind argument primary alternate)))
  | depth + 1, .block kind argument primary alternate =>
    .block kind (.parse argument) (mergeTexts (cutNodes depth primary))
      (mergeTexts (cutNodes depth alternate))

/-- The nodes of some elements, cut. -/
def cutNodes (depth : Nat) : List Element → List Node
  | [] => []
  | e :: rest => e.cut depth :: cutNodes depth rest

end

/-- The tree of some elements, cut, with neighbouring texts made one. -/
def cutTree (depth : Nat) (es : List Element) : List Node := mergeTexts (cutNodes depth es)

mutual

/-- The number of blocks of an element that stand as texts when it is cut. -/
def Element.cutCount : (depth : Nat) → Element → Nat
  | _, .text _ | _, .expression _ _ | _, .reference _ _ _ => 0
  | 0, .block _ _ _ _ => 1
  | depth + 1, .block _ _ primary alternate => cutCounts depth primary + cutCounts depth alternate

/-- The number of blocks of some elements that stand as texts when they are cut. -/
def cutCounts (depth : Nat) : List Element → Nat
  | [] => 0
  | e :: rest => e.cutCount depth + cutCounts depth rest

end

/-! ### The printable trees are those of well-formed elements -/

@[simp] theorem Node.isText_block (kind : BlockKind) (e : Expression) (ns ms : List Node) :
    (Node.block kind e ns ms).isText = false := by
  cases kind <;> rfl

@[simp] theorem Element.isText_node : ∀ e : Element, e.node.isText = e.isText
  | .text _ => by simp [Element.node, Node.isText, Element.isText]
  | .expression _ _ => by simp [Element.node, Node.isText, Element.isText]
  | .reference _ _ _ => by simp [Element.node, Node.isText, Element.isText]
  | .block _ _ _ _ => by simp [Element.node, Element.isText]

theorem any_isText_nodes (es : List Element) :
    (nodes es).head?.any Node.isText = es.head?.any Element.isText := by
  cases es <;> simp [nodes]

/-- A block written with this argument, from elements for its branches. -/
theorem exists_block {kind : BlockKind} {argument : List Char} {primary alternate : List Node}
    (harg : Clear '}' argument) (hp : ∃ es, WellFormeds es ∧ nodes es = primary)
    (ha : ∃ es, WellFormeds es ∧ nodes es = alternate) :
    ∃ e : Element, e.WellFormed ∧ e.node = .block kind (.parse argument) primary alternate := by
  obtain ⟨ps, hps, rfl⟩ := hp
  obtain ⟨qs, hqs, rfl⟩ := ha
  refine ⟨.block kind argument ps qs, ?_, by rw [Element.node]⟩
  rw [Element.WellFormed]
  exact ⟨harg, hps, hqs⟩

mutual

/-- A printable node is the node of a well-formed element. -/
theorem Node.Printable.exists_element : ∀ {n : Node}, n.Printable →
    ∃ e : Element, e.WellFormed ∧ e.node = n
  | .text s, h => by
    rw [Node.Printable] at h
    refine ⟨.text s.toList, ?_, by rw [Element.node, String.ofList_toList]⟩
    rw [Element.WellFormed]
    exact ⟨fun hs => h.1 (String.toList_eq_nil_iff.1 hs), h.2⟩
  | .expression raw e, h => by
    rw [Node.Printable] at h
    obtain ⟨x, ⟨body, hraw, hbody, htag⟩, rfl⟩ := h
    refine ⟨.expression body x, ?_, by rw [Element.node, ← hraw, String.ofList_toList]⟩
    rw [Element.WellFormed]
    exact ⟨hbody, htag⟩
  | .reference raw name args, h => by
    rw [Node.Printable] at h
    obtain ⟨x, ⟨body, hraw, hbody, htag⟩, hx⟩ := h
    refine ⟨.reference body name args, ?_, by rw [Element.node, ← hraw, String.ofList_toList]⟩
    rw [Element.WellFormed]
    exact ⟨hbody, x, htag, hx⟩
  | .cond e thenBranch elseBranch, h => by
    rw [Node.Printable] at h
    obtain ⟨⟨a, ha, rfl⟩, hthen, helse⟩ := h
    exact @exists_block .cond _ _ _ ha hthen.exists_elements helse.exists_elements
  | .loop e body elseBranch, h => by
    rw [Node.Printable] at h
    obtain ⟨⟨a, ha, rfl⟩, hbody, helse⟩ := h
    exact @exists_block .loop _ _ _ ha hbody.exists_elements helse.exists_elements

/-- Printable nodes are the tree of well-formed elements. -/
theorem Printables.exists_elements : ∀ {ns : List Node}, Printables ns →
    ∃ es, WellFormeds es ∧ nodes es = ns
  | [], _ => ⟨[], by rw [WellFormeds]; trivial, by rw [nodes]⟩
  | n :: rest, h => by
    rw [Printables] at h
    obtain ⟨hn, htext, hrest⟩ := h
    obtain ⟨e, he, rfl⟩ := hn.exists_element
    obtain ⟨es, hes, rfl⟩ := hrest.exists_elements
    refine ⟨e :: es, ?_, by rw [nodes]⟩
    rw [WellFormeds]
    rw [any_isText_nodes, Element.isText_node] at htext
    exact ⟨he, htext, hes⟩

end

/-! ### Cutting below the deepest block -/

theorem mergeTexts_cons (n : Node) (rest : List Node) :
    mergeTexts (n :: rest) = joinNode n (mergeTexts rest) := rfl

theorem joinNode_of_not_text {n : Node} (hn : n.isText = false) (rest : List Node) :
    joinNode n rest = n :: rest := by
  unfold joinNode
  split
  · simp [Node.isText] at hn
  · rfl

theorem joinNode_of_no_text {rest : List Node} (h : rest.head?.any Node.isText = false) (n : Node) :
    joinNode n rest = n :: rest := by
  unfold joinNode
  split
  · simp [Node.isText] at h
  · rfl

theorem joinNode_text_text (s t : String) (rest : List Node) :
    joinNode (.text (s ++ t)) rest = joinNode (.text s) (joinNode (.text t) rest) := by
  cases rest with
  | nil => rfl
  | cons n rest =>
    cases n with
    | text u => simp [joinNode, String.append_assoc]
    | _ => rfl

theorem nesting_block (kind : BlockKind) (e : Expression) (ns ms : List Node) :
    (Node.block kind e ns ms).nesting = max (nestings ns) (nestings ms) + 1 := by
  cases kind <;> rw [Node.block, Node.nesting]

mutual

theorem Element.cut_eq_node : ∀ {depth : Nat} {e : Element}, e.WellFormed →
    e.node.nesting ≤ depth → e.cut depth = e.node ∧ e.cutCount depth = 0
  | depth, .text s, _, _ => by simp [Element.cut, Element.cutCount]
  | depth, .expression body source, _, _ => by simp [Element.cut, Element.cutCount]
  | depth, .reference body name args, _, _ => by simp [Element.cut, Element.cutCount]
  | 0, .block kind argument primary alternate, _, hdepth => by
    rw [Element.node, nesting_block] at hdepth
    omega
  | depth + 1, .block kind argument primary alternate, h, hdepth => by
    rw [Element.node, nesting_block] at hdepth
    rw [Element.WellFormed] at h
    obtain ⟨hp, hp0⟩ := cutTree_eq_nodes h.2.1 (by omega : nestings (nodes primary) ≤ depth)
    obtain ⟨ha, ha0⟩ := cutTree_eq_nodes h.2.2 (by omega : nestings (nodes alternate) ≤ depth)
    rw [cutTree] at hp ha
    rw [Element.cut, Element.cutCount, Element.node, hp, ha, hp0, ha0]
    exact ⟨rfl, rfl⟩

/-- Cut below their deepest block, elements are their own tree. -/
theorem cutTree_eq_nodes : ∀ {depth : Nat} {es : List Element}, WellFormeds es →
    nestings (nodes es) ≤ depth → cutTree depth es = nodes es ∧ cutCounts depth es = 0
  | _, [], _, _ => by simp [cutTree, cutNodes, mergeTexts, nodes, cutCounts]
  | depth, e :: rest, h, hdepth => by
    rw [nodes, nestings] at hdepth
    rw [WellFormeds] at h
    obtain ⟨he, htext, hrest⟩ := h
    obtain ⟨hcut, hcount⟩ := Element.cut_eq_node he (by omega : e.node.nesting ≤ depth)
    obtain ⟨ih, ihcount⟩ := cutTree_eq_nodes hrest (by omega : nestings (nodes rest) ≤ depth)
    rw [cutTree] at ih ⊢
    refine ⟨?_, by rw [cutCounts, hcount, ihcount]⟩
    rw [cutNodes, nodes, hcut, mergeTexts_cons, ih]
    cases hn : e.isText with
    | false => exact joinNode_of_not_text (by rwa [Element.isText_node]) _
    | true => exact joinNode_of_no_text (by rw [any_isText_nodes]; exact htext hn) _

end

end TieredReport.Markup
