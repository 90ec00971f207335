/-
# Parsing what was printed

A printable tree, printed and parsed, comes back as it was, cut where it is
nested more deeply than the cap allows (`parse_print`). On the pieces of an
element the parser does one of two things. With room for another block it adds
what the cut of the element adds (`run_written`); and behind a block that is too
deep it only takes note of tags and keeps everything as text, up to the block's
own closing tag (`run_reading`).

Key definitions: `addNode`, `Parser.add`, `Parser.inside`, `Parser.reading`.
Key theorems: `foldl_addNode`, `run_reading`, `run_written`, `parse_print`.
-/
import TieredReport.Proofs.Markup.Printing

namespace TieredReport.Markup

/-! ### Adding nodes -/

/-- A node behind others; a text joins a text that stands last. -/
def addNode (ns : List Node) : Node → List Node
  | .text s => appendText ns s
  | n => ns ++ [n]

theorem addNode_of_not_text {n : Node} (h : n.isText = false) (ns : List Node) :
    addNode ns n = ns ++ [n] := by
  cases n with
  | text s => simp [Node.isText] at h
  | _ => rfl

theorem appendText_text (ns : List Node) (s t : String) :
    appendText (ns ++ [.text s]) t = ns ++ [.text (s ++ t)] := by
  induction ns with
  | nil => rfl
  | cons n ns ih =>
    rw [List.cons_append, appendText, ih, List.cons_append]
    intro _ _ hnil
    simp at hnil

theorem appendText_of_not_text {n : Node} (h : n.isText = false) (ns : List Node) (t : String) :
    appendText (ns ++ [n]) t = ns ++ [n] ++ [.text t] := by
  induction ns with
  | nil => cases n <;> simp_all [appendText, Node.isText]
  | cons m ns ih =>
    rw [List.cons_append, appendText, ih]
    · rfl
    · intro _ _ hnil
      simp at hnil

theorem appendText_appendText (ns : List Node) (s t : String) :
    appendText (appendText ns s) t = appendText ns (s ++ t) := by
  induction ns using List.reverseRecOn with
  | nil => rfl
  | append_singleton ns n =>
    cases hn : n.isText with
    | false => rw [appendText_of_not_text hn, appendText_of_not_text hn, appendText_text]
    | true =>
      cases n with
      | text u => rw [appendText_text, appendText_text, appendText_text, String.append_assoc]
      | _ => simp [Node.isText] at hn

/-- Nodes that are added behind `n` come out merged with it. -/
theorem foldl_addNode_append (ms ns : List Node) (n : Node) :
    ms.foldl addNode (ns ++ [n]) = ns ++ mergeTexts (n :: ms) := by
  induction ms generalizing ns n with
  | nil => simp [mergeTexts, joinNode]
  | cons m ms ih =>
    rw [List.foldl_cons]
    cases hm : m.isText with
    | false =>
      rw [addNode_of_not_text hm, ih, mergeTexts_cons n, mergeTexts_cons m,
        joinNode_of_not_text hm, joinNode_of_no_text (by simpa using hm)]
      simp
    | true =>
      cases m with
      | text t =>
        cases hn : n.isText with
        | false =>
          rw [addNode, appendText_of_not_text hn, ih, mergeTexts_cons n, joinNode_of_not_text hn]
          simp
        | true =>
          cases n with
          | text s =>
            rw [addNode, appendText_text, ih, mergeTexts_cons, mergeTexts_cons (.text s),
              mergeTexts_cons (.text t), joinNode_text_text]
          | _ => simp [Node.isText] at hn
      | _ => simp [Node.isText] at hm

/-- Nodes that are added to nothing come out merged. -/
theorem foldl_addNode (ms : List Node) : ms.foldl addNode [] = mergeTexts ms := by
  cases ms with
  | nil => rfl
  | cons m ms =>
    have h : addNode [] m = [] ++ [m] := by cases m <;> rfl
    rw [List.foldl_cons, h, foldl_addNode_append]
    rfl

namespace Parser

variable {p : Parser}

/-- The parser with some more nodes and some more blocks that were too deep. -/
def add (p : Parser) (ms : List Node) (count : Nat) : Parser :=
  { p.update (fun ns => ms.foldl addNode ns) with tooDeep := p.tooDeep + count }

theorem add_nil (p : Parser) : p.add [] 0 = p := by
  obtain ⟨root, stack, verbatim, tooDeep⟩ := p
  cases stack with
  | nil => rfl
  | cons b rest =>
    obtain ⟨kind, openTag, expr, primary, elseTag, alternate⟩ := b
    cases elseTag <;> rfl

theorem add_add (p : Parser) (ms ms' : List Node) (m m' : Nat) :
    (p.add ms m).add ms' m' = p.add (ms ++ ms') (m + m') := by
  obtain ⟨root, stack, verbatim, tooDeep⟩ := p
  cases stack with
  | nil => simp [add, update, Nat.add_assoc]
  | cons b rest =>
    obtain ⟨kind, openTag, expr, primary, elseTag, alternate⟩ := b
    cases elseTag <;> simp [add, update, OpenBlock.update, Nat.add_assoc]

theorem pushText_eq_add (p : Parser) (s : List Char) :
    p.pushText s = p.add [.text (String.ofList s)] 0 := by
  obtain ⟨root, stack, verbatim, tooDeep⟩ := p
  cases stack <;> rfl

theorem push_eq_add {n : Node} (h : n.isText = false) (p : Parser) : p.push n = p.add [n] 0 := by
  obtain ⟨root, stack, verbatim, tooDeep⟩ := p
  cases stack <;> simp [push, add, update, addNode_of_not_text h]

@[simp] theorem verbatim_add (p : Parser) (ms : List Node) (m : Nat) :
    (p.add ms m).verbatim = p.verbatim := by
  obtain ⟨root, stack, verbatim, tooDeep⟩ := p
  cases stack <;> rfl

@[simp] theorem length_stack_add (p : Parser) (ms : List Node) (m : Nat) :
    (p.add ms m).stack.length = p.stack.length := by
  obtain ⟨root, stack, verbatim, tooDeep⟩ := p
  cases stack <;> rfl

/-! ### Behind a block that is too deep -/

/-- The parser with more text at the end, waiting for some closing tags. -/
def reading (p : Parser) (awaited : List BlockKind) (s : List Char) : Parser :=
  { p.pushText s with verbatim := awaited }

theorem pushText_pushText (p : Parser) (s t : List Char) :
    (p.pushText s).pushText t = p.pushText (s ++ t) := by
  obtain ⟨root, stack, verbatim, tooDeep⟩ := p
  cases stack with
  | nil => simp [pushText, update, appendText_appendText]
  | cons b rest =>
    obtain ⟨kind, openTag, expr, primary, elseTag, alternate⟩ := b
    cases elseTag <;> simp [pushText, update, OpenBlock.update, appendText_appendText]

theorem pushText_verbatim (p : Parser) (awaited : List BlockKind) (s : List Char) :
    { p with verbatim := awaited }.pushText s = { p.pushText s with verbatim := awaited } := by
  obtain ⟨root, stack, verbatim, tooDeep⟩ := p
  cases stack <;> rfl

/-- More text. -/
theorem reading_pushText (p : Parser) (awaited awaited' : List BlockKind) (s t : List Char) :
    { p.reading awaited s with verbatim := awaited' }.pushText t = p.reading awaited' (s ++ t) := by
  unfold reading
  rw [pushText_verbatim, pushText_verbatim, pushText_pushText]

/-- Text that was kept, once nothing is waited for. -/
theorem reading_nil (hv : p.verbatim = []) (s : List Char) :
    p.reading [] s = p.add [.text (String.ofList s)] 0 := by
  rw [← pushText_eq_add, reading, ← pushText_verbatim, ← hv]

variable {cap : Nat} {kind : BlockKind} {awaited : List BlockKind} {s : List Char}

theorem piece_reading_text (t : List Char) :
    (p.reading awaited s).piece cap (.text t) = p.reading awaited (s ++ t) :=
  reading_pushText p awaited awaited s t

theorem piece_reading_tag (body : List Char) :
    (p.reading (kind :: awaited) s).piece cap (.tag body) =
      (p.reading (kind :: awaited) s).verbatimTag (tagSpelling body) (.ofBody body) := rfl

/-- Another opening tag has its own closing tag to wait for. -/
theorem piece_reading_opening {body argument : List Char} {kind' : BlockKind}
    (h : Tag.ofBody body = .opening kind' argument) :
    (p.reading (kind :: awaited) s).piece cap (.tag body) =
      p.reading (kind' :: kind :: awaited) (s ++ tagSpelling body) := by
  rw [piece_reading_tag, h]
  exact reading_pushText p _ _ s _

/-- The closing tag that is waited for first. -/
theorem piece_reading_closing {body : List Char} (h : Tag.ofBody body = .closing kind) :
    (p.reading (kind :: awaited) s).piece cap (.tag body) =
      p.reading awaited (s ++ tagSpelling body) := by
  have hif : (p.reading (kind :: awaited) s).verbatimTag (tagSpelling body) (.closing kind) =
      { p.reading (kind :: awaited) s with
        verbatim := if kind = kind then awaited else kind :: awaited }.pushText
        (tagSpelling body) := rfl
  rw [piece_reading_tag, h, hif, if_pos rfl]
  exact reading_pushText p _ _ s _

/-- Any other tag is text and no more. -/
theorem piece_reading_other {body : List Char} (ho : ∀ k a, Tag.ofBody body ≠ .opening k a)
    (hc : ∀ k, Tag.ofBody body ≠ .closing k) :
    (p.reading (kind :: awaited) s).piece cap (.tag body) =
      p.reading (kind :: awaited) (s ++ tagSpelling body) := by
  rw [piece_reading_tag]
  cases htag : Tag.ofBody body with
  | opening k a => exact absurd htag (ho k a)
  | closing k => exact absurd htag (hc k)
  | _ => exact reading_pushText p _ _ s _

end Parser

/-- The branches of a block and its closing tag, given that its branches are kept as text. -/
theorem run_reading_branches {p : Parser} {cap : Nat} {kind : BlockKind} {awaited : List BlockKind}
    {s : List Char} {primary alternate : List Element}
    (hp : ∀ s, (written primary).foldl (Parser.piece cap) (p.reading (kind :: awaited) s) =
      p.reading (kind :: awaited) (s ++ print primary))
    (ha : ∀ s, (written alternate).foldl (Parser.piece cap) (p.reading (kind :: awaited) s) =
      p.reading (kind :: awaited) (s ++ print alternate)) :
    (written primary ++ (writtenElse alternate ++ [Piece.tag kind.closeBody])).foldl (Parser.piece cap)
        (p.reading (kind :: awaited) s) =
      p.reading awaited
        (s ++ (print primary ++ (printElse alternate ++ tagSpelling kind.closeBody))) := by
  have helse : ∀ t : List Char,
      (writtenElse alternate).foldl (Parser.piece cap) (p.reading (kind :: awaited) t) =
        p.reading (kind :: awaited) (t ++ printElse alternate) := by
    intro t
    cases alternate with
    | nil => rw [writtenElse_nil, printElse_nil, List.append_nil, List.foldl_nil]
    | cons e es =>
      rw [writtenElse_cons, printElse_cons, List.foldl_cons,
        Parser.piece_reading_other (by simp [ofBody_elseBody]) (by simp [ofBody_elseBody]), ha,
        List.append_assoc]
  rw [List.foldl_append, hp, List.foldl_append, helse, List.foldl_cons, List.foldl_nil,
    Parser.piece_reading_closing (ofBody_closeBody kind)]
  simp

mutual

theorem Element.run_reading : ∀ {e : Element} {p : Parser} {cap : Nat} {kind : BlockKind}
    {awaited : List BlockKind} {s : List Char}, e.WellFormed →
    e.written.foldl (Parser.piece cap) (p.reading (kind :: awaited) s) =
      p.reading (kind :: awaited) (s ++ e.print)
  | .text t, p, cap, kind, awaited, s, _ => by
    rw [Element.written, Element.print_text, List.foldl_cons, List.foldl_nil]
    exact Parser.piece_reading_text t
  | .expression body source, p, cap, kind, awaited, s, h => by
    rw [Element.WellFormed] at h
    rw [Element.written, Element.print_expression, List.foldl_cons, List.foldl_nil]
    exact Parser.piece_reading_other (by simp [h.2]) (by simp [h.2])
  | .reference body name args, p, cap, kind, awaited, s, h => by
    rw [Element.WellFormed] at h
    obtain ⟨-, x, htag, -⟩ := h
    rw [Element.written, Element.print_reference, List.foldl_cons, List.foldl_nil]
    exact Parser.piece_reading_other (by simp [htag]) (by simp [htag])
  | .block kind' argument primary alternate, p, cap, kind, awaited, s, h => by
    rw [Element.WellFormed] at h
    rw [written_block, print_block, List.foldl_cons,
      Parser.piece_reading_opening (ofBody_openBody kind' argument),
      run_reading_branches (fun _ => run_reading h.2.1) (fun _ => run_reading h.2.2),
      List.append_assoc]

/-- **Behind a block that is too deep**, elements are kept as text, and whatever they open they
close again. -/
theorem run_reading : ∀ {es : List Element} {p : Parser} {cap : Nat} {kind : BlockKind}
    {awaited : List BlockKind} {s : List Char}, WellFormeds es →
    (written es).foldl (Parser.piece cap) (p.reading (kind :: awaited) s) =
      p.reading (kind :: awaited) (s ++ print es)
  | [], _, _, _, _, _, _ => by simp [written, print]
  | e :: es, p, cap, kind, awaited, s, h => by
    rw [WellFormeds] at h
    rw [written, print_cons, List.foldl_append, Element.run_reading h.1, run_reading h.2.2,
      List.append_assoc]

end

/-! ### With room for another block -/

namespace Parser

/-- The parser with one more open block. -/
def inside (p : Parser) (b : OpenBlock) (count : Nat) : Parser :=
  { p with stack := b :: p.stack, tooDeep := p.tooDeep + count }

variable {p : Parser} {cap : Nat} {kind : BlockKind} {b : OpenBlock}

theorem add_inside (p : Parser) (b : OpenBlock) (ms : List Node) (m n : Nat) :
    (p.inside b m).add ms n = p.inside (b.update fun ns => ms.foldl addNode ns) (m + n) := by
  simp [inside, add, update, Nat.add_assoc]

theorem piece_tag (hv : p.verbatim = []) (body : List Char) :
    p.piece cap (.tag body) = p.activeTag cap (tagSpelling body) (.ofBody body) := by
  simp [piece, hv]

theorem piece_opening {argument body : List Char} (hv : p.verbatim = [])
    (hroom : p.stack.length < cap) (h : Tag.ofBody body = .opening kind argument) :
    p.piece cap (.tag body) =
      p.inside (.start kind (String.ofList (tagSpelling body)) argument) 0 := by
  rw [piece_tag hv, h, activeTag, opening, if_neg (by omega)]
  rfl

theorem piece_tooDeep {argument body : List Char} (hv : p.verbatim = [])
    (hfull : cap ≤ p.stack.length) (h : Tag.ofBody body = .opening kind argument) :
    p.piece cap (.tag body) =
      (p.add [] 1).reading [kind] (tagSpelling body) := by
  rw [piece_tag hv, h, activeTag, opening, if_pos hfull]
  obtain ⟨root, stack, verbatim, tooDeep⟩ := p
  cases stack with
  | nil => rfl
  | cons b rest =>
    obtain ⟨kind, openTag, expr, primary, elseTag, alternate⟩ := b
    cases elseTag <;> rfl

theorem piece_otherwise {body : List Char} (hv : p.verbatim = [])
    (h : Tag.ofBody body = .otherwise) (hnone : b.elseTag = none) (m : Nat) :
    (p.inside b m).piece cap (.tag body) =
      p.inside { b with elseTag := some (String.ofList (tagSpelling body)) } m := by
  have hv' : (p.inside b m).verbatim = [] := hv
  rw [piece_tag hv', h, activeTag, otherwise]
  simp [inside, hnone]

theorem piece_closing {body : List Char} (hv : p.verbatim = [])
    (h : Tag.ofBody body = .closing b.kind) (m : Nat) :
    (p.inside b m).piece cap (.tag body) = p.add [b.toNode] m := by
  have hv' : (p.inside b m).verbatim = [] := hv
  have hinner : (p.inside b m).stack.findIdx? (·.kind = b.kind) = some 0 := by
    simp [inside, List.findIdx?_cons]
  have htext : b.toNode.isText = false := Node.isText_block _ _ _ _
  have hpush : ({ p with tooDeep := p.tooDeep + m } : Parser).push b.toNode =
      p.add [b.toNode] m := by
    rw [push_eq_add htext]
    obtain ⟨root, stack, verbatim, tooDeep⟩ := p
    cases stack <;> rfl
  rw [piece_tag hv', h, activeTag, close, hinner, ← hpush]
  rfl

end Parser

mutual

theorem Element.run_written : ∀ {e : Element} {p : Parser} {cap depth : Nat}, e.WellFormed →
    p.verbatim = [] → p.stack.length + depth = cap →
    e.written.foldl (Parser.piece cap) p = p.add [e.cut depth] (e.cutCount depth)
  | .text s, p, cap, depth, _, _, _ => by
    rw [Element.written, Element.cut, Element.cutCount, Element.node]
    exact p.pushText_eq_add s
  | .expression body source, p, cap, depth, h, hv, _ => by
    rw [Element.WellFormed] at h
    rw [Element.written, Element.cut, Element.cutCount, Element.node, List.foldl_cons,
      Parser.piece_tag hv, h.2]
    exact Parser.push_eq_add rfl p
  | .reference body name args, p, cap, depth, h, hv, _ => by
    rw [Element.WellFormed] at h
    obtain ⟨-, x, htag, hx⟩ := h
    rw [Element.written, Element.cut, Element.cutCount, Element.node, List.foldl_cons,
      Parser.piece_tag hv, htag, Parser.activeTag, hx]
    exact Parser.push_eq_add rfl p
  | .block kind argument primary alternate, p, cap, 0, h, hv, hcap => by
    rw [Element.WellFormed] at h
    rw [written_block, List.foldl_cons,
      Parser.piece_tooDeep hv (by omega) (ofBody_openBody kind argument),
      run_reading_branches (fun _ => run_reading h.2.1) (fun _ => run_reading h.2.2),
      ← print_block, Parser.reading_nil (by simpa using hv), Parser.add_add, Element.cut,
      Element.cutCount]
    rfl
  | .block kind argument primary alternate, p, cap, depth + 1, h, hv, hcap => by
    rw [Element.WellFormed] at h
    obtain ⟨-, hp, ha⟩ := h
    -- the open block while its branches are read
    have hprimary : ∀ (b : OpenBlock) (m : Nat), (written primary).foldl (Parser.piece cap)
        (p.inside b m) = (p.inside b m).add (cutNodes depth primary) (cutCounts depth primary) :=
      fun b m => run_written hp hv (by simp only [Parser.inside, List.length_cons]; omega)
    have halternate : ∀ (b : OpenBlock) (m : Nat), (written alternate).foldl (Parser.piece cap)
        (p.inside b m) =
          (p.inside b m).add (cutNodes depth alternate) (cutCounts depth alternate) :=
      fun b m => run_written ha hv (by simp only [Parser.inside, List.length_cons]; omega)
    rw [written_block, List.foldl_cons,
      Parser.piece_opening hv (by omega) (ofBody_openBody kind argument), List.foldl_append,
      hprimary, Parser.add_inside, Element.cut, Element.cutCount, ← foldl_addNode, ← foldl_addNode,
      ← parse_trim]
    cases halt : alternate with
    | nil =>
      rw [writtenElse_nil, List.nil_append, List.foldl_cons, List.foldl_nil,
        Parser.piece_closing hv (ofBody_closeBody kind)]
      simp [OpenBlock.update, OpenBlock.start, OpenBlock.toNode, cutNodes, cutCounts]
    | cons e es =>
      rw [writtenElse_cons, ← halt, List.cons_append, List.foldl_cons,
        Parser.piece_otherwise hv ofBody_elseBody rfl, List.foldl_append, halternate,
        Parser.add_inside, List.foldl_cons, List.foldl_nil,
        Parser.piece_closing hv (ofBody_closeBody kind)]
      simp [OpenBlock.update, OpenBlock.start, OpenBlock.toNode]

/-- **With room for `depth` more blocks**, elements are read into what their cut adds. -/
theorem run_written : ∀ {es : List Element} {p : Parser} {cap depth : Nat}, WellFormeds es →
    p.verbatim = [] → p.stack.length + depth = cap →
    (written es).foldl (Parser.piece cap) p = p.add (cutNodes depth es) (cutCounts depth es)
  | [], p, _, _, _, _, _ => by
    rw [written, cutNodes, cutCounts, Parser.add_nil]
    rfl
  | e :: es, p, cap, depth, h, hv, hcap => by
    rw [WellFormeds] at h
    obtain ⟨he, -, hes⟩ := h
    rw [written, cutNodes, cutCounts, List.foldl_append, Element.run_written he hv hcap,
      run_written hes (by simpa using hv) (by simpa using hcap), Parser.add_add]
    rfl

end

/-- Elements, printed and parsed, are their tree, cut at the cap. -/
theorem parse_print_elements (cap : Nat) {es : List Element} (h : WellFormeds es) :
    parse cap (String.ofList (print es)) = ⟨cutTree cap es, cutCounts cap es⟩ := by
  have hpieces : pieces (print es) = written es := by
    have := pieces_print h (Or.inl rfl : TagNext [])
    rwa [pieces_nil, List.append_nil, List.append_nil] at this
  have hrun : (written es).foldl (Parser.piece cap) .initial =
      Parser.initial.add (cutNodes cap es) (cutCounts cap es) :=
    run_written h rfl (Nat.zero_add cap)
  have hroot : (Parser.initial.add (cutNodes cap es) (cutCounts cap es)).root = cutTree cap es :=
    foldl_addNode _
  have hcount : (Parser.initial.add (cutNodes cap es) (cutCounts cap es)).tooDeep =
      cutCounts cap es := Nat.zero_add _
  unfold parse
  rw [String.toList_ofList, hpieces, hrun, Parser.finish, Parser.length_stack_add]
  exact congrArg₂ Parsed.mk hroot hcount

/-- **Parsing recovers what was printed.** A printable tree can be written with any arguments that
its blocks may have been given; parsed again, it comes back with the blocks that stand inside `cap`
others as texts, and their number is counted. A tree that is not nested more deeply than the cap
comes back as it was. -/
theorem parse_print {t : List Node} (ht : Printables t) (cap : Nat) :
    (∃ es, WellFormeds es ∧ nodes es = t) ∧
    ∀ es, WellFormeds es → nodes es = t →
      parse cap (String.ofList (print es)) = ⟨cutTree cap es, cutCounts cap es⟩ ∧
      (nestings t ≤ cap → parse cap (String.ofList (print es)) = ⟨t, 0⟩) := by
  refine ⟨ht.exists_elements, fun es hes hnodes => ⟨parse_print_elements cap hes, fun hdepth => ?_⟩⟩
  have hdepth' : nestings (nodes es) ≤ cap := by rwa [hnodes]
  obtain ⟨hcut, hcount⟩ := cutTree_eq_nodes hes hdepth'
  rw [parse_print_elements cap hes, hcut, hcount, hnodes]

/-- A block inside another one, at a cap of one. -/
theorem parse_print_inner_block :
    let inner := Element.block .loop ['b'] [.text ['y']] [.text ['z']]
    Printables [.cond (.parse ['a']) [.text "x", .loop (.parse ['b']) [.text "y"] [.text "z"]] []] ∧
    parse 1 (String.ofList (print [.block .cond ['a'] [.text ['x'], inner] []])) =
      ⟨[.cond (.parse ['a'])
        [.text "x\x7b\x7b#each b\x7d\x7dy\x7b\x7belse\x7d\x7dz\x7b\x7b/each\x7d\x7d"] []], 1⟩ := by
  intro inner
  have hclear : ∀ {c d : Char}, d ≠ c → Clear c [d] := fun h => clear_singleton.2 h
  have ht : Printables
      [.cond (.parse ['a']) [.text "x", .loop (.parse ['b']) [.text "y"] [.text "z"]] []] := by
    simp only [Printables, Node.Printable]
    exact ⟨⟨⟨_, hclear (by decide), rfl⟩, ⟨⟨by decide, hclear (by decide)⟩, by decide,
      ⟨⟨_, hclear (by decide), rfl⟩, ⟨⟨by decide, hclear (by decide)⟩, by decide, trivial⟩,
        ⟨by decide, hclear (by decide)⟩, by decide, trivial⟩, by decide, trivial⟩, trivial⟩,
      by decide, trivial⟩
  have hes : WellFormeds [.block .cond ['a'] [.text ['x'], inner] []] := by
    simp only [inner, WellFormeds, Element.WellFormed]
    exact ⟨⟨hclear (by decide), ⟨⟨by decide, hclear (by decide)⟩, by decide,
      ⟨hclear (by decide), ⟨⟨by decide, hclear (by decide)⟩, by decide, trivial⟩,
        ⟨by decide, hclear (by decide)⟩, by decide, trivial⟩, by decide, trivial⟩, trivial⟩,
      by decide, trivial⟩
  exact ⟨ht, ((parse_print ht 1).2 _ hes rfl).1⟩

end TieredReport.Markup
