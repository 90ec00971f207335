/-
# What rendering reads of a context

Expressions and the arguments of references name root keys: the first segments of
their paths. Rendering a tree reads nothing else of its context. Two contexts that
bind every root key named in the tree or in a registered partial alike, whatever
they bind besides and however their scopes are nested, render to the same text and
count the same failures (`render_of_agreeOn`).

What carries the induction is that two contexts that agree on some keys still do
when both are extended by the same bindings, so a loop may bind its item and a
partial its arguments without telling the contexts apart.

Key definitions: `Context.rootKey`, `Context.AgreeOn`, `rootKeys`, `Named`.
Key theorems: `Context.AgreeOn.resolve`, `Context.AgreeOn.extend`, `evaluate_of_agreeOn`,
`render_of_agreeOn`.
-/
import TieredReport.Proofs.Markup.Rendering

namespace TieredReport

/-! ### Contexts that agree -/

/-- What stands before the first separator is what a cut takes, or the whole text. -/
theorem Text.takeWhile_ne_eq (sep : Char) (s : List Char) : s.takeWhile (· ≠ sep) =
    match cut? sep s with
    | none => s
    | some (before, _) => before := by
  induction s with
  | nil => rfl
  | cons c rest ih =>
    unfold cut?
    by_cases hc : c = sep
    · simp [hc]
    · rw [List.takeWhile_cons_of_pos (by simpa using hc), ih, if_neg hc]
      cases cut? sep rest <;> rfl

namespace Context

/-- The first segment of a dotted path, blanks around the path aside. -/
def rootKey (path : String) : String :=
  String.ofList ((Text.trim path.toList).takeWhile (· ≠ '.'))

/-- Two contexts bind each of some keys alike, to one value or not at all. -/
def AgreeOn (keys : String → Prop) (ctx ctx' : Context) : Prop :=
  ∀ key, keys key → ctx.get? key = ctx'.get? key

variable {keys : String → Prop} {ctx ctx' : Context}

/-- A path is resolved from its root key on. -/
theorem AgreeOn.resolve (h : ctx.AgreeOn keys ctx') {path : String} (hpath : keys (rootKey path)) :
    ctx.resolve path = ctx'.resolve path := by
  have hget := h _ hpath
  unfold Context.resolve
  unfold rootKey at hget
  rw [Text.takeWhile_ne_eq] at hget
  cases hcut : Text.cut? '.' (Text.trim path.toList) with
  | none => simp_all
  | some cut => simp_all

/-- Contexts still agree when both are extended by the same bindings. -/
theorem AgreeOn.extend (h : ctx.AgreeOn keys ctx') (bindings : List (String × Value)) :
    (ctx.extend bindings).AgreeOn keys (ctx'.extend bindings) := by
  intro key hkey
  rw [get?_extend, get?_extend, h key hkey]

end Context

namespace Markup

/-! ### Named keys -/

/-- The root key that an argument names. -/
def Arg.rootKeys : Arg → List String
  | .literal _ => []
  | .path p => [Context.rootKey p]

/-- The root keys that an expression names, with its whole body and with its arguments. -/
def Expression.rootKeys (e : Expression) : List String :=
  Context.rootKey e.source :: e.args.flatMap Arg.rootKeys

mutual

/-- The root keys that a node names. -/
def Node.rootKeys : Node → List String
  | .text _ => []
  | .expression _ e => e.rootKeys
  | .cond e thenBranch elseBranch =>
    e.rootKeys ++ (Markup.rootKeys thenBranch ++ Markup.rootKeys elseBranch)
  | .loop e body elseBranch => e.rootKeys ++ (Markup.rootKeys body ++ Markup.rootKeys elseBranch)
  | .reference _ _ args => args.flatMap fun a => a.2.rootKeys

/-- The root keys that some nodes name. -/
def rootKeys : List Node → List String
  | [] => []
  | n :: rest => n.rootKeys ++ rootKeys rest

end

/-- A root key is named in a tree or in a registered partial. -/
def Named (partials : PartialRegistry) (nodes : List Node) (key : String) : Prop :=
  key ∈ rootKeys nodes ∨ ∃ name p, partials.get? name = some p ∧ key ∈ rootKeys p.nodes

variable {keys : String → Prop} {ctx ctx' : Context} {helpers : HelperRegistry}
  {partials : PartialRegistry}

/-! ### Evaluation -/

theorem Arg.resolve_of_agreeOn (h : ctx.AgreeOn keys ctx') {a : Arg}
    (ha : ∀ key ∈ a.rootKeys, keys key) : a.resolve ctx = a.resolve ctx' := by
  cases a with
  | literal v => rfl
  | path p => exact congrArg (·.getD .null) (h.resolve (ha _ List.mem_cons_self))

/-- **Evaluation reads the root keys that it names.** -/
theorem evaluate_of_agreeOn (h : ctx.AgreeOn keys ctx') {e : Expression}
    (he : ∀ key ∈ e.rootKeys, keys key) : evaluate helpers ctx e = evaluate helpers ctx' e := by
  obtain ⟨hsource, hargs⟩ := List.forall_mem_cons.1 he
  have hmap : e.args.map (Arg.resolve ctx) = e.args.map (Arg.resolve ctx') := by
    apply List.map_congr_left
    intro a ha
    exact Arg.resolve_of_agreeOn h fun key hkey => hargs key (List.mem_flatMap.2 ⟨a, ha, hkey⟩)
  have hresolve : ctx.resolveOrNull e.source = ctx'.resolveOrNull e.source :=
    congrArg (·.getD .null) (h.resolve hsource)
  unfold evaluate
  rw [hmap, hresolve]

/-- The contexts inside a partial agree where those of the reference do. -/
theorem referenceContext_agreeOn (h : ctx.AgreeOn keys ctx') {args : List (String × Arg)}
    (hargs : ∀ key ∈ args.flatMap (fun a => a.2.rootKeys), keys key) :
    (referenceContext ctx args).AgreeOn keys (referenceContext ctx' args) := by
  have hmap : (args.map fun a => (a.1, a.2.resolve ctx)) =
      args.map fun a => (a.1, a.2.resolve ctx') := by
    apply List.map_congr_left
    intro a ha
    rw [Arg.resolve_of_agreeOn h fun key hkey => hargs key (List.mem_flatMap.2 ⟨a, ha, hkey⟩)]
  unfold referenceContext
  split
  · exact h
  · rw [hmap]
    exact h.extend _

/-! ### Rendering -/

/-- Rendering nodes comes to the same in contexts that agree on the keys which the nodes and the
partials name. -/
theorem render_eq_of_agreeOn (helpers : HelperRegistry)
    (hpartials : ∀ name p, partials.get? name = some p → ∀ key ∈ rootKeys p.nodes, keys key)
    (depth : Nat) (nodes : List Node) : ∀ (blocks : Nat) (ctx ctx' : Context),
      (∀ key ∈ rootKeys nodes, keys key) → ctx.AgreeOn keys ctx' →
      render helpers partials depth blocks ctx nodes =
        render helpers partials depth blocks ctx' nodes := by
  induction depth, nodes using renderInduction partials with
  | nil depth =>
    intro blocks ctx ctx' _ _
    rw [render_nil, render_nil]
  | cons depth n rest ihnode ihrest =>
    intro blocks ctx ctx' hkeys h
    rw [rootKeys, List.forall_mem_append] at hkeys
    have hnode := ihnode blocks ctx ctx' (by simpa [rootKeys] using hkeys.1) h
    have hrest := ihrest blocks ctx ctx' hkeys.2 h
    rw [render_cons, render_cons helpers partials depth blocks ctx', hnode, hrest]
  | text depth s =>
    intro blocks ctx ctx' _ _
    rw [render_text, render_text]
  | expression depth raw e =>
    intro blocks ctx ctx' hkeys h
    rw [render_expression, render_expression,
      evaluate_of_agreeOn h (by simpa [rootKeys, Node.rootKeys] using hkeys)]
  | cond depth e thenBranch elseBranch ihthen ihelse =>
    intro blocks ctx ctx' hkeys h
    simp only [rootKeys, Node.rootKeys, List.append_nil, List.forall_mem_append] at hkeys
    obtain ⟨he, hthen, helse⟩ := hkeys
    cases blocks with
    | zero => rw [render_cond_zero, render_cond_zero]
    | succ blocks =>
      rw [render_cond, render_cond, holds, holds, evaluate_of_agreeOn h he]
      congr 1
      funext b
      cases b with
      | true => exact ihthen blocks ctx ctx' hthen h
      | false => exact ihelse blocks ctx ctx' helse h
  | loop depth e body elseBranch ihbody ihelse =>
    intro blocks ctx ctx' hkeys h
    simp only [rootKeys, Node.rootKeys, List.append_nil, List.forall_mem_append] at hkeys
    obtain ⟨he, hbody, helse⟩ := hkeys
    cases blocks with
    | zero => rw [render_loop_zero, render_loop_zero]
    | succ blocks =>
      rw [render_loop, render_loop, itemsOf, itemsOf, evaluate_of_agreeOn h he]
      congr 1
      funext items
      cases items with
      | none => exact ihelse blocks ctx ctx' helse h
      | some items =>
        refine congrArg Run.concat (List.mapIdx_eq_mapIdx_iff.2 fun i hi => ?_)
        exact ihbody blocks _ _ hbody (h.extend _)
  | referenceZero raw name args =>
    intro blocks ctx ctx' _ _
    rw [render_reference_zero, render_reference_zero]
  | referenceSucc depth raw name args ih =>
    intro blocks ctx ctx' hkeys h
    simp only [rootKeys, Node.rootKeys, List.append_nil] at hkeys
    rw [render_reference, render_reference]
    cases hp : partials.get? name with
    | none => rfl
    | some p => exact ih p hp blocks _ _ (hpartials name p hp) (referenceContext_agreeOn h hkeys)

/-- **Rendering reads only the root keys that are named.** Contexts that bind these alike render to
the same text, or crash for the same reason, and count the same. -/
theorem Renderer.render_of_agreeOn (r : Renderer) {nodes : List Node} {ctx ctx' : Context}
    (h : ctx.AgreeOn (Named r.partials nodes) ctx') : r.render ctx nodes = r.render ctx' nodes := by
  refine render_eq_of_agreeOn r.helpers (fun name p hp key hkey => ?_) r.partialCap nodes
    r.blockCap ctx ctx' (fun key hkey => Or.inl hkey) h
  exact Or.inr ⟨name, p, hp, hkey⟩

/-- A loop whose partial is given an argument, in contexts of different depth that differ in a key
which is not named. -/
theorem Renderer.render_of_agreeOn_unnamed :
    let row := "(\x7b\x7bthis.name\x7d\x7d \x7b\x7blabel\x7d\x7d)"
    let source := "\x7b\x7b#each rows\x7d\x7d\x7b\x7b> row label=unit\x7d\x7d\x7b\x7b/each\x7d\x7d"
    let r : Renderer := ⟨.standard {}, ((PartialRegistry.empty 64).register "row" row).1, 32, 64⟩
    let rows : Value := .array [.map [("name", .text "a")], .map [("name", .text "b")]]
    let ctx : Context := .root (.map [("rows", rows), ("secret", .text "x"), ("unit", .text "kg")])
    let ctx' := (Context.root (.map [("rows", rows), ("unit", .text "t")])).extend
      [("unit", .text "kg")]
    (ctx.get? "secret" = some (.text "x") ∧ ctx'.get? "secret" = none) ∧
      ctx.AgreeOn (Named r.partials (parse 64 source).nodes) ctx' ∧
      r.render ctx (parse 64 source).nodes = r.render ctx' (parse 64 source).nodes := by
  intro row source r rows ctx ctx'
  have hsource : rootKeys (parse 64 source).nodes = ["rows", "unit"] := by decide +kernel
  have hrow : rootKeys (parse 64 row).nodes = ["this", "label"] := by decide +kernel
  have hagree : ctx.AgreeOn (Named r.partials (parse 64 source).nodes) ctx' := by
    rintro key (hkey | ⟨name, p, hp, hkey⟩)
    · rw [hsource, List.mem_cons, List.mem_singleton] at hkey
      rcases hkey with rfl | rfl <;> rfl
    · change (if "row" = name then some (Partial.mk "row" row (parse 64 row).nodes) else none) =
        some p at hp
      obtain ⟨-, rfl⟩ := Option.ite_some_none_eq_some.1 hp
      rw [hrow, List.mem_cons, List.mem_singleton] at hkey
      rcases hkey with rfl | rfl <;> rfl
  exact ⟨⟨rfl, rfl⟩, hagree, r.render_of_agreeOn hagree⟩

end Markup

end TieredReport
