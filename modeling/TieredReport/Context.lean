/-
# Contexts: a chain of scopes

Expressions are resolved against a chain of scopes, the innermost first. A loop
iteration or the call of a partial puts a scope in front of the chain and never
changes the scopes behind it.

Key definitions: `Context`, `Context.root`, `Context.get?`, `Context.resolve`,
`Context.extend`, `Context.iteration`.
Key theorems: `Context.get?_extend`, `Context.get?_iteration`.
-/
import TieredReport.Value

namespace TieredReport

/-- The bindings of one scope. -/
abbrev Scope := Fields Value

/-- A chain of scopes. -/
structure Context where
  scope : Scope
  outer : List Scope

namespace Context

/-- The name under which a loop binds the current item, and a root that is no map binds itself. -/
def this : String := "this"

/-- A chain of one scope: the members of a map, or any other value bound to `this`. -/
def root : Value → Context
  | .map members => ⟨members, []⟩
  | v => ⟨[(this, v)], []⟩

/-- The value bound to a name in the first scope that has it. -/
def getIn : List Scope → String → Option Value
  | [], _ => none
  | s :: rest, name =>
    match Fields.get? s name with
    | some v => some v
    | none => getIn rest name

/-- The value bound to a name, innermost scope first. -/
def get? (ctx : Context) (name : String) : Option Value := getIn (ctx.scope :: ctx.outer) name

/-- The value at a dotted path, blanks around it aside: its first segment is a bound name, and the
rest leads on from there. -/
def resolve (ctx : Context) (path : String) : Option Value :=
  let path := Text.trim path.toList
  if path.isEmpty then none
  else
    match Text.cut? '.' path with
    | none => ctx.get? (String.ofList path)
    | some (head, rest) => (ctx.get? (String.ofList head)).bind (·.getPath? (String.ofList rest))

/-- The value at a dotted path, null where there is none. -/
def resolveOrNull (ctx : Context) (path : String) : Value := (ctx.resolve path).getD .null

/-- The chain with a new innermost scope; of two bindings of one name the later counts. -/
def extend (ctx : Context) (bindings : List (String × Value)) : Context :=
  ⟨Fields.ofList bindings, ctx.scope :: ctx.outer⟩

/-- The bindings of one loop iteration. -/
def iterationBindings (item : Value) (index length : Nat) : List (String × Value) :=
  [(this, item), ("@index", .number (Float.ofNat index)), ("@first", .bool (index == 0)),
    ("@last", .bool (index + 1 == length))]

/-- The chain inside the iteration of a loop over `length` items that is at `index`. -/
def iteration (ctx : Context) (item : Value) (index length : Nat) : Context :=
  ctx.extend (iterationBindings item index length)

/-- The number of scopes in the chain. -/
def depth (ctx : Context) : Nat := ctx.outer.length + 1

theorem get?_extend (ctx : Context) (bindings : List (String × Value)) (name : String) :
    (ctx.extend bindings).get? name =
      match Fields.get? (Fields.ofList bindings) name with
      | some v => some v
      | none => ctx.get? name := rfl

/-- **What an iteration binds.** `this` is the item, `@index` its place counted from zero, and
`@first` and `@last` tell whether it is the first and the last of the items; every other name has the
value that it has outside. -/
theorem get?_iteration (ctx : Context) (item : Value) (index length : Nat) (name : String) :
    (ctx.iteration item index length).get? name =
      if name = this then some item
      else if name = "@index" then some (.number (Float.ofNat index))
      else if name = "@first" then some (.bool (index == 0))
      else if name = "@last" then some (.bool (index + 1 == length))
      else ctx.get? name := by
  rw [iteration, get?_extend]
  simp only [iterationBindings, Fields.ofList, List.foldl_cons, List.foldl_nil, Fields.get?_insert,
    Fields.get?]
  by_cases hthis : name = this
  · subst hthis
    rfl
  by_cases hindex : name = "@index"
  · subst hindex
    rfl
  by_cases hfirst : name = "@first"
  · subst hfirst
    rfl
  by_cases hlast : name = "@last"
  · subst hlast
    rfl
  -- the last binding is the outermost insertion, so the names are asked for in the other order
  rw [if_neg hthis, if_neg hindex, if_neg hfirst, if_neg hlast, if_neg (Ne.symm hlast),
    if_neg (Ne.symm hfirst), if_neg (Ne.symm hindex), if_neg (Ne.symm hthis)]

end Context

end TieredReport
