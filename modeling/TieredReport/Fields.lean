/-
# Named fields: a finite map from names to values

A JSON object, a scope of bindings and a registry are all finite maps from
names to values. They are held as lists of pairs in ascending order of name
(by code point), which is also the order in which they are written out.
`Fields.insert` keeps that order and lets a later value replace an earlier one.

Key definitions: `Fields`, `Fields.get?`, `Fields.insert`, `Fields.ofList`, `Fields.erase`.
Key theorems: `Fields.get?_insert`, `Fields.get?_erase`.
-/

namespace TieredReport

universe u

/-- A finite map from names to values, as pairs in ascending order of name. -/
abbrev Fields (α : Type u) := List (String × α)

namespace Fields

variable {α : Type u}

/-- The value stored under `name`. -/
def get? : Fields α → String → Option α
  | [], _ => none
  | (n, a) :: rest, name => if n = name then some a else get? rest name

/-- Whether a value is stored under `name`. -/
def contains (fs : Fields α) (name : String) : Bool := (get? fs name).isSome

/-- Store `a` under `name`, replacing the value that was there. -/
def insert : Fields α → String → α → Fields α
  | [], name, a => [(name, a)]
  | (n, b) :: rest, name, a =>
    if n = name then (name, a) :: rest
    else if name < n then (name, a) :: (n, b) :: rest
    else (n, b) :: insert rest name a

/-- Drop every value stored under `name`. -/
def erase (fs : Fields α) (name : String) : Fields α := fs.filter fun f => f.1 ≠ name

/-- The map that binds each name of the list to its last value there. -/
def ofList (bindings : List (String × α)) : Fields α :=
  bindings.foldl (fun fs f => insert fs f.1 f.2) []

/-- The names that have a value, in order. -/
def names (fs : Fields α) : List String := fs.map (·.1)

/-- A value that is found is one of the pairs. -/
theorem mem_of_get? {fs : Fields α} {name : String} {a : α} (h : get? fs name = some a) :
    (name, a) ∈ fs := by
  induction fs with
  | nil => cases h
  | cons f rest ih =>
    unfold get? at h
    split at h
    · next hn =>
      cases h
      exact hn ▸ List.mem_cons_self
    · exact List.mem_cons_of_mem _ (ih h)

/-- After an insertion the name has the new value, and every other name what it had. -/
theorem get?_insert (fs : Fields α) (name other : String) (a : α) :
    get? (insert fs name a) other = if name = other then some a else get? fs other := by
  fun_induction insert fs name a <;> grind [get?]

/-- After an erasure the name has no value, and every other name what it had. -/
theorem get?_erase (fs : Fields α) (name other : String) :
    get? (erase fs name) other = if name = other then none else get? fs other := by
  induction fs with
  | nil => simp [erase, get?]
  | cons f rest ih =>
    unfold erase at ih ⊢
    by_cases hn : f.1 = name <;> grind [get?]

end Fields

end TieredReport
