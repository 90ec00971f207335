/-
# The helper registry

A registry binds names to helpers; the last registration of a name counts, and
a custom helper may take the place of a built-in one.

Key definitions: `Helper`, `Helper.call`, `HelperRegistry`, `HelperRegistry.standard`.
-/
import TieredReport.Helper.Builtin

namespace TieredReport

/-- A built-in helper or a custom one. -/
inductive Helper where
  | builtin (b : Builtin)
  | custom (run : List Value → Reply)

/-- Call a helper. -/
def Helper.call (defaults : FormatDefaults) : Helper → List Value → Reply
  | .builtin b, args => .ofExcept (b.call defaults args)
  | .custom run, args => run args

/-- A helper in diagnostics. -/
def Helper.describe : Helper → String
  | .builtin b => "Builtin(" ++ String.ofList (Text.capitalize b.name.toList) ++ ")"
  | .custom _ => "Custom(..)"

/-- Helpers by name, and the defaults of the formatting ones. -/
structure HelperRegistry where
  helpers : Fields Helper
  defaults : FormatDefaults

namespace HelperRegistry

/-- A registry without helpers. -/
def empty (defaults : FormatDefaults) : HelperRegistry := ⟨[], defaults⟩

/-- A registry of the built-in helpers. -/
def standard (defaults : FormatDefaults) : HelperRegistry :=
  ⟨Fields.ofList (Builtin.all.map fun b => (b.name, .builtin b)), defaults⟩

/-- The helper of a name. -/
def get? (r : HelperRegistry) (name : String) : Option Helper := Fields.get? r.helpers name

/-- Whether a name has a helper. -/
def contains (r : HelperRegistry) (name : String) : Bool := (r.get? name).isSome

/-- Bind a name to a custom helper. -/
def register (r : HelperRegistry) (name : String) (run : List Value → Reply) : HelperRegistry :=
  { r with helpers := Fields.insert r.helpers name (.custom run) }

/-- Drop the helper of a name. -/
def unregister (r : HelperRegistry) (name : String) : HelperRegistry :=
  { r with helpers := Fields.erase r.helpers name }

/-- The number of helpers. -/
def size (r : HelperRegistry) : Nat := r.helpers.length

/-- Call the helper of a name. -/
def call? (r : HelperRegistry) (name : String) (args : List Value) : Option Reply :=
  (r.get? name).map fun h => h.call r.defaults args

end HelperRegistry

end TieredReport
