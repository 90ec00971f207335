/-
# Partials: named pieces of markup

A partial is parsed when it is registered, with the cap on nested blocks of its
registry; the last registration of a name counts.

Key definitions: `Markup.Partial`, `Markup.PartialRegistry`.
-/
import TieredReport.Markup.Tree

namespace TieredReport.Markup

/-- A named, parsed piece of markup. -/
structure Partial where
  name : String
  source : String
  nodes : List Node

/-- A partial, and the number of blocks that were too deep for it. -/
def Partial.parse (cap : Nat) (name source : String) : Partial × Nat :=
  let parsed := Markup.parse cap source
  (⟨name, source, parsed.nodes⟩, parsed.tooDeep)

/-- Partials by name, and the cap on nested blocks for the parsing of new ones. -/
structure PartialRegistry where
  cap : Nat
  partials : Fields Partial

namespace PartialRegistry

/-- A registry without partials. -/
def empty (cap : Nat) : PartialRegistry := ⟨cap, []⟩

/-- Parse a partial and bind its name to it; also the number of blocks that were too deep. -/
def register (r : PartialRegistry) (name source : String) : PartialRegistry × Nat :=
  let (p, tooDeep) := Partial.parse r.cap name source
  ({ r with partials := Fields.insert r.partials name p }, tooDeep)

/-- The partial of a name. -/
def get? (r : PartialRegistry) (name : String) : Option Partial := Fields.get? r.partials name

/-- Whether a name has a partial. -/
def contains (r : PartialRegistry) (name : String) : Bool := (r.get? name).isSome

/-- Drop the partial of a name. -/
def remove (r : PartialRegistry) (name : String) : PartialRegistry :=
  { r with partials := Fields.erase r.partials name }

/-- The names that have a partial, in order. -/
def names (r : PartialRegistry) : List String := Fields.names r.partials

/-- The number of partials. -/
def size (r : PartialRegistry) : Nat := r.partials.length

end PartialRegistry

end TieredReport.Markup
