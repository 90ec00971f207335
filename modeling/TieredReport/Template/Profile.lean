/-
# The performance profile of a template

Every section scores two points, every chart three, the enterprise tier ten and
every section of a costly kind five. The score decides how complex the template
is, and that whether its documents may be cached and its sections rendered side
by side.

Key definitions: `Complexity`, `Profile`, `Profile.ofTemplate`.
-/
import TieredReport.Template.Basic

namespace TieredReport

/-- How costly a template is to render. -/
inductive Complexity where
  | low
  | medium
  | high
  | extreme
  deriving DecidableEq

/-- The name of a complexity. -/
def Complexity.name : Complexity → String
  | .low => "low"
  | .medium => "medium"
  | .high => "high"
  | .extreme => "extreme"

/-- The complexity of a score. -/
def Complexity.ofScore (score : Nat) : Complexity :=
  if score < 10 then .low
  else if score < 25 then .medium
  else if score < 50 then .high
  else .extreme

/-- What is known of the cost of a template before it is rendered. -/
structure Profile where
  complexity : Complexity
  score : Nat
  cacheable : Bool
  parallelizable : Bool
  deriving DecidableEq

namespace Profile

/-- The points of a template. -/
def points (t : Template) : Nat :=
  2 * t.sections.length + 3 * (t.sections.flatMap (·.charts)).length +
    (match t.tier with
      | .enterprise => 10
      | .professional => 0) +
    5 * (t.sections.filter (·.kind.isComplex)).length

/-- The profile of a template. -/
def ofTemplate (t : Template) : Profile :=
  let complexity := Complexity.ofScore (points t)
  { complexity
    score := points t
    cacheable := complexity != .extreme
    parallelizable := 1 < t.sections.length && complexity != .extreme }

/-- A profile as JSON. -/
def toJson (p : Profile) : Json :=
  .ofMembers [("complexity", .text p.complexity.name), ("score", .ofNat p.score),
    ("cacheable", .bool p.cacheable), ("parallelizable", .bool p.parallelizable)]

end Profile

end TieredReport
