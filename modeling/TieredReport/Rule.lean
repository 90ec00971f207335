/-
# Rules: whether a section appears

A rule has a condition, an action and a priority. Rules are tried by descending
priority, rules of one priority in the order in which they were declared; the
first whose condition holds decides. A section that no rule speaks about
appears.

Key definitions: `Rule`, `RuleSet`, `RuleSet.ofRules`, `RuleSet.includes`.
-/
import TieredReport.Markup.Evaluate

namespace TieredReport

/-- What a rule does to its section. -/
inductive RuleAction where
  | includes
  | excludes
  deriving DecidableEq

/-- A rule as it is declared. -/
structure Rule where
  condition : String
  action : RuleAction
  priority : Int32
  deriving DecidableEq

/-- A rule whose condition is parsed. -/
structure ParsedRule where
  condition : Markup.Expression
  action : RuleAction
  priority : Int32

/-- Parse the condition of a rule. -/
def ParsedRule.ofRule (r : Rule) : ParsedRule := ⟨.parseCondition r.condition, r.action, r.priority⟩

/-- Rules in the order in which they are tried. -/
structure RuleSet where
  rules : List ParsedRule

namespace RuleSet

/-- Put rules in order; the sort keeps the order of equal priorities. -/
def ofRules (rules : List Rule) : RuleSet :=
  ⟨(rules.map ParsedRule.ofRule).mergeSort fun a b => b.priority ≤ a.priority⟩

/-- Whether the first rule that holds includes the section; true where none holds. -/
def decideBy (helpers : HelperRegistry) (ctx : Context) : List ParsedRule → Run Bool
  | [] => Run.pure true
  | r :: rest =>
    (Markup.holds helpers ctx r.condition).bind fun b =>
      if b then Run.pure (r.action == .includes) else decideBy helpers ctx rest

/-- Whether the rules include their section. -/
def includes (s : RuleSet) (helpers : HelperRegistry) (ctx : Context) : Run Bool :=
  decideBy helpers ctx s.rules

/-- The number of rules. -/
def size (s : RuleSet) : Nat := s.rules.length

/-- The conditions in the order in which they are tried. -/
def conditions (s : RuleSet) : List String := s.rules.map (·.condition.source)

end RuleSet

end TieredReport
