/-
# Templates: what a report is made of

A template lists the sections of a report for one tier of customers. A section
has markup of its own or takes the stock markup of its kind, rules that decide
whether it appears, and charts.

Key definitions: `Tier`, `SectionKind`, `ChartKind`, `Chart`, `Section`, `Styling`,
`Template`, `Template.cacheKey`.
-/
import TieredReport.Json.Basic
import TieredReport.Rule

namespace TieredReport

/-- The tier that a template is for. -/
inductive Tier where
  | professional
  | enterprise
  deriving DecidableEq

/-- The kinds of section. -/
inductive SectionKind where
  | executiveSummary
  | companyOverview
  | financialAnalysis
  | valuationSummary
  | valuationMethods
  | marketAnalysis
  | riskAssessment
  | industryBenchmarks
  | scenarioAnalysis
  | recommendations
  | appendix
  | custom
  deriving DecidableEq

/-- The kinds of chart. -/
inductive ChartKind where
  | bar
  | line
  | pie
  | area
  | scatter
  | waterfall
  | table
  deriving DecidableEq

/-- The tiers by name. -/
def Tier.all : List (String × Tier) := [("professional", .professional), ("enterprise", .enterprise)]

/-- The actions of rules by name. -/
def RuleAction.all : List (String × RuleAction) := [("include", .includes), ("exclude", .excludes)]

/-- The kinds of section by name. -/
def SectionKind.all : List (String × SectionKind) :=
  [("executive_summary", .executiveSummary), ("company_overview", .companyOverview),
    ("financial_analysis", .financialAnalysis), ("valuation_summary", .valuationSummary),
    ("valuation_methods", .valuationMethods), ("market_analysis", .marketAnalysis),
    ("risk_assessment", .riskAssessment), ("industry_benchmarks", .industryBenchmarks),
    ("scenario_analysis", .scenarioAnalysis), ("recommendations", .recommendations),
    ("appendix", .appendix), ("custom", .custom)]

/-- The kinds of chart by name. -/
def ChartKind.all : List (String × ChartKind) :=
  [("bar", .bar), ("line", .line), ("pie", .pie), ("area", .area), ("scatter", .scatter),
    ("waterfall", .waterfall), ("table", .table)]

/-- The name of a variant in a list of named variants. -/
def nameIn {α : Type} [DecidableEq α] (variants : List (String × α)) (a : α) : String :=
  ((variants.find? fun v => v.2 = a).map (·.1)).getD ""

/-- The name of a tier. -/
def Tier.name (t : Tier) : String := nameIn Tier.all t

/-- The name of an action. -/
def RuleAction.name (a : RuleAction) : String := nameIn RuleAction.all a

/-- The name of a kind of section. -/
def SectionKind.name (k : SectionKind) : String := nameIn SectionKind.all k

/-- The name of a kind of chart. -/
def ChartKind.name (k : ChartKind) : String := nameIn ChartKind.all k

/-- Whether sections of a kind are costly to render. -/
def SectionKind.isComplex : SectionKind → Bool
  | .financialAnalysis | .valuationMethods | .scenarioAnalysis => true
  | _ => false

/-- A chart of a section; its options are passed on as they are. -/
structure Chart where
  id : String
  kind : ChartKind
  title : Option String
  dataPath : Option String
  options : Json

/-- A section of a template. -/
structure Section where
  id : String
  title : String
  kind : SectionKind
  /-- The place in the document: sections stand in ascending order. -/
  order : Int32
  /-- A required section appears whatever its rules say. -/
  required : Bool
  rules : List Rule
  /-- The markup of the section; without it, the stock markup of its kind is taken. -/
  markup : Option String
  charts : List Chart

/-- The look of a document. -/
structure Styling where
  fontFamily : String := "Inter, sans-serif"
  primaryColor : String := "#1f3a5f"
  secondaryColor : String := "#4a90d9"
  pageSize : String := "A4"
  deriving DecidableEq

/-- The definition of a report. -/
structure Template where
  id : String
  name : String
  version : String
  tier : Tier
  sections : List Section
  styling : Styling
  description : Option String

/-- The key under which the compiled form of a template is cached. -/
def Template.cacheKey (t : Template) : String := t.id ++ ":" ++ t.version

end TieredReport
