/-
# Template definitions in JSON

A definition is an object, or an array of its fields in the order in which they
are declared here. Fields with a default may be absent, and so may a title, a
data path, a description and markup, for which null stands too; a template is
written without the ones that are absent.

Key definitions: `Template.decode`, `Template.toJson`, `Section.decode`, `Rule.decode`,
`Chart.decode`, `Styling.decode`.
-/
import TieredReport.Json.Decode
import TieredReport.Template.Basic

namespace TieredReport

open Json (Decoder field fieldOr)

/-! ### Reading -/

/-- Read a rule. -/
def Rule.decode : Decoder Rule :=
  Json.record "ConditionalRule" (Rule.mk
    <$> field "condition" Json.string
    <*> field "action" (Json.variant RuleAction.all)
    <*> fieldOr "priority" 0 Json.int32)

/-- Read a chart. -/
def Chart.decode : Decoder Chart :=
  Json.record "Visualization" (Chart.mk
    <$> field "id" Json.string
    <*> field "type" (Json.variant ChartKind.all)
    <*> fieldOr "title" none (Json.nullable Json.string)
    <*> fieldOr "data_path" none (Json.nullable Json.string)
    <*> fieldOr "options" .null Json.anything)

/-- Read a section. -/
def Section.decode : Decoder Section :=
  Json.record "Section" (Section.mk
    <$> field "id" Json.string
    <*> field "title" Json.string
    <*> field "type" (Json.variant SectionKind.all)
    <*> fieldOr "order" 0 Json.int32
    <*> fieldOr "required" false Json.boolean
    <*> fieldOr "rules" [] (Json.list Rule.decode)
    <*> fieldOr "markup" none (Json.nullable Json.string)
    <*> fieldOr "visualizations" [] (Json.list Chart.decode))

/-- Read the look of a document. -/
def Styling.decode : Decoder Styling :=
  let standard : Styling := {}
  Json.record "Styling" (Styling.mk
    <$> fieldOr "font_family" standard.fontFamily Json.string
    <*> fieldOr "primary_color" standard.primaryColor Json.string
    <*> fieldOr "secondary_color" standard.secondaryColor Json.string
    <*> fieldOr "page_size" standard.pageSize Json.string)

/-- Read a template. -/
def Template.decode : Decoder Template :=
  Json.record "Template" (Template.mk
    <$> field "id" Json.string
    <*> field "name" Json.string
    <*> field "version" Json.string
    <*> field "tier" (Json.variant Tier.all)
    <*> field "sections" (Json.list Section.decode)
    <*> fieldOr "styling" {} Styling.decode
    <*> fieldOr "description" none (Json.nullable Json.string))

/-! ### Writing -/

/-- A member that is left out where there is no value. -/
def optionalMember (name : String) (s : Option String) : List (String × Json) :=
  match s with
  | none => []
  | some s => [(name, .text s)]

/-- A rule as JSON. -/
def Rule.toJson (r : Rule) : Json :=
  .ofMembers [("condition", .text r.condition), ("action", .text r.action.name),
    ("priority", .integer r.priority.toInt)]

/-- A chart as JSON. -/
def Chart.toJson (c : Chart) : Json :=
  .ofMembers ([("id", .text c.id), ("type", .text c.kind.name)] ++ optionalMember "title" c.title ++
    optionalMember "data_path" c.dataPath ++ [("options", c.options)])

/-- A section as JSON. -/
def Section.toJson (s : Section) : Json :=
  .ofMembers ([("id", .text s.id), ("title", .text s.title), ("type", .text s.kind.name),
    ("order", .integer s.order.toInt), ("required", .bool s.required),
    ("rules", .array (s.rules.map Rule.toJson))] ++ optionalMember "markup" s.markup ++
    [("visualizations", .array (s.charts.map Chart.toJson))])

/-- The look of a document as JSON. -/
def Styling.toJson (s : Styling) : Json :=
  .ofMembers [("font_family", .text s.fontFamily), ("primary_color", .text s.primaryColor),
    ("secondary_color", .text s.secondaryColor), ("page_size", .text s.pageSize)]

/-- A template as JSON. -/
def Template.toJson (t : Template) : Json :=
  .ofMembers ([("id", .text t.id), ("name", .text t.name), ("version", .text t.version),
    ("tier", .text t.tier.name), ("sections", .array (t.sections.map Section.toJson)),
    ("styling", t.styling.toJson)] ++ optionalMember "description" t.description)

end TieredReport
