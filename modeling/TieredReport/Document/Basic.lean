/-
# Documents

A document has an entry for every section of its template, in ascending order
of place, whatever became of it. An included section has content and charts; an
excluded or failed one has neither.

Key definitions: `SectionOutcome`, `DocumentEntry`, `Document`, `Document.assemble`.
-/
import TieredReport.Compiler

namespace TieredReport

/-- A chart of a document: its markup, or why there is none. -/
structure RenderedChart where
  id : String
  kind : ChartKind
  result : Except String String

/-- What became of a section. -/
inductive SectionOutcome where
  | included (content : String) (charts : List RenderedChart)
  | excluded
  | failed (reason : String)

/-- The entry of a section in a document, as it is written out. -/
structure DocumentEntry where
  id : String
  title : String
  kind : SectionKind
  order : Int32
  content : String
  isIncluded : Bool
  charts : List RenderedChart
  /-- Why the section could not be rendered. -/
  error? : Option String

namespace DocumentEntry

/-- The entry of a section without content, and why it has none if it could not be rendered. -/
def empty (s : CompiledSection) (error? : Option String) : DocumentEntry :=
  ⟨s.id, s.title, s.kind, s.order, "", false, [], error?⟩

/-- The entry of a section. -/
def ofSection (s : CompiledSection) : SectionOutcome → DocumentEntry
  | .included content charts => ⟨s.id, s.title, s.kind, s.order, content, true, charts, none⟩
  | .excluded => .empty s none
  | .failed reason => .empty s (some reason)

/-- Whether the section could not be rendered. -/
def isFailed (e : DocumentEntry) : Bool := e.error?.isSome

/-- Whether the section was excluded by its rules. -/
def isExcluded (e : DocumentEntry) : Bool := !e.isIncluded && !e.isFailed

end DocumentEntry

/-- A rendered report. -/
structure Document where
  templateId : String
  version : String
  styling : Styling
  entries : List DocumentEntry

namespace Document

/-- The document of some entries, given in the order in which the template declares them; equal
places keep that order. -/
def assemble (t : CompiledTemplate) (entries : List DocumentEntry) : Document :=
  ⟨t.id, t.version, t.styling, entries.mergeSort fun a b => a.order ≤ b.order⟩

/-- The entries of the included sections. -/
def included (d : Document) : List DocumentEntry := d.entries.filter (·.isIncluded)

/-- The content of the included sections, one after the other. -/
def content (d : Document) : String := String.join (d.included.map (·.content))

/-- The ids of the excluded sections. -/
def excludedIds (d : Document) : List String := (d.entries.filter (·.isExcluded)).map (·.id)

/-- The ids of the sections that could not be rendered. -/
def failedIds (d : Document) : List String := (d.entries.filter (·.isFailed)).map (·.id)

/-! ### JSON -/

/-- A chart as JSON. -/
def chartToJson (c : RenderedChart) : Json :=
  .object ([("id", .text c.id), ("kind", .text c.kind.name)] ++
    match c.result with
    | .ok content => [("content", .text content)]
    | .error reason => [("error", .text reason)])

/-- An entry as JSON. -/
def entryToJson (e : DocumentEntry) : Json :=
  .object ([("id", .text e.id), ("title", .text e.title), ("section_type", .text e.kind.name),
    ("order", .integer e.order.toInt), ("content", .text e.content),
    ("included", .bool e.isIncluded), ("visualizations", .array (e.charts.map chartToJson))] ++
    match e.error? with
    | some reason => [("error", .text reason)]
    | none => [])

/-- A document as JSON. -/
def toJson (d : Document) : Json :=
  .object [("sections", .array (d.entries.map entryToJson)), ("content", .text d.content),
    ("styling", d.styling.toJson),
    ("metadata", .object [("template_id", .text d.templateId), ("version", .text d.version),
      ("total_sections", .ofNat d.entries.length), ("included_sections", .ofNat d.included.length),
      ("excluded_section_ids", .ofTexts d.excludedIds),
      ("failed_section_ids", .ofTexts d.failedIds)])]

end Document

end TieredReport
