/-
# Rendering documents

Each section is rendered on its own: a crash makes its entry a failed one and
leaves the others as they are. A required section does not ask its rules. The
charts of an included section are handed to a visualizer; a chart that it
cannot draw carries the reason.

Key definitions: `Visualizer`, `placeholder`, `CompiledSection.includes`,
`CompiledSection.render`, `SectionReport`, `CompiledSection.report`, `renderDocument`.
-/
import TieredReport.Document.Basic
import TieredReport.Document.Requirements
import TieredReport.Markup.Render

namespace TieredReport

/-- Draws a chart against a context, or says why it cannot. -/
abbrev Visualizer := Chart → Context → Except String String

/-- An element that a chart service fills in later, with the number of data points. -/
def placeholder : Visualizer := fun c ctx =>
  let points := ((c.dataPath.bind ctx.resolve).bind Value.array?).map List.length
  .ok ("<div class=\"chart-placeholder\" data-chart-id=\"" ++ c.id ++ "\" data-chart-type=\"" ++
    c.kind.name ++ "\" data-points=\"" ++ toString (points.getD 0) ++ "\">" ++ c.title.getD "" ++
    "</div>")

/-- A chart as a visualizer draws it. -/
def renderChart (visualizer : Visualizer) (ctx : Context) (c : Chart) : RenderedChart :=
  ⟨c.id, c.kind, (visualizer c ctx).mapError fun reason =>
    s!"Visualization '{c.id}' failed: {reason}"⟩

/-- What the rendering of a section leaves behind. -/
structure SectionReport where
  entry : DocumentEntry
  counts : DocumentCounts
  failures : Failures

namespace CompiledSection

/-- Whether a section appears. -/
def includes (s : CompiledSection) (helpers : HelperRegistry) (ctx : Context) : Run Bool :=
  if s.required then Run.pure true else s.rules.includes helpers ctx

/-- What becomes of a section, and what that adds to the counts, unless it crashes. -/
def render (r : Markup.Renderer) (visualizer : Visualizer) (ctx : Context) (s : CompiledSection) :
    Run (SectionOutcome × DocumentCounts) :=
  (s.includes r.helpers ctx).bind fun b =>
    if b then
      (r.render ctx s.nodes).bind fun content =>
        Run.pure (.included content (s.charts.map (renderChart visualizer ctx)), .oneIncluded)
    else Run.pure (.excluded, .oneExcluded)

/-- The reason that the entry of a crashed section gives. Each section is rendered by a task with a
number of its own, another one every time; `N` stands for any such number. -/
def crashReason (templateId sectionId reason : String) : String :=
  s!"Rendering section '{sectionId}' of template '{templateId}' failed: task N panicked with message "
    ++ Text.quoted reason

/-- A section by itself: its entry, what it adds to the counts, and the failures met in it. -/
def report (r : Markup.Renderer) (visualizer : Visualizer) (templateId : String) (ctx : Context)
    (s : CompiledSection) : SectionReport :=
  let run := s.render r visualizer ctx
  match run.outcome with
  | .ok (outcome, counts) => ⟨.ofSection s outcome, counts, run.failures⟩
  | .error reason =>
    ⟨.ofSection s (.failed (crashReason templateId s.id reason)), .oneFailed, run.failures⟩

end CompiledSection

/-- The document of a template and a context, what was counted, and the failures met in its
sections. -/
def renderDocument (r : Markup.Renderer) (visualizer : Visualizer) (t : CompiledTemplate)
    (ctx : Context) : Except ContextError (Document × DocumentCounts × Failures) := do
  checkContext t.id t.tier ctx
  let reports := t.sections.map (·.report r visualizer t.id ctx)
  return (.assemble t (reports.map (·.entry)),
    reports.foldl (fun sum s => sum + s.counts) .oneDocument,
    reports.foldl (fun sum s => sum + s.failures) .none)

end TieredReport
