/-
# The structure that compilation relies on

A template needs an id, a name and a version that are not blank and at least
one section; a section needs an id and a title that are not blank, and no two
sections may share an id.

Key definitions: `CompilationCause`, `CompilationCause.message`, `CompilationError`,
`Template.fault?`.
-/
import TieredReport.Template.Basic

namespace TieredReport

/-- Why a template cannot be compiled. -/
inductive CompilationCause where
  | missingId
  | missingName
  | missingVersion
  | noSections
  | missingSectionId (position : Nat)
  | missingSectionTitle (id : String)
  | duplicateSectionId (id : String)
  | noMarkup (id kind : String)
  | malformed (reason : String)
  deriving DecidableEq

/-- The wording of a cause. -/
def CompilationCause.message : CompilationCause → String
  | .missingId => "template id is empty"
  | .missingName => "template name is empty"
  | .missingVersion => "template version is empty"
  | .noSections => "template has no sections"
  | .missingSectionId position => s!"section at position {position} has an empty id"
  | .missingSectionTitle id => s!"section '{id}' has an empty title"
  | .duplicateSectionId id => s!"duplicate section id '{id}'"
  | .noMarkup id kind =>
    s!"section '{id}' has no markup and no built-in markup exists for type '{kind}'"
  | .malformed reason => s!"malformed template definition: {reason}"

/-- Why a certain template cannot be compiled. -/
structure CompilationError where
  templateId : String
  cause : CompilationCause
  deriving DecidableEq

/-- The wording of a compilation error. -/
def CompilationError.message (e : CompilationError) : String :=
  s!"Compilation of template '{e.templateId}' failed: {e.cause.message}"

/-- The first fault of sections that start at a position and follow sections with ids `seen`. -/
def sectionFault? : (position : Nat) → (seen : List String) → List Section → Option CompilationCause
  | _, _, [] => none
  | position, seen, s :: rest =>
    if Text.allBlank s.id then some (.missingSectionId position)
    else if Text.allBlank s.title then some (.missingSectionTitle s.id)
    else if seen.contains s.id then some (.duplicateSectionId s.id)
    else sectionFault? (position + 1) (s.id :: seen) rest

/-- The first fault in the structure of a template. -/
def Template.fault? (t : Template) : Option CompilationCause :=
  if Text.allBlank t.id then some .missingId
  else if Text.allBlank t.name then some .missingName
  else if Text.allBlank t.version then some .missingVersion
  else if t.sections.isEmpty then some .noSections
  else sectionFault? 0 [] t.sections

end TieredReport
