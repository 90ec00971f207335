/-
# What a context has to hold

Every report reads business data and metadata, an enterprise report enterprise
data too; null counts as absent. Data given as JSON has to be an object.

Key definitions: `ContextError`, `ContextError.message`, `checkContext`, `contextOfJson`.
-/
import TieredReport.Template.Basic

namespace TieredReport

/-- Why a context is refused. -/
inductive ContextError where
  | missingBusinessData
  | missingMetadata
  | missingEnterpriseData (templateId : String)
  | notAnObject
  deriving DecidableEq

/-- The name under which a context holds business data. -/
def businessData : String := "business_data"

/-- The name under which a context holds metadata. -/
def metadataName : String := "metadata"

/-- The name under which a context holds enterprise data. -/
def enterpriseData : String := "enterprise_data"

/-- The wording of a refusal. -/
def ContextError.message : ContextError → String
  | .missingBusinessData => s!"Render context is missing business data ('{businessData}')"
  | .missingMetadata => s!"Render context is missing metadata ('{metadataName}')"
  | .missingEnterpriseData id =>
    s!"Enterprise template '{id}' requires enterprise data in the render context"
  | .notAnObject => "Render context root must be an object"

/-- Whether a context holds something other than null under a name. -/
def Context.holds (ctx : Context) (name : String) : Bool :=
  match ctx.get? name with
  | some v => !v.isNull
  | none => false

/-- Refuse a context that lacks what templates of a tier read. -/
def checkContext (templateId : String) (tier : Tier) (ctx : Context) : Except ContextError Unit :=
  if !ctx.holds businessData then .error .missingBusinessData
  else if !ctx.holds metadataName then .error .missingMetadata
  else if tier = .enterprise && !ctx.holds enterpriseData then
    .error (.missingEnterpriseData templateId)
  else .ok ()

/-- The context of some data, which has to be an object. -/
def contextOfJson (j : Json) : Except ContextError Context :=
  match Value.ofJson j with
  | .map members => .ok (.root (.map members))
  | _ => .error .notAnObject

end TieredReport
