/-
# Helpers: what a call can give

A helper is called by name with the values of its arguments. It gives a value,
or fails and says why, or crashes. A failure is recovered where the call
stands; a crash ends the rendering of the section.

Key definitions: `HelperError`, `HelperError.message`, `Reply`, `FormatDefaults`.
-/
import TieredReport.Value

namespace TieredReport

/-- Why a helper call failed. -/
inductive HelperError where
  | arity (name : String) (expected actual : Nat)
  | notANumber (name value : String)
  | custom (name reason : String)
  deriving DecidableEq

/-- The wording of a failed helper call. -/
def HelperError.message : HelperError → String
  | .arity name expected actual =>
    s!"helper '{name}' expects at least {expected} argument(s), got {actual}"
  | .notANumber name value => s!"helper '{name}' expects a number, got '{value}'"
  | .custom name reason => s!"helper '{name}' failed: {reason}"

/-- What a helper call gives. -/
inductive Reply where
  | value (v : Value)
  | failure (e : HelperError)
  | crash (reason : String)

/-- The reply of a call that cannot crash. -/
def Reply.ofExcept : Except HelperError Value → Reply
  | .ok v => .value v
  | .error e => .failure e

/-- The locale and currency of a formatting helper that is given none. -/
structure FormatDefaults where
  locale : String := "en-US"
  currency : String := "USD"
  deriving DecidableEq

end TieredReport
