/-
# JSON values

A number is an integer of at most 64 bits or a binary64 number; the two are
told apart because a definition that asks for an integer does not take `1.0`.
Members of an object are in ascending order of name.

Key definitions: `Json`, `Json.text?`, `Json.member?`, `Json.ofMembers`.
-/
import TieredReport.Fields

namespace TieredReport

/-- A JSON value. -/
inductive Json where
  | null
  | bool (b : Bool)
  | integer (n : Int)
  | float (x : Float)
  | text (s : String)
  | array (items : List Json)
  | object (members : List (String × Json))

namespace Json

instance : Inhabited Json := ⟨.null⟩

/-- The string that a value is. -/
def text? : Json → Option String
  | .text s => some s
  | _ => none

/-- The member of an object. -/
def member? (j : Json) (name : String) : Option Json :=
  match j with
  | .object members => Fields.get? members name
  | _ => none

/-- An object of these members, put in order. -/
def ofMembers (members : List (String × Json)) : Json := .object (Fields.ofList members)

/-- A natural number as a value. -/
def ofNat (n : Nat) : Json := .integer n

/-- An array of strings. -/
def ofTexts (ss : List String) : Json := .array (ss.map .text)

end Json

end TieredReport
