/-
# Reading typed data from JSON

A decoder turns a JSON value into typed data or says why it cannot. A record is
an object, or an array of its fields in order of declaration. The members of an
object are visited in order of name and those of an array as they stand; the
first that does not fit decides the error, and only when all fit is a missing
field reported, the first in order of declaration.

Key definitions: `Json.DecodeError`, `Json.Decoder`, `Json.FieldReader`, `Json.record`,
`Json.variant`.
-/
import TieredReport.Json.Writer
import TieredReport.Number.Reader
import TieredReport.Text.Quoted

namespace TieredReport.Json

/-- Why a JSON value does not stand for the data asked for. -/
inductive DecodeError where
  | invalidType (found : Json) (expected : String)
  | invalidValue (found : Json) (expected : String)
  | unknownVariant (found : String) (known : List String)
  | missingField (name : String)
  | invalidLength (length : Nat) (expected : String)

/-- Text between backticks. -/
def ticked (s : String) : String := "`" ++ s ++ "`"

/-- A value as a message names it. -/
def describe : Json → String
  | .null => "null"
  | .bool b => "boolean " ++ ticked (if b then "true" else "false")
  | .integer n => "integer " ++ ticked (String.ofList (Number.intText n))
  | .float x => "floating point " ++ ticked (floatText x)
  | .text s => "string " ++ Text.quoted s
  | .array _ => "sequence"
  | .object _ => "map"

/-- The choice between some words. -/
def oneOf : List String → String
  | [a] => ticked a
  | [a, b] => ticked a ++ " or " ++ ticked b
  | words => "one of " ++ ", ".intercalate (words.map ticked)

/-- The wording of a decoding error. -/
def DecodeError.message : DecodeError → String
  | .invalidType found expected => "invalid type: " ++ describe found ++ ", expected " ++ expected
  | .invalidValue found expected => "invalid value: " ++ describe found ++ ", expected " ++ expected
  | .unknownVariant found known =>
    "unknown variant " ++ ticked found ++ ", expected " ++ oneOf known
  | .missingField name => "missing field " ++ ticked name
  | .invalidLength length expected => s!"invalid length {length}, expected {expected}"

/-- A reader of typed data. -/
abbrev Decoder (α : Type) := Json → Except DecodeError α

/-! ### Plain values -/

/-- A string. -/
def string : Decoder String
  | .text s => .ok s
  | j => .error (.invalidType j "a string")

/-- A boolean. -/
def boolean : Decoder Bool
  | .bool b => .ok b
  | j => .error (.invalidType j "a boolean")

/-- An integer from `low` to `high`, of the type called `name`. -/
def integerIn (name : String) (low high : Int) : Decoder Int
  | .integer n =>
    if low ≤ n ∧ n ≤ high then .ok n else .error (.invalidValue (.integer n) name)
  | j => .error (.invalidType j name)

/-- A 32-bit integer. -/
def int32 : Decoder Int32 := fun j =>
  (integerIn "i32" Int32.minValue.toInt Int32.maxValue.toInt j).map Int32.ofInt

/-- A natural number of 64 bits, of the type called `name`. -/
def nat64 (name : String) : Decoder Nat :=
  fun j => (integerIn name 0 Number.maxNat64 j).map Int.toNat

/-- Every item of an array. -/
def list {α : Type} (item : Decoder α) : Decoder (List α)
  | .array items => items.mapM item
  | j => .error (.invalidType j "a sequence")

/-- A value that may be null. -/
def nullable {α : Type} (value : Decoder α) : Decoder (Option α)
  | .null => .ok none
  | j => (value j).map some

/-- Any value, as it is. -/
def anything : Decoder Json := .ok

/-- One of some named variants: its name, or an object that binds its name to null. -/
def variant {α : Type} (variants : List (String × α)) : Decoder α
  | .text s =>
    match Fields.get? variants s with
    | some a => .ok a
    | none => .error (.unknownVariant s (variants.map (·.1)))
  | .object [(s, payload)] =>
    match Fields.get? variants s with
    | some a =>
      match payload with
      | .null => .ok a
      | _ => .error (.invalidType payload "unit")
    | none => .error (.unknownVariant s (variants.map (·.1)))
  | .object members => .error (.invalidValue (.object members) "map with a single key")
  | j => .error (.invalidType j "string or map")

/-! ### Records -/

/-- The members that a record was given, in the order in which they are visited. `arity` is the
number of items where it was given as an array. -/
structure Given where
  record : String
  names : List String
  arity : Option Nat
  members : List (String × Json)

/-- The members of a record called `record` with fields `names`; unknown members do not count. -/
def Given.of (record : String) (names : List String) : Decoder Given
  | .object members => .ok ⟨record, names, none, members.filter fun m => names.contains m.1⟩
  | .array items => .ok ⟨record, names, some items.length, names.zip items⟩
  | j => .error (.invalidType j ("struct " ++ record))

/-- What is wrong where a field has no value. -/
def Given.missing (g : Given) (name : String) : DecodeError :=
  match g.arity with
  | none => .missingField name
  | some _ =>
    let count := g.names.length
    .invalidLength (g.names.idxOf name)
      ("struct " ++ g.record ++ s!" with {count} element" ++ if count = 1 then "" else "s")

/-- The fields of a record: for each its name and what is wrong with a value, in order of
declaration, and how the record is made once every value fits. -/
structure FieldReader (α : Type) where
  checks : List (String × (Json → Option DecodeError))
  build : Given → Except DecodeError α

instance : Applicative FieldReader where
  pure a := ⟨[], fun _ => .ok a⟩
  seq f x := ⟨f.checks ++ (x ()).checks, fun g => f.build g <*> (x ()).build g⟩

/-- The error of a decoder on a value. -/
def fault? {α : Type} (d : Decoder α) (j : Json) : Option DecodeError :=
  match d j with
  | .ok _ => none
  | .error e => some e

/-- A field that has to be there. -/
def field {α : Type} (name : String) (d : Decoder α) : FieldReader α where
  checks := [(name, fault? d)]
  build g :=
    match Fields.get? g.members name with
    | some j => d j
    | none => .error (g.missing name)

/-- A field that takes `default` where it is absent. -/
def fieldOr {α : Type} (name : String) (default : α) (d : Decoder α) : FieldReader α where
  checks := [(name, fault? d)]
  build g :=
    match Fields.get? g.members name with
    | some j => d j
    | none => .ok default

/-- The first of the given members that does not fit. -/
def FieldReader.firstFault? {α : Type} (r : FieldReader α) (g : Given) : Option DecodeError :=
  g.members.findSome? fun m => (Fields.get? r.checks m.1).bind (· m.2)

/-- A record called `name`. -/
def record {α : Type} (name : String) (r : FieldReader α) : Decoder α := fun j => do
  let g ← Given.of name (r.checks.map (·.1)) j
  match r.firstFault? g with
  | some e => .error e
  | none =>
    let a ← r.build g
    match g.arity with
    | some n =>
      if r.checks.length < n then .error (.invalidLength n "fewer elements in array") else .ok a
    | none => .ok a

end TieredReport.Json
