/-
# Values

A value is what expressions, helpers and blocks work on. It is JSON with every
number a binary64 number. A lookup that finds nothing gives `none`, which is
not the same as finding null.

Key definitions: `Value`, `Value.truthy`, `Value.get?`, `Value.getPath?`, `Value.number?`,
`Value.render`, `Value.eq`, `Value.ofJson`, `Value.toJson`.
-/
import TieredReport.Json.Writer
import TieredReport.Number.Reader
import TieredReport.Text.Blank

namespace TieredReport

/-- A value of a context. -/
inductive Value where
  | null
  | bool (b : Bool)
  | number (x : Float)
  | text (s : String)
  | array (items : List Value)
  | map (members : List (String × Value))

namespace Value

instance : Inhabited Value := ⟨.null⟩

/-- Whether a value counts as true: null, `false`, zero, what is no number, and empty texts,
arrays and maps do not. -/
def truthy : Value → Bool
  | .null => false
  | .bool b => b
  | .number x => x != 0 && !x.isNaN
  | .text s => !s.isEmpty
  | .array items => !items.isEmpty
  | .map members => !members.isEmpty

/-- Whether a value is null. -/
def isNull : Value → Bool
  | .null => true
  | _ => false

/-- The string that a value is. -/
def text? : Value → Option String
  | .text s => some s
  | _ => none

/-- The items of an array. -/
def array? : Value → Option (List Value)
  | .array items => some items
  | _ => none

/-- The member of a map, or the item of an array at an index counted from zero. -/
def get? (v : Value) (segment : String) : Option Value :=
  match v with
  | .map members => Fields.get? members segment
  | .array items => (Number.nat? Number.maxNat64 segment.toList).bind fun i => items[i]?
  | _ => none

/-- The result of looking up each segment in turn. -/
def descend (v : Value) (segments : List String) : Option Value := segments.foldlM get? v

/-- The segments of a dotted path. -/
def segments (path : List Char) : List String := (Text.splitOn '.' path).map String.ofList

/-- The value at a dotted path; the empty path leads nowhere. -/
def getPath? (v : Value) (path : String) : Option Value :=
  if path.isEmpty then none else v.descend (segments path.toList)

/-- The number that a text stands for, blanks around it aside. -/
def textNumber? (s : String) : Option Float := Number.parse? (Text.trim s.toList)

/-- The number that a value stands for in arithmetic and comparisons. -/
def number? : Value → Option Float
  | .number x => some x
  | .bool b => some (if b then 1 else 0)
  | .text s => textNumber? s
  | _ => none

/-! ### JSON -/

/-- A number in JSON: an integer where it is a whole number below `10 ^ 15`, null where it is not
finite. -/
def numberToJson (x : Float) : Json :=
  match Number.smallInteger? x with
  | some n => .integer n
  | none => if x.isFinite then .float x else .null

mutual

/-- A value as JSON. -/
def toJson : Value → Json
  | .null => .null
  | .bool b => .bool b
  | .number x => numberToJson x
  | .text s => .text s
  | .array items => .array (toJsonItems items)
  | .map members => .object (toJsonMembers members)

/-- The items of an array as JSON. -/
def toJsonItems : List Value → List Json
  | [] => []
  | v :: vs => toJson v :: toJsonItems vs

/-- The members of a map as JSON. -/
def toJsonMembers : List (String × Value) → List (String × Json)
  | [] => []
  | (name, v) :: members => (name, toJson v) :: toJsonMembers members

end

mutual

/-- JSON as a value; an integer becomes the nearest binary64 number. -/
def ofJson : Json → Value
  | .null => .null
  | .bool b => .bool b
  | .integer n => .number (Float.ofInt n)
  | .float x => .number x
  | .text s => .text s
  | .array items => .array (ofJsonItems items)
  | .object members => .map (ofJsonMembers members)

/-- The items of an array as values. -/
def ofJsonItems : List Json → List Value
  | [] => []
  | j :: js => ofJson j :: ofJsonItems js

/-- The members of an object as values. -/
def ofJsonMembers : List (String × Json) → List (String × Value)
  | [] => []
  | (name, j) :: members => (name, ofJson j) :: ofJsonMembers members

end

/-! ### Text and equality -/

/-- The text of a value in markup: null is empty, arrays and maps are JSON. -/
def render : Value → String
  | .null => ""
  | .bool b => if b then "true" else "false"
  | .number x => String.ofList (Number.valueText x)
  | .text s => s
  | v => v.toJson.compact

mutual

/-- Equality of values, numbers by the rules of binary64. -/
def eq : Value → Value → Bool
  | .null, .null => true
  | .bool a, .bool b => a == b
  | .number x, .number y => x == y
  | .text s, .text t => s == t
  | .array xs, .array ys => eqItems xs ys
  | .map xs, .map ys => eqMembers xs ys
  | _, _ => false

/-- Equality of the items of two arrays. -/
def eqItems : List Value → List Value → Bool
  | [], [] => true
  | x :: xs, y :: ys => eq x y && eqItems xs ys
  | _, _ => false

/-- Equality of the members of two maps. -/
def eqMembers : List (String × Value) → List (String × Value) → Bool
  | [], [] => true
  | (m, x) :: xs, (n, y) :: ys => m == n && eq x y && eqMembers xs ys
  | _, _ => false

end

end Value

end TieredReport
