/-
# Writing JSON

The compact form has no blanks; members stand in the order of the object. In a
string only the quote, the backslash and the control characters below U+0020
are escaped. A number that is not finite is written as null.

Key definitions: `Json.escapeChar`, `Json.quote`, `Json.compact`, `Json.pretty`.
-/
import TieredReport.Json.Basic
import TieredReport.Number.Text

namespace TieredReport.Json

/-- A character as it stands inside a JSON string. -/
def escapeChar (c : Char) : List Char :=
  if c = '"' then ['\\', '"']
  else if c = '\\' then ['\\', '\\']
  else if c = '\n' then ['\\', 'n']
  else if c = '\r' then ['\\', 'r']
  else if c = '\t' then ['\\', 't']
  else if c.toNat = 8 then ['\\', 'b']
  else if c.toNat = 12 then ['\\', 'f']
  else if c.toNat < 0x20 then '\\' :: 'u' :: Number.padLeft 4 (Nat.toDigits 16 c.toNat)
  else [c]

/-- A string between quotes. -/
def quote (s : String) : String := String.ofList ('"' :: s.toList.flatMap escapeChar ++ ['"'])

/-- A binary64 number, null where it is not finite. -/
def floatText (x : Float) : String :=
  match Number.jsonText? x with
  | some t => String.ofList t
  | none => "null"

/-- The text of a value that holds no others. -/
def scalarText : Json → String
  | .bool true => "true"
  | .bool false => "false"
  | .integer n => String.ofList (Number.intText n)
  | .float x => floatText x
  | .text s => quote s
  | _ => "null"

mutual

/-- A value without blanks. -/
def compact : Json → String
  | .array [] => "[]"
  | .array (item :: items) => "[" ++ compact item ++ compactItems items ++ "]"
  | .object [] => "\x7b\x7d"
  | .object ((name, value) :: members) =>
    "\x7b" ++ quote name ++ ":" ++ compact value ++ compactMembers members ++ "\x7d"
  | j => scalarText j

/-- Further items of an array, each after a comma. -/
def compactItems : List Json → String
  | [] => ""
  | item :: items => "," ++ compact item ++ compactItems items

/-- Further members of an object, each after a comma. -/
def compactMembers : List (String × Json) → String
  | [] => ""
  | (name, value) :: members =>
    "," ++ quote name ++ ":" ++ compact value ++ compactMembers members

end

/-- A line break and two blanks for each level. -/
def lineStart (level : Nat) : String := String.ofList ('\n' :: List.replicate (2 * level) ' ')

mutual

/-- A value over several lines, two blanks deeper at each level. -/
def prettyAt (level : Nat) : Json → String
  | .array (item :: items) =>
    "[" ++ lineStart (level + 1) ++ prettyAt (level + 1) item ++ prettyItems (level + 1) items ++
      lineStart level ++ "]"
  | .object ((name, value) :: members) =>
    "\x7b" ++ lineStart (level + 1) ++ quote name ++ ": " ++ prettyAt (level + 1) value ++
      prettyMembers (level + 1) members ++ lineStart level ++ "\x7d"
  | .array [] => "[]"
  | .object [] => "\x7b\x7d"
  | j => scalarText j

/-- Further items of an array, each on a line of its own. -/
def prettyItems (level : Nat) : List Json → String
  | [] => ""
  | item :: items => "," ++ lineStart level ++ prettyAt level item ++ prettyItems level items

/-- Further members of an object, each on a line of its own. -/
def prettyMembers (level : Nat) : List (String × Json) → String
  | [] => ""
  | (name, value) :: members =>
    "," ++ lineStart level ++ quote name ++ ": " ++ prettyAt level value ++
      prettyMembers level members

end

/-- A value over several lines. -/
def pretty (j : Json) : String := prettyAt 0 j

end TieredReport.Json
