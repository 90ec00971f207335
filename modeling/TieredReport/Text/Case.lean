/-
# Upper and lower case of a text

Casing follows the full mappings of Unicode: one character may become several,
and a capital sigma at the end of a word has a lower case of its own. A sigma
ends a word when the nearest character before it that is not case-ignorable is
cased, and the nearest one after it is not.

Key definitions: `Text.upperChar`, `Text.upper`, `Text.lower`, `Text.capitalize`,
`Text.asciiLower`, `Text.asciiUpper`.
-/
import TieredReport.Text.CaseTable

namespace TieredReport.Text

/-- Whether a code point lies in one of the ranges. -/
def inRanges (ranges : List (Nat × Nat)) (c : Char) : Bool :=
  ranges.any fun r => r.1 ≤ c.toNat && c.toNat ≤ r.2

/-- The one-character image of a character, itself where no run has it. -/
def mapRuns (runs : List CaseRun) (c : Char) : Char :=
  match runs.findSome? (CaseRun.image? · c.toNat) with
  | some n => Char.ofNat n
  | none => c

/-- The upper case of a character. -/
def upperChar (c : Char) : List Char :=
  if c.toNat < 0x80 then [c.toUpper]
  else
    match upperSpecials.lookup c.toNat with
    | some image => image.map Char.ofNat
    | none => [mapRuns upperRuns c]

/-- The lower case of a character on its own. -/
def lowerChar (c : Char) : List Char :=
  if c.toNat < 0x80 then [c.toLower]
  else if c = 'İ' then ['i', '\u0307']
  else [mapRuns lowerRuns c]

/-- Whether the first character that is not case-ignorable is cased. -/
def startsCased : List Char → Bool
  | [] => false
  | c :: rest => if inRanges caseIgnorable c then startsCased rest else inRanges cased c

/-- The lower case of a text, given the characters before it, nearest first. -/
def lowerAfter : (before : List Char) → List Char → List Char
  | _, [] => []
  | before, c :: rest =>
    let image :=
      if c = 'Σ' then [if startsCased before && !startsCased rest then 'ς' else 'σ'] else lowerChar c
    image ++ lowerAfter (c :: before) rest

/-- The upper case of a text. -/
def upper (s : List Char) : List Char := s.flatMap upperChar

/-- The lower case of a text. -/
def lower (s : List Char) : List Char := lowerAfter [] s

/-- A text with its first character in upper case. -/
def capitalize : List Char → List Char
  | [] => []
  | c :: rest => upperChar c ++ rest

/-- The lower case of the letters A to Z, for tags that are ASCII by their standard. -/
def asciiLower (s : String) : String := s.map Char.toLower

/-- The upper case of the letters a to z, for codes that are ASCII by their standard. -/
def asciiUpper (s : String) : String := s.map Char.toUpper

end TieredReport.Text
