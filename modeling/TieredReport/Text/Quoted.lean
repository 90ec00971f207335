/-
# Quoted text in messages

A message shows a text between double quotes. A quote or backslash in it is
escaped, the common control characters have a letter each, and a character
without a visible form of its own is shown by its number, `\u{301}`.

Key definitions: `Text.quoteChar`, `Text.quoted`.
-/
import TieredReport.Text.Case
import TieredReport.Text.HiddenTable

namespace TieredReport.Text

/-- A character as it stands inside a quoted text. -/
def quoteChar (c : Char) : List Char :=
  if c = '"' then ['\\', '"']
  else if c = '\\' then ['\\', '\\']
  else if c = '\n' then ['\\', 'n']
  else if c = '\r' then ['\\', 'r']
  else if c = '\t' then ['\\', 't']
  else if c.toNat = 0 then ['\\', '0']
  else if inRanges hidden c then ['\\', 'u', '{'] ++ Nat.toDigits 16 c.toNat ++ ['}']
  else [c]

/-- A text between double quotes. -/
def quoted (s : String) : String := String.ofList ('"' :: s.toList.flatMap quoteChar ++ ['"'])

end TieredReport.Text
