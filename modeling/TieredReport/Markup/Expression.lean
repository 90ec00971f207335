/-
# Expressions

The body of a tag is split into words at blanks; a double quote opens a stretch
in which blanks do not count, and there a backslash keeps the next character
from closing it. The first word is the head, which may name a helper; the
others are arguments. A body of one word may be a literal.

Key definitions: `Markup.Arg`, `Markup.Expression`, `Markup.words`, `Markup.literal?`,
`Markup.Expression.parse`, `Markup.Expression.parseCondition`.
-/
import TieredReport.Context

namespace TieredReport.Markup

/-- An argument: a literal, or a path to be resolved where the call stands. -/
inductive Arg where
  | literal (v : Value)
  | path (p : String)

/-- The value of an argument; a path that leads nowhere gives null. -/
def Arg.resolve (ctx : Context) : Arg → Value
  | .literal v => v
  | .path p => ctx.resolveOrNull p

/-- The body of a tag, split for evaluation. Whether the head names a helper is decided when the
expression is evaluated. -/
structure Expression where
  /-- The whole body, taken as a path where no helper answers. -/
  source : String
  head : String
  args : List Arg
  /-- The value of a body that is one literal. -/
  literal : Option Value

/-! ### Words -/

/-- Whether the scan is inside quotes, and there behind a backslash. -/
inductive Quoting where
  | bare
  | quoted
  | escaped
  deriving DecidableEq

/-- How a character of a word changes the quoting. -/
def Quoting.next : Quoting → Char → Quoting
  | .bare, c => if c = '"' then .quoted else .bare
  | .quoted, c => if c = '\\' then .escaped else if c = '"' then .bare else .quoted
  | .escaped, _ => .quoted

/-- A word that is finished, unless it is empty, before the words that follow. -/
def wordThen (word : List Char) (rest : List (List Char)) : List (List Char) :=
  if word.isEmpty then rest else word :: rest

/-- The words of a text, the first of which continues `word`. -/
def wordsFrom : Quoting → (word : List Char) → List Char → List (List Char)
  | _, word, [] => wordThen word []
  | q, word, c :: rest =>
    if q = .bare ∧ Text.isBlank c = true then wordThen word (wordsFrom .bare [] rest)
    else wordsFrom (q.next c) (word ++ [c]) rest

/-- The words of a text. -/
def words (s : List Char) : List (List Char) := wordsFrom .bare [] s

/-! ### Literals -/

/-- A text in which each quote behind a backslash stands alone. -/
def unescapeQuotes : List Char → List Char
  | [] => []
  | '\\' :: '"' :: rest => '"' :: unescapeQuotes rest
  | c :: rest => c :: unescapeQuotes rest

/-- The text between quotes. -/
def quotedText? : List Char → Option (List Char)
  | '"' :: rest => if rest.getLast? = some '"' then some (unescapeQuotes rest.dropLast) else none
  | _ => none

/-- Whether a word is a number literal: digits, with a sign and a fraction if need be. -/
def isNumberLiteral (word : List Char) : Bool :=
  let body :=
    match word with
    | '-' :: rest => rest
    | _ => word
  match Text.cut? '.' body with
  | none => (Number.digits? body).isSome
  | some (whole, fraction) => (Number.digits? whole).isSome && (Number.digits? fraction).isSome

/-- The literal that a word is: a quoted text, a number or a boolean. -/
def literal? (word : List Char) : Option Value :=
  match quotedText? word with
  | some s => some (.text (String.ofList s))
  | none =>
    if isNumberLiteral word then (Number.parse? word).map .number
    else if word = "true".toList then some (.bool true)
    else if word = "false".toList then some (.bool false)
    else none

/-- The argument that a word is. -/
def Arg.parse (word : List Char) : Arg :=
  match literal? word with
  | some v => .literal v
  | none => .path (String.ofList word)

/-! ### Expressions -/

/-- The expression in a text. -/
def Expression.parse (s : List Char) : Expression :=
  let body := Text.trim s
  let ws := words body
  { source := String.ofList body
    head := String.ofList (ws.headD [])
    args := (ws.drop 1).map Arg.parse
    literal :=
      match ws with
      | [only] => literal? only
      | _ => none }

/-- What is between double braces, or the whole text where there are none around it. -/
def withoutBraces (s : List Char) : List Char :=
  ((Text.afterStart? ['{', '{'] s).bind (Text.beforeEnd? ['}', '}'])).getD s

/-- The expression in a condition that stands on its own, with or without braces. -/
def Expression.parseCondition (s : String) : Expression :=
  .parse (withoutBraces (Text.trim s.toList))

end TieredReport.Markup
