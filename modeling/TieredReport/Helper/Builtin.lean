/-
# The built-in helpers

Eighteen helpers format dates and amounts, compare, calculate and change texts.
A number argument may be a number, a boolean or a text that reads as a number;
a text argument that is no text counts as absent.

Key definitions: `Builtin`, `Builtin.name`, `Builtin.call`, `Builtin.ordering?`,
`Builtin.looseEq`.
-/
import TieredReport.Amount
import TieredReport.Calendar.Pattern
import TieredReport.Calendar.Reader
import TieredReport.Helper.Basic

namespace TieredReport

/-- The helpers that every registry starts with. -/
inductive Builtin where
  | formatDate
  | formatCurrency
  | formatPercentage
  | formatNumber
  | eq
  | ne
  | gt
  | gte
  | lt
  | lte
  | add
  | subtract
  | multiply
  | divide
  | uppercase
  | lowercase
  | capitalize
  | truncate
  deriving DecidableEq

namespace Builtin

/-- All of them, in the order in which they are listed. -/
def all : List Builtin :=
  [formatDate, formatCurrency, formatPercentage, formatNumber, eq, ne, gt, gte, lt, lte, add,
    subtract, multiply, divide, uppercase, lowercase, capitalize, truncate]

/-- The name under which markup calls a helper. -/
def name : Builtin → String
  | formatDate => "formatDate"
  | formatCurrency => "formatCurrency"
  | formatPercentage => "formatPercentage"
  | formatNumber => "formatNumber"
  | eq => "eq"
  | ne => "ne"
  | gt => "gt"
  | gte => "gte"
  | lt => "lt"
  | lte => "lte"
  | add => "add"
  | subtract => "subtract"
  | multiply => "multiply"
  | divide => "divide"
  | uppercase => "uppercase"
  | lowercase => "lowercase"
  | capitalize => "capitalize"
  | truncate => "truncate"

/-! ### Arguments -/

/-- The argument at an index as a number. -/
def numberArg (b : Builtin) (args : List Value) (index : Nat) : Except HelperError Float :=
  match args[index]? with
  | none => .error (.arity b.name (index + 1) args.length)
  | some v =>
    match v.number? with
    | some x => .ok x
    | none => .error (.notANumber b.name v.render)

/-- The argument at an index as a count: its whole part, at least zero. An absent argument or null
means the default. -/
def countArg (b : Builtin) (args : List Value) (index default : Nat) : Except HelperError Nat :=
  match args[index]? with
  | none | some .null => .ok default
  | some _ => (b.numberArg args index).map (Number.truncToNat Number.maxNat64)

/-- The argument at an index, if it is a text. -/
def textArg? (args : List Value) (index : Nat) : Option String := args[index]?.bind Value.text?

/-- The text form of the first argument. -/
def firstText (args : List Value) : List Char :=
  match args with
  | [] => []
  | v :: _ => v.render.toList

/-- A value made of these characters. -/
def ofChars (s : List Char) : Value := .text (String.ofList s)

/-! ### Comparison -/

/-- The order of two binary64 numbers; there is none where one of them is no number. -/
def numberOrdering? (x y : Float) : Option Ordering :=
  if x < y then some .lt else if y < x then some .gt else if x == y then some .eq else none

/-- The order of two texts by code point. -/
def textOrdering (s t : String) : Ordering :=
  if s < t then .lt else if s = t then .eq else .gt

/-- The order of two values: of two texts by code point, of other values as numbers. -/
def ordering? (a b : Value) : Option Ordering :=
  match a, b with
  | .text s, .text t => some (textOrdering s t)
  | a, b =>
    match a.number?, b.number? with
    | some x, some y => numberOrdering? x y
    | _, _ => none

/-- Equality under which `5` and `"5"` are equal. -/
def looseEq (a b : Value) : Bool :=
  match a, b with
  | .number x, .text s | .text s, .number x =>
    match Value.textNumber? s with
    | some y => y == x
    | none => false
  | a, b => a.eq b

/-- Compare the first two arguments; values without an order are never accepted. -/
def compareArgs (b : Builtin) (args : List Value) (accept : Ordering → Bool) :
    Except HelperError Value :=
  match args with
  | x :: y :: _ => .ok (.bool ((ordering? x y).any accept))
  | _ => .error (.arity b.name 2 args.length)

/-- Whether the first two arguments are equal. -/
def equalArgs (b : Builtin) (args : List Value) (accept : Bool → Bool) : Except HelperError Value :=
  match args with
  | x :: y :: _ => .ok (.bool (accept (looseEq x y)))
  | _ => .error (.arity b.name 2 args.length)

/-- Calculate with the first two arguments. -/
def arithmetic (b : Builtin) (args : List Value) (op : Float → Float → Float) :
    Except HelperError Value := do
  let x ← b.numberArg args 0
  let y ← b.numberArg args 1
  return .number (op x y)

/-- Division under which a quotient by zero is zero. -/
def quotient (x y : Float) : Float := if y == 0 then 0 else x / y

/-! ### Calls -/

/-- The locale named by an argument, or the default one. -/
def localeArg (defaults : FormatDefaults) (args : List Value) (index : Nat) : Locale :=
  Locale.ofTag ((textArg? args index).getD defaults.locale)

/-- A date in the form of a pattern; null is empty. -/
def dateCall (defaults : FormatDefaults) (args : List Value) : Except HelperError Value :=
  match args with
  | [] => .error (.arity formatDate.name 1 0)
  | .null :: _ => .ok (.text "")
  | v :: _ =>
    match Calendar.dateOfValue? v with
    | none => .error (.custom formatDate.name s!"invalid date '{v.render}'")
    | some date =>
      let locale := localeArg defaults args 2
      let pattern := (textArg? args 1).getD locale.datePattern
      .ok (ofChars (Calendar.formatDate date pattern.toList locale))

/-- Whether there is no first argument but null. -/
def noAmount : List Value → Bool
  | [] | .null :: _ => true
  | _ => false

/-- An amount in the form that `text` gives it; no amount is empty. -/
def amountCall (args : List Value) (text : Except HelperError (List Char)) :
    Except HelperError Value :=
  if noAmount args then .ok (.text "") else text.map ofChars

/-- An amount of a currency. -/
def currencyCall (defaults : FormatDefaults) (args : List Value) : Except HelperError Value :=
  amountCall args do
    let amount ← formatCurrency.numberArg args 0
    let code := (textArg? args 1).getD defaults.currency
    let places ← formatCurrency.countArg args 3 (Amount.currencyPlaces code)
    return Amount.currency (localeArg defaults args 2) code places amount

/-- A fraction of one in percent. -/
def percentageCall (defaults : FormatDefaults) (args : List Value) : Except HelperError Value :=
  amountCall args do
    let ratio ← formatPercentage.numberArg args 0
    let places ← formatPercentage.countArg args 1 1
    return Amount.percentage (localeArg defaults args 2) places ratio

/-- A number in a locale. -/
def numberCall (defaults : FormatDefaults) (args : List Value) : Except HelperError Value :=
  amountCall args do
    let x ← formatNumber.numberArg args 0
    let places ← formatNumber.countArg args 1 0
    return Amount.number (localeArg defaults args 2) places x

/-- At most so many characters of a text, and a suffix where some are left out. -/
def truncateCall (args : List Value) : Except HelperError Value := do
  let text := firstText args
  let limit ← truncate.countArg args 1 100
  if text.length ≤ limit then return ofChars text
  else return ofChars (text.take limit ++ ((textArg? args 2).getD "...").toList)

/-- Call a built-in helper. -/
def call (defaults : FormatDefaults) (b : Builtin) (args : List Value) :
    Except HelperError Value :=
  match b with
  | formatDate => dateCall defaults args
  | formatCurrency => currencyCall defaults args
  | formatPercentage => percentageCall defaults args
  | formatNumber => numberCall defaults args
  | eq => b.equalArgs args id
  | ne => b.equalArgs args not
  | gt => b.compareArgs args fun o => o == .gt
  | gte => b.compareArgs args fun o => o != .lt
  | lt => b.compareArgs args fun o => o == .lt
  | lte => b.compareArgs args fun o => o != .gt
  | add => b.arithmetic args (· + ·)
  | subtract => b.arithmetic args (· - ·)
  | multiply => b.arithmetic args (· * ·)
  | divide => b.arithmetic args quotient
  | uppercase => .ok (ofChars (Text.upper (firstText args)))
  | lowercase => .ok (ofChars (Text.lower (firstText args)))
  | capitalize => .ok (ofChars (Text.capitalize (firstText args)))
  | truncate => truncateCall args

end Builtin

end TieredReport
