/-
# Amounts: numbers, currencies and percentages in a locale

An amount has a sign, a magnitude with grouped digits, and perhaps a symbol.
The sign is shown only where the magnitude shows a digit other than zero, so
what is rounded away to zero is never negative; it follows that an amount
without digits, such as an infinite one, shows no sign either.

Key definitions: `Amount.grouped`, `Amount.magnitudeText`, `Amount.signText`,
`Amount.number`, `Amount.currency`, `Amount.percentage`.
-/
import TieredReport.Locale
import TieredReport.Number.Fixed

namespace TieredReport.Amount

/-- The most fraction digits that an amount shows. -/
def maxPlaces : Nat := 20

/-- A separator before every third character from the end, the first character aside. -/
def grouped (separator : Char) : List Char → List Char
  | [] => []
  | c :: rest =>
    if rest.length % 3 = 0 ∧ rest ≠ [] then c :: separator :: grouped separator rest
    else c :: grouped separator rest

/-- The magnitude of an amount: grouped whole part and fraction. -/
def magnitudeText (locale : Locale) (places : Nat) (x : Float) : List Char :=
  match Number.fixedParts (min places maxPlaces) (Number.magnitude x) with
  | (whole, []) => grouped locale.groupSeparator whole
  | (whole, fraction) =>
    grouped locale.groupSeparator whole ++ locale.decimalSeparator :: fraction

/-- Whether a digit other than zero is shown. -/
def showsNonzero (text : List Char) : Bool := text.any fun c => c.isDigit && c != '0'

/-- The sign of an amount whose magnitude reads `text`. -/
def signText (x : Float) (text : List Char) : List Char :=
  if x < 0 && showsNonzero text then ['-'] else []

/-- A number in a locale, `1,234.50`. -/
def number (locale : Locale) (places : Nat) (x : Float) : List Char :=
  let text := magnitudeText locale places x
  signText x text ++ text

/-- The no-break space. -/
def noBreakSpace : Char := '\u00a0'

/-- The symbol of a currency; a code without one stands for itself in capitals. -/
def currencySymbol (code : String) : String :=
  match Text.asciiUpper code with
  | "USD" => "$"
  | "EUR" => "€"
  | "GBP" => "£"
  | "JPY" | "CNY" => "¥"
  | "INR" => "₹"
  | other => other

/-- The fraction digits of a currency that is given no precision. -/
def currencyPlaces (code : String) : Nat :=
  match Text.asciiUpper code with
  | "JPY" | "KRW" => 0
  | _ => 2

/-- An amount of a currency. A symbol of several letters is set apart by a no-break space. -/
def currency (locale : Locale) (code : String) (places : Nat) (x : Float) : List Char :=
  let text := magnitudeText locale places x
  let symbol := (currencySymbol code).toList
  signText x text ++
    if locale.symbolAfter then text ++ noBreakSpace :: symbol
    else if 1 < symbol.length then symbol ++ noBreakSpace :: text
    else symbol ++ text

/-- A fraction of one in percent, `12.5%`. -/
def percentage (locale : Locale) (places : Nat) (x : Float) : List Char :=
  number locale places (x * 100) ++
    if locale.percentSpace then [noBreakSpace, '%'] else ['%']

end TieredReport.Amount
