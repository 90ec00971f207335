/-
# Locales: separators, month names and conventions

Six locales are known. A tag picks one by its language; only British English
has an entry of its own beside its language, and unknown languages are written
as American English.

Key definitions: `Locale`, `Locale.all`, `Locale.ofTag`.
-/
import TieredReport.Text.Case
import TieredReport.Text.Split

namespace TieredReport

/-- The conventions of one locale. -/
structure Locale where
  tag : String
  groupSeparator : Char
  decimalSeparator : Char
  /-- The currency symbol follows the amount. -/
  symbolAfter : Bool
  /-- A space stands between a number and the percent sign. -/
  percentSpace : Bool
  monthNames : List String
  /-- The pattern of a date that is given none. -/
  datePattern : String

namespace Locale

/-- The English names of the months. -/
def englishMonths : List String :=
  ["January", "February", "March", "April", "May", "June", "July", "August", "September",
    "October", "November", "December"]

/-- American English. -/
def enUS : Locale where
  tag := "en-US"
  groupSeparator := ','
  decimalSeparator := '.'
  symbolAfter := false
  percentSpace := false
  monthNames := englishMonths
  datePattern := "MMMM D, YYYY"

/-- British English. -/
def enGB : Locale := { enUS with tag := "en-GB", datePattern := "D MMMM YYYY" }

/-- German. -/
def deDE : Locale where
  tag := "de-DE"
  groupSeparator := '.'
  decimalSeparator := ','
  symbolAfter := true
  percentSpace := true
  monthNames :=
    ["Januar", "Februar", "März", "April", "Mai", "Juni", "Juli", "August", "September",
      "Oktober", "November", "Dezember"]
  datePattern := "D. MMMM YYYY"

/-- French; groups are divided by a narrow no-break space. -/
def frFR : Locale where
  tag := "fr-FR"
  groupSeparator := '\u202f'
  decimalSeparator := ','
  symbolAfter := true
  percentSpace := true
  monthNames :=
    ["janvier", "février", "mars", "avril", "mai", "juin", "juillet", "août", "septembre",
      "octobre", "novembre", "décembre"]
  datePattern := "D MMMM YYYY"

/-- Spanish. -/
def esES : Locale where
  tag := "es-ES"
  groupSeparator := '.'
  decimalSeparator := ','
  symbolAfter := true
  percentSpace := true
  monthNames :=
    ["enero", "febrero", "marzo", "abril", "mayo", "junio", "julio", "agosto", "septiembre",
      "octubre", "noviembre", "diciembre"]
  datePattern := "D de MMMM de YYYY"

/-- Japanese. -/
def jaJP : Locale where
  tag := "ja-JP"
  groupSeparator := ','
  decimalSeparator := '.'
  symbolAfter := false
  percentSpace := false
  monthNames :=
    ["1月", "2月", "3月", "4月", "5月", "6月", "7月", "8月", "9月", "10月", "11月", "12月"]
  datePattern := "YYYY年M月D日"

/-- The locales that a tag can pick. -/
def all : List Locale := [enUS, enGB, deDE, frFR, esES, jaJP]

/-- The part of a tag before the first hyphen or underscore. -/
def language (tag : String) : String :=
  String.ofList (tag.toList.takeWhile fun c => c != '-' && c != '_')

/-- The locale of a language, given in lower case. -/
def ofLanguage : String → Locale
  | "de" => deDE
  | "fr" => frFR
  | "es" => esES
  | "ja" => jaJP
  | _ => enUS

/-- The locale that a tag picks. -/
def ofTag (tag : String) : Locale :=
  let tag := Text.asciiLower tag
  if tag = "en-gb" then enGB else ofLanguage (language tag)

/-- Every tag picks one of the known locales. -/
theorem ofTag_mem_all (tag : String) : ofTag tag ∈ all := by
  unfold ofTag
  simp only
  split
  · simp [all]
  · unfold ofLanguage
    split <;> simp [all]

end Locale

end TieredReport
