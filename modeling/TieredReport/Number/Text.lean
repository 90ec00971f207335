/-
# Texts of numbers

A number has three texts. The *plain* text never uses an exponent. The *value*
text, spliced into markup, writes a whole number below `10 ^ 15` without
fraction or sign of zero and is plain otherwise. The *JSON* text turns to an
exponent for very large and very small numbers and always shows a fraction or
an exponent.

Key definitions: `Number.intText`, `Number.plainText`, `Number.valueText`,
`Number.smallInteger?`, `Number.jsonText`.
-/
import TieredReport.Number.Digits
import TieredReport.Number.Magnitude
import TieredReport.Number.Shortest

namespace TieredReport.Number

/-- An integer in decimal. -/
def intText (n : Int) : List Char :=
  match n with
  | .ofNat n => digits n
  | .negSucc n => '-' :: digits (n + 1)

/-- The digits with a point after the first `point` of them, zeros filling either side; an empty
fraction is left out. -/
def positional (ds : List Char) (point : Int) : List Char :=
  match point with
  | .ofNat p =>
    if ds.length ≤ p then ds ++ List.replicate (p - ds.length) '0'
    else if p = 0 then '0' :: '.' :: ds
    else ds.take p ++ '.' :: ds.drop p
  | .negSucc p => '0' :: '.' :: (List.replicate (p + 1) '0' ++ ds)

/-- A number without its sign and without an exponent, in the fewest digits; of two equally near
texts the upper one. -/
def plainMagnitude : Magnitude → List Char
  | .notANumber => "NaN".toList
  | .infinite => "inf".toList
  | .finite m q =>
    if m = 0 then ['0']
    else
      let d := shortest .up m q
      let ds := digits d.coefficient
      positional ds (ds.length + d.exponent)

/-- Text with a minus sign in front where the sign bit is set; what is no number has no sign. -/
def withSignBit (x : Float) (text : List Char) : List Char :=
  if signBit x && magnitude x != .notANumber then '-' :: text else text

/-- A number in the fewest digits and never with an exponent. -/
def plainText (x : Float) : List Char := withSignBit x (plainMagnitude (magnitude x))

/-- A whole number whose magnitude is below `10 ^ 15`. -/
def smallInteger? (x : Float) : Option Int :=
  match integer? x with
  | some n => if n.natAbs < Nat.pow 10 15 then some n else none
  | none => none

/-- The text of a number in markup. -/
def valueText (x : Float) : List Char :=
  match smallInteger? x with
  | some n => intText n
  | none => plainText x

/-- JSON writes a number positionally while its first digit stands for `10 ^ -5` to `10 ^ 15`. -/
def positionalExponents (e : Int) : Bool := -5 ≤ e && e < 16

/-- A finite magnitude in JSON, in the fewest digits; of two equally near texts the even one. -/
def jsonMagnitude (m : Nat) (q : Int) : List Char :=
  if m = 0 then "0.0".toList
  else
    let d := shortest .toEven m q
    let ds := digits d.coefficient
    let point : Int := ds.length + d.exponent
    let e := point - 1
    if positionalExponents e then
      let text := positional ds point
      if text.contains '.' then text else text ++ ['.', '0']
    else
      let coefficient :=
        match ds with
        | first :: second :: more => first :: '.' :: second :: more
        | _ => ds
      coefficient ++ 'e' :: (if e < 0 then intText e else '+' :: intText e)

/-- A finite number in JSON. -/
def jsonText? (x : Float) : Option (List Char) :=
  match magnitude x with
  | .finite m q => some (withSignBit x (jsonMagnitude m q))
  | _ => none

end TieredReport.Number
