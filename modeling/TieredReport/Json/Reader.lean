/-
# Reading JSON

A text is read in two passes, each a fold. The first turns characters into
tokens; the second keeps the open arrays and objects on a stack. Of two members
of one name the later counts. `-0` and integers beyond 64 bits are binary64
numbers; a number too large for binary64 is refused, and so is nesting deeper
than the caller allows.

Key definitions: `Json.Token`, `Json.tokens?`, `Json.Builder`, `Json.read?`.
-/
import TieredReport.Json.Basic
import TieredReport.Number.Magnitude
import TieredReport.Number.Reader

namespace TieredReport.Json

/-- The smallest parts of a JSON text that mean something. -/
inductive Token where
  | openArray
  | closeArray
  | openObject
  | closeObject
  | colon
  | comma
  | scalar (j : Json)

/-! ### Numbers -/

/-- Digits without a leading zero. -/
def wholePart? (ds : List Char) : Option Nat :=
  match ds with
  | '0' :: _ :: _ => none
  | _ => Number.digits? ds

/-- A number without its sign: whole part, fraction, exponent. -/
def significand? (s : List Char) : Option Number.Scientific :=
  match Text.cut? '.' s with
  | none => (wholePart? s).map fun n => ⟨n, 0⟩
  | some (whole, fraction) => do
    let _ ← wholePart? whole
    let _ ← Number.digits? fraction
    let n ← Number.digits? (whole ++ fraction)
    return ⟨n, -(fraction.length : Int)⟩

/-- A number that has a fraction or an exponent. -/
def decimal? (s : List Char) : Option Number.Scientific :=
  match Text.cut? 'e' (s.map Char.toLower) with
  | none => significand? s
  | some (significand, exponent) => do
    let d ← significand? significand
    let e ← Number.signedDigits? exponent
    return { d with exponent := d.exponent + e }

/-- A binary64 number, unless it is too large for one. -/
def finite? (negative : Bool) (d : Number.Scientific) : Option Json :=
  let x := d.toFloat
  match Number.magnitude x with
  | .finite _ _ => some (.float (if negative then -x else x))
  | _ => none

/-- A number token. -/
def number? (s : List Char) : Option Json :=
  let (negative, body) : Bool × List Char :=
    match s with
    | '-' :: rest => (true, rest)
    | _ => (false, s)
  match wholePart? body with
  | some n =>
    if negative then
      if n = 0 ∨ -(n : Int) < Int64.minValue.toInt then finite? true ⟨n, 0⟩
      else some (.integer (-(n : Int)))
    else if n < UInt64.size then some (.integer n)
    else finite? false ⟨n, 0⟩
  | none => (decimal? body).bind (finite? negative)

/-- Whether a character can be part of a number. -/
def isNumberChar (c : Char) : Bool :=
  c.isDigit || c == '-' || c == '+' || c == '.' || c == 'e' || c == 'E'

/-- The word of a value. -/
def word? (s : List Char) : Option Json :=
  match String.ofList s with
  | "null" => some .null
  | "true" => some (.bool true)
  | "false" => some (.bool false)
  | _ => none

/-! ### Tokens -/

/-- Where the scan stands. Characters of the token at hand are held last first. -/
inductive Mode where
  | between
  | inNumber (seen : List Char)
  | inWord (seen : List Char)
  | inString (seen : List Char)
  | escaped (seen : List Char)
  | inCode (seen : List Char) (high : Option Nat) (code digits : Nat)
  | afterHigh (seen : List Char) (high : Nat)
  | beforeLow (seen : List Char) (high : Nat)

/-- The scan so far: tokens last first. -/
structure Scan where
  tokens : List Token
  mode : Mode

/-- The value of a hexadecimal digit. -/
def hexValue? (c : Char) : Option Nat :=
  if c.isDigit then some (c.toNat - 48)
  else if 'a' ≤ c ∧ c ≤ 'f' then some (c.toNat - 87)
  else if 'A' ≤ c ∧ c ≤ 'F' then some (c.toNat - 55)
  else none

/-- A character that starts a token. -/
def startToken? (tokens : List Token) (c : Char) : Option Scan :=
  if c = ' ' ∨ c = '\n' ∨ c = '\t' ∨ c = '\r' then some ⟨tokens, .between⟩
  else if c = '[' then some ⟨.openArray :: tokens, .between⟩
  else if c = ']' then some ⟨.closeArray :: tokens, .between⟩
  else if c = '{' then some ⟨.openObject :: tokens, .between⟩
  else if c = '}' then some ⟨.closeObject :: tokens, .between⟩
  else if c = ':' then some ⟨.colon :: tokens, .between⟩
  else if c = ',' then some ⟨.comma :: tokens, .between⟩
  else if c = '"' then some ⟨tokens, .inString []⟩
  else if c = '-' ∨ c.isDigit then some ⟨tokens, .inNumber [c]⟩
  else if c.isAlpha then some ⟨tokens, .inWord [c]⟩
  else none

/-- The character of a one-letter escape. -/
def escape? (c : Char) : Option Char :=
  match c with
  | '"' => some '"'
  | '\\' => some '\\'
  | '/' => some '/'
  | 'b' => some '\x08'
  | 'f' => some '\x0c'
  | 'n' => some '\n'
  | 'r' => some '\r'
  | 't' => some '\t'
  | _ => none

/-- The end of a four-digit code: a character, or the first half of a pair. A half without the
other is refused. -/
def endCode? (seen : List Char) (high : Option Nat) (code : Nat) : Option Mode :=
  match high with
  | some h =>
    if 0xDC00 ≤ code ∧ code < 0xE000 then
      some (.inString (Char.ofNat (0x10000 + (h - 0xD800) * 0x400 + (code - 0xDC00)) :: seen))
    else none
  | none =>
    if 0xD800 ≤ code ∧ code < 0xDC00 then some (.afterHigh seen code)
    else if 0xDC00 ≤ code ∧ code < 0xE000 then none
    else some (.inString (Char.ofNat code :: seen))

/-- One character of the scan. -/
def Scan.step? (st : Scan) (c : Char) : Option Scan :=
  match st.mode with
  | .between => startToken? st.tokens c
  | .inNumber seen =>
    if isNumberChar c then some ⟨st.tokens, .inNumber (c :: seen)⟩
    else do
      let j ← number? seen.reverse
      startToken? (.scalar j :: st.tokens) c
  | .inWord seen =>
    if c.isAlpha then some ⟨st.tokens, .inWord (c :: seen)⟩
    else do
      let j ← word? seen.reverse
      startToken? (.scalar j :: st.tokens) c
  | .inString seen =>
    if c = '"' then some ⟨.scalar (.text (String.ofList seen.reverse)) :: st.tokens, .between⟩
    else if c = '\\' then some ⟨st.tokens, .escaped seen⟩
    else if c.toNat < 0x20 then none
    else some ⟨st.tokens, .inString (c :: seen)⟩
  | .escaped seen =>
    if c = 'u' then some ⟨st.tokens, .inCode seen none 0 0⟩
    else (escape? c).map fun e => ⟨st.tokens, .inString (e :: seen)⟩
  | .inCode seen high code count => do
    let d ← hexValue? c
    let code := 16 * code + d
    if count = 3 then (endCode? seen high code).map fun mode => ⟨st.tokens, mode⟩
    else some ⟨st.tokens, .inCode seen high code (count + 1)⟩
  | .afterHigh seen high => if c = '\\' then some ⟨st.tokens, .beforeLow seen high⟩ else none
  | .beforeLow seen high => if c = 'u' then some ⟨st.tokens, .inCode seen (some high) 0 0⟩ else none

/-- The tokens of a text. -/
def tokens? (s : List Char) : Option (List Token) := do
  -- a blank after the last character ends a number or word there
  let st ← (s ++ [' ']).foldlM Scan.step? ⟨[], .between⟩
  match st.mode with
  | .between => some st.tokens.reverse
  | _ => none

/-! ### Values -/

/-- An array or object that is still open. Items are held last first. -/
inductive Open where
  | array (items : List Json)
  | object (members : Fields Json) (name : String)

/-- What may come next. -/
inductive Expected where
  | value
  | valueOrClose
  | name
  | nameOrClose
  | colon
  | commaOrClose
  | nothing

/-- The values built so far: the open arrays and objects, innermost first, and the finished
value once none is open. -/
structure Builder where
  stack : List Open
  result : Json
  expected : Expected

/-- A finished value goes into the innermost open array or object. -/
def Builder.finish (b : Builder) (stack : List Open) (j : Json) : Builder :=
  match stack with
  | [] => { b with stack := [], result := j, expected := .nothing }
  | .array items :: outer => { b with stack := .array (j :: items) :: outer, expected := .commaOrClose }
  | .object members name :: outer =>
    { b with stack := .object (Fields.insert members name j) name :: outer, expected := .commaOrClose }

/-- Close the innermost array or object, if the token fits it. -/
def Builder.close? (b : Builder) (t : Token) : Option Builder :=
  match t, b.stack with
  | .closeArray, .array items :: outer => some (b.finish outer (.array items.reverse))
  | .closeObject, .object members _ :: outer => some (b.finish outer (.object members))
  | _, _ => none

/-- A token where a value has to start; at most `depth` arrays and objects may be open. -/
def Builder.value? (depth : Nat) (b : Builder) (t : Token) : Option Builder :=
  match t with
  | .scalar j => some (b.finish b.stack j)
  | .openArray =>
    if b.stack.length < depth then
      some { b with stack := .array [] :: b.stack, expected := .valueOrClose }
    else none
  | .openObject =>
    if b.stack.length < depth then
      some { b with stack := .object [] "" :: b.stack, expected := .nameOrClose }
    else none
  | _ => none

/-- A token where a member has to start. -/
def Builder.name? (b : Builder) (t : Token) : Option Builder :=
  match t, b.stack with
  | .scalar (.text s), .object members _ :: outer =>
    some { b with stack := .object members s :: outer, expected := .colon }
  | _, _ => none

/-- One token. -/
def Builder.step? (depth : Nat) (b : Builder) (t : Token) : Option Builder :=
  match b.expected with
  | .value => b.value? depth t
  | .valueOrClose => (b.value? depth t).orElse fun _ => b.close? t
  | .name => b.name? t
  | .nameOrClose => (b.name? t).orElse fun _ => b.close? t
  | .colon =>
    match t with
    | .colon => some { b with expected := .value }
    | _ => none
  | .commaOrClose =>
    match t, b.stack with
    | .comma, .array _ :: _ => some { b with expected := .value }
    | .comma, .object _ _ :: _ => some { b with expected := .name }
    | _, _ => b.close? t
  | .nothing => none

/-- The nesting that a document or definition file may have. -/
def fileDepth : Nat := 127

/-- The value that a text stands for, with at most `depth` arrays and objects open at a time. -/
def read? (depth : Nat) (s : String) : Option Json := do
  let tokens ← tokens? s.toList
  let b ← tokens.foldlM (Builder.step? depth) ⟨[], .null, .value⟩
  match b.expected with
  | .nothing => some b.result
  | _ => none

end TieredReport.Json
