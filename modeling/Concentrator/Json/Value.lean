import Concentrator.Json.Tree
import Concentrator.Text.Shortest

/-!
# JSON values

What a JSON text means. Integers of 64 bits are exact and all other numbers
are binary fractions; members are sorted by key, and of two with one key the
later holds. `render` writes a value without blanks.
-/

namespace Concentrator.Json

inductive Value where
  | null
  | bool (b : Bool)
  | natural (n : Nat)
  /-- The negative of a positive number. -/
  | negative (n : Nat)
  | float (f : Float)
  | text (s : String)
  | array (items : List Value)
  | object (members : List (String × Value))

/-! ### Numbers -/

/-- One more digit, unless it takes the significand past 64 bits. -/
def extend? (significand : Nat) (c : Char) : Option Nat :=
  let next := significand * 10 + (Text.digitValue? 10 c).getD 0
  if next < UInt64.size then some next else none

/-- The digits that a significand has room for, and how many were left over. -/
def gather (significand : Nat) : List Char → Nat × Nat
  | [] => (significand, 0)
  | c :: rest =>
    match extend? significand c with
    | some next => gather next rest
    | none => (significand, rest.length + 1)

/-- `f · 10^e`, one rounding for each factor of up to 308 decimal places; what grows past the
largest number is refused. -/
def scale? (f : Float) (e : Int) : Option Float :=
  if e.natAbs ≤ 308 then
    let power := Float.ofScientific 1 false e.natAbs
    if e < 0 then some (f / power)
    else
      let product := f * power
      if product.isInf then none else some product
  else if f == 0 then some f
  else if 0 ≤ e then none
  else scale? (f / Float.ofScientific 1 false 308) (e + 308)
termination_by (-e).toNat
decreasing_by omega

/-- The exponent that was written; one past 31 bits is as good as infinite. -/
def writtenExponent? (exponent : Option (Bool × List Char)) : Option Int :=
  match exponent with
  | none => some 0
  | some (negative, ds) =>
    let e := Text.numeral 10 ds
    if e < Nat.pow 2 31 then some (if negative then -(e : Int) else e) else none

/-- A number with a fraction, an exponent or too many digits. Digits that do not fit into 64 bits
only move the decimal point. -/
def Numeral.float? (n : Numeral) : Option Float :=
  let (whole, more) := gather 0 n.whole
  let (significand, dropped) := gather whole n.fraction
  let places := n.fraction.length - dropped
  let signed (f : Float) : Float := if n.negative then -f else f
  match writtenExponent? n.exponent with
  | some e =>
    (scale? (UInt64.ofNat significand).toFloat ((more : Int) - places + e)).map signed
  | none =>
    if significand ≠ 0 ∧ n.exponent.map Prod.fst = some false then none else some (signed 0)

def Numeral.value? (n : Numeral) : Option Value :=
  let magnitude := Text.numeral 10 n.whole
  if n.isInteger ∧ ¬ n.negative ∧ magnitude < UInt64.size then some (.natural magnitude)
  else if n.isInteger ∧ n.negative ∧ 0 < magnitude ∧ magnitude ≤ Nat.pow 2 63 then
    some (.negative magnitude)
  else n.float?.map .float

/-! ### Reading -/

namespace Value

/-- Sorted members with one more, which takes the place of one with the same key. -/
def place (key : String) (v : Value) : List (String × Value) → List (String × Value)
  | [] => [(key, v)]
  | (k, w) :: rest =>
    if key < k then (key, v) :: (k, w) :: rest
    else if key = k then (key, v) :: rest
    else (k, w) :: place key v rest

/-- The value of a tree whose containers are nested at most `depth` deep. -/
def ofTree? : Nat → Tree → Option Value
  | _, .null => some .null
  | _, .bool b => some (.bool b)
  | _, .number n => n.value?
  | _, .text pieces => (text? pieces).map .text
  | 0, .array _ => none
  | 0, .object _ => none
  | depth + 1, .array items => (items.mapM (ofTree? depth)).map .array
  | depth + 1, .object members => do
    let members ← members.mapM fun (key, tree) => do
      return (← text? key, ← ofTree? depth tree)
    return .object (members.foldl (fun sorted (key, v) => place key v sorted) [])

/-- Containers may be nested this deep in a text. -/
def maxDepth : Nat := 127

def parse? (s : String) : Option Value := do
  ofTree? maxDepth (← Tree.parse? s)

/-! ### Writing -/

def escape (c : Char) : List Char :=
  if c = '"' then ['\\', '"']
  else if c = '\\' then ['\\', '\\']
  else if c = '\x08' then ['\\', 'b']
  else if c = '\t' then ['\\', 't']
  else if c = '\n' then ['\\', 'n']
  else if c = '\x0c' then ['\\', 'f']
  else if c = '\r' then ['\\', 'r']
  else if c.toNat < 32 then
    ['\\', 'u', '0', '0', Text.digitChar (c.toNat / 16), Text.digitChar (c.toNat % 16)]
  else [c]

def quote (s : String) : String :=
  String.ofList ('"' :: s.toList.flatMap escape ++ ['"'])

/-- Digits with a point after the first `whole` of them. -/
def pointed (ds : List Char) (whole : Nat) : List Char :=
  ds.take whole ++ '.' :: ds.drop whole

/-- A decimal is written positionally if its point lies at most sixteen digits after the first
digit or four zeros before it; an exponent shows its sign. -/
def decimalText (x : Text.Scaled) : List Char :=
  let ds := Text.digits x.significand
  let point : Int := ds.length + x.exponent
  if 0 ≤ x.exponent ∧ point ≤ 16 then
    ds ++ List.replicate x.exponent.toNat '0' ++ ['.', '0']
  else if 0 < point ∧ point ≤ 16 then pointed ds point.toNat
  else if -5 < point ∧ point ≤ 0 then '0' :: '.' :: List.replicate point.natAbs '0' ++ ds
  else
    let mantissa := if ds.length = 1 then ds else pointed ds 1
    let sign := if 0 < point then '+' else '-'
    mantissa ++ 'e' :: sign :: Text.digits (point - 1).natAbs

def floatText (f : Float) : String :=
  let bits := f.toBits.toNat
  let sign := if Nat.pow 2 63 ≤ bits then ['-'] else []
  let (x, boundary) := Text.binary64 (bits % Nat.pow 2 63)
  String.ofList <| sign ++
    if x.significand = 0 then ['0', '.', '0']
    else decimalText (Text.Rounding.around x boundary).shortest

mutual

def render : Value → String
  | .null => "null"
  | .bool b => if b then "true" else "false"
  | .natural n => Text.decimal n
  | .negative n => "-" ++ Text.decimal n
  | .float f => floatText f
  | .text s => quote s
  | .array items => "[" ++ ",".intercalate (renderItems items) ++ "]"
  | .object members => "\x7b" ++ ",".intercalate (renderMembers members) ++ "\x7d"

def renderItems : List Value → List String
  | [] => []
  | v :: rest => render v :: renderItems rest

def renderMembers : List (String × Value) → List String
  | [] => []
  | (key, v) :: rest => (quote key ++ ":" ++ render v) :: renderMembers rest

end

end Value

end Concentrator.Json
