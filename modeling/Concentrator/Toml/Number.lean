import Concentrator.Text.Scan

/-!
# TOML numbers and dates

Integers have 64 bits and may be written in four bases, with underscores
between digits. Of other numbers and of dates only the form is read.
-/

namespace Concentrator.Toml

open Text Scan

/-- Digits with single underscores between them. -/
def digitGroups (base : Nat) : Scan (List Char) := do
  let run ← run fun c => isDigit base c ∨ c = '_'
  let separated := run.head? ≠ some '_' ∧ run.getLast? ≠ some '_' ∧
    (run.zip run.tail).all (fun p => p ≠ ('_', '_'))
  guard (run ≠ [] ∧ separated)
  pure (run.filter (· ≠ '_'))

/-- A sign, which may be absent; true if it is negative. -/
def sign : Scan Bool :=
  (do char '-'; pure true) <|> (do char '+'; pure false) <|> pure false

/-- Decimal digits with a sign and no leading zero. -/
def decimalDigits : Scan (Bool × List Char) := do
  let negative ← sign
  let ds ← digitGroups 10
  guard (ds.length = 1 ∨ ds.head? ≠ some '0')
  pure (negative, ds)

def word (s : String) : Scan Unit := s.toList.forM char

/-- A whole number in another base, with its mark. -/
def marked (mark : String) (base : Nat) : Scan Int := do
  word mark
  let n := numeral base (← digitGroups base)
  guard (n < Nat.pow 2 63)
  pure n

def decimalInteger : Scan Int := do
  let (negative, ds) ← decimalDigits
  let n : Int := numeral 10 ds
  let value := if negative then -n else n
  guard (-(Nat.pow 2 63 : Int) ≤ value ∧ value < (Nat.pow 2 63 : Int))
  pure value

def integer : Scan Int :=
  marked "0x" 16 <|> marked "0o" 8 <|> marked "0b" 2 <|> decimalInteger

/-- Whether `digits · 10^e` rounds to more than the largest binary fraction of 64 bits. -/
def tooLarge (digits : List Char) (e : Int) : Bool :=
  let n := numeral 10 digits
  let places := (digits.dropWhile (· = '0')).length + e
  if n = 0 ∨ places < 300 then false
  else if 320 < places then true
  else
    let limit := Nat.pow 2 1024 - Nat.pow 2 970
    if e < 0 then limit * Nat.pow 10 e.natAbs ≤ n else limit ≤ n * Nat.pow 10 e.natAbs

def exponent : Scan Int := do
  char 'e' <|> char 'E'
  let negative ← sign
  let n : Int := numeral 10 (← digitGroups 10)
  pure (if negative then -n else n)

/-- A number with a fraction or an exponent. One too large to be told from infinity is refused
unless it is negative. -/
def fraction : Scan Unit := do
  let (negative, whole) ← decimalDigits
  let fractional : Scan (List Char × Int) := do
    char '.'
    let ds ← digitGroups 10
    pure (ds, (← exponent <|> pure 0) - ds.length)
  let (ds, e) ← (do pure ([], ← exponent)) <|> fractional
  guard (negative ∨ ¬ tooLarge (whole ++ ds) e)

def special : Scan Unit := do
  let _ ← sign
  word "inf" <|> word "nan"

/-- Exactly `count` digits, within bounds. -/
def field (count low high : Nat) : Scan Nat := do
  let ds := (← get).take count
  guard (ds.length = count ∧ ds.all (isDigit 10))
  let n := numeral 10 ds
  guard (low ≤ n ∧ n ≤ high)
  modify (List.drop count)
  pure n

def daysIn (year month : Nat) : Nat :=
  if month = 2 then
    if year % 4 = 0 ∧ (year % 100 ≠ 0 ∨ year % 400 = 0) then 29 else 28
  else if month = 4 ∨ month = 6 ∨ month = 9 ∨ month = 11 then 30
  else 31

def day : Scan Unit := do
  let year ← field 4 0 9999
  char '-'
  let month ← field 2 1 12
  char '-'
  let _ ← field 2 1 (daysIn year month)

/-- Hours, minutes and seconds; a leap second is possible. -/
def time : Scan Unit := do
  let _ ← field 2 0 23
  char ':'
  let _ ← field 2 0 59
  char ':'
  let _ ← field 2 0 60
  (do
    char '.'
    let ds ← run (isDigit 10)
    guard (ds ≠ [])) <|> pure ()

def zone : Scan Unit :=
  char 'Z' <|> char 'z' <|> do
    char '+' <|> char '-'
    let _ ← field 2 0 23
    char ':'
    let _ ← field 2 0 59

/-- A day, a time, or both with or without a zone. -/
def date : Scan Unit :=
  (do
    day
    (do
      char 'T' <|> char 't' <|> char ' '
      time
      zone <|> pure ()) <|> pure ()) <|> time

end Concentrator.Toml
