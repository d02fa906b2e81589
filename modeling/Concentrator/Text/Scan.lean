import Concentrator.Text.Decimal

/-!
# Scanning

A scan takes characters from the front of a text or fails. A scan that fails
leaves the text to its alternatives.
-/

namespace Concentrator.Text

abbrev Scan := StateT (List Char) Option

namespace Scan

/-- Exactly the character `c`. -/
def char (c : Char) : Scan Unit := fun
  | d :: rest => if d = c then some ((), rest) else none
  | [] => none

/-- The longest run of characters in a class. -/
def run (p : Char → Bool) : Scan (List Char) := fun cs =>
  some (cs.takeWhile p, cs.dropWhile p)

/-- What numerals a reader takes. -/
structure Numeral where
  base : Nat := 10
  maxDigits : Option Nat := none
  leadingZero : Bool := true
  /-- The first value that is too large. -/
  bound : Nat

/-- The longest run of digits, if it is a numeral of the wanted form. -/
def number (n : Numeral) : Scan Nat := do
  let ds ← run (isDigit n.base)
  let value := numeral n.base ds
  guard (ds ≠ [])
  guard (n.maxDigits.all (ds.length ≤ ·))
  guard (n.leadingZero ∨ ds.length = 1 ∨ ds.head? ≠ some '0')
  guard (value < n.bound)
  pure value

/-- The result of a scan that takes a whole text. -/
def all? {α : Type} (p : Scan α) (s : String) : Option α :=
  match p s.toList with
  | some (a, []) => some a
  | _ => none

end Scan

end Concentrator.Text
