/-!
# Decimal and hexadecimal numerals

Numbers are written with the fewest digits and read with whatever limits the
reader states.
-/

namespace Concentrator.Text

/-- The digit character of a value below sixteen, in lower case. -/
def digitChar (d : Nat) : Char :=
  if d < 10 then Char.ofNat (48 + d) else Char.ofNat (87 + d)

/-- The value of a digit character in a base of at most sixteen. -/
def digitValue? (base : Nat) (c : Char) : Option Nat :=
  let value :=
    if '0' ≤ c ∧ c ≤ '9' then c.toNat - 48
    else if 'a' ≤ c ∧ c ≤ 'f' then c.toNat - 87
    else if 'A' ≤ c ∧ c ≤ 'F' then c.toNat - 55
    else base
  if value < base then some value else none

def isDigit (base : Nat) (c : Char) : Bool :=
  (digitValue? base c).isSome

/-- The decimal digits of a number, with no leading zero. -/
def digits (n : Nat) : List Char :=
  if n < 10 then [digitChar n] else digits (n / 10) ++ [digitChar (n % 10)]
termination_by n
decreasing_by omega

/-- The hexadecimal digits of a number, with no leading zero. -/
def hexDigits (n : Nat) : List Char :=
  if n < 16 then [digitChar n] else hexDigits (n / 16) ++ [digitChar (n % 16)]
termination_by n
decreasing_by omega

def decimal (n : Nat) : String :=
  String.ofList (digits n)

def hexadecimal (n : Nat) : String :=
  String.ofList (hexDigits n)

def signedDecimal : Int → String
  | .ofNat n => decimal n
  | .negSucc n => "-" ++ decimal (n + 1)

/-- Two hexadecimal digits for each octet. -/
def hexOctet (b : UInt8) : List Char :=
  [digitChar (b.toNat / 16), digitChar (b.toNat % 16)]

/-- The value of a run of digits, read as a numeral in `base`. -/
def numeral (base : Nat) (cs : List Char) : Nat :=
  cs.foldl (fun n c => n * base + (digitValue? base c).getD 0) 0

/-- A decimal numeral that fills the whole text. -/
def decimal? (s : String) : Option Nat :=
  let cs := s.toList
  if cs ≠ [] ∧ cs.all (isDigit 10) then some (numeral 10 cs) else none

end Concentrator.Text
