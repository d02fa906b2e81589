import Concentrator.Bytes

/-!
# Base64

Three octets are four characters of the standard alphabet. The last group is
padded with equals signs, and the bits that it has too many are zero, so every
octet string has exactly one encoding.
-/

namespace Concentrator.Text.Base64


def char (n : Nat) : Char :=
  if n < 26 then Char.ofNat (65 + n)
  else if n < 52 then Char.ofNat (71 + n)
  else if n < 62 then Char.ofNat (n - 4)
  else if n = 62 then '+'
  else '/'

def value? (c : Char) : Option Nat :=
  if 'A' ≤ c ∧ c ≤ 'Z' then some (c.toNat - 65)
  else if 'a' ≤ c ∧ c ≤ 'z' then some (c.toNat - 71)
  else if '0' ≤ c ∧ c ≤ '9' then some (c.toNat + 4)
  else if c = '+' then some 62
  else if c = '/' then some 63
  else none

def encode : Bytes → List Char
  | [] => []
  | [a] => [char (a.toNat / 4), char (a.toNat % 4 * 16), '=', '=']
  | [a, b] =>
    [char (a.toNat / 4), char (a.toNat % 4 * 16 + b.toNat / 16), char (b.toNat % 16 * 4), '=']
  | a :: b :: c :: rest =>
    char (a.toNat / 4) :: char (a.toNat % 4 * 16 + b.toNat / 16) ::
      char (b.toNat % 16 * 4 + c.toNat / 64) :: char (c.toNat % 64) :: encode rest

def group? (p q r s : Char) : Option Bytes := do
  let p ← value? p
  let q ← value? q
  let r ← value? r
  let s ← value? s
  return [UInt8.ofNat (p * 4 + q / 16), UInt8.ofNat (q % 16 * 16 + r / 4),
    UInt8.ofNat (r % 4 * 64 + s)]

/-- The octets of the last group, which may be padded. -/
def lastGroup? (p q r s : Char) : Option Bytes :=
  if s ≠ '=' then group? p q r s
  else do
    let p ← value? p
    let q ← value? q
    if r = '=' then
      guard (q % 16 = 0)
      return [UInt8.ofNat (p * 4 + q / 16)]
    else
      let r ← value? r
      guard (r % 4 = 0)
      return [UInt8.ofNat (p * 4 + q / 16), UInt8.ofNat (q % 16 * 16 + r / 4)]

def decode? : List Char → Option Bytes
  | [] => some []
  | [p, q, r, s] => lastGroup? p q r s
  | p :: q :: r :: s :: rest => do
    let octets ← group? p q r s
    return octets ++ (← decode? rest)
  | _ => none

end Concentrator.Text.Base64
