import Concentrator.Bytes
import Concentrator.Text.Scan

/-!
# IPv4 addresses
-/

namespace Concentrator

structure Ipv4 where
  bits : UInt32
deriving DecidableEq, Inhabited

namespace Ipv4

def toNat (a : Ipv4) : Nat := a.bits.toNat

def ofNat (n : Nat) : Ipv4 := ⟨UInt32.ofNat n⟩

def ofOctets (a b c d : UInt8) : Ipv4 :=
  ⟨Bytes.doubleWord (Bytes.word a b) (Bytes.word c d)⟩

/-- The four octets, the most significant first. -/
def octets (a : Ipv4) : Bytes :=
  Bytes.ofWord (Bytes.highHalf a.bits) ++ Bytes.ofWord (Bytes.lowHalf a.bits)

def text (a : Ipv4) : String :=
  ".".intercalate (a.octets.map fun o => Text.decimal o.toNat)

open Text Scan in
/-- Four octets; leading zeros are allowed only if `padded`. -/
def scan (padded : Bool) : Scan Ipv4 := do
  let octet := number { maxDigits := some 3, leadingZero := padded, bound := 256 }
  let a ← octet
  char '.'
  let b ← octet
  char '.'
  let c ← octet
  char '.'
  let d ← octet
  pure (ofNat (((a * 256 + b) * 256 + c) * 256 + d))

/-- A dotted quad without leading zeros. -/
def ofText? (s : String) : Option Ipv4 :=
  (scan false).all? s

end Ipv4

end Concentrator
