import Concentrator.Address.Ipv4

/-!
# IPv4 networks

A network keeps the address it was written with; the bits below the prefix
matter only to `network` and `broadcast`.
-/

namespace Concentrator

structure Network where
  address : Ipv4
  prefixLength : Nat
  prefixLength_le : prefixLength ≤ 32 := by omega
deriving DecidableEq

namespace Network

def size (n : Network) : Nat := Nat.pow 2 (32 - n.prefixLength)

def network (n : Network) : Ipv4 :=
  .ofNat (n.address.toNat / n.size * n.size)

def broadcast (n : Network) : Ipv4 :=
  .ofNat (n.address.toNat / n.size * n.size + (n.size - 1))

def netmask (n : Network) : Ipv4 :=
  .ofNat (UInt32.size - n.size)

def text (n : Network) : String :=
  n.address.text ++ "/" ++ Text.decimal n.prefixLength

open Text Scan in
/-- An address, a slash and a prefix length of at most two digits' worth; zeros may lead. -/
def scan : Scan Network := do
  let address ← Ipv4.scan true
  char '/'
  let length ← number { maxDigits := some 3, bound := 33 }
  if h : length ≤ 32 then pure ⟨address, length, h⟩ else failure

def ofText? (s : String) : Option Network :=
  scan.all? s

end Network

end Concentrator
