import Concentrator.Address.Ipv4
import Concentrator.Address.Ipv6

/-!
# Socket addresses
-/

namespace Concentrator

inductive SocketAddress where
  | v4 (address : Ipv4) (port : UInt16)
  | v6 (address : Ipv6) (scope : Nat) (port : UInt16)
deriving DecidableEq

namespace SocketAddress

def text : SocketAddress → String
  | .v4 address port => address.text ++ ":" ++ Text.decimal port.toNat
  | .v6 address scope port =>
    let zone := if scope = 0 then "" else "%" ++ Text.decimal scope
    "[" ++ address.text ++ zone ++ "]:" ++ Text.decimal port.toNat

open Text Scan

def scanPort : Scan UInt16 := do
  char ':'
  return UInt16.ofNat (← number { bound := 65536 })

def scanV4 : Scan SocketAddress := do
  let address ← Ipv4.scan false
  return .v4 address (← scanPort)

def scanZone : Scan Nat := do
  char '%'
  number { bound := UInt32.size }

def scanV6 : Scan SocketAddress := do
  char '['
  let address ← Ipv6.scan
  let scope ← scanZone <|> pure 0
  char ']'
  return .v6 address scope (← scanPort)

def ofText? (s : String) : Option SocketAddress :=
  (scanV4 <|> scanV6).all? s

end SocketAddress

end Concentrator
