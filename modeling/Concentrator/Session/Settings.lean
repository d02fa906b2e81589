import Concentrator.Address.Network
import Concentrator.Payload

/-!
# Client settings

An admitted client is told how to set up its side of the tunnel: a text of
tagged fields, the address being the only one that differs between clients.
-/

namespace Concentrator

structure ClientSettings where
  mtu : UInt16
  /-- The prefix length that goes with the client's address. -/
  prefixLength : UInt8
  route : Network
  dnsServer : Option Ipv4
  searchDomain : Option String
deriving DecidableEq

namespace ClientSettings

/-- The optional fields contribute nothing when absent. -/
def field (tag : String) : Option String → String
  | none => ""
  | some value => " " ++ tag ++ "," ++ value

/-- The fields in their fixed order; the search domain is last, so it may hold any text. -/
def render (s : ClientSettings) (address : Ipv4) : String :=
  " m," ++ Text.decimal s.mtu.toNat ++
  " a," ++ address.text ++ "," ++ Text.decimal s.prefixLength.toNat ++
  field "d" (s.dnsServer.map Ipv4.text) ++
  " r," ++ s.route.network.text ++ "," ++ Text.decimal s.route.prefixLength ++
  field "s" s.searchDomain

/-- The reply to an admitted client, if it fits in a payload. -/
def reply? (s : ClientSettings) (address : Ipv4) : Option Bytes :=
  let body := Bytes.ofText (s.render address)
  if body.length + 1 ≤ maxPayload then some (joinTag :: body) else none

end ClientSettings

end Concentrator
