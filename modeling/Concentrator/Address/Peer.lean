import Concentrator.Address.Socket

/-!
# Peers

The address of a client on some transport. The gateway compares peers and
never looks inside.
-/

namespace Concentrator

inductive Peer where
  | datagram (address : SocketAddress)
  | relay (id : String)
deriving DecidableEq

namespace Peer

def text : Peer → String
  | .datagram address => "udp://" ++ address.text
  | .relay id => "relay://" ++ id

/-- A number that spreads peers over a table. -/
def spread (p : Peer) : Nat :=
  p.text.foldl (fun h c => (h * 31 + c.toNat) % UInt32.size) 0

/-- Reads what `text` writes. -/
def ofText? (s : String) : Option Peer :=
  if s.startsWith "udp://" then
    (SocketAddress.ofText? (s.drop 6).toString).map .datagram
  else if s.startsWith "relay://" then
    some (.relay (s.drop 8).toString)
  else none

end Peer

end Concentrator
