import Concentrator.Session.Registry

/-!
# Sharing out packets

The sessions behind an address take turns. A cursor walks the members as they
were when it was made; it is made anew at the end of the round, or when the
members have changed since.
-/

namespace Concentrator

structure Turn where
  generation : Nat
  peers : List Peer
  next : Nat
deriving DecidableEq

structure Balancer where
  turns : Table Ipv4 Turn := .empty

namespace Balancer

def invalidate (address : Ipv4) (b : Balancer) : Balancer :=
  ⟨b.turns.erase address⟩

/-- The turn to take: the one in progress if it is up to date and not over. -/
def turnFor (address : Ipv4) (generation : Nat) (peers : List Peer) (b : Balancer) : Turn :=
  match b.turns.find? address with
  | none => ⟨generation, peers, 0⟩
  | some turn =>
    if turn.generation ≠ generation ∨ turn.peers.length ≤ turn.next then ⟨generation, peers, 0⟩
    else turn

/-- Picks the peer whose turn it is among the current members of an address. -/
def pick (address : Ipv4) (members : Option (Nat × List Peer)) (b : Balancer) :
    Balancer × Option Peer :=
  match members with
  | none => (b.invalidate address, none)
  | some (_, []) => (b.invalidate address, none)
  | some (generation, peers) =>
    let turn := b.turnFor address generation peers
    (⟨b.turns.insert address { turn with next := turn.next + 1 }⟩, turn.peers[turn.next]?)

/-- Picks among the members that a registry knows. -/
def next (address : Ipv4) (r : Registry) (b : Balancer) : Balancer × Option Peer :=
  b.pick address ((r.leaseAt? address).map fun l => (l.generation, l.peers))

def size (b : Balancer) : Nat := b.turns.size

end Balancer

end Concentrator
