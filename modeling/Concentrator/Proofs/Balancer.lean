import Concentrator.Balancer
import Concentrator.Proofs.Table

/-!
# Turns

A turn is current for a lease if it has the members of the lease whenever it has
its generation. Given that, the next packet goes to the member at a `place`
that moves on by one and begins again when all have had theirs.
-/

namespace Concentrator.Balancer

variable {b : Balancer} {a address : Ipv4} {r : Registry} {l : Lease}

theorem find?_invalidate_eq_some_iff {turn : Turn} :
    (b.invalidate address).turns.find? a = some turn ↔
      a ≠ address ∧ b.turns.find? a = some turn :=
  Table.find?_erase_eq_some_iff

def Current (address : Ipv4) (l : Lease) (b : Balancer) : Prop :=
  ∀ turn, b.turns.find? address = some turn → turn.generation = l.generation →
    turn.peers = l.peers

/-- Where among its members the turn of a lease stands. -/
def place (address : Ipv4) (l : Lease) (b : Balancer) : Nat :=
  (b.turnFor address l.generation l.peers).next

theorem place_congr {b' : Balancer} (same : b'.turns.find? address = b.turns.find? address) :
    b'.place address l = b.place address l := by
  simp only [place, turnFor, same]

theorem turnFor_eq (current : b.Current address l) (manned : l.peers ≠ []) :
    b.turnFor address l.generation l.peers = ⟨l.generation, l.peers, b.place address l⟩ ∧
      b.place address l < l.peers.length := by
  have some_left := List.length_pos_of_ne_nil manned
  unfold place turnFor
  cases found : b.turns.find? address with
  | none => exact ⟨rfl, some_left⟩
  | some turn =>
    dsimp only
    split
    · exact ⟨rfl, some_left⟩
    · rename_i going
      rw [not_or, Decidable.not_not, Nat.not_le] at going
      obtain ⟨generation, within⟩ := going
      have peers := current turn found generation
      rw [peers] at within
      refine ⟨?_, within⟩
      rw [← generation, ← peers]

theorem next_of_unleased (unleased : r.leases.find? address = none) :
    b.next address r = (b.invalidate address, none) := by
  rw [next, Registry.leaseAt?, unleased]
  rfl

/-- A lease with members has one whose turn it is. -/
theorem next_of_leased (leased : r.leases.find? address = some l) (manned : l.peers ≠ [])
    (current : b.Current address l) : ∃ inside : b.place address l < l.peers.length,
      b.next address r =
        (⟨b.turns.insert address ⟨l.generation, l.peers, b.place address l + 1⟩⟩,
          some l.peers[b.place address l]) := by
  obtain ⟨turn, inside⟩ := turnFor_eq current manned
  obtain ⟨first, rest, peers⟩ := List.exists_cons_of_ne_nil manned
  refine ⟨inside, ?_⟩
  have picked : b.next address r = (⟨b.turns.insert address
      { b.turnFor address l.generation l.peers with
        next := (b.turnFor address l.generation l.peers).next + 1 }⟩,
      (b.turnFor address l.generation l.peers).peers[
        (b.turnFor address l.generation l.peers).next]?) := by
    rw [next, Registry.leaseAt?, leased, Option.map_some, peers]
    rfl
  rw [picked, turn, List.getElem?_eq_getElem inside]

theorem find?_next_of_ne (other : a ≠ address) (b : Balancer) (r : Registry) :
    (b.next address r).1.turns.find? a = b.turns.find? a := by
  unfold next pick
  split
  · exact (Table.find?_erase ..).trans (if_neg other)
  · exact (Table.find?_erase ..).trans (if_neg other)
  · exact (Table.find?_insert ..).trans (if_neg other)

/-- The turn moves on, and begins again after the last member. -/
theorem place_moved {n : Nat}
    (turns : b.turns.find? address = some ⟨l.generation, l.peers, n + 1⟩)
    (inside : n < l.peers.length) : b.place address l = (n + 1) % l.peers.length := by
  rw [place, turnFor, turns]
  dsimp only
  split
  · rename_i spent
    have reached : l.peers.length ≤ n + 1 := spent.resolve_left (· rfl)
    rw [Nat.le_antisymm reached inside, Nat.mod_self]
  · rename_i going
    rw [not_or, Nat.not_le] at going
    exact (Nat.mod_eq_of_lt going.2).symm

end Concentrator.Balancer
