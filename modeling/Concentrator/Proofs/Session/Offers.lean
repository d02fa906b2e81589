import Concentrator.Gateway.Plane
import Concentrator.Proofs.Configuration.Range
import Concentrator.Proofs.Session.Coherence

/-!
# Addresses that clients are offered

A registry offers and leases nothing but addresses of its pool. Under a sound
configuration these are hosts of the network, and neither end of the tunnel is
among them.
-/

namespace Concentrator.Registry

variable {r : Registry} {address : Ipv4} {group : String}

/-- The address that a client is offered in an event. -/
def offer? (s : Clocked Registry) : Event → Option Ipv4
  | .join source request offer => (s.state.join s.now source request offer).2.offered
  | _ => none

/-- All addresses that clients are offered during a sequence of events. -/
def offers (s : Clocked Registry) : List Event → List Ipv4
  | [] => []
  | e :: rest => (offer? s e).toList ++ offers (step s e) rest

theorem Sound.leased_inside (sound : r.Sound) {l : Lease}
    (leased : r.leases.find? address = some l) :
    r.pool.first ≤ address.bits ∧ address.bits ≤ r.pool.last :=
  sound.pool.inside _ ((sound.occupied address).2 ⟨l, leased⟩)

theorem Sound.chosen_inside (sound : r.Sound) (chosen : r.addressFor? group = some address) :
    r.pool.first ≤ address.bits ∧ address.bits ≤ r.pool.last := by
  rcases addressFor?_cases chosen with held | ⟨-, free⟩
  · obtain ⟨l, leased, -⟩ := (sound.groups group address).1 held
    exact sound.leased_inside leased
  · have least := (Pool.nextFree?_eq_some_iff sound.pool).1 free
    exact ⟨least.first_le, least.le_last⟩

theorem join_offered {now : Nat} {source : Peer} {request : JoinRequest} {offer : Ipv4 → Bool}
    (sound : r.Sound) (offered : (r.join now source request offer).2.offered = some address) :
    r.pool.first ≤ address.bits ∧ address.bits ≤ r.pool.last := by
  rcases r.join_cases now source request offer with
    ⟨-, result⟩ | ⟨-, session, live, -, result⟩ | ⟨-, -, result⟩ <;> rw [result] at offered
  · cases offered
  · obtain rfl := Option.some.inj offered
    obtain ⟨l, leased⟩ := sound.leased source session (IdleMap.peek?_of_live? live)
    exact sound.leased_inside leased
  · -- giving up a session moves no bound of the pool
    have evolved : Evolves r (r.vacate source request.group) := vacate_evolves
    rw [← evolved.first, ← evolved.last]
    obtain ⟨vacated, -⟩ := vacate_sound sound source request.group
    rcases (r.vacate source request.group).admitNew_cases now source request.group offer with
      ⟨-, result⟩ | ⟨chosen, for_group, -, result⟩ | ⟨chosen, for_group, -, result⟩ <;>
      rw [result] at offered
    · cases offered
    · obtain rfl := Option.some.inj offered
      exact vacated.chosen_inside for_group
    · obtain rfl := Option.some.inj offered
      exact vacated.chosen_inside for_group

theorem offers_inside {s : Clocked Registry} (sound : s.state.Sound) (events : List Event) :
    ∀ a ∈ offers s events, s.state.pool.first ≤ a.bits ∧ a.bits ≤ s.state.pool.last := by
  induction events generalizing s with
  | nil => simp [offers]
  | cons e rest ih =>
    intro a member
    rcases List.mem_append.1 member with now | later
    · have offered := Option.mem_toList.1 now
      cases e with
      | join source request offer => exact join_offered sound offered
      | _ => cases offered
    · have evolved := step_evolves s e
      rw [← evolved.first, ← evolved.last]
      exact ih (step_sound sound e) a later

/-- Whatever happens to a registry under a sound configuration, it offers and leases nothing but
usable addresses, and the address of the masquerade is not among them. -/
theorem run_usable {c : Configuration} {clients : Ipv4 × Ipv4} (checked : c.check = .ok clients)
    (reliable : Bool) (events : List Event) :
    let gateway := Plane.create c clients reliable
    let start : Clocked Registry := ⟨gateway.registry, 0⟩
    let r := (run start events).state
    (∀ a ∈ offers start events, c.Usable a) ∧
      (∀ a l, r.leases.find? a = some l → c.Usable a ∧ a ≠ gateway.masquerade.external) ∧
      ∀ source session, r.sessions.peek? source = some session →
        c.Usable session.address ∧ session.address ≠ gateway.masquerade.external := by
  intro gateway start r
  have usable : ∀ a : Ipv4, start.state.pool.first ≤ a.bits ∧ a.bits ≤ start.state.pool.last →
      c.Usable a := fun a inside =>
    (Configuration.check_eq_ok_iff.1 checked).usable inside.1 inside.2
  have sound : start.state.Sound := create_sound _ _ _ _
  have evolved : Evolves start.state r := run_evolves start events
  have reached : r.Sound := run_sound sound events
  have leased : ∀ a l, r.leases.find? a = some l →
      c.Usable a ∧ a ≠ gateway.masquerade.external := by
    intro a l leased
    have inside := reached.leased_inside leased
    rw [evolved.first, evolved.last] at inside
    exact ⟨usable a inside, (usable a inside).destination⟩
  refine ⟨fun a member => usable a (offers_inside sound events a member), leased, ?_⟩
  intro source session recorded
  obtain ⟨l, held⟩ := reached.leased source session recorded
  exact leased session.address l held

/-- Three clients of three groups ask to join. -/
def crowded : List Event :=
  let join (name group : String) : Event := .join (.relay name) ⟨"secret", group⟩ fun _ => true
  [join "a" "first", join "b" "second", join "c" "third"]

/-- In a network with six hosts, of which two come before the first client and two are the ends of
the tunnel, the third group finds no address. -/
theorem crowded_usable :
    let c : Configuration :=
      { sharedSecret := "secret"
        network := ⟨.ofOctets 10 0 0 0, 29, by decide⟩
        tunnelSource := .ofOctets 10 0 0 6
        tunnelDestination := .ofOctets 10 0 0 5
        firstClient := .ofOctets 10 0 0 3 }
    let clients : Ipv4 × Ipv4 := (.ofOctets 10 0 0 3, .ofOctets 10 0 0 4)
    let start : Clocked Registry := ⟨(Plane.create c clients true).registry, 0⟩
    c.check = .ok clients ∧
      offers start crowded = [.ofOctets 10 0 0 3, .ofOctets 10 0 0 4] ∧
      ∀ a ∈ offers start crowded, c.Usable a := by
  intro c clients start
  have checked : c.check = .ok clients := by decide +kernel
  exact ⟨checked, by decide +kernel, (run_usable checked true crowded).1⟩

end Concentrator.Registry
