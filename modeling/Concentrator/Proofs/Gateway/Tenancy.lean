import Concentrator.Proofs.Gateway.Settling
import Mathlib.Data.List.Induction

/-!
# Mappings and turns end with their leases

No matter what happens to a plane, whatever it keeps about an address belongs to
the present lease of that address. `run_confined` says so, and that a packet that
comes in for a mapped port is therefore sent to one member of the lease.
-/

namespace Concentrator.Plane

variable {p start : Plane} {source : Peer} {payload : Bytes} {later : List Event} {e : Event}
  {port : UInt16} {internal : Endpoint} {group : String}

theorem run_append (p : Plane) (xs ys : List Event) :
    p.run (xs ++ ys) = (((p.run xs).1.run ys).1, (p.run xs).2 ++ ((p.run xs).1.run ys).2) := by
  induction xs generalizing p with
  | nil => rfl
  | cons e rest ih =>
    simp only [List.cons_append, run, ih]

theorem run_concat (p : Plane) (xs : List Event) (e : Event) :
    p.run (xs ++ [e]) = (((p.run xs).1.step e).1, (p.run xs).2 ++ [((p.run xs).1.step e).2]) :=
  run_append p xs [e]

theorem run_tenanted (tenanted : start.Tenanted) (rest : start.AtRest) (events : List Event) :
    (start.run events).1.Tenanted ∧ (start.run events).1.AtRest := by
  induction events generalizing start with
  | nil => exact ⟨tenanted, rest⟩
  | cons e events ih =>
    have successor := step_successor tenanted rest e
    exact ih successor.tenanted successor.rest

/-- What every event of a run preserves holds at its end. -/
theorem run_preserves {P : Plane → Prop} (tenanted : start.Tenanted) (rest : start.AtRest)
    (events : List Event)
    (preserved : ∀ e ∈ events, ∀ q : Plane, q.Tenanted → q.AtRest → P q → P (q.step e).1)
    (holds : P start) : P (start.run events).1 := by
  induction events generalizing start with
  | nil => exact holds
  | cons e events ih =>
    obtain ⟨first, later⟩ := List.forall_mem_cons.1 preserved
    have successor := step_successor tenanted rest e
    exact ih successor.tenanted successor.rest later (first start tenanted rest holds)

/-- The port stands for `internal`, whose address is leased to the group. -/
def Maps (p : Plane) (port : UInt16) (internal : Endpoint) (group : String) : Prop :=
  p.masquerade.reverse.peek? port = some internal ∧
    ∃ l, p.registry.leases.find? internal.address = some l ∧ l.group = group

/-- A message to `p` from a session of the group has mapped the port, and the mapping and the lease
of its address have lasted through all that came later. -/
structure Tenure (p : Plane) (source : Peer) (payload : Bytes) (later : List Event)
    (port : UInt16) (internal : Endpoint) (group : String) : Prop where
  kind : Payload.kind? payload = some .data
  sent : ∃ flow, Flow.parse? payload = some flow ∧ flow.source = internal
  sender : ∃ session, (p.registry.lookup p.now source).2 = some session ∧
    session.address = internal.address ∧ session.group = group
  created : .mappingCreated internal port ∈ (p.message source payload).2.notices
  lasts : ∀ past, past <+: later →
    ((p.message source payload).1.run past).1.Maps port internal group
  mapped : ∀ reaction ∈ ((p.message source payload).1.run later).2,
    .mappingRemoved internal port ∉ reaction.notices
  leased : ∀ reaction ∈ (p.run (.message source payload :: later)).2, ∀ g,
    .addressReleased internal.address g ∉ reaction.notices

/-- A step that maps a port begins a tenure. -/
theorem tenure_begins (tenanted : p.Tenanted) (rest : p.AtRest)
    (present : (p.step e).1.masquerade.reverse.peek? port = some internal)
    (opens : p.Opens e internal) (created : .mappingCreated internal port ∈ (p.step e).2.notices) :
    ∃ source payload group, e = .message source payload ∧
      Tenure p source payload [] port internal group := by
  have successor := step_successor tenanted rest e
  have unreleased := successor.unreleased port internal present
  cases e with
  | message source payload =>
    obtain ⟨kind, ⟨session, found, address⟩, sent⟩ := opens
    obtain ⟨⟨entry, recorded, rfl, -⟩, -⟩ := Registry.lookup_some (Prod.ext rfl found)
    have seated := IdleMap.peek?_of_find? recorded
    obtain ⟨l, leased⟩ := tenanted.sound.leased source _ seated
    have group := (tenanted.sound.fits _ l leased).group source _ seated rfl
    rw [address] at leased
    obtain ⟨l', leased', same⟩ := successor.kept _ l leased unreleased
    refine ⟨source, payload, entry.value.group, rfl, kind, sent, ⟨_, found, address, rfl⟩, created,
      ?_, by simp [run], ?_⟩
    · intro past early
      obtain rfl := List.prefix_nil.1 early
      exact ⟨present, l', leased', same.trans group.symm⟩
    · intro reaction member g
      obtain rfl : reaction = (p.step (.message source payload)).2 := by simpa [run] using member
      exact unreleased g
  | _ => exact opens.elim

/-- A step that keeps the mapping prolongs its tenure. -/
theorem Tenure.prolong (tenure : Tenure p source payload later port internal group)
    (tenanted : p.Tenanted) (rest : p.AtRest) {q : Plane}
    (reached : (p.run (.message source payload :: later)).1 = q)
    (present : (q.step e).1.masquerade.reverse.peek? port = some internal)
    (remains : .mappingRemoved internal port ∉ (q.step e).2.notices) :
    Tenure p source payload (later ++ [e]) port internal group := by
  obtain ⟨tenanted', rest'⟩ := run_tenanted tenanted rest (.message source payload :: later)
  rw [reached] at tenanted' rest'
  have successor := step_successor tenanted' rest' e
  have unreleased := successor.unreleased port internal present
  have after : ((p.message source payload).1.run later).1 = q := reached
  refine ⟨tenure.kind, tenure.sent, tenure.sender, tenure.created, ?_, ?_, ?_⟩
  · intro past early
    rcases List.prefix_concat_iff.1 early with rfl | early
    · obtain ⟨-, l, leased, same⟩ := tenure.lasts later List.prefix_rfl
      rw [after] at leased
      obtain ⟨l', leased', same'⟩ := successor.kept _ l leased unreleased
      rw [run_concat, after]
      exact ⟨present, l', leased', same'.trans same⟩
    · exact tenure.lasts past early
  · rw [run_concat, after]
    intro reaction member
    rcases List.mem_append.1 member with before | last
    · exact tenure.mapped reaction before
    · obtain rfl := List.mem_singleton.1 last
      exact remains
  · rw [← List.cons_append, run_concat, reached]
    intro reaction member
    rcases List.mem_append.1 member with before | last
    · exact tenure.leased reaction before
    · obtain rfl := List.mem_singleton.1 last
      exact unreleased

/-- Every mapping is in the tenure that began when it was made. -/
theorem run_tenure (tenanted : start.Tenanted) (rest : start.AtRest)
    (empty : ∀ port e, start.masquerade.reverse.peek? port ≠ some e) (events : List Event)
    (present : (start.run events).1.masquerade.reverse.peek? port = some internal) :
    ∃ before source payload later group, events = before ++ .message source payload :: later ∧
      Tenure (start.run before).1 source payload later port internal group := by
  -- on the last step: it either makes the mapping or prolongs the tenure that there is
  induction events using List.reverseRecOn with
  | nil => exact absurd present (empty port internal)
  | append_singleton events e ih =>
    obtain ⟨tenanted', rest'⟩ := run_tenanted tenanted rest events
    rw [run_concat] at present
    rcases (step_successor tenanted' rest' e).mapped port internal present with
      ⟨opens, created⟩ | ⟨before, remains⟩
    · obtain ⟨source, payload, group, rfl, tenure⟩ :=
        tenure_begins tenanted' rest' present opens created
      exact ⟨events, source, payload, [], group, rfl, tenure⟩
    · obtain ⟨earlier, source, payload, later, group, rfl, tenure⟩ := ih before
      obtain ⟨tenanted, rest⟩ := run_tenanted tenanted rest earlier
      rw [run_append] at present remains
      exact ⟨earlier, source, payload, later ++ [e], group, by simp,
        tenure.prolong tenanted rest rfl present remains⟩

/-- Nothing that the plane keeps after these events outlives the lease that it belongs to. -/
structure Confined (start : Plane) (events : List Event) (p : Plane) : Prop where
  /-- The address of a mapping is leased, and the mapping was made during this lease for a member
  of the group. -/
  mapped : ∀ port internal, p.masquerade.reverse.peek? port = some internal →
    ∃ l, p.registry.leases.find? internal.address = some l ∧
      ∃ before source payload later, events = before ++ .message source payload :: later ∧
        Tenure (start.run before).1 source payload later port internal l.group
  /-- There are no mappings but these. -/
  inverse : ∀ port internal, p.masquerade.forward.find? internal = some port ↔
    p.masquerade.reverse.peek? port = some internal
  shared : ∀ a turn, p.balancer.turns.find? a = some turn →
    ∃ l, p.registry.leases.find? a = some l
  /-- A packet for a mapped port is sent to one member of the lease. -/
  delivered : ∀ packet t packet' internal,
    p.masquerade.inbound p.now packet = (t, packet', some internal) →
      ∃ l, p.registry.leases.find? internal.address = some l ∧
        ∃ peer session, p.registry.sessions.peek? peer = some session ∧
          session.address = internal.address ∧ session.group = l.group ∧
          (p.step (.arrival packet)).2.sends = [⟨peer, packet'⟩]
  routed : p.counters.noRoute = 0

/-- Whatever happens to a plane, all that it keeps is confined to the present leases. -/
theorem run_confined (c : Configuration) (clients : Ipv4 × Ipv4) (reliable : Bool)
    (events : List Event) :
    Confined (create c clients reliable) events ((create c clients reliable).run events).1 := by
  obtain ⟨created, still⟩ := create_tenanted c clients reliable
  obtain ⟨tenanted, rest⟩ := run_tenanted created still events
  constructor
  · intro port internal present
    obtain ⟨before, source, payload, later, group, split, tenure⟩ :=
      run_tenure created still (by simp [create, Masquerade.create, IdleMap.peek?]) events present
    obtain ⟨-, l, leased, rfl⟩ := tenure.lasts later List.prefix_rfl
    refine ⟨l, ?_, before, source, payload, later, split, tenure⟩
    rw [split, run_append]
    exact leased
  · exact fun port internal => tenanted.indexed.inverse internal port
  · intro a turn found
    obtain ⟨l, leased, -⟩ := tenanted.shared a turn found (by simp [rest.changes])
      (by simp [rest.changes])
    exact ⟨l, leased⟩
  · intro packet t packet' internal inbound
    obtain ⟨-, l, leased, peer, member, sends⟩ := arrival_delivers tenanted rest inbound
    obtain ⟨session, recorded, address, group⟩ := (tenanted.members leased).2 peer member
    exact ⟨l, leased, peer, session, recorded, address, group, sends⟩
  · exact tenanted.routed

end Concentrator.Plane
