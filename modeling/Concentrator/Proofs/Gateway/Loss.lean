import Concentrator.Proofs.Configuration.Range
import Concentrator.Proofs.Gateway.Outsiders
import Concentrator.Proofs.Gateway.Tenancy
import Concentrator.Proofs.Session.Dissolution

/-!
# When the transport is lost

A transport that is gone takes all sessions with it, and with them everything that the
gateway keeps for one: leases, addresses, turns and mappings. `run_lost` says so of every
state of a gateway, and that the next client to be admitted begins the pool anew.
-/

namespace Concentrator

namespace Plane

variable {p q : Plane} {clients : Ipv4 × Ipv4} {source : Peer} {payload : Bytes} {a : Ipv4}
  {group : String} {e : Event}

/-- Nothing is left that belongs to a session. -/
structure Deserted (p : Plane) : Prop where
  sessions : p.registry.sessions.entries = .empty
  leases : p.registry.leases = .empty
  groups : p.registry.groups = .empty
  occupied : p.registry.pool.occupied = []
  turns : p.balancer.turns = .empty
  reverse : p.masquerade.reverse.entries = .empty
  forward : p.masquerade.forward = .empty
  byAddress : p.masquerade.byAddress = .empty

/-- Everything stands on a session. -/
theorem deserted_of_absent (tenanted : p.Tenanted) (rest : p.AtRest)
    (absent : ∀ source, p.registry.sessions.peek? source = none) : p.Deserted := by
  obtain ⟨leases, groups, occupied⟩ := (tenanted.sound.tally_none absent).vacant
  have unleased : ∀ a, ¬∃ l, p.registry.leases.find? a = some l := by simp [leases]
  have unmapped : ∀ port internal, p.masquerade.reverse.peek? port ≠ some internal :=
    fun port internal present =>
      unleased _ (tenanted.mapped port internal present (by simp [rest.changes]))
  constructor
  · exact Table.eq_empty fun source => Option.map_eq_none_iff.1 (absent source)
  · exact leases
  · exact groups
  · exact occupied
  · refine Table.eq_empty fun a => Option.eq_none_iff_forall_ne_some.2 fun turn found => ?_
    obtain ⟨l, leased, -⟩ := tenanted.shared a turn found (by simp [rest.changes])
      (by simp [rest.changes])
    exact unleased a ⟨l, leased⟩
  · exact Table.eq_empty fun port => Option.map_eq_none_iff.1
      (Option.eq_none_iff_forall_ne_some.2 (unmapped port))
  · exact Table.eq_empty fun internal => Option.eq_none_iff_forall_ne_some.2 fun port found =>
      unmapped port internal ((tenanted.indexed.inverse internal port).1 found)
  · refine Table.eq_empty fun a => Option.eq_none_iff_forall_ne_some.2 fun ports found => ?_
    obtain ⟨port, member⟩ := List.exists_mem_of_ne_nil _ (tenanted.indexed.proper a ports found).1
    have held : port ∈ p.masquerade.held a := by simpa [Masquerade.held, found] using member
    obtain ⟨internal, present, -⟩ := (tenanted.indexed.listed a port (by simp)).1 held
    exact unmapped port internal present

theorem lose_registry (p : Plane) (transport : String) (byUser : Bool) :
    (p.lose transport byUser).1.registry =
      { p.registry.clear.1 with changes := [], notices := [] } :=
  (settle_keeps _).1

theorem lose_deserted (tenanted : p.Tenanted) (rest : p.AtRest) (transport : String)
    (byUser : Bool) : (p.lose transport byUser).1.Deserted := by
  have successor := step_successor tenanted rest (.lose transport byUser)
  refine deserted_of_absent successor.tenanted successor.rest fun source => ?_
  rw [lose_registry]
  exact congrArg (IdleMap.peek? · source) p.registry.clear_withdraws.1

/-! ### Until somebody is admitted -/

theorem step_accepted_le (p : Plane) (e : Event) :
    p.counters.accepted ≤ (p.step e).1.counters.accepted := by
  cases e with
  | message source payload =>
    obtain ⟨fate, -, -, counters⟩ := p.message_fate source payload
    simp only [step, counters]
    cases fate <;> simp [Fate.mark]
  | arrival packet =>
    rcases p.arrival_counters packet with counters | counters | counters <;>
      simp [step, counters]
  | sweep => simp [step, sweep_counters]
  | lose transport byUser => simp [step, lose_counters]
  | receive enabled => exact Nat.le_refl _
  | advance milliseconds => exact Nat.le_refl _

theorem run_accepted_le (p : Plane) (events : List Event) :
    p.counters.accepted ≤ (p.run events).1.counters.accepted := by
  induction events generalizing p with
  | nil => exact Nat.le_refl _
  | cons e rest ih => exact Nat.le_trans (p.step_accepted_le e) (ih (p.step e).1)

theorem step_deserted (tenanted : p.Tenanted) (rest : p.AtRest)
    (absent : ∀ source, p.registry.sessions.peek? source = none)
    (refused : (p.step e).1.counters.accepted = p.counters.accepted) :
    ∀ source, (p.step e).1.registry.sessions.peek? source = none := by
  intro source
  cases own : e.isFrom source with
  | true =>
    obtain ⟨alike, -⟩ := step_outsider tenanted.sound rest (absent source) own refused
    rw [alike.plane]
    exact absent source
  | false => exact step_absent tenanted.sound rest (absent source) own

/-- As long as nobody is admitted, nobody has a session. -/
theorem run_deserted (tenanted : p.Tenanted) (rest : p.AtRest)
    (absent : ∀ source, p.registry.sessions.peek? source = none) {events : List Event}
    (refused : (p.run events).1.counters.accepted = p.counters.accepted) :
    ∀ source, (p.run events).1.registry.sessions.peek? source = none := by
  induction events generalizing p with
  | nil => exact absent
  | cons e events ih =>
    have first := p.step_accepted_le e
    have later := (p.step e).1.run_accepted_le events
    rw [run_cons] at refused ⊢
    dsimp only at refused
    have successor := step_successor tenanted rest e
    exact ih successor.tenanted successor.rest
      (step_deserted tenanted rest absent (by omega)) (by omega)

/-! ### The first address -/

/-- The plane has its addresses and the pool between them. -/
structure Spans (clients : Ipv4 × Ipv4) (p : Plane) : Prop where
  first : p.registry.pool.first = clients.1.bits
  last : p.registry.pool.last = clients.2.bits

theorem create_spans (c : Configuration) (clients : Ipv4 × Ipv4) (reliable : Bool) :
    (create c clients reliable).Spans clients :=
  ⟨rfl, rfl⟩

theorem step_spans (rest : p.AtRest) (spans : p.Spans clients) (e : Event) :
    (p.step e).1.Spans clients := by
  have evolved := Registry.step_evolves ⟨p.registry, p.now⟩ (p.operation e)
  constructor <;> rw [(step_operates rest e).registry]
  · exact evolved.first.trans spans.first
  · exact evolved.last.trans spans.last

/-- Where nothing is leased, every group is offered the first address of the pool. -/
theorem Deserted.offers_iff (deserted : p.Deserted) (spans : p.Spans clients)
    (ordered : clients.1.bits ≤ clients.2.bits) :
    (p.registry.relinquish p.now source group).Offers group a ↔ a = clients.1 := by
  have absent : p.registry.sessions.peek? source = none := by
    rw [IdleMap.peek?, deserted.sessions]
    rfl
  have unleased : p.registry.leaseOf? group = none := by
    rw [Registry.leaseOf?, deserted.groups]
    rfl
  have stays : p.registry.relinquish p.now source group = p.registry := by
    rw [Registry.relinquish_of_other, Registry.vacate_of_absent absent]
    intro session live
    rw [IdleMap.peek?_of_live? live] at absent
    cases absent
  rw [stays, Registry.Offers, unleased]
  constructor
  · rintro (leased | ⟨-, least⟩)
    · cases leased
    · refine Pool.bits_inj.1 (UInt32.le_antisymm (UInt32.not_lt.1 fun below => ?_)
        (spans.first ▸ least.first_le))
      have used := least.used_below clients.1.bits (by rw [spans.first]; exact UInt32.le_refl _)
        below
      simp [deserted.occupied] at used
  · rintro rfl
    refine .inr ⟨rfl, ?_, ?_, ?_, ?_⟩
    · rw [spans.first]
      exact UInt32.le_refl _
    · rw [spans.last]
      exact ordered
    · simp [deserted.occupied]
    · intro x low below
      rw [spans.first] at low
      exact absurd (UInt32.lt_of_lt_of_le below low) (UInt32.lt_irrefl x)

/-- Whoever is admitted next gets the first address, and whoever asks for it in the right way is
admitted. -/
structure Anew (clients : Ipv4 × Ipv4) (p : Plane) : Prop where
  admitted : ∀ source payload, Payload.kind? payload = some .join →
    (p.message source payload).1.counters.accepted ≠ p.counters.accepted →
    ∃ request, JoinRequest.parse? payload = some request ∧
      p.Admitted source request clients.1 (p.message source payload)
  admits : ∀ source payload request, p.receiving = true → payload.length ≤ maxPayload →
    JoinRequest.parse? payload = some request → request.secret = p.registry.secret →
    (p.welcome clients.1).length ≤ maxPayload →
      p.Admitted source request clients.1 (p.message source payload)

theorem Deserted.anew (deserted : p.Deserted) (sound : p.registry.Sound)
    (spans : p.Spans clients) (ordered : clients.1.bits ≤ clients.2.bits) : p.Anew clients where
  admitted source payload kind grown := by
    have answered := message_answered sound source kind
    by_cases long : maxPayload < payload.length
    · rw [answered.dropped long] at grown
      exact absurd rfl grown
    · rcases answered.decided (Nat.not_lt.1 long) with
        ⟨request, address, admissible, admitted⟩ | ⟨-, turned⟩
      · have first := (deserted.offers_iff spans ordered).1 admissible.offered
        exact ⟨request, admissible.parsed, first ▸ admitted⟩
      · rw [turned.counters] at grown
        exact absurd rfl grown
  admits source payload request receiving short parsed secret fits := by
    have offered : (p.registry.relinquish p.now source request.group).Offers request.group
        clients.1 := (deserted.offers_iff spans ordered).2 rfl
    have admissible : p.Admissible source payload request clients.1 :=
      ⟨receiving, parsed, secret, offered, fits⟩
    have answered := message_answered sound source (JoinRequest.kind?_of_parse? parsed)
    rcases answered.decided short with ⟨request', address, admissible', admitted⟩ | ⟨refused, -⟩
    · obtain rfl := Option.some.inj (parsed.symm.trans admissible'.parsed)
      have first := (deserted.offers_iff spans ordered).1 admissible'.offered
      exact first ▸ admitted
    · exact absurd ⟨_, _, admissible⟩ refused

/-- What becomes of a plane that loses its sessions. -/
structure Lost (clients : Ipv4 × Ipv4) (p q : Plane) : Prop where
  deserted : q.Deserted
  /-- The tables are those of a cleared registry, and that is as if everybody had left. -/
  cleared : q.registry = { p.registry.clear.1 with changes := [], notices := [] }
  dissolved : p.registry.Dissolved
  /-- Whatever happens until somebody is admitted, the pool begins anew. -/
  anew : ∀ later, (q.run later).1.counters.accepted = q.counters.accepted →
    (q.run later).1.Anew clients

theorem run_spans (tenanted : p.Tenanted) (rest : p.AtRest) (spans : p.Spans clients)
    (events : List Event) : (p.run events).1.Spans clients :=
  run_preserves tenanted rest events (fun e _ _ _ rest spans => step_spans rest spans e) spans

theorem lose_lost (tenanted : p.Tenanted) (rest : p.AtRest) (spans : p.Spans clients)
    (ordered : clients.1.bits ≤ clients.2.bits) (transport : String) (byUser : Bool) :
    Lost clients p (p.lose transport byUser).1 := by
  have deserted := lose_deserted tenanted rest transport byUser
  have absent : ∀ source, (p.lose transport byUser).1.registry.sessions.peek? source = none := by
    intro source
    rw [IdleMap.peek?, deserted.sessions]
    rfl
  have successor := step_successor tenanted rest (.lose transport byUser)
  refine ⟨deserted, p.lose_registry transport byUser, tenanted.sound.dissolved,
    fun later refused => ?_⟩
  obtain ⟨tenanted', rest'⟩ := run_tenanted successor.tenanted successor.rest later
  have still := run_deserted successor.tenanted successor.rest absent refused
  exact (deserted_of_absent tenanted' rest' still).anew tenanted'.sound
    (run_spans successor.tenanted successor.rest (step_spans rest spans (.lose transport byUser))
      later) ordered

end Plane

/-! ### The gateway -/

namespace Gateway

variable {c : Configuration} {g : Gateway} {transport : String} {reliable : Bool} {lanes : Nat}
  {route : Peer → Nat}

/-- A transport has closed, and the recovery that this calls for begins at once. -/
def closed (byUser : Bool) (g : Gateway) : Gateway :=
  g.run [.live (.closed byUser), .live (.recover g.lifecycle.recoveries.length)]

/-- Before it does anything else a recovery makes the plane lose its sessions. -/
theorem recover_plane {i : Nat} {byUser : Bool}
    (fresh : g.lifecycle.recoveries[i]? = some (.fresh byUser)) :
    (g.step (.live (.recover i))).plane = (g.plane.lose g.lifecycle.transport byUser).1 := by
  simp only [step, live, Lifecycle.step, Lifecycle.recover, fresh]
  split <;> rfl

theorem closed_plane (byUser : Bool) (g : Gateway) :
    (g.closed byUser).plane = (g.plane.lose g.lifecycle.transport byUser).1 := by
  have fresh : (g.step (.live (.closed byUser))).lifecycle.recoveries[
      g.lifecycle.recoveries.length]? = some (.fresh byUser) := by
    simp [step, live, Lifecycle.step]
  exact (recover_plane fresh).trans rfl

theorem run_spans (created : create c transport reliable lanes route = .ok g)
    (events : List Event) : ∃ clients, c.check = .ok clients ∧
      (g.run events).plane.Settled c ∧ (g.run events).plane.Spans clients := by
  obtain ⟨clients, checked, plane⟩ := create_plane created
  have kept : Kept fun p => p.Settled c ∧ p.Spans clients :=
    ⟨fun p e ⟨settled, spans⟩ =>
      ⟨Plane.step_settled settled e, Plane.step_spans settled.rest spans e⟩,
      fun p f same ⟨settled, spans⟩ => ⟨Plane.count_settled settled same, spans.first, spans.last⟩⟩
  have start : g.plane.Settled c ∧ g.plane.Spans clients := by
    rw [plane]
    exact ⟨Plane.create_settled c clients reliable, Plane.create_spans c clients reliable⟩
  exact ⟨clients, checked, run_plane kept start events⟩

/-- In every state of a gateway, a transport that closes takes along all that belongs to sessions,
be it on purpose or not, whether the recovery begins at once or later. -/
theorem run_lost (created : create c transport reliable lanes route = .ok g)
    (events : List Event) (byUser : Bool) : ∃ clients, c.check = .ok clients ∧
      Plane.Lost clients (g.run events).plane ((g.run events).closed byUser).plane ∧
      ∀ i, (g.run events).lifecycle.recoveries[i]? = some (.fresh byUser) →
        Plane.Lost clients (g.run events).plane
          ((g.run events).step (.live (.recover i))).plane := by
  obtain ⟨clients, checked, settled, spans⟩ := run_spans created events
  have ordered : clients.1.bits ≤ clients.2.bits := by
    obtain ⟨-, -, ordered, -⟩ :=
      Configuration.clientRange_bounds (Configuration.check_eq_ok_iff.1 checked).cut
    exact UInt32.le_iff_toNat_le.2 ordered
  have lost := Plane.lose_lost settled.tenanted settled.rest spans ordered
    (g.run events).lifecycle.transport byUser
  refine ⟨clients, checked, ?_, fun i fresh => ?_⟩
  · rw [closed_plane]
    exact lost
  · rw [recover_plane fresh]
    exact lost

/-- A client that has joined and sent a datagram loses its session and its mapping. -/
theorem oneClient_lost :
    ∃ g, create { sharedSecret := "secret" } "relay" true 1 (fun _ => 0) = .ok g ∧
      (g.run oneClient).plane.registry.sessions.size = 1 ∧
      (g.run oneClient).plane.masquerade.reverse.size = 1 ∧
      ∃ clients, Configuration.check { sharedSecret := "secret" } = .ok clients ∧
        Plane.Lost clients (g.run oneClient).plane ((g.run oneClient).closed false).plane := by
  have created : create { sharedSecret := "secret" } "relay" true 1 (fun _ => 0) = .ok _ := rfl
  obtain ⟨clients, checked, lost, -⟩ := run_lost created oneClient false
  exact ⟨_, created, by decide +kernel, by decide +kernel, clients, checked, lost⟩

end Gateway

end Concentrator
