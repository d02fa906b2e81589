import Concentrator.Proofs.Gateway.Passage
import Concentrator.Proofs.Gateway.Settling

/-!
# Where packets for the interface come from

No client can speak with the address of another one. `run_provenance` traces
every packet that enters the outbound queue to a data message of its own, which
a live session sent from its own address.
-/

namespace Concentrator

/-- Results that were made from items of a list were each made from an item of their own. -/
theorem exists_makers {α β : Type} {f : α → Option β} {made : List β} {all : List α}
    (within : made.Subperm (all.filterMap f)) :
    ∃ makers : List α, makers.Subperm all ∧ List.Forall₂ (fun b a => f a = some b) made makers := by
  obtain ⟨sorted, same, within⟩ := within
  have ordered : ∃ makers : List α, makers.Sublist all ∧
      List.Forall₂ (fun b a => f a = some b) sorted makers := by
    clear same
    -- item by item: a sublist of the results picks a sublist of the items
    induction all generalizing sorted with
    | nil =>
      obtain rfl := List.eq_nil_of_sublist_nil within
      exact ⟨[], .refl _, .nil⟩
    | cons a rest ih =>
      cases makes : f a with
      | none =>
        rw [List.filterMap_cons_none makes] at within
        obtain ⟨makers, among, matched⟩ := ih sorted within
        exact ⟨makers, among.cons a, matched⟩
      | some b =>
        rw [List.filterMap_cons_some makes, List.sublist_cons_iff] at within
        rcases within with within | ⟨others, rfl, within⟩
        · obtain ⟨makers, among, matched⟩ := ih sorted within
          exact ⟨makers, among.cons a, matched⟩
        · obtain ⟨makers, among, matched⟩ := ih others within
          exact ⟨a :: makers, among.cons_cons a, .cons makes matched⟩
  obtain ⟨makers, among, matched⟩ := ordered
  obtain ⟨turned, matched, order⟩ := List.perm_comp_forall₂ same.symm matched
  exact ⟨turned, order.subperm.trans among.subperm, matched⟩

namespace Plane

variable {c : Configuration} {p : Plane} {source : Peer} {payload packet : Bytes}

/-- A plane between two steps, with the settings that it was created with. -/
structure Settled (c : Configuration) (p : Plane) : Prop where
  tenanted : p.Tenanted
  rest : p.AtRest
  external : p.masquerade.external = c.tunnelDestination
  idle : p.registry.sessions.idle = c.sessionIdle

theorem create_settled (c : Configuration) (clients : Ipv4 × Ipv4) (reliable : Bool) :
    (create c clients reliable).Settled c :=
  have created := create_tenanted c clients reliable
  ⟨created.1, created.2, rfl, rfl⟩

theorem step_settled (settled : p.Settled c) (e : Event) : (p.step e).1.Settled c := by
  have successor := step_successor settled.tenanted settled.rest e
  exact ⟨successor.tenanted, successor.rest, successor.external.trans settled.external,
    successor.idle.trans settled.idle⟩

theorem count_settled {f : Counters → Counters} (settled : p.Settled c)
    (same : ∀ counters, (f counters).noRoute = counters.noRoute) : (p.count f).Settled c := by
  obtain ⟨⟨sound, indexed, mapped, shared, routed⟩, ⟨changes, sessions, mappings⟩, external,
    idle⟩ := settled
  exact ⟨⟨sound, indexed, mapped, shared, (same _).trans routed⟩, ⟨changes, sessions, mappings⟩,
    external, idle⟩

/-- The message of `source` is data of a live session from its own address, and `packet` is what
the masquerade makes of it. -/
structure Genuine (c : Configuration) (p : Plane) (source : Peer) (payload packet : Bytes)
    (entry : Timed Session) (flow : Flow) (port : UInt16) : Prop where
  kind : Payload.kind? payload = some .data
  recorded : p.registry.sessions.entries.find? source = some entry
  live : p.now - entry.lastUse ≤ c.sessionIdle
  leased : ∃ l, p.registry.leases.find? entry.value.address = some l ∧ l.group = entry.value.group
  own : Payload.source? payload = some entry.value.address
  parsed : Flow.parse? payload = some flow
  translated : (p.masquerade.outbound p.now payload).2 = (packet, some port)
  /-- The packet comes from the external address and the port that the masquerade gave it. -/
  external : Payload.source? packet = some c.tunnelDestination ∧
    ∃ seen, Flow.parse? packet = some seen ∧ seen.source = ⟨c.tunnelDestination, port⟩
  /-- Afterwards the port stands for the sender. -/
  mapped : (p.message source payload).1.masquerade.reverse.peek? port =
    some ⟨entry.value.address, flow.source.port⟩

theorem join_packet (p : Plane) (source : Peer) (payload : Bytes) :
    (p.join source payload).2.packet = none := by
  unfold join
  split
  · rfl
  · split
    · rfl
    · dsimp only
      split <;> rfl

theorem leave_packet (p : Plane) (source : Peer) : (p.leave source).2.packet = none := by
  unfold leave
  split <;> rfl

theorem message_packet (made : (p.message source payload).2.packet = some packet) :
    Payload.kind? payload = some .data ∧ p.message source payload = p.data source payload := by
  unfold message at made ⊢
  split
  · rename_i oversized
    simp [oversized] at made
  · rename_i fits
    rw [if_neg fits] at made
    cases kind : Payload.kind? payload with
    | none => simp [kind] at made
    | some k =>
      cases k with
      | join => simp [kind, join_packet] at made
      | leave => simp [kind, leave_packet] at made
      | data => exact ⟨rfl, rfl⟩

theorem data_packet (made : (p.data source payload).2.packet = some packet) :
    ∃ r session t port, p.registry.lookup p.now source = (r, some session) ∧
      Payload.source? payload = some session.address ∧
      p.masquerade.outbound p.now payload = (t, packet, some port) ∧
      (p.data source payload).1 = { p with registry := r, masquerade := t }.settle.1 := by
  unfold data at made ⊢
  rcases looked : p.registry.lookup p.now source with ⟨r, _ | session⟩
  · simp [looked, quiet] at made
  · simp only [looked] at made ⊢
    by_cases own : Payload.source? payload = some session.address
    · rcases sent : p.masquerade.outbound p.now payload with ⟨t, packet', _ | port⟩
      · simp [own, sent, quiet] at made
      · simp only [own, sent, ne_eq, not_true, if_false, Option.some.injEq] at made ⊢
        obtain rfl := made
        exact ⟨r, session, t, port, rfl, rfl, rfl, rfl⟩
    · simp [own, quiet] at made

/-- Without changes to carry over, settling leaves the mappings as they are. -/
theorem settle_reverse (changes : p.registry.changes = []) :
    p.settle.1.masquerade.reverse = p.masquerade.reverse := by
  simp [settle, changes]

/-- Only genuine messages are turned into packets. -/
theorem genuine_of_packet (settled : p.Settled c)
    (made : (p.message source payload).2.packet = some packet) :
    ∃ entry flow port, Genuine c p source payload packet entry flow port := by
  obtain ⟨kind, handled⟩ := message_packet made
  rw [handled] at made
  obtain ⟨r, session, t, port, looked, own, sent, after⟩ := data_packet made
  obtain ⟨⟨entry, recorded, rfl, live⟩, rfl⟩ := Registry.lookup_some looked
  obtain ⟨flow, parsed, rfl, mapped⟩ := Masquerade.outbound_some sent
  have seated := IdleMap.peek?_of_find? recorded
  obtain ⟨l, leased⟩ := settled.tenanted.sound.leased source _ seated
  have group := (settled.tenanted.sound.fits _ l leased).group source _ seated rfl
  have source_eq : flow.source.address = entry.value.address := by
    rw [Flow.source?_of_parse? parsed] at own
    exact Option.some.inj own
  have seen := Flow.parse?_readdress parsed .source ⟨p.masquerade.external, port⟩
  have new_source : (flow.withEnd .source ⟨p.masquerade.external, port⟩).source =
      ⟨c.tunnelDestination, port⟩ := by
    rw [← settled.external]
    exact (Flow.withEnd_endpoint _ _ _ .source).trans (by simp)
  refine ⟨entry, flow, port, ?_⟩
  constructor
  · exact kind
  · exact recorded
  · rw [← settled.idle]
    simpa [IdleMap.expired] using live
  · exact ⟨l, leased, group.symm⟩
  · exact own
  · exact parsed
  · rw [sent]
  · rw [Flow.source?_of_parse? seen, new_source]
    exact ⟨rfl, _, seen, new_source⟩
  · rw [handled, after, settle_reverse]
    · exact mapped.trans (congrArg some (congrArg (Endpoint.mk · flow.source.port) source_eq))
    · exact settled.rest.changes

end Plane

namespace Gateway

variable {c : Configuration} {g : Gateway} {P : Plane → Prop}

/-- A property of planes that outlasts steps and the counting that the gateway does itself, which is
never of packets without a destination. -/
structure Kept (P : Plane → Prop) : Prop where
  step : ∀ p e, P p → P (p.step e).1
  count : ∀ p f, (∀ counters : Counters, (f counters).noRoute = counters.noRoute) → P p →
    P (p.count f)

theorem count_plane (kept : Kept P) (holds : P g.plane) {f : Counters → Counters}
    (same : ∀ counters, (f counters).noRoute = counters.noRoute) : P (g.count f).plane :=
  kept.count g.plane f same holds

theorem follow_plane (kept : Kept P) (holds : P g.plane) (effect : Lifecycle.Effect) :
    P (g.follow effect).plane := by
  cases effect with
  | lose byUser => exact kept.step _ (.lose g.lifecycle.transport byUser) holds
  | sweep => exact kept.step _ .sweep holds
  | packet packet =>
    simp only [follow]
    exact count_plane kept holds (by simp)
  | _ => exact holds

theorem live_plane (kept : Kept P) (holds : P g.plane) (e : Lifecycle.Event) :
    P (g.live e).plane :=
  live_preserves (P := fun h => P h.plane) e holds
    fun _ effect holds => follow_plane kept holds effect

theorem counted_plane (kept : Kept P) (holds : P g.plane) (o : Pipeline.Offer) :
    P (g.counted o).plane := by
  cases o with
  | waits => exact holds
  | _ =>
    simp only [counted]
    exact count_plane kept holds (by simp)

theorem step_plane (kept : Kept P) (holds : P g.plane) (e : Event) : P (g.step e).plane := by
  cases e with
  | deliver source payload =>
    simp only [step, deliver]
    split
    · exact count_plane kept holds (by simp)
    · split
      · exact holds
      · exact count_plane kept holds (by simp)
  | serve i =>
    simp only [step, serve]
    split
    · exact holds
    · rename_i source payload _
      have handled := kept.step _ (.message source payload) holds
      split
      · exact handled
      · refine counted_plane kept ?_ _
        exact handled
  | release i =>
    simp only [step, release]
    split
    · exact holds
    · refine counted_plane kept ?_ _
      exact holds
  | take => exact holds
  | wrote =>
    simp only [step, wrote]
    split <;> exact holds
  | writeFailed reason =>
    simp only [step, writeFailed]
    split
    · refine live_plane kept ?_ _
      exact holds
    · exact holds
  | handle i =>
    simp only [step, handle]
    split
    · exact holds
    · rename_i packet _
      exact kept.step _ (.arrival packet) holds
  | live e => exact live_plane kept holds e
  | receive enabled => exact kept.step _ (.receive enabled) holds
  | advance milliseconds => exact kept.step _ (.advance milliseconds) holds

theorem run_plane (kept : Kept P) (start : P g.plane) (events : List Event) :
    P (g.run events).plane :=
  List.foldlRecOn (motive := fun h => P h.plane) events step start
    fun _ holds e _ => step_plane kept holds e

/-- What holds of the plane at first holds of every plane that handles a message. -/
theorem handlings_plane (kept : Kept P) (holds : P g.plane) (events : List Event) :
    ∀ h ∈ g.handlings events, P h.plane := by
  induction events generalizing g with
  | nil => simp [handlings]
  | cons e rest ih =>
    intro h member
    rcases List.mem_append.1 member with now | later
    · have here : h.plane = g.plane := by
        cases e <;> simp only [handling, List.not_mem_nil] at now
        split at now
        · rw [List.mem_singleton.1 now]
        · simp at now
      exact here ▸ holds
    · exact ih (step_plane kept holds e) h later

/-- What a sequence of steps has put into the outbound queue, traced back. -/
structure Provenance (c : Configuration) (g : Gateway) (events : List Event) : Prop where
  /-- Every message that was handled came in before, each for itself. -/
  messages : ((g.handlings events).map Handling.message).Subperm (events.flatMap incoming)
  /-- Every packet that entered the queue was made of a message of its own, and that was genuine. -/
  packets : ∃ makers : List Handling, makers.Subperm (g.handlings events) ∧
    List.Forall₂ (fun packet h => ∃ entry flow port,
      Plane.Genuine c h.plane h.source h.payload packet entry flow port) (g.entries events) makers

/-- Every packet that enters the outbound queue comes from a message of its own, and in a flow that
can be rewritten both readers see the same sender. -/
theorem run_provenance {transport : String} {reliable : Bool} {lanes : Nat} {route : Peer → Nat}
    (created : create c transport reliable lanes route = .ok g) (events : List Event) :
    Provenance c g events ∧ ∀ packet flow, Flow.parse? packet = some flow →
      Payload.source? packet = some flow.source.address := by
  have start : g.plane.Settled c ∧ g.pipeline.queued = [] ∧ g.pipeline.held = [] := by
    unfold create at created
    split at created
    · cases created
    · split at created
      · cases created
      · obtain rfl := Except.ok.inj created
        refine ⟨Plane.create_settled _ _ _, ?_, ?_⟩ <;>
          simp [Pipeline.create, Pipeline.queued, Pipeline.held]
  obtain ⟨settled, empty⟩ := start
  refine ⟨⟨?_, ?_⟩, fun packet flow => Flow.source?_of_parse?⟩
  · have moved := g.run_messages events
    rw [empty.1, List.nil_append] at moved
    exact (List.sublist_append_left _ _).subperm.trans moved
  · have moved := g.run_packets events
    rw [empty.2, List.nil_append] at moved
    obtain ⟨makers, among, matched⟩ :=
      exists_makers ((List.sublist_append_left _ _).subperm.trans moved)
    have kept : Kept (Plane.Settled c) :=
      ⟨fun _ e settled => Plane.step_settled settled e,
        fun _ _ same settled => Plane.count_settled settled same⟩
    refine ⟨makers, among, List.forall₂_iff_zip.2 ⟨matched.length_eq, fun member => ?_⟩⟩
    have made := (List.forall₂_iff_zip.1 matched).2 member
    have handled := among.subset (List.of_mem_zip member).2
    exact Plane.genuine_of_packet (handlings_plane kept settled events _ handled) made

/-- A client joins and sends a datagram. -/
def oneClient : List Event :=
  let client := some (.relay "client")
  let request : JoinRequest := ⟨"secret", "group"⟩
  [.receive true, .deliver client request.encode, .serve 0,
    .deliver client [0x45, 0, 0, 28, 0, 0, 0, 0, 64, 17, 0, 0, 10, 0, 0, 1, 93, 184, 216, 34,
      0x30, 0x39, 0, 53, 0, 8, 0, 0], .serve 0]

/-- The datagram of the client is traced back to it. -/
theorem oneClient_provenance :
    ∃ g, create { sharedSecret := "secret" } "relay" true 1 (fun _ => 0) = .ok g ∧
      Provenance { sharedSecret := "secret" } g oneClient ∧ (g.entries oneClient).length = 1 := by
  refine ⟨_, rfl, (run_provenance rfl oneClient).1, ?_⟩
  decide +kernel

end Gateway

end Concentrator
