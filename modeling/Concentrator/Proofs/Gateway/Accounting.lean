import Concentrator.Proofs.Gateway.Lanes
import Concentrator.Proofs.Gateway.Provenance
import Concentrator.Proofs.Gateway.Turns

/-!
# Every packet is accounted for

Each message that is delivered and each packet that is read ends in exactly one
counter, or is still on its way. `run_accounted` draws up both accounts for any
interleaving.
-/

namespace Concentrator

namespace Counters

/-- The messages that have been counted. -/
def messages (c : Counters) : Nat :=
  c.malformed + c.queueFull + c.accepted + c.rejected + c.leaves + c.noSession + c.spoofed +
    c.untranslatable + c.writeFailed + c.fromClients

/-- The packets from the interface that have been counted after they were handled. -/
def packets (c : Counters) : Nat := c.toClients + c.unmapped + c.noRoute

end Counters

namespace Lifecycle

def Effect.isPacket : Effect → Bool
  | .packet _ => true
  | _ => false

theorem turn_packets {now : Nat} {l l' : Lifecycle} {e : Event} {effects : List Effect}
    (turn : Turn now l e l' effects) : effects.countP Effect.isPacket ≤ 1 := by
  cases turn with
  | acquires r rest free next rests resolves => cases resolves <;> exact Nat.zero_le _
  | joinsSweeper r token t waits member own finished resolves =>
    cases resolves <;> exact Nat.zero_le _
  | readBreaks e i t reason may cause breaks => cases breaks <;> exact Nat.zero_le _
  | writeBreaks reason breaks => cases breaks <;> exact Nat.zero_le _
  | reads => exact Nat.le_refl _
  | _ => exact Nat.zero_le _

end Lifecycle

/-! ### Lanes -/

def Lane.stock (l : Lane) : Nat := l.queue.length + l.held.toList.length

namespace Pipeline

variable {p q : Pipeline} {i : Nat} {message : Peer × Bytes} {o : Offer}

/-- The messages and packets that are still in lanes. -/
def stock (p : Pipeline) : Nat := p.queued.length + p.held.length

/-- What is left of the stock after an operation on one lane. -/
theorem stock_of_set (inside : i < p.lanes.length) (l : Lane) (lanes : q.lanes = p.lanes.set i l) :
    q.stock + (p.lane i).stock = p.stock + l.stock := by
  obtain ⟨_, _, queued, queued', -⟩ := flatMap_around Lane.queue inside
  obtain ⟨_, _, held, held', -⟩ := flatMap_around (fun l => l.held.toList) inside
  have now_queued := queued' l
  have now_held := held' l
  rw [setLane, ← lanes] at now_queued now_held
  simp only [stock, Lane.stock, Pipeline.queued, Pipeline.held, queued, now_queued, held, now_held,
    List.length_append]
  omega

theorem enqueue_stock (inside : i < p.lanes.length) (message : Peer × Bytes) :
    (p.enqueue i message).1.stock = p.stock + (p.enqueue i message).2.toNat := by
  rcases p.enqueue_cases i message with room | full
  · have moved := stock_of_set inside { p.lane i with queue := (p.lane i).queue ++ [message] }
      (congrArg (·.1.lanes) room)
    simp only [Lane.stock, List.length_append, List.length_singleton] at moved
    rw [congrArg Prod.snd room, Bool.toNat_true]
    omega
  · rw [full, Bool.toNat_false, Nat.add_zero]

theorem dequeue_stock (taken : p.dequeue i = (q, some message)) : q.stock + 1 = p.stock := by
  have inside := dequeue_inside taken
  obtain ⟨rest, free, waiting, rfl⟩ := dequeue_some taken
  have moved := stock_of_set (q := p.setLane i { queue := rest }) inside _ rfl
  simp only [Lane.stock, free, waiting, List.length_cons, Option.toList_none, List.length_nil]
    at moved
  omega

theorem dequeue_free (taken : p.dequeue i = (q, some message)) :
    i < q.lanes.length ∧ (q.lane i).held = none := by
  have inside := dequeue_inside taken
  obtain ⟨rest, free, -, rfl⟩ := dequeue_some taken
  refine ⟨by simpa [setLane] using inside, ?_⟩
  rw [lane_setLane inside, if_pos rfl]

theorem offer_stock (inside : i < p.lanes.length) (free : (p.lane i).held = none)
    (packet : Bytes) :
    (p.offer i packet).1.stock = p.stock + if (p.offer i packet).2 = .waits then 1 else 0 := by
  rcases p.offer_cases i packet with ⟨-, gone⟩ | ⟨-, room⟩ | ⟨-, full⟩
  · rw [gone]
    rfl
  · rw [room]
    rfl
  · have moved := stock_of_set inside { p.lane i with held := some packet }
      (congrArg (·.1.lanes) full)
    simp only [Lane.stock, free, Option.toList_none, Option.toList_some, List.length_nil,
      List.length_singleton] at moved
    rw [if_pos (congrArg Prod.snd full)]
    omega

theorem release_stock (released : p.release i = (q, some o)) :
    q.stock + 1 = p.stock ∧ o ≠ .waits := by
  have inside := release_inside released
  obtain ⟨packet, holds, outcome⟩ := release_some released
  have lanes : q.lanes = p.lanes.set i { p.lane i with held := none } := by
    rcases outcome with ⟨-, -, rfl⟩ | ⟨-, -, rfl⟩ <;> rfl
  have moved := stock_of_set inside _ lanes
  simp only [Lane.stock, holds, Option.toList_none, Option.toList_some, List.length_nil,
    List.length_singleton] at moved
  refine ⟨by omega, ?_⟩
  rcases outcome with ⟨-, rfl, -⟩ | ⟨-, rfl, -⟩ <;> decide

end Pipeline

/-! ### Messages and packets that are handled -/

namespace Gateway

/-- A request to leave from a peer without a session. -/
def Handling.futile (h : Handling) : Bool :=
  ¬ Payload.oversized h.payload ∧ Payload.kind? h.payload = some .leave ∧
    h.plane.registry.sessions.peek? h.source = none

end Gateway

namespace Plane

variable {p : Plane} {source : Peer} {payload : Bytes}

/-- What a message comes to when it is handled. -/
inductive Fate where
  | malformed
  | accepted
  | rejected
  | left
  /-- A request to leave that ends no session. -/
  | futile
  | noSession
  | spoofed
  | untranslatable
  /-- It is turned into a packet, and counted once that has come through. -/
  | translated
deriving DecidableEq

def Fate.mark (c : Counters) : Fate → Counters
  | .malformed => { c with malformed := c.malformed + 1 }
  | .accepted => { c with accepted := c.accepted + 1 }
  | .rejected => { c with rejected := c.rejected + 1 }
  | .left => { c with leaves := c.leaves + 1 }
  | .noSession => { c with noSession := c.noSession + 1 }
  | .spoofed => { c with spoofed := c.spoofed + 1 }
  | .untranslatable => { c with untranslatable := c.untranslatable + 1 }
  | .futile | .translated => c

theorem Fate.mark_messages (fate : Fate) (c : Counters) :
    (fate.mark c).messages + (if fate = .futile then 1 else 0) +
      (if fate = .translated then 1 else 0) = c.messages + 1 := by
  cases fate <;> simp [mark, Counters.messages] <;> omega

theorem Fate.mark_packets (fate : Fate) (c : Counters) :
    (fate.mark c).read = c.read ∧ (fate.mark c).packets = c.packets := by
  cases fate <;> exact ⟨rfl, rfl⟩

theorem settle_counters (p : Plane) : p.settle.1.counters = p.counters :=
  List.foldlRecOn (motive := fun q => q.counters = p.counters) p.registry.changes follow
    (b := { p with registry := { p.registry with changes := [], notices := [] } }) rfl
    fun q same change _ => by cases change <;> exact same

theorem quiet_counters (p : Plane) : p.quiet.1.counters = p.counters :=
  p.settle_counters

theorem join_fate (p : Plane) (source : Peer) (payload : Bytes) :
    ∃ fate : Fate, (fate = .accepted ∨ fate = .rejected) ∧
      (p.join source payload).1.counters = fate.mark p.counters := by
  unfold join
  split
  · exact ⟨.rejected, .inr rfl, rfl⟩
  · split
    · exact ⟨.rejected, .inr rfl, rfl⟩
    · dsimp only
      split
      · refine ⟨.rejected, .inr rfl, ?_⟩
        simp only [count, settle_counters, Fate.mark]
      · refine ⟨.accepted, .inl rfl, ?_⟩
        simp only [count, settle_counters, Fate.mark]

theorem leave_fate (p : Plane) (source : Peer) :
    ∃ fate : Fate, fate = (if p.registry.sessions.peek? source = none then .futile else .left) ∧
      (p.leave source).1.counters = fate.mark p.counters := by
  refine ⟨_, rfl, ?_⟩
  unfold leave Registry.leave
  cases p.registry.sessions.peek? source with
  | none => rfl
  | some session =>
    simp only [quiet_counters]
    rfl

theorem data_fate (p : Plane) (source : Peer) (payload : Bytes) :
    ∃ fate : Fate, fate ≠ .futile ∧ ((p.data source payload).2.packet = none ↔ fate ≠ .translated) ∧
      (p.data source payload).1.counters = fate.mark p.counters := by
  unfold data
  rcases p.registry.lookup p.now source with ⟨registry, _ | session⟩
  · exact ⟨.noSession, by decide, by simp [quiet], quiet_counters _⟩
  · by_cases own : Payload.source? payload = some session.address
    · rcases sent : p.masquerade.outbound p.now payload with ⟨masquerade, packet, _ | port⟩
      · refine ⟨.untranslatable, by decide, ?_⟩
        simp only [own, ne_eq, not_true, if_false, sent, quiet_counters]
        exact ⟨by simp [quiet], rfl⟩
      · refine ⟨.translated, by decide, ?_⟩
        simp only [own, ne_eq, not_true, if_false, sent, quiet_counters]
        exact ⟨by simp, rfl⟩
    · refine ⟨.spoofed, by decide, ?_⟩
      simp only [own, ne_eq, not_false_eq_true, if_true, quiet_counters]
      exact ⟨by simp [quiet], rfl⟩

/-- What a message comes to, the packet that it is turned into and the counters are told alike. -/
theorem message_fate (p : Plane) (source : Peer) (payload : Bytes) :
    ∃ fate : Fate, (fate = .futile ↔ Gateway.Handling.futile ⟨p, source, payload⟩ = true) ∧
      ((p.message source payload).2.packet = none ↔ fate ≠ .translated) ∧
      (p.message source payload).1.counters = fate.mark p.counters := by
  unfold message Gateway.Handling.futile
  cases oversized : Payload.oversized payload with
  | true => exact ⟨.malformed, by simp, by simp, rfl⟩
  | false =>
    cases kind : Payload.kind? payload with
    | none => exact ⟨.malformed, by simp, by simp, rfl⟩
    | some k =>
      cases k with
      | join =>
        obtain ⟨fate, which, counters⟩ := p.join_fate source payload
        refine ⟨fate, ?_, ?_, counters⟩
        · rcases which with rfl | rfl <;> simp
        · have none_made := p.join_packet source payload
          rcases which with rfl | rfl <;> simp [none_made]
      | leave =>
        obtain ⟨fate, which, counters⟩ := p.leave_fate source
        refine ⟨fate, ?_, ?_, counters⟩
        · rw [which]
          cases p.registry.sessions.peek? source <;> simp
        · have none_made := p.leave_packet source
          rw [which]
          cases p.registry.sessions.peek? source <;> simp [none_made]
      | data =>
        obtain ⟨fate, fruitful, made, counters⟩ := p.data_fate source payload
        exact ⟨fate, by simp [fruitful], made, counters⟩

theorem arrival_counters (p : Plane) (packet : Bytes) :
    let c := p.counters
    let c' := (p.arrival packet).1.counters
    c' = { c with toClients := c.toClients + 1 } ∨ c' = { c with unmapped := c.unmapped + 1 } ∨
      c' = { c with noRoute := c.noRoute + 1 } := by
  dsimp only
  unfold arrival
  rcases p.masquerade.inbound p.now packet with ⟨masquerade, packet', _ | internal⟩
  · exact .inr (.inl (quiet_counters _))
  · dsimp only
    rcases p.balancer.next internal.address p.registry with ⟨balancer, _ | destination⟩
    · exact .inr (.inr (quiet_counters _))
    · exact .inl (quiet_counters _)

theorem sweep_counters (p : Plane) : p.sweep.1.counters = p.counters := by
  unfold sweep
  simp only [settle_counters]

theorem lose_counters (p : Plane) (transport : String) (byUser : Bool) :
    (p.lose transport byUser).1.counters = p.counters := by
  unfold lose
  simp only [settle_counters]

end Plane

/-! ### Steps of the gateway -/

namespace Gateway

variable {g : Gateway}

def delivers : Event → Bool
  | .deliver _ _ => true
  | _ => false

/-- The messages that have been counted or are still in lanes. -/
def messages (g : Gateway) : Nat := g.plane.counters.messages + g.pipeline.stock

theorem follow_counters (g : Gateway) (effect : Lifecycle.Effect) :
    ∃ n, (g.follow effect).plane.counters =
        { g.plane.counters with read := g.plane.counters.read + n } ∧
      (g.follow effect).arrivals.length = g.arrivals.length + n := by
  cases effect with
  | packet packet => exact ⟨1, rfl, List.length_append⟩
  | lose byUser => exact ⟨0, g.plane.lose_counters g.lifecycle.transport byUser, rfl⟩
  | sweep => exact ⟨0, g.plane.sweep_counters, rfl⟩
  | _ => exact ⟨0, rfl, rfl⟩

/-- The lifecycle counts only the packets that are read, each of which waits to be handled. -/
theorem live_counters (g : Gateway) (e : Lifecycle.Event) :
    ∃ n, (g.live e).plane.counters =
        { g.plane.counters with read := g.plane.counters.read + n } ∧
      (g.live e).arrivals.length = g.arrivals.length + n := by
  refine live_preserves (P := fun h => ∃ n, h.plane.counters =
      { g.plane.counters with read := g.plane.counters.read + n } ∧
      h.arrivals.length = g.arrivals.length + n) e ⟨0, rfl, rfl⟩ ?_
  rintro h effect ⟨n, counters, arrivals⟩
  obtain ⟨m, counters', arrivals'⟩ := h.follow_counters effect
  refine ⟨n + m, ?_, by omega⟩
  rw [counters', counters]
  simp only [Nat.add_assoc]

/-- Events that leave the lanes alone count only packets from the interface. -/
theorem counters_of_still (g : Gateway) {e : Event} (still : shifts e = false) :
    ∃ read toClients unmapped noRoute, (g.step e).plane.counters =
      { g.plane.counters with read, toClients, unmapped, noRoute } := by
  have same {c : Counters} (counters : c = g.plane.counters) :
      ∃ read toClients unmapped noRoute,
        c = { g.plane.counters with read, toClients, unmapped, noRoute } :=
    ⟨_, _, _, _, counters⟩
  cases e with
  | deliver source payload => cases still
  | serve i => cases still
  | release i => cases still
  | wrote =>
    refine same ?_
    simp only [step, wrote]
    split <;> rfl
  | writeFailed reason =>
    simp only [step, writeFailed]
    split
    · obtain ⟨n, counters, -⟩ :=
        live_counters { g with pipeline := g.pipeline.abandon } (.writeFailed reason)
      exact ⟨_, _, _, _, counters⟩
    · exact same rfl
  | handle i =>
    simp only [step, handle]
    split
    · exact same rfl
    · rename_i packet _
      rcases g.plane.arrival_counters packet with counters | counters | counters <;>
        exact ⟨_, _, _, _, counters⟩
  | live e =>
    obtain ⟨n, counters, -⟩ := g.live_counters e
    exact ⟨_, _, _, _, counters⟩
  | _ => exact same rfl

theorem counted_messages (g : Gateway) (o : Pipeline.Offer) :
    (g.counted o).messages = g.messages + if o = .waits then 0 else 1 := by
  cases o with
  | waits => rfl
  | _ =>
    simp [counted, count, Plane.count, messages, Counters.messages]
    omega

/-- What is handled is taken out of its lane, and either counted or turned into a packet that is
counted or held; only requests to leave without a session vanish. -/
theorem serve_messages (g : Gateway) (i : Nat) :
    (g.serve i).messages + (g.handling (.serve i)).countP Handling.futile = g.messages := by
  rcases taken : g.pipeline.dequeue i with ⟨q, _ | ⟨source, payload⟩⟩
  · rw [serve_of_none (by rw [taken]), handling, taken]
    rfl
  obtain ⟨fate, futile, made, counters⟩ := g.plane.message_fate source payload
  have marked := fate.mark_messages g.plane.counters
  have stock := Pipeline.dequeue_stock taken
  have handled : (g.handling (.serve i)).countP Handling.futile =
      if fate = .futile then 1 else 0 := by
    simp only [handling, taken, List.countP_singleton, futile]
  cases packet : (g.plane.message source payload).2.packet with
  | none =>
    rw [if_neg (made.1 packet)] at marked
    rw [serve_of_none_made taken packet, handled]
    simp only [messages, react, counters]
    omega
  | some bytes =>
    obtain ⟨inside, free⟩ := Pipeline.dequeue_free taken
    -- the packet is counted now unless its lane holds it, and then it is part of the stock
    have offered := Pipeline.offer_stock inside free bytes
    have translated : fate = .translated := by
      refine Decidable.of_not_not fun other => ?_
      rw [made.2 other] at packet
      cases packet
    rw [serve_of_made taken packet, counted_messages, handled]
    simp only [translated, messages, react, counters, if_true, reduceCtorEq, if_false] at marked ⊢
    split at offered <;> simp only [*, if_true, if_false] <;> omega

theorem release_messages (g : Gateway) (i : Nat) : (g.release i).messages = g.messages := by
  unfold release
  rcases released : g.pipeline.release i with ⟨pipeline, _ | o⟩
  · rfl
  · obtain ⟨stock, decided⟩ := Pipeline.release_stock released
    simp only [counted_messages, if_neg decided]
    simp only [messages]
    omega

theorem deliver_messages (manned : 0 < g.pipeline.lanes.length) (source : Option Peer)
    (payload : Bytes) : (g.deliver source payload).messages = g.messages + 1 := by
  cases source with
  | none =>
    simp [deliver, count, Plane.count, messages, Counters.messages]
    omega
  | some peer =>
    have inside : g.laneOf peer < g.pipeline.lanes.length := Nat.mod_lt _ manned
    have stock := Pipeline.enqueue_stock inside (peer, payload)
    simp only [deliver]
    rcases result : g.pipeline.enqueue (g.laneOf peer) (peer, payload) with ⟨q, _ | _⟩
    · simp [count, Plane.count, messages, Counters.messages]
      omega
    · rw [result] at stock
      simp only [messages, stock]
      rfl

/-- Each delivery adds one message; whatever else happens, none is lost or counted twice. -/
theorem step_messages (manned : 0 < g.pipeline.lanes.length) (e : Event) :
    (g.step e).messages + (g.handling e).countP Handling.futile =
      g.messages + (delivers e).toNat := by
  cases still : shifts e with
  | true =>
    cases e with
    | deliver source payload => exact deliver_messages manned source payload
    | serve i => exact g.serve_messages i
    | release i => exact g.release_messages i
    | _ => cases still
  | false =>
    obtain ⟨_, _, _, _, counters⟩ := g.counters_of_still still
    have arrives : delivers e = false := by
      cases e with
      | deliver source payload => cases still
      | _ => rfl
    rw [messages, counters, Pipeline.stock, Pipeline.queued, Pipeline.held, g.lanes_of_still still,
      g.handling_of_still still, arrives]
    rfl

/-- Every packet that was read has been counted once more, or waits to be handled. -/
def PacketsBalance (g : Gateway) : Prop :=
  g.plane.counters.read = g.plane.counters.packets + g.arrivals.length

theorem counted_packets (balanced : g.PacketsBalance) (o : Pipeline.Offer) :
    (g.counted o).PacketsBalance := by
  cases o <;> exact balanced

theorem live_packets (balanced : g.PacketsBalance) (e : Lifecycle.Event) :
    (g.live e).PacketsBalance := by
  obtain ⟨n, counters, arrivals⟩ := g.live_counters e
  rw [PacketsBalance, counters, arrivals, ← Nat.add_assoc]
  exact congrArg (· + n) balanced

theorem handle_packets (balanced : g.PacketsBalance) (i : Nat) :
    (g.handle i).PacketsBalance := by
  unfold handle
  split
  · exact balanced
  · rename_i packet found
    have fewer : (g.arrivals.eraseIdx i).length + 1 = g.arrivals.length := by
      obtain ⟨inside, -⟩ := List.getElem?_eq_some_iff.1 found
      rw [List.length_eraseIdx_of_lt inside]
      omega
    simp only [PacketsBalance, Counters.packets, react] at balanced ⊢
    rcases g.plane.arrival_counters packet with counters | counters | counters <;>
      rw [counters] <;> dsimp only <;> omega

theorem serve_packets (balanced : g.PacketsBalance) (i : Nat) : (g.serve i).PacketsBalance := by
  rcases taken : g.pipeline.dequeue i with ⟨q, _ | ⟨source, payload⟩⟩
  · rwa [serve_of_none (by rw [taken])]
  obtain ⟨fate, -, -, counters⟩ := g.plane.message_fate source payload
  have handled :
      ({ g with pipeline := q }.react (g.plane.message source payload)).PacketsBalance := by
    obtain ⟨read, packets⟩ := fate.mark_packets g.plane.counters
    rw [← counters] at read packets
    rw [PacketsBalance] at balanced
    simp only [PacketsBalance, react, read, packets, balanced]
  cases made : (g.plane.message source payload).2.packet with
  | none =>
    rw [serve_of_none_made taken made]
    exact handled
  | some packet =>
    rw [serve_of_made taken made]
    refine counted_packets ?_ _
    exact handled

theorem step_packets (balanced : g.PacketsBalance) (e : Event) : (g.step e).PacketsBalance := by
  cases e with
  | deliver source payload =>
    simp only [step, deliver]
    split
    · exact balanced
    · split <;> exact balanced
  | serve i => exact serve_packets balanced i
  | release i =>
    simp only [step, release]
    split
    · exact balanced
    · refine counted_packets ?_ _
      exact balanced
  | wrote =>
    simp only [step, wrote]
    split <;> exact balanced
  | writeFailed reason =>
    simp only [step, writeFailed]
    split
    · refine live_packets ?_ _
      exact balanced
    · exact balanced
  | handle i => exact handle_packets balanced i
  | live e => exact live_packets balanced e
  | take => exact balanced
  | receive enabled => exact balanced
  | advance milliseconds => exact balanced

theorem run_messages_balance (manned : 0 < g.pipeline.lanes.length) (events : List Event) :
    (g.run events).messages + (g.handlings events).countP Handling.futile =
      g.messages + events.countP delivers := by
  induction events generalizing g with
  | nil => rfl
  | cons e rest ih =>
    have here := step_messages manned e
    have there := ih (g := g.step e) (by rwa [step_lanes])
    rw [handlings, List.countP_append, List.countP_cons]
    change ((g.step e).run rest).messages + _ = _
    cases arrives : delivers e with
    | true =>
      rw [arrives, Bool.toNat_true] at here
      rw [if_pos rfl]
      omega
    | false =>
      rw [arrives, Bool.toNat_false] at here
      rw [if_neg Bool.false_ne_true]
      omega

theorem run_packets_balance (balanced : g.PacketsBalance) (events : List Event) :
    (g.run events).PacketsBalance := by
  induction events generalizing g with
  | nil => exact balanced
  | cons e rest ih => exact ih (step_packets balanced e)

/-! ### How far the counters go -/

theorem follow_reads (g : Gateway) (effects : List Lifecycle.Effect) :
    (effects.foldl follow g).plane.counters.read =
      g.plane.counters.read + effects.countP Lifecycle.Effect.isPacket := by
  induction effects generalizing g with
  | nil => rfl
  | cons effect rest ih =>
    have first : (g.follow effect).plane.counters.read =
        g.plane.counters.read + effect.isPacket.toNat := by
      cases effect with
      | lose byUser =>
        exact congrArg Counters.read (g.plane.lose_counters g.lifecycle.transport byUser)
      | sweep => exact congrArg Counters.read g.plane.sweep_counters
      | _ => rfl
    rw [List.foldl_cons, ih, first, List.countP_cons]
    cases effect.isPacket
    · rfl
    · simp
      omega

theorem live_reads (g : Gateway) (e : Lifecycle.Event) :
    (g.live e).plane.counters.read ≤ g.plane.counters.read + 1 := by
  have packets := Lifecycle.turn_packets (Lifecycle.step_turn g.plane.now g.lifecycle e)
  have read := follow_reads { g with lifecycle := (g.lifecycle.step g.plane.now e).1 }
    (g.lifecycle.step g.plane.now e).2
  exact Nat.le_trans (Nat.le_of_eq read) (Nat.add_le_add_left packets _)

theorem counted_reads (g : Gateway) (o : Pipeline.Offer) :
    (g.counted o).plane.counters.read = g.plane.counters.read := by
  cases o <;> rfl

theorem serve_reads (g : Gateway) (i : Nat) :
    (g.serve i).plane.counters.read = g.plane.counters.read := by
  rcases taken : g.pipeline.dequeue i with ⟨q, _ | ⟨source, payload⟩⟩
  · rw [serve_of_none (by rw [taken])]
  · obtain ⟨fate, -, -, counters⟩ := g.plane.message_fate source payload
    have same : (g.plane.message source payload).1.counters.read = g.plane.counters.read := by
      rw [counters]
      exact (fate.mark_packets _).1
    cases made : (g.plane.message source payload).2.packet with
    | none =>
      rw [serve_of_none_made taken made]
      exact same
    | some packet =>
      rw [serve_of_made taken made, counted_reads]
      exact same

theorem step_reads (g : Gateway) (e : Event) :
    (g.step e).plane.counters.read ≤ g.plane.counters.read + 1 := by
  have still {n : Nat} (same : n = g.plane.counters.read) : n ≤ g.plane.counters.read + 1 :=
    Nat.le_succ_of_le (Nat.le_of_eq same)
  cases e with
  | deliver source payload =>
    refine still ?_
    simp only [step, deliver]
    split
    · rfl
    · split <;> rfl
  | serve i => exact still (g.serve_reads i)
  | release i =>
    refine still ?_
    simp only [step, release]
    split
    · rfl
    · exact counted_reads _ _
  | wrote =>
    refine still ?_
    simp only [step, wrote]
    split <;> rfl
  | writeFailed reason =>
    simp only [step, writeFailed]
    split
    · exact live_reads { g with pipeline := g.pipeline.abandon } (.writeFailed reason)
    · exact still rfl
  | handle i =>
    refine still ?_
    simp only [step, handle]
    split
    · rfl
    · rename_i packet _
      have arrived : (g.plane.arrival packet).1.counters.read = g.plane.counters.read := by
        rcases g.plane.arrival_counters packet with counters | counters | counters <;> rw [counters]
      exact arrived
  | live e => exact g.live_reads e
  | take => exact still rfl
  | receive enabled => exact still rfl
  | advance milliseconds => exact still rfl

theorem run_reads (g : Gateway) (events : List Event) :
    (g.run events).plane.counters.read ≤ g.plane.counters.read + events.length := by
  induction events generalizing g with
  | nil => exact Nat.le_refl _
  | cons e rest ih =>
    have here := g.step_reads e
    have later := ih (g.step e)
    rw [List.length_cons]
    change ((g.step e).run rest).plane.counters.read ≤ _
    omega

theorem create_blank {c : Configuration} {transport : String} {reliable : Bool} {lanes : Nat}
    {route : Peer → Nat} (created : create c transport reliable lanes route = .ok g) :
    g.plane.counters.read = 0 ∧ g.PacketsBalance ∧ g.messages = 0 ∧
      g.pipeline.lanes.length = lanes := by
  unfold create at created
  split at created
  · cases created
  · split at created
    · cases created
    · obtain rfl := Except.ok.inj created
      refine ⟨rfl, rfl, ?_, ?_⟩ <;>
        simp [messages, Pipeline.stock, Pipeline.queued, Pipeline.held, Pipeline.create,
          Plane.create, Counters.messages]

/-- No counter goes further than events have happened, so that 64 bits hold it until there have
been so many. -/
theorem run_counters_le {c : Configuration} {transport : String} {reliable : Bool} {lanes : Nat}
    {route : Peer → Nat} (created : create c transport reliable lanes route = .ok g)
    (manned : 0 < lanes) (events : List Event) :
    ∀ n ∈ (g.run events).plane.counters.toList, n ≤ events.length := by
  obtain ⟨blank, balanced, empty, width⟩ := create_blank created
  have messages_balance := run_messages_balance (width ▸ manned) events
  have delivered : events.countP delivers ≤ events.length := List.countP_le_length
  have packets_balance := run_packets_balance balanced events
  have read := g.run_reads events
  rw [blank] at read
  rw [empty] at messages_balance
  simp only [messages, Counters.messages] at messages_balance
  simp only [PacketsBalance, Counters.packets] at packets_balance
  simp only [Counters.toList, List.forall_mem_cons, List.not_mem_nil, false_imp_iff, implies_true,
    and_true]
  omega

/-- The accounts of a sequence of steps. -/
structure Accounted (g : Gateway) (events : List Event) : Prop where
  /-- Every packet that was read stands in one of three counters or waits to be handled. -/
  packets :
    let o := g.run events
    let n := o.plane.counters
    n.read = n.toClients + n.unmapped + n.noRoute + o.arrivals.length
  /-- Every message that was delivered stands in one of ten counters, was a request to leave from a
  peer without a session, or is still in a lane. -/
  messages :
    let o := g.run events
    let n := o.plane.counters
    events.countP delivers = n.malformed + n.queueFull + n.accepted + n.rejected + n.leaves +
      n.noSession + n.spoofed + n.untranslatable + n.writeFailed + n.fromClients +
      (g.handlings events).countP Handling.futile + o.pipeline.queued.length +
      o.pipeline.held.length

/-- In any interleaving every packet and every message is accounted for exactly once. -/
theorem run_accounted {c : Configuration} {transport : String} {reliable : Bool} {lanes : Nat}
    {route : Peer → Nat} (created : create c transport reliable lanes route = .ok g)
    (manned : 0 < lanes) (events : List Event) : Accounted g events := by
  obtain ⟨-, balanced, empty, width⟩ := create_blank created
  have account := run_messages_balance (width ▸ manned) events
  refine ⟨run_packets_balance balanced events, ?_⟩
  rw [empty] at account
  simp only [messages, Pipeline.stock, Counters.messages] at account ⊢
  omega

/-- A client asks to join while nobody is let in, sends data and asks to leave twice. -/
def turnedAway : List Event :=
  let client := some (.relay "client")
  let request : JoinRequest := ⟨"secret", "group"⟩
  [.deliver client request.encode, .deliver none [0x45], .deliver client [0x45],
    .deliver client [leaveTag], .serve 0, .serve 0, .serve 0, .deliver client [leaveTag]]

/-- Of five messages three are counted, one was futile and one waits. -/
theorem turnedAway_accounted :
    ∃ g, create { sharedSecret := "secret" } "relay" true 1 (fun _ => 0) = .ok g ∧
      Accounted g turnedAway ∧ (g.run turnedAway).plane.counters.messages = 3 ∧
      (g.handlings turnedAway).countP Handling.futile = 1 ∧
      (g.run turnedAway).pipeline.queued.length = 1 := by
  have created : create { sharedSecret := "secret" } "relay" true 1 (fun _ => 0) = .ok _ := rfl
  refine ⟨_, created, run_accounted created (by decide) turnedAway, ?_⟩
  decide +kernel

end Gateway

end Concentrator
