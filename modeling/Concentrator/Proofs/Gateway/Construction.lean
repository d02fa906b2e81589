import Concentrator.Gateway.Basic
import Concentrator.Proofs.Configuration.Range
import Concentrator.Proofs.Gateway.Passage
import Concentrator.Proofs.Gateway.Turns
import Concentrator.Proofs.Masquerade.Evolution

/-!
# Gateways that can be built

A sound configuration gives a gateway unless its queues are longer than a queue
can be, which the check does not look at. `create_operable` says what holds of
such a gateway: everything that its parts are built from is in range.
-/

namespace Concentrator

namespace Lifecycle

variable {l l' : Lifecycle} {effects : List Effect}

theorem resolves_period {r : Request} (resolves : Resolves r l l' effects) :
    l'.period = l.period := by
  cases resolves <;> rfl

theorem breaks_period {operation reason : String} (breaks : Breaks operation reason l l' effects) :
    l'.period = l.period := by
  cases breaks <;> rfl

theorem step_period (now : Nat) (l : Lifecycle) (e : Event) :
    (l.step now e).1.period = l.period := by
  have turn := step_turn now l e
  generalize (l.step now e).1 = l', (l.step now e).2 = effects at turn ⊢
  cases turn with
  | acquires _ _ _ _ _ resolves =>
    have same := resolves_period resolves
    exact same
  | joinsSweeper _ _ _ _ _ _ _ resolves =>
    have same := resolves_period resolves
    exact same
  | readBreaks _ _ _ _ _ _ breaks =>
    have same := breaks_period breaks
    exact same
  | writeBreaks _ breaks => exact breaks_period breaks
  | _ => rfl

end Lifecycle

namespace Gateway

variable {c : Configuration} {clients : Ipv4 × Ipv4} {g : Gateway}

theorem follow_lifecycle (g : Gateway) (effect : Lifecycle.Effect) :
    (g.follow effect).lifecycle = g.lifecycle := by
  cases effect <;> rfl

theorem live_period (g : Gateway) (e : Lifecycle.Event) :
    (g.live e).lifecycle.period = g.lifecycle.period :=
  live_preserves (P := fun h => h.lifecycle.period = g.lifecycle.period) e
    (g.lifecycle.step_period g.plane.now e)
    fun h effect same => (congrArg Lifecycle.period (h.follow_lifecycle effect)).trans same

theorem counted_lifecycle (g : Gateway) (o : Pipeline.Offer) :
    (g.counted o).lifecycle = g.lifecycle := by
  cases o <;> rfl

/-- The sweeper keeps its period, however often it is started. -/
theorem step_period (g : Gateway) (e : Event) :
    (g.step e).lifecycle.period = g.lifecycle.period := by
  cases e with
  | deliver source payload =>
    simp only [step, deliver]
    split
    · rfl
    · split <;> rfl
  | serve i =>
    simp only [step, serve]
    split
    · rfl
    · split
      · rfl
      · exact congrArg Lifecycle.period (counted_lifecycle _ _)
  | release i =>
    simp only [step, release]
    split
    · rfl
    · exact congrArg Lifecycle.period (counted_lifecycle _ _)
  | wrote =>
    simp only [step, wrote]
    split <;> rfl
  | writeFailed reason =>
    simp only [step, writeFailed]
    split
    · exact live_period _ _
    · rfl
  | handle i =>
    simp only [step, handle]
    split <;> rfl
  | live e => exact g.live_period e
  | _ => rfl

theorem run_period (g : Gateway) (events : List Event) :
    (g.run events).lifecycle.period = g.lifecycle.period :=
  List.foldlRecOn (motive := fun h => h.lifecycle.period = g.lifecycle.period) events step rfl
    fun h same e _ => (h.step_period e).trans same

/-- What the parts of a gateway are built from is in range. -/
structure Operable (c : Configuration) (g : Gateway) : Prop where
  capacity : 1 ≤ g.pipeline.capacity ∧ g.pipeline.capacity ≤ maxCapacity
  period : ∀ events, 0 < (g.run events).lifecycle.period
  pool : g.plane.registry.pool.first ≤ g.plane.registry.pool.last
  some_port : 0 < g.plane.masquerade.cursor.size
  /-- Whatever the cursor has counted up to, it offers a port of the configured range. -/
  ports : ∀ next, let cursor := { g.plane.masquerade.cursor with next }
    cursor.first.toNat + (next % cursor.size).toNat ≤ 65535 ∧
      cursor.port.toNat = cursor.first.toNat + (next % cursor.size).toNat ∧
      c.ports.1 ≤ cursor.port ∧ cursor.port ≤ c.ports.2

theorem between_ports {ports : UInt16 × UInt16} (ordered : ports.1 ≤ ports.2) (next : UInt32) :
    let cursor := { PortCursor.between ports.1 ports.2 with next }
    cursor.first.toNat + (next % cursor.size).toNat ≤ 65535 ∧
      cursor.port.toNat = cursor.first.toNat + (next % cursor.size).toNat ∧
      ports.1 ≤ cursor.port ∧ cursor.port ≤ ports.2 := by
  intro cursor
  obtain ⟨first, last⟩ := PortCursor.between_bounds ports.1 ports.2
  have low : cursor.first = ports.1 := first.trans (if_pos ordered)
  have high : cursor.last = ports.2 := last.trans (if_pos ordered)
  have inside := cursor.port_inside
  have offset : cursor.first.toNat + (next % cursor.size).toNat ≤ cursor.last.toNat :=
    cursor.toNat_offset_le
  have word := cursor.last.toNat_lt
  rw [low, high] at inside
  exact ⟨by omega, cursor.toNat_port, inside⟩

theorem operable_of_checked (checked : c.Checked clients)
    (short : c.queueSize.toNat ≤ maxCapacity) (transport : String) (reliable : Bool) (lanes : Nat)
    (route : Peer → Nat) :
    Operable c {
      plane := .create c clients reliable
      pipeline := .create c.queueSize.toNat lanes
      lifecycle := { transport, period := c.sweepPeriod }
      route } := by
  constructor
  · have some_room : c.queueSize.toNat ≠ 0 := fun zero =>
      checked.queue (UInt64.toNat_inj.1 zero)
    exact ⟨Nat.one_le_iff_ne_zero.2 some_room, short⟩
  · intro events
    have some_time : c.sweepSeconds.toNat ≠ 0 := fun zero =>
      checked.times.2.2 (UInt64.toNat_inj.1 zero)
    rw [run_period]
    exact Nat.mul_pos (Nat.pos_of_ne_zero some_time) (by decide)
  · obtain ⟨-, -, ordered, -⟩ := Configuration.clientRange_bounds checked.cut
    exact UInt32.le_iff_toNat_le.2 ordered
  · refine UInt32.lt_iff_toNat_lt.2 ?_
    rw [PortCursor.toNat_size]
    exact Nat.succ_pos _
  · exact between_ports checked.ports.2

/-- A sound configuration gives a gateway whose parts are all in range, unless it asks for a queue
that is longer than any can be. -/
theorem create_operable (checked : c.check = .ok clients) (transport : String) (reliable : Bool)
    (lanes : Nat) (route : Peer → Nat) :
    c.queueSize.toNat ≤ maxCapacity ∧
        (∃ g, create c transport reliable lanes route = .ok g ∧ g.Operable c) ∨
      maxCapacity < c.queueSize.toNat ∧
        create c transport reliable lanes route = .error (.queueTooLong c.queueSize.toNat) := by
  have sound := Configuration.check_eq_ok_iff.1 checked
  unfold create
  rw [checked]
  dsimp only
  rcases Nat.lt_or_ge maxCapacity c.queueSize.toNat with long | short
  · exact .inr ⟨long, if_pos long⟩
  · refine .inl ⟨short, _, if_neg (Nat.not_lt.2 short), ?_⟩
    exact operable_of_checked sound short transport reliable lanes route

/-- Everything left as it is but the secret. -/
theorem standard_operable :
    let c : Configuration := { sharedSecret := "secret1" }
    c.check = .ok (.ofOctets 10 0 0 1, .ofOctets 10 255 255 253) ∧ c.queueSize.toNat ≤ maxCapacity ∧
      ∃ g, create c "udp" false defaultLanes Peer.spread = .ok g ∧ g.Operable c := by
  intro c
  have checked : c.check = .ok (.ofOctets 10 0 0 1, .ofOctets 10 255 255 253) := by decide +kernel
  have short : c.queueSize.toNat ≤ maxCapacity := by decide +kernel
  rcases create_operable checked "udp" false defaultLanes Peer.spread with
    ⟨-, built⟩ | ⟨long, -⟩
  · exact ⟨checked, short, built⟩
  · exact absurd short (Nat.not_le.2 long)

/-- The check passes a queue that is one longer than any can be. -/
theorem longQueue_unbuilt :
    let c : Configuration := { sharedSecret := "secret1", queueSize := 2305843009213693952 }
    c.check = .ok (.ofOctets 10 0 0 1, .ofOctets 10 255 255 253) ∧
      ¬∃ g, create c "udp" false defaultLanes Peer.spread = .ok g := by
  intro c
  have checked : c.check = .ok (.ofOctets 10 0 0 1, .ofOctets 10 255 255 253) := by decide +kernel
  refine ⟨checked, ?_⟩
  rintro ⟨g, built⟩
  have long : maxCapacity < c.queueSize.toNat := by decide +kernel
  rw [create, checked] at built
  dsimp only at built
  rw [if_pos long] at built
  cases built

end Gateway

end Concentrator
