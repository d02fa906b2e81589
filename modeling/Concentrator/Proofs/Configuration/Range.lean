import Concentrator.Configuration.Basic

/-!
# The client addresses of a configuration

`check_eq_ok_iff` reads the check of a configuration backwards. The pool of client
addresses that comes with a sound configuration holds nothing but hosts of its
network that neither end of the tunnel uses.
-/

namespace Concentrator.Configuration

variable {c : Configuration} {range : Ipv4 × Ipv4} {a : Ipv4}

theorem stepDown_le (first : Nat) (reserved : List Nat) (n : Nat) :
    stepDown first reserved n ≤ n := by
  induction n with
  | zero => exact Nat.le_refl 0
  | succ n ih =>
    unfold stepDown
    split
    · omega
    · exact Nat.le_refl _

/-- The pool begins with the first client address and ends before the broadcast address. -/
theorem clientRange_bounds (cut : c.clientRange = .ok range) :
    range.1 = c.firstClient ∧ c.network.network.toNat < range.1.toNat ∧
      range.1.toNat ≤ range.2.toNat ∧ range.2.toNat < c.network.broadcast.toNat := by
  unfold clientRange at cut
  dsimp only at cut
  split at cut
  · cases cut
  · split at cut
    · cases cut
    · rename_i host
      split at cut
      · cases cut
      · rename_i some_left
        obtain rfl := Except.ok.inj cut
        have bound := c.network.broadcast.bits.toNat_lt
        have down := stepDown_le c.firstClient.toNat (c.tunnelAddresses.map Ipv4.toNat)
          (c.network.broadcast.toNat - 1)
        have top : ∀ n, n < 2 ^ 32 → (Ipv4.ofNat n).toNat = n := fun n small =>
          UInt32.toNat_ofNat_of_lt' small
        simp only [not_or, Nat.not_le, Nat.not_lt] at host some_left
        rw [top _ (by simp only [Ipv4.toNat] at *; omega)]
        exact ⟨rfl, host.1, some_left, by omega⟩

/-- What the check of a configuration looks for. -/
structure Checked (c : Configuration) (range : Ipv4 × Ipv4) : Prop where
  secret : c.sharedSecret ≠ ""
  unambiguous : ';' ∉ c.sharedSecret.toList
  mtu : 576 ≤ c.mtu.toNat ∧ c.mtu.toNat ≤ maxPayload
  tunnel : c.tunnelSource ≠ c.tunnelDestination
  ports : c.ports.1 ≠ 0 ∧ c.ports.1 ≤ c.ports.2
  times : c.sessionIdleSeconds ≠ 0 ∧ c.mappingIdleSeconds ≠ 0 ∧ c.sweepSeconds ≠ 0
  queue : c.queueSize ≠ 0
  access : c.access.isComplete = true
  cut : c.clientRange = .ok range
  outside : ∀ a ∈ c.tunnelAddresses, inRange range a = false

section Guards

variable {ε α β : Type} {e : ε} {b : β}

theorem throw_bind (next : α → Except ε β) : (throw e >>= next : Except ε β) = .error e := rfl

theorem bind_eq_ok_iff {x : Except ε α} {next : α → Except ε β} :
    (x >>= next) = .ok b ↔ ∃ a, x = .ok a ∧ next a = .ok b := by
  cases x <;> simp [bind, Except.bind]

theorem refuse_eq_ok_iff {p : Prop} [Decidable p] {next : Except ε β} :
    (if p then .error e else next) = .ok b ↔ ¬ p ∧ next = .ok b := by
  by_cases h : p <;> simp [h]

end Guards

theorem check_eq_ok_iff : c.check = .ok range ↔ c.Checked range := by
  unfold check
  simp only [throw_bind, refuse_eq_ok_iff, bind_eq_ok_iff]
  constructor
  · rintro ⟨secret, unambiguous, mtu, tunnel, ports, times, queue, access, cut, taken, passed⟩
    rw [not_or, Nat.not_lt, Nat.not_lt] at mtu
    rw [not_or, UInt16.not_lt] at ports
    rw [not_or, not_or] at times
    split at passed
    · cases passed
    · rename_i out
      obtain rfl := Except.ok.inj passed
      refine ⟨secret, unambiguous, mtu, tunnel, ports, times, queue, Decidable.not_not.1 access,
        taken, fun a member => ?_⟩
      simpa using List.find?_eq_none.1 out a member
  · rintro ⟨secret, unambiguous, mtu, tunnel, ports, times, queue, access, taken, outside⟩
    rw [not_or, Nat.not_lt, Nat.not_lt, not_or, UInt16.not_lt, not_or, not_or]
    have out : c.tunnelAddresses.find? (inRange range) = none :=
      List.find?_eq_none.2 fun a member => by simp [outside a member]
    refine ⟨secret, unambiguous, mtu, tunnel, ports, times, queue, not_not_intro access, range,
      taken, ?_⟩
    rw [out]
    rfl

/-- A host of the network, from the first client address on, that is at neither end of the
tunnel. -/
structure Usable (c : Configuration) (a : Ipv4) : Prop where
  first : c.firstClient.toNat ≤ a.toNat
  network : c.network.network.toNat < a.toNat
  broadcast : a.toNat < c.network.broadcast.toNat
  source : a ≠ c.tunnelSource
  destination : a ≠ c.tunnelDestination

theorem Checked.usable (checked : c.Checked range) (low : range.1.bits ≤ a.bits)
    (high : a.bits ≤ range.2.bits) : c.Usable a := by
  obtain ⟨begins, above, -, below⟩ := clientRange_bounds checked.cut
  have low : range.1.toNat ≤ a.toNat := UInt32.le_iff_toNat_le.1 low
  have high : a.toNat ≤ range.2.toNat := UInt32.le_iff_toNat_le.1 high
  have inside : inRange range a = true := decide_eq_true ⟨low, high⟩
  have apart : ∀ end_ ∈ c.tunnelAddresses, a ≠ end_ := by
    rintro _ member rfl
    rw [checked.outside a member] at inside
    cases inside
  constructor
  · rw [← begins]
    exact low
  · omega
  · omega
  · exact apart _ (by simp [tunnelAddresses])
  · exact apart _ (by simp [tunnelAddresses])

end Concentrator.Configuration
