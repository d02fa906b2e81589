import Concentrator.Proofs.Configuration.Range
import Concentrator.Proofs.Session.Allocation
import Mathlib.Order.Bounds.Defs

/-!
# How far the client addresses reach

The pool could end with any host, from the first client address on, that is at neither end of
the tunnel. `clientRange_greatest` says that it ends with the greatest one, that it is refused
only where there is none, and that 32-bit arithmetic never runs over or under on the way.
-/

namespace Concentrator.Configuration

open Pool (checkedDifference checkedDifference_eq)

variable {c : Configuration} {range : Ipv4 × Ipv4}

/-! ### Checked steps -/

section Steps

variable {first last : UInt32} {reserved : List UInt32}

theorem toNat_predecessor (room : 1 ≤ last) : (last - 1).toNat + 1 = last.toNat := by
  have positive := UInt32.le_iff_toNat_le.1 room
  rw [UInt32.toNat_sub_of_le _ _ room]
  rw [UInt32.toNat_one] at positive ⊢
  omega

/-- The steps down past reserved addresses, none of which may lead below zero. -/
def checkedStepDown (first : UInt32) (reserved : List UInt32) (last : UInt32) :
    Pool.Checked UInt32 :=
  if first ≤ last ∧ last ∈ reserved then
    if room : 1 ≤ last then checkedStepDown first reserved (last - 1) else .error .underflow
  else return last
termination_by last.toNat
decreasing_by
  have predecessor := toNat_predecessor room
  omega

/-- Above zero every step has room for the next one. -/
theorem checkedStepDown_eq (positive : 0 < first.toNat) (last : UInt32) :
    checkedStepDown first reserved last =
      pure (.ofNat (stepDown first.toNat (reserved.map UInt32.toNat) last.toNat)) := by
  have taken : ∀ last : UInt32, last.toNat ∈ reserved.map UInt32.toNat ↔ last ∈ reserved :=
    fun last => List.mem_map_of_injective fun _ _ => UInt32.toNat_inj.1
  fun_induction checkedStepDown first reserved last with
  | case1 last blocked room ih =>
    have predecessor := toNat_predecessor room
    rw [UInt32.le_iff_toNat_le, ← taken, ← predecessor] at blocked
    rw [ih, ← predecessor, stepDown, if_pos blocked]
  | case2 last blocked stuck =>
    rw [UInt32.le_iff_toNat_le] at blocked stuck
    rw [UInt32.toNat_one] at stuck
    omega
  | case3 last free =>
    rw [UInt32.le_iff_toNat_le, ← taken] at free
    cases shape : last.toNat with
    | zero =>
      obtain rfl : last = 0 := UInt32.toNat_inj.1 shape
      rfl
    | succ n =>
      rw [shape] at free
      rw [stepDown, if_neg free, ← shape, UInt32.ofNat_toNat]

end Steps

def checkedClientRange (c : Configuration) : Pool.Checked (Except Defect (Ipv4 × Ipv4)) := do
  let first := c.firstClient.bits
  let broadcast := c.network.broadcast.bits
  if 30 < c.network.prefixLength then return .error (.smallNetwork c.network)
  else if first ≤ c.network.network.bits ∨ broadcast ≤ first then
    return .error (.firstClientOutside c.firstClient c.network)
  else
    let highest ← checkedDifference broadcast 1
    let last ← checkedStepDown first (c.tunnelAddresses.map Ipv4.bits) highest
    if last < first then return .error (.noClients c.network)
    else return .ok (c.firstClient, ⟨last⟩)

/-- No check fails: whatever is subtracted from lies above an address of the network. -/
theorem checkedClientRange_eq (c : Configuration) :
    c.checkedClientRange = pure c.clientRange := by
  have value : ∀ a : Ipv4, a.bits.toNat = a.toNat := fun _ => rfl
  unfold checkedClientRange clientRange
  simp only [UInt32.le_iff_toNat_le, value]
  by_cases small : 30 < c.network.prefixLength
  · rw [if_pos small, if_pos small]
  rw [if_neg small, if_neg small]
  by_cases outside : c.firstClient.toNat ≤ c.network.network.toNat ∨
      c.network.broadcast.toNat ≤ c.firstClient.toNat
  · rw [if_pos outside, if_pos outside]
  rw [if_neg outside, if_neg outside]
  rw [not_or, Nat.not_le, Nat.not_le] at outside
  have room : 1 ≤ c.network.broadcast.bits := by
    rw [UInt32.le_iff_toNat_le, UInt32.toNat_one, value]
    omega
  have highest : (c.network.broadcast.bits - 1).toNat = c.network.broadcast.toNat - 1 :=
    UInt32.toNat_sub_of_le _ _ room
  have reserved : (c.tunnelAddresses.map Ipv4.bits).map UInt32.toNat =
      c.tunnelAddresses.map Ipv4.toNat := List.map_map
  rw [checkedDifference_eq room, pure_bind, checkedStepDown_eq (by rw [value]; omega), pure_bind,
    value, highest, reserved]
  have down := stepDown_le c.firstClient.toNat (c.tunnelAddresses.map Ipv4.toNat)
    (c.network.broadcast.toNat - 1)
  have word := c.network.broadcast.bits.toNat_lt
  rw [value] at word
  generalize stepDown c.firstClient.toNat (c.tunnelAddresses.map Ipv4.toNat)
    (c.network.broadcast.toNat - 1) = last at down ⊢
  have below : UInt32.ofNat last < c.firstClient.bits ↔ last < c.firstClient.toNat := by
    rw [UInt32.lt_iff_toNat_lt, UInt32.toNat_ofNat_of_lt' (by simp only [UInt32.size]; omega),
      value]
  by_cases under : last < c.firstClient.toNat
  · rw [if_pos (below.2 under), if_pos under]
  · rw [if_neg (mt below.1 under), if_neg under]
    rfl

/-! ### The greatest spare address -/

/-- The values of the hosts, from the first client address on, at neither end of the tunnel. -/
def spare (c : Configuration) : Set Nat :=
  {n | c.firstClient.toNat ≤ n ∧ n < c.network.broadcast.toNat ∧
    n ≠ c.tunnelSource.toNat ∧ n ≠ c.tunnelDestination.toNat}

theorem mem_spare_iff {n : Nat} : n ∈ c.spare ↔ c.firstClient.toNat ≤ n ∧
    n < c.network.broadcast.toNat ∧ n ∉ c.tunnelAddresses.map Ipv4.toNat := by
  simp [spare, tunnelAddresses]

/-- Whatever is stepped over is reserved, and what is stopped at is not. -/
theorem stepDown_stops {first : Nat} (reserved : List Nat) (positive : 0 < first) (n : Nat) :
    (∀ m, stepDown first reserved n < m → m ≤ n → m ∈ reserved) ∧
      (first ≤ stepDown first reserved n → stepDown first reserved n ∉ reserved) := by
  induction n with
  | zero =>
    rw [stepDown]
    exact ⟨fun m above below => by omega, fun high => by omega⟩
  | succ n ih =>
    unfold stepDown
    split
    · rename_i blocked
      refine ⟨fun m above below => ?_, ih.2⟩
      rcases Nat.le_succ_iff.1 below with before | rfl
      · exact ih.1 m above before
      · exact blocked.2
    · rename_i free
      exact ⟨fun m above below => by omega, fun high taken => free ⟨high, taken⟩⟩

/-- Below the broadcast address the steps end at the greatest spare value, if there is one. -/
theorem stepDown_spare (host : c.network.network.toNat < c.firstClient.toNat ∧
    c.firstClient.toNat < c.network.broadcast.toNat) :
    let last := stepDown c.firstClient.toNat (c.tunnelAddresses.map Ipv4.toNat)
      (c.network.broadcast.toNat - 1)
    if last < c.firstClient.toNat then c.spare = ∅ else IsGreatest c.spare last := by
  intro last
  have positive : 0 < c.firstClient.toNat := by omega
  obtain ⟨taken, stop⟩ := stepDown_stops (c.tunnelAddresses.map Ipv4.toNat) positive
    (c.network.broadcast.toNat - 1)
  have down : last ≤ c.network.broadcast.toNat - 1 := stepDown_le _ _ _
  have at_most : ∀ n ∈ c.spare, n ≤ last := by
    intro n member
    obtain ⟨-, below, free⟩ := mem_spare_iff.1 member
    by_contra above
    exact free (taken n (by omega) (by omega))
  split
  · rename_i under
    refine Set.eq_empty_of_forall_notMem fun n member => ?_
    have low := at_most n member
    have high := (mem_spare_iff.1 member).1
    omega
  · rename_i inside
    exact ⟨mem_spare_iff.2 ⟨by omega, by omega, stop (by omega)⟩, at_most⟩

/-- The four ways in which cutting out the client addresses can go. -/
theorem clientRange_cases (c : Configuration) :
    (30 < c.network.prefixLength ∧ c.clientRange = .error (.smallNetwork c.network)) ∨
    c.network.prefixLength ≤ 30 ∧
      (¬ (c.network.network.toNat < c.firstClient.toNat ∧
          c.firstClient.toNat < c.network.broadcast.toNat) ∧
        c.clientRange = .error (.firstClientOutside c.firstClient c.network) ∨
      (c.network.network.toNat < c.firstClient.toNat ∧
          c.firstClient.toNat < c.network.broadcast.toNat) ∧
        (c.spare = ∅ ∧ c.clientRange = .error (.noClients c.network) ∨
        ∃ last, IsGreatest c.spare last.toNat ∧ c.clientRange = .ok (c.firstClient, last))) := by
  unfold clientRange
  dsimp only
  by_cases small : 30 < c.network.prefixLength
  · exact .inl ⟨small, if_pos small⟩
  refine .inr ⟨Nat.not_lt.1 small, ?_⟩
  rw [if_neg small]
  by_cases host : c.network.network.toNat < c.firstClient.toNat ∧
      c.firstClient.toNat < c.network.broadcast.toNat
  · have spared := stepDown_spare host
    have inside : ¬ (c.firstClient.toNat ≤ c.network.network.toNat ∨
        c.network.broadcast.toNat ≤ c.firstClient.toNat) := by omega
    have word := c.network.broadcast.bits.toNat_lt
    refine .inr ⟨host, ?_⟩
    rw [if_neg inside]
    dsimp only at spared
    split at spared
    · rename_i under
      exact .inl ⟨spared, if_pos under⟩
    · rename_i enough
      refine .inr ⟨_, ?_, if_neg enough⟩
      have small : _ < c.network.broadcast.toNat := (mem_spare_iff.1 spared.1).2.1
      rw [Ipv4.toNat, Ipv4.ofNat, UInt32.toNat_ofNat_of_lt' (Nat.lt_trans small word)]
      exact spared
  · exact .inl ⟨host, if_pos (by omega)⟩

/-- Cutting the client addresses out of any configuration, sound or not, leads to no value below
zero and none above 32 bits. It fails only if the network is too small, if the first client
address is no host of it or if the ends of the tunnel take all that is left; otherwise the pool goes
from the first client address to the greatest one that is spare. -/
theorem clientRange_greatest (c : Configuration) :
    c.checkedClientRange = pure c.clientRange ∧
      ((∃ d, c.clientRange = .error d) ↔
        30 < c.network.prefixLength ∨
        ¬ (c.network.network.toNat < c.firstClient.toNat ∧
          c.firstClient.toNat < c.network.broadcast.toNat) ∨
        ∀ n, c.firstClient.toNat ≤ n → n < c.network.broadcast.toNat →
          n = c.tunnelSource.toNat ∨ n = c.tunnelDestination.toNat) ∧
      ∀ range, c.clientRange = .ok range →
        range.1 = c.firstClient ∧ IsGreatest c.spare range.2.toNat := by
  have taken : c.spare = ∅ ↔ ∀ n, c.firstClient.toNat ≤ n → n < c.network.broadcast.toNat →
      n = c.tunnelSource.toNat ∨ n = c.tunnelDestination.toNat := by
    simp only [Set.eq_empty_iff_forall_notMem, spare, Set.mem_ofPred_eq, not_and_or]
    refine forall_congr' fun n => ?_
    constructor
    · intro missing low high
      omega
    · intro listed
      by_contra spared
      omega
  rw [← taken]
  refine ⟨checkedClientRange_eq c, ?_⟩
  rcases c.clientRange_cases with
    ⟨small, result⟩ | ⟨large, ⟨outside, result⟩ |
      ⟨host, ⟨empty, result⟩ | ⟨last, greatest, result⟩⟩⟩ <;>
    rw [result]
  · exact ⟨iff_of_true ⟨_, rfl⟩ (.inl small), nofun⟩
  · exact ⟨iff_of_true ⟨_, rfl⟩ (.inr (.inl outside)), nofun⟩
  · exact ⟨iff_of_true ⟨_, rfl⟩ (.inr (.inr empty)), nofun⟩
  · refine ⟨iff_of_false (fun ⟨_, failed⟩ => by cases failed) ?_, ?_⟩
    · rintro (small | outside | empty)
      · exact absurd small (Nat.not_lt.2 large)
      · exact outside host
      · exact (empty ▸ greatest.1 : last.toNat ∈ (∅ : Set Nat))
    · rintro range same
      obtain rfl := Except.ok.inj same
      exact ⟨rfl, greatest⟩

end Concentrator.Configuration
