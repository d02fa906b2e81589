import Concentrator.Session.Pool
import Mathlib.Data.List.GetD
import Mathlib.Data.Option.Basic

/-!
# The least free address

A pool keeps the addresses in use in ascending order inside its interval. As
long as the list has no gap, its values lie as far above the lowest one as their
positions say, and the first address for which that fails is the least free one.
`nextFree?_eq_some_iff` says that it is found whenever there is one.
-/

namespace Concentrator.Pool

/-- The addresses in use ascend and lie inside the interval. -/
structure Orderly (p : Pool) : Prop where
  ascending : p.occupied.Pairwise (· < ·)
  inside : ∀ x ∈ p.occupied, p.first ≤ x ∧ x ≤ p.last

theorem orderly_between (first last : Ipv4) : (between first last).Orderly :=
  ⟨.nil, by simp [between]⟩

/-! ### Ascending lists -/

theorem mem_place {value x : UInt32} {l : List UInt32} :
    x ∈ place value l ↔ x = value ∨ x ∈ l := by
  induction l with
  | nil => simp [place]
  | cons head rest ih =>
    unfold place
    split
    · simp
    · rw [List.mem_cons, ih, List.mem_cons]
      exact or_left_comm

theorem ascending_place {value : UInt32} {l : List UInt32} (ascending : l.Pairwise (· < ·))
    (fresh : value ∉ l) : (place value l).Pairwise (· < ·) := by
  induction l with
  | nil => simp [place]
  | cons head rest ih =>
    obtain ⟨above, tail⟩ := List.pairwise_cons.1 ascending
    simp only [List.mem_cons, not_or] at fresh
    unfold place
    split
    · rename_i below
      refine List.pairwise_cons.2 ⟨?_, ascending⟩
      intro x member
      rcases List.mem_cons.1 member with rfl | member
      · exact below
      · exact UInt32.lt_trans below (above x member)
    · rename_i notBelow
      refine List.pairwise_cons.2 ⟨?_, ih tail fresh.2⟩
      intro x member
      rcases mem_place.1 member with rfl | member
      · have different : x.toNat ≠ head.toNat := fun same => fresh.1 (UInt32.toNat_inj.1 same)
        rw [UInt32.lt_iff_toNat_lt] at notBelow ⊢
        omega
      · exact above x member

/-- From one position to a later one the values climb at least by the distance. -/
theorem climb {l : List UInt32} (ascending : l.Pairwise (· < ·)) {i d : Nat}
    (inside : i + d < l.length) : (l.getD i 0).toNat + d ≤ (l.getD (i + d) 0).toNat := by
  induction d with
  | zero => simp
  | succ d ih =>
    have before := ih (by omega)
    have here : i + d < l.length := by omega
    have next : l[i + d] < l[i + d + 1] :=
      List.pairwise_iff_getElem.1 ascending _ _ here inside (by omega)
    rw [UInt32.lt_iff_toNat_lt] at next
    rw [List.getD_eq_getElem _ _ (show i + d < l.length by omega)] at before
    have value := List.getD_eq_getElem l 0 (show i + d + 1 < l.length by omega)
    rw [← Nat.add_assoc, ← Nat.add_assoc, value]
    omega

/-! ### Runs without a gap -/

/-- The value at position `i` is as far above the lowest one as it would be without a gap. -/
def InRun (occupied : List UInt32) (lowest : UInt32) (i : Nat) : Prop :=
  occupied.getD i 0 = lowest + UInt32.ofNat i

section Run

variable {occupied : List UInt32} {lowest : UInt32} (ascending : occupied.Pairwise (· < ·))
  (bottom : occupied.getD 0 0 = lowest)

include ascending bottom

theorem toNat_position {i : Nat} (inside : i < occupied.length) :
    (UInt32.ofNat i).toNat = i := by
  have above := climb ascending (i := 0) (d := i) (by omega)
  have word := (occupied.getD i 0).toNat_lt
  rw [bottom, Nat.zero_add] at above
  exact UInt32.toNat_ofNat_of_lt' (by simp [UInt32.size]; omega)

theorem inRun_iff {i : Nat} (inside : i < occupied.length) :
    InRun occupied lowest i ↔ (occupied.getD i 0).toNat = lowest.toNat + i := by
  have above := climb ascending (i := 0) (d := i) (by omega)
  rw [bottom, Nat.zero_add] at above
  have word := (occupied.getD i 0).toNat_lt
  rw [InRun, ← UInt32.toNat_inj, UInt32.toNat_add, toNat_position ascending bottom inside,
    Nat.mod_eq_of_lt (by omega)]

/-- A run has no gap before its end. -/
theorem inRun_of_le {i j : Nat} (le : i ≤ j) (inside : j < occupied.length)
    (run : InRun occupied lowest j) : InRun occupied lowest i := by
  rw [inRun_iff ascending bottom inside] at run
  rw [inRun_iff ascending bottom (by omega)]
  have low := climb ascending (i := 0) (d := i) (by omega)
  have high := climb ascending (i := i) (d := j - i) (by omega)
  rw [bottom, Nat.zero_add] at low
  rw [Nat.add_sub_cancel' le] at high
  omega

/-- The bisection ends where the run does. -/
theorem gap_spec {low high : Nat} (le : low ≤ high) (inside : high < occupied.length)
    (run : ∀ i < low, InRun occupied lowest i) (broken : ¬ InRun occupied lowest high) :
    gap occupied lowest low high ≤ high ∧
      (∀ i < gap occupied lowest low high, InRun occupied lowest i) ∧
      ¬ InRun occupied lowest (gap occupied lowest low high) := by
  fun_induction gap occupied lowest low high with
  | case1 low high lt middle hit ih =>
    refine ih (by omega) inside ?_ broken
    intro i before
    exact inRun_of_le ascending bottom (show i ≤ middle by omega) (by omega) hit
  | case2 low high lt middle miss ih =>
    obtain ⟨bound, whole, stop⟩ := ih (by omega) (by omega) run miss
    exact ⟨by omega, whole, stop⟩
  | case3 low high notLt =>
    obtain rfl : low = high := by omega
    exact ⟨Nat.le_refl _, run, broken⟩

/-- Every address as near to the lowest one as a run is long is in use. -/
theorem mem_of_inRun {n : Nat} (le : n ≤ occupied.length) (run : ∀ i < n, InRun occupied lowest i)
    {x : UInt32} (atLeast : lowest ≤ x) (near : x.toNat < lowest.toNat + n) : x ∈ occupied := by
  rw [UInt32.le_iff_toNat_le] at atLeast
  have position : x.toNat - lowest.toNat < n := by omega
  have exactly := (inRun_iff ascending bottom (by omega)).1 (run _ position)
  have inside : x.toNat - lowest.toNat < occupied.length := by omega
  rw [List.getD_eq_getElem _ 0 inside] at exactly
  have same : occupied[x.toNat - lowest.toNat] = x := UInt32.toNat_inj.1 (by omega)
  rw [← same]
  exact List.getElem_mem _

/-- Where a run ends there is the least address that is not in use. -/
theorem free_at_end {n : Nat} {c : UInt32} (le : n ≤ occupied.length)
    (run : ∀ i < n, InRun occupied lowest i)
    (broken : n < occupied.length → ¬ InRun occupied lowest n)
    (value : c.toNat = lowest.toNat + n) :
    c ∉ occupied ∧ ∀ x, lowest ≤ x → x < c → x ∈ occupied := by
  constructor
  · intro member
    obtain ⟨j, inside, rfl⟩ := List.getElem_of_mem member
    rw [← List.getD_eq_getElem _ 0 inside] at value
    -- before the end the run has smaller values, and behind a gap there are only larger ones
    rcases Nat.lt_trichotomy j n with before | rfl | after
    · have exactly := (inRun_iff ascending bottom inside).1 (run j before)
      omega
    · exact broken inside ((inRun_iff ascending bottom inside).2 value)
    · have stop : n < occupied.length := by omega
      have other := mt (inRun_iff ascending bottom stop).2 (broken stop)
      have low := climb ascending (i := 0) (d := n) (by omega)
      have high := climb ascending (i := n) (d := j - n) (by omega)
      rw [bottom, Nat.zero_add] at low
      rw [Nat.add_sub_cancel' (show n ≤ j by omega)] at high
      omega
  · intro x atLeast below
    rw [UInt32.lt_iff_toNat_lt] at below
    exact mem_of_inRun ascending bottom le run atLeast (by omega)

/-- Without any gap, the address after the highest one ends the run. -/
theorem contiguous_end {top : Nat} (last : top + 1 = occupied.length)
    (contiguous : occupied.getD top 0 - lowest = UInt32.ofNat top) :
    (∀ i < occupied.length, InRun occupied lowest i) ∧
      (occupied.getD top 0).toNat = lowest.toNat + top := by
  have above := climb ascending (i := 0) (d := top) (by omega)
  rw [bottom, Nat.zero_add] at above
  rw [← UInt32.toNat_inj, toNat_position ascending bottom (by omega),
    UInt32.toNat_sub_of_le _ _ (UInt32.le_iff_toNat_le.2 (by omega))] at contiguous
  have value : (occupied.getD top 0).toNat = lowest.toNat + top := by omega
  have run := (inRun_iff ascending bottom (by omega)).2 value
  exact ⟨fun i lt => inRun_of_le ascending bottom (by omega) (by omega) run, value⟩

/-- With a gap, the run ends where the bisection does. -/
theorem gapped_end {top : Nat} (last : top + 1 = occupied.length)
    (gapped : occupied.getD top 0 - lowest ≠ UInt32.ofNat top) :
    gap occupied lowest 0 top < occupied.length ∧
      (∀ i < gap occupied lowest 0 top, InRun occupied lowest i) ∧
      ¬ InRun occupied lowest (gap occupied lowest 0 top) ∧
      (lowest + UInt32.ofNat (gap occupied lowest 0 top)).toNat =
        lowest.toNat + gap occupied lowest 0 top := by
  have broken : ¬ InRun occupied lowest top := by
    intro run
    apply gapped
    rw [run, UInt32.add_comm, UInt32.add_sub_cancel]
  obtain ⟨bound, whole, stop⟩ :=
    gap_spec ascending bottom (Nat.zero_le _) (by omega) (by simp) broken
  refine ⟨by omega, whole, stop, ?_⟩
  have above := climb ascending (i := 0) (d := gap occupied lowest 0 top) (by omega)
  have word := (occupied.getD (0 + gap occupied lowest 0 top) 0).toNat_lt
  rw [bottom] at above
  rw [UInt32.toNat_add, toNat_position ascending bottom (by omega), Nat.mod_eq_of_lt (by omega)]

end Run

/-! ### The operations -/

variable {p : Pool} {address : Ipv4}

theorem bits_inj {a b : Ipv4} : a.bits = b.bits ↔ a = b := by
  cases a
  cases b
  simp

/-- The candidate is the least address from the start of the interval on that is not in use. -/
theorem candidate?_isLeast (orderly : p.Orderly) {c : UInt32} (found : p.candidate? = some c) :
    p.first ≤ c ∧ c ∉ p.occupied ∧ ∀ x, p.first ≤ x → x < c → x ∈ p.occupied := by
  obtain ⟨ascending, inside⟩ := orderly
  have nothingBelow : ∀ x, p.first ≤ x → x < p.first → x ∈ p.occupied := fun x atLeast below =>
    absurd (UInt32.lt_of_lt_of_le below atLeast) (UInt32.lt_irrefl x)
  unfold candidate? at found
  split at found
  · rename_i empty
    obtain rfl := Option.some.inj found
    exact ⟨UInt32.le_refl _, by simp [empty], nothingBelow⟩
  · rename_i lowest rest shape
    have last : p.occupied.length - 1 + 1 = p.occupied.length := by simp [shape]
    have bottom : p.occupied.getD 0 0 = lowest := by simp [shape]
    have start : p.first ≤ lowest := (inside lowest (by simp [shape])).1
    dsimp only at found
    split at found
    · rename_i below
      obtain rfl := Option.some.inj found
      refine ⟨UInt32.le_refl _, ?_, nothingBelow⟩
      intro member
      rcases List.mem_cons.1 (shape ▸ member) with same | member
      · exact UInt32.lt_irrefl _ (same ▸ below)
      · have above := (List.pairwise_cons.1 (shape ▸ ascending)).1 _ member
        exact UInt32.lt_irrefl _ (UInt32.lt_trans below above)
    · rename_i notBelow
      obtain rfl : p.first = lowest := UInt32.le_antisymm start (UInt32.not_lt.1 notBelow)
      split at found
      · rename_i contiguous
        obtain ⟨whole, highest⟩ := contiguous_end ascending bottom last contiguous
        split at found
        · rename_i room
          obtain rfl := Option.some.inj found
          have value : (p.occupied.getD (p.occupied.length - 1) 0 + 1).toNat =
              p.first.toNat + p.occupied.length := by
            rw [UInt32.toNat_add, UInt32.toNat_one, Nat.mod_eq_of_lt (by simpa using room)]
            omega
          exact ⟨UInt32.le_iff_toNat_le.2 (by omega),
            free_at_end ascending bottom (Nat.le_refl _) whole (by omega) value⟩
        · cases found
      · rename_i gapped
        obtain rfl := Option.some.inj found
        obtain ⟨bound, whole, stop, value⟩ := gapped_end ascending bottom last gapped
        exact ⟨UInt32.le_iff_toNat_le.2 (by omega),
          free_at_end ascending bottom (by omega) whole (fun _ => stop) value⟩

/-- Without a candidate every address from the start of the interval on is in use. -/
theorem mem_of_candidate?_eq_none (orderly : p.Orderly) (none_left : p.candidate? = none)
    {x : UInt32} (atLeast : p.first ≤ x) : x ∈ p.occupied := by
  obtain ⟨ascending, inside⟩ := orderly
  unfold candidate? at none_left
  split at none_left
  · cases none_left
  · rename_i lowest rest shape
    have last : p.occupied.length - 1 + 1 = p.occupied.length := by simp [shape]
    have bottom : p.occupied.getD 0 0 = lowest := by simp [shape]
    have start : p.first ≤ lowest := (inside lowest (by simp [shape])).1
    dsimp only at none_left
    split at none_left
    · cases none_left
    · rename_i notBelow
      obtain rfl : p.first = lowest := UInt32.le_antisymm start (UInt32.not_lt.1 notBelow)
      split at none_left
      · rename_i contiguous
        obtain ⟨whole, highest⟩ := contiguous_end ascending bottom last contiguous
        split at none_left
        · cases none_left
        · rename_i top
          have bound := x.toNat_lt
          exact mem_of_inRun ascending bottom (Nat.le_refl _) whole atLeast (by
            simp only [UInt32.size] at top
            omega)
      · cases none_left

/-- The least address of a pool that is not in use. -/
structure Least (p : Pool) (a : Ipv4) : Prop where
  first_le : p.first ≤ a.bits
  le_last : a.bits ≤ p.last
  free : a.bits ∉ p.occupied
  used_below : ∀ x, p.first ≤ x → x < a.bits → x ∈ p.occupied

theorem nextFree?_eq_some_iff (orderly : p.Orderly) :
    p.nextFree? = some address ↔ p.Least address := by
  have shape : p.nextFree? = some address ↔
      p.candidate? = some address.bits ∧ address.bits ≤ p.last := by
    cases address with
    | mk bits =>
      simp only [nextFree?, Option.bind_eq_bind, Option.bind_eq_some_iff, Option.guard_eq_some']
      constructor
      · rintro ⟨c, candidate, _, inside, result⟩
        obtain rfl : c = bits := congrArg Ipv4.bits (Option.some.inj result)
        exact ⟨candidate, inside⟩
      · rintro ⟨candidate, inside⟩
        exact ⟨bits, candidate, (), inside, rfl⟩
  rw [shape]
  constructor
  · rintro ⟨candidate, inside⟩
    obtain ⟨low, free, below⟩ := candidate?_isLeast orderly candidate
    exact ⟨low, inside, free, below⟩
  · intro least
    cases found : p.candidate? with
    | none => exact absurd (mem_of_candidate?_eq_none orderly found least.first_le) least.free
    | some c =>
      -- neither of two least free addresses is below the other
      obtain ⟨low, free, below⟩ := candidate?_isLeast orderly found
      have le : c ≤ address.bits :=
        UInt32.not_lt.1 fun under => least.free (below _ least.first_le under)
      have ge : address.bits ≤ c := UInt32.not_lt.1 fun under => free (least.used_below _ low under)
      exact ⟨congrArg some (UInt32.le_antisymm le ge), least.le_last⟩

theorem nextFree?_eq_none_iff (orderly : p.Orderly) :
    p.nextFree? = none ↔ ∀ x, p.first ≤ x → x ≤ p.last → x ∈ p.occupied := by
  constructor
  · intro refused x low high
    cases found : p.candidate? with
    | none => exact mem_of_candidate?_eq_none orderly found low
    | some c =>
      have outside : ¬ c ≤ p.last := by
        intro inside
        simp [nextFree?, found, inside] at refused
      obtain ⟨-, -, below⟩ := candidate?_isLeast orderly found
      exact below x low (UInt32.lt_of_le_of_lt high (UInt32.not_le.1 outside))
  · intro full
    refine Option.eq_none_iff_forall_ne_some.2 fun address found => ?_
    have least := (nextFree?_eq_some_iff orderly).1 found
    exact least.free (full _ least.first_le least.le_last)

theorem occupy_bounds (p : Pool) (address : Ipv4) :
    (p.occupy address).1.first = p.first ∧ (p.occupy address).1.last = p.last := by
  unfold occupy
  split <;> exact ⟨rfl, rfl⟩

theorem release_bounds (p : Pool) (address : Ipv4) :
    (p.release address).1.first = p.first ∧ (p.release address).1.last = p.last := by
  unfold release
  split <;> exact ⟨rfl, rfl⟩

theorem orderly_occupy (orderly : p.Orderly) : (p.occupy address).1.Orderly := by
  unfold occupy
  split
  · rename_i fits
    refine ⟨ascending_place orderly.ascending fits.2.2, ?_⟩
    intro x member
    rcases mem_place.1 member with rfl | member
    · exact ⟨fits.1, fits.2.1⟩
    · exact orderly.inside x member
  · exact orderly

theorem mem_occupy_iff {x : UInt32} :
    x ∈ (p.occupy address).1.occupied ↔
      x = address.bits ∧ p.first ≤ x ∧ x ≤ p.last ∨ x ∈ p.occupied := by
  unfold occupy
  split
  · rename_i fits
    rw [mem_place]
    refine or_congr_left ⟨?_, And.left⟩
    rintro rfl
    exact ⟨rfl, fits.1, fits.2.1⟩
  · rename_i refused
    refine ⟨.inr, ?_⟩
    rintro (⟨rfl, low, high⟩ | member)
    · exact by_contra fun free => refused ⟨low, high, free⟩
    · exact member

/-- The address that is offered next can be occupied. -/
theorem mem_occupy (orderly : p.Orderly) (found : p.nextFree? = some address) {x : UInt32} :
    x ∈ (p.occupy address).1.occupied ↔ x = address.bits ∨ x ∈ p.occupied := by
  have least := (nextFree?_eq_some_iff orderly).1 found
  rw [mem_occupy_iff]
  refine or_congr_left ⟨And.left, ?_⟩
  rintro rfl
  exact ⟨rfl, least.first_le, least.le_last⟩

theorem orderly_release (orderly : p.Orderly) : (p.release address).1.Orderly := by
  unfold release
  split
  · refine ⟨orderly.ascending.sublist List.erase_sublist, ?_⟩
    intro x member
    exact orderly.inside x (List.mem_of_mem_erase member)
  · exact orderly

theorem nodup_occupied (orderly : p.Orderly) : p.occupied.Nodup :=
  orderly.ascending.imp fun below same => absurd (same ▸ below) (UInt32.lt_irrefl _)

theorem mem_release (orderly : p.Orderly) {x : UInt32} :
    x ∈ (p.release address).1.occupied ↔ x ≠ address.bits ∧ x ∈ p.occupied := by
  unfold release
  split
  · exact (nodup_occupied orderly).mem_erase_iff
  · rename_i free
    refine ⟨fun member => ⟨?_, member⟩, And.right⟩
    rintro rfl
    exact free member

end Concentrator.Pool
