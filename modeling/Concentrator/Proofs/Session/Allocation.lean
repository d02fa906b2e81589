import Concentrator.Proofs.Session.Pool
import Mathlib.Data.Set.Card

/-!
# Pools over time

Which addresses of a pool are in use can be told from what has been asked of it alone. Over
any sequence of requests the pool answers accordingly and offers the least address that is
not in use. Its search is repeated here with every operation checked, and no check fails.
-/

namespace Concentrator.Pool

variable {p : Pool} {first last address : Ipv4} {x y : UInt32} {occupied : List UInt32}
  {lowest : UInt32}

/-! ### Checked search -/

/-- What 32-bit arithmetic and lists do not allow. -/
inductive Fault where
  | overflow
  | underflow
  | outside (position : Nat)

abbrev Checked := Except Fault

def checkedSum (x y : UInt32) : Checked UInt32 :=
  if x.toNat + y.toNat < UInt32.size then .ok (x + y) else .error .overflow

def checkedDifference (x y : UInt32) : Checked UInt32 :=
  if y ≤ x then .ok (x - y) else .error .underflow

/-- A position as a 32-bit word. -/
def checkedWord (i : Nat) : Checked UInt32 :=
  if i < UInt32.size then .ok (.ofNat i) else .error .overflow

def checkedEntry (occupied : List UInt32) (i : Nat) : Checked UInt32 :=
  if i < occupied.length then .ok (occupied.getD i 0) else .error (.outside i)

/-- Whether a position belongs to the ascending run from `lowest`. -/
def checkedProbe (occupied : List UInt32) (lowest : UInt32) (i : Nat) : Checked Bool := do
  let value ← checkedEntry occupied i
  let expected ← checkedSum lowest (← checkedWord i)
  return value = expected

def checkedGap (occupied : List UInt32) (lowest : UInt32) (low high : Nat) : Checked Nat :=
  if low < high then do
    let middle := low + (high - low) / 2
    if ← checkedProbe occupied lowest middle then checkedGap occupied lowest (middle + 1) high
    else checkedGap occupied lowest low middle
  else return low
termination_by high - low
decreasing_by all_goals omega

def checkedCandidate (p : Pool) : Checked (Option UInt32) :=
  match p.occupied with
  | [] => return some p.first
  | lowest :: _ => do
    let top := p.occupied.length - 1
    if p.first < lowest then return some p.first
    let highest ← checkedEntry p.occupied top
    if (← checkedDifference highest lowest) = (← checkedWord top) then
      return if highest.toNat + 1 < UInt32.size then some (highest + 1) else none
    else
      let place ← checkedGap p.occupied lowest 0 top
      return some (← checkedSum lowest (← checkedWord place))

def checkedNextFree (p : Pool) : Checked (Option Ipv4) := do
  match ← p.checkedCandidate with
  | none => return none
  | some candidate => return if candidate ≤ p.last then some ⟨candidate⟩ else none

theorem checkedSum_eq (fits : x.toNat + y.toNat < UInt32.size) :
    checkedSum x y = pure (x + y) :=
  if_pos fits

theorem checkedDifference_eq (fits : y ≤ x) : checkedDifference x y = pure (x - y) :=
  if_pos fits

theorem checkedEntry_eq {i : Nat} (inside : i < occupied.length) :
    checkedEntry occupied i = pure (occupied.getD i 0) :=
  if_pos inside

/-- A position counts from the lowest address without leaving the 32 bits. -/
theorem position_fits (ascending : occupied.Pairwise (· < ·))
    (bottom : occupied.getD 0 0 = lowest) {i : Nat} (inside : i < occupied.length) :
    checkedWord i = pure (.ofNat i) ∧
      checkedSum lowest (.ofNat i) = pure (lowest + .ofNat i) := by
  have above := climb ascending (i := 0) (d := i) (by omega)
  have word : (occupied.getD (0 + i) 0).toNat < UInt32.size := (occupied.getD (0 + i) 0).toNat_lt
  rw [bottom] at above
  refine ⟨if_pos (by omega), checkedSum_eq ?_⟩
  rw [toNat_position ascending bottom inside]
  omega

theorem checkedProbe_eq (ascending : occupied.Pairwise (· < ·))
    (bottom : occupied.getD 0 0 = lowest) {i : Nat} (inside : i < occupied.length) :
    checkedProbe occupied lowest i =
      pure (decide (occupied.getD i 0 = lowest + UInt32.ofNat i)) := by
  obtain ⟨word, sum⟩ := position_fits ascending bottom inside
  rw [checkedProbe, checkedEntry_eq inside, pure_bind, word, pure_bind, sum, pure_bind]

theorem checkedGap_eq (ascending : occupied.Pairwise (· < ·))
    (bottom : occupied.getD 0 0 = lowest) {low high : Nat} (inside : high < occupied.length) :
    checkedGap occupied lowest low high = pure (gap occupied lowest low high) := by
  fun_induction gap occupied lowest low high with
  | case1 low high lt middle hit ih =>
    have probe := checkedProbe_eq ascending bottom (show middle < occupied.length by omega)
    rw [checkedGap, if_pos lt]
    change checkedProbe occupied lowest middle >>= _ = _
    rw [probe, pure_bind, decide_eq_true hit, if_pos rfl, ih inside]
  | case2 low high lt middle miss ih =>
    have probe := checkedProbe_eq ascending bottom (show middle < occupied.length by omega)
    rw [checkedGap, if_pos lt]
    change checkedProbe occupied lowest middle >>= _ = _
    rw [probe, pure_bind, decide_eq_false miss, if_neg Bool.false_ne_true, ih (by omega)]
  | case3 low high notLt => rw [checkedGap, if_neg notLt]

theorem checkedCandidate_eq (orderly : p.Orderly) : p.checkedCandidate = pure p.candidate? := by
  unfold checkedCandidate candidate?
  cases shape : p.occupied with
  | nil => rfl
  | cons lowest rest =>
    dsimp only
    have bottom : (lowest :: rest).getD 0 0 = lowest := rfl
    have last : (lowest :: rest).length - 1 + 1 = (lowest :: rest).length := rfl
    generalize lowest :: rest = occupied at shape bottom last ⊢
    generalize occupied.length - 1 = top at last ⊢
    have ascending : occupied.Pairwise (· < ·) := shape ▸ orderly.ascending
    have inside : top < occupied.length := by omega
    have above : lowest ≤ occupied.getD top 0 := by
      have climbed := climb ascending (i := 0) (d := top) (by omega)
      rw [bottom, Nat.zero_add] at climbed
      exact UInt32.le_iff_toNat_le.2 (by omega)
    obtain ⟨word, -⟩ := position_fits ascending bottom inside
    by_cases below : p.first < lowest
    · rw [if_pos below, if_pos below]
    rw [if_neg below, if_neg below, checkedEntry_eq inside, pure_bind, checkedDifference_eq above,
      pure_bind, word, pure_bind]
    by_cases contiguous : occupied.getD top 0 - lowest = UInt32.ofNat top
    · rw [if_pos contiguous, if_pos contiguous]
    · obtain ⟨bound, -⟩ := gapped_end ascending bottom last contiguous
      obtain ⟨word, sum⟩ := position_fits ascending bottom bound
      rw [if_neg contiguous, if_neg contiguous, checkedGap_eq ascending bottom inside, pure_bind,
        word, pure_bind, sum, pure_bind]

/-- No check of the search fails. -/
theorem checkedNextFree_eq (orderly : p.Orderly) : p.checkedNextFree = pure p.nextFree? := by
  rw [checkedNextFree, checkedCandidate_eq orderly, pure_bind, nextFree?]
  cases p.candidate? with
  | none => rfl
  | some candidate => by_cases inside : candidate ≤ p.last <;> simp [inside]

/-! ### Histories -/

inductive Event where
  | occupy (address : Ipv4)
  | release (address : Ipv4)

def step (p : Pool) : Event → Pool
  | .occupy address => (p.occupy address).1
  | .release address => (p.release address).1

def run (p : Pool) (events : List Event) : Pool := events.foldl step p

def Inside (first last a : Ipv4) : Prop := first.bits ≤ a.bits ∧ a.bits ≤ last.bits

/-- An address of the interval has been occupied and not released since. -/
def Taken (first last : Ipv4) (events : List Event) (a : Ipv4) : Prop :=
  Inside first last a ∧ ∃ before after, events = before ++ .occupy a :: after ∧ .release a ∉ after

theorem not_taken_nil (a : Ipv4) : ¬ Taken first last [] a := by
  rintro ⟨-, before, after, split, -⟩
  simp at split

/-- Only the latest event can change whether an address is taken, and only if it names it. -/
theorem taken_concat_iff {events : List Event} {e : Event} {a : Ipv4} :
    Taken first last (events ++ [e]) a ↔
      e = .occupy a ∧ Inside first last a ∨ e ≠ .release a ∧ Taken first last events a := by
  constructor
  · rintro ⟨inside, before, after, split, kept⟩
    rcases after.eq_nil_or_concat with rfl | ⟨after, final, rfl⟩
    · obtain ⟨-, same⟩ := List.append_inj' split rfl
      exact .inl ⟨List.cons.inj same |>.1, inside⟩
    · rw [List.concat_eq_append, ← List.cons_append, ← List.append_assoc] at split
      obtain ⟨rfl, same⟩ := List.append_inj' split rfl
      obtain rfl : e = final := (List.cons.inj same).1
      rw [List.concat_eq_append, List.mem_append, List.mem_singleton, not_or] at kept
      exact .inr ⟨Ne.symm kept.2, inside, before, after, rfl, kept.1⟩
  · rintro (⟨rfl, inside⟩ | ⟨other, inside, before, after, rfl, kept⟩)
    · exact ⟨inside, events, [], rfl, List.not_mem_nil⟩
    · refine ⟨inside, before, after ++ [e], by simp, ?_⟩
      rw [List.mem_append, List.mem_singleton, not_or]
      exact ⟨kept, Ne.symm other⟩

/-- A pool holds the addresses of its interval that its history leaves taken. -/
structure Follows (first last : Ipv4) (events : List Event) (p : Pool) : Prop where
  orderly : p.Orderly
  first_eq : p.first = first.bits
  last_eq : p.last = last.bits
  mem_iff : ∀ a : Ipv4, a.bits ∈ p.occupied ↔ Taken first last events a

variable {events : List Event} {a : Ipv4}

theorem follows_between (first last : Ipv4) : Follows first last [] (between first last) where
  orderly := orderly_between first last
  first_eq := rfl
  last_eq := rfl
  mem_iff a := iff_of_false List.not_mem_nil (not_taken_nil a)

theorem Follows.step (follows : Follows first last events p) (e : Event) :
    Follows first last (events ++ [e]) (p.step e) := by
  cases e with
  | occupy address =>
    refine ⟨orderly_occupy follows.orderly, (occupy_bounds p address).1.trans follows.first_eq,
      (occupy_bounds p address).2.trans follows.last_eq, fun a => ?_⟩
    rw [taken_concat_iff, ← follows.mem_iff, Inside, ← follows.first_eq, ← follows.last_eq]
    simp [Pool.step, mem_occupy_iff, bits_inj, eq_comm]
  | release address =>
    refine ⟨orderly_release follows.orderly, (release_bounds p address).1.trans follows.first_eq,
      (release_bounds p address).2.trans follows.last_eq, fun a => ?_⟩
    rw [taken_concat_iff, ← follows.mem_iff]
    simp [Pool.step, mem_release follows.orderly, bits_inj, eq_comm]

theorem follows_run (first last : Ipv4) (events : List Event) :
    Follows first last events (run (between first last) events) := by
  induction events using List.reverseRecOn with
  | nil => exact follows_between first last
  | append_singleton events e ih =>
    rw [run, List.foldl_append]
    exact ih.step e

/-! ### Answers -/

/-- The least address of the interval that is not taken. -/
structure LeastFree (first last : Ipv4) (events : List Event) (a : Ipv4) : Prop where
  inside : Inside first last a
  free : ¬ Taken first last events a
  le_free : ∀ b, Inside first last b → ¬ Taken first last events b → a.bits ≤ b.bits

theorem Follows.least_iff (follows : Follows first last events p) :
    p.Least a ↔ LeastFree first last events a := by
  constructor
  · intro ⟨low, high, free, below⟩
    rw [follows.first_eq] at low below
    refine ⟨⟨low, follows.last_eq ▸ high⟩, mt (follows.mem_iff a).2 free, ?_⟩
    intro b inside untaken
    exact UInt32.not_lt.1 fun under =>
      untaken ((follows.mem_iff b).1 (below b.bits inside.1 under))
  · intro ⟨inside, free, le_free⟩
    refine ⟨follows.first_eq ▸ inside.1, follows.last_eq ▸ inside.2,
      mt (follows.mem_iff a).1 free, ?_⟩
    intro x low under
    rw [follows.first_eq] at low
    have within : Inside first last ⟨x⟩ :=
      ⟨low, UInt32.le_of_lt (UInt32.lt_of_lt_of_le under inside.2)⟩
    by_contra unused
    exact UInt32.lt_irrefl x (UInt32.lt_of_lt_of_le under
      (le_free ⟨x⟩ within (mt (follows.mem_iff ⟨x⟩).2 unused)))

theorem Follows.full_iff (follows : Follows first last events p) :
    p.nextFree? = none ↔ ∀ a, Inside first last a → Taken first last events a := by
  rw [nextFree?_eq_none_iff follows.orderly, follows.first_eq, follows.last_eq]
  constructor
  · intro full a inside
    exact (follows.mem_iff a).1 (full a.bits inside.1 inside.2)
  · intro full x low high
    exact (follows.mem_iff ⟨x⟩).2 (full ⟨x⟩ ⟨low, high⟩)

theorem Follows.occupy_iff (follows : Follows first last events p) :
    (p.occupy a).2 = true ↔ Inside first last a ∧ ¬ Taken first last events a := by
  rw [← follows.mem_iff, Inside, ← follows.first_eq, ← follows.last_eq, occupy, and_assoc]
  split <;> simp_all

theorem Follows.release_iff (follows : Follows first last events p) :
    (p.release a).2 = true ↔ Taken first last events a := by
  rw [← follows.mem_iff, release]
  split <;> simp_all

theorem Follows.length_occupied (follows : Follows first last events p) :
    p.occupied.length = {a | Taken first last events a}.ncard := by
  have addresses : {a | Taken first last events a} =
      ((p.occupied.map Ipv4.mk).toFinset : Set Ipv4) := by
    ext a
    rw [Set.mem_ofPred_eq, ← follows.mem_iff, Finset.mem_coe, List.mem_toFinset, List.mem_map]
    exact ⟨fun member => ⟨_, member, rfl⟩, fun ⟨_, member, same⟩ => same ▸ member⟩
  rw [addresses, Set.ncard_coe_finset, List.toFinset_card_of_nodup, List.length_map]
  exact (nodup_occupied follows.orderly).map fun _ _ => congrArg Ipv4.bits

/-- After any history a pool tells the least free address, what is free, what is taken and how
much of it, and its search never leaves the 32 bits or the list. -/
theorem run_answers (first last : Ipv4) (events : List Event) :
    let p := run (between first last) events
    (∀ a, p.nextFree? = some a ↔ LeastFree first last events a) ∧
      (p.nextFree? = none ↔ ∀ a, Inside first last a → Taken first last events a) ∧
      (∀ a, (p.occupy a).2 = true ↔ Inside first last a ∧ ¬ Taken first last events a) ∧
      (∀ a, (p.release a).2 = true ↔ Taken first last events a) ∧
      p.occupied.length = {a | Taken first last events a}.ncard ∧
      p.checkedNextFree = .ok p.nextFree? := by
  intro p
  have follows : Follows first last events p := follows_run first last events
  exact ⟨fun a => (nextFree?_eq_some_iff follows.orderly).trans follows.least_iff,
    follows.full_iff, fun a => follows.occupy_iff, fun a => follows.release_iff,
    follows.length_occupied, checkedNextFree_eq follows.orderly⟩

end Concentrator.Pool
