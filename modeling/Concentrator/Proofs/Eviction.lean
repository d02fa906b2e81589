import Concentrator.Proofs.IdleMap
import Mathlib.Algebra.GroupWithZero.Nat
import Mathlib.Data.List.Induction

/-!
# Eviction hooks that change the map

A host keeps an idle map and a hook that runs for each entry the map evicts. By the time it runs
the entry is gone from the map, and the hook may remove any other entry as well, among them those
a sweep has still to come to. The host writes down each run of its hook. Every entry of the map
is then in one of three places after an operation: still in the map, in one run of the hook, or
removed by one.
-/

namespace Concentrator.Eviction

open IdleMap

variable {κ α ε : Type}

/-- The keys a hook removes when an entry is evicted, and its memory afterwards. The memory can be
anything, a script of what each run is to remove included. -/
def Hook (κ α ε : Type) : Type := κ → α → IdleMap κ α → ε → List κ × ε

/-- One run of a hook: the entry it was given, the map it found and the keys it removed. -/
structure Run (κ : Type) (α : Type) where
  key : κ
  value : α
  found : IdleMap κ α
  removed : List κ

structure Host (κ : Type) (α : Type) (ε : Type) where
  map : IdleMap κ α
  memory : ε
  runs : List (Run κ α) := []

/-- An order for a sweep to take the expired keys in. -/
structure Arrangement (κ : Type) where
  arrange : List κ → List κ
  perm : ∀ keys, (arrange keys).Perm keys

inductive Operation (κ : Type) (α : Type)
  | insert (k : κ) (a : α)
  | insertIfVacant (k : κ) (a : α)
  | get (k : κ)
  | peek (k : κ)
  | touch (k : κ)
  | remove (k : κ)
  | invalidateIf (k : κ) (p : α → Bool)
  | sweep (order : Arrangement κ)
  | drain

inductive Answer (κ : Type) (α : Type)
  | value (a : Option α)
  | flag (b : Bool)
  | count (n : Nat)
  | entries (l : List (κ × α))

variable [DecidableEq κ]

def Hook.owner (hook : Hook κ α ε) : Owner (Host κ α ε) κ α where
  get := Host.map
  set m h := { h with map := m }
  evicted k a h :=
    let (removed, memory) := hook k a h.map h.memory
    { map := removed.foldl IdleMap.remove h.map, memory,
      runs := h.runs ++ [⟨k, a, h.map, removed⟩] }

@[simp]
theorem Hook.owner_get (hook : Hook κ α ε) (h : Host κ α ε) : hook.owner.get h = h.map := rfl

def perform (hook : Hook κ α ε) (now : Nat) (h : Host κ α ε) :
    Operation κ α → Host κ α ε × Answer κ α
  | .insert k a => ({ h with map := h.map.insert now k a }, .value (h.map.peek? k))
  | .insertIfVacant k a =>
    let (m, vacant) := h.map.insertIfVacant now k a
    ({ h with map := m }, .flag vacant)
  | .get k =>
    let (h, a) := hook.owner.lookup now k h
    (h, .value a)
  | .peek k => (h, .value (h.map.peek? k))
  | .touch k =>
    let (m, live) := h.map.touch now k
    ({ h with map := m }, .flag live)
  | .remove k => ({ h with map := h.map.remove k }, .value (h.map.peek? k))
  | .invalidateIf k p =>
    let (h, gone) := hook.owner.evictIf p k h
    (h, .flag gone)
  | .sweep order =>
    let (h, n) := hook.owner.evictAll now (order.arrange (h.map.expiredKeys now)) h
    (h, .count n)
  | .drain => ({ h with map := h.map.clear }, .entries h.map.toList)

/-- Operations in turn, each some time after the last one, and what they answer. -/
def run (hook : Hook κ α ε) (s : Clocked (Host κ α ε)) :
    List (Nat × Operation κ α) → Clocked (Host κ α ε) × List (Operation κ α × Answer κ α)
  | [] => (s, [])
  | (elapsed, op) :: rest =>
    let now := s.now + elapsed
    let (h, answer) := perform hook now s.state op
    let (s, answers) := run hook ⟨h, now⟩ rest
    (s, (op, answer) :: answers)

/-! ### Evictions -/

/-- What a map holds at each key, with its clock. -/
abbrev Contents (κ : Type) (α : Type) := κ → Option (Timed α)

/-- The number of entries at a key. -/
def count (held : Contents κ α) (k : κ) : Nat := (held k).isSome.toNat

/-- Whether a run of the hook took an entry at this key out of the map. -/
def Run.takes (k : κ) (r : Run κ α) : Bool :=
  (r.found.entries.find? k).isSome && decide (k ∈ r.removed)

/-- What evicting entries does to a map when their hook runs as in `runs`. An entry is there still
and as it was, or the hook ran for it, or a run of the hook took it. -/
structure Evictions (due : κ → Timed α → Prop) (before after : Contents κ α)
    (runs : List (Run κ α)) : Prop where
  own : ∀ r ∈ runs, ∃ e, before r.key = some e ∧ e.value = r.value ∧ due r.key e
  gone : ∀ r ∈ runs, r.found.entries.find? r.key = none
  once : ∀ k, count before k =
    count after k + runs.countP (fun r => r.key = k) + runs.countP (Run.takes k)
  kept : ∀ k e, after k = some e → before k = some e

section

variable {due : κ → Timed α → Prop} {held held' held'' : Contents κ α} {rs rs' : List (Run κ α)}

theorem Evictions.refl (due : κ → Timed α → Prop) (held : Contents κ α) :
    Evictions due held held [] where
  own := by simp
  gone := by simp
  once := by simp
  kept _ _ found := found

theorem Evictions.trans (first : Evictions due held held' rs)
    (second : Evictions due held' held'' rs') : Evictions due held held'' (rs ++ rs') where
  own r member := by
    rcases List.mem_append.1 member with early | late
    · exact first.own r early
    · obtain ⟨e, found, value, isDue⟩ := second.own r late
      exact ⟨e, first.kept _ _ found, value, isDue⟩
  gone r member := (List.mem_append.1 member).elim (first.gone r) (second.gone r)
  once k := by
    rw [first.once k, second.once k, List.countP_append, List.countP_append]
    omega
  kept k e found := first.kept k e (second.kept k e found)

omit [DecidableEq κ] in
theorem count_eq_zero_iff {k : κ} : count held k = 0 ↔ held k = none := by
  rw [count, Bool.toNat_eq_zero, Option.isSome_eq_false_iff, Option.isNone_iff_eq_none]

theorem Evictions.lost (evictions : Evictions due held held' rs) {r : Run κ α} (member : r ∈ rs) :
    held' r.key = none := by
  have once := evictions.once r.key
  have ran : 0 < rs.countP (fun r' => r'.key = r.key) :=
    List.countP_pos_iff.2 ⟨r, member, by simp⟩
  have most : count held r.key ≤ 1 := Bool.toNat_le _
  exact count_eq_zero_iff.1 (by omega)

theorem Evictions.complete (evictions : Evictions due held held' rs) {k : κ} {e : Timed α}
    (found : held k = some e) (left : held' k ≠ some e) :
    rs.countP (fun r => r.key = k) + rs.countP (Run.takes k) = 1 := by
  have once := evictions.once k
  have one : count held k = 1 := by simp [count, found]
  have lost : held' k = none := by
    rw [Option.eq_none_iff_forall_ne_some]
    rintro e' still
    obtain rfl := Option.some.inj (found.symm.trans (evictions.kept k e' still))
    exact left still
  have zero : count held' k = 0 := count_eq_zero_iff.2 lost
  omega

theorem find?_removals (removed : List κ) (m : IdleMap κ α) (k : κ) :
    (removed.foldl IdleMap.remove m).entries.find? k =
      if k ∈ removed then none else m.entries.find? k := by
  induction removed generalizing m with
  | nil => simp
  | cons first rest ih =>
    rw [List.foldl_cons, ih, IdleMap.remove, Table.find?_erase]
    by_cases same : k = first <;> simp [same]

theorem idle_removals (removed : List κ) (m : IdleMap κ α) :
    (removed.foldl IdleMap.remove m).idle = m.idle := by
  induction removed generalizing m with
  | nil => rfl
  | cons first rest ih => exact ih (m.remove first)

/-- One eviction is one run of the hook. -/
theorem evictions_evict (hook : Hook κ α ε) (due : κ → Timed α → Prop) {k : κ} {e : Timed α}
    {h : Host κ α ε} (found : h.map.entries.find? k = some e) (isDue : due k e) :
    ∃ r, r.key = k ∧ (hook.owner.evict k e.value h).runs = h.runs ++ [r] ∧
      (hook.owner.evict k e.value h).map.idle = h.map.idle ∧
      Evictions due h.map.entries.find? (hook.owner.evict k e.value h).map.entries.find? [r] := by
  have vacated : ∀ k', (h.map.remove k).entries.find? k' =
      if k' = k then none else h.map.entries.find? k' := Table.find?_erase _ k
  generalize answer : hook k e.value (h.map.remove k) h.memory = removals
  obtain ⟨removed, memory⟩ := removals
  have result : hook.owner.evict k e.value h =
      { map := removed.foldl IdleMap.remove (h.map.remove k), memory,
        runs := h.runs ++ [⟨k, e.value, h.map.remove k, removed⟩] } := by
    simp only [Owner.evict, Hook.owner, answer]
  rw [result]
  refine ⟨_, rfl, rfl, idle_removals _ _, ?_, ?_, ?_, ?_⟩
  · intro r member
    obtain rfl := List.mem_singleton.1 member
    exact ⟨e, found, rfl, isDue⟩
  · simp [vacated]
  · intro k'
    simp only [count, Run.takes, find?_removals, vacated, List.countP_singleton]
    by_cases same : k' = k
    · subst same
      simp [found]
    · by_cases out : k' ∈ removed <;> cases h.map.entries.find? k' <;>
        simp [same, Ne.symm same, out]
  · intro k' e' still
    rw [find?_removals, vacated] at still
    by_cases out : k' ∈ removed <;> by_cases same : k' = k <;> simp_all

/-- An eviction that asks first whether the entry is expired is at most one run of the hook, and
leaves no expired entry at its key. -/
theorem evictions_evictExpired (due : κ → Timed α → Prop) {hook : Hook κ α ε} {now : Nat} {k : κ}
    {h h' : Host κ α ε} {gone : Bool} (result : hook.owner.evictExpired now k h = (h', gone))
    (expired : ∀ e : Timed α, h.map.idle < now - e.lastUse → due k e) :
    ∃ rs, h'.runs = h.runs ++ rs ∧ rs.length = gone.toNat ∧ h'.map.idle = h.map.idle ∧
      Evictions due h.map.entries.find? h'.map.entries.find? rs ∧
      ∀ e, h'.map.entries.find? k = some e → now - e.lastUse ≤ h.map.idle := by
  simp only [Owner.evictExpired, Hook.owner_get, IdleMap.expired] at result
  cases found : h.map.entries.find? k with
  | none =>
    obtain ⟨rfl, rfl⟩ : h = h' ∧ false = gone := by simpa [found] using result
    exact ⟨[], by simp, rfl, rfl, .refl due _, by simp [found]⟩
  | some e =>
    by_cases idle : h.map.idle < now - e.lastUse
    · obtain ⟨rfl, rfl⟩ : hook.owner.evict k e.value h = h' ∧ true = gone := by
        simpa [found, idle] using result
      obtain ⟨r, rfl, runs, window, one⟩ := evictions_evict hook due found (expired e idle)
      refine ⟨[r], runs, rfl, window, one, fun e' still => ?_⟩
      rw [one.lost (List.mem_singleton_self r)] at still
      cases still
    · obtain ⟨rfl, rfl⟩ : h = h' ∧ false = gone := by simpa [found, idle] using result
      refine ⟨[], by simp, rfl, rfl, .refl due _, fun e' still => ?_⟩
      obtain rfl := Option.some.inj (found.symm.trans still)
      omega

/-- A sweep over any keys runs the hook once for each entry it evicts. -/
theorem evictions_evictAll (due : κ → Timed α → Prop) {hook : Hook κ α ε} {now : Nat}
    {keys : List κ} {h h' : Host κ α ε} {n : Nat}
    (result : hook.owner.evictAll now keys h = (h', n))
    (expired : ∀ k (e : Timed α), h.map.idle < now - e.lastUse → due k e) :
    ∃ rs, h'.runs = h.runs ++ rs ∧ rs.length = n ∧ h'.map.idle = h.map.idle ∧
      Evictions due h.map.entries.find? h'.map.entries.find? rs ∧
      ∀ k ∈ keys, ∀ e, h'.map.entries.find? k = some e → now - e.lastUse ≤ h.map.idle := by
  -- From the end: the last turn starts from what the hooks of all the earlier ones left.
  induction keys using List.reverseRecOn generalizing h' n with
  | nil =>
    obtain ⟨rfl, rfl⟩ := Prod.mk.inj result
    exact ⟨[], by simp, rfl, rfl, .refl due _, by simp⟩
  | append_singleton keys k ih =>
    rcases swept : hook.owner.evictAll now keys h with ⟨middle, done⟩
    rcases turn : hook.owner.evictExpired now k middle with ⟨last, gone⟩
    obtain ⟨rs, runs, length, window, earlier, fresh⟩ := ih swept
    obtain ⟨rs', runs', length', window', later, fresh'⟩ := evictions_evictExpired due turn
      (fun e => by rw [window]; exact expired k e)
    have whole : hook.owner.evictAll now (keys ++ [k]) h =
        (last, if gone then done + 1 else done) := by
      simp only [Owner.evictAll, List.foldl_append, List.foldl_cons, List.foldl_nil] at swept ⊢
      rw [swept, turn]
    obtain ⟨rfl, rfl⟩ := Prod.mk.inj (whole.symm.trans result)
    refine ⟨rs ++ rs', by rw [runs', runs, List.append_assoc], ?_, window'.trans window,
      earlier.trans later, ?_⟩
    · cases gone <;> simp_all
    · intro k' member e found
      rcases List.mem_append.1 member with early | here
      · exact fresh k' early e (later.kept k' e found)
      · obtain rfl := List.mem_singleton.1 here
        rw [← window]
        exact fresh' e found

end

/-! ### One operation -/

/-- The entries an operation is to evict, at time `now` and with this idle window. -/
def Operation.Due (now idle : Nat) : Operation κ α → κ → Timed α → Prop
  | .get k => fun k' e => k' = k ∧ idle < now - e.lastUse
  | .invalidateIf k p => fun k' e => k' = k ∧ p e.value = true
  | .sweep _ => fun _ e => idle < now - e.lastUse
  | _ => fun _ _ => False

def Operation.evicts : Operation κ α → Bool
  | .get _ | .invalidateIf _ _ | .sweep _ => true
  | _ => false

/-- What an operation leaves at a key, evictions apart. -/
def Operation.leaves (now idle : Nat) (held : Contents κ α) : Operation κ α → Contents κ α
  | .insert k a => fun k' => if k' = k then some ⟨a, now⟩ else held k'
  | .insertIfVacant k a => fun k' => if k' = k then some ((held k').getD ⟨a, now⟩) else held k'
  | .get k | .touch k => fun k' =>
    (held k').map fun e =>
      if k' = k ∧ now - e.lastUse ≤ idle then { e with lastUse := now } else e
  | .remove k => fun k' => if k' = k then none else held k'
  | .drain => fun _ => none
  | .peek _ | .invalidateIf _ _ | .sweep _ => held

/-- What an operation answers that makes the hook run as in `runs`. -/
def Operation.Answers (now idle : Nat) (held : Contents κ α) (runs : List (Run κ α)) :
    Operation κ α → Answer κ α → Prop
  | .insert k _, .value a | .peek k, .value a | .remove k, .value a =>
    a = (held k).map Timed.value
  | .insertIfVacant k _, .flag b => b = true ↔ held k = none
  | .get k, .value a => ∀ v, a = some v ↔
    ∃ e, held k = some e ∧ e.value = v ∧ now - e.lastUse ≤ idle
  | .touch k, .flag b => b = true ↔ ∃ e, held k = some e ∧ now - e.lastUse ≤ idle
  | .invalidateIf k p, .flag b => b = true ↔ ∃ e, held k = some e ∧ p e.value = true
  | .sweep _, .count n => n = runs.length
  | .drain, .entries l => (l.map Prod.fst).Nodup ∧
    ∀ k a, (k, a) ∈ l ↔ ∃ e, held k = some e ∧ e.value = a
  | _, _ => False

/-- What is true of an operation that starts with the map `before`, leaves `after`, and makes the
hook run as in `runs`. -/
structure Obeys (now : Nat) (op : Operation κ α) (before after : IdleMap κ α) (answer : Answer κ α)
    (runs : List (Run κ α)) : Prop where
  idle : after.idle = before.idle
  evictions : Evictions (op.Due now before.idle) (op.leaves now before.idle before.entries.find?)
    after.entries.find? runs
  complete : ∀ k e, before.entries.find? k = some e → op.Due now before.idle k e →
    runs.countP (fun r => r.key = k) + runs.countP (Run.takes k) = 1
  answers : op.Answers now before.idle before.entries.find? runs answer
  refreshed : ∀ k e, op = .get k → before.entries.find? k = some e →
    now - e.lastUse ≤ before.idle → runs = [] ∧
      after.entries.find? k = some { e with lastUse := now } ∧
      ∀ k', k' ≠ k → after.entries.find? k' = before.entries.find? k'
  swept : ∀ order, op = .sweep order →
    ∀ k e, after.entries.find? k = some e → now - e.lastUse ≤ before.idle

section

variable {now : Nat} {m : IdleMap κ α} {k : κ}

theorem mem_expiredKeys_iff :
    k ∈ m.expiredKeys now ↔ ∃ e, m.entries.find? k = some e ∧ m.idle < now - e.lastUse := by
  simp [IdleMap.expiredKeys, Table.mem_keys_iff, Table.find?_filter, Option.filter_eq_some_iff,
    IdleMap.expired]

/-- Refreshing a live entry is what a lookup leaves. -/
theorem find?_refresh (live : (m.live? now k).isSome) :
    (m.refresh now k).entries.find? =
      (Operation.get k).leaves now m.idle m.entries.find? := by
  obtain ⟨a, alive⟩ := Option.isSome_iff_exists.1 live
  obtain ⟨e, found, -, fresh⟩ := live?_eq_some_iff.1 alive
  funext k'
  rw [IdleMap.refresh, Table.find?_modify]
  by_cases same : k' = k
  · subst same
    simp only [Operation.leaves, found, Option.map_some]
    rw [if_pos trivial, if_pos ⟨trivial, fresh⟩]
  · simp [Operation.leaves, same]

/-- A lookup that finds no live entry leaves what there is to its eviction. -/
theorem leaves_get_of_dead (dead : m.live? now k = none) :
    (Operation.get k).leaves now m.idle m.entries.find? = m.entries.find? := by
  funext k'
  cases found : m.entries.find? k' with
  | none => simp only [Operation.leaves, found, Option.map_none]
  | some e =>
    have stale : ¬(k' = k ∧ now - e.lastUse ≤ m.idle) := by
      rintro ⟨rfl, fresh⟩
      cases dead.symm.trans (live?_eq_some_iff.2 ⟨e, found, rfl, fresh⟩)
    simp only [Operation.leaves, found, Option.map_some]
    rw [if_neg stale]

/-- What `get` does to a live entry is seen in what it leaves. -/
theorem leaves_get_of_fresh {held : Contents κ α} {idle : Nat} {e : Timed α}
    (found : held k = some e) (fresh : now - e.lastUse ≤ idle) :
    (Operation.get k).leaves now idle held k = some { e with lastUse := now } ∧
      ∀ k', k' ≠ k → (Operation.get k).leaves now idle held k' = held k' := by
  constructor
  · simp only [Operation.leaves, found, Option.map_some]
    rw [if_pos ⟨trivial, fresh⟩]
  · intro k' other
    simp [Operation.leaves, other]

theorem get_obeys (hook : Hook κ α ε) (now : Nat) (h : Host κ α ε) (k : κ) :
    ∃ runs, (hook.owner.lookup now k h).1.runs = h.runs ++ runs ∧
      Obeys now (.get k) h.map (hook.owner.lookup now k h).1.map
        (.value (hook.owner.lookup now k h).2) runs := by
  unfold Owner.lookup
  rw [Hook.owner_get]
  cases live : h.map.live? now k with
  | some a =>
    obtain ⟨e, found, value, fresh⟩ := live?_eq_some_iff.1 live
    have refreshed := find?_refresh (Option.isSome_iff_exists.2 ⟨a, live⟩)
    refine ⟨[], (List.append_nil _).symm, rfl, ?_, ?_, ?_, ?_, by rintro _ ⟨⟩⟩
    · show Evictions _ _ (h.map.refresh now k).entries.find? []
      rw [refreshed]
      exact .refl _ _
    · rintro _ e' found' ⟨rfl, idle⟩
      obtain rfl := Option.some.inj (found.symm.trans found')
      omega
    · intro v
      rw [← live?_eq_some_iff, live]
    · rintro _ e' ⟨⟩ found' fresh'
      have left : (h.map.refresh now k).entries.find? k = some { e' with lastUse := now } ∧
          ∀ k', k' ≠ k → (h.map.refresh now k).entries.find? k' = h.map.entries.find? k' := by
        rw [refreshed]
        exact leaves_get_of_fresh found' fresh'
      exact ⟨rfl, left⟩
  | none =>
    rcases result : hook.owner.evictExpired now k h with ⟨h', gone⟩
    obtain ⟨rs, runs, -, window, evictions, fresh⟩ := evictions_evictExpired
      (Operation.Due now h.map.idle (.get k)) result (fun e idle => ⟨rfl, idle⟩)
    refine ⟨rs, runs, window, ?_, ?_, ?_, ?_, by rintro _ ⟨⟩⟩
    · rw [leaves_get_of_dead live]
      exact evictions
    · rintro _ e found ⟨rfl, idle⟩
      refine evictions.complete found fun still => ?_
      have := fresh e still
      omega
    · intro v
      rw [← live?_eq_some_iff, live]
    · rintro _ e ⟨⟩ found fresh'
      have alive := live?_eq_some_iff.2 ⟨e, found, rfl, fresh'⟩
      cases live.symm.trans alive

theorem invalidateIf_obeys (hook : Hook κ α ε) (now : Nat) (h : Host κ α ε) (k : κ)
    (p : α → Bool) :
    ∃ runs, (hook.owner.evictIf p k h).1.runs = h.runs ++ runs ∧
      Obeys now (.invalidateIf k p) h.map (hook.owner.evictIf p k h).1.map
        (.flag (hook.owner.evictIf p k h).2) runs := by
  rcases hook.owner.evictIf_cases h p k with ⟨a, present, hit, result⟩ | ⟨miss, result⟩ <;>
    rw [result]
  · obtain ⟨e, found, rfl⟩ := Option.map_eq_some_iff.1 present
    obtain ⟨r, rfl, runs, window, evictions⟩ := evictions_evict hook
      (Operation.Due now h.map.idle (.invalidateIf k p)) found ⟨rfl, hit⟩
    refine ⟨[r], runs, window, evictions, ?_, ?_, by rintro _ _ ⟨⟩, by rintro _ ⟨⟩⟩
    · rintro _ e' found' ⟨rfl, -⟩
      refine evictions.complete found' ?_
      rw [evictions.lost (List.mem_singleton_self r)]
      simp
    · exact iff_of_true rfl ⟨e, found, hit⟩
  · refine ⟨[], (List.append_nil _).symm, rfl, .refl _ _, ?_, ?_, by rintro _ _ ⟨⟩,
      by rintro _ ⟨⟩⟩
    · rintro _ e found ⟨rfl, hit⟩
      rw [miss _ (peek?_of_find? found)] at hit
      cases hit
    · refine iff_of_false Bool.false_ne_true ?_
      rintro ⟨e, found, hit⟩
      rw [miss _ (peek?_of_find? found)] at hit
      cases hit

theorem sweep_obeys (hook : Hook κ α ε) (now : Nat) (h : Host κ α ε) (order : Arrangement κ) :
    let keys := order.arrange (h.map.expiredKeys now)
    ∃ runs, (hook.owner.evictAll now keys h).1.runs = h.runs ++ runs ∧
      Obeys now (.sweep order) h.map (hook.owner.evictAll now keys h).1.map
        (.count (hook.owner.evictAll now keys h).2) runs := by
  intro keys
  rcases result : hook.owner.evictAll now keys h with ⟨h', n⟩
  obtain ⟨rs, runs, length, window, evictions, fresh⟩ := evictions_evictAll
    (Operation.Due now h.map.idle (.sweep order)) result (fun _ _ idle => idle)
  have none : ∀ k e, h'.map.entries.find? k = some e → now - e.lastUse ≤ h.map.idle := by
    intro k e still
    by_contra idle
    have listed : k ∈ keys := (order.perm _).mem_iff.2
      (mem_expiredKeys_iff.2 ⟨e, evictions.kept k e still, by omega⟩)
    exact idle (fresh k listed e still)
  refine ⟨rs, runs, window, evictions, ?_, length.symm, by rintro _ _ ⟨⟩, fun _ _ => none⟩
  intro k e found idle
  refine evictions.complete found fun still => ?_
  have := none k e still
  exact Nat.not_lt.2 this idle

/-- What an operation that evicts nothing does to the map and answers. -/
structure Quiet (now : Nat) (op : Operation κ α) (before : IdleMap κ α) (after : IdleMap κ α)
    (answer : Answer κ α) : Prop where
  idle : after.idle = before.idle
  contents : after.entries.find? = op.leaves now before.idle before.entries.find?
  answers : op.Answers now before.idle before.entries.find? [] answer

theorem insertIfVacant_quiet (now : Nat) (m : IdleMap κ α) (k : κ) (a : α) :
    Quiet now (.insertIfVacant k a) m (m.insertIfVacant now k a).1
      (.flag (m.insertIfVacant now k a).2) := by
  cases present : m.contains k with
  | true =>
    obtain ⟨e, found⟩ := Option.isSome_iff_exists.1 present
    rw [insertIfVacant_of_contains present]
    refine ⟨rfl, funext fun k' => ?_, iff_of_false Bool.false_ne_true (by simp [found])⟩
    by_cases same : k' = k
    · subst same
      simp [Operation.leaves, found]
    · simp [Operation.leaves, same]
  | false =>
    have vacant : m.entries.find? k = none := Table.contains_eq_false_iff.1 present
    rw [insertIfVacant_of_vacant present]
    refine ⟨rfl, funext fun k' => ?_, iff_of_true rfl vacant⟩
    rw [IdleMap.insert, Table.find?_insert]
    by_cases same : k' = k
    · subst same
      simp [Operation.leaves, vacant]
    · simp [Operation.leaves, same]

theorem touch_quiet (now : Nat) (m : IdleMap κ α) (k : κ) :
    Quiet now (.touch k) m (m.touch now k).1 (.flag (m.touch now k).2) := by
  have live_iff : (m.live? now k).isSome = true ↔
      ∃ e, m.entries.find? k = some e ∧ now - e.lastUse ≤ m.idle := by
    simp [Option.isSome_iff_exists, live?_eq_some_iff]
  unfold IdleMap.touch
  split
  · rename_i live
    exact ⟨rfl, find?_refresh live, iff_of_true rfl (live_iff.1 live)⟩
  · rename_i dead
    refine ⟨rfl, ?_, iff_of_false Bool.false_ne_true (mt live_iff.2 dead)⟩
    exact (leaves_get_of_dead (Option.not_isSome_iff_eq_none.1 dead)).symm

theorem drain_quiet (now : Nat) (m : IdleMap κ α) :
    Quiet now .drain m m.clear (.entries m.toList) := by
  refine ⟨rfl, funext Table.find?_empty, nodup_toList m, fun k a => ?_⟩
  rw [mem_toList_iff, IdleMap.peek?, Option.map_eq_some_iff]

theorem perform_quiet (hook : Hook κ α ε) (now : Nat) (h : Host κ α ε) {op : Operation κ α}
    (quiet : op.evicts = false) :
    (perform hook now h op).1.runs = h.runs ∧
      Quiet now op h.map (perform hook now h op).1.map (perform hook now h op).2 := by
  cases op with
  | insert k a => exact ⟨rfl, rfl, funext fun k' => Table.find?_insert .., rfl⟩
  | insertIfVacant k a => exact ⟨rfl, insertIfVacant_quiet now h.map k a⟩
  | peek k => exact ⟨rfl, rfl, rfl, rfl⟩
  | touch k => exact ⟨rfl, touch_quiet now h.map k⟩
  | remove k => exact ⟨rfl, rfl, funext fun k' => Table.find?_erase .., rfl⟩
  | drain => exact ⟨rfl, drain_quiet now h.map⟩
  | get | invalidateIf | sweep => cases quiet

theorem quiet_obeys (hook : Hook κ α ε) (now : Nat) (h : Host κ α ε) {op : Operation κ α}
    (quiet : op.evicts = false) :
    ∃ runs, (perform hook now h op).1.runs = h.runs ++ runs ∧
      Obeys now op h.map (perform hook now h op).1.map (perform hook now h op).2 runs := by
  obtain ⟨runs, done⟩ := perform_quiet hook now h quiet
  refine ⟨[], by rw [runs, List.append_nil], done.idle, ?_, ?_, done.answers, ?_, ?_⟩
  · rw [done.contents]
    exact .refl _ _
  · intro k e _ isDue
    cases op with
    | get | invalidateIf | sweep => cases quiet
    | _ => cases isDue
  · rintro k e rfl
    cases quiet
  · rintro order rfl
    cases quiet

example (hook : Hook κ α ε) (now : Nat) (h : Host κ α ε) :
    (perform hook now h (.sweep ⟨id, List.Perm.refl⟩)).1 = (hook.owner.sweep now h).1 := rfl

/-- Every operation obeys, on every map and with every hook. -/
theorem perform_obeys (hook : Hook κ α ε) (now : Nat) (h : Host κ α ε) (op : Operation κ α) :
    ∃ runs, (perform hook now h op).1.runs = h.runs ++ runs ∧
      Obeys now op h.map (perform hook now h op).1.map (perform hook now h op).2 runs := by
  cases op with
  | get k => exact get_obeys hook now h k
  | invalidateIf k p => exact invalidateIf_obeys hook now h k p
  | sweep order => exact sweep_obeys hook now h order
  | _ => exact quiet_obeys hook now h rfl

end

/-! ### Every entry is accounted for -/

/-- The entries a call puts at a key. -/
def put (k : κ) : Operation κ α × Answer κ α → Nat
  | (.insert k' _, _) | (.insertIfVacant k' _, .flag true) => (decide (k' = k)).toNat
  | _ => 0

/-- The entries at a key that a call hands back to its caller. -/
def returned (k : κ) : Operation κ α × Answer κ α → Nat
  | (.insert k' _, .value a) | (.remove k', .value a) => (decide (k' = k) && a.isSome).toNat
  | (.drain, .entries l) => l.countP fun e => e.1 = k
  | _ => 0

/-- Every entry ever put at a key is there still, or the hook has run for it, or a run of the hook
has removed it, or a caller has it back, and only one of these, and once. -/
def Balanced (k : κ) (h : Host κ α ε) (calls : List (Operation κ α × Answer κ α)) : Prop :=
  (calls.map (put k)).sum = count h.map.entries.find? k + h.runs.countP (fun r => r.key = k) +
    h.runs.countP (Run.takes k) + (calls.map (returned k)).sum

section

variable {held : Contents κ α} {runs : List (Run κ α)} {answer : Answer κ α} {now idle : Nat}

theorem countP_drained {l : List (κ × α)} (distinct : (l.map Prod.fst).Nodup)
    (mem_iff : ∀ k a, (k, a) ∈ l ↔ ∃ e, held k = some e ∧ e.value = a) (k : κ) :
    (l.countP fun e => e.1 = k) = count held k := by
  have counted : (l.countP fun e => e.1 = k) = (l.map Prod.fst).count k := by
    rw [List.count, List.countP_map]
    rfl
  have listed : k ∈ l.map Prod.fst ↔ (held k).isSome = true := by
    simp [mem_iff, Option.isSome_iff_exists]
  rw [counted, distinct.count, count]
  by_cases present : (held k).isSome <;> simp [listed, present]

/-- What an operation puts at a key it leaves there, and what it hands back it does not. -/
theorem leaves_balances {op : Operation κ α} (answers : op.Answers now idle held runs answer)
    (k : κ) : count held k + put k (op, answer) =
      count (op.leaves now idle held) k + returned k (op, answer) := by
  cases op with
  | insert k' a =>
    cases answer with
    | value b =>
      obtain rfl : b = _ := answers
      by_cases same : k = k'
      · subst same
        simp [Operation.leaves, put, returned, count, Nat.add_comm]
      · simp [Operation.leaves, put, returned, count, same, Ne.symm same]
    | _ => cases answers
  | insertIfVacant k' a =>
    cases answer with
    | flag b =>
      have vacant_iff : b = true ↔ held k' = none := answers
      by_cases same : k = k'
      · subst same
        cases b with
        | true => simp [Operation.leaves, put, returned, count, vacant_iff.1 rfl]
        | false =>
          have present : held k ≠ none := fun vacant => nomatch vacant_iff.2 vacant
          simp [Operation.leaves, put, returned, count, Option.isSome_iff_ne_none.2 present]
      · cases b <;> simp [Operation.leaves, put, returned, count, same, Ne.symm same]
    | _ => cases answers
  | get k' => simp [Operation.leaves, put, returned, count]
  | peek k' => rfl
  | touch k' => simp [Operation.leaves, put, returned, count]
  | remove k' =>
    cases answer with
    | value b =>
      obtain rfl : b = _ := answers
      by_cases same : k = k'
      · subst same
        simp [Operation.leaves, put, returned, count]
      · simp [Operation.leaves, put, returned, count, same, Ne.symm same]
    | _ => cases answers
  | invalidateIf k' p => rfl
  | sweep order => rfl
  | drain =>
    cases answer with
    | entries l =>
      have listed := countP_drained answers.1 answers.2 k
      simp [Operation.leaves, put, returned, count, listed]
    | _ => cases answers

variable (hook : Hook κ α ε)

theorem run_balances (s : Clocked (Host κ α ε)) (calls : List (Nat × Operation κ α)) (k : κ)
    (earlier : List (Operation κ α × Answer κ α)) (balanced : Balanced k s.state earlier) :
    Balanced k (run hook s calls).1.state (earlier ++ (run hook s calls).2) := by
  induction calls generalizing s earlier with
  | nil => simpa [run] using balanced
  | cons call rest ih =>
    obtain ⟨elapsed, op⟩ := call
    have next : Balanced k (perform hook (s.now + elapsed) s.state op).1
        (earlier ++ [(op, (perform hook (s.now + elapsed) s.state op).2)]) := by
      obtain ⟨rs, runs, obeys⟩ := perform_obeys hook (s.now + elapsed) s.state op
      have moved := leaves_balances obeys.answers k
      have once := obeys.evictions.once k
      simp only [Balanced, runs, List.map_append, List.sum_append, List.countP_append,
        List.map_singleton, List.sum_singleton] at balanced ⊢
      omega
    simpa [run] using ih ⟨_, s.now + elapsed⟩ _ next

/-- From an empty map, whatever is done to it and whatever its hook removes, the next operation
obeys and every entry so far is accounted for. -/
theorem run_evicts (idle : Nat) (memory : ε) (calls : List (Nat × Operation κ α)) (elapsed : Nat)
    (op : Operation κ α) :
    let (s, answers) := run hook { state := { map := { idle }, memory } } calls
    let now := s.now + elapsed
    let (h, answer) := perform hook now s.state op
    (∃ runs, h.runs = s.state.runs ++ runs ∧ Obeys now op s.state.map h.map answer runs) ∧
      ∀ k, Balanced k s.state answers := by
  refine ⟨perform_obeys hook _ _ op, fun k => ?_⟩
  refine run_balances hook { state := { map := { idle }, memory } } calls k [] ?_
  simp [Balanced, count]

end

/-- A hook that removes the key which the evicted value names. -/
def chain : Hook Nat Nat Unit := fun _ a _ memory => ([a], memory)

/-- Backwards through three expired entries, of which the first goes when the second is evicted. -/
theorem chain_evicts :
    let calls := [(0, .insert 1 2), (0, .insert 2 1), (5, .insert 3 9)]
    let s := (run chain { state := { map := { idle := 10 }, memory := () } } calls).1
    let backwards : Operation Nat Nat := .sweep ⟨List.reverse, List.reverse_perm⟩
    let (h, answer) := perform chain (s.now + 20) s.state backwards
    h.runs.map Run.key = [3, 2] ∧ Obeys (s.now + 20) backwards s.state.map h.map answer h.runs ∧
      h.runs.countP (Run.takes 1) = 1 := by
  intro calls s backwards
  obtain ⟨⟨runs, log, obeys⟩, -⟩ := run_evicts chain 10 () calls 20 backwards
  have first : runs = (perform chain (s.now + 20) s.state backwards).1.runs := log.symm
  subst first
  have complete := obeys.complete 1 ⟨2, 0⟩ rfl (by show 10 < 25 - 0; decide)
  have keys : (perform chain (s.now + 20) s.state backwards).1.runs.map Run.key = [3, 2] := by
    decide
  have unseen : (perform chain (s.now + 20) s.state backwards).1.runs.countP
      (fun r => r.key = 1) = 0 := by
    decide
  rw [unseen, Nat.zero_add] at complete
  exact ⟨keys, obeys, complete⟩

end Concentrator.Eviction
