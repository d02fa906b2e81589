import Concentrator.IdleMap
import Concentrator.Proofs.Table

/-!
# Idle maps and their owners

`peek?` is the view of an idle map that forgets the clocks. An owner touches its
map in only two ways, by refreshing a live entry and by evicting one; a sweep is
a sequence of evictions, so what every eviction preserves a sweep preserves too.
-/

namespace Concentrator

namespace IdleMap

variable {κ α : Type} {m : IdleMap κ α} {now : Nat}

theorem nodup_toList (m : IdleMap κ α) : (m.toList.map Prod.fst).Nodup := by
  have same : m.toList.map Prod.fst = m.entries.entries.map Prod.fst := by
    rw [toList, List.map_map]
    rfl
  rw [same]
  exact m.entries.nodup

variable [DecidableEq κ] {k : κ} {a : α}

theorem peek?_of_find? {e : Timed α} (found : m.entries.find? k = some e) :
    m.peek? k = some e.value := by
  simp [peek?, found]

@[grind =]
theorem peek?_insert (m : IdleMap κ α) (now : Nat) (k : κ) (a : α) (k' : κ) :
    (m.insert now k a).peek? k' = if k' = k then some a else m.peek? k' := by
  simp only [peek?, insert, Table.find?_insert]
  split <;> rfl

@[grind =]
theorem peek?_remove (m : IdleMap κ α) (k k' : κ) :
    (m.remove k).peek? k' = if k' = k then none else m.peek? k' := by
  simp only [peek?, remove, Table.find?_erase]
  split <;> rfl

theorem peek?_remove_eq_some_iff {k' : κ} :
    (m.remove k).peek? k' = some a ↔ k' ≠ k ∧ m.peek? k' = some a := by
  rw [peek?_remove]
  by_cases same : k' = k <;> simp [same]

@[simp, grind =]
theorem peek?_refresh (m : IdleMap κ α) (now : Nat) (k k' : κ) :
    (m.refresh now k).peek? k' = m.peek? k' := by
  simp only [peek?, refresh, Table.find?_modify]
  split <;> cases m.entries.find? k' <;> rfl

@[simp]
theorem idle_insert : (m.insert now k a).idle = m.idle := rfl

@[simp]
theorem idle_remove : (m.remove k).idle = m.idle := rfl

@[simp]
theorem idle_refresh : (m.refresh now k).idle = m.idle := rfl

theorem mem_toList_iff : (k, a) ∈ m.toList ↔ m.peek? k = some a := by
  simp only [toList, List.mem_map, peek?, Option.map_eq_some_iff, ← Table.mem_entries_iff]
  constructor
  · rintro ⟨⟨k', e⟩, member, equal⟩
    obtain ⟨rfl, rfl⟩ := Prod.mk.inj equal
    exact ⟨e, member, rfl⟩
  · rintro ⟨e, member, rfl⟩
    exact ⟨(k, e), member, rfl⟩

theorem contains_eq_false_iff : m.contains k = false ↔ m.peek? k = none := by
  simp [contains, peek?, Table.contains_eq_false_iff]

/-! ### Live entries -/

theorem insertIfVacant_of_contains (present : m.contains k = true) (now : Nat) (a : α) :
    m.insertIfVacant now k a = (m, false) :=
  if_pos present

theorem insertIfVacant_of_vacant (vacant : m.contains k = false) (now : Nat) (a : α) :
    m.insertIfVacant now k a = (m.insert now k a, true) :=
  if_neg (by simp [vacant])

@[simp]
theorem insertIfVacant_snd (m : IdleMap κ α) (now : Nat) (k : κ) (a : α) :
    (m.insertIfVacant now k a).2 = !m.contains k := by
  cases present : m.contains k with
  | true => rw [insertIfVacant_of_contains present, Bool.not_true]
  | false => rw [insertIfVacant_of_vacant present, Bool.not_false]

variable {later : Nat} {e : Timed α}

theorem live?_eq_bind (m : IdleMap κ α) (now : Nat) (k : κ) :
    m.live? now k = (m.entries.find? k).bind fun e =>
      if now - e.lastUse ≤ m.idle then some e.value else none := by
  unfold live? expired
  cases m.entries.find? k with
  | none => rfl
  | some e =>
    by_cases fresh : now - e.lastUse ≤ m.idle
    · have live : decide (m.idle < now - e.lastUse) = false := decide_eq_false (by omega)
      simp only [live, fresh, if_true, Option.bind_some, Bool.false_eq_true, if_false]
    · have gone : decide (m.idle < now - e.lastUse) = true := decide_eq_true (by omega)
      simp only [gone, fresh, if_true, if_false, Option.bind_some]

theorem live?_eq_some_iff : m.live? now k = some a ↔
    ∃ e, m.entries.find? k = some e ∧ e.value = a ∧ now - e.lastUse ≤ m.idle := by
  rw [live?_eq_bind, Option.bind_eq_some_iff]
  refine exists_congr fun e => and_congr_right fun _ => ?_
  by_cases fresh : now - e.lastUse ≤ m.idle <;> simp [fresh]

theorem live?_of_find? (found : m.entries.find? k = some e) :
    m.live? now k = if m.expired now e then none else some e.value := by
  rw [live?, found]

/-- An entry that has expired stays so. -/
theorem live?_eq_none_of_le (dead : m.live? now k = none) (le : now ≤ later) :
    m.live? later k = none := by
  rw [Option.eq_none_iff_forall_ne_some]
  intro a live
  obtain ⟨e, found, value, fresh⟩ := live?_eq_some_iff.1 live
  have alive : m.live? now k = some a := live?_eq_some_iff.2 ⟨e, found, value, by omega⟩
  rw [dead] at alive
  cases alive

theorem peek?_of_live? (live : m.live? now k = some a) : m.peek? k = some a := by
  obtain ⟨e, found, rfl, -⟩ := live?_eq_some_iff.1 live
  exact peek?_of_find? found

theorem live?_insert (m : IdleMap κ α) (now later : Nat) (k : κ) (a : α) (k' : κ) :
    (m.insert now k a).live? later k' =
      if k' = k then (if later - now ≤ m.idle then some a else none) else m.live? later k' := by
  rw [live?_eq_bind, live?_eq_bind, insert, Table.find?_insert]
  split <;> rfl

theorem live?_refresh (found : m.entries.find? k = some e) (now later : Nat) (k' : κ) :
    (m.refresh now k).live? later k' =
      if k' = k then (if later - now ≤ m.idle then some e.value else none)
      else m.live? later k' := by
  rw [live?_eq_bind, live?_eq_bind, refresh, Table.find?_modify]
  by_cases same : k' = k
  · subst same
    rw [if_pos rfl, if_pos rfl, found]
    rfl
  · rw [if_neg same, if_neg same]

theorem live?_remove (m : IdleMap κ α) (now : Nat) (k k' : κ) :
    (m.remove k).live? now k' = if k' = k then none else m.live? now k' := by
  rw [live?_eq_bind, live?_eq_bind, remove, Table.find?_erase]
  split <;> rfl

/-- An entry that has expired is not missed when it goes. -/
theorem live?_remove_expired (found : m.entries.find? k = some e)
    (expired : m.expired now e = true) (le : now ≤ later) (k' : κ) :
    (m.remove k).live? later k' = m.live? later k' := by
  rw [live?_remove]
  by_cases same : k' = k
  · subst same
    have idle : m.idle < now - e.lastUse := by simpa [IdleMap.expired] using expired
    have gone : ¬ later - e.lastUse ≤ m.idle := by omega
    rw [if_pos rfl, live?_eq_bind, found, Option.bind_some, if_neg gone]
  · rw [if_neg same]

/-! ### Owners -/

namespace Owner

variable {σ : Type} (owner : Owner σ κ α) (s : σ)

/-- The three ways in which a lookup can go. -/
theorem lookup_cases (now : Nat) (k : κ) :
    (∃ e, (owner.get s).entries.find? k = some e ∧ (owner.get s).expired now e = false ∧
      owner.lookup now k s = (owner.set ((owner.get s).refresh now k) s, some e.value)) ∨
    (∃ e, (owner.get s).entries.find? k = some e ∧ (owner.get s).expired now e = true ∧
      owner.lookup now k s = (owner.evict k e.value s, none)) ∨
    ((owner.get s).entries.find? k = none ∧ owner.lookup now k s = (s, none)) := by
  unfold lookup live? evictExpired
  cases found : (owner.get s).entries.find? k with
  | none => exact .inr (.inr ⟨rfl, rfl⟩)
  | some e =>
    cases expired : (owner.get s).expired now e with
    | false => exact .inl ⟨e, rfl, expired, by simp [expired]⟩
    | true => exact .inr (.inl ⟨e, rfl, expired, by simp [expired]⟩)

theorem evictExpired_cases (now : Nat) (k : κ) :
    (∃ e, (owner.get s).entries.find? k = some e ∧ (owner.get s).expired now e = true ∧
      owner.evictExpired now k s = (owner.evict k e.value s, true)) ∨
    owner.evictExpired now k s = (s, false) := by
  unfold evictExpired
  cases found : (owner.get s).entries.find? k with
  | none => exact .inr rfl
  | some e =>
    cases expired : (owner.get s).expired now e with
    | false => exact .inr (by simp [expired])
    | true => exact .inl ⟨e, rfl, expired, by simp [expired]⟩

theorem evictIf_cases (p : α → Bool) (k : κ) :
    (∃ a, (owner.get s).peek? k = some a ∧ p a = true ∧
      owner.evictIf p k s = (owner.evict k a s, true)) ∨
    ((∀ a, (owner.get s).peek? k = some a → p a = false) ∧
      owner.evictIf p k s = (s, false)) := by
  unfold evictIf
  cases found : (owner.get s).peek? k with
  | none => exact .inr ⟨by simp, rfl⟩
  | some a =>
    cases hit : p a with
    | false => exact .inr ⟨by simp [hit], by simp [hit]⟩
    | true => exact .inl ⟨a, rfl, hit, by simp [hit]⟩

variable {owner s}

/-- A lookup that finds a value has found it live, and touches nothing but its clock. -/
theorem lookup_some {s' : σ}
    (found : owner.lookup now k s = (s', some a)) :
    (∃ e, (owner.get s).entries.find? k = some e ∧ e.value = a ∧
      (owner.get s).expired now e = false) ∧
    s' = owner.set ((owner.get s).refresh now k) s := by
  rcases owner.lookup_cases s now k with
    ⟨e, present, live, result⟩ | ⟨e, -, -, result⟩ | ⟨-, result⟩ <;> rw [result] at found
  · obtain ⟨rfl, equal⟩ := Prod.mk.inj found
    exact ⟨⟨e, present, Option.some.inj equal, live⟩, rfl⟩
  · cases (Prod.mk.inj found).2
  · cases (Prod.mk.inj found).2

/-- What refreshing and every eviction preserve a lookup preserves. -/
theorem lookup_preserves {P : σ → Prop}
    (refreshed : P s → P (owner.set ((owner.get s).refresh now k) s))
    (evicted : ∀ a, (owner.get s).peek? k = some a → P s → P (owner.evict k a s))
    (holds : P s) : P (owner.lookup now k s).1 := by
  rcases owner.lookup_cases s now k with
    ⟨e, -, -, result⟩ | ⟨e, found, -, result⟩ | ⟨-, result⟩ <;> rw [result]
  · exact refreshed holds
  · exact evicted e.value (peek?_of_find? found) holds
  · exact holds

theorem evictExpired_preserves {P : σ → Prop}
    (evicted : ∀ s k e, (owner.get s).entries.find? k = some e →
      (owner.get s).expired now e = true → P s → P (owner.evict k e.value s))
    (holds : P s) : P (owner.evictExpired now k s).1 := by
  rcases owner.evictExpired_cases s now k with ⟨e, found, expired, result⟩ | result
  · rw [result]
    exact evicted s k e found expired holds
  · rw [result]
    exact holds

/-- What the eviction of every expired entry preserves, a sweep preserves. -/
theorem sweep_preserves_of_expired {P : σ → Prop}
    (evicted : ∀ s k e, (owner.get s).entries.find? k = some e →
      (owner.get s).expired now e = true → P s → P (owner.evict k e.value s))
    (holds : P s) : P (owner.sweep now s).1 := by
  refine List.foldlRecOn (motive := fun (r : σ × Nat) => P r.1) _ _ holds ?_
  intro r still k _
  exact evictExpired_preserves evicted still

theorem sweep_preserves {P : σ → Prop}
    (evicted : ∀ s k a, (owner.get s).peek? k = some a → P s → P (owner.evict k a s))
    (holds : P s) : P (owner.sweep now s).1 :=
  sweep_preserves_of_expired
    (fun s k e found _ => evicted s k e.value (peek?_of_find? found)) holds

end Owner

end IdleMap

/-! ### Time -/

/-- A state and the time in milliseconds. -/
structure Clocked (σ : Type) where
  state : σ
  now : Nat := 0

end Concentrator
