import Concentrator.Table
import Mathlib.Data.List.Nodup

/-!
# Tables as finite maps

What a table finds at each key says all about it but the order of its entries.
Every operation has one law about what is found afterwards, and later proofs
use these laws alone.
-/

namespace Concentrator.Table

variable {κ α : Type} [DecidableEq κ] {t : Table κ α} {k : κ} {a : α}

theorem mem_entries_iff : (k, a) ∈ t.entries ↔ t.find? k = some a := by
  constructor
  · intro member
    obtain ⟨e, found⟩ : ∃ e, t.entries.find? (fun e => e.1 = k) = some e :=
      Option.isSome_iff_exists.1 (List.find?_isSome.2 ⟨_, member, by simp⟩)
    have same : e.1 = k := by simpa using List.find?_some found
    have equal := List.inj_on_of_nodup_map t.nodup (List.mem_of_find?_eq_some found) member same
    simp [find?, found, equal]
  · intro found
    obtain ⟨e, first, rfl⟩ := Option.map_eq_some_iff.1 found
    have same : e.1 = k := by simpa using List.find?_some first
    rw [← same]
    exact List.mem_of_find?_eq_some first

theorem mem_keys_iff : k ∈ t.keys ↔ ∃ a, t.find? k = some a := by
  simp [keys, ← mem_entries_iff]

@[simp]
theorem find?_empty (k : κ) : (empty : Table κ α).find? k = none := rfl

theorem eq_empty (nowhere : ∀ k, t.find? k = none) : t = empty := by
  have entries : t.entries = [] := List.eq_nil_iff_forall_not_mem.2 fun ⟨k, a⟩ member => by
    simpa [nowhere] using mem_entries_iff.1 member
  cases t
  simpa [empty] using entries

@[grind =]
theorem find?_filter (p : κ → α → Bool) (t : Table κ α) (k : κ) :
    (t.filter p).find? k = (t.find? k).filter (p k) := by
  apply Option.ext
  intro a
  simp [← mem_entries_iff, filter]

@[grind =]
theorem find?_erase (t : Table κ α) (k k' : κ) :
    (t.erase k).find? k' = if k' = k then none else t.find? k' := by
  rw [erase, find?_filter]
  by_cases same : k' = k <;> cases t.find? k' <;> simp [same]

theorem find?_erase_eq_some_iff {k' : κ} :
    (t.erase k).find? k' = some a ↔ k' ≠ k ∧ t.find? k' = some a := by
  rw [find?_erase]
  by_cases same : k' = k <;> simp [same]

@[grind =]
theorem find?_modify (t : Table κ α) (k : κ) (f : α → α) (k' : κ) :
    (t.modify k f).find? k' = if k' = k then (t.find? k').map f else t.find? k' := by
  apply Option.ext
  intro a
  by_cases same : k' = k
  · subst same
    simp only [← mem_entries_iff, modify, List.mem_map, if_true, Option.map_eq_some_iff]
    constructor
    · rintro ⟨⟨k, b⟩, member, equal⟩
      by_cases hit : k = k'
      · subst hit
        simp only [if_true, Prod.mk.injEq, true_and] at equal
        exact ⟨b, member, equal⟩
      · simp_all
    · rintro ⟨b, member, rfl⟩
      exact ⟨_, member, by simp⟩
  · simp only [← mem_entries_iff, modify, List.mem_map, if_neg same]
    constructor
    · rintro ⟨⟨k'', b⟩, member, equal⟩
      by_cases hit : k'' = k <;> simp_all
    · intro member
      exact ⟨_, member, by simp [same]⟩

@[grind =]
theorem find?_insert (t : Table κ α) (k : κ) (a : α) (k' : κ) :
    (t.insert k a).find? k' = if k' = k then some a else t.find? k' := by
  unfold insert
  split
  · rename_i absent
    apply Option.ext
    intro b
    rw [← mem_entries_iff, List.mem_append, mem_entries_iff, List.mem_singleton, Prod.mk.injEq]
    by_cases same : k' = k
    · subst same
      simp [absent, eq_comm]
    · simp [same]
  · rename_i present
    rw [find?_modify]
    by_cases same : k' = k
    · subst same
      obtain ⟨b, found⟩ := Option.ne_none_iff_exists'.1 present
      simp [found]
    · simp [same]

theorem erase_eq_self (absent : t.find? k = none) : t.erase k = t := by
  have all : t.entries.filter (fun e => e.1 ≠ k) = t.entries := by
    apply List.filter_eq_self.2
    rintro ⟨k', b⟩ member
    have found := mem_entries_iff.1 member
    simp only [ne_eq, decide_not, Bool.not_eq_eq_eq_not, Bool.not_true, decide_eq_false_iff_not]
    rintro rfl
    simp [absent] at found
  cases t
  simp only [erase, filter, mk.injEq]
  exact all

theorem contains_eq_false_iff : t.contains k = false ↔ t.find? k = none := by
  simp [contains]

end Concentrator.Table
