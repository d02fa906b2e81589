/-!
# Tables

A table is an association list in which no key occurs twice. An entry keeps
its place when its value changes, and a new one goes to the end.
-/

namespace Concentrator

structure Table (κ : Type) (α : Type) where
  entries : List (κ × α)
  nodup : (entries.map Prod.fst).Nodup

namespace Table

variable {κ α : Type}

def empty : Table κ α := ⟨[], List.nodup_nil⟩

instance : Inhabited (Table κ α) := ⟨empty⟩

def keys (t : Table κ α) : List κ := t.entries.map Prod.fst

def values (t : Table κ α) : List α := t.entries.map Prod.snd

def size (t : Table κ α) : Nat := t.entries.length

def isEmpty (t : Table κ α) : Bool := t.entries.isEmpty

theorem nodup_filter (t : Table κ α) (p : κ × α → Bool) :
    ((t.entries.filter p).map Prod.fst).Nodup :=
  List.Sublist.nodup (List.filter_sublist.map _) t.nodup

def filter (p : κ → α → Bool) (t : Table κ α) : Table κ α :=
  ⟨t.entries.filter fun e => p e.1 e.2, t.nodup_filter _⟩

variable [DecidableEq κ]

def find? (t : Table κ α) (k : κ) : Option α :=
  (t.entries.find? fun e => e.1 = k).map Prod.snd

def contains (t : Table κ α) (k : κ) : Bool := (t.find? k).isSome

def erase (t : Table κ α) (k : κ) : Table κ α :=
  t.filter fun k' _ => k' ≠ k

/-- The table with `f` applied to the value of `k`, if there is one. -/
def modify (t : Table κ α) (k : κ) (f : α → α) : Table κ α :=
  ⟨t.entries.map fun e => if e.1 = k then (e.1, f e.2) else e, by
    have same : (t.entries.map fun e => if e.1 = k then (e.1, f e.2) else e).map Prod.fst =
        t.entries.map Prod.fst := by
      rw [List.map_map]
      apply List.map_congr_left
      intro e _
      by_cases h : e.1 = k <;> simp [h]
    rw [same]
    exact t.nodup⟩

theorem not_mem_keys_of_find?_eq_none {t : Table κ α} {k : κ} (h : t.find? k = none) :
    k ∉ t.entries.map Prod.fst := by
  intro member
  obtain ⟨e, inside, rfl⟩ := List.mem_map.1 member
  have absent := List.find?_eq_none.1 (Option.map_eq_none_iff.1 h) e inside
  simp at absent

def insert (t : Table κ α) (k : κ) (a : α) : Table κ α :=
  if h : t.find? k = none then
    ⟨t.entries ++ [(k, a)], by
      rw [List.map_append, List.nodup_append]
      refine ⟨t.nodup, by simp, ?_⟩
      intro x inside y last
      simp only [List.map_cons, List.map_nil, List.mem_singleton] at last
      subst last
      rintro rfl
      exact not_mem_keys_of_find?_eq_none h inside⟩
  else t.modify k fun _ => a

end Table

end Concentrator
