import Concentrator.Proofs.Masquerade.History

/-!
# What a purge takes out

A purge trusts the index by address: it evicts the ports that are listed there and
looks at no others. `run_purges` says that after any sequence of operations this
is every mapping of the address, and that nothing else changes.
-/

namespace Concentrator.Masquerade

variable {t u : Masquerade} {address : Ipv4} {ports : List UInt16}

/-- `u` is `t` without the mappings of an address, be they live or expired. -/
structure Without (address : Ipv4) (t u : Masquerade) : Prop where
  /-- The other mappings keep their ports and their clocks. -/
  reverse : ∀ p, u.reverse.entries.find? p =
    (t.reverse.entries.find? p).filter fun e => e.value.address ≠ address
  forward : ∀ e, u.forward.find? e = if e.address = address then none else t.forward.find? e
  byAddress : ∀ a, u.byAddress.find? a = if a = address then none else t.byAddress.find? a
  cursor : u.cursor = t.cursor
  idle : u.reverse.idle = t.reverse.idle
  external : u.external = t.external

theorem unindex_of_unlisted {index : Table Ipv4 (List UInt16)} (port : UInt16)
    (unlisted : index.find? address = none) : unindex index address port = index := by
  rw [unindex, unlisted]

theorem purgePorts_keeps {s : Masquerade × Nat} (unlisted : s.1.byAddress.find? address = none)
    (ports : List UInt16) :
    (ports.foldl (purgePort address) s).1.byAddress = s.1.byAddress ∧
      (ports.foldl (purgePort address) s).1.cursor = s.1.cursor := by
  refine List.foldlRecOn (motive := fun (r : Masquerade × Nat) =>
    r.1.byAddress = s.1.byAddress ∧ r.1.cursor = s.1.cursor) ports _ ⟨rfl, rfl⟩ ?_
  rintro r ⟨byAddress, cursor⟩ port -
  rcases purgePort_cases address r port with ⟨e, -, rfl, result⟩ | ⟨-, result⟩ <;> rw [result]
  · rw [← byAddress] at unlisted
    exact ⟨(unindex_of_unlisted port unlisted).trans byAddress, cursor⟩
  · exact ⟨byAddress, cursor⟩

/-- Each port that has a mapping of the address counts once. -/
theorem purgePorts_count {s : Masquerade × Nat} (nodup : ports.Nodup)
    (mapped : ∀ p ∈ ports, ∃ e, s.1.reverse.peek? p = some e ∧ e.address = address) :
    (ports.foldl (purgePort address) s).2 = s.2 + ports.length := by
  induction ports generalizing s with
  | nil => rfl
  | cons port rest ih =>
    obtain ⟨fresh, nodup⟩ := List.nodup_cons.1 nodup
    obtain ⟨⟨e, present, here⟩, mapped⟩ := List.forall_mem_cons.1 mapped
    rcases purgePort_cases address s port with ⟨gone, -, -, result⟩ | ⟨elsewhere, -⟩
    · rw [List.foldl_cons, result, ih nodup, List.length_cons]
      · exact Nat.add_right_comm s.2 1 rest.length
      · intro p member
        obtain ⟨e, present, here⟩ := mapped p member
        have other : p ≠ port := by
          rintro rfl
          exact fresh member
        exact ⟨e, by rw [reverse_evict, IdleMap.peek?_remove, if_neg other, present], here⟩
    · exact absurd here (elsewhere e present)

theorem purge_keeps (t : Masquerade) (address : Ipv4) :
    (∀ a, (t.purge address).1.byAddress.find? a =
        if a = address then none else t.byAddress.find? a) ∧
      (t.purge address).1.cursor = t.cursor := by
  unfold purge
  cases found : t.byAddress.find? address with
  | none =>
    refine ⟨fun a => ?_, rfl⟩
    by_cases same : a = address
    · rw [if_pos same, same]
      exact found
    · rw [if_neg same]
  | some ports =>
    obtain ⟨byAddress, cursor⟩ := purgePorts_keeps
      (s := ({ t with byAddress := t.byAddress.erase address }, 0))
      ((Table.find?_erase _ _ _).trans (if_pos rfl)) ports
    dsimp only at byAddress cursor ⊢
    -- only these two parts of the result matter, not how the fold came by them
    generalize ports.foldl (purgePort address)
      ({ t with byAddress := t.byAddress.erase address }, 0) = purged at byAddress cursor ⊢
    rw [← cursor]
    simp only [← Table.find?_erase, ← byAddress]
    split <;> exact ⟨fun _ => rfl, rfl⟩

theorem purge_without (indexed : Indexed (fun _ => False) t) (address : Ipv4) :
    Without address t (t.purge address).1 := by
  obtain ⟨after, left⟩ := purge_spec indexed address
  obtain ⟨byAddress, cursor⟩ := t.purge_keeps address
  have evolved : Evolves (fun _ => False) t (t.purge address).1 := purge_evolves address
  constructor
  · intro p
    apply Option.ext
    intro entry
    simp only [Option.filter_eq_some_iff, decide_eq_true_eq]
    constructor
    · intro found
      have survived := purge_survivors address found
      exact ⟨survived, ((left p entry.value).1 (IdleMap.peek?_of_find? found)).2⟩
    · rintro ⟨found, other⟩
      have present := (left p entry.value).2 ⟨IdleMap.peek?_of_find? found, other⟩
      obtain ⟨entry', found', -⟩ := Option.map_eq_some_iff.1 present
      have survived := purge_survivors address found'
      rw [found] at survived
      rw [Option.some.inj survived, found']
  · intro e
    apply Option.ext
    intro p
    rw [after.inverse, left, ← indexed.inverse]
    by_cases here : e.address = address <;> simp [here]
  · exact byAddress
  · exact cursor
  · exact evolved.idle
  · exact evolved.external

/-- The index lists every mapping of the address once, so that their number is counted. -/
theorem purge_count (indexed : Indexed (fun _ => False) t) (address : Ipv4) :
    (t.purge address).2 = t.reverse.toList.countP fun mapping => mapping.2.address = address := by
  have listed : ∀ p, p ∈ t.held address ↔
      p ∈ (t.reverse.toList.filter fun mapping => mapping.2.address = address).map Prod.fst := by
    intro p
    rw [indexed.listed address p (by simp)]
    simp [List.mem_map, List.mem_filter, IdleMap.mem_toList_iff]
  have distinct : ((t.reverse.toList.filter fun mapping =>
      mapping.2.address = address).map Prod.fst).Nodup :=
    (List.filter_sublist.map _).nodup t.reverse.nodup_toList
  -- the same ports without repetitions, so that there are as many of them
  have same := (List.perm_ext_iff_of_nodup (held_nodup indexed address) distinct).2 listed
  rw [List.countP_eq_length_filter, ← List.length_map Prod.fst, ← same.length_eq]
  unfold purge held at *
  cases found : t.byAddress.find? address with
  | none => rfl
  | some ports =>
    simp only [found, Option.getD_some] at listed same ⊢
    have nodup : ports.Nodup := (indexed.proper address ports found).2
    refine (purgePorts_count nodup fun p member => ?_).trans (Nat.zero_add _)
    obtain ⟨⟨p, e⟩, inside, rfl⟩ := List.mem_map.1 ((listed p).1 member)
    rw [List.mem_filter, decide_eq_true_eq, IdleMap.mem_toList_iff] at inside
    exact ⟨e, inside⟩

/-- A port can be claimed: it is vacant, the cursor may come to stand there, and whoever needs a
port when it does gets this one. -/
structure Claimable (port : UInt16) (t : Masquerade) : Prop where
  vacant : t.reverse.contains port = false
  reached : ∃ next, { t.cursor with next }.port = port
  claimed : ∀ next, { t.cursor with next }.port = port → ∀ now internal,
    ({ t with cursor := { t.cursor with next } }.claimPort now internal).2 = some port

theorem claimable_of_unmapped {port : UInt16} (free : t.reverse.peek? port = none)
    (low : t.cursor.first ≤ port) (high : port ≤ t.cursor.last) : Claimable port t := by
  have vacant := IdleMap.contains_eq_false_iff.2 free
  refine ⟨vacant, PortCursor.exists_next low high, fun next stands now internal => ?_⟩
  have size := PortCursor.toNat_size { t.cursor with next }
  rw [claimPort_eq, PortCursor.allocate, size, PortCursor.claim]
  simp only [stands, vacant, Bool.not_false, if_true]

/-- What a purge of an address does to a masquerade. -/
structure Purges (address : Ipv4) (t : Masquerade) : Prop where
  without : Without address t (t.purge address).1
  count : (t.purge address).2 =
    t.reverse.toList.countP fun mapping => mapping.2.address = address
  /-- Every port that has been freed can be claimed again. -/
  claimable : ∀ port e, t.reverse.peek? port = some e → e.address = address →
    Claimable port (t.purge address).1
  again : (t.purge address).1.purge address = ((t.purge address).1, 0)

theorem Indexed.purges (indexed : Indexed (fun _ => False) t) (address : Ipv4) :
    Purges address t := by
  have without := purge_without indexed address
  refine ⟨without, purge_count indexed address, ?_, ?_⟩
  · intro port e present here
    have free : (t.purge address).1.reverse.peek? port = none := by
      obtain ⟨entry, found, rfl⟩ := Option.map_eq_some_iff.1 present
      rw [IdleMap.peek?, without.reverse, found]
      simp [here]
    obtain ⟨low, high⟩ := indexed.inside port e present
    rw [← without.cursor] at low high
    exact claimable_of_unmapped free low high
  · have unlisted := without.byAddress address
    rw [if_pos rfl] at unlisted
    rw [purge, unlisted]

/-- Whatever has been done to a masquerade, a purge takes out the mappings of its address and
nothing else. -/
theorem run_purges (external : Ipv4) (ports : UInt16 × UInt16) (idle start : Nat)
    (events : List Event) (address : Ipv4) :
    Purges address (run ⟨create external ports idle, start⟩ events).state :=
  (run_indexed (create_indexed external ports idle) events).purges address

end Concentrator.Masquerade
