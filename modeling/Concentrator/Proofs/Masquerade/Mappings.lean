import Concentrator.Proofs.Masquerade.Evolution

/-!
# The tables of a masquerade

`reverse` owns the mappings, and two indexes follow it. `Indexed` says that they
do, except for addresses that are hidden from the index by address, as one is
while it is purged. `run_consistent` says what follows for the tables after any
sequence of operations.
-/

namespace Concentrator

namespace Masquerade

/-- The ports that the index lists for an address. -/
def held (a : Ipv4) (t : Masquerade) : List UInt16 := (t.byAddress.find? a).getD []

/-- The indexes follow the mappings, but for hidden addresses, which the index by address does not
know. -/
structure Indexed (hidden : Ipv4 → Prop) (t : Masquerade) : Prop where
  inverse : ∀ e p, t.forward.find? e = some p ↔ t.reverse.peek? p = some e
  inside : ∀ p e, t.reverse.peek? p = some e → t.cursor.first ≤ p ∧ p ≤ t.cursor.last
  unlisted : ∀ a, hidden a → t.byAddress.find? a = none
  listed : ∀ a p, ¬ hidden a →
    (p ∈ t.held a ↔ ∃ e, t.reverse.peek? p = some e ∧ e.address = a)
  proper : ∀ a ports, t.byAddress.find? a = some ports → ports ≠ [] ∧ ports.Nodup

variable {hidden : Ipv4 → Prop} {t t' : Masquerade} {now : Nat} {port : UInt16}
  {internal : Endpoint} {address : Ipv4}

theorem Indexed.congr (indexed : Indexed hidden t) (forward : t'.forward = t.forward)
    (reverse : t'.reverse.peek? = t.reverse.peek?) (byAddress : t'.byAddress = t.byAddress)
    (first : t'.cursor.first = t.cursor.first) (last : t'.cursor.last = t.cursor.last) :
    Indexed hidden t' := by
  constructor
  · rw [forward, reverse]; exact indexed.inverse
  · rw [reverse, first, last]; exact indexed.inside
  · rw [byAddress]; exact indexed.unlisted
  · unfold held
    rw [byAddress, reverse]
    exact indexed.listed
  · rw [byAddress]; exact indexed.proper

theorem create_indexed (external : Ipv4) (ports : UInt16 × UInt16) (idle : Nat) :
    Indexed (fun _ => False) (create external ports idle) where
  inverse := by simp [create, IdleMap.peek?]
  inside := by simp [create, IdleMap.peek?]
  unlisted := by simp
  listed := by simp [create, IdleMap.peek?, held]
  proper := by simp [create]

/-- A port has one endpoint, and an endpoint one port. -/
theorem Indexed.port_unique (indexed : Indexed hidden t) {p q : UInt16} {e : Endpoint}
    (left : t.reverse.peek? p = some e) (right : t.reverse.peek? q = some e) : p = q := by
  rw [← indexed.inverse] at left right
  rw [left] at right
  exact Option.some.inj right

theorem held_nodup (indexed : Indexed hidden t) (a : Ipv4) : (t.held a).Nodup := by
  unfold held
  cases found : t.byAddress.find? a with
  | none => exact List.nodup_nil
  | some ports => exact (indexed.proper a ports found).2

/-! ### Eviction -/

theorem find?_unindex (index : Table Ipv4 (List UInt16)) (address : Ipv4) (port : UInt16)
    (a : Ipv4) :
    (unindex index address port).find? a =
      if a = address then ((index.find? address).map (·.erase port)).filter (· ≠ [])
      else index.find? a := by
  unfold unindex
  cases found : index.find? address with
  | none =>
    by_cases same : a = address <;> simp [same, found]
  | some ports =>
    dsimp only
    split
    · rename_i empty
      rw [Table.find?_erase, Option.map_some, empty]
      rfl
    · rename_i full
      have kept : decide (ports.erase port ≠ []) = true := decide_eq_true full
      rw [Table.find?_insert, Option.map_some, Option.filter_some, if_pos kept]

theorem getD_filter_ne_nil (found : Option (List UInt16)) :
    (found.filter (· ≠ [])).getD [] = found.getD [] := by
  cases found with
  | none => rfl
  | some ports => cases ports <;> rfl

theorem held_evict (a : Ipv4) : (mappings.evict port internal t).held a =
    if a = internal.address then (t.held a).erase port else t.held a := by
  show ((unindex t.byAddress internal.address port).find? a).getD [] = _
  rw [find?_unindex]
  by_cases same : a = internal.address
  · subst same
    rw [if_pos rfl, if_pos rfl, getD_filter_ne_nil, held]
    cases t.byAddress.find? internal.address <;> rfl
  · rw [if_neg same, if_neg same]
    rfl

theorem reverse_evict : (mappings.evict port internal t).reverse = t.reverse.remove port := rfl

/-- An eviction takes one mapping out of all tables. -/
theorem evict_indexed (indexed : Indexed hidden t)
    (present : t.reverse.peek? port = some internal) :
    Indexed hidden (mappings.evict port internal t) := by
  have mapped : t.forward.find? internal = some port := (indexed.inverse _ _).2 present
  have forward : ∀ e, (mappings.evict port internal t).forward.find? e =
      if e = internal then none else t.forward.find? e := by
    intro e
    show (if t.forward.find? internal = some port then t.forward.erase internal
      else t.forward).find? e = _
    rw [if_pos mapped, Table.find?_erase]
  have byAddress : ∀ a, (mappings.evict port internal t).byAddress.find? a =
      if a = internal.address then
        ((t.byAddress.find? internal.address).map (·.erase port)).filter (· ≠ [])
      else t.byAddress.find? a :=
    find?_unindex _ _ _
  constructor
  · intro e p
    rw [forward, reverse_evict, IdleMap.peek?_remove]
    by_cases same : e = internal
    · subst same
      by_cases hit : p = port
      · simp [hit]
      · simp only [if_true, if_neg hit]
        exact ⟨by simp, fun other => absurd (indexed.port_unique other present) hit⟩
    · rw [if_neg same, indexed.inverse]
      by_cases hit : p = port
      · subst hit
        rw [if_pos rfl, present]
        exact ⟨fun equal => absurd (Option.some.inj equal).symm same, by simp⟩
      · rw [if_neg hit]
  · intro p e kept
    rw [reverse_evict, IdleMap.peek?_remove_eq_some_iff] at kept
    exact indexed.inside p e kept.2
  · intro a unlisted
    rw [byAddress]
    have absent := indexed.unlisted a unlisted
    by_cases same : a = internal.address
    · subst same
      simp [absent]
    · rw [if_neg same, absent]
  · intro a p visible
    rw [held_evict, reverse_evict, IdleMap.peek?_remove]
    have listed := indexed.listed a p visible
    by_cases same : a = internal.address
    · rw [if_pos same, (held_nodup indexed a).mem_erase_iff, listed]
      by_cases hit : p = port <;> simp [hit]
    · rw [if_neg same, listed]
      by_cases hit : p = port
      · subst hit
        simp [present, Ne.symm same]
      · rw [if_neg hit]
  · intro a ports found
    rw [byAddress] at found
    by_cases same : a = internal.address
    · rw [if_pos same, Option.filter_eq_some_iff] at found
      obtain ⟨erased, full⟩ := found
      obtain ⟨before, found, rfl⟩ := Option.map_eq_some_iff.1 erased
      exact ⟨by simpa using full, (indexed.proper _ _ found).2.erase _⟩
    · rw [if_neg same] at found
      exact indexed.proper a ports found

/-! ### New mappings -/

theorem liveMapping_cases (indexed : Indexed hidden t) (now : Nat) (internal : Endpoint) :
    (∃ port, t.reverse.live? now port = some internal ∧ t.liveMapping now internal =
      ({ t with reverse := t.reverse.refresh now port }, some port)) ∨
    (∃ port e, t.reverse.entries.find? port = some e ∧ t.reverse.expired now e = true ∧
      e.value = internal ∧ t.liveMapping now internal = (mappings.evict port internal t, none)) ∨
    t.forward.find? internal = none ∧ t.liveMapping now internal = (t, none) := by
  unfold liveMapping
  cases mapped : t.forward.find? internal with
  | none => exact .inr (.inr ⟨rfl, rfl⟩)
  | some port =>
    have present := (indexed.inverse _ _).1 mapped
    rcases mappings.lookup_cases t now port with
      ⟨e, found, live, result⟩ | ⟨e, found, expired, result⟩ | ⟨found, result⟩
    · have holder : e.value = internal :=
        Option.some.inj ((IdleMap.peek?_of_find? found).symm.trans present)
      refine .inl ⟨port, ?_, ?_⟩
      · show (mappings.get t).live? now port = some internal
        rw [IdleMap.live?_of_find? found, live, holder]
        rfl
      · simp only [result, holder, if_true]
        rfl
    · have holder : e.value = internal :=
        Option.some.inj ((IdleMap.peek?_of_find? found).symm.trans present)
      refine .inr (.inl ⟨port, e, found, expired, holder, ?_⟩)
      simp only [result, holder]
    · have absent : (mappings.get t).peek? port = none := by simp [IdleMap.peek?, found]
      rw [show (mappings.get t).peek? port = some internal from present] at absent
      cases absent

theorem liveMapping_indexed (indexed : Indexed hidden t) (now : Nat) (internal : Endpoint) :
    Indexed hidden (t.liveMapping now internal).1 ∧
      ((t.liveMapping now internal).2 = none →
        (t.liveMapping now internal).1.forward.find? internal = none) := by
  rcases liveMapping_cases indexed now internal with
    ⟨port, -, result⟩ | ⟨port, e, found, -, rfl, result⟩ | ⟨unmapped, result⟩ <;> rw [result]
  · exact ⟨indexed.congr rfl (funext fun p => IdleMap.peek?_refresh _ _ _ p) rfl rfl rfl, nofun⟩
  · have present := IdleMap.peek?_of_find? found
    have evicted := evict_indexed indexed present
    refine ⟨evicted, fun _ => Option.eq_none_iff_forall_ne_some.2 fun p again => ?_⟩
    have still := (evicted.inverse _ _).1 again
    rw [reverse_evict, IdleMap.peek?_remove_eq_some_iff] at still
    exact still.1 (indexed.port_unique still.2 present)
  · exact ⟨indexed, fun _ => unmapped⟩

/-- The tables with a new mapping in all of them. -/
theorem insert_indexed (indexed : Indexed hidden t) (visible : ¬ hidden internal.address)
    (new : t.forward.find? internal = none) (free : t.reverse.peek? port = none)
    (inside : t.cursor.first ≤ port ∧ port ≤ t.cursor.last)
    (forward : t'.forward = t.forward.insert internal port)
    (reverse : t'.reverse = t.reverse.insert now port internal)
    (byAddress : t'.byAddress =
      t.byAddress.insert internal.address (t.held internal.address ++ [port]))
    (first : t'.cursor.first = t.cursor.first) (last : t'.cursor.last = t.cursor.last) :
    Indexed hidden t' := by
  have fresh : port ∉ t.held internal.address := by
    rw [indexed.listed _ _ visible]
    rintro ⟨e, taken, -⟩
    rw [free] at taken
    cases taken
  have held : ∀ a, t'.held a =
      if a = internal.address then t.held internal.address ++ [port] else t.held a := by
    intro a
    rw [Masquerade.held, byAddress, Table.find?_insert]
    by_cases same : a = internal.address <;> simp [same, Masquerade.held]
  constructor
  · intro e p
    rw [forward, reverse, Table.find?_insert, IdleMap.peek?_insert]
    by_cases same : e = internal
    · subst same
      by_cases hit : p = port
      · simp [hit]
      · rw [if_pos rfl, if_neg hit, ← indexed.inverse, new]
        exact ⟨fun equal => absurd (Option.some.inj equal).symm hit, by simp⟩
    · rw [if_neg same, indexed.inverse]
      by_cases hit : p = port
      · subst hit
        rw [if_pos rfl, free]
        exact ⟨by simp, fun equal => absurd (Option.some.inj equal).symm same⟩
      · rw [if_neg hit]
  · intro p e present
    rw [first, last]
    rw [reverse, IdleMap.peek?_insert] at present
    by_cases hit : p = port
    · exact hit ▸ inside
    · rw [if_neg hit] at present
      exact indexed.inside p e present
  · intro a unlisted
    have other : a ≠ internal.address := by
      rintro rfl
      exact visible unlisted
    rw [byAddress, Table.find?_insert, if_neg other]
    exact indexed.unlisted a unlisted
  · intro a p shown
    rw [held, reverse, IdleMap.peek?_insert]
    have listed := indexed.listed a p shown
    by_cases same : a = internal.address
    · rw [if_pos same, List.mem_append, List.mem_singleton, ← same, listed]
      by_cases hit : p = port
      · simp [hit, same]
      · simp [hit]
    · rw [if_neg same, listed]
      by_cases hit : p = port
      · subst hit
        simp [free, Ne.symm same]
      · rw [if_neg hit]
  · intro a ports found
    rw [byAddress, Table.find?_insert] at found
    by_cases same : a = internal.address
    · rw [if_pos same] at found
      rw [← Option.some.inj found]
      exact ⟨by simp, (held_nodup indexed _).append (List.nodup_singleton port)
        (List.disjoint_singleton.2 fresh)⟩
    · rw [if_neg same] at found
      exact indexed.proper a ports found

theorem mappingFor_indexed (indexed : Indexed hidden t) (now : Nat) (internal : Endpoint)
    (visible : ¬ hidden internal.address) : Indexed hidden (t.mappingFor now internal).1 := by
  obtain ⟨live, gone⟩ := liveMapping_indexed indexed now internal
  unfold mappingFor
  rcases looked : t.liveMapping now internal with ⟨u, _ | port⟩
  · rw [looked] at live gone
    have new := gone rfl
    dsimp only at live new ⊢
    have bounds := u.cursor.claim_bounds (fun port => !u.reverse.contains port) u.cursor.size.toNat
    rw [claimPort_eq, PortCursor.allocate]
    rcases claimed : u.cursor.claim (fun port => !u.reverse.contains port) u.cursor.size.toNat with
      ⟨cursor, _ | port⟩
    · rw [claimed] at bounds
      dsimp only at bounds ⊢
      exact live.congr (Table.erase_eq_self new) rfl rfl bounds.1 bounds.2
    · rw [claimed] at bounds
      obtain ⟨free, inside⟩ := PortCursor.claim_some (congrArg Prod.snd claimed)
      rw [Bool.not_eq_true', IdleMap.contains_eq_false_iff] at free
      exact insert_indexed live visible new free inside rfl rfl rfl bounds.1 bounds.2
  · rw [looked] at live
    exact live

theorem liveMapping_some (found : t.liveMapping now internal = (t', some port)) :
    t'.reverse.peek? port = some internal := by
  unfold liveMapping at found
  cases mapped : t.forward.find? internal with
  | none => simp [mapped] at found
  | some candidate =>
    simp only [mapped] at found
    rcases looked : mappings.lookup now candidate t with ⟨u, _ | holder⟩ <;>
      simp only [looked, Prod.mk.injEq, reduceCtorEq, and_false] at found
    obtain ⟨⟨e, present, rfl, -⟩, rfl⟩ := IdleMap.Owner.lookup_some looked
    obtain ⟨rfl, found⟩ := found
    by_cases same : e.value = internal
    · rw [if_pos same] at found
      obtain rfl := Option.some.inj found
      rw [← same]
      exact (IdleMap.peek?_refresh _ _ _ _).trans (IdleMap.peek?_of_find? present)
    · simp [same] at found

/-- The port that an endpoint gets is mapped to it. -/
theorem mappingFor_some (found : t.mappingFor now internal = (t', some port)) :
    t'.reverse.peek? port = some internal := by
  unfold mappingFor at found
  simp only [claimPort_eq] at found
  rcases live : t.liveMapping now internal with ⟨u, _ | known⟩
  · simp only [live] at found
    rcases claimed : u.cursor.allocate fun port => !u.reverse.contains port with
      ⟨cursor, _ | new⟩ <;>
      simp only [claimed, Prod.mk.injEq, reduceCtorEq, and_false, Option.some.injEq] at found
    obtain ⟨rfl, rfl⟩ := found
    exact (IdleMap.peek?_insert _ _ _ _ _).trans (if_pos rfl)
  · simp only [live, Prod.mk.injEq, Option.some.injEq] at found
    obtain ⟨rfl, rfl⟩ := found
    exact liveMapping_some live

/-! ### Packets and sweeps -/

/-- A packet that goes out has been given the external address and a port that is now mapped to the
sender. -/
theorem outbound_some {packet packet' : Bytes}
    (found : t.outbound now packet = (t', packet', some port)) :
    ∃ flow, Flow.parse? packet = some flow ∧
      packet' = flow.readdress packet .source ⟨t.external, port⟩ ∧
      t'.reverse.peek? port = some flow.source := by
  unfold outbound at found
  cases parsed : Flow.parse? packet with
  | none => simp [parsed] at found
  | some flow =>
    have evolved : Evolves _ t _ := mappingFor_evolves now flow.source
    rcases result : t.mappingFor now flow.source with ⟨u, _ | chosen⟩ <;> rw [result] at evolved <;>
      simp only [parsed, result, Prod.mk.injEq, reduceCtorEq, and_false, Option.some.injEq] at found
    obtain ⟨rfl, rfl, rfl⟩ := found
    rw [evolved.external]
    exact ⟨flow, rfl, rfl, mappingFor_some result⟩

/-- A packet that comes in was for a mapped port. -/
theorem inbound_some {packet packet' : Bytes}
    (found : t.inbound now packet = (t', packet', some internal)) :
    ∃ flow, Flow.parse? packet = some flow ∧ flow.destination.address = t.external ∧
      t.reverse.peek? flow.destination.port = some internal ∧
      packet' = flow.readdress packet .destination internal := by
  unfold inbound at found
  cases parsed : Flow.parse? packet with
  | none => simp [parsed] at found
  | some flow =>
    rw [parsed] at found
    dsimp only at found
    split at found
    · rename_i ours
      rcases looked : mappings.lookup now flow.destination.port t with ⟨u, _ | holder⟩ <;>
        simp only [looked, Prod.mk.injEq, Option.some.injEq, reduceCtorEq, and_false] at found
      obtain ⟨⟨e, present, rfl, -⟩, -⟩ := IdleMap.Owner.lookup_some looked
      obtain ⟨-, rfl, rfl⟩ := found
      exact ⟨flow, rfl, ours, IdleMap.peek?_of_find? present, rfl⟩
    · simp at found

theorem outbound_indexed (indexed : Indexed (fun _ => False) t) (now : Nat) (packet : Bytes) :
    Indexed (fun _ => False) (t.outbound now packet).1 := by
  unfold outbound
  cases Flow.parse? packet with
  | none => exact indexed
  | some flow =>
    have mapped := mappingFor_indexed indexed now flow.source (by simp)
    dsimp only
    rcases result : t.mappingFor now flow.source with ⟨u, _ | port⟩ <;>
      rw [result] at mapped <;> exact mapped

theorem lookup_indexed (indexed : Indexed hidden t) (now : Nat) (port : UInt16) :
    Indexed hidden (mappings.lookup now port t).1 :=
  IdleMap.Owner.lookup_preserves (P := Indexed hidden)
    (fun indexed => indexed.congr rfl (funext fun p => IdleMap.peek?_refresh _ _ _ p) rfl rfl rfl)
    (fun _ present indexed => evict_indexed indexed present) indexed

theorem inbound_indexed (indexed : Indexed hidden t) (now : Nat) (packet : Bytes) :
    Indexed hidden (t.inbound now packet).1 := by
  unfold inbound
  cases Flow.parse? packet with
  | none => exact indexed
  | some flow =>
    have looked := lookup_indexed indexed now flow.destination.port
    dsimp only
    split
    · rcases result : mappings.lookup now flow.destination.port t with ⟨u, _ | internal⟩ <;>
        rw [result] at looked <;> exact looked
    · exact indexed

theorem sweep_indexed (indexed : Indexed hidden t) (now : Nat) : Indexed hidden (t.sweep now).1 :=
  IdleMap.Owner.sweep_preserves (P := Indexed hidden)
    (fun _ _ _ present indexed => evict_indexed indexed present) indexed

/-! ### Purges -/

/-- Purging ports keeps the indexes and takes out what the ports hold for the address. -/
theorem purgePorts_indexed {s : Masquerade × Nat} (indexed : Indexed hidden s.1)
    (address : Ipv4) (ports : List UInt16) :
    Indexed hidden (ports.foldl (purgePort address) s).1 ∧
      ∀ p e, (ports.foldl (purgePort address) s).1.reverse.peek? p = some e ↔
        s.1.reverse.peek? p = some e ∧ ¬ (p ∈ ports ∧ e.address = address) := by
  -- a purge hides its address first, so that the evictions find nothing of it in the index
  induction ports generalizing s with
  | nil => exact ⟨indexed, by simp⟩
  | cons port rest ih =>
    rcases purgePort_cases address s port with ⟨gone, present, here, result⟩ | ⟨elsewhere, result⟩
    · obtain ⟨after, left⟩ := ih (s := (mappings.evict port gone s.1, s.2 + 1))
        (evict_indexed indexed present)
      rw [List.foldl_cons, result]
      refine ⟨after, fun p e => ?_⟩
      rw [left, reverse_evict, IdleMap.peek?_remove]
      by_cases hit : p = port
      · subst hit
        simp only [if_true, present, List.mem_cons, true_or, true_and]
        refine ⟨by simp, ?_⟩
        rintro ⟨equal, other⟩
        exact absurd (Option.some.inj equal ▸ here) other
      · simp [hit]
    · obtain ⟨after, left⟩ := ih (s := s) indexed
      rw [List.foldl_cons, result]
      refine ⟨after, fun p e => ?_⟩
      rw [left]
      by_cases hit : p = port
      · subst hit
        simp only [List.mem_cons, true_or, true_and]
        constructor
        · rintro ⟨present, -⟩
          exact ⟨present, elsewhere e present⟩
        · rintro ⟨present, other⟩
          exact ⟨present, fun both => other both.2⟩
      · simp [hit]

/-- An address without mappings need not be hidden. -/
theorem Indexed.unhide (indexed : Indexed (fun a => a = address) t)
    (empty : ∀ p e, t.reverse.peek? p = some e → e.address ≠ address) :
    Indexed (fun _ => False) t where
  inverse := indexed.inverse
  inside := indexed.inside
  unlisted := by simp
  listed a p _ := by
    by_cases same : a = address
    · subst same
      rw [held, indexed.unlisted a rfl]
      simp only [Option.getD_none, List.not_mem_nil, false_iff]
      rintro ⟨e, present, here⟩
      exact empty p e present here
    · exact indexed.listed a p same
  proper := indexed.proper

theorem Indexed.hide (indexed : Indexed (fun _ => False) t) (address : Ipv4) :
    Indexed (fun a => a = address) { t with byAddress := t.byAddress.erase address } where
  inverse := indexed.inverse
  inside := indexed.inside
  unlisted a same := by
    show (t.byAddress.erase address).find? a = none
    rw [Table.find?_erase, if_pos same]
  listed a p other := by
    show p ∈ ((t.byAddress.erase address).find? a).getD [] ↔ _
    rw [Table.find?_erase, if_neg other]
    exact indexed.listed a p (by simp)
  proper a ports found := indexed.proper a ports (Table.find?_erase_eq_some_iff.1 found).2

/-- A purge takes out the mappings of its address and no others. -/
theorem purge_spec (indexed : Indexed (fun _ => False) t) (address : Ipv4) :
    Indexed (fun _ => False) (t.purge address).1 ∧
      ∀ p e, (t.purge address).1.reverse.peek? p = some e ↔
        t.reverse.peek? p = some e ∧ e.address ≠ address := by
  have listed := fun p => indexed.listed address p (by simp)
  unfold purge
  cases found : t.byAddress.find? address with
  | none =>
    refine ⟨indexed, fun p e => ⟨fun present => ⟨present, fun here => ?_⟩, And.left⟩⟩
    have member := (listed p).2 ⟨e, present, here⟩
    rw [held, found] at member
    cases member
  | some ports =>
    obtain ⟨after, left⟩ := purgePorts_indexed
      (s := ({ t with byAddress := t.byAddress.erase address }, 0)) (indexed.hide address) address
      ports
    have exactly : ∀ p e, t.reverse.peek? p = some e →
        (¬ (p ∈ ports ∧ e.address = address) ↔ e.address ≠ address) := by
      intro p e present
      have member := listed p
      rw [held, found, Option.getD_some] at member
      refine not_congr ⟨And.right, fun here => ⟨member.2 ⟨e, present, here⟩, here⟩⟩
    dsimp only
    generalize ports.foldl (purgePort address)
      ({ t with byAddress := t.byAddress.erase address }, 0) = purged at after left ⊢
    have result : ∀ p e, purged.1.reverse.peek? p = some e ↔
        t.reverse.peek? p = some e ∧ e.address ≠ address := by
      intro p e
      rw [left]
      exact and_congr_right fun present => exactly p e present
    have settled := after.unhide fun p e present => ((result p e).1 present).2
    split
    · exact ⟨settled, result⟩
    · exact ⟨settled.congr rfl rfl rfl rfl rfl, result⟩

/-! ### Sequences of operations -/

inductive Event where
  | outbound (packet : Bytes)
  | inbound (packet : Bytes)
  | purge (address : Ipv4)
  | sweep
  | advance (milliseconds : Nat)

def step (s : Clocked Masquerade) : Event → Clocked Masquerade
  | .outbound packet => { s with state := (s.state.outbound s.now packet).1 }
  | .inbound packet => { s with state := (s.state.inbound s.now packet).1 }
  | .purge address => { s with state := (s.state.purge address).1 }
  | .sweep => { s with state := (s.state.sweep s.now).1 }
  | .advance milliseconds => { s with now := s.now + milliseconds }

def run (s : Clocked Masquerade) (events : List Event) : Clocked Masquerade :=
  events.foldl step s

theorem step_indexed {s : Clocked Masquerade} (indexed : Indexed (fun _ => False) s.state)
    (e : Event) : Indexed (fun _ => False) (step s e).state := by
  cases e with
  | outbound packet => exact outbound_indexed indexed _ packet
  | inbound packet => exact inbound_indexed indexed _ packet
  | purge address => exact (purge_spec indexed address).1
  | sweep => exact sweep_indexed indexed _
  | advance milliseconds => exact indexed

theorem run_indexed {s : Clocked Masquerade} (indexed : Indexed (fun _ => False) s.state)
    (events : List Event) : Indexed (fun _ => False) (run s events).state :=
  List.foldlRecOn (motive := fun s => Indexed (fun _ => False) s.state) events step indexed
    fun _ indexed e _ => step_indexed indexed e

theorem step_evolves (s : Clocked Masquerade) (e : Event) :
    Evolves (fun _ => True) s.state (step s e).state := by
  cases e with
  | outbound packet => exact (outbound_evolves _ packet).weaken fun _ _ => trivial
  | inbound packet => exact inbound_evolves _ packet
  | purge address => exact purge_evolves address
  | sweep => exact sweep_evolves _
  | advance milliseconds => exact .refl _

theorem run_evolves (s : Clocked Masquerade) (events : List Event) :
    Evolves (fun _ => True) s.state (run s events).state :=
  List.foldlRecOn (motive := fun t => Evolves (fun _ => True) s.state t.state) events step
    (.refl _) fun t evolved e _ => evolved.trans (step_evolves t e)

/-- Every port has one endpoint and every endpoint one port, so that there are as many ports as
endpoints. -/
theorem Indexed.size_eq (indexed : Indexed hidden t) : t.size = t.forward.size := by
  have ports : (t.reverse.toList.map Prod.swap).Nodup := by
    refine List.Nodup.of_map Prod.snd ?_
    rw [List.map_map]
    exact t.reverse.nodup_toList
  have endpoints : t.forward.entries.Nodup := t.forward.nodup.of_map
  have same : (t.reverse.toList.map Prod.swap).Perm t.forward.entries := by
    rw [List.perm_ext_iff_of_nodup ports endpoints]
    rintro ⟨e, p⟩
    rw [Table.mem_entries_iff, indexed.inverse, ← IdleMap.mem_toList_iff]
    simp
  calc t.size = (t.reverse.toList.map Prod.swap).length := by
        simp [size, IdleMap.size, Table.size, IdleMap.toList]
    _ = t.forward.size := same.length_eq

/-- What the tables of a masquerade over the ports between `a` and `b` say about one another. -/
structure Consistent (a b : UInt16) (t : Masquerade) : Prop where
  inverse : ∀ e p, t.forward.find? e = some p ↔ t.reverse.peek? p = some e
  inside : ∀ p e, t.reverse.peek? p = some e → min a b ≤ p ∧ p ≤ max a b
  /-- The index by address lists exactly the ports of each address. -/
  listed : ∀ address p, (∃ ports, t.byAddress.find? address = some ports ∧ p ∈ ports) ↔
    ∃ e, t.reverse.peek? p = some e ∧ e.address = address
  listed_nodup : ∀ address ports, t.byAddress.find? address = some ports → ports.Nodup
  listed_ne_nil : ∀ address ports, t.byAddress.find? address = some ports → ports ≠ []
  /-- No endpoint has two ports. -/
  port_unique : ∀ p q e, t.reverse.peek? p = some e → t.reverse.peek? q = some e → p = q
  /-- No port has two endpoints. -/
  endpoint_unique : ∀ e f p, t.forward.find? e = some p → t.forward.find? f = some p → e = f
  size_eq : t.size = t.forward.size

theorem Indexed.consistent (indexed : Indexed (fun _ => False) t) {a b : UInt16}
    (first : t.cursor.first = min a b) (last : t.cursor.last = max a b) : Consistent a b t where
  inverse := indexed.inverse
  inside p e present := by
    rw [← first, ← last]
    exact indexed.inside p e present
  listed address p := by
    rw [← indexed.listed address p (by simp), held]
    cases t.byAddress.find? address <;> simp
  listed_nodup address ports found := (indexed.proper address ports found).2
  listed_ne_nil address ports found := (indexed.proper address ports found).1
  port_unique _ _ _ := indexed.port_unique
  endpoint_unique e f p found found' := by
    rw [indexed.inverse] at found found'
    rw [found] at found'
    exact Option.some.inj found'
  size_eq := indexed.size_eq

/-- The tables agree after any sequence of operations, whatever the ports. -/
theorem run_consistent (external : Ipv4) (a b : UInt16) (idle : Nat) (events : List Event) :
    Consistent a b (run ⟨create external (a, b) idle, 0⟩ events).state :=
  have evolved := run_evolves ⟨create external (a, b) idle, 0⟩ events
  have bounds := PortCursor.between_bounds a b
  (run_indexed (create_indexed external (a, b) idle) events).consistent
    (evolved.first.trans bounds.1) (evolved.last.trans bounds.2)

end Masquerade

end Concentrator
