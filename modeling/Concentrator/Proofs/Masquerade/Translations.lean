import Concentrator.Proofs.Masquerade.Mappings

/-!
# What a translation leaves alone

A translation may evict expired mappings on its way, and it may fail after that. As far as
unexpired mappings go, `run_translates` says, a translation that fails has done nothing, and one
that succeeds has used one mapping: no other one changes its port, its endpoint or its clock.
-/

namespace Concentrator.Masquerade

variable {t t' u : Masquerade} {now : Nat} {port : UInt16} {internal : Endpoint} {packet : Bytes}
  {flow : Flow}

/-- A port and an endpoint are mapped to one another, and the mapping has not expired. -/
structure Stands (now : Nat) (t : Masquerade) (port : UInt16) (mapping : Timed Endpoint) :
    Prop where
  reverse : t.reverse.entries.find? port = some mapping
  forward : t.forward.find? mapping.value = some port
  fresh : now - mapping.lastUse ≤ t.reverse.idle

/-- The mapping of a port as its own table has it, unless it has expired. -/
def unexpired (now : Nat) (t : Masquerade) (port : UInt16) : Option (Timed Endpoint) :=
  (t.reverse.entries.find? port).filter fun mapping => now - mapping.lastUse ≤ t.reverse.idle

theorem unexpired_eq_some_iff {mapping : Timed Endpoint} :
    t.unexpired now port = some mapping ↔
      t.reverse.entries.find? port = some mapping ∧ now - mapping.lastUse ≤ t.reverse.idle := by
  rw [unexpired, Option.filter_eq_some_iff, decide_eq_true_eq]

theorem Indexed.stands_iff (indexed : Indexed (fun _ => False) t) {mapping : Timed Endpoint} :
    Stands now t port mapping ↔ t.unexpired now port = some mapping := by
  rw [unexpired_eq_some_iff]
  constructor
  · exact fun stands => ⟨stands.reverse, stands.fresh⟩
  · rintro ⟨found, fresh⟩
    exact ⟨found, (indexed.inverse _ _).2 (IdleMap.peek?_of_find? found), fresh⟩

/-! ### Tables -/

/-- Nothing has happened to any unexpired mapping. -/
def Untouched (now : Nat) (t t' : Masquerade) : Prop :=
  ∀ p, t'.unexpired now p = t.unexpired now p

/-- One mapping has just been used, and nothing has happened to any other unexpired one. -/
def Touched (now : Nat) (port : UInt16) (internal : Endpoint) (t t' : Masquerade) : Prop :=
  ∀ p, t'.unexpired now p = if p = port then some ⟨internal, now⟩ else t.unexpired now p

theorem Untouched.touched (before : Untouched now t u) (after : Touched now port internal u t') :
    Touched now port internal t t' := by
  intro p
  rw [after p, before p]

theorem evict_untouched {mapping : Timed Endpoint}
    (found : t.reverse.entries.find? port = some mapping)
    (expired : t.reverse.expired now mapping = true) :
    Untouched now t (mappings.evict port mapping.value t) := by
  have idle : t.reverse.idle < now - mapping.lastUse := by simpa [IdleMap.expired] using expired
  intro p
  show ((t.reverse.entries.erase port).find? p).filter _ = _
  rw [Table.find?_erase, unexpired]
  by_cases same : p = port
  · subst same
    have stale : decide (now - mapping.lastUse ≤ t.reverse.idle) = false :=
      decide_eq_false (Nat.not_le.2 idle)
    rw [if_pos rfl, found, Option.filter_some, stale]
    rfl
  · rw [if_neg same]
    rfl

theorem refresh_touched {mapping : Timed Endpoint}
    (found : t.reverse.entries.find? port = some mapping) :
    Touched now port mapping.value t { t with reverse := t.reverse.refresh now port } := by
  intro p
  show ((t.reverse.entries.modify port _).find? p).filter _ = _
  rw [Table.find?_modify]
  by_cases same : p = port
  · subst same
    rw [if_pos rfl, if_pos rfl, found]
    simp [IdleMap.refresh]
  · rw [if_neg same, if_neg same]
    rfl

theorem insert_touched (reverse : t'.reverse = t.reverse.insert now port internal) :
    Touched now port internal t t' := by
  intro p
  rw [unexpired, reverse]
  show ((t.reverse.entries.insert port _).find? p).filter _ = _
  rw [Table.find?_insert]
  by_cases same : p = port
  · rw [if_pos same, if_pos same]
    simp [IdleMap.insert]
  · rw [if_neg same, if_neg same]
    rfl

/-! ### Mappings of endpoints -/

/-- No unexpired mapping stands for an endpoint. -/
def Unmapped (now : Nat) (internal : Endpoint) (t : Masquerade) : Prop :=
  ∀ p mapping, t.unexpired now p = some mapping → mapping.value ≠ internal

/-- An endpoint finds its own mapping unexpired and uses it, or it has none. -/
theorem liveMapping_touches (indexed : Indexed (fun _ => False) t) (now : Nat)
    (internal : Endpoint) :
    (∃ port lastUse, t.unexpired now port = some ⟨internal, lastUse⟩ ∧
      (t.liveMapping now internal).2 = some port ∧
      Touched now port internal t (t.liveMapping now internal).1) ∨
    (t.liveMapping now internal).2 = none ∧ Unmapped now internal t ∧
      Untouched now t (t.liveMapping now internal).1 := by
  rcases liveMapping_cases indexed now internal with
    ⟨port, live, result⟩ | ⟨port, old, found, expired, rfl, result⟩ | ⟨unmapped, result⟩ <;>
    rw [result]
  · obtain ⟨mapping, found, rfl, fresh⟩ := IdleMap.live?_eq_some_iff.1 live
    exact .inl ⟨port, mapping.lastUse, unexpired_eq_some_iff.2 ⟨found, fresh⟩, rfl,
      refresh_touched found⟩
  · refine .inr ⟨rfl, fun p mapping stands same => ?_, evict_untouched found expired⟩
    -- the endpoint has no port but the one whose mapping has expired
    obtain ⟨present, fresh⟩ := unexpired_eq_some_iff.1 stands
    have here : t.reverse.peek? p = some old.value := same ▸ IdleMap.peek?_of_find? present
    obtain rfl := indexed.port_unique here (IdleMap.peek?_of_find? found)
    obtain rfl := Option.some.inj (present.symm.trans found)
    have idle : t.reverse.idle < now - mapping.lastUse := by simpa [IdleMap.expired] using expired
    omega
  · refine .inr ⟨rfl, fun p mapping stands same => ?_, fun _ => rfl⟩
    have mapped := (indexed.inverse _ _).2
      (IdleMap.peek?_of_find? (unexpired_eq_some_iff.1 stands).1)
    rw [same, unmapped] at mapped
    cases mapped

theorem claimPort_touches (now : Nat) (internal : Endpoint) (t : Masquerade) :
    (∃ port, (t.claimPort now internal).2 = some port ∧ t.unexpired now port = none ∧
      Touched now port internal t (t.claimPort now internal).1) ∨
    (t.claimPort now internal).2 = none ∧ Untouched now t (t.claimPort now internal).1 := by
  rw [claimPort_eq, PortCursor.allocate]
  rcases offered : t.cursor.claim (fun port => !t.reverse.contains port) t.cursor.size.toNat with
    ⟨cursor, _ | port⟩
  · exact .inr ⟨rfl, fun _ => rfl⟩
  · obtain ⟨free, -⟩ := PortCursor.claim_some (congrArg Prod.snd offered)
    rw [Bool.not_eq_true', IdleMap.contains, Table.contains_eq_false_iff] at free
    exact .inl ⟨port, rfl, by rw [unexpired, free]; rfl, insert_touched rfl⟩

/-- What a translation that succeeds does to the mappings: it uses one, which `internal` had or
which has been created because it had none. -/
structure Uses (now : Nat) (port : UInt16) (internal : Endpoint) (t t' : Masquerade) : Prop where
  touched : Touched now port internal t t'
  own : (∃ lastUse, t.unexpired now port = some ⟨internal, lastUse⟩) ∨
    t.unexpired now port = none ∧ Unmapped now internal t

theorem mappingFor_touches (indexed : Indexed (fun _ => False) t) (now : Nat)
    (internal : Endpoint) :
    (∃ port, (t.mappingFor now internal).2 = some port ∧
      Uses now port internal t (t.mappingFor now internal).1) ∨
    (t.mappingFor now internal).2 = none ∧ Untouched now t (t.mappingFor now internal).1 := by
  have live := liveMapping_touches indexed now internal
  unfold mappingFor
  rcases looked : t.liveMapping now internal with ⟨u, _ | known⟩ <;> rw [looked] at live
  · obtain ⟨_, _, _, found, _⟩ | ⟨-, unmapped, before⟩ := live
    · cases found
    have claim := claimPort_touches now internal u
    dsimp only
    rcases claimed : u.claimPort now internal with ⟨v, _ | port⟩ <;> rw [claimed] at claim
    · obtain ⟨_, found, _⟩ | ⟨-, after⟩ := claim
      · cases found
      exact .inr ⟨rfl, fun p => (after p).trans (before p)⟩
    · obtain ⟨_, found, vacant, after⟩ | ⟨missing, -⟩ := claim
      · obtain rfl := Option.some.inj found
        exact .inl ⟨port, rfl, before.touched after,
          .inr ⟨(before port).symm.trans vacant, unmapped⟩⟩
      · cases missing
  · obtain ⟨port, lastUse, stands, found, touched⟩ | ⟨missing, -⟩ := live
    · exact .inl ⟨port, found, touched, .inl ⟨lastUse, stands⟩⟩
    · cases missing

/-! ### Packets -/

theorem outbound_touches (indexed : Indexed (fun _ => False) t) (now : Nat) (packet : Bytes) :
    (∃ flow port, Flow.parse? packet = some flow ∧ (t.outbound now packet).2.2 = some port ∧
      Uses now port flow.source t (t.outbound now packet).1) ∨
    (t.outbound now packet).2 = (packet, none) ∧ Untouched now t (t.outbound now packet).1 := by
  unfold outbound
  cases parsed : Flow.parse? packet with
  | none => exact .inr ⟨rfl, fun _ => rfl⟩
  | some flow =>
    have mapped := mappingFor_touches indexed now flow.source
    dsimp only
    rcases result : t.mappingFor now flow.source with ⟨u, _ | port⟩ <;> rw [result] at mapped
    · obtain ⟨_, found, _⟩ | ⟨-, untouched⟩ := mapped
      · cases found
      · exact .inr ⟨rfl, untouched⟩
    · obtain ⟨_, found, uses⟩ | ⟨missing, -⟩ := mapped
      · obtain rfl := Option.some.inj found
        exact .inl ⟨flow, port, rfl, rfl, uses⟩
      · cases missing

theorem inbound_touches (now : Nat) (packet : Bytes) (t : Masquerade) :
    (∃ flow mapping, Flow.parse? packet = some flow ∧
      t.unexpired now flow.destination.port = some mapping ∧
      (t.inbound now packet).2.2 = some mapping.value ∧
      Touched now flow.destination.port mapping.value t (t.inbound now packet).1) ∨
    (t.inbound now packet).2 = (packet, none) ∧ Untouched now t (t.inbound now packet).1 := by
  unfold inbound
  cases parsed : Flow.parse? packet with
  | none => exact .inr ⟨rfl, fun _ => rfl⟩
  | some flow =>
    dsimp only
    split
    · rcases mappings.lookup_cases t now flow.destination.port with
        ⟨mapping, found, live, result⟩ | ⟨mapping, found, expired, result⟩ | ⟨-, result⟩ <;>
        rw [result]
      · refine .inl ⟨flow, mapping, rfl, unexpired_eq_some_iff.2 ⟨found, ?_⟩, rfl,
          refresh_touched found⟩
        exact Nat.not_lt.1 (of_decide_eq_false live)
      · exact .inr ⟨rfl, evict_untouched found expired⟩
      · exact .inr ⟨rfl, fun _ => rfl⟩
    · exact .inr ⟨rfl, fun _ => rfl⟩

/-- What a translation does to the unexpired mappings, in whichever direction they are looked up:
nothing if it fails, and otherwise it uses one of them. -/
structure Sparing (now : Nat) (t : Masquerade) : Prop where
  /-- A packet that does not go out stays as it was, and so do all mappings. -/
  outward_failed : ∀ packet, (t.outbound now packet).2.2 = none →
    (t.outbound now packet).2.1 = packet ∧
      ∀ p mapping, Stands now (t.outbound now packet).1 p mapping ↔ Stands now t p mapping
  /-- A packet that does not come in stays as it was, and so do all mappings. -/
  inward_failed : ∀ packet, (t.inbound now packet).2.2 = none →
    (t.inbound now packet).2.1 = packet ∧
      ∀ p mapping, Stands now (t.inbound now packet).1 p mapping ↔ Stands now t p mapping
  /-- A packet that goes out uses the mapping of its source. -/
  outward : ∀ packet port, (t.outbound now packet).2.2 = some port →
    ∃ flow, Flow.parse? packet = some flow ∧
      (∀ p mapping, Stands now (t.outbound now packet).1 p mapping ↔
        if p = port then mapping = ⟨flow.source, now⟩ else Stands now t p mapping) ∧
      ((∃ lastUse, Stands now t port ⟨flow.source, lastUse⟩) ∨
        ∀ p mapping, Stands now t p mapping → p ≠ port ∧ mapping.value ≠ flow.source)
  /-- A packet that comes in uses the mapping of its port. -/
  inward : ∀ packet internal, (t.inbound now packet).2.2 = some internal →
    ∃ flow lastUse, Flow.parse? packet = some flow ∧
      (∀ p mapping, Stands now (t.inbound now packet).1 p mapping ↔
        if p = flow.destination.port then mapping = ⟨internal, now⟩ else Stands now t p mapping) ∧
      Stands now t flow.destination.port ⟨internal, lastUse⟩

theorem Untouched.stands (untouched : Untouched now t t') (before : Indexed (fun _ => False) t)
    (after : Indexed (fun _ => False) t') (p : UInt16) (mapping : Timed Endpoint) :
    Stands now t' p mapping ↔ Stands now t p mapping := by
  rw [after.stands_iff, before.stands_iff, untouched p]

theorem Touched.stands (touched : Touched now port internal t t')
    (before : Indexed (fun _ => False) t) (after : Indexed (fun _ => False) t') (p : UInt16)
    (mapping : Timed Endpoint) :
    Stands now t' p mapping ↔
      if p = port then mapping = ⟨internal, now⟩ else Stands now t p mapping := by
  rw [after.stands_iff, touched p]
  by_cases same : p = port
  · rw [if_pos same, if_pos same, Option.some.injEq, eq_comm]
  · rw [if_neg same, if_neg same, before.stands_iff]

theorem Indexed.sparing (indexed : Indexed (fun _ => False) t) (now : Nat) : Sparing now t := by
  have sent := fun packet => outbound_indexed indexed now packet
  have received := fun packet => inbound_indexed indexed now packet
  constructor
  · intro packet failed
    obtain ⟨_, port, -, found, -⟩ | ⟨kept, untouched⟩ := outbound_touches indexed now packet
    · rw [failed] at found
      cases found
    · exact ⟨congrArg Prod.fst kept, untouched.stands indexed (sent packet)⟩
  · intro packet failed
    obtain ⟨_, mapping, -, -, found, -⟩ | ⟨kept, untouched⟩ := inbound_touches now packet t
    · rw [failed] at found
      cases found
    · exact ⟨congrArg Prod.fst kept, untouched.stands indexed (received packet)⟩
  · intro packet port succeeded
    obtain ⟨flow, port', parsed, found, uses⟩ | ⟨kept, -⟩ := outbound_touches indexed now packet
    · obtain rfl := Option.some.inj (found.symm.trans succeeded)
      refine ⟨flow, parsed, uses.touched.stands indexed (sent packet), ?_⟩
      simp only [indexed.stands_iff]
      refine uses.own.imp id fun ⟨vacant, unmapped⟩ p mapping stands =>
        ⟨?_, unmapped p mapping stands⟩
      rintro rfl
      rw [vacant] at stands
      cases stands
    · rw [kept] at succeeded
      cases succeeded
  · intro packet internal succeeded
    obtain ⟨flow, mapping, parsed, stands, found, touched⟩ | ⟨kept, -⟩ :=
      inbound_touches now packet t
    · obtain rfl := Option.some.inj (found.symm.trans succeeded)
      exact ⟨flow, mapping.lastUse, parsed, touched.stands indexed (received packet),
        indexed.stands_iff.2 stands⟩
    · rw [kept] at succeeded
      cases succeeded

/-- Whatever has been done to a masquerade, a translation that fails changes neither the packet nor
any unexpired mapping, and one that succeeds uses one mapping and spares the others. -/
theorem run_translates (external : Ipv4) (ports : UInt16 × UInt16) (idle start : Nat)
    (events : List Event) :
    let s := run ⟨create external ports idle, start⟩ events
    Sparing s.now s.state :=
  (run_indexed (create_indexed external ports idle) events).sparing _

end Concentrator.Masquerade
