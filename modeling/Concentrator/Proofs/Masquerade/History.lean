import Concentrator.Proofs.Masquerade.Mappings

/-!
# Translation follows history

Which endpoint a port stands for can be told from what has happened alone: from
who opened the port last, from the times at which it has been used since, and
from the purges since. `run_faithful` says that the tables never differ from it,
whether or not an expired mapping has been evicted in the meantime.
-/

namespace Concentrator.Masquerade

variable {t t' u : Masquerade} {now later : Nat} {port : UInt16} {internal : Endpoint}
  {packet : Bytes} {flow : Flow}

/-! ### Live mappings -/

/-- From `now` on the same mappings are live. -/
def Steady (now : Nat) (t t' : Masquerade) : Prop :=
  ∀ later, now ≤ later → ∀ p, t'.reverse.live? later p = t.reverse.live? later p

/-- From `now` on the same mappings are live, but that of one port, which `internal` has just
used. -/
def Renewed (now : Nat) (port : UInt16) (internal : Endpoint) (t t' : Masquerade) : Prop :=
  ∀ later, now ≤ later → ∀ p, t'.reverse.live? later p =
    if p = port then (if later - now ≤ t.reverse.idle then some internal else none)
    else t.reverse.live? later p

theorem Steady.refl (now : Nat) (t : Masquerade) : Steady now t t := fun _ _ _ => rfl

theorem Steady.trans (before : Steady now t u) (after : Steady now u t') : Steady now t t' :=
  fun later le p => (after later le p).trans (before later le p)

theorem Steady.renewed (before : Steady now t u) (idle : u.reverse.idle = t.reverse.idle)
    (after : Renewed now port internal u t') : Renewed now port internal t t' := by
  intro later le p
  rw [after later le p, idle, before later le p]

theorem evict_steady {e : Timed Endpoint} (found : t.reverse.entries.find? port = some e)
    (expired : t.reverse.expired now e = true) :
    Steady now t (mappings.evict port e.value t) :=
  fun _ le p => IdleMap.live?_remove_expired found expired le p

theorem lookup_live (live : t.reverse.live? now port = some internal) :
    mappings.lookup now port t = ({ t with reverse := t.reverse.refresh now port }, some internal) ∧
      Renewed now port internal t (mappings.lookup now port t).1 := by
  have result : mappings.lookup now port t =
      ({ t with reverse := t.reverse.refresh now port }, some internal) := by
    unfold IdleMap.Owner.lookup
    rw [show (mappings.get t).live? now port = some internal from live]
    rfl
  obtain ⟨e, found, rfl, -⟩ := IdleMap.live?_eq_some_iff.1 live
  rw [result]
  exact ⟨rfl, fun later _ p => IdleMap.live?_refresh found now later p⟩

theorem lookup_dead (dead : t.reverse.live? now port = none) :
    (mappings.lookup now port t).2 = none ∧ Steady now t (mappings.lookup now port t).1 := by
  have result : mappings.lookup now port t = ((mappings.evictExpired now port t).1, none) := by
    unfold IdleMap.Owner.lookup
    rw [show (mappings.get t).live? now port = none from dead]
  rw [result]
  refine ⟨rfl, IdleMap.Owner.evictExpired_preserves (P := Steady now t) ?_ (.refl now t)⟩
  exact fun _ _ _ found expired steady => steady.trans (evict_steady found expired)

theorem sweep_steady (now : Nat) (t : Masquerade) : Steady now t (t.sweep now).1 :=
  IdleMap.Owner.sweep_preserves_of_expired (P := Steady now t)
    (fun _ _ _ found expired steady => steady.trans (evict_steady found expired)) (.refl now t)

theorem purge_survivors (address : Ipv4) {p : UInt16} {e : Timed Endpoint}
    (found : (t.purge address).1.reverse.entries.find? p = some e) :
    t.reverse.entries.find? p = some e := by
  unfold purge at found
  cases listed : t.byAddress.find? address with
  | none => simpa only [listed] using found
  | some ports =>
    have kept := List.foldlRecOn
      (motive := fun (s : Masquerade × Nat) => ∀ p e,
        s.1.reverse.entries.find? p = some e → t.reverse.entries.find? p = some e)
      ports (purgePort address) (b := ({ t with byAddress := t.byAddress.erase address }, 0))
      (fun _ _ found => found) fun s kept port _ => by
        rcases purgePort_cases address s port with ⟨gone, -, -, result⟩ | ⟨-, result⟩
        · rw [result]
          intro p e found
          exact kept p e (Table.find?_erase_eq_some_iff.1 found).2
        · rw [result]
          exact kept
    simp only [listed] at found
    split at found <;> exact kept p e found

/-- A purge takes the live mappings of its address and no others. -/
theorem purge_live (indexed : Indexed (fun _ => False) t) (address : Ipv4) :
    (t.purge address).1.reverse.live? later port = some internal ↔
      t.reverse.live? later port = some internal ∧ internal.address ≠ address := by
  have left := (purge_spec indexed address).2 port
  have evolved : Evolves (fun _ => True) t (t.purge address).1 := purge_evolves address
  have idle : (t.purge address).1.reverse.idle = t.reverse.idle := evolved.idle
  constructor
  · intro live
    obtain ⟨e, found, rfl, fresh⟩ := IdleMap.live?_eq_some_iff.1 live
    have other := ((left e.value).1 (IdleMap.peek?_of_find? found)).2
    rw [idle] at fresh
    exact ⟨IdleMap.live?_eq_some_iff.2 ⟨e, purge_survivors address found, rfl, fresh⟩, other⟩
  · rintro ⟨live, other⟩
    obtain ⟨e, found, rfl, fresh⟩ := IdleMap.live?_eq_some_iff.1 live
    have present := (left e.value).2 ⟨IdleMap.peek?_of_find? found, other⟩
    obtain ⟨e', still, -⟩ := Option.map_eq_some_iff.1 present
    obtain rfl : e' = e := Option.some.inj ((purge_survivors address still).symm.trans found)
    rw [← idle] at fresh
    exact IdleMap.live?_eq_some_iff.2 ⟨e', still, rfl, fresh⟩

/-! ### Translations -/

theorem liveMapping_live (indexed : Indexed (fun _ => False) t)
    (live : t.reverse.live? now port = some internal) :
    (t.liveMapping now internal).2 = some port ∧
      (t.liveMapping now internal).1.notices = t.notices ∧
      Renewed now port internal t (t.liveMapping now internal).1 := by
  have mapped : t.forward.find? internal = some port :=
    (indexed.inverse _ _).2 (IdleMap.peek?_of_live? live)
  obtain ⟨result, renewed⟩ := lookup_live live
  rw [result] at renewed
  unfold liveMapping
  simp only [mapped, result, if_true]
  exact ⟨trivial, trivial, renewed⟩

theorem liveMapping_dead (indexed : Indexed (fun _ => False) t)
    (dead : ∀ port, t.reverse.live? now port ≠ some internal) :
    (t.liveMapping now internal).2 = none ∧ Steady now t (t.liveMapping now internal).1 := by
  rcases liveMapping_cases indexed now internal with
    ⟨port, live, -⟩ | ⟨port, e, found, expired, rfl, result⟩ | ⟨-, result⟩
  · exact absurd live (dead port)
  · rw [result]
    exact ⟨rfl, evict_steady found expired⟩
  · rw [result]
    exact ⟨rfl, .refl now t⟩

theorem claimPort_some (claimed : t.claimPort now internal = (u, some port)) :
    u.notices = t.notices ++ [.mappingCreated internal port] ∧
      Renewed now port internal t u := by
  rw [claimPort_eq] at claimed
  rcases offered : t.cursor.allocate fun port => !t.reverse.contains port with
    ⟨cursor, _ | free⟩ <;> rw [offered] at claimed
  · cases (Prod.mk.inj claimed).2
  · obtain ⟨rfl, equal⟩ := Prod.mk.inj claimed
    obtain rfl := Option.some.inj equal
    exact ⟨rfl, fun later _ p => IdleMap.live?_insert _ now later free internal p⟩

theorem claimPort_none (claimed : t.claimPort now internal = (u, none)) : Steady now t u := by
  rw [claimPort_eq] at claimed
  rcases offered : t.cursor.allocate fun port => !t.reverse.contains port with
    ⟨cursor, _ | free⟩ <;> rw [offered] at claimed
  · obtain ⟨rfl, -⟩ := Prod.mk.inj claimed
    exact .refl now t
  · cases (Prod.mk.inj claimed).2

theorem mappingFor_live (indexed : Indexed (fun _ => False) t)
    (live : t.reverse.live? now port = some internal) :
    (t.mappingFor now internal).2 = some port ∧
      (t.mappingFor now internal).1.notices = t.notices ∧
      Renewed now port internal t (t.mappingFor now internal).1 := by
  obtain ⟨found, notices, renewed⟩ := liveMapping_live indexed live
  rcases looked : t.liveMapping now internal with ⟨u, _ | known⟩ <;>
    rw [looked] at found notices renewed
  · cases found
  · obtain rfl := Option.some.inj found
    unfold mappingFor
    simp only [looked]
    exact ⟨trivial, notices, renewed⟩

/-- The journal of `t'` says that since `t` a mapping has been created. -/
def Creates (internal : Endpoint) (port : UInt16) (t t' : Masquerade) : Prop :=
  .mappingCreated internal port ∈ t'.notices.drop t.notices.length

instance : Decidable (Creates internal port t t') :=
  inferInstanceAs (Decidable (_ ∈ _))

theorem not_creates_of_notices_eq (same : t'.notices = t.notices) :
    ¬ Creates internal port t t' := by
  simp [Creates, same]

theorem mappingFor_dead (indexed : Indexed (fun _ => False) t)
    (dead : ∀ port, t.reverse.live? now port ≠ some internal) :
    ((t.mappingFor now internal).2 = none ∧ Steady now t (t.mappingFor now internal).1) ∨
    ∃ port, (t.mappingFor now internal).2 = some port ∧
      Creates internal port t (t.mappingFor now internal).1 ∧
      Renewed now port internal t (t.mappingFor now internal).1 := by
  obtain ⟨missing, steady⟩ := liveMapping_dead indexed dead
  have evolved : Evolves (fun e => e = internal) t _ := liveMapping_evolves now internal
  rcases looked : t.liveMapping now internal with ⟨u, _ | known⟩ <;>
    rw [looked] at missing steady evolved
  · unfold mappingFor
    simp only [looked]
    rcases claimed : u.claimPort now internal with ⟨v, _ | port⟩
    · have unclaimed : Steady now u v := claimPort_none claimed
      exact .inl ⟨rfl, steady.trans unclaimed⟩
    · obtain ⟨journal, renewed⟩ := claimPort_some claimed
      obtain ⟨notices, before, -⟩ := evolved.accounts
      refine .inr ⟨port, rfl, ?_, steady.renewed evolved.idle renewed⟩
      show .mappingCreated internal port ∈ v.notices.drop t.notices.length
      rw [journal, before, List.append_assoc, List.drop_left]
      simp
  · cases missing

theorem outbound_live (indexed : Indexed (fun _ => False) t)
    (parsed : Flow.parse? packet = some flow)
    (live : t.reverse.live? now port = some flow.source) :
    (t.outbound now packet).2.2 = some port ∧
      ¬ Creates flow.source port t (t.outbound now packet).1 ∧
      Renewed now port flow.source t (t.outbound now packet).1 := by
  obtain ⟨found, notices, renewed⟩ := mappingFor_live indexed live
  rcases result : t.mappingFor now flow.source with ⟨u, _ | known⟩ <;>
    rw [result] at found notices renewed
  · cases found
  · unfold outbound
    simp only [parsed, result]
    exact ⟨found, not_creates_of_notices_eq notices, renewed⟩

theorem outbound_dead (indexed : Indexed (fun _ => False) t)
    (parsed : Flow.parse? packet = some flow)
    (dead : ∀ port, t.reverse.live? now port ≠ some flow.source) :
    ((t.outbound now packet).2.2 = none ∧ Steady now t (t.outbound now packet).1) ∨
    ∃ port, (t.outbound now packet).2.2 = some port ∧
      Creates flow.source port t (t.outbound now packet).1 ∧
      Renewed now port flow.source t (t.outbound now packet).1 := by
  have mapped := mappingFor_dead indexed dead
  unfold outbound
  rcases result : t.mappingFor now flow.source with ⟨u, _ | chosen⟩ <;> rw [result] at mapped <;>
    simp only [parsed, result]
  · rcases mapped with ⟨-, steady⟩ | ⟨port, found, -⟩
    · exact .inl ⟨trivial, steady⟩
    · cases found
  · rcases mapped with ⟨missing, -⟩ | mapped
    · cases missing
    · exact .inr mapped

theorem inbound_live (parsed : Flow.parse? packet = some flow)
    (ours : flow.destination.address = t.external) :
    (t.inbound now packet).2.2 = t.reverse.live? now flow.destination.port ∧
      (t.inbound now packet).1 = (mappings.lookup now flow.destination.port t).1 := by
  unfold inbound
  cases live : t.reverse.live? now flow.destination.port with
  | some internal =>
    have result := (lookup_live live).1
    simp only [parsed, ours, if_true, result]
    exact ⟨trivial, trivial⟩
  | none =>
    have missing := (lookup_dead live).1
    rcases looked : mappings.lookup now flow.destination.port t with ⟨u, _ | holder⟩ <;>
      rw [looked] at missing
    · simp only [parsed, ours, if_true, looked]
      exact ⟨trivial, trivial⟩
    · cases missing

/-! ### Histories -/

/-- What an operation has to do with mappings. -/
inductive Deed where
  /-- A packet from `internal` created a mapping of the port. -/
  | opened (now : Nat) (internal : Endpoint) (port : UInt16)
  /-- A packet was translated through the mapping that the port had. -/
  | used (now : Nat) (port : UInt16)
  | purged (address : Ipv4)

def deed? (s : Clocked Masquerade) : Event → Option Deed
  | .outbound packet =>
    match Flow.parse? packet, (s.state.outbound s.now packet).2.2 with
    | some flow, some port =>
      if Creates flow.source port s.state (s.state.outbound s.now packet).1 then
        some (.opened s.now flow.source port)
      else some (.used s.now port)
    | _, _ => none
  | .inbound packet =>
    match Flow.parse? packet, (s.state.inbound s.now packet).2.2 with
    | some flow, some _ => some (.used s.now flow.destination.port)
    | _, _ => none
  | .purge address => some (.purged address)
  | .sweep => none
  | .advance _ => none

/-- All deeds of a sequence of operations, the newest first. -/
def history (s : Clocked Masquerade) : List Event → List Deed
  | [] => []
  | e :: rest => history (step s e) rest ++ (deed? s e).toList

def uses (port : UInt16) (h : List Deed) : List Nat :=
  h.filterMap fun
    | .used now p => if p = port then some now else none
    | _ => none

/-- A mapping has lasted until `now`: nobody has opened the port since `internal` did, its address
has not been purged since, and at no time was the mapping idle for longer than the window. -/
def Lasts (idle : Nat) (h : List Deed) (now : Nat) (port : UInt16) (internal : Endpoint) : Prop :=
  ∃ later opening earlier, h = later ++ .opened opening internal port :: earlier ∧
    (∀ time other, .opened time other port ∉ later) ∧ .purged internal.address ∉ later ∧
    (now :: (uses port later ++ [opening])).IsChain fun next last => next - last ≤ idle

variable {idle : Nat} {h : List Deed} {s : Clocked Masquerade} {d : Deed} {p : UInt16}
  {e : Endpoint}

theorem not_lasts_nil : ¬ Lasts idle [] now port internal := by
  rintro ⟨later, opening, earlier, split, -⟩
  simp at split

theorem lasts_opened_self (time : Nat) :
    Lasts idle (.opened time e port :: h) now port internal ↔
      e = internal ∧ now - time ≤ idle := by
  constructor
  · rintro ⟨_ | ⟨d, later⟩, opening, earlier, split, fresh, -, chain⟩
    · obtain ⟨equal, -⟩ := List.cons.inj split
      obtain ⟨rfl, rfl, -⟩ := Deed.opened.inj equal
      simpa [uses] using chain
    · obtain ⟨rfl, -⟩ := List.cons.inj split
      exact absurd List.mem_cons_self (fresh time e)
  · rintro ⟨rfl, close⟩
    exact ⟨[], time, h, rfl, by simp, by simp, by simpa [uses] using close⟩

theorem lasts_cons_iff (other : ∀ time e, d ≠ .opened time e port) :
    Lasts idle (d :: h) now port internal ↔ d ≠ .purged internal.address ∧
      ∃ later opening earlier, h = later ++ .opened opening internal port :: earlier ∧
        (∀ time other, .opened time other port ∉ later) ∧ .purged internal.address ∉ later ∧
        (now :: (uses port (d :: later) ++ [opening])).IsChain fun next last =>
          next - last ≤ idle := by
  constructor
  · rintro ⟨_ | ⟨d, later⟩, opening, earlier, split, fresh, unpurged, chain⟩
    -- the deed itself does not open the port, so the opening is among the earlier ones
    · exact absurd (List.cons.inj split).1 (other opening internal)
    · obtain ⟨rfl, rfl⟩ := List.cons.inj split
      simp only [List.mem_cons, not_or] at fresh unpurged
      exact ⟨Ne.symm unpurged.1, later, opening, earlier, rfl,
        fun time other => (fresh time other).2, unpurged.2, chain⟩
  · rintro ⟨kept, later, opening, earlier, rfl, fresh, unpurged, chain⟩
    refine ⟨d :: later, opening, earlier, rfl, ?_, ?_, chain⟩
    · intro time e
      simp only [List.mem_cons, not_or]
      exact ⟨Ne.symm (other time e), fresh time e⟩
    · simp only [List.mem_cons, not_or]
      exact ⟨Ne.symm kept, unpurged⟩

theorem lasts_opened_other (differ : p ≠ port) (time : Nat) :
    Lasts idle (.opened time e p :: h) now port internal ↔ Lasts idle h now port internal := by
  rw [lasts_cons_iff (by simp [differ])]
  simp [Lasts, uses]

theorem lasts_used_self (time : Nat) :
    Lasts idle (.used time port :: h) now port internal ↔
      now - time ≤ idle ∧ Lasts idle h time port internal := by
  rw [lasts_cons_iff (by simp)]
  simp only [uses, List.filterMap_cons, if_true, List.cons_append, List.isChain_cons_cons]
  constructor
  · rintro ⟨-, later, opening, earlier, split, fresh, unpurged, close, chain⟩
    exact ⟨close, later, opening, earlier, split, fresh, unpurged, chain⟩
  · rintro ⟨close, later, opening, earlier, split, fresh, unpurged, chain⟩
    exact ⟨by simp, later, opening, earlier, split, fresh, unpurged, close, chain⟩

theorem lasts_used_other (differ : p ≠ port) (time : Nat) :
    Lasts idle (.used time p :: h) now port internal ↔ Lasts idle h now port internal := by
  rw [lasts_cons_iff (by simp)]
  simp [Lasts, uses, differ]

theorem lasts_purged (address : Ipv4) :
    Lasts idle (.purged address :: h) now port internal ↔
      internal.address ≠ address ∧ Lasts idle h now port internal := by
  rw [lasts_cons_iff (by simp)]
  simp [Lasts, uses, eq_comm]

/-! ### Tables and histories -/

/-- From now on the live mappings are those that have lasted. -/
def Follows (idle : Nat) (h : List Deed) (s : Clocked Masquerade) : Prop :=
  ∀ later, s.now ≤ later → ∀ port internal,
    s.state.reverse.live? later port = some internal ↔ Lasts idle h later port internal

theorem Follows.steady (follows : Follows idle h s) (steady : Steady s.now s.state t) :
    Follows idle h { s with state := t } := by
  intro later le port internal
  rw [← follows later le port internal]
  exact Eq.congr_left (steady later le port)

theorem Follows.used (follows : Follows idle h s) (window : s.state.reverse.idle = idle)
    (live : s.state.reverse.live? s.now port = some e)
    (renewed : Renewed s.now port e s.state t) :
    Follows idle (.used s.now port :: h) { s with state := t } := by
  intro later le p internal
  have result := renewed later le p
  rw [window] at result
  by_cases same : p = port
  · subst same
    rw [if_pos rfl] at result
    rw [lasts_used_self, ← follows s.now (Nat.le_refl _), live]
    show t.reverse.live? later p = some internal ↔ _
    rw [result]
    by_cases close : later - s.now ≤ idle <;> simp [close]
  · rw [if_neg same] at result
    rw [lasts_used_other (Ne.symm same), ← follows later le]
    exact Eq.congr_left result

theorem Follows.opened (follows : Follows idle h s) (window : s.state.reverse.idle = idle)
    (renewed : Renewed s.now port e s.state t) :
    Follows idle (.opened s.now e port :: h) { s with state := t } := by
  intro later le p internal
  have result := renewed later le p
  rw [window] at result
  by_cases same : p = port
  · subst same
    rw [if_pos rfl] at result
    rw [lasts_opened_self]
    show t.reverse.live? later p = some internal ↔ _
    rw [result]
    by_cases close : later - s.now ≤ idle <;> simp [close]
  · rw [if_neg same] at result
    rw [lasts_opened_other (Ne.symm same), ← follows later le]
    exact Eq.congr_left result

theorem step_follows (indexed : Indexed (fun _ => False) s.state)
    (window : s.state.reverse.idle = idle) (follows : Follows idle h s) (event : Event) :
    Follows idle ((deed? s event).toList ++ h) (step s event) := by
  cases event with
  | outbound packet =>
    cases parsed : Flow.parse? packet with
    | none =>
      have same : (s.state.outbound s.now packet).1 = s.state := by simp [outbound, parsed]
      simp only [deed?, parsed, step, same]
      exact follows
    | some flow =>
      -- an endpoint uses the live mapping that it has, and only without one opens another
      by_cases live : ∃ port, s.state.reverse.live? s.now port = some flow.source
      · obtain ⟨port, live⟩ := live
        obtain ⟨result, old, renewed⟩ := outbound_live indexed parsed live
        simp only [deed?, parsed, result, if_neg old]
        exact follows.used window live renewed
      · rcases outbound_dead indexed parsed (not_exists.1 live) with
          ⟨result, steady⟩ | ⟨port, result, new, renewed⟩
        · simp only [deed?, parsed, result]
          exact follows.steady steady
        · simp only [deed?, parsed, result, if_pos new]
          exact follows.opened window renewed
  | inbound packet =>
    cases parsed : Flow.parse? packet with
    | none =>
      have same : (s.state.inbound s.now packet).1 = s.state := by simp [inbound, parsed]
      simp only [deed?, parsed, step, same]
      exact follows
    | some flow =>
      by_cases ours : flow.destination.address = s.state.external
      · obtain ⟨result, state⟩ :
            (s.state.inbound s.now packet).2.2 =
                s.state.reverse.live? s.now flow.destination.port ∧
              (s.state.inbound s.now packet).1 =
                (mappings.lookup s.now flow.destination.port s.state).1 :=
          inbound_live parsed ours
        cases live : s.state.reverse.live? s.now flow.destination.port with
        | some internal =>
          simp only [deed?, parsed, result, live, step, state]
          exact follows.used window live (lookup_live live).2
        | none =>
          simp only [deed?, parsed, result, live, step, state]
          exact follows.steady (lookup_dead live).2
      · have same : s.state.inbound s.now packet = (s.state, packet, none) := by
          simp [inbound, parsed, ours]
        simp only [deed?, parsed, step, same]
        exact follows
  | purge address =>
    intro later le port internal
    simp only [deed?, Option.toList_some, List.singleton_append]
    rw [lasts_purged, ← follows later le, and_comm]
    exact purge_live indexed address
  | sweep => exact follows.steady (sweep_steady s.now s.state)
  | advance milliseconds =>
    exact fun later le => follows later (Nat.le_trans (Nat.le_add_right _ _) le)

/-- What becomes of the next packet can be told from the history. -/
structure Faithful (external : Ipv4) (idle : Nat) (h : List Deed) (s : Clocked Masquerade) :
    Prop where
  /-- A packet for a port goes to the endpoint whose mapping of the port has lasted. -/
  inward : ∀ packet flow, Flow.parse? packet = some flow → flow.destination.address = external →
    ∀ internal, (s.state.inbound s.now packet).2.2 = some internal ↔
      Lasts idle h s.now flow.destination.port internal
  /-- Where no mapping has lasted it goes nowhere. -/
  refused : ∀ packet flow, Flow.parse? packet = some flow → flow.destination.address = external →
    (∀ internal, ¬ Lasts idle h s.now flow.destination.port internal) →
      (s.state.inbound s.now packet).2.2 = none
  /-- A packet from an endpoint whose mapping has lasted gets the same port again. -/
  outward : ∀ port internal, Lasts idle h s.now port internal →
    ∀ packet flow, Flow.parse? packet = some flow → flow.source = internal →
      (s.state.outbound s.now packet).2.2 = some port
  /-- A mapping is created exactly for an endpoint none of whose mappings has lasted. -/
  created : ∀ packet flow port, Flow.parse? packet = some flow →
    (s.state.outbound s.now packet).2.2 = some port →
      (deed? s (.outbound packet) = some (.opened s.now flow.source port) ↔
        ∀ p, ¬ Lasts idle h s.now p flow.source)

theorem Follows.faithful (follows : Follows idle h s)
    (indexed : Indexed (fun _ => False) s.state) : Faithful s.state.external idle h s := by
  have present := follows s.now (Nat.le_refl _)
  have inward : ∀ packet flow, Flow.parse? packet = some flow →
      flow.destination.address = s.state.external →
      ∀ internal, (s.state.inbound s.now packet).2.2 = some internal ↔
        Lasts idle h s.now flow.destination.port internal := by
    intro packet flow parsed ours internal
    rw [(inbound_live parsed ours).1]
    exact present _ _
  refine ⟨inward, ?_, ?_, ?_⟩
  · intro packet flow parsed ours none_lasts
    rw [Option.eq_none_iff_forall_ne_some]
    intro internal found
    exact none_lasts internal ((inward packet flow parsed ours internal).1 found)
  · rintro port internal lasts packet flow parsed rfl
    exact (outbound_live indexed parsed ((present _ _).2 lasts)).1
  · intro packet flow port parsed got
    simp only [← present]
    by_cases live : ∃ p, s.state.reverse.live? s.now p = some flow.source
    · obtain ⟨p, live⟩ := live
      obtain ⟨result, old, -⟩ := outbound_live indexed parsed live
      simp only [deed?, parsed, result, if_neg old]
      simp only [Option.some.injEq, reduceCtorEq, false_iff, not_forall, not_not]
      exact ⟨p, live⟩
    · rcases outbound_dead indexed parsed (not_exists.1 live) with
        ⟨result, -⟩ | ⟨q, result, new, -⟩
      · rw [result] at got
        cases got
      · obtain rfl := Option.some.inj (result.symm.trans got)
        simp only [deed?, parsed, result, if_pos new, true_iff]
        exact not_exists.1 live

theorem run_follows (indexed : Indexed (fun _ => False) s.state)
    (window : s.state.reverse.idle = idle) (follows : Follows idle h s) (events : List Event) :
    Follows idle (history s events ++ h) (run s events) := by
  induction events generalizing s h with
  | nil => exact follows
  | cons e rest ih =>
    have evolved := step_evolves s e
    have later := ih (step_indexed indexed e) (evolved.idle.trans window)
      (step_follows indexed window follows e)
    rw [history, List.append_assoc]
    exact later

/-- Whatever has been done to a masquerade, translation follows history exactly. -/
theorem run_faithful (external : Ipv4) (ports : UInt16 × UInt16) (idle start : Nat)
    (events : List Event) :
    let first : Clocked Masquerade := ⟨create external ports idle, start⟩
    Faithful external idle (history first events) (run first events) := by
  intro first
  have indexed : Indexed (fun _ => False) first.state := create_indexed external ports idle
  have empty : Follows idle [] first := by
    intro later _ port internal
    simp only [not_lasts_nil, iff_false]
    simp [first, create, IdleMap.live?]
  have follows := run_follows indexed rfl empty events
  rw [List.append_nil] at follows
  have faithful := follows.faithful (run_indexed indexed events)
  rw [(run_evolves first events).external] at faithful
  exact faithful

end Concentrator.Masquerade
