import Concentrator.Proofs.Masquerade.Mappings
import Concentrator.Proofs.Masquerade.Readdress
import Concentrator.Proofs.Session.Dissolution

/-!
# The order of a sweep

A sweep finds the expired entries of a map and evicts one after the other. Nothing says in
which order it comes to them. Whichever it is, it does what looking each of them up would do,
so that a sweep in any order is a run of lookups, and what holds of every run holds of it.
Mappings are looked up by packets that come in. Clearing a registry in any order is likewise
a run in which every source leaves, but for the journal.
-/

namespace Concentrator

namespace IdleMap.Owner

variable {κ α σ : Type} [DecidableEq κ] {owner : Owner σ κ α} {now : Nat} {keys : List κ} {s : σ}

/-- Evicting an expired entry is what looking it up does. -/
theorem evictExpired_of_expired {k : κ} {e : Timed α}
    (found : (owner.get s).entries.find? k = some e)
    (expired : (owner.get s).expired now e = true) :
    owner.evictExpired now k s = ((owner.lookup now k s).1, true) := by
  have evicted : owner.evictExpired now k s = (owner.evict k e.value s, true) := by
    simp [evictExpired, found, expired]
  have dead : (owner.get s).live? now k = none := by
    rw [live?_of_find? found, if_pos expired]
  rw [lookup, dead, evicted]

theorem foldl_evictExpired
    (kept : ∀ k a s, owner.get (owner.evict k a s) = (owner.get s).remove k) (distinct : keys.Nodup)
    (expired : ∀ k ∈ keys, ∃ e, (owner.get s).entries.find? k = some e ∧
      (owner.get s).expired now e = true) (n : Nat) :
    keys.foldl (fun (s, n) k =>
      let (s, gone) := owner.evictExpired now k s
      (s, if gone then n + 1 else n)) (s, n) =
      (keys.foldl (fun s k => (owner.lookup now k s).1) s, n + keys.length) := by
  induction keys generalizing s n with
  | nil => rfl
  | cons k rest ih =>
    obtain ⟨elsewhere, distinct⟩ := List.nodup_cons.1 distinct
    obtain ⟨e, found, dead⟩ := expired k List.mem_cons_self
    have evicted : (owner.lookup now k s).1 = owner.evict k e.value s := by
      rcases owner.lookup_cases s now k with
        ⟨e', found', live, -⟩ | ⟨e', found', -, result⟩ | ⟨absent, -⟩
      · obtain rfl := Option.some.inj (found.symm.trans found')
        cases dead.symm.trans live
      · obtain rfl := Option.some.inj (found.symm.trans found')
        rw [result]
      · cases found.symm.trans absent
    have others : ∀ k' ∈ rest, ∃ e',
        (owner.get (owner.lookup now k s).1).entries.find? k' = some e' ∧
        (owner.get (owner.lookup now k s).1).expired now e' = true := by
      intro k' member
      obtain ⟨e', found', dead'⟩ := expired k' (List.mem_cons_of_mem k member)
      have other : k' ≠ k := fun same => elsewhere (same ▸ member)
      rw [evicted, kept]
      exact ⟨e', Table.find?_erase_eq_some_iff.2 ⟨other, found'⟩, dead'⟩
    simp only [List.foldl_cons, evictExpired_of_expired found dead, if_true]
    rw [ih distinct others, List.length_cons, Nat.add_right_comm, Nat.add_assoc]

/-- What a sweep does in any order. -/
theorem evictAll_eq_lookups
    (kept : ∀ k a s, owner.get (owner.evict k a s) = (owner.get s).remove k)
    (order : keys.Perm ((owner.get s).expiredKeys now)) :
    owner.evictAll now keys s =
      (keys.foldl (fun s k => (owner.lookup now k s).1) s, keys.length) := by
  have distinct : keys.Nodup := order.nodup_iff.2 (Table.nodup _)
  refine (foldl_evictExpired kept distinct (fun k member => ?_) 0).trans (by rw [Nat.zero_add])
  obtain ⟨e, found⟩ := Table.mem_keys_iff.1 (order.mem_iff.1 member)
  rw [Table.find?_filter, Option.filter_eq_some_iff] at found
  exact ⟨e, found⟩

end IdleMap.Owner

/-! ### Sessions -/

namespace Registry

variable {r : Registry} {now : Nat} {sources : List Peer}

theorem run_lookups (sources : List Peer) (r : Registry) (now : Nat) :
    run ⟨r, now⟩ (sources.map .lookup) =
      ⟨sources.foldl (fun r source => (owner.lookup now source r).1) r, now⟩ := by
  induction sources generalizing r with
  | nil => rfl
  | cons source rest ih => exact ih (r.lookup now source).1

/-- In whatever order a sweep comes to the expired sessions, it is a run of lookups, and it counts
as many. -/
theorem sweep_in_order (order : sources.Perm (r.sessions.expiredKeys now)) :
    owner.evictAll now sources r =
      ((run ⟨r, now⟩ (sources.map .lookup)).state, (r.sweep now).2) := by
  have kept : ∀ source session r,
      owner.get (owner.evict source session r) = (owner.get r).remove source :=
    fun _ _ _ => withdraw_sessions
  have counted : (r.sweep now).2 = (r.sessions.expiredKeys now).length :=
    congrArg Prod.snd (IdleMap.Owner.evictAll_eq_lookups kept (.refl _))
  rw [IdleMap.Owner.evictAll_eq_lookups kept order, run_lookups, counted, order.length_eq]

/-- Withdrawing a session does not look at the sessions that there are. -/
theorem withdraw_frame (r : Registry) (session : Session) (m : IdleMap Peer Session)
    (notices : List Notice) : ∃ notices',
      withdraw session { r with sessions := m, notices } =
        { r.withdraw session with sessions := m, notices := notices' } := by
  unfold withdraw
  dsimp only
  split
  · exact ⟨notices, rfl⟩
  · split
    · exact ⟨notices, rfl⟩
    · split
      · exact ⟨_, rfl⟩
      · exact ⟨notices, rfl⟩

/-- Leaving one by one withdraws the same sessions from the leases in the same order. -/
theorem leaveAll_eq_withdrawals {order : List (Peer × Session)} {r u : Registry}
    (distinct : (order.map Prod.fst).Nodup)
    (recorded : ∀ source session, (source, session) ∈ order →
      u.sessions.peek? source = some session)
    (same : u = { r with sessions := u.sessions, notices := u.notices }) :
    u.leaveAll (order.map Prod.fst) =
      { order.foldl (fun r (_, session) => r.withdraw session) r with
        sessions := (u.leaveAll (order.map Prod.fst)).sessions
        notices := (u.leaveAll (order.map Prod.fst)).notices } := by
  induction order generalizing r u with
  | nil => exact same
  | cons head rest ih =>
    obtain ⟨source, session⟩ := head
    obtain ⟨elsewhere, distinct⟩ := List.nodup_cons.1 distinct
    have present := recorded source session List.mem_cons_self
    have left : (u.leave source).1 = withdraw session
        (note (.sessionLeft source session.address)
          { u with sessions := u.sessions.remove source }) := by
      simp only [leave, present]
    have removed : (u.leave source).1.sessions = u.sessions.remove source := by
      rw [left, withdraw_sessions]
      rfl
    refine ih distinct (fun source' session' member => ?_) ?_
    · have other : source' ≠ source := by
        rintro rfl
        exact elsewhere (List.mem_map.2 ⟨_, member, rfl⟩)
      rw [removed]
      exact IdleMap.peek?_remove_eq_some_iff.2
        ⟨other, recorded source' session' (List.mem_cons_of_mem _ member)⟩
    · have base : note (.sessionLeft source session.address)
          { u with sessions := u.sessions.remove source } =
            { r with
              sessions := u.sessions.remove source
              notices := u.notices ++ [.sessionLeft source session.address] } :=
        congrArg (fun v : Registry => note (.sessionLeft source session.address)
          { v with sessions := u.sessions.remove source }) same
      obtain ⟨notices, framed⟩ := withdraw_frame r session (u.sessions.remove source)
        (u.notices ++ [.sessionLeft source session.address])
      show (u.leave source).1 = { r.withdraw session with
        sessions := (u.leave source).1.sessions, notices := (u.leave source).1.notices }
      rw [left, base, framed]

theorem leaveAll_idle (order : List Peer) (r : Registry) :
    (r.leaveAll order).sessions.idle = r.sessions.idle := by
  refine List.foldlRecOn (motive := fun u : Registry => u.sessions.idle = r.sessions.idle) order
    (fun r source => (r.leave source).1) rfl fun u same source _ => ?_
  exact (u.leave_settled 0 source).idle.trans same

theorem run_leaves (order : List (Peer × Session)) (r : Registry) (now : Nat) :
    run ⟨r, now⟩ (order.map fun entry => .leave entry.1) =
      ⟨r.leaveAll (order.map Prod.fst), now⟩ := by
  induction order generalizing r with
  | nil => rfl
  | cons entry rest ih => exact ih (r.leave entry.1).1

/-- In whatever order the sessions are withdrawn, it is a run in which each of their sources leaves,
as far as tables, generations and changes go. -/
theorem drain_in_order {order : List (Peer × Session)} (all : order.Perm r.sessions.toList) :
    (run ⟨r, now⟩ (order.map fun entry => .leave entry.1)).state =
      { r.drain order with
        notices := (run ⟨r, now⟩ (order.map fun entry => .leave entry.1)).state.notices } := by
  have listed (source : Peer) (session : Session) :
      (source, session) ∈ order ↔ r.sessions.peek? source = some session :=
    all.mem_iff.trans IdleMap.mem_toList_iff
  have distinct : (order.map Prod.fst).Nodup :=
    (all.map Prod.fst).nodup_iff.2 r.sessions.nodup_toList
  have entries : (r.leaveAll (order.map Prod.fst)).sessions.entries = .empty := by
    refine Table.eq_empty fun source => ?_
    refine Option.map_eq_none_iff.1 ((leaveAll_peek? _ r source).trans ?_)
    split
    · rfl
    · rename_i missing
      refine Option.eq_none_iff_forall_ne_some.2 fun session recorded => missing ?_
      exact List.mem_map.2 ⟨_, (listed source session).2 recorded, rfl⟩
  have empty : (r.leaveAll (order.map Prod.fst)).sessions = r.sessions.clear := by
    rw [IdleMap.clear, ← entries, ← leaveAll_idle (order.map Prod.fst) r]
  have withdrawn := leaveAll_eq_withdrawals (r := { r with sessions := r.sessions.clear })
    distinct (fun source session => (listed source session).1) rfl
  have drained : order.foldl (fun r (_, session) => r.withdraw session)
      { r with sessions := r.sessions.clear } = r.drain order := rfl
  rw [drained, empty, ← drain_sessions order r] at withdrawn
  rw [run_leaves]
  exact withdrawn

end Registry

/-! ### Mappings -/

namespace Masquerade

variable {t : Masquerade} {now : Nat} {ports : List UInt16}

/-- A segment that begins a connection. -/
def call : Bytes :=
  [0x45, 0, 0, 40, 0, 1, 0, 0, 64, 6, 0, 0, 93, 184, 216, 34, 10, 0, 0, 1,
    1, 187, 4, 0, 0, 0, 0, 1, 0, 0, 0, 0, 0x50, 2, 255, 255, 0, 0, 0, 0]

def callFlow : Flow where
  headerLength := 20
  totalLength := 40
  protocol := .tcp
  source := ⟨.ofOctets 93 184 216 34, 443⟩
  destination := ⟨.ofOctets 10 0 0 1, 1024⟩

/-- One to a port of an address. -/
def callTo (external : Ipv4) (port : UInt16) : Bytes :=
  callFlow.readdress call .destination ⟨external, port⟩

theorem inbound_callTo (t : Masquerade) (now : Nat) (port : UInt16) :
    (t.inbound now (callTo t.external port)).1 = (mappings.lookup now port t).1 := by
  have parsed : Flow.parse? call = some callFlow := by decide +kernel
  have parsed' : Flow.parse? (callTo t.external port) =
      some (callFlow.withEnd .destination ⟨t.external, port⟩) := Flow.parse?_readdress parsed _ _
  have destination : (callFlow.withEnd .destination ⟨t.external, port⟩).destination =
      ⟨t.external, port⟩ := by
    simp [Flow.withEnd, callFlow]
  unfold inbound
  rw [parsed']
  dsimp only
  rw [destination, if_pos rfl]
  rcases mappings.lookup now port t with ⟨u, _ | internal⟩ <;> rfl

theorem run_lookups (ports : List UInt16) (t : Masquerade) (now : Nat) :
    run ⟨t, now⟩ (ports.map fun port => .inbound (callTo t.external port)) =
      ⟨ports.foldl (fun t port => (mappings.lookup now port t).1) t, now⟩ := by
  induction ports generalizing t with
  | nil => rfl
  | cons port rest ih =>
    have evolved : Evolves (fun _ => True) t (mappings.lookup now port t).1 :=
      lookup_evolves now port
    have later := ih (mappings.lookup now port t).1
    rw [evolved.external, ← inbound_callTo] at later
    rw [List.foldl_cons, ← inbound_callTo]
    exact later

/-- In whatever order a sweep comes to the expired mappings, it is a run of packets to their ports,
and it counts as many. -/
theorem sweep_in_order (order : ports.Perm (t.reverse.expiredKeys now)) :
    mappings.evictAll now ports t =
      ((run ⟨t, now⟩ (ports.map fun port => .inbound (callTo t.external port))).state,
        (t.sweep now).2) := by
  have kept : ∀ port internal t,
      mappings.get (mappings.evict port internal t) = (mappings.get t).remove port :=
    fun _ _ _ => rfl
  have counted : (t.sweep now).2 = (t.reverse.expiredKeys now).length :=
    congrArg Prod.snd (IdleMap.Owner.evictAll_eq_lookups kept (.refl _))
  rw [IdleMap.Owner.evictAll_eq_lookups kept order, run_lookups, counted, order.length_eq]

end Masquerade

end Concentrator
