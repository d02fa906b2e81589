import Concentrator.Proofs.Session.Evolution
import Concentrator.Proofs.Session.Tally

/-!
# The tables of a registry

Whenever an operation of a registry ends, its leases know exactly the sessions
that the idle map records. `run_coherent` says what follows for the tables after
any sequence of operations.
-/

namespace Concentrator.Registry

variable {r r' : Registry} {source : Peer} {session : Session} {address : Ipv4} {group : String}
  {now : Nat}

/-- The leases know exactly the sessions that are recorded. -/
def Sound (r : Registry) : Prop := Tally r.sessions.peek? r

theorem peek?_remove_eq_update (m : IdleMap Peer Session) (source : Peer) :
    (m.remove source).peek? = Function.update m.peek? source none := by
  funext peer
  simp only [IdleMap.peek?_remove, Function.update_apply]

/-- Every way to end a session: it leaves the idle map and then its lease. -/
theorem drop_sound (sound : r.Sound) (present : r.sessions.peek? source = some session)
    (notices : List Notice) :
    Sound (withdraw session
      { r with sessions := r.sessions.remove source, notices := notices }) := by
  rw [Sound, withdraw_sessions, peek?_remove_eq_update]
  exact withdraw_tally (sound.congr rfl rfl rfl rfl) present

theorem evict_sound (sound : r.Sound) (present : r.sessions.peek? source = some session) :
    (owner.evict source session r).Sound :=
  drop_sound sound present _

/-- Refreshing or forgetting clocks and writing notices changes nothing that counts. -/
theorem Sound.congr (sound : r.Sound) (sessions : r'.sessions.peek? = r.sessions.peek?)
    (pool : r'.pool = r.pool) (groups : r'.groups = r.groups) (leases : r'.leases = r.leases)
    (nextSerial : r'.nextSerial = r.nextSerial) : r'.Sound := by
  rw [Sound, sessions]
  exact Tally.congr sound pool groups leases nextSerial

theorem record_sessions : (r.record now source group address).sessions.peek? =
    Function.update r.sessions.peek? source (some ⟨r.nextSerial, group, address⟩) := by
  funext peer
  simp only [record, enlist, setMembers, changed, note, lease_sessions, lease_nextSerial,
    IdleMap.peek?_insert, Function.update_apply]

theorem record_sound (sound : r.Sound) (absent : r.sessions.peek? source = none)
    (chosen : r.addressFor? group = some address) :
    (r.record now source group address).Sound := by
  rw [Sound, record_sessions]
  exact record_tally sound absent chosen

theorem admitNew_sound (sound : r.Sound) (absent : r.sessions.peek? source = none)
    (offer : Ipv4 → Bool) : (r.admitNew now source group offer).1.Sound := by
  rcases r.admitNew_cases now source group offer with
    ⟨-, result⟩ | ⟨address, -, -, result⟩ | ⟨address, chosen, -, result⟩ <;> rw [result]
  · exact sound.congr rfl rfl rfl rfl rfl
  · exact sound
  · exact record_sound sound absent chosen

/-- A source that has given up its session has none, also if it is not admitted after all. -/
theorem vacate_sound (sound : r.Sound) (source : Peer) (group : String) :
    (r.vacate source group).Sound ∧ (r.vacate source group).sessions.peek? source = none := by
  cases present : r.sessions.peek? source with
  | none =>
    rw [vacate_of_absent present]
    exact ⟨sound, present⟩
  | some previous =>
    rw [vacate_of_present present]
    refine ⟨drop_sound sound present _, ?_⟩
    rw [dropPrevious, withdraw_sessions, IdleMap.peek?_remove, if_pos rfl]

theorem join_sound (sound : r.Sound) (now : Nat) (source : Peer) (request : JoinRequest)
    (offer : Ipv4 → Bool) : (r.join now source request offer).1.Sound := by
  rcases r.join_cases now source request offer with
    ⟨-, result⟩ | ⟨-, _, -, -, result⟩ | ⟨-, -, result⟩ <;> rw [result]
  · exact sound.congr rfl rfl rfl rfl rfl
  · exact sound.congr (funext fun peer => IdleMap.peek?_refresh _ _ _ peer) rfl rfl rfl rfl
  · obtain ⟨vacated, absent⟩ := vacate_sound sound source request.group
    exact admitNew_sound vacated absent offer

theorem leave_sound (sound : r.Sound) (source : Peer) : (r.leave source).1.Sound := by
  unfold leave
  cases present : r.sessions.peek? source with
  | none => exact sound
  | some session => exact drop_sound sound present _

theorem lookup_sound (sound : r.Sound) (now : Nat) (source : Peer) :
    (r.lookup now source).1.Sound :=
  IdleMap.Owner.lookup_preserves (P := Sound)
    (fun sound => sound.congr (funext fun peer => IdleMap.peek?_refresh _ _ _ peer) rfl rfl rfl rfl)
    (fun _ present sound => evict_sound sound present) sound

/-- A session that a lookup finds has not expired, and nothing but its clock changes. -/
theorem lookup_some (found : r.lookup now source = (r', some session)) :
    (∃ e, r.sessions.entries.find? source = some e ∧ e.value = session ∧
      r.sessions.expired now e = false) ∧
    r' = { r with sessions := r.sessions.refresh now source } :=
  IdleMap.Owner.lookup_some found

theorem leased_of_lookup (sound : r.Sound) (found : r.lookup now source = (r', some session)) :
    ∃ l, r'.leases.find? session.address = some l := by
  obtain ⟨⟨e, present, rfl, -⟩, rfl⟩ := lookup_some found
  exact sound.leased source e.value (IdleMap.peek?_of_find? present)

theorem sweep_sound (sound : r.Sound) (now : Nat) : (r.sweep now).1.Sound :=
  IdleMap.Owner.sweep_preserves (fun _ _ _ present sound => evict_sound sound present) sound

theorem withdrawAll_sessions (all : List (Peer × Session)) (r : Registry) :
    (all.foldl (fun r (_, session) => r.withdraw session) r).sessions = r.sessions := by
  induction all generalizing r with
  | nil => rfl
  | cons head rest ih => exact (ih _).trans withdraw_sessions

/-- Withdrawing all sessions of a roster, in any order, leaves an empty one. -/
theorem withdrawAll_tally {all : List (Peer × Session)} {roster : Roster} (tally : Tally roster r)
    (keys : (all.map Prod.fst).Nodup)
    (complete : ∀ peer s, (peer, s) ∈ all ↔ roster peer = some s) :
    Tally (fun _ => none) (all.foldl (fun r (_, session) => r.withdraw session) r) := by
  -- the roster shrinks along with the list: at its end it is the one that knows nobody
  induction all generalizing roster r with
  | nil =>
    have empty : roster = fun _ => none := by
      funext peer
      exact Option.eq_none_iff_forall_ne_some.2 fun s recorded => by
        simpa using (complete peer s).2 recorded
    exact empty ▸ tally
  | cons head rest ih =>
    obtain ⟨peer, session⟩ := head
    obtain ⟨fresh, keys⟩ := List.nodup_cons.1 keys
    refine ih (withdraw_tally tally ((complete peer session).1 List.mem_cons_self)) keys ?_
    intro other s
    by_cases same : other = peer
    · subst same
      rw [Function.update_self]
      refine ⟨fun member => absurd (List.mem_map_of_mem (f := Prod.fst) member) fresh, by simp⟩
    · rw [Function.update_of_ne same, ← complete, List.mem_cons]
      simp [same]

theorem drain_sessions (order : List (Peer × Session)) (r : Registry) :
    (r.drain order).sessions = r.sessions.clear :=
  withdrawAll_sessions order _

theorem drain_nextSerial (order : List (Peer × Session)) (r : Registry) :
    (r.drain order).nextSerial = r.nextSerial :=
  List.foldlRecOn (motive := fun u : Registry => u.nextSerial = r.nextSerial) order
    (fun r (entry : Peer × Session) => r.withdraw entry.2) rfl
    fun _ same _ _ => withdraw_nextSerial.trans same

theorem drain_sound (sound : r.Sound) {order : List (Peer × Session)}
    (all : order.Perm r.sessions.toList) : (r.drain order).Sound := by
  have keys : (order.map Prod.fst).Nodup :=
    (all.map Prod.fst).nodup_iff.2 r.sessions.nodup_toList
  rw [Sound, drain_sessions]
  exact withdrawAll_tally (r := { r with sessions := r.sessions.clear })
    (Tally.congr sound rfl rfl rfl rfl) keys fun _ _ => all.mem_iff.trans IdleMap.mem_toList_iff

theorem clear_sound (sound : r.Sound) : r.clear.1.Sound := by
  have drained := drain_sound sound (.refl r.sessions.toList)
  unfold clear
  dsimp only
  split
  · exact drained
  · exact drained.congr rfl rfl rfl rfl rfl

/-! ### Sequences of operations -/

inductive Event where
  /-- `offer` says which addresses the client can be told. -/
  | join (source : Peer) (request : JoinRequest) (offer : Ipv4 → Bool)
  | leave (source : Peer)
  | lookup (source : Peer)
  | sweep
  | clear
  | advance (milliseconds : Nat)

def step (s : Clocked Registry) : Event → Clocked Registry
  | .join source request offer => { s with state := (s.state.join s.now source request offer).1 }
  | .leave source => { s with state := (s.state.leave source).1 }
  | .lookup source => { s with state := (s.state.lookup s.now source).1 }
  | .sweep => { s with state := (s.state.sweep s.now).1 }
  | .clear => { s with state := s.state.clear.1 }
  | .advance milliseconds => { s with now := s.now + milliseconds }

def run (s : Clocked Registry) (events : List Event) : Clocked Registry :=
  events.foldl step s

theorem create_sound (secret : String) (first last : Ipv4) (idle : Nat) :
    (create secret (.between first last) idle).Sound :=
  tally_empty secret first last idle

theorem step_sound {s : Clocked Registry} (sound : s.state.Sound) (e : Event) :
    (step s e).state.Sound := by
  cases e with
  | join source request offer => exact join_sound sound _ source request offer
  | leave source => exact leave_sound sound source
  | lookup source => exact lookup_sound sound _ source
  | sweep => exact sweep_sound sound _
  | clear => exact clear_sound sound
  | advance milliseconds => exact sound

theorem run_sound {s : Clocked Registry} (sound : s.state.Sound) (events : List Event) :
    (run s events).state.Sound :=
  List.foldlRecOn (motive := fun s => s.state.Sound) events step sound
    fun _ sound e _ => step_sound sound e

theorem step_evolves (s : Clocked Registry) (e : Event) : Evolves s.state (step s e).state := by
  cases e with
  | join source request offer => exact join_evolves _ source request offer
  | leave source => exact leave_evolves source
  | lookup source => exact lookup_evolves _ source
  | sweep => exact sweep_evolves _
  | clear => exact clear_evolves
  | advance milliseconds => exact .refl _

theorem run_evolves (s : Clocked Registry) (events : List Event) :
    Evolves s.state (run s events).state :=
  List.foldlRecOn (motive := fun t => Evolves s.state t.state) events step (.refl _)
    fun t evolved e _ => evolved.trans (step_evolves t e)

/-- What the tables of a registry over the pool from `first` to `last` say about one another. -/
structure Coherent (first last : Ipv4) (r : Registry) : Prop where
  /-- No two groups have one address. -/
  groups_injective : ∀ g g' a, r.groups.find? g = some a → r.groups.find? g' = some a → g = g'
  grouped_iff_occupied : ∀ a : Ipv4, (∃ g, r.groups.find? g = some a) ↔ a.bits ∈ r.pool.occupied
  grouped_iff_leased : ∀ a, (∃ g, r.groups.find? g = some a) ↔ a ∈ r.leases.keys
  occupied_iff_used : ∀ a : Ipv4, a.bits ∈ r.pool.occupied ↔
    ∃ source s, r.sessions.peek? source = some s ∧ s.address = a
  ascending : r.pool.occupied.Pairwise (· < ·)
  inside : ∀ x ∈ r.pool.occupied, first.bits ≤ x ∧ x ≤ last.bits
  manned : ∀ a l, r.leases.find? a = some l → l.members ≠ []
  members_nodup : ∀ a l, r.leases.find? a = some l → l.members.Nodup
  members_iff : ∀ a l, r.leases.find? a = some l → ∀ serial source,
    (serial, source) ∈ l.members ↔
      ∃ s, r.sessions.peek? source = some s ∧ s.serial = serial ∧ s.address = a
  one_group : ∀ a l, r.leases.find? a = some l → ∀ source s, r.sessions.peek? source = some s →
    s.address = a → s.group = l.group
  /-- A lease shows its members in the order in which they are listed, which is the order of
  their serial numbers and so the one in which they joined. -/
  shown : ∀ a l, r.leases.find? a = some l → l.snapshot.peers = l.members.map Prod.snd
  join_order : ∀ a l, r.leases.find? a = some l → l.members.Pairwise fun x y => x.1 < y.1
  serials_distinct : ∀ source source' s s', r.sessions.peek? source = some s →
    r.sessions.peek? source' = some s' → s.serial = s'.serial → source = source'
  serials_issued : ∀ source s, r.sessions.peek? source = some s → s.serial < r.nextSerial

theorem Sound.coherent (sound : r.Sound) {first last : Ipv4} (first_eq : r.pool.first = first.bits)
    (last_eq : r.pool.last = last.bits) : Coherent first last r where
  groups_injective g g' a held held' := by
    obtain ⟨l, leased, rfl⟩ := (sound.groups g a).1 held
    obtain ⟨l', leased', rfl⟩ := (sound.groups g' a).1 held'
    rw [leased] at leased'
    rw [Option.some.inj leased']
  grouped_iff_occupied a := by
    rw [sound.occupied]
    simp only [sound.groups]
    exact ⟨fun ⟨_, l, leased, _⟩ => ⟨l, leased⟩, fun ⟨l, leased⟩ => ⟨l.group, l, leased, rfl⟩⟩
  grouped_iff_leased a := by
    rw [Table.mem_keys_iff]
    simp only [sound.groups]
    exact ⟨fun ⟨_, l, leased, _⟩ => ⟨l, leased⟩, fun ⟨l, leased⟩ => ⟨l.group, l, leased, rfl⟩⟩
  occupied_iff_used a := (sound.occupied a).trans sound.leased_iff
  ascending := sound.pool.ascending
  inside x member := by
    rw [← first_eq, ← last_eq]
    exact sound.pool.inside x member
  manned a l leased := (sound.fits a l leased).manned
  members_nodup a l leased := by
    refine (sound.fits a l leased).ordered.imp ?_
    rintro x y below rfl
    exact Nat.lt_irrefl _ below
  members_iff a l leased := (sound.fits a l leased).members_iff
  one_group a l leased := (sound.fits a l leased).group
  shown a l leased := (sound.fits a l leased).shown
  join_order a l leased := (sound.fits a l leased).ordered
  serials_distinct := sound.numbered.distinct
  serials_issued := sound.numbered.issued

/-- The tables agree after any sequence of operations, whatever the pool. -/
theorem run_coherent (secret : String) (first last : Ipv4) (idle : Nat) (events : List Event) :
    Coherent first last
      (run ⟨create secret (.between first last) idle, 0⟩ events).state :=
  have evolved := run_evolves ⟨create secret (.between first last) idle, 0⟩ events
  (run_sound (create_sound secret first last idle) events).coherent evolved.first evolved.last

end Concentrator.Registry
