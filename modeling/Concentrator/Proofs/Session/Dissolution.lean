import Concentrator.Proofs.Session.Lifetime

/-!
# The end of all sessions

Clearing a registry withdraws its sessions one after the other while the idle map is empty
already. `run_dissolved` says that in whatever order this is done, nothing is left in the
tables, and that they are the same as if every source had left.
-/

namespace Concentrator.Registry

variable {r u v : Registry} {source : Peer} {session : Session}

/-- The registry without sessions and without anything that belongs to one. -/
def emptied (r : Registry) : Registry :=
  { r with
    sessions := r.sessions.clear
    pool := { r.pool with occupied := [] }
    groups := .empty
    leases := .empty }

/-- The tables are the same. Generations and journals may be others. -/
def Matches (r u : Registry) : Prop :=
  u = { r with generation := u.generation, changes := u.changes, notices := u.notices }

theorem Matches.trans (before : Matches r u) (after : Matches u v) : Matches r v := by
  rw [Matches, after, before]

theorem Matches.symm (same : Matches r u) : Matches u r := by
  rw [Matches, same]

/-- Where nobody has a session, nothing is leased. -/
theorem Tally.vacant (tally : Tally (fun _ => none) r) :
    r.leases = .empty ∧ r.groups = .empty ∧ r.pool.occupied = [] := by
  have unused : ∀ a, ¬∃ l, r.leases.find? a = some l := by
    rintro a leased
    obtain ⟨_, _, none, -⟩ := tally.leased_iff.1 leased
    cases none
  refine ⟨Table.eq_empty fun a => ?_, Table.eq_empty fun g => ?_, ?_⟩
  · exact Option.eq_none_iff_forall_ne_some.2 fun l leased => unused a ⟨l, leased⟩
  · refine Option.eq_none_iff_forall_ne_some.2 fun a grouped => ?_
    obtain ⟨_, _, none, -⟩ := tally.grouped_iff.1 grouped
    cases none
  · exact List.eq_nil_iff_forall_not_mem.2 fun x taken => unused ⟨x⟩ ((tally.occupied ⟨x⟩).1 taken)

theorem Sound.tally_none (sound : r.Sound) (absent : ∀ p, r.sessions.peek? p = none) :
    Tally (fun _ => none) r := by
  have nobody : r.sessions.peek? = fun _ => none := funext absent
  rwa [Sound, nobody] at sound

theorem matches_emptied (sound : u.Sound) (absent : ∀ p, u.sessions.peek? p = none)
    (evolved : Evolves r u) (nextSerial : u.nextSerial = r.nextSerial) : Matches r.emptied u := by
  obtain ⟨leases, groups, occupied⟩ := (sound.tally_none absent).vacant
  have entries : u.sessions.entries = .empty :=
    Table.eq_empty fun p => Option.map_eq_none_iff.1 (absent p)
  have idle := evolved.idle
  have secret := evolved.secret
  have first := evolved.first
  have last := evolved.last
  -- taken apart, so that equal fields make one record
  obtain ⟨_, ⟨_, _⟩, ⟨_, _, _⟩, _, _, _, _, _, _⟩ := u
  dsimp only at leases groups occupied entries idle secret first last nextSerial
  subst leases groups occupied entries idle secret first last nextSerial
  rfl

/-! ### Clearing -/

/-- In whatever order the sessions are withdrawn, nothing is left of them. -/
theorem drain_matches (sound : r.Sound) {order : List (Peer × Session)}
    (all : order.Perm r.sessions.toList) : Matches r.emptied (r.drain order) := by
  refine matches_emptied (drain_sound sound all) (fun p => ?_) (drain_evolves order r)
    (drain_nextSerial order r)
  rw [drain_sessions]
  rfl

theorem clear_matches (sound : r.Sound) : Matches r.emptied r.clear.1 := by
  have drained := drain_matches sound (.refl r.sessions.toList)
  unfold clear
  dsimp only
  split
  · exact drained
  · exact drained.trans rfl

/-! ### Leaving one by one -/

def leaveAll (order : List Peer) (r : Registry) : Registry :=
  order.foldl (fun r source => (r.leave source).1) r

theorem leave_nextSerial (r : Registry) (source : Peer) :
    (r.leave source).1.nextSerial = r.nextSerial := by
  unfold leave
  split
  · rfl
  · exact withdraw_nextSerial

theorem leaveAll_peek? (order : List Peer) (r : Registry) (p : Peer) :
    (r.leaveAll order).sessions.peek? p = if p ∈ order then none else r.sessions.peek? p := by
  induction order generalizing r with
  | nil => simp [leaveAll]
  | cons source rest ih =>
    refine (ih (r.leave source).1).trans ?_
    rw [(r.leave_settled 0 source).peek?]
    by_cases same : p = source <;> by_cases member : p ∈ rest <;> simp [same, member]

theorem leaveAll_matches (sound : r.Sound) {order : List Peer}
    (all : ∀ p s, r.sessions.peek? p = some s → p ∈ order) :
    Matches r.emptied (r.leaveAll order) := by
  have left : (r.leaveAll order).Sound ∧ Evolves r (r.leaveAll order) ∧
      (r.leaveAll order).nextSerial = r.nextSerial :=
    List.foldlRecOn (motive := fun u => u.Sound ∧ Evolves r u ∧ u.nextSerial = r.nextSerial) order
      (fun r source => (r.leave source).1) ⟨sound, .refl r, rfl⟩
      fun u ⟨sound, evolved, nextSerial⟩ source _ => ⟨leave_sound sound source,
        evolved.trans (leave_evolves source), (u.leave_nextSerial source).trans nextSerial⟩
  obtain ⟨sound', evolved, nextSerial⟩ := left
  refine matches_emptied sound' (fun p => ?_) evolved nextSerial
  rw [leaveAll_peek?]
  split
  · rfl
  · rename_i missing
    exact Option.eq_none_iff_forall_ne_some.2 fun s recorded => missing (all p s recorded)

/-- What clearing a registry does to it. -/
structure Dissolved (r : Registry) : Prop where
  count : r.clear.2 = r.sessions.size
  cleared : Matches r.emptied r.clear.1
  /-- It does not matter in which order the sessions are withdrawn. -/
  drained : ∀ order, order.Perm r.sessions.toList → Matches (r.drain order) r.clear.1
  /-- The tables are those after every source has left, in whatever order. -/
  left : ∀ order, (∀ p s, r.sessions.peek? p = some s → p ∈ order) →
    Matches (r.leaveAll order) r.clear.1

theorem Sound.dissolved (sound : r.Sound) : r.Dissolved where
  count := List.length_map ..
  cleared := clear_matches sound
  drained _ all := (drain_matches sound all).symm.trans (clear_matches sound)
  left _ all := (leaveAll_matches sound all).symm.trans (clear_matches sound)

/-- Whatever has been done to a registry, clearing it is as good as if everybody left. -/
theorem run_dissolved (secret : String) (first last : Ipv4) (idle start : Nat)
    (events : List Event) :
    Dissolved (run ⟨create secret (.between first last) idle, start⟩ events).state :=
  (run_sound (create_sound secret first last idle) events).dissolved

end Concentrator.Registry
