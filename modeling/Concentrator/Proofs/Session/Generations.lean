import Concentrator.Proofs.Session.Announcements

/-!
# Generations of leases

A generation is given to one snapshot of one address and never again, so that
two snapshots of one generation are the same, whenever they were taken. An
address that is leased at two moments is shown under two generations exactly if
other sessions were behind it at some moment in between.
-/

namespace Concentrator.Registry

/-- The sessions behind an address in the order in which they joined, if it is leased. -/
def behind (a : Ipv4) (r : Registry) : Option (List (Nat × Peer)) :=
  (r.leaseAt? a).map Lease.members

structure Stamped (r : Registry) : Prop where
  issued : ∀ a l, r.leases.find? a = some l → l.generation ≤ r.generation
  distinct : ∀ a a' l l', r.leases.find? a = some l → r.leases.find? a' = some l' →
    l.generation = l'.generation → a = a'
  spent : r.generation ≤ r.changes.length

variable {r r' : Registry} {s : Clocked Registry} {a a' : Ipv4} {l l' : Lease} {peer : Peer}
  {present gone : List Seat} {new : Option Seat}

theorem behind_congr (same : r'.leases.find? a = r.leases.find? a) : r'.behind a = r.behind a :=
  congrArg (Option.map Lease.members) same

theorem create_stamped (secret : String) (pool : Pool) (idle : Nat) :
    (create secret pool idle).Stamped := by
  constructor <;> simp [create]

/-! ### Snapshots -/

/-- A lease whose generation was given out before has not changed since. -/
theorem Evolves.recalls (evolved : Evolves r r') (leased : r'.leases.find? a = some l)
    (old : l.generation ≤ r.generation) : r.leases.find? a = some l := by
  obtain ⟨changes, _, -, -, accounts⟩ := evolved.accounts
  have unnamed : ¬Named changes a := fun named =>
    Nat.not_le.2 (accounts.renewed a l named leased).1 old
  rw [← accounts.unnamed unnamed]
  exact leased

theorem Evolves.grows (evolved : Evolves r r') : r.generation ≤ r'.generation := by
  obtain ⟨_, _, -, -, accounts⟩ := evolved.accounts
  exact accounts.stamps.1

theorem Evolves.stamped (evolved : Evolves r r') (stamped : r.Stamped) : r'.Stamped := by
  obtain ⟨changes, _, journal, -, accounts⟩ := evolved.accounts
  have issued : ∀ a l, r'.leases.find? a = some l → l.generation ≤ r'.generation := by
    intro a l leased
    by_cases old : l.generation ≤ r.generation
    · exact Nat.le_trans old evolved.grows
    · by_cases named : Named changes a
      · exact (accounts.renewed a l named leased).2
      · rw [accounts.unnamed named] at leased
        exact absurd (stamped.issued a l leased) old
  -- a lease under a new generation has been named
  have named : ∀ a l, r'.leases.find? a = some l → ¬l.generation ≤ r.generation →
      Named changes a := by
    intro a l leased recent
    by_contra unnamed
    rw [accounts.unnamed unnamed] at leased
    exact recent (stamped.issued a l leased)
  refine ⟨issued, fun a a' l l' leased leased' same => ?_, ?_⟩
  · by_cases old : l.generation ≤ r.generation
    · have old' : l'.generation ≤ r.generation := same ▸ old
      exact stamped.distinct a a' l l' (evolved.recalls leased old) (evolved.recalls leased' old')
        same
    · have recent' : ¬l'.generation ≤ r.generation := same ▸ old
      exact accounts.distinct a a' l l' (named a l leased old) (named a' l' leased' recent')
        leased leased' same
  · have spent := stamped.spent
    have bounded := accounts.stamps.2
    rw [journal, List.length_append]
    omega

theorem Evolves.same_snapshot (evolved : Evolves r r') (stamped : r.Stamped)
    (leased : r.leases.find? a = some l) (leased' : r'.leases.find? a' = some l')
    (same : l.generation = l'.generation) : a = a' ∧ l = l' := by
  have old : l'.generation ≤ r.generation := same ▸ stamped.issued a l leased
  have before := evolved.recalls leased' old
  obtain rfl := stamped.distinct a a' l l' leased before same
  rw [leased] at before
  exact ⟨rfl, Option.some.inj before⟩

/-! ### Members -/

theorem mem_behind_iff (sound : r.Sound) {serial : Nat} :
    (∃ members, r.behind a = some members ∧ (serial, peer) ∈ members) ↔
      ∃ session, r.sessions.peek? peer = some session ∧ session.serial = serial ∧
        session.address = a := by
  constructor
  · rintro ⟨members, leased, member⟩
    obtain ⟨l, found, rfl⟩ := Option.map_eq_some_iff.1 leased
    exact ((sound.fits a l found).members_iff serial peer).1 member
  · rintro ⟨session, recorded, rfl, rfl⟩
    obtain ⟨l, leased⟩ := sound.leased peer session recorded
    refine ⟨l.members, congrArg (Option.map Lease.members) leased, ?_⟩
    exact ((sound.fits _ l leased).members_iff _ peer).2 ⟨session, recorded, rfl, rfl⟩

theorem named_news_iff :
    Named (news present gone new) a ↔ ∃ seat ∈ gone ++ new.toList, seat.2.address = a := by
  have total := count_members present gone new a
  have some_seat : 0 < (gone ++ new.toList).countP (·.2.address = a) ↔
      ∃ seat ∈ gone ++ new.toList, seat.2.address = a := by
    simp only [List.countP_pos_iff, decide_eq_true_eq]
  rw [Named, ← List.count_pos_iff, ← List.count_pos_iff, ← some_seat]
  omega

/-- Its serial number tells a session from all others that its peer has had. -/
theorem Told.same_session (told : Told r r' gone new) (sound : r.Sound)
    (numbered : ∀ seat, new = some seat → seat.2.serial = r.nextSerial) {before after : Session}
    (recorded : r.sessions.peek? peer = some before)
    (recorded' : r'.sessions.peek? peer = some after) (same : before.serial = after.serial) :
    before = after := by
  by_contra other
  have fresh : new = some (peer, after) := (told.new_iff peer after).2
    ⟨recorded', fun old => other (Option.some.inj (recorded.symm.trans old))⟩
  have issued := sound.numbered.issued peer before recorded
  rw [same, numbered _ fresh] at issued
  exact Nat.lt_irrefl _ issued

/-- Whoever comes or goes is seen in the members. -/
theorem Told.behind_ne (told : Told r r' gone new) (sound : r.Sound) (sound' : r'.Sound)
    (numbered : ∀ seat, new = some seat → seat.2.serial = r.nextSerial)
    (moved : ∃ seat ∈ gone ++ new.toList, seat.2.address = a) : r'.behind a ≠ r.behind a := by
  intro still
  obtain ⟨⟨peer, session⟩, member, rfl⟩ := moved
  rcases List.mem_append.1 member with left | came
  · obtain ⟨recorded, ended⟩ := (told.gone_iff peer session).1 left
    have inside := (mem_behind_iff sound).2 ⟨session, recorded, rfl, rfl⟩
    rw [← still] at inside
    obtain ⟨after, recorded', same, -⟩ := (mem_behind_iff sound').1 inside
    rw [told.same_session sound numbered recorded recorded' same.symm] at ended
    exact ended recorded'
  · obtain ⟨recorded', fresh⟩ := (told.new_iff peer session).1 (Option.mem_toList.1 came)
    have inside := (mem_behind_iff sound').2 ⟨session, recorded', rfl, rfl⟩
    rw [still] at inside
    obtain ⟨before, recorded, same, -⟩ := (mem_behind_iff sound).1 inside
    rw [told.same_session sound numbered recorded recorded' same] at recorded
    exact fresh recorded

/-- An operation writes down each address whose members it changes, and no other one. -/
theorem step_behind (sound : s.state.Sound) (e : Event) :
    ∃ changes, (step s e).state.changes = s.state.changes ++ changes ∧ ∀ a,
      (¬Named changes a → (step s e).state.leases.find? a = s.state.leases.find? a) ∧
        (Named changes a ↔ (step s e).state.behind a ≠ s.state.behind a) := by
  obtain ⟨gone, new, told, came⟩ := step_told sound e
  obtain ⟨changes, _, journal, -, accounts⟩ := (step_evolves s e).accounts
  have changes_eq : changes = news s.state.sessions.toList gone new :=
    List.append_cancel_left (journal.symm.trans told.changes)
  refine ⟨changes, journal, fun a => ⟨accounts.unnamed, fun named => ?_, fun moved => ?_⟩⟩
  · rw [changes_eq] at named
    exact told.behind_ne sound (step_sound sound e) (fun seat new => (came seat new).1)
      (named_news_iff.1 named)
  · by_contra unnamed
    exact moved (behind_congr (accounts.unnamed unnamed))

theorem step_steady (sound : s.state.Sound) {e : Event}
    (steady : (step s e).state.behind a = s.state.behind a) :
    (step s e).state.leases.find? a = s.state.leases.find? a := by
  obtain ⟨_, -, all⟩ := step_behind sound e
  obtain ⟨kept, named_iff⟩ := all a
  exact kept fun named => named_iff.1 named steady

/-- As long as the same sessions are behind an address its lease does not change. -/
theorem run_steady (sound : s.state.Sound) {events : List Event}
    (steady : ∀ past, past <+: events → (run s past).state.behind a = s.state.behind a) :
    (run s events).state.leases.find? a = s.state.leases.find? a := by
  induction events generalizing s with
  | nil => rfl
  | cons e rest ih =>
    have first : (step s e).state.behind a = s.state.behind a := steady [e] ⟨rest, rfl⟩
    refine (ih (step_sound sound e) fun past inside => ?_).trans (step_steady sound first)
    exact (steady (e :: past) ((List.prefix_cons_inj e).2 inside)).trans first.symm

theorem run_generation_ne_iff (sound : s.state.Sound) (stamped : s.state.Stamped)
    {events : List Event} (leased : s.state.leases.find? a = some l)
    (leased' : (run s events).state.leases.find? a = some l') :
    l.generation ≠ l'.generation ↔
      ∃ past, past <+: events ∧ (run s past).state.behind a ≠ s.state.behind a := by
  constructor
  · intro other
    by_contra never
    have steady : ∀ past, past <+: events →
        (run s past).state.behind a = s.state.behind a := fun past inside =>
      Decidable.not_not.1 fun moved => never ⟨past, inside, moved⟩
    have same := (run_steady sound steady).symm.trans leased'
    rw [leased] at same
    exact other (congrArg Lease.generation (Option.some.inj same))
  · rintro ⟨past, ⟨future, rfl⟩, moved⟩ same
    have begun := run_evolves s past
    have ended := run_evolves (run s past) future
    have whole : run s (past ++ future) = run (run s past) future := List.foldl_append
    rw [whole] at leased'
    obtain ⟨-, rfl⟩ := (begun.trans ended).same_snapshot stamped leased leased' same
    -- the generation was known at the beginning, and so it is at the moment in question
    have known := Nat.le_trans (stamped.issued a l leased) begun.grows
    exact moved (behind_congr ((ended.recalls leased' known).trans leased.symm))

/-! ### How many numbers are given out -/

def asks : Event → Bool
  | .join .. => true
  | _ => false

theorem join_nextSerial (now : Nat) (source : Peer) (request : JoinRequest)
    (offer : Ipv4 → Bool) (r : Registry) :
    (r.join now source request offer).1.nextSerial ≤ r.nextSerial + 1 := by
  have vacated : (r.vacate source request.group).nextSerial = r.nextSerial := by
    cases present : r.sessions.peek? source with
    | none => rw [vacate_of_absent present]
    | some previous =>
      rw [vacate_of_present present]
      exact withdraw_nextSerial
  rcases r.join_cases now source request offer with
    ⟨-, result⟩ | ⟨-, session, -, -, result⟩ | ⟨-, -, result⟩ <;> rw [result]
  · exact Nat.le_succ _
  · exact Nat.le_succ _
  · rcases (r.vacate source request.group).admitNew_cases now source request.group offer with
      ⟨-, result⟩ | ⟨address, -, -, result⟩ | ⟨address, -, -, result⟩ <;> rw [result]
    · exact Nat.le_succ_of_le vacated.le
    · exact Nat.le_succ_of_le vacated.le
    · simp only [record, enlist, setMembers, changed, note, lease_nextSerial, vacated, le_refl]

theorem step_nextSerial (s : Clocked Registry) (e : Event) :
    (step s e).state.nextSerial ≤ s.state.nextSerial + (asks e).toNat := by
  cases e with
  | join source request offer => exact join_nextSerial s.now source request offer s.state
  | leave source =>
    simp only [step, leave]
    split
    · exact Nat.le_refl _
    · exact withdraw_nextSerial.le
  | lookup source =>
    exact IdleMap.Owner.lookup_preserves
      (P := fun r : Registry => r.nextSerial ≤ s.state.nextSerial)
      id (fun _ _ same => withdraw_nextSerial.trans_le same) (Nat.le_refl _)
  | sweep =>
    exact IdleMap.Owner.sweep_preserves
      (P := fun r : Registry => r.nextSerial ≤ s.state.nextSerial)
      (fun _ _ _ _ same => withdraw_nextSerial.trans_le same) (Nat.le_refl _)
  | clear =>
    have drained := drain_nextSerial s.state.sessions.toList s.state
    simp only [step, clear]
    split
    · exact drained.le
    · exact drained.le
  | advance milliseconds => exact Nat.le_refl _

theorem length_farewells (present gone : List Seat) :
    (farewells present gone).length = gone.length := by
  induction gone generalizing present with
  | nil => rfl
  | cons leaver rest ih => rw [farewells, List.length_cons, List.length_cons, ih]

/-- Whoever goes was there before, and whoever comes is there afterwards. -/
theorem Told.perm (told : Told r r' gone new) :
    (r'.sessions.toList ++ gone).Perm (r.sessions.toList ++ new.toList) := by
  have before : r.sessions.toList.Nodup := .of_map _ r.sessions.nodup_toList
  have after : r'.sessions.toList.Nodup := .of_map _ r'.sessions.nodup_toList
  have left : ∀ seat ∈ r'.sessions.toList, seat ∉ gone := by
    rintro ⟨peer, s⟩ there member
    exact ((told.gone_iff peer s).1 member).2 (IdleMap.mem_toList_iff.1 there)
  have came : ∀ seat ∈ r.sessions.toList, seat ∉ new.toList := by
    rintro ⟨peer, s⟩ there member
    exact ((told.new_iff peer s).1 (Option.mem_toList.1 member)).2 (IdleMap.mem_toList_iff.1 there)
  have single : new.toList.Nodup := by cases new <;> simp
  refine (List.perm_ext_iff_of_nodup (after.append told.nodup left)
    (before.append single came)).2 fun seat => ?_
  rw [List.mem_append, List.mem_append, told.mem_iff, List.mem_filter, Option.mem_toList]
  by_cases member : seat ∈ gone
  · simp [member, told.inside seat member]
  · simp [member]

/-- Each session is announced when it comes and when it goes. -/
theorem step_changes_le (sound : s.state.Sound) (e : Event) :
    (step s e).state.changes.length + (step s e).state.sessions.toList.length ≤
      s.state.changes.length + s.state.sessions.toList.length + 2 * (asks e).toNat := by
  obtain ⟨gone, new, told, came⟩ := step_told sound e
  have balance := told.perm.length_eq
  rw [List.length_append, List.length_append] at balance
  have announced : new.toList.length ≤ (asks e).toNat := by
    cases new with
    | none => exact Nat.zero_le _
    | some seat =>
      obtain ⟨-, request, offer, rfl⟩ := came seat rfl
      exact Nat.le_refl _
  rw [told.changes, news, List.length_append, List.length_append, length_farewells]
  have one : (new.map fun seat => Change.members seat.2.address).toList.length =
      new.toList.length := by cases new <;> rfl
  omega

/-- Serial numbers and generations are spent only on those who ask to join, so that none of them
needs more than 64 bits as long as fewer than 2 ^ 63 have asked. -/
theorem run_numbers_le (secret : String) (first last : Ipv4) (idle : Nat) (events : List Event) :
    let r := (run ⟨create secret (.between first last) idle, 0⟩ events).state
    r.nextSerial ≤ events.countP asks + 1 ∧ r.generation ≤ 2 * events.countP asks := by
  suffices all : ∀ s : Clocked Registry, s.state.Sound →
      (run s events).state.nextSerial ≤ s.state.nextSerial + events.countP asks ∧
        (run s events).state.changes.length ≤
          s.state.changes.length + s.state.sessions.toList.length + 2 * events.countP asks by
    obtain ⟨serials, changes⟩ := all ⟨create secret (.between first last) idle, 0⟩
      (create_sound secret first last idle)
    have stamped := (run_evolves ⟨create secret (.between first last) idle, 0⟩ events).stamped
      (create_stamped secret _ idle)
    refine ⟨by rwa [Nat.add_comm], Nat.le_trans stamped.spent ?_⟩
    rwa [← Nat.zero_add (2 * _)]
  induction events with
  | nil => exact fun s _ => ⟨Nat.le_refl _, Nat.le_add_right _ _⟩
  | cons e rest ih =>
    intro s sound
    obtain ⟨serials, changes⟩ := ih (step s e) (step_sound sound e)
    have serial := step_nextSerial s e
    have change := step_changes_le sound e
    have count : (e :: rest).countP asks = rest.countP asks + (asks e).toNat := by
      rw [List.countP_cons]
      cases asks e <;> rfl
    have whole : run s (e :: rest) = run (step s e) rest := rfl
    rw [count, whole]
    omega

end Concentrator.Registry
