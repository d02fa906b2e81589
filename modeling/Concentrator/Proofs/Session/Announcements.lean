import Concentrator.Proofs.Session.Coherence
import Mathlib.Data.Finset.Basic
import Mathlib.Data.List.Count

/-!
# What is announced of leases

The changes that a registry records are announced to whoever keeps account of its
leases. `Told` says which ones an operation announces, from nothing but the
sessions before and after it: one for each session that has gone and one for the
session that has come. `run_announced` draws the conclusions for any sequence of
operations.
-/

namespace Concentrator

/-- A session and the peer that it is of. -/
abbrev Seat := Peer × Session

namespace Registry

/-! ### Announcements -/

/-- What an observer takes to be leased after a change. -/
def hold (held : Finset Ipv4) : Change → Finset Ipv4
  | .members address => insert address held
  | .released address => held.erase address

/-- What an observer who has heard these changes takes to be leased. -/
def observed (changes : List Change) : Finset Ipv4 := changes.foldl hold ∅

/-- What is announced when a session leaves an address and the `others` stay. -/
def farewell (others : List Seat) (address : Ipv4) : Change :=
  if ∃ other ∈ others, other.2.address = address then .members address else .released address

/-- What is announced when some of those who are `present` leave in turn. -/
def farewells (present : List Seat) : List Seat → List Change
  | [] => []
  | leaver :: rest =>
    let others := present.filter (· ≠ leaver)
    farewell others leaver.2.address :: farewells others rest

/-- What is announced when some of those who are `present` have gone and a new one has come. -/
def news (present gone : List Seat) (new : Option Seat) : List Change :=
  farewells present gone ++ (new.map fun seat => Change.members seat.2.address).toList

/-- Whether one of those who are present has the address, as a number. -/
def occupancy (present : List Seat) (address : Ipv4) : Nat :=
  if ∃ seat ∈ present, seat.2.address = address then 1 else 0

variable {present others gone : List Seat} {leaver : Seat} {a : Ipv4}

theorem farewells_concat (present gone : List Seat) (leaver : Seat) :
    farewells present (gone ++ [leaver]) = farewells present gone ++
      [farewell (present.filter (· ∉ gone ++ [leaver])) leaver.2.address] := by
  induction gone generalizing present with
  | nil => simp [farewells]
  | cons first rest ih =>
    rw [List.cons_append, farewells, ih]
    simp [farewells, List.filter_filter, Bool.and_comm]

theorem shared_iff (inside : leaver ∈ present) (a : Ipv4) :
    (∃ seat ∈ present, seat.2.address = a) ↔ leaver.2.address = a ∨
      ∃ seat ∈ present.filter (· ≠ leaver), seat.2.address = a := by
  constructor
  · rintro ⟨seat, member, here⟩
    by_cases same : seat = leaver
    · exact .inl (same ▸ here)
    · exact .inr ⟨seat, List.mem_filter.2 ⟨member, by simpa using same⟩, here⟩
  · rintro (here | ⟨seat, member, here⟩)
    · exact ⟨leaver, inside, here⟩
    · exact ⟨seat, (List.mem_filter.1 member).1, here⟩

theorem hold_farewell {held : Finset Ipv4}
    (known : ∀ a, a ∈ held ↔ ∃ seat ∈ present, seat.2.address = a) (inside : leaver ∈ present) :
    ∀ a, a ∈ hold held (farewell (present.filter (· ≠ leaver)) leaver.2.address) ↔
      ∃ seat ∈ present.filter (· ≠ leaver), seat.2.address = a := by
  intro a
  unfold farewell
  split
  · rename_i shared
    rw [hold, Finset.mem_insert, known, shared_iff inside]
    constructor
    · rintro (rfl | rfl | stays)
      · exact shared
      · exact shared
      · exact stays
    · exact fun stays => .inr (.inr stays)
  · rename_i last
    rw [hold, Finset.mem_erase, known, shared_iff inside]
    constructor
    · rintro ⟨elsewhere, rfl | stays⟩
      · exact absurd rfl elsewhere
      · exact stays
    · intro stays
      refine ⟨?_, .inr stays⟩
      rintro rfl
      exact last stays

theorem farewell_eq_released_iff {address : Ipv4} : farewell others address = .released a ↔
    address = a ∧ ¬∃ other ∈ others, other.2.address = a := by
  unfold farewell
  split
  · rename_i shared
    refine iff_of_false (by simp) ?_
    rintro ⟨rfl, last⟩
    exact last shared
  · rename_i last
    rw [Change.released.injEq]
    constructor
    · rintro rfl
      exact ⟨rfl, last⟩
    · exact And.left

/-- A farewell releases the address that it takes out of use. -/
theorem count_farewell (inside : leaver ∈ present) (a : Ipv4) :
    [farewell (present.filter (· ≠ leaver)) leaver.2.address].count (.released a) +
      occupancy (present.filter (· ≠ leaver)) a = occupancy present a := by
  rw [List.count_singleton]
  simp only [beq_iff_eq, farewell_eq_released_iff, occupancy, shared_iff inside a]
  by_cases shared : ∃ seat ∈ present.filter (· ≠ leaver), seat.2.address = a
  · rw [if_pos shared, if_neg fun released => released.2 shared, if_pos (.inr shared)]
  · rw [if_neg shared]
    simp only [shared, not_false_eq_true, and_true, or_false, Nat.add_zero]

theorem gone_cons {rest : List Seat} (inside : ∀ seat ∈ leaver :: rest, seat ∈ present)
    (nodup : (leaver :: rest).Nodup) :
    (∀ seat ∈ rest, seat ∈ present.filter (· ≠ leaver)) ∧
      (present.filter (· ≠ leaver)).filter (· ∉ rest) = present.filter (· ∉ leaver :: rest) := by
  constructor
  · intro seat member
    have other : seat ≠ leaver := fun same => (List.nodup_cons.1 nodup).1 (same ▸ member)
    exact List.mem_filter.2 ⟨inside seat (List.mem_cons_of_mem _ member), by simpa using other⟩
  · simp [List.filter_filter, Bool.and_comm]

theorem hold_farewells {held : Finset Ipv4} (inside : ∀ seat ∈ gone, seat ∈ present)
    (nodup : gone.Nodup) (known : ∀ a, a ∈ held ↔ ∃ seat ∈ present, seat.2.address = a) :
    ∀ a, a ∈ (farewells present gone).foldl hold held ↔
      ∃ seat ∈ present.filter (· ∉ gone), seat.2.address = a := by
  -- whoever leaves next is one of those whom the leavers before have left behind
  induction gone generalizing present held with
  | nil => simpa [farewells] using known
  | cons leaver rest ih =>
    obtain ⟨staying, left⟩ := gone_cons inside nodup
    rw [farewells, List.foldl_cons, ← left]
    exact ih staying (List.nodup_cons.1 nodup).2
      (hold_farewell known (inside leaver List.mem_cons_self))

theorem count_farewells (inside : ∀ seat ∈ gone, seat ∈ present) (nodup : gone.Nodup) (a : Ipv4) :
    (farewells present gone).count (.released a) + occupancy (present.filter (· ∉ gone)) a =
      occupancy present a := by
  induction gone generalizing present with
  | nil => simp [farewells]
  | cons leaver rest ih =>
    obtain ⟨staying, left⟩ := gone_cons inside nodup
    have now := count_farewell (inside leaver List.mem_cons_self) a
    have later := ih staying (List.nodup_cons.1 nodup).2
    rw [left] at later
    rw [farewells, ← List.singleton_append, List.count_append]
    omega

theorem count_farewells_members (present gone : List Seat) (a : Ipv4) :
    (farewells present gone).count (.members a) + (farewells present gone).count (.released a) =
      gone.countP (·.2.address = a) := by
  induction gone generalizing present with
  | nil => rfl
  | cons leaver rest ih =>
    have later := ih (present.filter (· ≠ leaver))
    have now : ∀ others, [farewell others leaver.2.address].count (.members a) +
        [farewell others leaver.2.address].count (.released a) =
          if leaver.2.address = a then 1 else 0 := by
      intro others
      unfold farewell
      split <;> simp [List.count_singleton]
    have here := now (present.filter (· ≠ leaver))
    rw [farewells, ← List.singleton_append, List.count_append, List.count_append, List.countP_cons]
    simp only [decide_eq_true_eq]
    omega

/-- A lease has ended if nobody who had its address is there any more, even if a new one has it. -/
def Ended (present gone : List Seat) (a : Ipv4) : Prop :=
  (∃ seat ∈ present, seat.2.address = a) ∧ ∀ seat ∈ present, seat.2.address = a → seat ∈ gone

variable {new : Option Seat}

/-- The address of a lease that has ended is released once, and no other one. -/
theorem count_released (inside : ∀ seat ∈ gone, seat ∈ present) (nodup : gone.Nodup) (a : Ipv4) :
    (Ended present gone a → (news present gone new).count (.released a) = 1) ∧
      (¬Ended present gone a → (news present gone new).count (.released a) = 0) := by
  have total := count_farewells inside nodup a
  have same : (news present gone new).count (.released a) =
      (farewells present gone).count (.released a) := by
    rw [news, List.count_append, Nat.add_eq_left]
    cases new <;> simp
  rw [same]
  constructor
  · rintro ⟨used, left⟩
    rw [occupancy, occupancy, if_pos used, if_neg] at total
    · exact total
    · rintro ⟨seat, stays, here⟩
      obtain ⟨there, still⟩ := List.mem_filter.1 stays
      exact of_decide_eq_true still (left seat there here)
  · intro stays
    by_cases used : ∃ seat ∈ present, seat.2.address = a
    · have manned : ∃ seat ∈ present.filter (· ∉ gone), seat.2.address = a := by
        by_contra none
        refine stays ⟨used, fun seat there here => ?_⟩
        exact Decidable.not_not.1 fun still =>
          none ⟨seat, List.mem_filter.2 ⟨there, decide_eq_true still⟩, here⟩
      rw [occupancy, occupancy, if_pos used, if_pos manned] at total
      omega
    · rw [occupancy, occupancy, if_neg used] at total
      omega

/-- Each who leaves an address and the one who comes to it are announced: whoever leaves last by
its release, and the others by a change of its members. -/
theorem count_members (present gone : List Seat) (new : Option Seat) (a : Ipv4) :
    (news present gone new).count (.members a) + (news present gone new).count (.released a) =
      (gone ++ new.toList).countP (·.2.address = a) := by
  have leavers := count_farewells_members present gone a
  rw [news, List.count_append, List.count_append, List.countP_append]
  cases new with
  | none => simpa using leavers
  | some seat =>
    by_cases here : seat.2.address = a <;> simp [here] <;> omega

/-! ### What operations announce -/

variable {roster : Roster} {r r' r'' : Registry} {source peer : Peer} {session s : Session}
  {address : Ipv4} {group : String} {now : Nat}

theorem withdraw_changes (tally : Tally roster r) (present : roster source = some session)
    (listed : ∀ peer s, (peer, s) ∈ others ↔ Function.update roster source none peer = some s) :
    (r.withdraw session).changes = r.changes ++ [farewell others session.address] := by
  obtain ⟨lease, found, which⟩ := withdraw_cases tally present
  have stay := mem_rest_iff tally present found
  rcases which with ⟨alone, result⟩ | ⟨manned, result⟩ <;> rw [result, farewell]
  · rw [if_neg]
    · rfl
    · rintro ⟨⟨peer, s⟩, member, here⟩
      have left := (stay s.serial peer).2 ⟨s, (listed peer s).1 member, rfl, here⟩
      rw [alone] at left
      cases left
  · rw [if_pos]
    · rfl
    · obtain ⟨⟨serial, peer⟩, left⟩ := List.exists_mem_of_ne_nil _ manned
      obtain ⟨s, recorded, -, here⟩ := (stay serial peer).1 left
      exact ⟨(peer, s), (listed peer s).2 recorded, here⟩

/-- Sessions have gone, and each of them was announced when it went. -/
structure Parted (r r' : Registry) (gone : List Seat) : Prop where
  nodup : gone.Nodup
  recorded : ∀ peer s, (peer, s) ∈ gone → r.sessions.peek? peer = some s
  stay : ∀ peer s, r'.sessions.peek? peer = some s ↔
    r.sessions.peek? peer = some s ∧ (peer, s) ∉ gone
  changes : r'.changes = r.changes ++ farewells r.sessions.toList gone
  nextSerial : r'.nextSerial = r.nextSerial

/-- What an operation announces of the sessions that have `gone` and of the `new` one. -/
structure Told (r r' : Registry) (gone : List Seat) (new : Option Seat) : Prop where
  nodup : gone.Nodup
  gone_iff : ∀ peer s, (peer, s) ∈ gone ↔
    r.sessions.peek? peer = some s ∧ r'.sessions.peek? peer ≠ some s
  new_iff : ∀ peer s, new = some (peer, s) ↔
    r'.sessions.peek? peer = some s ∧ r.sessions.peek? peer ≠ some s
  changes : r'.changes = r.changes ++ news r.sessions.toList gone new

theorem Parted.refl (r : Registry) : Parted r r [] :=
  ⟨.nil, by simp, by simp, by simp [farewells], rfl⟩

/-- Clocks and notices are announced to nobody. -/
theorem Parted.congr (parted : Parted r r' gone)
    (sessions : r''.sessions.peek? = r'.sessions.peek?) (changes : r''.changes = r'.changes)
    (nextSerial : r''.nextSerial = r'.nextSerial) : Parted r r'' gone where
  nodup := parted.nodup
  recorded := parted.recorded
  stay := sessions ▸ parted.stay
  changes := changes.trans parted.changes
  nextSerial := nextSerial.trans parted.nextSerial

theorem Parted.drop (parted : Parted r r' gone) (sound : r'.Sound)
    (present : r'.sessions.peek? source = some session) (notices : List Notice) :
    Parted r (withdraw session
        { r' with sessions := r'.sessions.remove source, notices := notices })
      (gone ++ [(source, session)]) := by
  obtain ⟨before, stays⟩ := (parted.stay source session).1 present
  -- who stays when the list of leavers grows is who stays in the registry
  have listed : ∀ peer s,
      (peer, s) ∈ r.sessions.toList.filter (· ∉ gone ++ [(source, session)]) ↔
        Function.update r'.sessions.peek? source none peer = some s := by
    intro peer s
    rw [List.mem_filter, IdleMap.mem_toList_iff]
    by_cases same : peer = source
    · subst same
      rw [Function.update_self]
      simp only [List.mem_append, List.mem_singleton, Prod.mk.injEq, true_and, not_or,
        decide_eq_true_eq, reduceCtorEq, iff_false]
      rintro ⟨recorded, -, other⟩
      exact other (Option.some.inj (recorded.symm.trans before))
    · rw [Function.update_of_ne same, parted.stay]
      simp [same]
  constructor
  · exact List.nodup_append.2 ⟨parted.nodup, List.nodup_singleton _, by
      rintro x member y last rfl
      exact stays (List.mem_singleton.1 last ▸ member)⟩
  · intro peer s member
    rcases List.mem_append.1 member with earlier | last
    · exact parted.recorded peer s earlier
    · obtain ⟨rfl, rfl⟩ := Prod.mk.inj (List.mem_singleton.1 last)
      exact before
  · intro peer s
    rw [withdraw_sessions, peek?_remove_eq_update, ← listed, List.mem_filter,
      IdleMap.mem_toList_iff, decide_eq_true_eq]
  · rw [withdraw_changes (r := { r' with
      sessions := r'.sessions.remove source, notices := notices })
      (Tally.congr sound rfl rfl rfl rfl) present listed, farewells_concat, ← List.append_assoc,
      ← parted.changes]
  · exact withdraw_nextSerial.trans parted.nextSerial

theorem Parted.told (parted : Parted r r' gone) : Told r r' gone none where
  nodup := parted.nodup
  gone_iff peer s := by
    constructor
    · intro member
      exact ⟨parted.recorded peer s member, fun stays => ((parted.stay peer s).1 stays).2 member⟩
    · rintro ⟨recorded, left⟩
      exact Decidable.not_not.1 fun stays => left ((parted.stay peer s).2 ⟨recorded, stays⟩)
  new_iff peer s := by
    simp only [reduceCtorEq, false_iff]
    rintro ⟨stays, new⟩
    exact new ((parted.stay peer s).1 stays).1
  changes := by simpa [news] using parted.changes

theorem Parted.record (parted : Parted r r' gone) (sound : r.Sound)
    (absent : r'.sessions.peek? source = none) :
    Told r (r'.record now source group address) gone
      (some (source, ⟨r'.nextSerial, group, address⟩)) := by
  have recorded : (r'.record now source group address).sessions.peek? = _ := record_sessions
  -- its number tells it from any session that the source had before
  have fresh : r.sessions.peek? source ≠ some ⟨r'.nextSerial, group, address⟩ := by
    intro old
    have issued := sound.numbered.issued source _ old
    rw [← parted.nextSerial] at issued
    exact Nat.lt_irrefl _ issued
  have told := parted.told
  constructor
  · exact parted.nodup
  · intro peer s
    rw [recorded]
    by_cases same : peer = source
    · subst same
      rw [Function.update_self, told.gone_iff, absent]
      refine and_congr_right fun old => iff_of_true (by simp) fun new => fresh ?_
      rw [old, new]
    · rw [Function.update_of_ne same, told.gone_iff]
  · intro peer s
    rw [recorded]
    by_cases same : peer = source
    · subst same
      simp only [Function.update_self, Option.some.injEq, Prod.mk.injEq, true_and, iff_self_and]
      rintro rfl
      exact fresh
    · rw [Function.update_of_ne same, ← told.new_iff]
      simp [Ne.symm same]
  · simp only [Registry.record, enlist, setMembers, changed, note, lease_changes, parted.changes]
    exact List.append_assoc ..

theorem vacate_parted (sound : r.Sound) (source : Peer) (group : String) :
    ∃ gone, Parted r (r.vacate source group) gone := by
  cases present : r.sessions.peek? source with
  | none =>
    rw [vacate_of_absent present]
    exact ⟨[], .refl r⟩
  | some previous =>
    rw [vacate_of_present present]
    exact ⟨_, (Parted.refl r).drop sound present _⟩

theorem join_told (sound : r.Sound) (now : Nat) (source : Peer) (request : JoinRequest)
    (offer : Ipv4 → Bool) :
    ∃ gone new, Told r (r.join now source request offer).1 gone new ∧
      ∀ seat, new = some seat → seat.1 = source ∧ seat.2.serial = r.nextSerial := by
  rcases r.join_cases now source request offer with
    ⟨-, result⟩ | ⟨-, session, -, -, result⟩ | ⟨-, -, result⟩ <;> rw [result]
  · have parted : Parted r (r.note (.wrongSecret source)) [] := (Parted.refl r).congr rfl rfl rfl
    exact ⟨[], none, parted.told, by simp⟩
  · have refreshed := funext fun peer => IdleMap.peek?_refresh r.sessions now source peer
    have parted : Parted r { r with sessions := r.sessions.refresh now source } [] :=
      (Parted.refl r).congr refreshed rfl rfl
    exact ⟨[], none, parted.told, by simp⟩
  · obtain ⟨gone, parted⟩ := vacate_parted sound source request.group
    obtain ⟨-, absent⟩ := vacate_sound sound source request.group
    rcases (r.vacate source request.group).admitNew_cases now source request.group offer with
      ⟨-, result⟩ | ⟨address, -, -, result⟩ | ⟨address, -, -, result⟩ <;> rw [result]
    · have refused : Parted r ((r.vacate source request.group).note (.addressesExhausted source))
          gone := parted.congr rfl rfl rfl
      exact ⟨gone, none, refused.told, by simp⟩
    · exact ⟨gone, none, parted.told, by simp⟩
    · exact ⟨gone, _, parted.record sound absent, by simp [parted.nextSerial]⟩

theorem leave_told (sound : r.Sound) (source : Peer) :
    ∃ gone, Told r (r.leave source).1 gone none := by
  unfold leave
  cases present : r.sessions.peek? source with
  | none => exact ⟨[], (Parted.refl r).told⟩
  | some session => exact ⟨_, ((Parted.refl r).drop sound present _).told⟩

theorem lookup_told (sound : r.Sound) (now : Nat) (source : Peer) :
    ∃ gone, Told r (r.lookup now source).1 gone none := by
  have parted : ∃ gone, Parted r (r.lookup now source).1 gone :=
    IdleMap.Owner.lookup_preserves (P := fun r' => ∃ gone, Parted r r' gone)
      (fun ⟨gone, parted⟩ =>
        ⟨gone, parted.congr (funext fun peer => IdleMap.peek?_refresh _ _ _ peer) rfl rfl⟩)
      (fun _ present ⟨_, parted⟩ => ⟨_, parted.drop sound present _⟩) ⟨[], .refl r⟩
  obtain ⟨gone, parted⟩ := parted
  exact ⟨gone, parted.told⟩

theorem sweep_told (sound : r.Sound) (now : Nat) : ∃ gone, Told r (r.sweep now).1 gone none := by
  have evicted : ∀ (r' : Registry) source session, r'.sessions.peek? source = some session →
      (r'.Sound ∧ ∃ gone, Parted r r' gone) →
      (owner.evict source session r').Sound ∧
        ∃ gone, Parted r (owner.evict source session r') gone := by
    intro r' source session present ⟨sound, gone, parted⟩
    exact ⟨evict_sound sound present, _, parted.drop sound present _⟩
  have parted : (r.sweep now).1.Sound ∧ ∃ gone, Parted r (r.sweep now).1 gone :=
    IdleMap.Owner.sweep_preserves (P := fun r' => r'.Sound ∧ ∃ gone, Parted r r' gone) evicted
      ⟨sound, [], .refl r⟩
  obtain ⟨-, gone, parted⟩ := parted
  exact ⟨gone, parted.told⟩

theorem withdrawAll_changes {all : List Seat} {roster : Roster} (tally : Tally roster r)
    (keys : (all.map Prod.fst).Nodup) (recorded : ∀ peer s, (peer, s) ∈ all → roster peer = some s)
    (listed : ∀ peer s, (peer, s) ∈ present ↔ roster peer = some s) :
    (all.foldl (fun r (_, session) => r.withdraw session) r).changes =
      r.changes ++ farewells present all := by
  -- the roster shrinks along with the list, and those present along with the roster
  induction all generalizing roster r present with
  | nil => simp [farewells]
  | cons head rest ih =>
    obtain ⟨source, session⟩ := head
    obtain ⟨fresh, keys⟩ := List.nodup_cons.1 keys
    have here := recorded source session List.mem_cons_self
    have others : ∀ peer s, (peer, s) ∈ present.filter (· ≠ (source, session)) ↔
        Function.update roster source none peer = some s := by
      intro peer s
      rw [List.mem_filter, listed]
      by_cases same : peer = source
      · subst same
        simp only [Function.update_self, here, Option.some.injEq, ne_eq, Prod.mk.injEq, true_and,
          decide_eq_true_eq, reduceCtorEq, iff_false, not_and, not_not]
        exact Eq.symm
      · simp [same]
    have later := ih (withdraw_tally tally here) keys
      (fun peer s member => by
        rw [Function.update_of_ne, recorded peer s (List.mem_cons_of_mem _ member)]
        rintro rfl
        exact fresh (List.mem_map.2 ⟨_, member, rfl⟩)) others
    rw [List.foldl_cons, later, withdraw_changes tally here others, farewells, List.append_assoc]
    rfl

theorem clear_withdraws (r : Registry) :
    r.clear.1.sessions = r.sessions.clear ∧
      r.clear.1.changes = (r.drain r.sessions.toList).changes := by
  have sessions := drain_sessions r.sessions.toList r
  unfold clear
  dsimp only
  split
  · exact ⟨sessions, rfl⟩
  · exact ⟨sessions, rfl⟩

theorem clear_told (sound : r.Sound) : Told r r.clear.1 r.sessions.toList none := by
  obtain ⟨sessions, withdrawn⟩ := r.clear_withdraws
  have cleared : ∀ peer, r.clear.1.sessions.peek? peer = none := by
    intro peer
    rw [sessions]
    rfl
  constructor
  · exact .of_map _ r.sessions.nodup_toList
  · intro peer s
    simp [IdleMap.mem_toList_iff, cleared]
  · intro peer s
    simp [cleared]
  · have changes := withdrawAll_changes (r := { r with sessions := r.sessions.clear })
      (Tally.congr sound rfl rfl rfl rfl) r.sessions.nodup_toList
      (fun _ _ => IdleMap.mem_toList_iff.1) fun _ _ => IdleMap.mem_toList_iff
    rw [withdrawn, drain, changes]
    simp [news]

/-- Only a source that asks to join gets a session, and it gets the next serial number. -/
theorem step_told {s : Clocked Registry} (sound : s.state.Sound) (e : Event) :
    ∃ gone new, Told s.state (step s e).state gone new ∧
      ∀ seat, new = some seat → seat.2.serial = s.state.nextSerial ∧
        ∃ request offer, e = .join seat.1 request offer := by
  cases e with
  | join source request offer =>
    obtain ⟨gone, new, told, own⟩ := join_told sound s.now source request offer
    refine ⟨gone, new, told, fun seat came => ?_⟩
    obtain ⟨same, numbered⟩ := own seat came
    exact ⟨numbered, request, offer, by rw [same]⟩
  | leave source =>
    obtain ⟨gone, told⟩ := leave_told sound source
    exact ⟨gone, none, told, by simp⟩
  | lookup source =>
    obtain ⟨gone, told⟩ := lookup_told sound s.now source
    exact ⟨gone, none, told, by simp⟩
  | sweep =>
    obtain ⟨gone, told⟩ := sweep_told sound s.now
    exact ⟨gone, none, told, by simp⟩
  | clear => exact ⟨_, none, clear_told sound, by simp⟩
  | advance milliseconds => exact ⟨[], none, (Parted.refl s.state).told, by simp⟩

/-! ### What an observer makes of it -/

theorem leased_iff (sound : r.Sound) (a : Ipv4) :
    (∃ l, r.leases.find? a = some l) ↔ ∃ seat ∈ r.sessions.toList, seat.2.address = a := by
  rw [sound.leased_iff]
  constructor
  · rintro ⟨source, s, recorded, here⟩
    exact ⟨(source, s), IdleMap.mem_toList_iff.2 recorded, here⟩
  · rintro ⟨⟨source, s⟩, member, here⟩
    exact ⟨source, s, IdleMap.mem_toList_iff.1 member, here⟩

variable {changes : List Change}

theorem Told.inside (told : Told r r' gone new) : ∀ seat ∈ gone, seat ∈ r.sessions.toList := by
  rintro ⟨peer, s⟩ member
  exact IdleMap.mem_toList_iff.2 ((told.gone_iff peer s).1 member).1

theorem Told.mem_iff (told : Told r r' gone new) (seat : Seat) : seat ∈ r'.sessions.toList ↔
    seat ∈ r.sessions.toList.filter (· ∉ gone) ∨ new = some seat := by
  obtain ⟨peer, s⟩ := seat
  rw [List.mem_filter, decide_eq_true_eq, told.gone_iff, told.new_iff, IdleMap.mem_toList_iff,
    IdleMap.mem_toList_iff]
  by_cases before : r.sessions.peek? peer = some s <;> simp [before]

theorem Told.absent (told : Told r r' gone new) (absent : r.sessions.peek? source = none)
    (elsewhere : ∀ seat, new = some seat → seat.1 ≠ source) :
    r'.sessions.peek? source = none := by
  refine Option.eq_none_iff_forall_ne_some.2 fun s recorded => ?_
  refine elsewhere (source, s) ((told.new_iff source s).2 ⟨recorded, ?_⟩) rfl
  simp [absent]

theorem Told.observed (told : Told r r' gone new)
    (known : ∀ a, a ∈ observed r.changes ↔ ∃ seat ∈ r.sessions.toList, seat.2.address = a) :
    ∀ a, a ∈ Registry.observed r'.changes ↔ ∃ seat ∈ r'.sessions.toList, seat.2.address = a := by
  intro a
  have parted := hold_farewells told.inside told.nodup known
  simp only [told.mem_iff]
  rw [told.changes, news, Registry.observed, List.foldl_append, List.foldl_append]
  cases new with
  | none => simpa [Registry.observed] using parted a
  | some seat =>
    have step : a ∈ hold ((farewells r.sessions.toList gone).foldl hold
        (Registry.observed r.changes)) (.members seat.2.address) ↔
          a = seat.2.address ∨
            ∃ seat ∈ r.sessions.toList.filter (· ∉ gone), seat.2.address = a := by
      rw [hold, Finset.mem_insert, parted]
    refine step.trans ⟨?_, ?_⟩
    · rintro (rfl | ⟨other, stays, here⟩)
      · exact ⟨seat, .inr rfl, rfl⟩
      · exact ⟨other, .inl stays, here⟩
    · rintro ⟨other, stays | new, here⟩
      · exact .inr ⟨other, stays, here⟩
      · exact .inl (Option.some.inj new ▸ here.symm)

/-- What an operation makes known. -/
structure Announced (s : Clocked Registry) (e : Event) (gone : List Seat) (new : Option Seat) :
    Prop where
  told : Told s.state (step s e).state gone new
  observed : ∀ a, a ∈ observed (step s e).state.changes ↔
    ∃ l, (step s e).state.leases.find? a = some l
  released : ∀ a, Ended s.state.sessions.toList gone a →
    (news s.state.sessions.toList gone new).count (.released a) = 1
  unreleased : ∀ a, ¬Ended s.state.sessions.toList gone a →
    (news s.state.sessions.toList gone new).count (.released a) = 0
  members : ∀ a, (news s.state.sessions.toList gone new).count (.members a) +
      (news s.state.sessions.toList gone new).count (.released a) =
    (gone ++ new.toList).countP (·.2.address = a)
  /-- Who asks again for the group that it is in goes unnoticed. -/
  repeated : ∀ source request offer session, e = .join source request offer →
    s.state.sessions.live? s.now source = some session → session.group = request.group →
    (step s e).state.changes = s.state.changes
  /-- So does who is turned away and had nothing to lose. -/
  refused : ∀ source request offer, e = .join source request offer →
    s.state.sessions.peek? source = none →
    (s.state.join s.now source request offer).2.admission = none →
    (step s e).state.changes = s.state.changes

theorem join_repeated (live : r.sessions.live? now source = some session) (request : JoinRequest)
    (same : session.group = request.group) (offer : Ipv4 → Bool) :
    (r.join now source request offer).1.changes = r.changes := by
  rcases r.join_cases now source request offer with
    ⟨-, result⟩ | ⟨-, _, -, -, result⟩ | ⟨-, other, -⟩
  · rw [result]
    rfl
  · rw [result]
  · exact absurd same (other session live)

theorem join_refused (absent : r.sessions.peek? source = none) (request : JoinRequest)
    (offer : Ipv4 → Bool) (refused : (r.join now source request offer).2.admission = none) :
    (r.join now source request offer).1.changes = r.changes := by
  rcases join_unadmitted absent refused with same | ⟨_, same⟩ <;> rw [same]
  rfl

theorem step_announced {s : Clocked Registry} (sound : s.state.Sound)
    (known : ∀ a, a ∈ observed s.state.changes ↔ ∃ l, s.state.leases.find? a = some l)
    (e : Event) : ∃ gone new, Announced s e gone new := by
  obtain ⟨gone, new, told, -⟩ := step_told sound e
  refine ⟨gone, new, told, ?_, ?_, ?_, ?_, ?_, ?_⟩
  · intro a
    rw [leased_iff (step_sound sound e)]
    exact told.observed (fun a => (known a).trans (leased_iff sound a)) a
  · exact fun a => (count_released told.inside told.nodup a).1
  · exact fun a => (count_released told.inside told.nodup a).2
  · exact count_members _ gone new
  · rintro source request offer session rfl live same
    exact join_repeated live request same offer
  · rintro source request offer rfl absent refused
    exact join_refused absent request offer refused

theorem run_observed {s : Clocked Registry} (sound : s.state.Sound)
    (known : ∀ a, a ∈ observed s.state.changes ↔ ∃ l, s.state.leases.find? a = some l)
    (events : List Event) : ∀ a, a ∈ observed (run s events).state.changes ↔
      ∃ l, (run s events).state.leases.find? a = some l := by
  induction events generalizing s with
  | nil => exact known
  | cons e rest ih =>
    obtain ⟨_, _, announced⟩ := step_announced sound known e
    exact ih (step_sound sound e) announced.observed

/-- After any sequence of operations, whoever has heard all that is announced knows which addresses
are leased, and the next operation announces every arrival and every departure once. -/
theorem run_announced (secret : String) (first last : Ipv4) (idle : Nat) (events : List Event)
    (e : Event) : ∃ gone new,
      Announced (run ⟨create secret (.between first last) idle, 0⟩ events) e gone new := by
  have sound := create_sound secret first last idle
  apply step_announced (run_sound sound events)
  exact run_observed sound (fun a => by simp [observed, create]) events

end Registry

end Concentrator
