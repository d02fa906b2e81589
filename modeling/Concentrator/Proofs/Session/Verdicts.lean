import Concentrator.Proofs.Session.Lifetime

/-!
# What becomes of a join request

An address is chosen for whoever asks with the right secret, the client is told of it
if possible, and then the source is a member of the group with that address. Whoever
cannot be told is no member, and everything is as before but for a session of the
source itself that had expired or was of another group.
-/

namespace Concentrator.Registry

variable {r : Registry} {source : Peer} {session : Session} {group : String} {address : Ipv4}
  {now : Nat}

/-- The registry once a source that wants to join a group has given up a session that has expired or
is of another group. -/
def relinquish (now : Nat) (source : Peer) (group : String) (r : Registry) : Registry :=
  match r.sessions.live? now source with
  | some session => if session.group = group then r else r.vacate source group
  | none => r.vacate source group

/-- An address that the group has, or the least free one if it has none. -/
def Offers (r : Registry) (group : String) (address : Ipv4) : Prop :=
  r.leaseOf? group = some address ∨ r.leaseOf? group = none ∧ r.pool.Least address

theorem relinquish_of_same (live : r.sessions.live? now source = some session)
    (same : session.group = group) : r.relinquish now source group = r := by
  simp only [relinquish, live, if_pos same]

theorem relinquish_of_other
    (other : ∀ session, r.sessions.live? now source = some session → session.group ≠ group) :
    r.relinquish now source group = r.vacate source group := by
  unfold relinquish
  cases live : r.sessions.live? now source with
  | none => rfl
  | some session => exact if_neg (other session live)

theorem offers_iff (sound : r.Sound) :
    r.Offers group address ↔ r.addressFor? group = some address := by
  constructor
  · rintro (held | ⟨none_held, least⟩)
    · rw [leaseOf?] at held
      simp only [addressFor?, held]
    · rw [leaseOf?] at none_held
      simp only [addressFor?, none_held]
      exact (Pool.nextFree?_eq_some_iff sound.pool).2 least
  · intro chosen
    rcases addressFor?_cases chosen with held | ⟨none_held, free⟩
    · exact .inl held
    · exact .inr ⟨none_held, (Pool.nextFree?_eq_some_iff sound.pool).1 free⟩

theorem Sound.leaseOf?_eq (sound : r.Sound)
    (recorded : r.sessions.peek? source = some session) :
    r.leaseOf? session.group = some session.address := by
  obtain ⟨l, leased⟩ := sound.leased source session recorded
  exact (sound.groups _ _).2
    ⟨l, leased, ((sound.fits _ l leased).group source session recorded rfl).symm⟩

/-! ### Answers -/

variable {offer other : Ipv4 → Bool} {request : JoinRequest} {a : Ipv4} {u : Registry}

/-- The answer to a newcomer: the address that is chosen is offered, and admitted if told. -/
theorem admitNew_answer (r : Registry) (now : Nat) (source : Peer) (group : String)
    (offer : Ipv4 → Bool) :
    let q := r.admitNew now source group offer
    q.2 = ⟨r.addressFor? group, ((r.addressFor? group).filter offer).map (⟨·, true⟩)⟩ ∧
      (q.2.admission = none → ∃ notices, q.1 = { r with notices }) ∧
      ∀ admission, q.2.admission = some admission →
        r.addressFor? group = some admission.address ∧
          q.1 = r.record now source group admission.address := by
  intro q
  rcases r.admitNew_cases now source group offer with
    ⟨chosen, result⟩ | ⟨a, chosen, told, result⟩ | ⟨a, chosen, told, result⟩ <;>
    rw [show q = _ from result, chosen]
  · exact ⟨rfl, fun _ => ⟨_, rfl⟩, by simp⟩
  · exact ⟨by simp [told], fun _ => ⟨r.notices, rfl⟩, by simp⟩
  · refine ⟨by simp [told], by simp, ?_⟩
    rintro admission equal
    rw [← Option.some.inj equal]
    exact ⟨rfl, rfl⟩

/-- Whatever address is chosen is offered, and the source is admitted with it if it can be told. -/
theorem join_answer (r : Registry) (now : Nat) (source : Peer) (request : JoinRequest)
    (offer : Ipv4 → Bool) : ∃ chosen isNew, (r.join now source request offer).2 =
      ⟨chosen, (chosen.filter offer).map (⟨·, isNew⟩)⟩ := by
  rcases r.join_cases now source request offer with
    ⟨-, result⟩ | ⟨-, session, -, -, result⟩ | ⟨-, -, result⟩ <;> rw [result]
  · exact ⟨none, false, rfl⟩
  · refine ⟨some session.address, false, ?_⟩
    cases told : offer session.address <;> simp [told]
  · exact ⟨_, true, (admitNew_answer _ now source request.group offer).1⟩

theorem join_admission_iff :
    (∃ isNew, (r.join now source request offer).2.admission = some ⟨a, isNew⟩) ↔
      (r.join now source request offer).2.offered = some a ∧ offer a = true := by
  obtain ⟨chosen, isNew, answer⟩ := r.join_answer now source request offer
  rw [answer]
  simp only [Option.map_eq_some_iff, Option.filter_eq_some_iff, Admission.mk.injEq]
  constructor
  · rintro ⟨_, _, told, rfl, -⟩
    exact told
  · exact fun told => ⟨isNew, a, told, rfl, rfl⟩

theorem join_offered_iff (sound : r.Sound) :
    (r.join now source request offer).2.offered = some a ↔ request.secret = r.secret ∧
      (r.relinquish now source request.group).Offers request.group a := by
  rcases r.join_cases now source request offer with
    ⟨wrong, result⟩ | ⟨known, session, live, same, result⟩ | ⟨known, other, result⟩ <;> rw [result]
  · simp [wrong]
  · have held := sound.leaseOf?_eq (IdleMap.peek?_of_live? live)
    rw [same, leaseOf?] at held
    simp only [known, true_and, relinquish_of_same live same, offers_iff sound, addressFor?, held]
  · rw [(admitNew_answer _ now source request.group offer).1]
    simp only [known, true_and, relinquish_of_other other,
      offers_iff (vacate_sound sound source request.group).1]

theorem admitNew_congr
    (agree : ∀ a, (r.admitNew now source group offer).2.offered = some a → other a = offer a) :
    r.admitNew now source group other = r.admitNew now source group offer := by
  rw [(r.admitNew_answer now source group offer).1] at agree
  unfold admitNew
  cases chosen : r.addressFor? group with
  | none => rfl
  | some a =>
    dsimp only
    rw [agree a chosen]

/-- What the client could be told of another address than the one offered makes no difference. -/
theorem join_congr
    (agree : ∀ a, (r.join now source request offer).2.offered = some a → other a = offer a) :
    r.join now source request other = r.join now source request offer := by
  unfold join at agree ⊢
  by_cases wrong : request.secret ≠ r.secret
  · rw [if_pos wrong, if_pos wrong]
  rw [if_neg wrong] at agree
  rw [if_neg wrong, if_neg wrong]
  cases present : r.sessions.peek? source with
  | none =>
    rw [present] at agree
    exact admitNew_congr agree
  | some previous =>
    rw [present] at agree
    dsimp only at agree ⊢
    split
    · rename_i member
      rw [if_pos member] at agree
      rw [agree _ rfl]
    · rename_i newcomer
      rw [if_neg newcomer] at agree
      exact admitNew_congr agree

theorem Settled.seated (settled : Settled now source (some session) r u) :
    u.sessions.live? now source = some session :=
  settled.live?_self_iff.2 ⟨rfl, by omega⟩

theorem join_admitted {admission : Admission}
    (told : (r.join now source request offer).2.admission = some admission) :
    request.secret = r.secret ∧
      (r.join now source request offer).2.offered = some admission.address ∧
      offer admission.address = true ∧
      ∃ session, Settled now source (some session) r (r.join now source request offer).1 ∧
        session.group = request.group ∧ session.address = admission.address := by
  obtain ⟨offered, fits⟩ := join_admission_iff.1 ⟨admission.isNew, told⟩
  rcases r.join_cases now source request offer with
    ⟨-, result⟩ | ⟨known, session, live, same, result⟩ | ⟨known, -, result⟩ <;>
    rw [result] at told offered ⊢
  · cases told
  · exact ⟨known, offered, fits, session, settled_refresh live, same, Option.some.inj offered⟩
  · obtain ⟨-, -, admitted⟩ :=
      (r.vacate source request.group).admitNew_answer now source request.group offer
    obtain ⟨-, recorded⟩ := admitted admission told
    rw [recorded]
    exact ⟨known, offered, fits, _, (r.vacate_settled now source request.group).trans
      (record_settled _ now source request.group admission.address), rfl, rfl⟩

theorem join_seated (sound : r.Sound) (admission : Admission)
    (told : (r.join now source request offer).2.admission = some admission) :
    ∃ session, (r.join now source request offer).1.sessions.live? now source = some session ∧
      session.group = request.group ∧ session.address = admission.address ∧
      (r.join now source request offer).1.leaseOf? request.group = some admission.address := by
  obtain ⟨-, -, -, session, settled, group, address⟩ := join_admitted told
  have leased := (join_sound sound now source request offer).leaseOf?_eq
    (IdleMap.peek?_of_live? settled.seated)
  rw [group, address] at leased
  exact ⟨session, settled.seated, group, address, leased⟩

theorem join_declined (told : (r.join now source request offer).2.admission = none)
    (after : (r.join now source request offer).1.sessions.peek? source = some session) :
    r.sessions.peek? source = some session := by
  rcases r.join_cases now source request offer with
    ⟨-, result⟩ | ⟨-, _, -, -, result⟩ | ⟨-, -, result⟩ <;> rw [result] at told after
  · exact after
  · rwa [IdleMap.peek?_refresh] at after
  · obtain ⟨-, refused, -⟩ :=
      (r.vacate source request.group).admitNew_answer now source request.group offer
    obtain ⟨notices, left⟩ := refused told
    rw [left, (r.vacate_settled now source request.group).peek?, if_pos rfl] at after
    cases after

/-! ### Grants -/

/-- A request that has been granted with an address. -/
structure Granted (now : Nat) (source : Peer) (group : String) (address : Ipv4)
    (q : Registry × JoinResult) : Prop where
  offered : q.2.offered = some address
  admitted : q.2.admission ≠ none
  seated : ∃ session, q.1.sessions.live? now source = some session ∧ session.group = group ∧
    session.address = address
  leased : q.1.leaseOf? group = some address

/-- A request that has been declined. -/
structure Declined (source : Peer) (offer : Ipv4 → Bool) (r : Registry)
    (q : Registry × JoinResult) : Prop where
  offered : ∀ a, q.2.offered = some a → offer a = false
  admitted : q.2.admission = none
  seated : ∀ session, q.1.sessions.peek? source = some session →
    r.sessions.peek? source = some session

/-- A request is granted if and only if there is an address that it may have and of which the client
can be told. -/
def Decides (may : Ipv4 → Prop) (now : Nat) (source : Peer) (group : String) (offer : Ipv4 → Bool)
    (r : Registry) (q : Registry × JoinResult) : Prop :=
  (∃ a, (may a ∧ offer a = true) ∧ Granted now source group a q) ∨
    (¬∃ a, may a ∧ offer a = true) ∧ Declined source offer r q

theorem join_decides (sound : r.Sound) (now : Nat) (source : Peer) (request : JoinRequest)
    (offer : Ipv4 → Bool) :
    Decides (fun a => request.secret = r.secret ∧
        (r.relinquish now source request.group).Offers request.group a)
      now source request.group offer r (r.join now source request offer) := by
  cases told : (r.join now source request offer).2.admission with
  | some admission =>
    obtain ⟨-, offered, fits, -⟩ := join_admitted told
    obtain ⟨session, live, group, address, leased⟩ := join_seated sound admission told
    exact .inl ⟨admission.address, ⟨(join_offered_iff sound).1 offered, fits⟩, offered,
      by simp [told], ⟨session, live, group, address⟩, leased⟩
  | none =>
    have unfit : ∀ a, (r.join now source request offer).2.offered = some a → offer a = false := by
      intro a offered
      refine Bool.eq_false_iff.2 fun fits => ?_
      obtain ⟨_, admitted⟩ := join_admission_iff.2 ⟨offered, fits⟩
      rw [told] at admitted
      cases admitted
    refine .inr ⟨?_, unfit, told, fun s => join_declined told⟩
    rintro ⟨a, may, fits⟩
    rw [unfit a ((join_offered_iff sound).2 may)] at fits
    cases fits

/-! ### The address that is due -/

/-- The sessions of everybody else. -/
def others (source : Peer) (r : Registry) : Roster :=
  Function.update r.sessions.peek? source none

/-- The least address from `first` to `last` that none of the sessions has. -/
structure Spare (first last : Ipv4) (roster : Roster) (address : Ipv4) : Prop where
  first_le : first.bits ≤ address.bits
  le_last : address.bits ≤ last.bits
  unused : ∀ p s, roster p = some s → s.address ≠ address
  used_below : ∀ x, first.bits ≤ x → x < address.bits →
    ∃ p s, roster p = some s ∧ s.address.bits = x

/-- Somebody else is in the group. -/
def Shared (source : Peer) (group : String) (r : Registry) : Prop :=
  ∃ p s, r.others source p = some s ∧ s.group = group

/-- The address that a new member of a group is to have: the one leased to the group if somebody
else is in it, and otherwise the least one that nobody else has. -/
def Due (first last : Ipv4) (source : Peer) (group : String) (r : Registry) (a : Ipv4) : Prop :=
  r.Shared source group ∧ r.leaseOf? group = some a ∨
    ¬r.Shared source group ∧ Spare first last (r.others source) a

variable {first last : Ipv4} {roster : Roster}

theorem others_eq_some_iff {p : Peer} {s : Session} :
    r.others source p = some s ↔ p ≠ source ∧ r.sessions.peek? p = some s := by
  unfold others
  by_cases same : p = source <;> simp [same]

theorem Tally.least_iff (tally : Tally roster u) (first_eq : u.pool.first = first.bits)
    (last_eq : u.pool.last = last.bits) : u.pool.Least a ↔ Spare first last roster a := by
  have used : ∀ x, x ∈ u.pool.occupied ↔ ∃ p s, roster p = some s ∧ s.address.bits = x := by
    intro x
    rw [tally.occupied ⟨x⟩, tally.leased_iff]
    simp only [← Pool.bits_inj]
  constructor
  · intro ⟨first_le, le_last, free, used_below⟩
    rw [first_eq] at first_le used_below
    refine ⟨first_le, last_eq ▸ le_last, ?_, fun x low below => (used x).1 (used_below x low below)⟩
    rintro p s recorded rfl
    exact free ((used _).2 ⟨p, s, recorded, rfl⟩)
  · intro ⟨first_le, le_last, unused, used_below⟩
    refine ⟨first_eq ▸ first_le, last_eq ▸ le_last, ?_, fun x low below => (used x).2 ?_⟩
    · intro taken
      obtain ⟨p, s, recorded, here⟩ := (used _).1 taken
      exact unused p s recorded (Pool.bits_inj.1 here)
    · exact used_below x (first_eq ▸ low) below

theorem vacate_tally (sound : r.Sound) (source : Peer) (group : String) :
    Tally (r.others source) (r.vacate source group) := by
  have left : (r.vacate source group).sessions.peek? = r.others source := by
    funext p
    rw [(r.vacate_settled 0 source group).peek?, others, Function.update_apply]
  exact left ▸ (vacate_sound sound source group).1

theorem vacate_leaseOf?_iff (sound : r.Sound) :
    (r.vacate source group).leaseOf? group = some a ↔
      r.Shared source group ∧ r.leaseOf? group = some a := by
  rw [leaseOf?, (vacate_tally sound source group).grouped_iff]
  constructor
  · rintro ⟨p, s, other, rfl, rfl⟩
    exact ⟨⟨p, s, other, rfl⟩, sound.leaseOf?_eq (others_eq_some_iff.1 other).2⟩
  · rintro ⟨⟨p, s, other, rfl⟩, leased⟩
    rw [sound.leaseOf?_eq (others_eq_some_iff.1 other).2] at leased
    exact ⟨p, s, other, rfl, Option.some.inj leased⟩

theorem due_iff (sound : r.Sound) (first_eq : r.pool.first = first.bits)
    (last_eq : r.pool.last = last.bits) :
    (r.vacate source group).addressFor? group = some a ↔ Due first last source group r a := by
  have evolved : Evolves r (r.vacate source group) := vacate_evolves
  have least := (vacate_tally sound source group).least_iff (a := a)
    (evolved.first.trans first_eq) (evolved.last.trans last_eq)
  rw [← offers_iff (vacate_sound sound source group).1, Offers, Due, vacate_leaseOf?_iff sound,
    least]
  refine or_congr Iff.rfl (and_congr_left' ?_)
  rw [Option.eq_none_iff_forall_ne_some]
  constructor
  · rintro free ⟨p, s, other, rfl⟩
    have leased := sound.leaseOf?_eq (others_eq_some_iff.1 other).2
    exact free _ ((vacate_leaseOf?_iff sound).2 ⟨⟨p, s, other, rfl⟩, leased⟩)
  · intro alone a leased
    exact alone ((vacate_leaseOf?_iff sound).1 leased).1

/-! ### The session that is given up -/

/-- The session of a source has gone, and its lease too if nobody else was in it; the others are as
they were. -/
structure Removed (now : Nat) (source : Peer) (session : Session) (r u : Registry) : Prop where
  recorded : r.sessions.peek? source = some session
  settled : Settled now source none r u
  parting : ∃ members, r.behind session.address = some members ∧
    Parting source session.group session.address members r u
  groups : ∀ g, g ≠ session.group → u.leaseOf? g = r.leaseOf? g
  occupied : ∀ x, x ≠ session.address.bits → (x ∈ u.pool.occupied ↔ x ∈ r.pool.occupied)
  pool : u.pool.first = r.pool.first ∧ u.pool.last = r.pool.last
  secret : u.secret = r.secret
  nextSerial : u.nextSerial = r.nextSerial

theorem vacate_parting (sound : r.Sound) (recorded : r.sessions.peek? source = some session)
    (group : String) : ∃ members, r.behind session.address = some members ∧
      Parting source session.group session.address members r (r.vacate source group) := by
  obtain ⟨l, leased⟩ := sound.leased source session recorded
  have behind : r.behind session.address = some l.members :=
    congrArg (Option.map Lease.members) leased
  rw [vacate_of_present recorded]
  obtain ⟨others, last, elsewhere⟩ := withdraw_parting (r := { r.note
      (if session.group = group then .expiredBeforeJoin source
        else .switchedGroup source session.group group) with
    sessions := r.sessions.remove source }) (Tally.congr sound rfl rfl rfl rfl) recorded leased
  exact ⟨l.members, behind, others, last, elsewhere⟩

theorem vacate_removed (sound : r.Sound) (recorded : r.sessions.peek? source = some session)
    (now : Nat) (group : String) : Removed now source session r (r.vacate source group) := by
  have evolved : Evolves r (r.vacate source group) := vacate_evolves
  have tally := vacate_tally sound source group
  -- whoever is in another group or has another address is somebody else
  have other : ∀ {p s}, r.sessions.peek? p = some s → s ≠ session → r.others source p = some s := by
    intro p s there different
    refine others_eq_some_iff.2 ⟨?_, there⟩
    rintro rfl
    exact different (Option.some.inj (there.symm.trans recorded))
  refine ⟨recorded, r.vacate_settled now source group, vacate_parting sound recorded group,
    fun g elsewhere => Option.ext fun a => ?_, fun x elsewhere => ?_,
    ⟨evolved.first, evolved.last⟩, evolved.secret, ?_⟩
  · rw [leaseOf?, leaseOf?, tally.grouped_iff, sound.grouped_iff]
    constructor
    · rintro ⟨p, s, stays, rest⟩
      exact ⟨p, s, (others_eq_some_iff.1 stays).2, rest⟩
    · rintro ⟨p, s, there, rfl, here⟩
      exact ⟨p, s, other there fun same => elsewhere (congrArg Session.group same), rfl, here⟩
  · rw [tally.occupied ⟨x⟩, sound.occupied ⟨x⟩, tally.leased_iff, sound.leased_iff]
    constructor
    · rintro ⟨p, s, stays, here⟩
      exact ⟨p, s, (others_eq_some_iff.1 stays).2, here⟩
    · rintro ⟨p, s, there, here⟩
      exact ⟨p, s, other there fun same => elsewhere (by rw [← same, here]), here⟩
  · rw [vacate_of_present recorded]
    exact withdraw_nextSerial

/-! ### Verdicts -/

/-- A source has given up the session that it had, if any. -/
def Given (now : Nat) (source : Peer) (r u : Registry) : Prop :=
  r.sessions.peek? source = none ∧ u = r ∨ ∃ session, Removed now source session r u

/-- What a join request makes of a registry, and what is answered. -/
structure Verdict (first last : Ipv4) (now : Nat) (source : Peer) (request : JoinRequest)
    (offer : Ipv4 → Bool) (r : Registry) (q : Registry × JoinResult) : Prop where
  /-- With a wrong secret no address is offered, and nothing is written but a notice. -/
  unknown : request.secret ≠ r.secret → q = (r.note (.wrongSecret source), {})
  /-- A member of the group is offered its address, and its clock starts again. -/
  known : request.secret = r.secret → ∀ session, r.sessions.live? now source = some session →
    session.group = request.group →
      q.2.offered = some session.address ∧ Settled now source (some session) r q.1 ∧
        q.1 = { r with sessions := q.1.sessions }
  /-- Everybody else gives up the session that there was and is offered the address that is due, or
  nothing if there is none, and is recorded with it if admitted. -/
  newcomer : request.secret = r.secret →
    (∀ session, r.sessions.live? now source = some session → session.group ≠ request.group) →
      (∀ a, q.2.offered = some a ↔ Due first last source request.group r a) ∧
        ∃ u, Given now source r u ∧
          (q.2.admission = none → ∃ notices, q.1 = { u with notices }) ∧
          ∀ admission, q.2.admission = some admission →
            q.1 = u.record now source request.group admission.address
  /-- An admission is one with the address offered, and depends on whether it could be. -/
  admitted_iff : ∀ a, (∃ isNew, q.2.admission = some ⟨a, isNew⟩) ↔
    q.2.offered = some a ∧ offer a = true
  seated : ∀ admission, q.2.admission = some admission → ∃ session,
    q.1.sessions.live? now source = some session ∧ session.group = request.group ∧
      session.address = admission.address ∧
        q.1.leaseOf? request.group = some admission.address
  bystanders : ∀ p, p ≠ source → q.1.sessions.entries.find? p = r.sessions.entries.find? p
  /-- Whoever is not admitted leaves a notice, the clock of a session of the group, or the loss of a
  session that had expired or was of another group. -/
  refused : q.2.admission = none →
    (∃ notices, q.1 = { r with notices }) ∨
      (∃ session, r.sessions.live? now source = some session ∧ session.group = request.group ∧
        Settled now source (some session) r q.1 ∧ q.1 = { r with sessions := q.1.sessions }) ∨
      ∃ session, (r.sessions.live? now source = none ∨ session.group ≠ request.group) ∧
        Removed now source session r q.1
  /-- Nothing is asked about any other address. -/
  consulted : ∀ other : Ipv4 → Bool, (∀ a, q.2.offered = some a → other a = offer a) →
    r.join now source request other = q

theorem Removed.written (removed : Removed now source session r u) (notices : List Notice) :
    Removed now source session r { u with notices } :=
  have ⟨members, behind, parting⟩ := removed.parting
  { removed with
    settled := ⟨removed.settled.idle, removed.settled.entries⟩
    parting := ⟨members, behind, parting.others, parting.last, parting.elsewhere⟩ }

theorem vacate_given (sound : r.Sound) (now : Nat) (source : Peer) (group : String) :
    Given now source r (r.vacate source group) := by
  cases present : r.sessions.peek? source with
  | none => exact .inl ⟨present, vacate_of_absent present⟩
  | some session => exact .inr ⟨session, vacate_removed sound present now group⟩

theorem unknown_verdict (sound : r.Sound) (wrong : request.secret ≠ r.secret)
    (result : r.join now source request offer = (r.note (.wrongSecret source), {})) :
    Verdict first last now source request offer r (r.join now source request offer) := by
  refine ⟨fun _ => result, fun known => absurd known wrong, fun known => absurd known wrong,
    fun _ => join_admission_iff, join_seated sound, ?_, ?_, fun _ => join_congr⟩ <;> rw [result]
  · exact fun _ _ => rfl
  · exact fun _ => .inl ⟨_, rfl⟩

theorem member_verdict (sound : r.Sound) (known : request.secret = r.secret)
    (live : r.sessions.live? now source = some session) (same : session.group = request.group)
    (result : r.join now source request offer =
      ({ r with sessions := r.sessions.refresh now source },
        ⟨some session.address,
          if offer session.address then some ⟨session.address, false⟩ else none⟩)) :
    Verdict first last now source request offer r (r.join now source request offer) := by
  have settled := settled_refresh live
  refine ⟨fun wrong => absurd known wrong, ?_, fun _ none_live => absurd same (none_live _ live),
    fun _ => join_admission_iff, join_seated sound, ?_, ?_, fun _ => join_congr⟩ <;> rw [result]
  · intro _ s there _
    obtain rfl : session = s := Option.some.inj (live.symm.trans there)
    exact ⟨rfl, settled, rfl⟩
  · intro p elsewhere
    rw [settled.entries, if_neg elsewhere]
  · exact fun _ => .inr (.inl ⟨session, live, same, settled, rfl⟩)

theorem newcomer_verdict (sound : r.Sound) (first_eq : r.pool.first = first.bits)
    (last_eq : r.pool.last = last.bits) (known : request.secret = r.secret)
    (newcomer : ∀ session, r.sessions.live? now source = some session →
      session.group ≠ request.group)
    (result : r.join now source request offer =
      (r.vacate source request.group).admitNew now source request.group offer) :
    Verdict first last now source request offer r (r.join now source request offer) := by
  have given := vacate_given sound now source request.group
  obtain ⟨answer, refused, admitted⟩ :=
    (r.vacate source request.group).admitNew_answer now source request.group offer
  rw [← result] at answer refused admitted
  have settled : ∃ held, Settled now source held r (r.join now source request offer).1 := by
    rcases r.newcomer_settled now source request.group offer with
      ⟨-, settled⟩ | ⟨_, _, -, settled⟩ <;> rw [← result] at settled
    · exact ⟨_, settled⟩
    · exact ⟨_, settled⟩
  refine ⟨fun wrong => absurd known wrong, fun _ s there same => absurd same (newcomer s there),
    fun _ _ => ⟨fun a => ?_, _, given, refused, fun admission told => (admitted _ told).2⟩,
    fun _ => join_admission_iff, join_seated sound, ?_, ?_, fun _ => join_congr⟩
  · rw [answer]
    exact due_iff sound first_eq last_eq
  · intro p elsewhere
    obtain ⟨held, settled⟩ := settled
    rw [settled.entries, if_neg elsewhere]
  · intro none_admitted
    obtain ⟨notices, left⟩ := refused none_admitted
    rw [left]
    rcases given with ⟨-, same⟩ | ⟨session, removed⟩
    · rw [same]
      exact .inl ⟨notices, rfl⟩
    · refine .inr (.inr ⟨session, ?_, removed.written notices⟩)
      -- it was no live session of the group
      cases live : r.sessions.live? now source with
      | none => exact .inl rfl
      | some s =>
        have there := IdleMap.peek?_of_live? live
        rw [removed.recorded] at there
        exact .inr (Option.some.inj there ▸ newcomer s live)

theorem join_verdict (sound : r.Sound) (first_eq : r.pool.first = first.bits)
    (last_eq : r.pool.last = last.bits) (now : Nat) (source : Peer) (request : JoinRequest)
    (offer : Ipv4 → Bool) :
    Verdict first last now source request offer r (r.join now source request offer) := by
  rcases r.join_cases now source request offer with
    ⟨wrong, result⟩ | ⟨known, session, live, same, result⟩ | ⟨known, newcomer, result⟩
  · exact unknown_verdict sound wrong result
  · exact member_verdict sound known live same result
  · exact newcomer_verdict sound first_eq last_eq known newcomer result

/-- Whatever has been done to a registry, the right address is offered to whoever asks to join, and
whoever is not admitted leaves nothing behind. -/
theorem run_verdict (secret : String) (first last : Ipv4) (idle start : Nat) (events : List Event)
    (source : Peer) (request : JoinRequest) (offer : Ipv4 → Bool) :
    let s := run ⟨create secret (.between first last) idle, start⟩ events
    Verdict first last s.now source request offer s.state
      (s.state.join s.now source request offer) := by
  intro s
  have evolved := run_evolves ⟨create secret (.between first last) idle, start⟩ events
  exact join_verdict (run_sound (create_sound secret first last idle) events)
    evolved.first evolved.last s.now source request offer

end Concentrator.Registry
