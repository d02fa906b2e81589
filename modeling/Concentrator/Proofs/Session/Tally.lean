import Concentrator.Proofs.IdleMap
import Concentrator.Proofs.Session.Pool
import Concentrator.Session.Registry
import Mathlib.Logic.Function.Basic

/-!
# Leases and the sessions they know

While an operation is under way the tables of a registry disagree: a session has
left the idle map and is still a member of its lease. `Tally` therefore compares
leases, groups and pool with a roster of sessions of its own. A session that is
withdrawn leaves the roster, and one that is recorded enters it.
-/

namespace Concentrator.Registry

/-- The sessions that the leases know. -/
abbrev Roster := Peer → Option Session

/-- The lease of an address has exactly the sessions of a roster with that address as members, in
the order in which they joined, and shows them as they are. -/
structure Fits (roster : Roster) (address : Ipv4) (lease : Lease) : Prop where
  members_iff : ∀ serial source, (serial, source) ∈ lease.members ↔
    ∃ s, roster source = some s ∧ s.serial = serial ∧ s.address = address
  group : ∀ source s, roster source = some s → s.address = address → s.group = lease.group
  ordered : lease.members.Pairwise fun x y => x.1 < y.1
  shown : lease.snapshot.peers = lease.members.map Prod.snd
  manned : lease.members ≠ []

/-- The sessions of a roster have different serial numbers, all below the next one. -/
structure Numbered (roster : Roster) (next : Nat) : Prop where
  issued : ∀ source s, roster source = some s → s.serial < next
  distinct : ∀ source source' s s', roster source = some s → roster source' = some s' →
    s.serial = s'.serial → source = source'

/-- The leases, the groups and the pool of a registry are those of a roster. -/
structure Tally (roster : Roster) (r : Registry) : Prop where
  pool : r.pool.Orderly
  occupied : ∀ a : Ipv4, a.bits ∈ r.pool.occupied ↔ ∃ l, r.leases.find? a = some l
  groups : ∀ g a, r.groups.find? g = some a ↔ ∃ l, r.leases.find? a = some l ∧ l.group = g
  fits : ∀ a l, r.leases.find? a = some l → Fits roster a l
  leased : ∀ source s, roster source = some s → ∃ l, r.leases.find? s.address = some l
  numbered : Numbered roster r.nextSerial

variable {roster : Roster} {r r' : Registry} {source : Peer} {session : Session}
  {address : Ipv4} {group : String} {now : Nat}

/-- Only four tables count. -/
theorem Tally.congr (tally : Tally roster r) (pool : r'.pool = r.pool)
    (groups : r'.groups = r.groups) (leases : r'.leases = r.leases)
    (nextSerial : r'.nextSerial = r.nextSerial) : Tally roster r' := by
  constructor
  · rw [pool]; exact tally.pool
  · rw [pool, leases]; exact tally.occupied
  · rw [groups, leases]; exact tally.groups
  · rw [leases]; exact tally.fits
  · rw [leases]; exact tally.leased
  · rw [nextSerial]; exact tally.numbered

/-- Only the sessions of the address itself count. -/
theorem Fits.congr {roster' : Roster} {lease : Lease} (fits : Fits roster address lease)
    (same : ∀ source s, s.address = address → (roster' source = some s ↔ roster source = some s)) :
    Fits roster' address lease where
  members_iff serial source := by
    rw [fits.members_iff]
    constructor
    · rintro ⟨s, present, number, here⟩
      exact ⟨s, (same source s here).2 present, number, here⟩
    · rintro ⟨s, present, number, here⟩
      exact ⟨s, (same source s here).1 present, number, here⟩
  group source s present here := fits.group source s ((same source s here).1 present) here
  ordered := fits.ordered
  shown := fits.shown
  manned := fits.manned

theorem Fits.peers_eq {lease : Lease} (fits : Fits roster address lease) :
    lease.peers = lease.members.map Prod.snd :=
  fits.shown

theorem Fits.peers_ne_nil {lease : Lease} (fits : Fits roster address lease) :
    lease.peers ≠ [] := by
  rw [fits.peers_eq, ne_eq, List.map_eq_nil_iff]
  exact fits.manned

/-- An address that is leased is the one of a session, which is in the group of the lease. -/
theorem Tally.used (tally : Tally roster r) {l : Lease} (leased : r.leases.find? address = some l) :
    ∃ source s, roster source = some s ∧ s.address = address ∧ s.group = l.group := by
  have fits := tally.fits address l leased
  obtain ⟨⟨serial, source⟩, member⟩ := List.exists_mem_of_ne_nil _ fits.manned
  obtain ⟨s, recorded, -, here⟩ := (fits.members_iff serial source).1 member
  exact ⟨source, s, recorded, here, fits.group source s recorded here⟩

theorem Tally.leased_iff (tally : Tally roster r) :
    (∃ l, r.leases.find? address = some l) ↔
      ∃ source s, roster source = some s ∧ s.address = address := by
  constructor
  · rintro ⟨l, leased⟩
    obtain ⟨source, s, recorded, here, -⟩ := tally.used leased
    exact ⟨source, s, recorded, here⟩
  · rintro ⟨source, s, recorded, rfl⟩
    exact tally.leased source s recorded

/-- A group has the address of its sessions. -/
theorem Tally.grouped_iff (tally : Tally roster r) : r.groups.find? group = some address ↔
    ∃ source s, roster source = some s ∧ s.group = group ∧ s.address = address := by
  rw [tally.groups]
  constructor
  · rintro ⟨l, leased, rfl⟩
    obtain ⟨source, s, recorded, here, same⟩ := tally.used leased
    exact ⟨source, s, recorded, same, here⟩
  · rintro ⟨source, s, recorded, rfl, rfl⟩
    obtain ⟨l, leased⟩ := tally.leased source s recorded
    exact ⟨l, leased, ((tally.fits _ l leased).group source s recorded rfl).symm⟩

theorem tally_empty (secret : String) (first last : Ipv4) (idle : Nat) :
    Tally (fun _ => none) (create secret (.between first last) idle) where
  pool := Pool.orderly_between first last
  occupied := by simp [create, Pool.between]
  groups := by simp [create]
  fits := by simp [create]
  leased := by simp
  numbered := ⟨by simp, by simp⟩

/-! ### One session less, one session more -/

/-- Only the sessions that leave or enter count. -/
theorem update_eq_some_iff {new : Option Session} {peer : Peer} {s : Session}
    (left : roster source ≠ some s) (entered : new ≠ some s) :
    Function.update roster source new peer = some s ↔ roster peer = some s := by
  by_cases same : peer = source
  · subst same
    rw [Function.update_self]
    exact iff_of_false entered left
  · rw [Function.update_of_ne same]

theorem recorded_before {peer : Peer} {s : Session}
    (recorded : Function.update roster source none peer = some s) :
    peer ≠ source ∧ roster peer = some s := by
  by_cases same : peer = source
  · subst same
    rw [Function.update_self] at recorded
    cases recorded
  · rw [Function.update_of_ne same] at recorded
    exact ⟨same, recorded⟩

theorem Numbered.without {next : Nat} (numbered : Numbered roster next) :
    Numbered (Function.update roster source none) next where
  issued peer s recorded := numbered.issued peer s (recorded_before recorded).2
  distinct peer peer' s s' recorded recorded' :=
    numbered.distinct peer peer' s s' (recorded_before recorded).2 (recorded_before recorded').2

theorem recorded_after {peer : Peer} {s : Session}
    (recorded : Function.update roster source (some session) peer = some s) :
    peer = source ∧ s = session ∨ peer ≠ source ∧ roster peer = some s := by
  by_cases same : peer = source
  · subst same
    rw [Function.update_self] at recorded
    exact .inl ⟨rfl, (Option.some.inj recorded).symm⟩
  · rw [Function.update_of_ne same] at recorded
    exact .inr ⟨same, recorded⟩

/-- The session with the next number is none of the old ones. -/
theorem Numbered.with {next : Nat} (numbered : Numbered roster next)
    (number : session.serial = next) :
    Numbered (Function.update roster source (some session)) (next + 1) where
  issued peer s recorded := by
    rcases recorded_after recorded with ⟨-, rfl⟩ | ⟨-, old⟩
    · omega
    · have := numbered.issued peer s old
      omega
  distinct peer peer' s s' recorded recorded' equal := by
    rcases recorded_after recorded with ⟨rfl, rfl⟩ | ⟨-, old⟩ <;>
      rcases recorded_after recorded' with ⟨rfl, rfl⟩ | ⟨-, old'⟩
    · rfl
    · have := numbered.issued peer' s' old'
      omega
    · have := numbered.issued peer s old
      omega
    · exact numbered.distinct peer peer' s s' old old' equal

/-- A lease is stored, be it new or not: its group and its address belong to one another, and the
sessions of other addresses stay as they were. -/
theorem Tally.store {roster' : Roster} {new : Lease} (tally : Tally roster r) (r' : Registry)
    (address : Ipv4)
    (leases : ∀ a, r'.leases.find? a = if a = address then some new else r.leases.find? a)
    (pool : r'.pool.Orderly)
    (occupied : ∀ x, x ∈ r'.pool.occupied ↔ x = address.bits ∨ x ∈ r.pool.occupied)
    (groups : ∀ g, r'.groups.find? g =
      if g = new.group then some address else r.groups.find? g)
    (only : ∀ g, r.groups.find? g = some address → g = new.group)
    (here : ∀ a, r.groups.find? new.group = some a → a = address)
    (fits : Fits roster' address new)
    (elsewhere : ∀ source s, s.address ≠ address →
      (roster' source = some s ↔ roster source = some s))
    (numbered : Numbered roster' r'.nextSerial) : Tally roster' r' := by
  refine ⟨pool, ?_, ?_, ?_, ?_, numbered⟩
  · intro a
    rw [occupied, leases, Pool.bits_inj, tally.occupied]
    by_cases same : a = address <;> simp [same]
  · intro g a
    rw [groups, leases]
    by_cases same : a = address
    · subst same
      by_cases own : g = new.group
      · simp [own]
      · simp only [if_neg own, if_true]
        refine ⟨fun grouped => absurd (only g grouped) own, ?_⟩
        rintro ⟨l, equal, rfl⟩
        exact absurd (congrArg Lease.group (Option.some.inj equal)).symm own
    · rw [if_neg same, ← tally.groups]
      by_cases own : g = new.group
      · subst own
        rw [if_pos rfl]
        exact ⟨fun equal => absurd (Option.some.inj equal).symm same,
          fun grouped => absurd (here a grouped) same⟩
      · rw [if_neg own]
  · intro a l leased
    rw [leases] at leased
    by_cases same : a = address
    · rw [if_pos same] at leased
      rw [same, ← Option.some.inj leased]
      exact fits
    · rw [if_neg same] at leased
      exact (tally.fits a l leased).congr fun peer s away =>
        elsewhere peer s fun equal => same (away.symm.trans equal)
  · intro peer s recorded
    rw [leases]
    by_cases same : s.address = address
    · exact ⟨new, if_pos same⟩
    · rw [if_neg same]
      exact tally.leased peer s ((elsewhere peer s same).1 recorded)

/-! ### A session leaves its lease -/

@[simp]
theorem withdraw_sessions : (r.withdraw session).sessions = r.sessions := by
  unfold withdraw
  split
  · rfl
  · dsimp only
    split
    · rfl
    · split <;> rfl

@[simp]
theorem withdraw_nextSerial : (r.withdraw session).nextSerial = r.nextSerial := by
  unfold withdraw
  split
  · rfl
  · dsimp only
    split
    · rfl
    · split <;> rfl

/-- The members that stay when a session leaves. -/
theorem mem_rest_iff (tally : Tally roster r) (present : roster source = some session)
    {lease : Lease} (found : r.leases.find? session.address = some lease) (serial : Nat)
    (peer : Peer) :
    (serial, peer) ∈ lease.members.filter (fun member => member.1 ≠ session.serial) ↔
      ∃ s, Function.update roster source none peer = some s ∧ s.serial = serial ∧
        s.address = session.address := by
  rw [List.mem_filter, (tally.fits _ _ found).members_iff]
  simp only [decide_eq_true_eq]
  by_cases same : peer = source
  · subst same
    rw [Function.update_self]
    constructor
    · rintro ⟨⟨s, recorded, rfl, -⟩, other⟩
      rw [present] at recorded
      exact absurd (congrArg Session.serial (Option.some.inj recorded)).symm other
    · rintro ⟨s, none, -⟩
      cases none
  · rw [Function.update_of_ne same]
    constructor
    · exact And.left
    · rintro ⟨s, recorded, rfl, here⟩
      exact ⟨⟨s, recorded, rfl, here⟩, fun equal =>
        same (tally.numbered.distinct _ _ _ _ recorded present equal)⟩

/-- A group has an address after a release if it had another one than the one released. -/
theorem releaseLease_groups (tally : Tally roster r) {lease : Lease}
    (found : r.leases.find? session.address = some lease) (g : String) (a : Ipv4) :
    (r.releaseLease session lease).groups.find? g = some a ↔
      a ≠ session.address ∧ r.groups.find? g = some a := by
  have held : r.groups.find? lease.group = some session.address :=
    (tally.groups _ _).2 ⟨lease, found, rfl⟩
  simp only [releaseLease, note, changed, if_pos held, Table.find?_erase]
  by_cases same : g = lease.group
  · subst same
    simp [held, eq_comm]
  · rw [if_neg same]
    refine ⟨fun grouped => ⟨?_, grouped⟩, And.right⟩
    rintro rfl
    obtain ⟨l, leased, rfl⟩ := (tally.groups _ _).1 grouped
    rw [found] at leased
    exact same (congrArg Lease.group (Option.some.inj leased)).symm

/-- The last member takes its lease, its group and its address with it. -/
theorem releaseLease_tally (tally : Tally roster r) (present : roster source = some session)
    {lease : Lease} (found : r.leases.find? session.address = some lease)
    (alone : lease.members.filter (fun member => member.1 ≠ session.serial) = []) :
    Tally (Function.update roster source none) (r.releaseLease session lease) := by
  have leases : ∀ a, (r.releaseLease session lease).leases.find? a =
      if a = session.address then none else r.leases.find? a :=
    fun a => Table.find?_erase _ _ _
  constructor
  · exact Pool.orderly_release tally.pool
  · intro a
    refine (Pool.mem_release tally.pool).trans ?_
    rw [leases, tally.occupied, ne_eq, Pool.bits_inj]
    by_cases same : a = session.address <;> simp [same]
  · intro g a
    rw [releaseLease_groups tally found, tally.groups]
    by_cases same : a = session.address <;> simp [leases, same]
  · intro a l kept
    rw [leases] at kept
    by_cases same : a = session.address
    · simp [same] at kept
    · rw [if_neg same] at kept
      refine (tally.fits a l kept).congr fun peer s here => update_eq_some_iff ?_ (by simp)
      rw [present]
      exact fun equal => absurd (Option.some.inj equal ▸ here) (Ne.symm same)
  · intro peer s recorded
    have elsewhere : s.address ≠ session.address := by
      intro here
      have member := (mem_rest_iff tally present found s.serial peer).2 ⟨s, recorded, rfl, here⟩
      rw [alone] at member
      cases member
    obtain ⟨l, leased⟩ := tally.leased peer s (recorded_before recorded).2
    exact ⟨l, by rw [leases, if_neg elsewhere, leased]⟩
  · exact tally.numbered.without

/-- The members that stay keep their lease. -/
theorem setMembers_tally (tally : Tally roster r) (present : roster source = some session)
    {lease : Lease} (found : r.leases.find? session.address = some lease)
    (stay : lease.members.filter (fun member => member.1 ≠ session.serial) ≠ []) :
    Tally (Function.update roster source none) (r.setMembers session.address lease
      (lease.members.filter fun member => member.1 ≠ session.serial)) := by
  have fits := tally.fits _ _ found
  have held : r.groups.find? lease.group = some session.address :=
    (tally.groups _ _).2 ⟨lease, found, rfl⟩
  refine tally.store (r.setMembers _ _ _) session.address
    (fun a => Table.find?_insert _ _ _ a) tally.pool ?_ ?_ ?_ ?_ ?_ ?_ ?_
  · intro x
    refine ⟨Or.inr, ?_⟩
    rintro (rfl | occupied)
    · exact (tally.occupied _).2 ⟨lease, found⟩
    · exact occupied
  · intro g
    by_cases same : g = lease.group
    · rw [if_pos same, same]
      exact held
    · exact (if_neg same).symm
  · intro g grouped
    obtain ⟨l, leased, rfl⟩ := (tally.groups _ _).1 grouped
    rw [found] at leased
    show l.group = lease.group
    rw [Option.some.inj leased]
  · intro a grouped
    rw [show r.groups.find? lease.group = some a from grouped] at held
    exact Option.some.inj held
  · exact {
      members_iff := mem_rest_iff tally present found
      group := fun peer s recorded here => fits.group peer s (recorded_before recorded).2 here
      ordered := fits.ordered.filter _
      shown := rfl
      manned := stay }
  · refine fun peer s elsewhere => update_eq_some_iff ?_ (by simp)
    rw [present]
    exact fun equal => absurd (Option.some.inj equal ▸ rfl) elsewhere
  · exact tally.numbered.without

/-- A session that the roster knows is a member of its lease, so that removing it always has an
effect: its lease goes with it, or the other members stay. -/
theorem withdraw_cases (tally : Tally roster r) (present : roster source = some session) :
    ∃ lease, r.leases.find? session.address = some lease ∧
      (lease.members.filter (fun member => member.1 ≠ session.serial) = [] ∧
          r.withdraw session = r.releaseLease session lease ∨
        lease.members.filter (fun member => member.1 ≠ session.serial) ≠ [] ∧
          r.withdraw session = (r.setMembers session.address lease
            (lease.members.filter fun member => member.1 ≠ session.serial)).changed
              (.members session.address)) := by
  obtain ⟨lease, found⟩ := tally.leased source session present
  have listed : (session.serial, source) ∈ lease.members :=
    ((tally.fits _ _ found).members_iff _ _).2 ⟨session, present, rfl, rfl⟩
  have fewer : (lease.members.filter fun member => member.1 ≠ session.serial).length ≠
      lease.members.length :=
    Nat.ne_of_lt (List.length_filter_lt_length_iff_exists.2 ⟨_, listed, by simp⟩)
  refine ⟨lease, found, ?_⟩
  simp only [withdraw, found, if_neg fewer]
  by_cases alone : lease.members.filter (fun member => member.1 ≠ session.serial) = []
  · exact .inl ⟨alone, if_pos alone⟩
  · exact .inr ⟨alone, if_neg alone⟩

theorem withdraw_tally (tally : Tally roster r) (present : roster source = some session) :
    Tally (Function.update roster source none) (r.withdraw session) := by
  obtain ⟨lease, found, ⟨alone, result⟩ | ⟨stay, result⟩⟩ := withdraw_cases tally present <;>
    rw [result]
  · exact releaseLease_tally tally present found alone
  · exact (setMembers_tally tally present found stay).congr rfl rfl rfl rfl

/-! ### A session joins -/

/-- The address for a group is the one it has, or a free one. -/
theorem addressFor?_cases (chosen : r.addressFor? group = some address) :
    r.groups.find? group = some address ∨
      r.groups.find? group = none ∧ r.pool.nextFree? = some address := by
  unfold addressFor? at chosen
  cases grouped : r.groups.find? group with
  | none => exact .inr ⟨rfl, by simpa [grouped] using chosen⟩
  | some held => exact .inl (by simpa [grouped] using chosen)

@[simp]
theorem lease_leases : (r.lease group address).leases = r.leases := by
  unfold lease
  split <;> rfl

@[simp]
theorem lease_sessions : (r.lease group address).sessions = r.sessions := by
  unfold lease
  split <;> rfl

@[simp]
theorem lease_nextSerial : (r.lease group address).nextSerial = r.nextSerial := by
  unfold lease
  split <;> rfl

@[simp]
theorem lease_changes : (r.lease group address).changes = r.changes := by
  unfold lease
  split <;> rfl

theorem lease_groups (chosen : r.addressFor? group = some address) (g : String) :
    (r.lease group address).groups.find? g =
      if g = group then some address else r.groups.find? g := by
  unfold lease
  rcases addressFor?_cases chosen with held | ⟨new, -⟩
  · by_cases same : g = group <;> simp [held, same]
  · simp only [new, note]
    exact Table.find?_insert _ _ _ _

theorem lease_pool (tally : Tally roster r) (chosen : r.addressFor? group = some address) :
    (r.lease group address).pool.Orderly ∧
      ∀ x, x ∈ (r.lease group address).pool.occupied ↔ x = address.bits ∨ x ∈ r.pool.occupied := by
  unfold lease
  rcases addressFor?_cases chosen with held | ⟨new, free⟩
  · simp only [held]
    refine ⟨tally.pool, fun x => ⟨Or.inr, ?_⟩⟩
    rintro (rfl | occupied)
    · obtain ⟨l, leased, -⟩ := (tally.groups _ _).1 held
      exact (tally.occupied _).2 ⟨l, leased⟩
    · exact occupied
  · simp only [new, note]
    exact ⟨Pool.orderly_occupy tally.pool, fun x => Pool.mem_occupy tally.pool free⟩

/-- Nobody but the group itself has the address that is chosen for it. -/
theorem chosen_only (tally : Tally roster r) (chosen : r.addressFor? group = some address)
    {l : Lease} (leased : r.leases.find? address = some l) : l.group = group := by
  have grouped := (tally.groups _ _).2 ⟨l, leased, rfl⟩
  rcases addressFor?_cases chosen with held | ⟨-, free⟩
  · obtain ⟨l', leased', rfl⟩ := (tally.groups _ _).1 held
    rw [leased] at leased'
    rw [Option.some.inj leased']
  · have least := (Pool.nextFree?_eq_some_iff tally.pool).1 free
    exact absurd ((tally.occupied _).2 ⟨l, leased⟩) least.free

/-- The lease that a new session of a group enters, empty if it is the first. -/
def entered (group : String) (address : Ipv4) (r : Registry) : Lease :=
  (r.leases.find? address).getD { group }

theorem entered_group (tally : Tally roster r) (chosen : r.addressFor? group = some address) :
    (r.entered group address).group = group := by
  unfold entered
  cases leased : r.leases.find? address with
  | none => rfl
  | some l => exact chosen_only tally chosen leased

theorem mem_entered_iff (tally : Tally roster r) (serial : Nat) (peer : Peer) :
    (serial, peer) ∈ (r.entered group address).members ↔
      ∃ s, roster peer = some s ∧ s.serial = serial ∧ s.address = address := by
  unfold entered
  cases leased : r.leases.find? address with
  | none =>
    simp only [Option.getD_none, List.not_mem_nil, false_iff]
    rintro ⟨s, recorded, -, rfl⟩
    obtain ⟨l, found⟩ := tally.leased peer s recorded
    rw [leased] at found
    cases found
  | some l => exact (tally.fits _ _ leased).members_iff serial peer

theorem entered_ordered (tally : Tally roster r) :
    (r.entered group address).members.Pairwise fun x y => x.1 < y.1 := by
  unfold entered
  cases leased : r.leases.find? address with
  | none => exact .nil
  | some l => exact (tally.fits _ _ leased).ordered

/-- The lease that a new session has entered fits the roster with that session. -/
theorem fits_entered (tally : Tally roster r) (absent : roster source = none)
    (chosen : r.addressFor? group = some address) (generation : Nat) :
    Fits (Function.update roster source (some ⟨r.nextSerial, group, address⟩)) address
      { r.entered group address with
        members := (r.entered group address).members ++ [(r.nextSerial, source)]
        snapshot := ⟨generation,
          ((r.entered group address).members ++ [(r.nextSerial, source)]).map Prod.snd⟩ } where
  members_iff serial peer := by
    rw [List.mem_append, mem_entered_iff tally, List.mem_singleton, Prod.mk.injEq]
    by_cases same : peer = source
    · subst same
      simp [Function.update_self, absent, eq_comm]
    · simp [same]
  group peer s recorded here := by
    show s.group = (r.entered group address).group
    by_cases same : peer = source
    · subst same
      rw [Function.update_self] at recorded
      rw [← Option.some.inj recorded, entered_group tally chosen]
    · rw [Function.update_of_ne same] at recorded
      obtain ⟨l, leased⟩ := tally.leased peer s recorded
      rw [here] at leased
      simp only [entered, leased, Option.getD_some]
      exact (tally.fits _ _ leased).group peer s recorded here
  ordered := by
    refine List.pairwise_append.2 ⟨entered_ordered tally, List.pairwise_singleton _ _, ?_⟩
    rintro ⟨serial, peer⟩ member last new
    obtain rfl := List.mem_singleton.1 new
    obtain ⟨s, recorded, rfl, -⟩ := (mem_entered_iff tally serial peer).1 member
    exact tally.numbered.issued peer s recorded
  shown := rfl
  manned := by simp

theorem record_tally (tally : Tally roster r) (absent : roster source = none)
    (chosen : r.addressFor? group = some address) :
    Tally (Function.update roster source (some ⟨r.nextSerial, group, address⟩))
      (r.record now source group address) := by
  have newGroup := entered_group tally chosen
  have fits := fits_entered tally absent chosen (r.lease group address).generation.succ
  refine tally.store _ address ?_ (lease_pool tally chosen).1 (lease_pool tally chosen).2
    (fun g => ?_) (fun g grouped => ?_) (fun a grouped => ?_) fits ?_ ?_
  · intro a
    simp only [record, enlist, setMembers, changed, note, lease_leases, lease_nextSerial]
    exact Table.find?_insert _ _ _ _
  · rw [newGroup]
    exact lease_groups chosen g
  · obtain ⟨l, leased, rfl⟩ := (tally.groups _ _).1 grouped
    rw [newGroup]
    exact chosen_only tally chosen leased
  · rw [newGroup] at grouped
    simpa [addressFor?, grouped] using chosen
  · refine fun peer s elsewhere => update_eq_some_iff (by simp [absent]) ?_
    exact fun equal => absurd (Option.some.inj equal ▸ rfl) elsewhere
  · have next : (r.record now source group address).nextSerial = r.nextSerial + 1 := by
      simp [record, enlist, setMembers, changed, note]
    rw [next]
    exact tally.numbered.with rfl

end Concentrator.Registry
