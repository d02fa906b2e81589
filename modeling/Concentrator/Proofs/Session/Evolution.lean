import Concentrator.Proofs.Session.Joining
import Concentrator.Proofs.Session.Pool

/-!
# What becomes of leases

`Evolves` relates a registry to what an operation makes of it. Settings stay,
the journals of changes and notices grow, and no lease changes without a record
in them: one that is not named stays as it is, one that is not released stays
with its group, and one that is named is shown under a generation that nobody
has seen before.
-/

namespace Concentrator.Registry

def Named (changes : List Change) (a : Ipv4) : Prop :=
  .members a ∈ changes ∨ .released a ∈ changes

theorem named_append {changes changes' : List Change} {a : Ipv4} :
    Named (changes ++ changes') a ↔ Named changes a ∨ Named changes' a := by
  simp only [Named, List.mem_append, or_or_or_comm]

theorem not_named {changes : List Change} {a : Ipv4} :
    ¬Named changes a ↔ .members a ∉ changes ∧ .released a ∉ changes :=
  not_or

/-- New entries of the two journals that account for every lease that has changed. -/
structure Accounts (r r' : Registry) (changes : List Change) (notices : List Notice) : Prop where
  same : ∀ a, .members a ∉ changes → .released a ∉ changes →
    r'.leases.find? a = r.leases.find? a
  kept : ∀ a l, .released a ∉ changes → r.leases.find? a = some l →
    ∃ l', r'.leases.find? a = some l' ∧ l'.group = l.group
  noticed : ∀ a, .released a ∈ changes ↔ ∃ g, .addressReleased a g ∈ notices
  foreign : ∀ e p, .mappingRemoved e p ∉ notices
  renewed : ∀ a l, Named changes a → r'.leases.find? a = some l →
    r.generation < l.generation ∧ l.generation ≤ r'.generation
  distinct : ∀ a a' l l', Named changes a → Named changes a' → r'.leases.find? a = some l →
    r'.leases.find? a' = some l' → l.generation = l'.generation → a = a'
  /-- Generations are used up no faster than changes are written down. -/
  stamps : r.generation ≤ r'.generation ∧ r'.generation ≤ r.generation + changes.length

structure Evolves (r r' : Registry) : Prop where
  secret : r'.secret = r.secret
  idle : r'.sessions.idle = r.sessions.idle
  first : r'.pool.first = r.pool.first
  last : r'.pool.last = r.pool.last
  accounts : ∃ changes notices, r'.changes = r.changes ++ changes ∧
    r'.notices = r.notices ++ notices ∧ Accounts r r' changes notices

variable {r r' r'' : Registry} {source : Peer} {session : Session} {address : Ipv4}
  {group : String} {now : Nat}

theorem Accounts.unnamed {changes : List Change} {notices : List Notice} {a : Ipv4}
    (accounts : Accounts r r' changes notices) (unnamed : ¬Named changes a) :
    r'.leases.find? a = r.leases.find? a :=
  accounts.same a (not_named.1 unnamed).1 (not_named.1 unnamed).2

/-- What is renewed later has the higher generation. -/
theorem Accounts.distinct_trans {changes changes' : List Change} {notices notices' : List Notice}
    {a a' : Ipv4} {l l' : Lease} (accounts : Accounts r r' changes notices)
    (accounts' : Accounts r' r'' changes' notices') (named : Named (changes ++ changes') a)
    (named' : Named (changes ++ changes') a') (leased : r''.leases.find? a = some l)
    (leased' : r''.leases.find? a' = some l') (same : l.generation = l'.generation) : a = a' := by
  by_cases last : Named changes' a <;> by_cases last' : Named changes' a'
  · exact accounts'.distinct a a' l l' last last' leased leased' same
  · have above := (accounts'.renewed a l last leased).1
    rw [accounts'.unnamed last'] at leased'
    have first' := (named_append.1 named').resolve_right last'
    have below := (accounts.renewed a' l' first' leased').2
    omega
  · have above := (accounts'.renewed a' l' last' leased').1
    rw [accounts'.unnamed last] at leased
    have first := (named_append.1 named).resolve_right last
    have below := (accounts.renewed a l first leased).2
    omega
  · rw [accounts'.unnamed last] at leased
    rw [accounts'.unnamed last'] at leased'
    have first := (named_append.1 named).resolve_right last
    have first' := (named_append.1 named').resolve_right last'
    exact accounts.distinct a a' l l' first first' leased leased' same

theorem Evolves.trans (before : Evolves r r') (after : Evolves r' r'') : Evolves r r'' := by
  obtain ⟨cs, ns, changes, notices, accounts⟩ := before.accounts
  obtain ⟨cs', ns', changes', notices', accounts'⟩ := after.accounts
  refine ⟨after.secret.trans before.secret, after.idle.trans before.idle,
    after.first.trans before.first, after.last.trans before.last, cs ++ cs', ns ++ ns',
    by rw [changes', changes, List.append_assoc], by rw [notices', notices, List.append_assoc], ?_⟩
  constructor
  · intro a members released
    simp only [List.mem_append, not_or] at members released
    rw [accounts'.same a members.2 released.2, accounts.same a members.1 released.1]
  · intro a l released leased
    simp only [List.mem_append, not_or] at released
    obtain ⟨l', leased', group⟩ := accounts.kept a l released.1 leased
    obtain ⟨l'', leased'', group'⟩ := accounts'.kept a l' released.2 leased'
    exact ⟨l'', leased'', group'.trans group⟩
  · intro a
    simp only [List.mem_append, accounts.noticed, accounts'.noticed]
    constructor
    · rintro (⟨g, noticed⟩ | ⟨g, noticed⟩)
      · exact ⟨g, .inl noticed⟩
      · exact ⟨g, .inr noticed⟩
    · rintro ⟨g, noticed | noticed⟩
      · exact .inl ⟨g, noticed⟩
      · exact .inr ⟨g, noticed⟩
  · intro e p
    simp [accounts.foreign e p, accounts'.foreign e p]
  · intro a l named leased
    have before := accounts.stamps.1
    by_cases last : Named cs' a
    · obtain ⟨above, below⟩ := accounts'.renewed a l last leased
      exact ⟨Nat.lt_of_le_of_lt before above, below⟩
    · have first := (named_append.1 named).resolve_right last
      rw [accounts'.unnamed last] at leased
      obtain ⟨above, below⟩ := accounts.renewed a l first leased
      exact ⟨above, Nat.le_trans below accounts'.stamps.1⟩
  · exact fun a a' l l' named named' => accounts.distinct_trans accounts' named named'
  · obtain ⟨grown, bounded⟩ := accounts.stamps
    obtain ⟨grown', bounded'⟩ := accounts'.stamps
    rw [List.length_append]
    omega

/-- An operation that touches no lease, whatever else it writes down. -/
theorem evolves_of_leases_eq (notices : List Notice) (leases : r'.leases = r.leases)
    (changes : r'.changes = r.changes) (generation : r'.generation = r.generation)
    (noticed : r'.notices = r.notices ++ notices)
    (silent : ∀ a g, .addressReleased a g ∉ notices)
    (foreign : ∀ e p, .mappingRemoved e p ∉ notices) (secret : r'.secret = r.secret)
    (idle : r'.sessions.idle = r.sessions.idle) (first : r'.pool.first = r.pool.first)
    (last : r'.pool.last = r.pool.last) : Evolves r r' := by
  refine ⟨secret, idle, first, last, [], notices, by simp [changes], noticed, ?_⟩
  constructor
  · intro a _ _
    rw [leases]
  · intro a l _ leased
    exact ⟨l, by rw [leases, leased], rfl⟩
  · intro a
    simp [silent]
  · exact foreign
  · simp [Named]
  · simp [Named]
  · simp [generation]

theorem Evolves.refl (r : Registry) : Evolves r r :=
  evolves_of_leases_eq [] rfl rfl rfl (by simp) (by simp) (by simp) rfl rfl rfl rfl

theorem note_evolves {n : Notice} (silent : ∀ a g, .addressReleased a g ≠ n)
    (foreign : ∀ e p, .mappingRemoved e p ≠ n) : Evolves r (r.note n) :=
  evolves_of_leases_eq [n] rfl rfl rfl rfl (by simpa using silent) (by simpa using foreign)
    rfl rfl rfl rfl

theorem sessions_evolve {m : IdleMap Peer Session} (idle : m.idle = r.sessions.idle) :
    Evolves r { r with sessions := m } :=
  evolves_of_leases_eq [] rfl rfl rfl (by simp) (by simp) (by simp) rfl idle rfl rfl

/-! ### The leases themselves -/

/-- Members are stored under the group that has had the address. -/
theorem setMembers_evolves {lease : Lease} (members : List (Nat × Peer))
    (keeps : ∀ l, r.leases.find? address = some l → lease.group = l.group) :
    Evolves r ((r.setMembers address lease members).changed (.members address)) := by
  refine ⟨rfl, rfl, rfl, rfl, [.members address], [], rfl, by simp [setMembers, changed], ?_⟩
  have leases := Table.find?_insert r.leases address
    { lease with members, snapshot := ⟨r.generation + 1, members.map Prod.snd⟩ }
  constructor
  · intro a other _
    simp only [List.mem_singleton, Change.members.injEq] at other
    exact (leases a).trans (if_neg other)
  · intro a l _ leased
    by_cases same : a = address
    · subst same
      exact ⟨_, (leases a).trans (if_pos rfl), keeps l leased⟩
    · exact ⟨l, (leases a).trans (by rw [if_neg same, leased]), rfl⟩
  · simp
  · simp
  · intro a l named leased
    have here : a = address := by simpa [Named] using named
    obtain rfl := Option.some.inj (((leases a).trans (if_pos here)).symm.trans leased)
    exact ⟨Nat.lt_succ_self _, Nat.le_refl _⟩
  · intro a a' l l' named named' _ _ _
    have here : a = address ∧ a' = address := by simpa [Named] using And.intro named named'
    exact here.1.trans here.2.symm
  · exact ⟨Nat.le_succ _, Nat.le_refl _⟩

theorem releaseLease_evolves (lease : Lease) : Evolves r (r.releaseLease session lease) := by
  have bounds := r.pool.release_bounds session.address
  refine ⟨rfl, rfl, bounds.1, bounds.2, [.released session.address],
    [.addressReleased session.address session.group], rfl, rfl, ?_⟩
  have leases := Table.find?_erase r.leases session.address
  constructor
  · intro a _ other
    simp only [List.mem_singleton, Change.released.injEq] at other
    exact (leases a).trans (if_neg other)
  · intro a l other leased
    simp only [List.mem_singleton, Change.released.injEq] at other
    exact ⟨l, (leases a).trans (by rw [if_neg other, leased]), rfl⟩
  · simp
  · simp
  · intro a l named leased
    have here : a = session.address := by simpa [Named] using named
    cases ((leases a).trans (if_pos here)).symm.trans leased
  · intro a a' l l' named named' _ _ _
    have here : a = session.address ∧ a' = session.address := by
      simpa [Named] using And.intro named named'
    exact here.1.trans here.2.symm
  · exact ⟨Nat.le_refl _, Nat.le_add_right _ _⟩

theorem withdraw_evolves (session : Session) : Evolves r (r.withdraw session) := by
  unfold withdraw
  cases found : r.leases.find? session.address with
  | none => exact .refl r
  | some lease =>
    dsimp only
    split
    · exact .refl r
    · split
      · exact releaseLease_evolves lease
      · refine setMembers_evolves _ fun l leased => ?_
        rw [found] at leased
        rw [Option.some.inj leased]

theorem lease_evolves : Evolves r (r.lease group address) := by
  have bounds := r.pool.occupy_bounds address
  unfold lease
  split
  · exact .refl r
  · exact evolves_of_leases_eq [.addressLeased address group] rfl rfl rfl rfl (by simp)
      (by simp) rfl rfl bounds.1 bounds.2

theorem enlist_evolves : Evolves r (r.enlist session source) := by
  refine setMembers_evolves _ fun l leased => ?_
  rw [leased, Option.getD_some]

/-! ### Whole operations -/

theorem evict_evolves : Evolves r (owner.evict source session r) :=
  (sessions_evolve (IdleMap.idle_remove)).trans
    ((note_evolves (by simp) (by simp)).trans (withdraw_evolves session))

theorem record_evolves : Evolves r (r.record now source group address) := by
  have leased : Evolves r (r.lease group address) := lease_evolves
  have numbered : Evolves r
      { r.lease group address with nextSerial := (r.lease group address).nextSerial + 1 } :=
    leased.trans (evolves_of_leases_eq [] rfl rfl rfl (by simp) (by simp) (by simp)
      rfl rfl rfl rfl)
  exact numbered.trans (enlist_evolves.trans
    ((note_evolves (by simp) (by simp)).trans (sessions_evolve IdleMap.idle_insert)))

theorem admitNew_evolves (offer : Ipv4 → Bool) :
    Evolves r (r.admitNew now source group offer).1 := by
  rcases r.admitNew_cases now source group offer with
    ⟨-, result⟩ | ⟨_, -, -, result⟩ | ⟨_, -, -, result⟩ <;> rw [result]
  · exact note_evolves (by simp) (by simp)
  · exact .refl r
  · exact record_evolves

theorem dropPrevious_evolves : Evolves r (r.dropPrevious source session group) := by
  refine (note_evolves ?_ ?_).trans ((sessions_evolve IdleMap.idle_remove).trans
    (withdraw_evolves session))
  · intro a g
    split <;> simp
  · intro e p
    split <;> simp

theorem vacate_evolves : Evolves r (r.vacate source group) := by
  unfold vacate
  split
  · exact .refl r
  · exact dropPrevious_evolves

theorem join_evolves (now : Nat) (source : Peer) (request : JoinRequest) (offer : Ipv4 → Bool) :
    Evolves r (r.join now source request offer).1 := by
  rcases r.join_cases now source request offer with
    ⟨-, result⟩ | ⟨-, _, -, -, result⟩ | ⟨-, -, result⟩ <;> rw [result]
  · exact note_evolves (by simp) (by simp)
  · exact sessions_evolve IdleMap.idle_refresh
  · exact vacate_evolves.trans (admitNew_evolves offer)

theorem leave_evolves (source : Peer) : Evolves r (r.leave source).1 := by
  unfold leave
  split
  · exact .refl r
  · exact (sessions_evolve IdleMap.idle_remove).trans
      ((note_evolves (by simp) (by simp)).trans (withdraw_evolves _))

theorem lookup_evolves (now : Nat) (source : Peer) : Evolves r (r.lookup now source).1 :=
  IdleMap.Owner.lookup_preserves (P := Evolves r)
    (fun evolved => evolved.trans (sessions_evolve IdleMap.idle_refresh))
    (fun _ _ evolved => evolved.trans evict_evolves) (.refl r)

theorem sweep_evolves (now : Nat) : Evolves r (r.sweep now).1 :=
  IdleMap.Owner.sweep_preserves (P := Evolves r)
    (fun _ _ _ _ evolved => evolved.trans evict_evolves) (.refl r)

/-- All the sessions of the list are withdrawn in turn, the idle map being empty. -/
def drain (order : List (Peer × Session)) (r : Registry) : Registry :=
  order.foldl (fun r (_, session) => r.withdraw session) { r with sessions := r.sessions.clear }

theorem drain_evolves (order : List (Peer × Session)) (r : Registry) : Evolves r (r.drain order) :=
  List.foldlRecOn (motive := Evolves r) order
    (fun r (entry : Peer × Session) => r.withdraw entry.2)
    (sessions_evolve (m := r.sessions.clear) rfl)
    fun _ evolved entry _ => evolved.trans (withdraw_evolves entry.2)

theorem clear_evolves : Evolves r r.clear.1 := by
  have drained := drain_evolves r.sessions.toList r
  unfold clear
  dsimp only
  split
  · exact drained
  · exact drained.trans (note_evolves (by simp) (by simp))

end Concentrator.Registry
