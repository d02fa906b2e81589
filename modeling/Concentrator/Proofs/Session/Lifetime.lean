import Concentrator.Proofs.Session.Generations

/-!
# Sessions follow history

Whether a source has a session, and behind which address, can be told from what
has happened alone: from its newest admission, from the times at which it has
used that session since, and from what has ended it since. `run_remembered` says
that the tables never differ from it, whether or not a session that has idled
out has been evicted in the meantime.
-/

namespace Concentrator.Registry

variable {r r' u : Registry} {source p : Peer} {session : Session} {address a : Ipv4}
  {group g : String} {held : Option Session} {members : List (Nat × Peer)} {now later : Nat}

/-! ### Live sessions -/

/-- From `now` on the same sessions are live, and none has been recorded. -/
structure Steady (now : Nat) (r r' : Registry) : Prop where
  live : ∀ later, now ≤ later → ∀ p, r'.sessions.live? later p = r.sessions.live? later p
  old : ∀ p session, r'.sessions.peek? p = some session → r.sessions.peek? p = some session

/-- A source has `held`, used at `now`, in place of what it had; nobody else is affected. -/
structure Settled (now : Nat) (source : Peer) (held : Option Session) (r r' : Registry) : Prop where
  idle : r'.sessions.idle = r.sessions.idle
  entries : ∀ p, r'.sessions.entries.find? p =
    if p = source then held.map fun session => ⟨session, now⟩ else r.sessions.entries.find? p

theorem steady_of_sessions_eq (same : r'.sessions = r.sessions) : Steady now r r' where
  live _ _ p := by rw [same]
  old p session present := by rwa [same] at present

theorem Steady.trans (before : Steady now r u) (after : Steady now u r') : Steady now r r' :=
  ⟨fun later le p => (after.live later le p).trans (before.live later le p),
    fun p session present => before.old p session (after.old p session present)⟩

theorem Settled.trans (before : Settled now source none r u)
    (after : Settled now source held u r') : Settled now source held r r' := by
  refine ⟨after.idle.trans before.idle, fun p => ?_⟩
  rw [after.entries, before.entries]
  by_cases same : p = source
  · rw [if_pos same, if_pos same]
  · rw [if_neg same, if_neg same, if_neg same]

theorem Settled.peek? (settled : Settled now source held r r') (p : Peer) :
    r'.sessions.peek? p = if p = source then held else r.sessions.peek? p := by
  rw [IdleMap.peek?, settled.entries]
  by_cases same : p = source
  · rw [if_pos same, if_pos same]
    cases held <;> rfl
  · rw [if_neg same, if_neg same]
    rfl

theorem Settled.live?_other (settled : Settled now source held r r') (other : p ≠ source)
    (later : Nat) : r'.sessions.live? later p = r.sessions.live? later p := by
  rw [IdleMap.live?_eq_bind, IdleMap.live?_eq_bind, settled.entries, if_neg other, settled.idle]

theorem Settled.live?_self_iff (settled : Settled now source held r r') :
    r'.sessions.live? later source = some session ↔
      held = some session ∧ later - now ≤ r.sessions.idle := by
  rw [IdleMap.live?_eq_bind, settled.entries, if_pos rfl, settled.idle]
  cases held with
  | none => simp
  | some s =>
    by_cases close : later - now ≤ r.sessions.idle
    · simp only [Option.map_some, Option.bind_some, close, if_true, and_true]
    · simp only [Option.map_some, Option.bind_some, close, if_false, and_false, reduceCtorEq]

/-- Who had no live session anyway loses nothing. -/
theorem Settled.steady (settled : Settled now source none r r')
    (dead : r.sessions.live? now source = none) : Steady now r r' where
  live later le p := by
    by_cases same : p = source
    · rw [same, IdleMap.live?_eq_none_of_le dead le, Option.eq_none_iff_forall_ne_some]
      intro session live
      cases (settled.live?_self_iff.1 live).1
    · exact settled.live?_other same later
  old p session present := by
    rw [settled.peek?] at present
    by_cases same : p = source
    · rw [if_pos same] at present
      cases present
    · rwa [if_neg same] at present

/-! ### What each operation does to them -/

theorem settled_refresh (live : r.sessions.live? now source = some session) :
    Settled now source (some session) r
      { r with sessions := r.sessions.refresh now source } := by
  obtain ⟨e, found, rfl, -⟩ := IdleMap.live?_eq_some_iff.1 live
  refine ⟨rfl, fun p => (Table.find?_modify _ _ _ p).trans ?_⟩
  by_cases same : p = source
  · rw [if_pos same, if_pos same, same, found]
    rfl
  · rw [if_neg same, if_neg same]

theorem settled_drop (notices : List Notice) :
    Settled now source none r (withdraw session
      { r with sessions := r.sessions.remove source, notices := notices }) := by
  constructor
  · rw [withdraw_sessions]
    rfl
  · intro p
    rw [withdraw_sessions]
    exact Table.find?_erase _ _ _

theorem settled_absent (absent : r.sessions.peek? source = none) :
    Settled now source none r r := by
  refine ⟨rfl, fun p => ?_⟩
  by_cases same : p = source
  · rw [if_pos same, same]
    exact Option.map_eq_none_iff.1 absent
  · rw [if_neg same]

theorem record_settled (r : Registry) (now : Nat) (source : Peer) (group : String)
    (address : Ipv4) : Settled now source (some ⟨r.nextSerial, group, address⟩) r
      (r.record now source group address) := by
  have sessions : (r.record now source group address).sessions =
      r.sessions.insert now source ⟨r.nextSerial, group, address⟩ := by
    simp only [record, enlist, setMembers, changed, note, lease_sessions, lease_nextSerial]
  constructor
  · rw [sessions]
    rfl
  · intro p
    rw [sessions]
    exact Table.find?_insert _ _ _ p

theorem lookup_settled (r : Registry) (now : Nat) (source : Peer) :
    (r.lookup now source).2 = r.sessions.live? now source ∧
      Settled now source (r.sessions.live? now source) r (r.lookup now source).1 := by
  rcases owner.lookup_cases r now source with
    ⟨e, found, fresh, result⟩ | ⟨e, found, expired, result⟩ | ⟨absent, result⟩
  · have live : r.sessions.live? now source = some e.value :=
      (IdleMap.live?_of_find? found).trans (if_neg (Bool.eq_false_iff.1 fresh))
    rw [lookup, result, live]
    exact ⟨rfl, settled_refresh live⟩
  · have dead : r.sessions.live? now source = none :=
      (IdleMap.live?_of_find? found).trans (if_pos expired)
    rw [lookup, result, dead]
    exact ⟨rfl, settled_drop _⟩
  · have unknown : r.sessions.peek? source = none := congrArg (Option.map Timed.value) absent
    have dead : r.sessions.live? now source = none := by
      rw [Option.eq_none_iff_forall_ne_some]
      intro session live
      rw [IdleMap.peek?_of_live? live] at unknown
      cases unknown
    rw [lookup, result, dead]
    exact ⟨rfl, settled_absent unknown⟩

theorem leave_settled (r : Registry) (now : Nat) (source : Peer) :
    Settled now source none r (r.leave source).1 := by
  unfold leave
  cases present : r.sessions.peek? source with
  | none => exact settled_absent present
  | some session => exact settled_drop _

theorem vacate_settled (r : Registry) (now : Nat) (source : Peer) (group : String) :
    Settled now source none r (r.vacate source group) := by
  cases present : r.sessions.peek? source with
  | none =>
    rw [vacate_of_absent present]
    exact settled_absent present
  | some previous =>
    rw [vacate_of_present present]
    exact settled_drop _

/-- A newcomer has a session afterwards exactly if it is told that it has been admitted. -/
theorem newcomer_settled (r : Registry) (now : Nat) (source : Peer) (group : String)
    (offer : Ipv4 → Bool) :
    let answer := (r.vacate source group).admitNew now source group offer
    (answer.2.admission = none ∧ Settled now source none r answer.1) ∨
      ∃ address serial, answer.2.admission = some ⟨address, true⟩ ∧
        Settled now source (some ⟨serial, group, address⟩) r answer.1 := by
  intro answer
  have vacated := r.vacate_settled now source group
  rcases (r.vacate source group).admitNew_cases now source group offer with
    ⟨-, result⟩ | ⟨_, -, -, result⟩ | ⟨address, -, -, result⟩ <;>
    rw [show answer = _ from result]
  · exact .inl ⟨rfl, vacated.idle, vacated.entries⟩
  · exact .inl ⟨rfl, vacated⟩
  · exact .inr ⟨address, _, rfl, vacated.trans (record_settled _ now source group address)⟩

theorem sweep_steady (now : Nat) (r : Registry) : Steady now r (r.sweep now).1 := by
  refine IdleMap.Owner.sweep_preserves_of_expired (P := Steady now r) ?_ (steady_of_sessions_eq rfl)
  intro t source e found expired steady
  have gone : Settled now source none t (owner.evict source e.value t) := settled_drop _
  exact steady.trans (gone.steady ((IdleMap.live?_of_find? found).trans (if_pos expired)))

/-! ### Histories -/

/-- What an operation has to do with the session of a source. -/
inductive Deed where
  /-- The source was told that it had been admitted as a new member of the group. -/
  | admitted (now : Nat) (source : Peer) (group : String) (address : Ipv4)
  /-- The source asked for the group with the right secret and did not become a new member. -/
  | asked (now : Nat) (source : Peer) (group : String)
  | found (now : Nat) (source : Peer)
  | left (source : Peer)
  | cleared

def deed? (s : Clocked Registry) : Event → Option Deed
  | .join source request offer =>
    match (s.state.join s.now source request offer).2.admission with
    | some ⟨address, true⟩ => some (.admitted s.now source request.group address)
    | _ =>
      if request.secret = s.state.secret then some (.asked s.now source request.group) else none
  | .leave source => some (.left source)
  | .lookup source => (s.state.lookup s.now source).2.map fun _ => .found s.now source
  | .sweep => none
  | .clear => some .cleared
  | .advance _ => none

/-- All deeds of a sequence of operations, the newest first. -/
def history (s : Clocked Registry) : List Event → List Deed
  | [] => []
  | e :: rest => history (step s e) rest ++ (deed? s e).toList

namespace Deed

/-- The source that acts; everyone is affected by a `cleared`. -/
def source? : Deed → Option Peer
  | admitted _ p _ _ => some p
  | asked _ p _ => some p
  | found _ p => some p
  | left p => some p
  | cleared => none

/-- The time of a deed that uses the session of a source, if it has one. -/
def use? (source : Peer) : Deed → Option Nat
  | asked now p _ => if p = source then some now else none
  | found now p => if p = source then some now else none
  | _ => none

/-- No earlier session of the source in the group outlives the deed. -/
def Ends (source : Peer) (group : String) : Deed → Prop
  | admitted _ p _ _ => p = source
  | asked _ p g => p = source ∧ g ≠ group
  | found _ _ => False
  | left p => p = source
  | cleared => True

end Deed

/-- The newest admission of a source is the one at `begun`, `later` is what has happened since, and
nothing of it has ended the session. -/
def Since (h : List Deed) (source : Peer) (group : String) (address : Ipv4) (begun : Nat)
    (later : List Deed) : Prop :=
  (∃ earlier, h = later ++ .admitted begun source group address :: earlier) ∧
    ∀ d ∈ later, ¬d.Ends source group

/-- Nothing has ended the session of the newest admission of a source. -/
def Stands (h : List Deed) (source : Peer) (group : String) (address : Ipv4) : Prop :=
  ∃ begun later, Since h source group address begun later

/-- And at no time until `now` has it been idle for longer than the window. -/
def Lasts (idle : Nat) (h : List Deed) (now : Nat) (source : Peer) (group : String)
    (address : Ipv4) : Prop :=
  ∃ begun later, Since h source group address begun later ∧
    (now :: (later.filterMap (Deed.use? source) ++ [begun])).IsChain fun next last =>
      next - last ≤ idle

variable {idle : Nat} {h : List Deed} {d : Deed} {s : Clocked Registry}

theorem Lasts.stands (lasts : Lasts idle h now source group address) :
    Stands h source group address := by
  obtain ⟨begun, later, since, -⟩ := lasts
  exact ⟨begun, later, since⟩

theorem not_stands_nil : ¬Stands [] source group address := by
  rintro ⟨begun, later, ⟨earlier, split⟩, -⟩
  simp at split

theorem since_cons_iff {begun : Nat} {later : List Deed} :
    Since (d :: h) source group address begun later ↔
      (later = [] ∧ d = .admitted begun source group address) ∨
        ∃ rest, later = d :: rest ∧ ¬d.Ends source group ∧
          Since h source group address begun rest := by
  constructor
  · rintro ⟨⟨earlier, split⟩, kept⟩
    cases later with
    | nil => exact .inl ⟨rfl, (List.cons.inj split).1⟩
    | cons first rest =>
      obtain ⟨rfl, rfl⟩ := List.cons.inj split
      rw [List.forall_mem_cons] at kept
      exact .inr ⟨rest, rfl, kept.1, ⟨earlier, rfl⟩, kept.2⟩
  · rintro (⟨rfl, rfl⟩ | ⟨rest, rfl, kept, ⟨earlier, rfl⟩, all⟩)
    · exact ⟨⟨h, rfl⟩, by simp⟩
    · exact ⟨⟨earlier, rfl⟩, List.forall_mem_cons.2 ⟨kept, all⟩⟩

theorem stands_cons_iff : Stands (d :: h) source group address ↔
    (∃ begun, d = .admitted begun source group address) ∨
      ¬d.Ends source group ∧ Stands h source group address := by
  simp only [Stands, since_cons_iff]
  constructor
  · rintro ⟨begun, later, ⟨-, rfl⟩ | ⟨rest, -, kept, since⟩⟩
    · exact .inl ⟨begun, rfl⟩
    · exact .inr ⟨kept, begun, rest, since⟩
  · rintro (⟨begun, rfl⟩ | ⟨kept, begun, rest, since⟩)
    · exact ⟨begun, [], .inl ⟨rfl, rfl⟩⟩
    · exact ⟨begun, d :: rest, .inr ⟨rest, rfl, kept, since⟩⟩

/-- A deed that uses the session has to come in time, and the clock starts again with it. -/
theorem lasts_cons_iff : Lasts idle (d :: h) now source group address ↔
    (∃ begun, d = .admitted begun source group address ∧ now - begun ≤ idle) ∨
      ¬d.Ends source group ∧ (∀ time, d.use? source = some time → now - time ≤ idle) ∧
        Lasts idle h ((d.use? source).getD now) source group address := by
  simp only [Lasts, since_cons_iff]
  constructor
  · rintro ⟨begun, later, ⟨rfl, rfl⟩ | ⟨rest, rfl, kept, since⟩, chain⟩
    · exact .inl ⟨begun, rfl, by simpa using chain⟩
    · refine .inr ⟨kept, ?_⟩
      cases used : d.use? source with
      | none =>
        rw [List.filterMap_cons_none used] at chain
        exact ⟨by simp, begun, rest, since, chain⟩
      | some time =>
        rw [List.filterMap_cons_some used, List.cons_append, List.isChain_cons_cons] at chain
        exact ⟨by simpa using chain.1, begun, rest, since, chain.2⟩
  · rintro (⟨begun, rfl, close⟩ | ⟨kept, close, begun, rest, since, chain⟩)
    · exact ⟨begun, [], .inl ⟨rfl, rfl⟩, by simpa using close⟩
    · refine ⟨begun, d :: rest, .inr ⟨rest, rfl, kept, since⟩, ?_⟩
      cases used : d.use? source with
      | none =>
        rw [used] at chain
        rw [List.filterMap_cons_none used]
        exact chain
      | some time =>
        rw [used] at chain
        rw [List.filterMap_cons_some used, List.cons_append, List.isChain_cons_cons]
        exact ⟨close time used, chain⟩

theorem Deed.foreign (acting : d.source? = some source) (other : p ≠ source) :
    d.use? p = none ∧ ∀ group, ¬d.Ends p group := by
  cases d with
  | cleared => cases acting
  | _ =>
    obtain rfl := Option.some.inj acting
    simp [use?, Ends, Ne.symm other]

theorem stands_foreign_iff (acting : d.source? = some source) (other : p ≠ source) :
    Stands (d :: h) p group address ↔ Stands h p group address := by
  obtain ⟨-, kept⟩ := Deed.foreign acting other
  rw [stands_cons_iff]
  constructor
  · rintro (⟨begun, rfl⟩ | ⟨-, stands⟩)
    · exact absurd rfl (kept group)
    · exact stands
  · exact fun stands => .inr ⟨kept group, stands⟩

theorem lasts_foreign_iff (acting : d.source? = some source) (other : p ≠ source) :
    Lasts idle (d :: h) now p group address ↔ Lasts idle h now p group address := by
  obtain ⟨unused, kept⟩ := Deed.foreign acting other
  rw [lasts_cons_iff, unused]
  constructor
  · rintro (⟨begun, rfl, -⟩ | ⟨-, -, lasts⟩)
    · exact absurd rfl (kept group)
    · exact lasts
  · exact fun lasts => .inr ⟨kept group, by simp, lasts⟩

theorem lasts_asked_iff (time : Nat) :
    Lasts idle (.asked time source g :: h) now source group address ↔
      g = group ∧ now - time ≤ idle ∧ Lasts idle h time source group address := by
  rw [lasts_cons_iff]
  simp [Deed.Ends, Deed.use?]

theorem lasts_admitted_iff (time : Nat) :
    Lasts idle (.admitted time source g a :: h) now source group address ↔
      g = group ∧ a = address ∧ now - time ≤ idle := by
  rw [lasts_cons_iff]
  simp [Deed.Ends, and_assoc]

/-! ### Tables and histories -/

/-- From now on the live sessions are those that last, and only what stands is on record. -/
structure Follows (idle : Nat) (h : List Deed) (s : Clocked Registry) : Prop where
  live_iff : ∀ later, s.now ≤ later → ∀ source group address,
    (∃ session, s.state.sessions.live? later source = some session ∧ session.group = group ∧
      session.address = address) ↔ Lasts idle h later source group address
  stands : ∀ source session, s.state.sessions.peek? source = some session →
    Stands h source session.group session.address

theorem Follows.steady (follows : Follows idle h s) (steady : Steady s.now s.state r) :
    Follows idle h { s with state := r } where
  live_iff later le source group address := by
    rw [← follows.live_iff later le]
    simp only [steady.live later le]
  stands source session present := follows.stands source session (steady.old source session present)

/-- It is enough to look at the source itself: what it has lasts by the history that ends with its
own deed. -/
theorem Follows.settled (follows : Follows idle h s) (window : s.state.sessions.idle = idle)
    (settled : Settled s.now source held s.state r) (acting : d.source? = some source)
    (own : ∀ later, s.now ≤ later → ∀ group address,
      (∃ session, held = some session ∧ session.group = group ∧ session.address = address) ∧
        later - s.now ≤ idle ↔ Lasts idle (d :: h) later source group address) :
    Follows idle (d :: h) { s with state := r } where
  live_iff later le p group address := by
    by_cases self : p = source
    · rw [self, ← own later le]
      simp only [settled.live?_self_iff, window]
      constructor
      · rintro ⟨session, ⟨has, close⟩, inside⟩
        exact ⟨⟨session, has, inside⟩, close⟩
      · rintro ⟨⟨session, has, inside⟩, close⟩
        exact ⟨session, ⟨has, close⟩, inside⟩
    · rw [lasts_foreign_iff acting self, ← follows.live_iff later le]
      simp only [settled.live?_other self]
  stands p session present := by
    rw [settled.peek?] at present
    by_cases self : p = source
    · rw [if_pos self] at present
      rw [self]
      have fresh : s.now - s.now ≤ idle := by omega
      exact ((own s.now (Nat.le_refl _) _ _).1 ⟨⟨session, present, rfl, rfl⟩, fresh⟩).stands
    · rw [if_neg self] at present
      exact (stands_foreign_iff acting self).2 (follows.stands p session present)

theorem join_follows (window : s.state.sessions.idle = idle) (follows : Follows idle h s)
    (source : Peer) (request : JoinRequest) (offer : Ipv4 → Bool) :
    Follows idle ((deed? s (.join source request offer)).toList ++ h)
      (step s (.join source request offer)) := by
  have present := follows.live_iff s.now (Nat.le_refl _)
  rcases s.state.join_cases s.now source request offer with
    ⟨unknown, result⟩ | ⟨known, session, live, joined, result⟩ | ⟨known, apart, result⟩
  · simp only [deed?, step, result, if_neg unknown, Option.toList_none, List.nil_append]
    exact follows.steady (steady_of_sessions_eq rfl)
  · have deed : deed? s (.join source request offer) =
        some (.asked s.now source request.group) := by
      cases told : offer session.address <;> simp [deed?, result, known, told]
    rw [deed]
    simp only [step, result]
    refine follows.settled window (settled_refresh live) rfl ?_
    intro later _ group address
    rw [lasts_asked_iff, ← present, live, ← joined]
    simp only [Option.some.injEq, exists_eq_left']
    constructor
    · rintro ⟨inside, close⟩
      exact ⟨inside.1, close, inside⟩
    · rintro ⟨-, close, inside⟩
      exact ⟨inside, close⟩
  -- what the source had ends here, but it was no live session in the group that it asks for
  · rcases s.state.newcomer_settled s.now source request.group offer with
      ⟨refused, settled⟩ | ⟨address, serial, admitted, settled⟩
    · have deed : deed? s (.join source request offer) =
          some (.asked s.now source request.group) := by
        simp [deed?, result, known, refused]
      rw [deed]
      simp only [step, result]
      refine follows.settled window settled rfl ?_
      intro later _ group address
      rw [lasts_asked_iff, ← present]
      constructor
      · rintro ⟨⟨_, held, -⟩, -⟩
        cases held
      · rintro ⟨named, -, session, live, rfl, -⟩
        exact absurd named.symm (apart session live)
    · have deed : deed? s (.join source request offer) =
          some (.admitted s.now source request.group address) := by
        simp [deed?, result, admitted]
      rw [deed]
      simp only [step, result]
      refine follows.settled window settled rfl ?_
      intro later _ group address
      rw [lasts_admitted_iff]
      simp [and_assoc]

theorem step_follows (window : s.state.sessions.idle = idle) (follows : Follows idle h s)
    (e : Event) : Follows idle ((deed? s e).toList ++ h) (step s e) := by
  have present := follows.live_iff s.now (Nat.le_refl _)
  cases e with
  | join source request offer => exact join_follows window follows source request offer
  | leave source =>
    refine follows.settled window (s.state.leave_settled s.now source) rfl ?_
    intro later _ group address
    simp [lasts_cons_iff, Deed.Ends]
  | lookup source =>
    obtain ⟨answer, settled⟩ := s.state.lookup_settled s.now source
    cases live : s.state.sessions.live? s.now source with
    | none =>
      -- the eviction leaves no trace in the history: the session had not lasted
      rw [live] at settled
      simp only [deed?, answer, live, Option.map_none, Option.toList_none, List.nil_append]
      exact follows.steady (settled.steady live)
    | some session =>
      rw [live] at settled
      simp only [deed?, answer, live, Option.map_some, Option.toList_some, List.singleton_append]
      refine follows.settled window settled rfl ?_
      intro later _ group address
      rw [← live, present]
      simp [lasts_cons_iff, Deed.Ends, Deed.use?, and_comm]
  | sweep => exact follows.steady (sweep_steady s.now s.state)
  | clear =>
    obtain ⟨sessions, -⟩ := s.state.clear_withdraws
    constructor
    · intro later _ source group address
      show (∃ session, s.state.clear.1.sessions.live? later source = some session ∧ _) ↔
        Lasts idle (.cleared :: h) later source group address
      rw [sessions, lasts_cons_iff]
      simp [Deed.Ends, IdleMap.live?, IdleMap.clear]
    · intro source session present
      rw [show (step s .clear).state.sessions = _ from sessions] at present
      cases present
  | advance milliseconds =>
    exact ⟨fun later le => follows.live_iff later (Nat.le_trans (Nat.le_add_right _ _) le),
      follows.stands⟩

theorem run_follows (window : s.state.sessions.idle = idle) (follows : Follows idle h s)
    (events : List Event) : Follows idle (history s events ++ h) (run s events) := by
  induction events generalizing s h with
  | nil => exact follows
  | cons e rest ih =>
    have evolved := step_evolves s e
    have later := ih (evolved.idle.trans window) (step_follows window follows e)
    rw [history, List.append_assoc]
    exact later

theorem create_follows (secret : String) (pool : Pool) (idle start : Nat) :
    Follows idle [] ⟨create secret pool idle, start⟩ where
  live_iff later _ source group address := by
    constructor
    · rintro ⟨session, live, -⟩
      cases live
    · exact fun lasts => absurd lasts.stands not_stands_nil
  stands source session present := by cases present

/-! ### Other sources -/

/-- The event is not a `clear`, and it is not the source that acts. -/
def Event.Spares (source : Peer) : Event → Prop
  | join p _ _ => p ≠ source
  | leave p => p ≠ source
  | lookup p => p ≠ source
  | sweep => True
  | clear => False
  | advance _ => True

theorem join_live?_other (r : Registry) (now : Nat) (request : JoinRequest) (offer : Ipv4 → Bool)
    (other : p ≠ source) (later : Nat) :
    (r.join now source request offer).1.sessions.live? later p = r.sessions.live? later p := by
  rcases r.join_cases now source request offer with
    ⟨-, result⟩ | ⟨-, session, live, -, result⟩ | ⟨-, -, result⟩ <;> rw [result]
  · rfl
  · exact (settled_refresh live).live?_other other later
  · rcases r.newcomer_settled now source request.group offer with
      ⟨-, settled⟩ | ⟨_, _, -, settled⟩
    · exact settled.live?_other other later
    · exact settled.live?_other other later

theorem step_spared {e : Event} (spares : e.Spares source) (le : (step s e).now ≤ later) :
    (step s e).state.sessions.live? later source = s.state.sessions.live? later source := by
  cases e with
  | join p request offer =>
    exact s.state.join_live?_other s.now request offer (Ne.symm spares) later
  | leave p =>
    have settled := s.state.leave_settled s.now p
    exact settled.live?_other (Ne.symm spares) later
  | lookup p =>
    obtain ⟨-, settled⟩ := s.state.lookup_settled s.now p
    exact settled.live?_other (Ne.symm spares) later
  | sweep => exact (sweep_steady s.now s.state).live later le source
  | clear => exact spares.elim
  | advance milliseconds => rfl

theorem step_now_le (s : Clocked Registry) (e : Event) : s.now ≤ (step s e).now := by
  cases e with
  | advance milliseconds => exact Nat.le_add_right _ _
  | _ => exact Nat.le_refl _

theorem run_now_le (s : Clocked Registry) (events : List Event) : s.now ≤ (run s events).now :=
  List.foldlRecOn (motive := fun t => s.now ≤ t.now) events step (Nat.le_refl _)
    fun t le e _ => Nat.le_trans le (step_now_le t e)

theorem run_spared {events : List Event} (spare : ∀ e ∈ events, e.Spares source)
    (le : (run s events).now ≤ later) :
    (run s events).state.sessions.live? later source = s.state.sessions.live? later source := by
  induction events generalizing s with
  | nil => rfl
  | cons e rest ih =>
    obtain ⟨spares, spare⟩ := List.forall_mem_cons.1 spare
    have before : (step s e).now ≤ later := Nat.le_trans (run_now_le (step s e) rest) le
    exact (ih spare le).trans (step_spared spares before)

/-! ### Sessions that have idled out -/

/-- A source has gone from among the members of a lease. The others stay, or the address is free
if there are none. -/
structure Parting (source : Peer) (group : String) (address : Ipv4) (members : List (Nat × Peer))
    (r r' : Registry) : Prop where
  others : members.filter (fun member => member.2 ≠ source) ≠ [] →
    r'.behind address = some (members.filter fun member => member.2 ≠ source) ∧
      r'.leaseOf? group = some address ∧ address.bits ∈ r'.pool.occupied
  last : members.filter (fun member => member.2 ≠ source) = [] →
    r'.behind address = none ∧ r'.leaseOf? group = none ∧ address.bits ∉ r'.pool.occupied
  elsewhere : ∀ a, a ≠ address → r'.leaseAt? a = r.leaseAt? a

theorem rest_eq {roster : Roster} {l : Lease} (tally : Tally roster r)
    (present : roster source = some session) (leased : r.leases.find? session.address = some l) :
    l.members.filter (fun member => member.1 ≠ session.serial) =
      l.members.filter fun member => member.2 ≠ source := by
  apply List.filter_congr
  rintro ⟨serial, peer⟩ member
  obtain ⟨s, recorded, rfl, -⟩ := ((tally.fits _ l leased).members_iff serial peer).1 member
  rw [decide_eq_decide]
  -- nobody else has the serial number of the session that goes
  refine not_congr ⟨fun same => ?_, ?_⟩
  · exact tally.numbered.distinct peer source s session recorded present same
  · rintro rfl
    rw [present] at recorded
    exact congrArg Session.serial (Option.some.inj recorded).symm

theorem withdraw_parting {roster : Roster} {l : Lease} (tally : Tally roster r)
    (present : roster source = some session) (leased : r.leases.find? session.address = some l) :
    Parting source session.group session.address l.members r (r.withdraw session) := by
  have tally' := withdraw_tally tally present
  have grouped : r.groups.find? session.group = some session.address := by
    have same := (tally.fits _ l leased).group source session present rfl
    exact (tally.groups _ _).2 ⟨l, leased, same.symm⟩
  obtain ⟨lease, found, cases⟩ := withdraw_cases tally present
  obtain rfl : l = lease := Option.some.inj (leased.symm.trans found)
  rw [rest_eq tally present leased] at cases
  rcases cases with ⟨alone, result⟩ | ⟨stay, result⟩
  · have leases : ∀ a, (r.withdraw session).leases.find? a =
        if a = session.address then none else r.leases.find? a := by
      intro a
      rw [result]
      exact Table.find?_erase _ _ _
    refine ⟨fun stay => absurd alone stay, fun _ => ⟨?_, ?_, ?_⟩, fun a other => ?_⟩
    · rw [behind, leaseAt?, leases, if_pos rfl]
      rfl
    · rw [leaseOf?, Option.eq_none_iff_forall_ne_some, result]
      intro a held
      obtain ⟨other, before⟩ := (releaseLease_groups tally leased session.group a).1 held
      rw [grouped] at before
      exact other (Option.some.inj before).symm
    · rw [tally'.occupied, leases, if_pos rfl]
      rintro ⟨_, gone⟩
      cases gone
    · rw [leaseAt?, leases, if_neg other]
      rfl
  · have leases := Table.find?_insert r.leases session.address
      { l with
        members := l.members.filter fun member => member.2 ≠ source
        snapshot := ⟨r.generation + 1,
          (l.members.filter fun member => member.2 ≠ source).map Prod.snd⟩ }
    rw [result] at tally' ⊢
    refine ⟨fun _ => ⟨?_, grouped, ?_⟩, fun alone => absurd alone stay, fun a other => ?_⟩
    · exact congrArg (Option.map Lease.members) ((leases _).trans (if_pos rfl))
    · exact (tally'.occupied _).2 ⟨_, (leases _).trans (if_pos rfl)⟩
    · exact (leases a).trans (if_neg other)

theorem lookup_parting (sound : r.Sound) (leased : r.behind address = some members)
    (member : source ∈ members.map Prod.snd) (missing : (r.lookup now source).2 = none) :
    ∃ session, r.sessions.peek? source = some session ∧ session.address = address ∧
      Parting source session.group address members r (r.lookup now source).1 := by
  obtain ⟨⟨serial, source⟩, inside, rfl⟩ := List.mem_map.1 member
  obtain ⟨session, recorded, -, rfl⟩ := (mem_behind_iff sound).1 ⟨members, leased, inside⟩
  obtain ⟨l, found, rfl⟩ := Option.map_eq_some_iff.1 leased
  refine ⟨session, recorded, rfl, ?_⟩
  rcases owner.lookup_cases r now source with
    ⟨_, -, -, result⟩ | ⟨e, present, -, result⟩ | ⟨absent, -⟩
  · rw [lookup, result] at missing
    cases missing
  · obtain rfl : e.value = session :=
      Option.some.inj ((IdleMap.peek?_of_find? present).symm.trans recorded)
    have tally : Tally r.sessions.peek? (note (.sessionExpired source e.value.address)
        { r with sessions := r.sessions.remove source }) := Tally.congr sound rfl rfl rfl rfl
    have parting := withdraw_parting tally recorded found
    rw [lookup, result]
    exact ⟨parting.others, parting.last, parting.elsewhere⟩
  · rw [IdleMap.peek?, show r.sessions.entries.find? source = none from absent] at recorded
    cases recorded

/-- What the history of a registry tells about its sessions. -/
structure Remembered (idle : Nat) (h : List Deed) (s : Clocked Registry) : Prop where
  /-- A source has a session exactly if its newest admission lasts, in the group and with the
  address of that admission. -/
  found_iff : ∀ source group address,
    (∃ session, (s.state.lookup s.now source).2 = some session ∧ session.group = group ∧
      session.address = address) ↔ Lasts idle h s.now source group address
  /-- A lookup for a member of a lease fails only because the session has idled out, and takes the
  source out of the lease. -/
  idled : ∀ source address members, s.state.behind address = some members →
    source ∈ members.map Prod.snd → (s.state.lookup s.now source).2 = none →
    ∃ group, Stands h source group address ∧ ¬Lasts idle h s.now source group address ∧
      Parting source group address members s.state (s.state.lookup s.now source).1
  absent : ∀ source, (s.state.lookup s.now source).2 = none → ∀ address members,
    (s.state.lookup s.now source).1.behind address = some members →
      source ∉ members.map Prod.snd
  /-- Whatever else happens, sweeps and the passing of time included, makes no difference. -/
  undisturbed : ∀ source events, (∀ e ∈ events, e.Spares source) →
    ((run s events).state.lookup (run s events).now source).2 =
      (s.state.lookup (run s events).now source).2

theorem Follows.remembered (follows : Follows idle h s) (sound : s.state.Sound) :
    Remembered idle h s := by
  have answer : ∀ source, (s.state.lookup s.now source).2 = s.state.sessions.live? s.now source :=
    fun source => (s.state.lookup_settled s.now source).1
  have present := follows.live_iff s.now (Nat.le_refl _)
  refine ⟨?_, ?_, ?_, ?_⟩
  · intro source group address
    rw [answer]
    exact present source group address
  · intro source address members leased member missing
    obtain ⟨session, recorded, rfl, parting⟩ := lookup_parting sound leased member missing
    refine ⟨session.group, follows.stands source session recorded, ?_, parting⟩
    rw [← present, ← answer, missing]
    rintro ⟨_, found, -⟩
    cases found
  · intro source missing address members leased member
    obtain ⟨-, settled⟩ := s.state.lookup_settled s.now source
    rw [← answer, missing] at settled
    obtain ⟨⟨serial, source⟩, inside, rfl⟩ := List.mem_map.1 member
    obtain ⟨session, recorded, -⟩ :=
      (mem_behind_iff (lookup_sound sound s.now _)).1 ⟨members, leased, inside⟩
    rw [settled.peek?, if_pos rfl] at recorded
    cases recorded
  · intro source events spare
    rw [(lookup_settled _ _ _).1, (lookup_settled _ _ _).1]
    exact run_spared spare (Nat.le_refl _)

/-- Whatever has been done to a registry, the sessions follow history exactly. -/
theorem run_remembered (secret : String) (first last : Ipv4) (idle start : Nat)
    (events : List Event) :
    let begin : Clocked Registry := ⟨create secret (.between first last) idle, start⟩
    Remembered idle (history begin events) (run begin events) := by
  intro begin
  have empty : Follows idle [] begin := create_follows secret (.between first last) idle start
  have window : begin.state.sessions.idle = idle := rfl
  have follows := run_follows window empty events
  rw [List.append_nil] at follows
  exact follows.remembered (run_sound (create_sound secret first last idle) events)

/-- A session that was used after ten milliseconds is found after twenty, and no later. -/
example :
    let s := run ⟨create "secret" (.between (.ofOctets 10 0 0 1) (.ofOctets 10 0 0 9)) 10, 0⟩
      [.join (.relay "first") ⟨"secret", "group"⟩ fun _ => true, .advance 10,
        .lookup (.relay "first"), .sweep, .advance 10]
    (s.state.lookup s.now (.relay "first")).2 = some ⟨1, "group", .ofOctets 10 0 0 1⟩ ∧
      (s.state.lookup (s.now + 1) (.relay "first")).2 = none := by
  decide +kernel

end Concentrator.Registry
