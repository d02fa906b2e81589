import Concentrator.Gateway.Plane
import Concentrator.Proofs.Balancer
import Concentrator.Proofs.Masquerade.Mappings
import Concentrator.Proofs.Masquerade.Readdress
import Concentrator.Proofs.Session.Coherence

/-!
# Steps of the plane

While a step is underway, mappings and turns may lag behind the leases, but only
where a change waits to be carried over. Settling carries all changes over, so
every step leaves a plane whose mappings and turns stand on leases.
-/

namespace Concentrator

namespace Plane

/-- Every mapping and every turn stands on a lease, but for those whose lease is named by a change
that waits to be carried over. -/
structure Tenanted (p : Plane) : Prop where
  sound : p.registry.Sound
  indexed : p.masquerade.Indexed fun _ => False
  mapped : ∀ port e, p.masquerade.reverse.peek? port = some e →
    .released e.address ∉ p.registry.changes → ∃ l, p.registry.leases.find? e.address = some l
  shared : ∀ a turn, p.balancer.turns.find? a = some turn → .members a ∉ p.registry.changes →
    .released a ∉ p.registry.changes →
      ∃ l, p.registry.leases.find? a = some l ∧ turn.peers = l.peers
  routed : p.counters.noRoute = 0

/-- Nothing waits to be carried over or reported. -/
structure AtRest (p : Plane) : Prop where
  changes : p.registry.changes = []
  sessions : p.registry.notices = []
  mappings : p.masquerade.notices = []

/-- What has become of the plane since a step began. -/
structure Underway (opened : Endpoint → Prop) (p q : Plane) : Prop where
  tenanted : q.Tenanted
  registry : p.registry.Evolves q.registry
  masquerade : p.masquerade.Evolves opened q.masquerade

variable {opened : Endpoint → Prop} {p q : Plane}

theorem Tenanted.underway (tenanted : p.Tenanted) (opened : Endpoint → Prop) :
    Underway opened p p :=
  ⟨tenanted, .refl _, .refl _⟩

namespace Underway

theorem enroll {r : Registry} (underway : Underway opened p q) (evolved : q.registry.Evolves r)
    (sound : r.Sound) : Underway opened p { q with registry := r } := by
  obtain ⟨tenanted, registry, masquerade⟩ := underway
  refine ⟨?_, registry.trans evolved, masquerade⟩
  obtain ⟨changes, _, journal, -, accounts⟩ := evolved.accounts
  constructor
  · exact sound
  · exact tenanted.indexed
  · intro port e present released
    simp only [journal, List.mem_append, not_or] at released
    obtain ⟨l, leased⟩ := tenanted.mapped port e present released.1
    obtain ⟨l', leased', -⟩ := accounts.kept _ l released.2 leased
    exact ⟨l', leased'⟩
  · intro a turn found members released
    simp only [journal, List.mem_append, not_or] at members released
    rw [accounts.same a members.2 released.2]
    exact tenanted.shared a turn found members.1 released.1
  · exact tenanted.routed

theorem translate {t : Masquerade} (underway : Underway opened p q)
    (evolved : q.masquerade.Evolves opened t) (indexed : t.Indexed fun _ => False)
    (leased : ∀ e, opened e → ∃ l, q.registry.leases.find? e.address = some l) :
    Underway opened p { q with masquerade := t } := by
  obtain ⟨tenanted, registry, masquerade⟩ := underway
  refine ⟨?_, registry, masquerade.trans evolved⟩
  constructor
  · exact tenanted.sound
  · exact indexed
  · intro port e present released
    obtain ⟨_, -, accounts⟩ := evolved.accounts
    rcases accounts.mapped port e present with ⟨opens, -⟩ | ⟨present, -⟩
    · exact leased e opens
    · exact tenanted.mapped port e present released
  · exact tenanted.shared
  · exact tenanted.routed

theorem count {f : Counters → Counters} (underway : Underway opened p q)
    (same : (f q.counters).noRoute = q.counters.noRoute) : Underway opened p (q.count f) := by
  obtain ⟨⟨sound, indexed, mapped, shared, routed⟩, registry, masquerade⟩ := underway
  exact ⟨⟨sound, indexed, mapped, shared, same.trans routed⟩, registry, masquerade⟩

theorem share {b : Balancer} (underway : Underway opened p q)
    (shared : ∀ a turn, b.turns.find? a = some turn → q.balancer.turns.find? a = some turn ∨
      ∃ l, q.registry.leases.find? a = some l ∧ turn.peers = l.peers) :
    Underway opened p { q with balancer := b } := by
  obtain ⟨tenanted, registry, masquerade⟩ := underway
  refine ⟨⟨tenanted.sound, tenanted.indexed, tenanted.mapped, ?_, tenanted.routed⟩, registry,
    masquerade⟩
  intro a turn found members released
  rcases shared a turn found with found | current
  · exact tenanted.shared a turn found members released
  · exact current

end Underway

/-! ### Settling -/

/-- What carrying changes over makes of a plane. -/
structure Carried (changes : List Change) (p q : Plane) : Prop where
  registry : q.registry = p.registry
  counters : q.counters = p.counters
  indexed : q.masquerade.Indexed fun _ => False
  masquerade : p.masquerade.Evolves (fun _ => False) q.masquerade
  purged : ∀ port e, q.masquerade.reverse.peek? port = some e → .released e.address ∉ changes
  shared : ∀ a turn, q.balancer.turns.find? a = some turn →
    p.balancer.turns.find? a = some turn ∧ .members a ∉ changes ∧ .released a ∉ changes

theorem follow_carried (indexed : p.masquerade.Indexed fun _ => False) (c : Change) :
    Carried [c] p (p.follow c) := by
  cases c with
  | members address =>
    refine ⟨rfl, rfl, indexed, .refl _, by simp, fun a turn found => ?_⟩
    obtain ⟨other, kept⟩ := Balancer.find?_invalidate_eq_some_iff.1 found
    exact ⟨kept, by simpa using other, by simp⟩
  | released address =>
    obtain ⟨after, left⟩ := Masquerade.purge_spec indexed address
    refine ⟨rfl, rfl, after, Masquerade.purge_evolves address, fun port e present => ?_,
      fun a turn found => ?_⟩
    · simpa using ((left port e).1 present).2
    · obtain ⟨other, kept⟩ := Balancer.find?_invalidate_eq_some_iff.1 found
      exact ⟨kept, by simp, by simpa using other⟩

theorem carry (indexed : p.masquerade.Indexed fun _ => False) (changes : List Change) :
    Carried changes p (changes.foldl follow p) := by
  induction changes generalizing p with
  | nil => exact ⟨rfl, rfl, indexed, .refl _, by simp, fun _ _ found => ⟨found, by simp, by simp⟩⟩
  | cons c rest ih =>
    have head := follow_carried indexed c
    have tail := ih head.indexed
    refine ⟨tail.registry.trans head.registry, tail.counters.trans head.counters, tail.indexed,
      head.masquerade.trans tail.masquerade, ?_, ?_⟩
    · intro port e present
      obtain ⟨_, -, accounts⟩ := tail.masquerade.accounts
      have before := ((accounts.mapped port e present).resolve_left (by simp)).1
      have here := head.purged port e before
      have later := tail.purged port e present
      rw [List.mem_singleton] at here
      simp [here, later]
    · intro a turn found
      obtain ⟨found, members, released⟩ := tail.shared a turn found
      obtain ⟨found, members', released'⟩ := head.shared a turn found
      rw [List.mem_singleton] at members' released'
      exact ⟨found, by simp [members, members'], by simp [released, released']⟩

/-- What a whole step makes of a plane, and the notices that account for it. -/
structure Evolves (opened : Endpoint → Prop) (p q : Plane) (notices : List Notice) : Prop where
  external : q.masquerade.external = p.masquerade.external
  idle : q.registry.sessions.idle = p.registry.sessions.idle
  mapped : ∀ port e, q.masquerade.reverse.peek? port = some e →
    opened e ∧ .mappingCreated e port ∈ notices ∨
      p.masquerade.reverse.peek? port = some e ∧ .mappingRemoved e port ∉ notices
  unreleased : ∀ port e, q.masquerade.reverse.peek? port = some e →
    ∀ g, .addressReleased e.address g ∉ notices
  kept : ∀ a l, p.registry.leases.find? a = some l → (∀ g, .addressReleased a g ∉ notices) →
    ∃ l', q.registry.leases.find? a = some l' ∧ l'.group = l.group

/-- A plane that a step can leave behind. -/
structure Successor (opened : Endpoint → Prop) (p q : Plane) (notices : List Notice) : Prop
    extends Evolves opened p q notices where
  tenanted : q.Tenanted
  rest : q.AtRest

/-- Settling ends a step. -/
theorem Underway.settle (rest : p.AtRest) (underway : Underway opened p q) :
    Successor opened p q.settle.1 q.settle.2 := by
  obtain ⟨tenanted, registry, masquerade⟩ := underway
  obtain ⟨changes, told, journal, told_eq, accounts⟩ := registry.accounts
  rw [rest.changes, List.nil_append] at journal
  rw [rest.sessions, List.nil_append] at told_eq
  unfold Plane.settle
  have carried := carry (p := { q with
    registry := { q.registry with changes := [], notices := [] } }) tenanted.indexed changes
  rw [← journal] at carried
  dsimp only
  generalize q.registry.changes.foldl follow
    { q with registry := { q.registry with changes := [], notices := [] } } = u at carried ⊢
  have evolved : p.masquerade.Evolves opened u.masquerade :=
    masquerade.trans (carried.masquerade.weaken fun _ => False.elim)
  obtain ⟨mapped, mapped_eq, all⟩ := evolved.accounts
  rw [rest.mappings, List.nil_append] at mapped_eq
  -- carrying over only takes mappings out, and those of released addresses it takes out all
  have standing : ∀ port e, u.masquerade.reverse.peek? port = some e →
      q.masquerade.reverse.peek? port = some e ∧ .released e.address ∉ q.registry.changes := by
    intro port e present
    obtain ⟨_, -, accounts⟩ := carried.masquerade.accounts
    exact ⟨((accounts.mapped port e present).resolve_left (by simp)).1,
      carried.purged port e present⟩
  refine ⟨⟨evolved.external, ?_, ?_, ?_, ?_⟩, ⟨?_, carried.indexed.congr rfl rfl rfl rfl rfl,
    ?_, ?_, ?_⟩, ⟨?_, ?_, rfl⟩⟩
  · rw [carried.registry]
    exact registry.idle
  · intro port e present
    rw [told_eq, mapped_eq, List.mem_append, List.mem_append, not_or]
    rcases all.mapped port e present with ⟨opens, created⟩ | ⟨before, remains⟩
    · exact .inl ⟨opens, .inr created⟩
    · exact .inr ⟨before, accounts.foreign e port, remains⟩
  · intro port e present g
    rw [told_eq, mapped_eq, List.mem_append, not_or]
    refine ⟨fun released => ?_, all.foreign e.address g⟩
    have member := (accounts.noticed e.address).2 ⟨g, released⟩
    rw [← journal] at member
    exact (standing port e present).2 member
  · intro a l leased unreleased
    rw [carried.registry]
    refine accounts.kept a l (fun released => ?_) leased
    obtain ⟨g, noticed⟩ := (accounts.noticed a).1 released
    refine unreleased g (List.mem_append_left _ ?_)
    rw [told_eq]
    exact noticed
  · rw [carried.registry]
    exact tenanted.sound.congr rfl rfl rfl rfl rfl
  · intro port e present _
    obtain ⟨before, released⟩ := standing port e present
    rw [carried.registry]
    exact tenanted.mapped port e before released
  · intro a turn found _ _
    obtain ⟨before, members, released⟩ := carried.shared a turn found
    rw [carried.registry]
    exact tenanted.shared a turn before members released
  · rw [carried.counters]
    exact tenanted.routed
  · rw [carried.registry]
  · rw [carried.registry]

namespace Successor

variable {q' : Plane} {notices more : List Notice}

/-- Only the four components that have to do with leases count, and of the counters only one. -/
theorem congr (successor : Successor opened p q notices) (registry : q'.registry = q.registry)
    (masquerade : q'.masquerade = q.masquerade) (balancer : q'.balancer = q.balancer)
    (routed : q'.counters.noRoute = q.counters.noRoute) : Successor opened p q' notices := by
  obtain ⟨⟨external, idle, mapped, unreleased, kept⟩, tenanted, rest⟩ := successor
  rw [← registry] at idle kept
  rw [← masquerade] at external mapped unreleased
  refine ⟨⟨external, idle, mapped, unreleased, kept⟩, ⟨?_, ?_, ?_, ?_, ?_⟩, ⟨?_, ?_, ?_⟩⟩
  · exact registry ▸ tenanted.sound
  · exact masquerade ▸ tenanted.indexed
  · rw [registry, masquerade]
    exact tenanted.mapped
  · rw [registry, balancer]
    exact tenanted.shared
  · exact routed.trans tenanted.routed
  · exact registry ▸ rest.changes
  · exact registry ▸ rest.sessions
  · exact masquerade ▸ rest.mappings

theorem refl (tenanted : p.Tenanted) (rest : p.AtRest) : Successor opened p p [] where
  external := rfl
  idle := rfl
  mapped _ _ present := .inr ⟨present, by simp⟩
  unreleased := by simp
  kept _ l leased _ := ⟨l, leased, rfl⟩
  tenanted := tenanted
  rest := rest

/-- Notices about other things may be added. -/
theorem note (successor : Successor opened p q notices) (more : List Notice)
    (silent : ∀ a g, .addressReleased a g ∉ more) (kept : ∀ e port, .mappingRemoved e port ∉ more) :
    Successor opened p q (notices ++ more) where
  external := successor.external
  idle := successor.idle
  mapped port e present := by
    simp only [List.mem_append, kept, or_false]
    exact (successor.mapped port e present).imp_left (And.imp_right .inl)
  unreleased port e present g := by
    simpa [silent] using successor.unreleased port e present g
  kept a l leased unreleased :=
    successor.kept a l leased fun g noticed => unreleased g (List.mem_append_left _ noticed)
  tenanted := successor.tenanted
  rest := successor.rest

/-- Settling twice in a step that opens nothing. -/
theorem trans (before : Successor (fun _ => False) p q notices)
    (after : Successor (fun _ => False) q q' more) :
    Successor (fun _ => False) p q' (notices ++ more) where
  external := after.external.trans before.external
  idle := after.idle.trans before.idle
  mapped port e present := by
    obtain ⟨between, remains⟩ := (after.mapped port e present).resolve_left (by simp)
    obtain ⟨present, remained⟩ := (before.mapped port e between).resolve_left (by simp)
    exact .inr ⟨present, by simp [remained, remains]⟩
  unreleased port e present g := by
    obtain ⟨between, -⟩ := (after.mapped port e present).resolve_left (by simp)
    simp [before.unreleased port e between g, after.unreleased port e present g]
  kept a l leased unreleased := by
    simp only [List.mem_append, not_or] at unreleased
    obtain ⟨l', leased', group⟩ := before.kept a l leased fun g => (unreleased g).1
    obtain ⟨l'', leased'', group'⟩ := after.kept a l' leased' fun g => (unreleased g).2
    exact ⟨l'', leased'', group'.trans group⟩
  tenanted := after.tenanted
  rest := after.rest

end Successor

/-! ### Steps -/

/-- An event that may map a port for an endpoint: a packet of a live session with the endpoint's
address. -/
def Opens (p : Plane) : Event → Endpoint → Prop
  | .message source payload, e =>
    Payload.kind? payload = some .data ∧
      (∃ session, (p.registry.lookup p.now source).2 = some session ∧
        session.address = e.address) ∧
      ∃ flow, Flow.parse? payload = some flow ∧ flow.source = e
  | _, _ => False

variable {source : Peer} {payload packet : Bytes}

/-- An operation of the registry, settled. -/
theorem enroll_successor (opened : Endpoint → Prop) {r : Registry} (tenanted : p.Tenanted)
    (rest : p.AtRest) (evolved : p.registry.Evolves r) (sound : r.Sound) :
    Successor opened p { p with registry := r }.settle.1 { p with registry := r }.settle.2 :=
  ((tenanted.underway _).enroll evolved sound).settle rest

theorem join_successor (tenanted : p.Tenanted) (rest : p.AtRest) :
    Successor opened p (p.join source payload).1 (p.join source payload).2.notices := by
  have still : Successor opened p p [] := .refl tenanted rest
  unfold join
  split
  · exact (still.note [.notReceiving source] (by simp) (by simp)).congr rfl rfl rfl rfl
  · cases JoinRequest.parse? payload with
    | none =>
      exact (still.note [.malformedJoin source] (by simp) (by simp)).congr rfl rfl rfl rfl
    | some request =>
      have settled := enroll_successor opened tenanted rest
        (Registry.join_evolves p.now source request
          fun address => (p.settings.reply? address).isSome)
        (Registry.join_sound tenanted.sound _ _ _ _)
      dsimp only
      split
      · refine (settled.note _ ?_ ?_).congr rfl rfl rfl rfl
        · intro a g
          split <;> try split
          all_goals simp
        · intro e port
          split <;> try split
          all_goals simp
      · refine (settled.note _ ?_ ?_).congr rfl rfl rfl rfl
        · intro a g
          split <;> simp
        · intro e port
          split <;> simp

theorem leave_successor (tenanted : p.Tenanted) (rest : p.AtRest) :
    Successor opened p (p.leave source).1 (p.leave source).2.notices := by
  have evolved := Registry.leave_evolves (r := p.registry) source
  have sound := Registry.leave_sound tenanted.sound source
  unfold leave
  rcases result : p.registry.leave source with ⟨registry, _ | session⟩ <;>
    rw [result] at evolved sound
  · exact .refl tenanted rest
  · exact (((tenanted.underway _).enroll evolved sound).count rfl).settle rest

theorem data_successor (tenanted : p.Tenanted) (rest : p.AtRest)
    (kind : Payload.kind? payload = some .data) :
    Successor (p.Opens (.message source payload)) p (p.data source payload).1
      (p.data source payload).2.notices := by
  have evolved := Registry.lookup_evolves (r := p.registry) p.now source
  have sound := Registry.lookup_sound tenanted.sound p.now source
  unfold data
  rcases looked : p.registry.lookup p.now source with ⟨registry, _ | session⟩ <;>
    rw [looked] at evolved sound
  · exact (((tenanted.underway _).enroll evolved sound).count rfl).settle rest
  · have enrolled := (tenanted.underway (p.Opens (.message source payload))).enroll evolved sound
    dsimp only
    split
    · exact (enrolled.count rfl).settle rest
    · rename_i genuine
      obtain ⟨l, leased⟩ := Registry.leased_of_lookup tenanted.sound looked
      -- the packet is translated for the address that the sender was checked against
      have opens : ∀ e, (∃ flow, Flow.parse? payload = some flow ∧ flow.source = e) →
          session.address = e.address := by
        rintro e ⟨flow, parsed, rfl⟩
        rw [Flow.source?_of_parse? parsed, ne_eq, not_not] at genuine
        exact (Option.some.inj genuine).symm
      have outward := Masquerade.outbound_evolves (t := p.masquerade) p.now payload
      have translated := enrolled.translate
        (outward.weaken fun e sent => ⟨kind, ⟨session, by rw [looked], opens e sent⟩, sent⟩)
        (Masquerade.outbound_indexed tenanted.indexed p.now payload)
        fun e opened => ⟨l, by
          rw [← opens e opened.2.2]
          exact leased⟩
      rcases result : p.masquerade.outbound p.now payload with ⟨t, packet, _ | port⟩ <;>
        rw [result] at translated
      · exact (translated.count rfl).settle rest
      · exact translated.settle rest

theorem message_successor (tenanted : p.Tenanted) (rest : p.AtRest) :
    Successor (p.Opens (.message source payload)) p (p.message source payload).1
      (p.message source payload).2.notices := by
  have still : Successor (p.Opens (.message source payload)) p p [] := .refl tenanted rest
  unfold message
  split
  · exact still.congr rfl rfl rfl rfl
  · split
    · exact join_successor tenanted rest
    · exact leave_successor tenanted rest
    · rename_i kind
      exact data_successor tenanted rest kind
    · exact still.congr rfl rfl rfl rfl

/-- The members of a lease as the balancer is shown them are recorded and of its group. -/
theorem Tenanted.members (tenanted : p.Tenanted) {a : Ipv4} {l : Lease}
    (leased : p.registry.leases.find? a = some l) :
    l.peers ≠ [] ∧ ∀ peer ∈ l.peers, ∃ session, p.registry.sessions.peek? peer = some session ∧
      session.address = a ∧ session.group = l.group := by
  have fits := tenanted.sound.fits a l leased
  constructor
  · exact fits.peers_ne_nil
  · intro peer member
    rw [fits.peers_eq, List.mem_map] at member
    obtain ⟨⟨serial, peer⟩, member, rfl⟩ := member
    obtain ⟨session, recorded, -, here⟩ := (fits.members_iff serial peer).1 member
    exact ⟨session, recorded, here, fits.group peer session recorded here⟩

theorem Tenanted.current (tenanted : p.Tenanted) (rest : p.AtRest) {a : Ipv4} {l : Lease}
    (leased : p.registry.leases.find? a = some l) : p.balancer.Current a l := by
  intro turn found _
  obtain ⟨l', leased', same⟩ := tenanted.shared a turn found (by simp [rest.changes])
    (by simp [rest.changes])
  rw [leased] at leased'
  rw [same, Option.some.inj leased']

/-- A packet that comes in for a mapped port goes to the next member of the lease. -/
theorem arrival_delivers (tenanted : p.Tenanted) (rest : p.AtRest) {t : Masquerade}
    {packet' : Bytes} {internal : Endpoint}
    (inbound : p.masquerade.inbound p.now packet = (t, packet', some internal)) :
    Successor (fun _ => False) p (p.arrival packet).1 (p.arrival packet).2.notices ∧
      ∃ l, p.registry.leases.find? internal.address = some l ∧
        ∃ peer ∈ l.peers, (p.arrival packet).2.sends = [⟨peer, packet'⟩] := by
  obtain ⟨flow, -, -, present, -⟩ := Masquerade.inbound_some inbound
  obtain ⟨l, leased⟩ := tenanted.mapped _ internal present (by simp [rest.changes])
  obtain ⟨inside, next⟩ := Balancer.next_of_leased leased (tenanted.members leased).1
    (tenanted.current rest leased)
  have evolved : p.masquerade.Evolves (fun _ => False) _ := Masquerade.inbound_evolves p.now packet
  have indexed := Masquerade.inbound_indexed tenanted.indexed p.now packet
  rw [inbound] at evolved indexed
  have shared := ((tenanted.underway _).translate evolved indexed fun _ => False.elim).share
    (b := (p.balancer.next internal.address p.registry).1) fun a turn found => by
      rw [next, Table.find?_insert] at found
      by_cases here : a = internal.address
      · subst here
        rw [if_pos rfl] at found
        obtain rfl := Option.some.inj found
        exact .inr ⟨l, leased, rfl⟩
      · rw [if_neg here] at found
        exact .inl found
  unfold arrival
  simp only [inbound, next] at shared ⊢
  exact ⟨(shared.count rfl).settle rest, l, leased, _, List.getElem_mem inside, rfl⟩

theorem arrival_successor (tenanted : p.Tenanted) (rest : p.AtRest) :
    Successor (fun _ => False) p (p.arrival packet).1 (p.arrival packet).2.notices := by
  rcases inbound : p.masquerade.inbound p.now packet with ⟨t, packet', _ | internal⟩
  · have evolved : p.masquerade.Evolves (fun _ => False) _ :=
      Masquerade.inbound_evolves p.now packet
    have indexed := Masquerade.inbound_indexed tenanted.indexed p.now packet
    rw [inbound] at evolved indexed
    unfold arrival
    rw [inbound]
    have translated := (tenanted.underway _).translate evolved indexed fun _ => False.elim
    exact (translated.count rfl).settle rest
  · exact (arrival_delivers tenanted rest inbound).1

theorem sweep_successor (tenanted : p.Tenanted) (rest : p.AtRest) :
    Successor (fun _ => False) p p.sweep.1 p.sweep.2.notices := by
  have enrolled := enroll_successor (fun _ => False) tenanted rest
    (Registry.sweep_evolves p.now) (Registry.sweep_sound tenanted.sound _)
  unfold sweep
  rcases swept : p.registry.sweep p.now with ⟨registry, sessions⟩
  rw [swept] at enrolled
  dsimp only
  generalize { p with registry }.settle = settled at enrolled ⊢
  have translated := ((enrolled.tenanted.underway fun _ => False).translate
    (Masquerade.sweep_evolves settled.1.now)
    (Masquerade.sweep_indexed enrolled.tenanted.indexed _) fun _ => False.elim).settle enrolled.rest
  refine (enrolled.trans translated).note _ ?_ ?_
  · intro a g
    split <;> simp
  · intro e port
    split <;> simp

theorem lose_successor (tenanted : p.Tenanted) (rest : p.AtRest) (transport : String)
    (byUser : Bool) :
    Successor opened p (p.lose transport byUser).1 (p.lose transport byUser).2.notices :=
  (enroll_successor _ tenanted rest Registry.clear_evolves
    (Registry.clear_sound tenanted.sound)).note _ (by simp) (by simp)

/-- Every step leaves a plane in which all is carried over, and its notices account for it. -/
theorem step_successor (tenanted : p.Tenanted) (rest : p.AtRest) (e : Event) :
    Successor (p.Opens e) p (p.step e).1 (p.step e).2.notices := by
  cases e with
  | message source payload => exact message_successor tenanted rest
  | arrival packet => exact arrival_successor tenanted rest
  | sweep => exact sweep_successor tenanted rest
  | lose transport byUser => exact lose_successor tenanted rest transport byUser
  | receive enabled =>
    exact ((Successor.refl tenanted rest).note [.receiving enabled] (by simp) (by simp)).congr
      rfl rfl rfl rfl
  | advance milliseconds => exact (Successor.refl tenanted rest).congr rfl rfl rfl rfl

theorem create_tenanted (c : Configuration) (clients : Ipv4 × Ipv4) (reliable : Bool) :
    (create c clients reliable).Tenanted ∧ (create c clients reliable).AtRest := by
  refine ⟨⟨Registry.create_sound _ _ _ _, Masquerade.create_indexed _ _ _, ?_, ?_, rfl⟩,
    ⟨rfl, rfl, rfl⟩⟩
  · intro port e present
    simp [create, Masquerade.create, IdleMap.peek?] at present
  · intro a turn found
    simp [create] at found

end Plane

end Concentrator
