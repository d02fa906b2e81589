import Concentrator.Proofs.Gateway.Outsiders
import Concentrator.Proofs.Gateway.Tenancy

/-!
# Control messages that come again

Over a transport that may lose messages a client says everything three times, and copies
come in whenever they like. `run_harmless` says that a request to join that comes again
changes nothing as long as the session has lasted, and that a request to leave that comes
again changes nothing until the client asks to join.
-/

namespace Concentrator

namespace Registry

variable {r r' : Registry} {source : Peer} {session : Session} {used now : Nat}
  {s : Clocked Registry} {e : Event}

/-! ### Sessions in use -/

/-- The event uses a session that the source has in the group. -/
def Event.Uses (source : Peer) (secret group : String) : Event → Prop
  | join p request _ => p = source ∧ request.secret = secret ∧ request.group = group
  | lookup p => p = source
  | leave _ | sweep | clear | advance _ => False

instance (source : Peer) (secret group : String) : DecidablePred (Event.Uses source secret group)
  | .join _ _ _ => inferInstanceAs (Decidable (_ ∧ _ ∧ _))
  | .lookup p => inferInstanceAs (Decidable (p = source))
  | .leave _ | .sweep | .clear | .advance _ => .isFalse id

/-- The event ends a session that the source has in the group, be it that it asks for another group
and finds no address there. -/
def Event.Ends (source : Peer) (secret group : String) : Event → Prop
  | join p request _ => p = source ∧ request.secret = secret ∧ request.group ≠ group
  | leave p => p = source
  | clear => True
  | lookup _ | sweep | advance _ => False

instance (source : Peer) (secret group : String) : DecidablePred (Event.Ends source secret group)
  | .join _ _ _ => inferInstanceAs (Decidable (_ ∧ _ ∧ _))
  | .leave p => inferInstanceAs (Decidable (p = source))
  | .clear => .isTrue trivial
  | .lookup _ | .sweep | .advance _ => .isFalse id

/-- The source has the session, and has it until it has been idle for longer than the window since
`used`. -/
def Holds (source : Peer) (session : Session) (used : Nat) (s : Clocked Registry) : Prop :=
  ∀ later, s.now ≤ later → s.state.sessions.live? later source =
    if later - used ≤ s.state.sessions.idle then some session else none

theorem Settled.holds (settled : Settled now source (some session) r r') :
    Holds source session now ⟨r', now⟩ := by
  intro later _
  apply Option.ext
  intro held
  rw [settled.live?_self_iff, settled.idle]
  split <;> simp_all

theorem Holds.live (holds : Holds source session used s)
    (close : s.now - used ≤ s.state.sessions.idle) :
    s.state.sessions.live? s.now source = some session :=
  (holds s.now (Nat.le_refl _)).trans (if_pos close)

theorem Holds.carried (holds : Holds source session used s)
    (sessions : r.sessions = s.state.sessions) (le : s.now ≤ now) :
    Holds source session used ⟨r, now⟩ := by
  intro later inside
  rw [sessions]
  exact holds later (Nat.le_trans le inside)

/-- Whoever uses a session in time has it for another window. -/
theorem step_used (holds : Holds source session used s)
    (uses : e.Uses source s.state.secret session.group)
    (close : s.now - used ≤ s.state.sessions.idle) : Holds source session s.now (step s e) := by
  have live := holds.live close
  cases e with
  | join p request offer =>
    obtain ⟨rfl, known, same⟩ := uses
    rcases s.state.join_cases s.now p request offer with
      ⟨wrong, -⟩ | ⟨-, held, there, -, result⟩ | ⟨-, other, -⟩
    · exact absurd known wrong
    · obtain rfl : session = held := Option.some.inj (live.symm.trans there)
      rw [step, result]
      exact (settled_refresh live).holds
    · exact absurd same.symm (other session live)
  | lookup p =>
    obtain rfl : p = source := uses
    obtain ⟨-, settled⟩ := s.state.lookup_settled s.now p
    rw [live] at settled
    exact settled.holds
  | _ => exact uses.elim

theorem step_unused (holds : Holds source session used s)
    (kept : ¬e.Ends source s.state.secret session.group)
    (unused : ¬e.Uses source s.state.secret session.group) :
    Holds source session used (step s e) := by
  -- events of others are spared by definition; of its own only one with a wrong secret is left
  by_cases spares : e.Spares source
  · intro later le
    rw [step_spared spares le, (step_evolves s e).idle]
    exact holds later (Nat.le_trans (step_now_le s e) le)
  cases e with
  | join p request offer =>
    obtain rfl : p = source := Decidable.not_not.1 spares
    have wrong : request.secret ≠ s.state.secret := by
      intro known
      by_cases same : request.group = session.group
      · exact unused ⟨rfl, known, same⟩
      · exact kept ⟨rfl, known, same⟩
    rw [step, join, if_pos wrong]
    exact holds
  | leave p => exact absurd (Decidable.not_not.1 spares) kept
  | lookup p => exact absurd (Decidable.not_not.1 spares) unused
  | clear => exact absurd trivial kept
  | _ => exact absurd trivial spares

end Registry

namespace Plane

variable {p q : Plane} {source : Peer} {payload : Bytes} {session : Session} {used : Nat}
  {request : JoinRequest} {group : String} {events : List Event}

/-- No more than the window passes between two uses of the session that the source has in the group,
the last of which was at `used`, and nothing ends it: the source neither leaves nor asks for
another group, and the transport is not lost. -/
def Keeps (source : Peer) (group : String) (used : Nat) (p : Plane) : List Event → Prop
  | [] => p.now - used ≤ p.registry.sessions.idle
  | e :: rest =>
    ¬(p.operation e).Ends source p.registry.secret group ∧
      if (p.operation e).Uses source p.registry.secret group then
        p.now - used ≤ p.registry.sessions.idle ∧ (p.step e).1.Keeps source group p.now rest
      else (p.step e).1.Keeps source group used rest

instance decidableKeeps (source : Peer) (group : String) :
    ∀ (events : List Event) (used : Nat) (p : Plane), Decidable (p.Keeps source group used events)
  | [], _, _ => inferInstanceAs (Decidable (_ ≤ _))
  | e :: rest, used, p =>
    have := decidableKeeps source group rest
    inferInstanceAs (Decidable (¬(p.operation e).Ends source p.registry.secret group ∧
      if (p.operation e).Uses source p.registry.secret group then
        p.now - used ≤ p.registry.sessions.idle ∧ (p.step e).1.Keeps source group p.now rest
      else (p.step e).1.Keeps source group used rest))

theorem operation_now (p : Plane) (e : Event) :
    (Registry.step ⟨p.registry, p.now⟩ (p.operation e)).now = p.now := by
  cases e with
  | message source payload =>
    simp only [operation, joining]
    repeat' split
    all_goals rfl
  | _ => rfl

theorem step_secret (rest : p.AtRest) (e : Event) :
    (p.step e).1.registry.secret = p.registry.secret := by
  rw [(step_operates rest e).registry]
  exact (Registry.step_evolves _ (p.operation e)).secret

theorem run_abides (tenanted : p.Tenanted) (rest : p.AtRest) (events : List Event) :
    p.Abides (p.run events).1 ∧ (p.run events).1.registry.secret = p.registry.secret := by
  refine run_preserves (P := fun q => p.Abides q ∧ q.registry.secret = p.registry.secret)
    tenanted rest events ?_ ⟨⟨rfl, rfl, Nat.le_refl _⟩, rfl⟩
  intro e _ q _ rest ⟨abides, secret⟩
  exact ⟨abides.trans (q.step_abides e), (step_secret rest e).trans secret⟩

/-- Whoever keeps using a session has it all the time. -/
theorem keeps_live (tenanted : p.Tenanted) (rest : p.AtRest)
    (holds : Registry.Holds source session used ⟨p.registry, p.now⟩)
    (keeps : p.Keeps source session.group used events) :
    (p.run events).1.registry.sessions.live? (p.run events).1.now source = some session := by
  -- the time of the last use moves along: a use sets it to now, any other event leaves it
  induction events generalizing p used with
  | nil => exact holds.live keeps
  | cons e events ih =>
    obtain ⟨kept, keeps⟩ := keeps
    have successor := step_successor tenanted rest e
    have carried {used : Nat} (holds : Registry.Holds source session used
        (Registry.step ⟨p.registry, p.now⟩ (p.operation e))) :
        Registry.Holds source session used ⟨(p.step e).1.registry, (p.step e).1.now⟩ := by
      refine holds.carried ?_ ?_
      · rw [(step_operates rest e).registry]
      · rw [operation_now]
        exact (p.step_abides e).now
    split at keeps
    · rename_i uses
      exact ih successor.tenanted successor.rest
        (carried (Registry.step_used holds uses keeps.1)) keeps.2
    · rename_i unused
      exact ih successor.tenanted successor.rest
        (carried (Registry.step_unused holds kept unused)) keeps

/-! ### Requests to join -/

/-- What a request to join that is accepted leaves behind. -/
structure Welcomed (p : Plane) (source : Peer) (payload : Bytes) (request : JoinRequest)
    (session : Session) : Prop where
  short : Payload.oversized payload = false
  parsed : JoinRequest.parse? payload = some request
  secret : request.secret = p.registry.secret
  group : session.group = request.group
  told : (p.settings.reply? session.address).isSome = true
  settled : Registry.Settled p.now source (some session) p.registry
    (p.message source payload).1.registry
  sends : (p.message source payload).2.sends =
    List.replicate (if p.reliable then 1 else 3) ⟨source, p.welcome session.address⟩

theorem welcomed_of_accepted (parsed : JoinRequest.parse? payload = some request)
    (accepted : (p.message source payload).1.counters.accepted ≠ p.counters.accepted) :
    ∃ session, p.Welcomed source payload request session := by
  have kind := JoinRequest.kind?_of_parse? parsed
  cases short : Payload.oversized payload with
  | true =>
    rw [message, short] at accepted
    exact absurd rfl accepted
  | false =>
    have handled : p.message source payload = p.join source payload := by
      rw [message, short, if_neg Bool.false_ne_true, kind]
    rw [handled] at accepted
    rcases p.join_cases source payload with
      ⟨-, after, -⟩ | ⟨request', registry, outcome, -, parsed', result, after, sends⟩
    · rw [after] at accepted
      exact absurd rfl accepted
    · obtain rfl := Option.some.inj (parsed.symm.trans parsed')
      cases admission : outcome.admission with
      | none =>
        rw [after, count_counters, settle_counters, if_pos admission] at accepted
        exact absurd rfl accepted
      | some admission' =>
        have told : (p.registry.join p.now source request fun address =>
            (p.settings.reply? address).isSome).2.admission = some admission' := by
          rw [result]
          exact admission
        have admitted := Registry.join_admitted told
        rw [result] at admitted
        obtain ⟨known, offered, told, session, settled, group, address⟩ := admitted
        have said : outcome.offered = some session.address := address ▸ offered
        rw [← address] at told
        refine ⟨session, short, parsed, known, group, told, ?_, ?_⟩
        · rw [handled, after, count_registry, (settle_keeps _).1]
          exact ⟨settled.idle, settled.entries⟩
        · rw [handled, sends, said, Option.bind_some, reply?_of_isSome told]
          rfl

/-- The clock of the session of a source starts again. -/
def touched (source : Peer) (p : Plane) : Plane :=
  { p with registry := { p.registry with sessions := p.registry.sessions.refresh p.now source } }

theorem AtRest.settle_eq (rest : p.AtRest) : p.settle = (p, []) := by
  refine Prod.ext rest.settle.1 ?_
  simp [Plane.settle, rest.changes, rest.sessions, rest.mappings]

theorem AtRest.touched (rest : p.AtRest) (source : Peer) : (p.touched source).AtRest :=
  ⟨rest.changes, rest.sessions, rest.mappings⟩

theorem join_of_member (offer : Ipv4 → Bool) (secret : request.secret = p.registry.secret)
    (live : p.registry.sessions.live? p.now source = some session)
    (group : session.group = request.group) (told : offer session.address = true) :
    p.registry.join p.now source request offer = ((p.touched source).registry,
      ⟨some session.address, some ⟨session.address, false⟩⟩) := by
  rcases p.registry.join_cases p.now source request offer with
    ⟨wrong, -⟩ | ⟨-, held, there, -, result⟩ | ⟨-, other, -⟩
  · exact absurd secret wrong
  · obtain rfl : session = held := Option.some.inj (live.symm.trans there)
    rw [result, if_pos told]
    rfl
  · exact absurd group (other session live)

/-- A request of a member for its own group is answered, and nothing else comes of it but that the
clock starts again. -/
theorem message_of_member (rest : p.AtRest) (receiving : p.receiving = true)
    (short : Payload.oversized payload = false) (parsed : JoinRequest.parse? payload = some request)
    (secret : request.secret = p.registry.secret)
    (live : p.registry.sessions.live? p.now source = some session)
    (group : session.group = request.group)
    (told : (p.settings.reply? session.address).isSome = true) :
    p.message source payload =
      ((p.touched source).count fun c => { c with accepted := c.accepted + 1 },
        { sends := List.replicate (if p.reliable then 1 else 3) ⟨source, p.welcome session.address⟩
          notices := [.repeatedJoin source session.address] }) := by
  have settled : ({ p with registry := (p.touched source).registry } : Plane).settle =
      (p.touched source, []) := (rest.touched source).settle_eq
  rw [message, short, if_neg Bool.false_ne_true, JoinRequest.kind?_of_parse? parsed]
  dsimp only
  rw [join, if_neg (not_not.2 receiving), parsed]
  dsimp only
  rw [join_of_member (fun address => (p.settings.reply? address).isSome) secret live group told]
  dsimp only
  rw [settled]
  simp only [Option.bind_some, reply?_of_isSome told]
  rfl

/-- A request to join that comes again at `q`, long after it was accepted at `p`. -/
structure Repeated (p q : Plane) (source : Peer) (payload : Bytes) (session : Session) : Prop where
  begun : (p.message source payload).1.registry.sessions.peek? source = some session
  /-- It is still the same session, under the same serial number. -/
  still : q.registry.sessions.peek? source = some session
  /-- It is told the same address. -/
  told : (p.message source payload).2.sends =
    List.replicate (if p.reliable then 1 else 3) ⟨source, p.welcome session.address⟩
  again : q.message source payload =
    ((q.touched source).count fun c => { c with accepted := c.accepted + 1 },
      { sends := (p.message source payload).2.sends
        notices := [.repeatedJoin source session.address] })
  /-- Nothing is announced of any lease. -/
  unannounced : (Registry.step ⟨q.registry, q.now⟩
    (q.operation (.message source payload))).state.changes = []
  /-- All sessions are as they were but for the clock of this one. -/
  refreshed : Registry.Settled q.now source (some session) q.registry (q.touched source).registry

theorem Welcomed.repeated (welcomed : p.Welcomed source payload request session)
    (tenanted : p.Tenanted) (rest : p.AtRest)
    (keeps : (p.message source payload).1.Keeps source request.group p.now events)
    (receiving : ((p.message source payload).1.run events).1.receiving = true) :
    Repeated p ((p.message source payload).1.run events).1 source payload session := by
  have successor := step_successor tenanted rest (.message source payload)
  have secret := step_secret rest (.message source payload)
  have abides := p.step_abides (.message source payload)
  obtain ⟨abides', secret'⟩ := run_abides successor.tenanted successor.rest events
  obtain ⟨-, rest'⟩ := run_tenanted successor.tenanted successor.rest events
  have live := keeps_live successor.tenanted successor.rest
    (welcomed.settled.holds.carried rfl abides.now) (welcomed.group ▸ keeps)
  simp only [step] at secret abides abides' secret' rest' live
  generalize ((p.message source payload).1.run events).1 = q at *
  have settings : q.settings = p.settings := abides'.settings.trans abides.settings
  have reliable : q.reliable = p.reliable := abides'.reliable.trans abides.reliable
  have known : request.secret = q.registry.secret :=
    welcomed.secret.trans (secret'.trans secret).symm
  have told : (q.settings.reply? session.address).isSome = true := settings ▸ welcomed.told
  have again := message_of_member rest' receiving welcomed.short welcomed.parsed known live
    welcomed.group told
  have asked : (q.operation (.message source payload)) =
      .join source request fun address => (q.settings.reply? address).isSome := by
    simp only [operation, welcomed.short, JoinRequest.kind?_of_parse? welcomed.parsed, joining,
      receiving, welcomed.parsed, Bool.false_eq_true, if_false]
  constructor
  · rw [welcomed.settled.peek?, if_pos rfl]
  · exact IdleMap.peek?_of_live? live
  · exact welcomed.sends
  · rw [again, welcomed.sends, reliable, welcome, welcome, settings]
  · have joined := join_of_member (fun address => (q.settings.reply? address).isSome) known live
      welcomed.group told
    rw [asked, Registry.step, joined]
    exact rest'.changes
  · exact Registry.settled_refresh live

/-! ### Requests to leave -/

theorem message_leave (kind : Payload.kind? payload = some .leave)
    (short : Payload.oversized payload = false) : p.message source payload = p.leave source := by
  rw [message, short, if_neg Bool.false_ne_true, kind]

theorem leave_absent (rest : p.AtRest) (source : Peer) :
    (p.leave source).1.registry.sessions.peek? source = none := by
  rw [(leave_operates rest source).registry]
  exact ((p.registry.leave_settled p.now source).peek? source).trans (if_pos rfl)

theorem leave_of_absent (absent : p.registry.sessions.peek? source = none) :
    p.leave source = (p, {}) := by
  simp only [leave, Registry.leave, absent]

theorem run_absent_of_silent (tenanted : p.Tenanted) (rest : p.AtRest)
    (absent : p.registry.sessions.peek? source = none)
    (silent : ∀ payload, .message source payload ∈ events →
      Payload.kind? payload ≠ some .join) :
    (p.run events).1.registry.sessions.peek? source = none := by
  refine run_preserves (P := fun q => q.registry.sessions.peek? source = none)
    tenanted rest events ?_ absent
  intro e member q tenanted rest absent
  refine step_absent_of_silent tenanted.sound rest absent fun payload own => ?_
  refine Option.eq_none_iff_forall_ne_some.2 fun request parsed => ?_
  exact silent payload (own ▸ member) (JoinRequest.kind?_of_parse? parsed)

/-- Control messages of a source that come again do no harm. -/
structure Harmless (p : Plane) (source : Peer) : Prop where
  /-- A request to join that has been accepted and comes again while the session lasts. -/
  join : ∀ payload request events, JoinRequest.parse? payload = some request →
    (p.message source payload).1.counters.accepted ≠ p.counters.accepted →
    (p.message source payload).1.Keeps source request.group p.now events →
    ((p.message source payload).1.run events).1.receiving = true →
    ∃ session, Repeated p ((p.message source payload).1.run events).1 source payload session
  /-- A request to leave that comes again before the source asks to join. -/
  leave : ∀ payload payload' events, Payload.kind? payload = some .leave →
    payload.length ≤ maxPayload → Payload.kind? payload' = some .leave →
    payload'.length ≤ maxPayload →
    (∀ payload, .message source payload ∈ events → Payload.kind? payload ≠ some .join) →
    ((p.message source payload).1.run events).1.message source payload' =
      (((p.message source payload).1.run events).1, {})

theorem Tenanted.harmless (tenanted : p.Tenanted) (rest : p.AtRest) (source : Peer) :
    p.Harmless source where
  join payload request events parsed accepted keeps receiving := by
    obtain ⟨session, welcomed⟩ := welcomed_of_accepted parsed accepted
    exact ⟨session, welcomed.repeated tenanted rest keeps receiving⟩
  leave payload payload' events kind short kind' short' silent := by
    have successor := step_successor tenanted rest (.message source payload)
    have left : (p.message source payload).1.registry.sessions.peek? source = none := by
      rw [message_leave kind (by simpa [Payload.oversized] using short)]
      exact leave_absent rest source
    have absent := run_absent_of_silent successor.tenanted successor.rest left silent
    rw [message_leave kind' (by simpa [Payload.oversized] using short')]
    exact leave_of_absent absent

/-- In every state of a plane, copies of control messages do no harm, whatever comes in between. -/
theorem run_harmless (c : Configuration) (clients : Ipv4 × Ipv4) (reliable : Bool)
    (before : List Event) (source : Peer) :
    ((create c clients reliable).run before).1.Harmless source := by
  obtain ⟨created, still⟩ := create_tenanted c clients reliable
  obtain ⟨tenanted, rest⟩ := run_tenanted created still before
  exact tenanted.harmless rest source

/-- Copies of its requests come in after another client has joined and after that has left. -/
theorem lossyLink_harmless :
    let client : Peer := .relay "client"
    let other : Peer := .relay "other"
    let asks (group : String) : Bytes := JoinRequest.encode ⟨"secret", group⟩
    let start := create { sharedSecret := "secret" } (.ofOctets 10 0 0 1, .ofOctets 10 0 0 9) false
    let p := (start.run [.receive true]).1
    let q := ((p.message client (asks "first")).1.run
      [.message other (asks "second"), .advance 1000]).1
    let p' := (start.run [.receive true, .message client (asks "first")]).1
    let q' := ((p'.message client [leaveTag]).1.run [.message other [leaveTag]]).1
    (∃ session, Repeated p q client (asks "first") session) ∧
      q'.message client [leaveTag] = (q', {}) := by
  intro client other asks start p q p' q'
  have joins : p.Harmless client := run_harmless _ _ _ _ client
  have leaves : p'.Harmless client := run_harmless _ _ _ _ client
  constructor
  · exact joins.join (asks "first") ⟨"secret", "first"⟩ _ (by decide +kernel) (by decide +kernel)
      (by decide +kernel) (by decide +kernel)
  · exact leaves.leave [leaveTag] [leaveTag] _ rfl (by decide) rfl (by decide)
      (by simp [client, other])

end Plane

end Concentrator
