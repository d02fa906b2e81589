import Concentrator.Proofs.Gateway.Operations

/-!
# Outsiders

A peer that is never admitted cannot do anything to anyone else. `run_undisturbed`
compares what happens to a plane with what happens when all messages of such a
peer are left out: only counters of rejected and dropped messages tell the two
apart.
-/

namespace Concentrator

namespace Counters

/-- Counters that differ at most in what outsiders can add to. -/
def Alike (c d : Counters) : Prop :=
  ∃ malformed noSession rejected, c = { d with malformed, noSession, rejected }

theorem alike_of_commutes {mark : Counters → Counters}
    (commutes : ∀ (c : Counters) malformed noSession rejected,
      mark { c with malformed, noSession, rejected } =
        { mark c with malformed, noSession, rejected }) (c d : Counters) (alike : c.Alike d) :
    (mark c).Alike (mark d) := by
  obtain ⟨malformed, noSession, rejected, rfl⟩ := alike
  exact ⟨malformed, noSession, rejected, commutes d malformed noSession rejected⟩

end Counters

namespace Plane

variable {p q : Plane} {source peer : Peer} {payload : Bytes} {e : Event}

/-! ### Counters decide nothing -/

@[simp]
theorem count_registry (p : Plane) (f : Counters → Counters) : (p.count f).registry = p.registry :=
  rfl

@[simp]
theorem count_masquerade (p : Plane) (f : Counters → Counters) :
    (p.count f).masquerade = p.masquerade :=
  rfl

@[simp]
theorem count_balancer (p : Plane) (f : Counters → Counters) : (p.count f).balancer = p.balancer :=
  rfl

@[simp]
theorem count_now (p : Plane) (f : Counters → Counters) : (p.count f).now = p.now :=
  rfl

@[simp]
theorem count_counters (p : Plane) (f : Counters → Counters) :
    (p.count f).counters = f p.counters :=
  rfl

theorem foldl_follow_count (changes : List Change) (p : Plane) (f : Counters → Counters) :
    changes.foldl follow (p.count f) = (changes.foldl follow p).count f := by
  induction changes generalizing p with
  | nil => rfl
  | cons c rest ih =>
    have head : (p.count f).follow c = (p.follow c).count f := by cases c <;> rfl
    rw [List.foldl_cons, List.foldl_cons, head, ih]

theorem settle_count (p : Plane) (f : Counters → Counters) :
    (p.count f).settle = (p.settle.1.count f, p.settle.2) := by
  unfold settle
  have carried := foldl_follow_count p.registry.changes
    { p with registry := { p.registry with changes := [], notices := [] } } f
  dsimp only [count] at carried ⊢
  rw [carried]

theorem quiet_count (p : Plane) (f : Counters → Counters) :
    (p.count f).quiet = (p.quiet.1.count f, p.quiet.2) := by
  rw [quiet, settle_count]
  rfl

/-- The counters that a step begins with show at its end, and nowhere else. -/
theorem count_quiet (p : Plane) (mark : Counters → Counters) (c : Counters) :
    ((p.count fun _ => c).count mark).quiet =
      ((p.count mark).quiet.1.count fun _ => mark c, (p.count mark).quiet.2) := by
  rw [quiet_count, quiet_count, quiet_count]
  rfl

/-- What is done to a plane without looking at its counters, which are marked in the end. -/
def Tallies (p : Plane) (handle : Plane → Plane × Reaction) : Prop :=
  ∃ mark : Counters → Counters, (∀ c d, Counters.Alike c d → Counters.Alike (mark c) (mark d)) ∧
    ∀ c, handle (p.count fun _ => c) = ((handle p).1.count fun _ => mark c, (handle p).2)

theorem Fate.mark_alike (fate : Fate) (c d : Counters) (alike : c.Alike d) :
    (fate.mark c).Alike (fate.mark d) := by
  obtain ⟨_, _, _, rfl⟩ := alike
  cases fate <;> exact ⟨_, _, _, rfl⟩

theorem join_tallies (p : Plane) (source : Peer) (payload : Bytes) :
    p.Tallies (join source payload) := by
  cases receiving : p.receiving with
  | false =>
    refine ⟨(Fate.mark · .rejected), Fate.mark_alike .rejected, fun c => ?_⟩
    simp [join, count, receiving, Fate.mark]
  | true =>
    cases parsed : JoinRequest.parse? payload with
    | none =>
      refine ⟨(Fate.mark · .rejected), Fate.mark_alike .rejected, fun c => ?_⟩
      simp [join, count, receiving, parsed, Fate.mark]
    | some request =>
      rcases result : p.registry.join p.now source request
        fun address => (p.settings.reply? address).isSome with ⟨registry, outcome⟩
      have settled := settle_count { p with registry }
      simp only [count, receiving] at settled
      cases admission : outcome.admission with
      | none =>
        refine ⟨(Fate.mark · .rejected), Fate.mark_alike .rejected, fun c => ?_⟩
        simp [join, count, receiving, parsed, result, settled fun _ => c, admission, Fate.mark]
      | some admitted =>
        refine ⟨(Fate.mark · .accepted), Fate.mark_alike .accepted, fun c => ?_⟩
        simp [join, count, receiving, parsed, result, settled fun _ => c, admission, Fate.mark]

theorem leave_tallies (p : Plane) (source : Peer) : p.Tallies (leave source) := by
  unfold Tallies leave
  simp only [count_registry]
  rcases p.registry.leave source with ⟨registry, _ | session⟩
  · exact ⟨(Fate.mark · .futile), Fate.mark_alike .futile, fun _ => rfl⟩
  · exact ⟨(Fate.mark · .left), Fate.mark_alike .left, count_quiet { p with registry } _⟩

theorem data_tallies (p : Plane) (source : Peer) (payload : Bytes) :
    p.Tallies (data source payload) := by
  unfold Tallies data
  simp only [count_registry, count_now]
  rcases p.registry.lookup p.now source with ⟨registry, _ | session⟩
  · exact ⟨(Fate.mark · .noSession), Fate.mark_alike .noSession, count_quiet { p with registry } _⟩
  · dsimp only
    split
    · exact ⟨(Fate.mark · .spoofed), Fate.mark_alike .spoofed, count_quiet { p with registry } _⟩
    · simp only [count_masquerade]
      rcases p.masquerade.outbound p.now payload with ⟨masquerade, packet, _ | port⟩
      · exact ⟨(Fate.mark · .untranslatable), Fate.mark_alike .untranslatable,
          count_quiet { p with registry, masquerade } _⟩
      · refine ⟨(Fate.mark · .translated), Fate.mark_alike .translated, fun c => ?_⟩
        exact congrArg (fun r : Plane × Reaction => (r.1, { r.2 with packet := some packet }))
          (quiet_count { p with registry, masquerade } fun _ => c)

theorem message_tallies (p : Plane) (source : Peer) (payload : Bytes) :
    p.Tallies (message source payload) := by
  have malformed : p.Tallies fun q =>
      (q.count fun c => { c with malformed := c.malformed + 1 }, {}) :=
    ⟨(Fate.mark · .malformed), Fate.mark_alike .malformed, fun _ => rfl⟩
  unfold message
  cases Payload.oversized payload with
  | true => exact malformed
  | false =>
    cases Payload.kind? payload with
    | none => exact malformed
    | some kind =>
      cases kind with
      | join => exact p.join_tallies source payload
      | leave => exact p.leave_tallies source
      | data => exact p.data_tallies source payload

theorem arrival_tallies (p : Plane) (packet : Bytes) : p.Tallies (arrival packet) := by
  unfold Tallies arrival
  simp only [count_masquerade, count_now]
  rcases p.masquerade.inbound p.now packet with ⟨masquerade, packet', _ | internal⟩
  · exact ⟨fun c => { c with unmapped := c.unmapped + 1 },
      Counters.alike_of_commutes fun _ _ _ _ => rfl, count_quiet { p with masquerade } _⟩
  · simp only [count_balancer, count_registry]
    rcases p.balancer.next internal.address p.registry with ⟨balancer, _ | destination⟩
    · exact ⟨fun c => { c with noRoute := c.noRoute + 1 },
        Counters.alike_of_commutes fun _ _ _ _ => rfl,
        count_quiet { p with masquerade, balancer } _⟩
    · refine ⟨fun c => { c with toClients := c.toClients + 1 },
        Counters.alike_of_commutes fun _ _ _ _ => rfl, fun c => ?_⟩
      exact congrArg
        (fun r : Plane × Reaction => (r.1, { r.2 with sends := [⟨destination, packet'⟩] }))
        (count_quiet { p with masquerade, balancer } _ c)

theorem sweep_tallies (p : Plane) : p.Tallies sweep := by
  refine ⟨id, fun _ _ => id, fun c => ?_⟩
  let swept : Plane := { p with registry := (p.registry.sweep p.now).1 }
  let carried := swept.settle.1
  have first := settle_count swept fun _ => c
  have second := settle_count
    { carried with masquerade := (carried.masquerade.sweep carried.now).1 } fun _ => c
  simp only [count, carried, swept] at first second
  simp [sweep, count, first, second]

theorem lose_tallies (p : Plane) (transport : String) (byUser : Bool) :
    p.Tallies (lose transport byUser) := by
  refine ⟨id, fun _ _ => id, fun c => ?_⟩
  have settled := settle_count { p with registry := p.registry.clear.1 } fun _ => c
  simp only [count] at settled
  simp [lose, count, settled]

theorem step_tallies (p : Plane) (e : Event) : p.Tallies (·.step e) := by
  cases e with
  | message source payload => exact p.message_tallies source payload
  | arrival packet => exact p.arrival_tallies packet
  | sweep => exact p.sweep_tallies
  | lose transport byUser => exact p.lose_tallies transport byUser
  | receive enabled => exact ⟨id, fun _ _ => id, fun _ => rfl⟩
  | advance milliseconds => exact ⟨id, fun _ _ => id, fun _ => rfl⟩

/-- Planes that differ at most in what outsiders can add to counters. -/
structure Alike (p q : Plane) : Prop where
  plane : p = { q with counters := p.counters }
  counters : p.counters.Alike q.counters

theorem Alike.refl (p : Plane) : p.Alike p :=
  ⟨rfl, _, _, _, rfl⟩

theorem Alike.trans {r : Plane} (first : p.Alike q) (second : q.Alike r) : p.Alike r := by
  obtain ⟨plane, _, _, _, counters⟩ := first
  obtain ⟨plane', _, _, _, counters'⟩ := second
  constructor
  · rw [plane, plane']
  · rw [counters, counters']
    exact ⟨_, _, _, rfl⟩

/-- Planes that are alike stay so, and give the world the same. -/
theorem Alike.step (alike : p.Alike q) (e : Event) :
    (p.step e).1.Alike (q.step e).1 ∧ (p.step e).2 = (q.step e).2 := by
  obtain ⟨mark, respects, tallies⟩ := q.step_tallies e
  have other : p.step e = _ := (congrArg (·.step e) alike.plane).trans (tallies p.counters)
  have own : q.step e = _ := tallies q.counters
  have marked : (q.step e).1.counters = mark q.counters := congrArg (·.1.counters) own
  rw [other]
  refine ⟨⟨rfl, ?_⟩, rfl⟩
  rw [marked]
  exact respects _ _ alike.counters

/-! ### Messages of outsiders -/

theorem lookup_of_absent (absent : p.registry.sessions.peek? source = none) :
    p.registry.lookup p.now source = (p.registry, none) := by
  have missing : ∀ e, p.registry.sessions.entries.find? source ≠ some e := by
    intro e found
    rw [IdleMap.peek?_of_find? found] at absent
    cases absent
  rcases Registry.owner.lookup_cases p.registry p.now source with
    ⟨e, found, -⟩ | ⟨e, found, -⟩ | ⟨-, result⟩
  · exact absurd found (missing e)
  · exact absurd found (missing e)
  · exact result

/-- Where nothing waits to be carried over, settling does away with notices only. -/
theorem AtRest.settle (rest : p.AtRest) : p.settle.1 = p ∧
    ∀ n, ({ p with registry := p.registry.note n } : Plane).settle.1 = p := by
  have registry : { p.registry with changes := [], notices := [] } = p.registry := by
    rw [← rest.changes, ← rest.sessions]
  have masquerade : { p.masquerade with notices := [] } = p.masquerade := by
    rw [← rest.mappings]
  simp [Plane.settle, Registry.note, rest.changes, registry, masquerade]

theorem join_outsider (rest : p.AtRest) (absent : p.registry.sessions.peek? source = none)
    (refused : (p.join source payload).1.counters.accepted = p.counters.accepted) :
    (p.join source payload).1 = p.count fun c => { c with rejected := c.rejected + 1 } := by
  rcases p.join_cases source payload with
    ⟨-, after, -⟩ | ⟨request, registry, outcome, -, -, result, after, -⟩
  · exact after
  · by_cases admission : outcome.admission = none
    · have refused : (p.registry.join p.now source request
          fun address => (p.settings.reply? address).isSome).2.admission = none := by
        rw [result]
        exact admission
      have same := Registry.join_unadmitted absent refused
      rw [result] at same
      simp only [if_pos admission] at after
      rw [after]
      rcases same with rfl | ⟨n, rfl⟩
      · rw [show ({ p with registry := p.registry } : Plane).settle.1 = p from rest.settle.1]
      · rw [rest.settle.2 n]
    · simp only [if_neg admission] at after
      have grown : (p.join source payload).1.counters.accepted = p.counters.accepted + 1 := by
        rw [after, count_counters, settle_counters]
      omega

/-- Nothing comes of a message from somebody who has no session and gets none. -/
theorem message_outsider (sound : p.registry.Sound) (rest : p.AtRest)
    (absent : p.registry.sessions.peek? source = none)
    (refused : (p.message source payload).1.counters.accepted = p.counters.accepted) :
    (p.message source payload).1.Alike p ∧ (p.message source payload).2.sends = [] ∧
      (p.message source payload).2.packet = none := by
  unfold message at refused ⊢
  cases oversized : Payload.oversized payload with
  | true => exact ⟨⟨rfl, _, _, _, rfl⟩, rfl, rfl⟩
  | false =>
    cases kind : Payload.kind? payload with
    | none => exact ⟨⟨rfl, _, _, _, rfl⟩, rfl, rfl⟩
    | some k =>
      simp only [oversized, kind] at refused
      cases k with
      | join =>
        refine ⟨?_, ?_, p.join_packet source payload⟩
        · show Alike (p.join source payload).1 p
          rw [join_outsider rest absent refused]
          exact ⟨rfl, _, _, _, rfl⟩
        · rcases join_answers sound source payload with ⟨_, _, -, admitted⟩ | ⟨-, turned⟩
          · have grown := congrArg Counters.accepted admitted.counters
            exact absurd (grown.symm.trans refused) (Nat.succ_ne_self _)
          · exact turned.sends
      | leave =>
        simp [leave, Registry.leave, absent, Alike.refl]
      | data =>
        have settled := quiet_count p fun c => { c with noSession := c.noSession + 1 }
        rw [show p.quiet.1 = p from rest.settle.1] at settled
        simp only [data, lookup_of_absent absent]
        rw [show ({ p with registry := p.registry } : Plane) = p from rfl, settled]
        exact ⟨⟨rfl, _, _, _, rfl⟩, rfl, rfl⟩

/-! ### Sessions of others -/

def Event.isFrom (source : Peer) : Event → Bool
  | .message other _ => other = source
  | _ => false

theorem eq_message_of_isFrom (own : e.isFrom source = true) :
    ∃ payload, e = .message source payload := by
  cases e with
  | message other payload => exact ⟨payload, by rw [of_decide_eq_true own]⟩
  | _ => cases own

theorem step_outsider (sound : p.registry.Sound) (rest : p.AtRest)
    (absent : p.registry.sessions.peek? source = none) (own : e.isFrom source = true)
    (refused : (p.step e).1.counters.accepted = p.counters.accepted) :
    (p.step e).1.Alike p ∧ (p.step e).2.sends = [] ∧ (p.step e).2.packet = none := by
  obtain ⟨payload, rfl⟩ := eq_message_of_isFrom own
  exact message_outsider sound rest absent refused

/-- Nobody gets a session without asking for one. -/
theorem step_absent_of_silent (sound : p.registry.Sound) (rest : p.AtRest)
    (absent : p.registry.sessions.peek? source = none)
    (silent : ∀ payload, e = .message source payload → JoinRequest.parse? payload = none) :
    (p.step e).1.registry.sessions.peek? source = none := by
  obtain ⟨gone, new, told, joins⟩ :=
    Registry.step_told (s := ⟨p.registry, p.now⟩) sound (p.operation e)
  rw [(step_operates rest e).registry]
  refine told.absent absent fun seat came same => ?_
  obtain ⟨-, request, offer, joins⟩ := joins seat came
  obtain ⟨payload, own, parsed⟩ := message_of_joins joins
  rw [silent payload (same ▸ own)] at parsed
  cases parsed

/-- Others cannot give a peer a session. -/
theorem step_absent (sound : p.registry.Sound) (rest : p.AtRest)
    (absent : p.registry.sessions.peek? source = none) (other : e.isFrom source = false) :
    (p.step e).1.registry.sessions.peek? source = none := by
  refine step_absent_of_silent sound rest absent fun payload own => ?_
  simp [own, Event.isFrom] at other

/-! ### Runs without an outsider -/

/-- None of the messages of the peer is accepted. -/
def Unadmitted (source : Peer) (p : Plane) : List Event → Prop
  | [] => True
  | e :: rest =>
    (e.isFrom source = true → (p.step e).1.counters.accepted = p.counters.accepted) ∧
      (p.step e).1.Unadmitted source rest

instance decidableUnadmitted (source : Peer) :
    (p : Plane) → (events : List Event) → Decidable (p.Unadmitted source events)
  | _, [] => .isTrue trivial
  | p, e :: rest =>
    have := decidableUnadmitted source (p.step e).1 rest
    inferInstanceAs (Decidable (_ ∧ _))

/-- Runs that nothing tells apart but the counters of what was dropped or rejected. -/
structure Undisturbed (all others : Plane × List Reaction) : Prop where
  plane : all.1 = { others.1 with counters := all.1.counters }
  counters : all.1.counters.Alike others.1.counters
  sends : all.2.flatMap Reaction.sends = others.2.flatMap Reaction.sends
  packets : all.2.filterMap Reaction.packet = others.2.filterMap Reaction.packet

theorem run_cons (p : Plane) (e : Event) (events : List Event) :
    p.run (e :: events) =
      (((p.step e).1.run events).1, (p.step e).2 :: ((p.step e).1.run events).2) :=
  rfl

theorem Alike.undisturbed (alike : p.Alike q) (tenanted : p.Tenanted) (rest : p.AtRest)
    (absent : p.registry.sessions.peek? source = none) (events : List Event)
    (unadmitted : p.Unadmitted source events) :
    Undisturbed (p.run events) (q.run (events.filter fun e => !e.isFrom source)) := by
  induction events generalizing p q with
  | nil => exact ⟨alike.plane, alike.counters, rfl, rfl⟩
  | cons e events ih =>
    obtain ⟨first, unadmitted⟩ := unadmitted
    have successor := step_successor tenanted rest e
    cases own : e.isFrom source with
    | true =>
      -- the other run stands still, and in this one nothing moves but a counter
      obtain ⟨still, sends, packet⟩ := step_outsider tenanted.sound rest absent own (first own)
      have absent' : (p.step e).1.registry.sessions.peek? source = none := by
        rw [still.plane]
        exact absent
      have later := ih (still.trans alike) successor.tenanted successor.rest absent' unadmitted
      rw [List.filter_cons_of_neg (by simp [own]), run_cons]
      refine ⟨later.plane, later.counters, ?_, ?_⟩
      · rw [List.flatMap_cons, sends, List.nil_append]
        exact later.sends
      · rw [List.filterMap_cons_none packet]
        exact later.packets
    | false =>
      obtain ⟨alike', same⟩ := alike.step e
      have later := ih alike' successor.tenanted successor.rest
        (step_absent tenanted.sound rest absent own) unadmitted
      rw [List.filter_cons_of_pos (by simp [own]), run_cons, run_cons]
      refine ⟨later.plane, later.counters, ?_, ?_⟩
      · rw [List.flatMap_cons, List.flatMap_cons, same, later.sends]
      · rw [List.filterMap_cons, List.filterMap_cons, same, later.packets]

/-- Leaving out all messages of a peer that is never admitted leaves everything else as it is. -/
theorem run_undisturbed {c : Configuration} {clients : Ipv4 × Ipv4} {reliable : Bool}
    {source : Peer} {events : List Event}
    (unadmitted : (create c clients reliable).Unadmitted source events) :
    Undisturbed ((create c clients reliable).run events)
      ((create c clients reliable).run (events.filter fun e => !e.isFrom source)) := by
  obtain ⟨tenanted, rest⟩ := create_tenanted c clients reliable
  exact (Alike.refl _).undisturbed tenanted rest rfl events unadmitted

/-- A client joins and sends a datagram while somebody else tries to get in, to send and to throw
it out. -/
def intrusion : List Event :=
  let client : Peer := .relay "client"
  let intruder : Peer := .relay "intruder"
  let right : JoinRequest := ⟨"secret", "group"⟩
  let wrong : JoinRequest := ⟨"guess", "group"⟩
  let datagram : Bytes := [0x45, 0, 0, 28, 0, 0, 0, 0, 64, 17, 0, 0, 10, 0, 0, 1, 93, 184, 216, 34,
    0x30, 0x39, 0, 53, 0, 8, 0, 0]
  [.receive true, .message intruder wrong.encode, .message client right.encode,
    .message intruder datagram, .message intruder [leaveTag], .message client datagram,
    .message intruder []]

/-- The intruder is counted three times, and the client is served as if it were alone. -/
theorem intrusion_undisturbed :
    let start := create { sharedSecret := "secret" } (.ofOctets 10 0 0 1, .ofOctets 10 0 0 9) true
    let all := start.run intrusion
    let others := start.run (intrusion.filter fun e => !e.isFrom (.relay "intruder"))
    start.Unadmitted (.relay "intruder") intrusion ∧ Undisturbed all others ∧
      (all.2.filterMap Reaction.packet).length = 1 ∧
      all.1.counters.rejected + all.1.counters.noSession + all.1.counters.malformed = 3 := by
  intro start all others
  have unadmitted : start.Unadmitted (.relay "intruder") intrusion := by decide +kernel
  exact ⟨unadmitted, run_undisturbed unadmitted, by decide +kernel, by decide +kernel⟩

end Plane

end Concentrator
