import Concentrator.Proofs.Gateway.Accounting
import Concentrator.Proofs.Session.Requests
import Concentrator.Proofs.Session.Settings
import Concentrator.Proofs.Session.Verdicts

/-!
# Whom the gateway answers

A client that asks to join is answered if and only if it is admitted, and
`run_answered` says when that is. A request that is longer than a payload may be
is never looked at.
-/

namespace Concentrator

namespace Plane

variable {p : Plane} {source : Peer} {payload : Bytes} {request : JoinRequest} {address : Ipv4}

/-- Carrying changes over empties the journals of the registry and leaves it alone otherwise. -/
theorem settle_keeps (p : Plane) :
    p.settle.1.registry = { p.registry with changes := [], notices := [] } ∧
      p.settle.1.now = p.now ∧ p.settle.1.reliable = p.reliable :=
  List.foldlRecOn (motive := fun q =>
      q.registry = { p.registry with changes := [], notices := [] } ∧ q.now = p.now ∧
        q.reliable = p.reliable)
    p.registry.changes follow
    (b := { p with registry := { p.registry with changes := [], notices := [] } }) ⟨rfl, rfl, rfl⟩
    fun q same change _ => by cases change <;> exact same

/-- The reply with which a client is told its address. -/
def welcome (p : Plane) (address : Ipv4) : Bytes :=
  joinTag :: Bytes.ofText (p.settings.render address)

/-- What is asked of a payload to be answered with an address. -/
structure Admissible (p : Plane) (source : Peer) (payload : Bytes) (request : JoinRequest)
    (address : Ipv4) : Prop where
  receiving : p.receiving = true
  parsed : JoinRequest.parse? payload = some request
  secret : request.secret = p.registry.secret
  offered : (p.registry.relinquish p.now source request.group).Offers request.group address
  fits : (p.welcome address).length ≤ maxPayload

structure Admitted (p : Plane) (source : Peer) (request : JoinRequest) (address : Ipv4)
    (q : Plane × Reaction) : Prop where
  counters : q.1.counters = { p.counters with accepted := p.counters.accepted + 1 }
  sends : q.2.sends = List.replicate (if p.reliable then 1 else 3) ⟨source, p.welcome address⟩
  seated : ∃ session, q.1.registry.sessions.live? q.1.now source = some session ∧
    session.group = request.group ∧ session.address = address
  leased : q.1.registry.leaseOf? request.group = some address

structure TurnedAway (p : Plane) (source : Peer) (q : Plane × Reaction) : Prop where
  counters : q.1.counters = { p.counters with rejected := p.counters.rejected + 1 }
  sends : q.2.sends = []
  /-- The source has no session that it had not before. -/
  seated : ∀ session, q.1.registry.sessions.peek? source = some session →
    p.registry.sessions.peek? source = some session

theorem reply?_of_isSome (told : (p.settings.reply? address).isSome = true) :
    p.settings.reply? address = some (p.welcome address) := by
  unfold ClientSettings.reply? at told ⊢
  dsimp only at told ⊢
  split
  · rfl
  · rename_i long
    rw [if_neg long] at told
    cases told

theorem reply?_isSome_iff :
    (p.settings.reply? address).isSome = true ↔ (p.welcome address).length ≤ maxPayload := by
  rw [ClientSettings.reply?_isSome, Nat.add_comm]
  rfl

theorem bind_reply?_eq_none {offered : Option Ipv4}
    (silent : ∀ a, offered = some a → (p.settings.reply? a).isSome = false) :
    offered.bind p.settings.reply? = none := by
  cases offered with
  | none => rfl
  | some address =>
    rw [Option.bind_some, ← Option.not_isSome_iff_eq_none, silent address rfl]
    exact Bool.false_ne_true

/-- A request to join is rejected unread, or it is up to the registry. -/
theorem join_cases (p : Plane) (source : Peer) (payload : Bytes) :
    ((p.receiving = false ∨ JoinRequest.parse? payload = none) ∧
      (p.join source payload).1 = (p.count fun c => { c with rejected := c.rejected + 1 }) ∧
      (p.join source payload).2.sends = []) ∨
    ∃ request registry outcome, p.receiving = true ∧ JoinRequest.parse? payload = some request ∧
      p.registry.join p.now source request (fun address => (p.settings.reply? address).isSome) =
        (registry, outcome) ∧
      (p.join source payload).1 = ({ p with registry }.settle.1.count fun c =>
        if outcome.admission = none then { c with rejected := c.rejected + 1 }
        else { c with accepted := c.accepted + 1 }) ∧
      (p.join source payload).2.sends =
        ((outcome.offered.bind p.settings.reply?).map (Control.deliveries p.reliable source)).getD
          [] := by
  rcases Bool.eq_false_or_eq_true p.receiving with receiving | closed
  · cases parsed : JoinRequest.parse? payload with
    | none => simp [join, receiving, parsed]
    | some request =>
      rcases result : p.registry.join p.now source request
        fun address => (p.settings.reply? address).isSome with ⟨registry, outcome⟩
      obtain ⟨-, -, reliable⟩ := settle_keeps { p with registry }
      refine .inr ⟨request, registry, outcome, receiving, rfl, result, ?_⟩
      unfold join
      rw [if_neg (not_not.2 receiving), parsed]
      dsimp only
      rw [result]
      cases outcome.admission <;> simp [reliable]
  · simp [join, closed]

/-- Only who is admitted is answered, and who is not has gained nothing. -/
theorem join_answers (sound : p.registry.Sound) (source : Peer) (payload : Bytes) :
    (∃ request address, p.Admissible source payload request address ∧
      p.Admitted source request address (p.join source payload)) ∨
    (¬∃ request address, p.Admissible source payload request address) ∧
      p.TurnedAway source (p.join source payload) := by
  rcases p.join_cases source payload with
    ⟨unread, after, sends⟩ | ⟨request, registry, outcome, receiving, parsed, result, after, sends⟩
  · refine .inr ⟨?_, ?_⟩
    · rintro ⟨request, address, admissible⟩
      rcases unread with closed | unreadable
      · rw [admissible.receiving] at closed
        cases closed
      · rw [admissible.parsed] at unreadable
        cases unreadable
    · constructor
      · rw [after]
        rfl
      · exact sends
      · intro session recorded
        rwa [after] at recorded
  · have decided := Registry.join_decides sound p.now source request
      fun address => (p.settings.reply? address).isSome
    rw [result] at decided
    obtain ⟨settled, still, -⟩ := settle_keeps { p with registry }
    have counters := settle_counters { p with registry }
    rcases decided with ⟨address, ⟨⟨secret, offered⟩, told⟩, granted⟩ | ⟨none_fits, declined⟩
    · have fits := reply?_isSome_iff.1 told
      refine .inl ⟨request, address, ⟨receiving, parsed, secret, offered, fits⟩, ?_⟩
      have admitted : outcome.admission ≠ none := granted.admitted
      have said : outcome.offered = some address := granted.offered
      simp only [if_neg admitted] at after
      constructor
      · rw [after, count, counters]
      · rw [sends, said, Option.bind_some, reply?_of_isSome told]
        rfl
      · simp only [after, count, settled, still]
        exact granted.seated
      · simp only [after, count, settled]
        exact granted.leased
    · refine .inr ⟨?_, ?_⟩
      · rintro ⟨request', address, admissible⟩
        have same := admissible.parsed
        rw [parsed] at same
        obtain rfl := Option.some.inj same
        exact none_fits ⟨address, ⟨admissible.secret, admissible.offered⟩,
          reply?_isSome_iff.2 admissible.fits⟩
      · have refused : outcome.admission = none := declined.admitted
        simp only [if_pos refused] at after
        constructor
        · rw [after, count, counters]
        · rw [sends, bind_reply?_eq_none declined.offered]
          rfl
        · simp only [after, count, settled]
          exact declined.seated

/-- A request to join is admitted or turned away, unless it is too long to be looked at. -/
structure Answered (p : Plane) (source : Peer) (payload : Bytes) : Prop where
  decided : payload.length ≤ maxPayload →
    (∃ request address, p.Admissible source payload request address ∧
      p.Admitted source request address (p.message source payload)) ∨
    (¬∃ request address, p.Admissible source payload request address) ∧
      p.TurnedAway source (p.message source payload)
  dropped : maxPayload < payload.length → p.message source payload =
    ({ p with counters := { p.counters with malformed := p.counters.malformed + 1 } }, {})

theorem message_answered (sound : p.registry.Sound) (source : Peer)
    (kind : Payload.kind? payload = some .join) : p.Answered source payload := by
  constructor
  · intro fits
    have handled : p.message source payload = p.join source payload := by
      rw [message, Payload.oversized, if_neg (by simpa using fits), kind]
    rw [handled]
    exact join_answers sound source payload
  · intro long
    rw [message, Payload.oversized, if_pos (by simpa using long)]
    rfl

end Plane

namespace Gateway

variable {c : Configuration} {transport : String} {reliable : Bool} {lanes : Nat}
  {route : Peer → Nat} {g : Gateway}

theorem create_plane (created : create c transport reliable lanes route = .ok g) :
    ∃ clients, c.check = .ok clients ∧ g.plane = .create c clients reliable := by
  unfold create at created
  split at created
  · cases created
  · rename_i clients checked
    split at created
    · cases created
    · obtain rfl := Except.ok.inj created
      exact ⟨clients, checked, rfl⟩

theorem run_settled (created : create c transport reliable lanes route = .ok g)
    (events : List Event) : (g.run events).plane.Settled c := by
  have kept : Kept (Plane.Settled c) :=
    ⟨fun _ e settled => Plane.step_settled settled e,
      fun _ _ same settled => Plane.count_settled settled same⟩
  obtain ⟨clients, -, plane⟩ := create_plane created
  have start : g.plane.Settled c := plane ▸ Plane.create_settled c clients reliable
  exact run_plane kept start events

/-- In every state of a gateway, a client is answered if and only if it is admitted. -/
theorem run_answered (created : create c transport reliable lanes route = .ok g)
    (events : List Event) (source : Peer) {payload : Bytes}
    (kind : Payload.kind? payload = some .join) :
    (g.run events).plane.Answered source payload :=
  Plane.message_answered (run_settled created events).tenanted.sound source kind

/-- Over a transport that may lose messages a client is answered three times. -/
theorem firstClient_answered :
    let request : JoinRequest := ⟨"secret", "group"⟩
    ∃ g, create { sharedSecret := "secret" } "udp" false 1 (fun _ => 0) = .ok g ∧
      (g.run [.receive true]).plane.Answered (.relay "client") request.encode ∧
      ((g.run [.receive true]).plane.message (.relay "client") request.encode).2.sends.length =
        3 := by
  intro request
  have created : create { sharedSecret := "secret" } "udp" false 1 (fun _ => 0) = .ok _ := rfl
  refine ⟨_, created, run_answered created [.receive true] (.relay "client") (by decide), ?_⟩
  decide +kernel

/-- A request for a group with a long name. -/
def longRequest (n : Nat) : JoinRequest := ⟨"secret", String.ofList (List.replicate (n + 1) 'g')⟩

theorem longRequest_length (n : Nat) : n < (longRequest n).encode.length := by
  have name : (Bytes.ofText (longRequest n).group).length = n + 1 := by
    rw [longRequest, Bytes.ofText_ofList, List.length_flatMap, List.map_replicate,
      List.sum_replicate_nat]
    exact Nat.mul_one _
  rw [JoinRequest.encode, List.length_cons, List.length_append, name]
  omega

theorem parse?_longRequest (n : Nat) :
    JoinRequest.parse? (longRequest n).encode = some (longRequest n) := by
  apply JoinRequest.parse?_encode
  · exact show ';' ∉ "secret".toList by decide
  · simp [longRequest]

/-- Such a request is neither accepted nor rejected, although all is right but its length. -/
theorem longRequest_unanswered :
    ∃ g, create { sharedSecret := "secret" } "udp" false 1 (fun _ => 0) = .ok g ∧
      let p := (g.run [.receive true]).plane
      let payload := (longRequest maxPayload).encode
      let q := p.message (.relay "client") payload
      Payload.kind? payload = some .join ∧
        (∃ address, p.Admissible (.relay "client") payload (longRequest maxPayload) address) ∧
        q.1.counters.accepted = p.counters.accepted ∧
        q.1.counters.rejected = p.counters.rejected ∧ q.2.sends = [] := by
  have created : create { sharedSecret := "secret" } "udp" false 1 (fun _ => 0) = .ok _ := rfl
  have settled := run_settled created [.receive true]
  refine ⟨_, created, ?_⟩
  intro p payload q
  have kind : Payload.kind? payload = some .join := rfl
  have offered :
      (p.registry.relinquish p.now (.relay "client") (longRequest maxPayload).group).Offers
        (longRequest maxPayload).group (.ofOctets 10 0 0 1) := by
    have absent : p.registry.sessions.peek? (.relay "client") = none := rfl
    rw [Registry.relinquish_of_other fun _ live => (by cases live),
      Registry.vacate_of_absent absent]
    exact (Registry.offers_iff settled.tenanted.sound).2 rfl
  have dropped : q = _ :=
    (Plane.message_answered settled.tenanted.sound (.relay "client") kind).dropped
      (longRequest_length maxPayload)
  refine ⟨kind, ⟨.ofOctets 10 0 0 1, rfl, parse?_longRequest maxPayload, rfl, offered,
    by decide +kernel⟩, ?_⟩
  rw [dropped]
  exact ⟨rfl, rfl, rfl⟩

end Gateway

end Concentrator
