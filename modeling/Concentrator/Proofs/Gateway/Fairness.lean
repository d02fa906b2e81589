import Concentrator.Proofs.Gateway.Operations
import Concentrator.Proofs.Gateway.Tenancy
import Mathlib.Data.List.Nodup
import Mathlib.Data.List.Rotate

/-!
# Every member in its turn

As long as the same sessions are behind an address, what arrives for it goes round
them in the order in which they joined. Nothing else that happens to a plane makes
anyone lose or gain a turn.
-/

namespace Concentrator

/-! ### Going round -/

/-- Peers are served in turn, beginning at a place among them. -/
def GoesRound (peers : List Peer) (start : Nat) (served : List Peer) : Prop :=
  ∀ i < served.length, served[i]? = peers[(start + i) % peers.length]?

namespace GoesRound

variable {peers served : List Peer} {peer : Peer} {start i m : Nat}

theorem cons (inside : start < peers.length)
    (later : GoesRound peers ((start + 1) % peers.length) served) :
    GoesRound peers start (peers[start] :: served) := by
  intro i within
  cases i with
  | zero =>
    rw [List.getElem?_cons_zero, Nat.add_zero, Nat.mod_eq_of_lt inside,
      List.getElem?_eq_getElem inside]
  | succ i =>
    have next := later i (Nat.lt_of_succ_lt_succ within)
    rw [Nat.mod_add_mod, Nat.add_assoc, Nat.add_comm 1] at next
    rw [List.getElem?_cons_succ, next]

/-- What is served within one round is a piece of the round. -/
theorem take_drop_eq (round : GoesRound peers start served) (within : i + m ≤ served.length)
    (short : m ≤ peers.length) :
    (served.drop i).take m = (peers.rotate (start + i)).take m := by
  apply List.ext_getElem?
  intro j
  by_cases inside : j < m
  · have next := round (i + j) (by omega)
    rw [List.getElem?_take_of_lt inside, List.getElem?_take_of_lt inside, List.getElem?_drop,
      List.getElem?_rotate (by omega), next, Nat.add_comm j, Nat.add_assoc]
  · have beyond : m ≤ j := Nat.le_of_not_lt inside
    rw [List.getElem?_take_eq_none beyond, List.getElem?_take_eq_none beyond]

theorem window (round : GoesRound peers start served)
    (within : i + peers.length ≤ served.length) :
    ((served.drop i).take peers.length).Perm peers := by
  rw [round.take_drop_eq within (Nat.le_refl _), ← peers.length_rotate (start + i),
    List.take_length]
  exact List.rotate_perm peers _

/-- Everybody is served once a round, and at most once in what is left over. -/
theorem count_rounds (round : GoesRound peers start served) (distinct : peers.Nodup)
    (member : peer ∈ peers) (rounds : Nat) {i rest : Nat} (short : rest < peers.length)
    (within : i + (peers.length * rounds + rest) ≤ served.length) :
    ∃ extra ≤ 1, (rest = 0 → extra = 0) ∧
      ((served.drop i).take (peers.length * rounds + rest)).count peer = rounds + extra := by
  induction rounds generalizing i with
  | zero =>
    rw [Nat.mul_zero, Nat.zero_add] at within ⊢
    refine ⟨_, ?_, ?_, (Nat.zero_add _).symm⟩
    · rw [round.take_drop_eq within short.le]
      have part := (List.take_sublist rest (peers.rotate (start + i))).nodup
        (List.nodup_rotate.2 distinct)
      exact List.nodup_iff_count_le_one.1 part peer
    · rintro rfl
      rfl
  | succ rounds ih =>
    have parts : peers.length * (rounds + 1) + rest =
        peers.length + (peers.length * rounds + rest) := by
      rw [Nat.mul_succ]
      omega
    rw [parts] at within ⊢
    obtain ⟨extra, most, none_left, later⟩ := ih (i := i + peers.length) (by omega)
    have first := (round.window (i := i) (by omega)).count_eq peer
    refine ⟨extra, most, none_left, ?_⟩
    rw [List.take_add, List.count_append, first, List.drop_drop, later,
      List.count_eq_one_of_mem distinct member]
    omega

theorem even (round : GoesRound peers start served) (distinct : peers.Nodup)
    (member : peer ∈ peers) (within : i + m ≤ served.length) :
    ((served.drop i).take m).count peer = m / peers.length ∨
      ((served.drop i).take m).count peer = (m + peers.length - 1) / peers.length := by
  have some_peer : 0 < peers.length := List.length_pos_of_mem member
  have whole : peers.length * (m / peers.length) + m % peers.length = m := Nat.div_add_mod m _
  obtain ⟨extra, most, none_left, count⟩ := round.count_rounds distinct member
    (m / peers.length) (Nat.mod_lt m some_peer) (by rwa [whole])
  rw [whole] at count
  rw [count]
  by_cases whole_rounds : m % peers.length = 0
  · exact .inl (by rw [none_left whole_rounds, Nat.add_zero])
  · have up : (m + peers.length - 1) / peers.length = m / peers.length + 1 := by
      have sum : m + peers.length - 1 =
          (m % peers.length - 1) + peers.length * (m / peers.length + 1) := by
        rw [Nat.mul_succ]
        omega
      have below := Nat.mod_lt m some_peer
      rw [sum, Nat.add_mul_div_left _ _ some_peer, Nat.div_eq_of_lt (by omega), Nat.zero_add]
    rw [up]
    omega

end GoesRound

namespace Plane

variable {p : Plane} {e : Event} {address : Ipv4} {l : Lease} {events : List Event}

/-- The peers that get what arrives for an address. -/
def served (address : Ipv4) (p : Plane) (e : Event) : List Peer :=
  if p.target? e = some address then (p.step e).2.sends.map Delivery.destination else []

def deliveries (address : Ipv4) (p : Plane) : List Event → List Peer
  | [] => []
  | e :: rest => p.served address e ++ (p.step e).1.deliveries address rest

/-! ### Steps -/

/-- Who is served is the one whose turn it is. -/
theorem served_of_target (tenanted : p.Tenanted) (rest : p.AtRest)
    (target : p.target? e = some address) (leased : p.registry.leases.find? address = some l) :
    ∃ inside : p.balancer.place address l < l.peers.length,
      p.served address e = [l.peers[p.balancer.place address l]] ∧
      (p.turned e).place address l = (p.balancer.place address l + 1) % l.peers.length := by
  obtain ⟨inside, next⟩ := Balancer.next_of_leased leased (tenanted.members leased).1
    (tenanted.current rest leased)
  refine ⟨inside, ?_, ?_⟩
  · rw [served, if_pos target]
    cases e with
    | arrival packet =>
      obtain ⟨internal, here, rfl⟩ := Option.map_eq_some_iff.1 target
      rcases inbound : p.masquerade.inbound p.now packet with ⟨masquerade, packet', out⟩
      rw [inbound] at here
      obtain rfl : out = some internal := here
      simp only [step, arrival, inbound, next, List.map_cons, List.map_nil]
    | _ => cases target
  · rw [turned_of_some target, next]
    exact Balancer.place_moved ((Table.find?_insert ..).trans (if_pos rfl)) inside

theorem served_of_other (other : p.target? e ≠ some address) :
    p.served address e = [] ∧ (p.turned e).place address l = p.balancer.place address l := by
  refine ⟨if_neg other, ?_⟩
  cases target : p.target? e with
  | none => rw [turned_of_none target]
  | some elsewhere =>
    rw [turned_of_some target]
    refine Balancer.place_congr (Balancer.find?_next_of_ne ?_ _ _)
    rintro rfl
    exact other target

/-- A step that leaves the sessions behind an address as they are leaves its turn alone too. -/
theorem step_place (tenanted : p.Tenanted) (rest : p.AtRest)
    (leased : p.registry.leases.find? address = some l)
    (steady : (p.step e).1.registry.behind address = p.registry.behind address) :
    (p.step e).1.registry.leases.find? address = some l ∧
      (p.step e).1.balancer.place address l = (p.turned e).place address l := by
  have operates := step_operates rest e
  obtain ⟨changes, journal, all⟩ :=
    Registry.step_behind (s := ⟨p.registry, p.now⟩) tenanted.sound (p.operation e)
  obtain ⟨kept, named_iff⟩ := all address
  rw [rest.changes, List.nil_append] at journal
  have unnamed : ¬Registry.Named changes address := by
    intro named
    refine named_iff.1 named ?_
    rw [operates.registry] at steady
    exact steady
  constructor
  · rw [operates.registry]
    exact (kept unnamed).trans leased
  · refine Balancer.place_congr ?_
    rw [operates.balancer, journal]
    apply Option.ext
    intro turn
    exact Dispatch.find?_follow_eq_some_iff.trans (and_iff_right unnamed)

/-! ### Runs -/

theorem run_goesRound (tenanted : p.Tenanted) (rest : p.AtRest)
    (leased : p.registry.leases.find? address = some l)
    (steady : ∀ past, past <+: events →
      (p.run past).1.registry.behind address = p.registry.behind address) :
    GoesRound l.peers (p.balancer.place address l) (p.deliveries address events) := by
  induction events generalizing p with
  | nil =>
    intro i none_left
    cases none_left
  | cons e events ih =>
    have first : (p.step e).1.registry.behind address = p.registry.behind address :=
      steady [e] ⟨events, rfl⟩
    obtain ⟨leased', moved⟩ := step_place tenanted rest leased first
    have successor := step_successor tenanted rest e
    have later := ih successor.tenanted successor.rest leased' fun past inside =>
      (steady (e :: past) ((List.prefix_cons_inj e).2 inside)).trans first.symm
    rw [moved] at later
    by_cases target : p.target? e = some address
    · obtain ⟨inside, served, next⟩ := served_of_target tenanted rest target leased
      rw [next] at later
      rw [deliveries, served]
      exact later.cons inside
    · obtain ⟨served, still⟩ := served_of_other (l := l) target
      rw [still] at later
      rw [deliveries, served]
      exact later

/-- What the members of a lease get of a number of packets. -/
structure FairShare (members : List (Nat × Peer)) (served : List Peer) : Prop where
  join_order : members.Pairwise fun x y => x.1 < y.1
  distinct : (members.map Prod.snd).Nodup
  /-- The order in which they joined is the order in which they are served. -/
  cyclic : ∃ start < members.length, GoesRound (members.map Prod.snd) start served
  window : ∀ i, i + members.length ≤ served.length →
    ((served.drop i).take members.length).Perm (members.map Prod.snd)
  even : ∀ i m, i + m ≤ served.length → ∀ peer ∈ members.map Prod.snd,
    ((served.drop i).take m).count peer = m / members.length ∨
      ((served.drop i).take m).count peer = (m + members.length - 1) / members.length

theorem Tenanted.distinct (tenanted : p.Tenanted)
    (leased : p.registry.leases.find? address = some l) : (l.members.map Prod.snd).Nodup := by
  have fits := tenanted.sound.fits address l leased
  have apart : l.members.Pairwise fun x y => x.2 ≠ y.2 := by
    refine fits.ordered.imp_of_mem fun {x y} there there' below same => ?_
    obtain ⟨s, recorded, number, -⟩ := (fits.members_iff x.1 x.2).1 there
    obtain ⟨s', recorded', number', -⟩ := (fits.members_iff y.1 y.2).1 there'
    rw [same, recorded'] at recorded
    obtain rfl := Option.some.inj recorded
    omega
  exact List.pairwise_map.2 apart

/-- Over any stretch in which the same sessions are behind an address, they share what arrives for
it, however the run began and whatever else happens. -/
theorem run_fair {c : Configuration} {clients : Ipv4 × Ipv4} {reliable : Bool}
    {before stretch : List Event} {address : Ipv4} {members : List (Nat × Peer)}
    (steady : ∀ past, past <+: stretch →
      ((create c clients reliable).run (before ++ past)).1.registry.behind address = some members) :
    FairShare members
      (((create c clients reliable).run before).1.deliveries address stretch) := by
  obtain ⟨tenanted, rest⟩ := create_tenanted c clients reliable
  obtain ⟨tenanted, rest⟩ := run_tenanted tenanted rest before
  simp only [run_append] at steady
  generalize ((create c clients reliable).run before).1 = p at *
  have begun : p.registry.behind address = some members := steady [] List.nil_prefix
  obtain ⟨l, leased, rfl⟩ := Option.map_eq_some_iff.1 begun
  have fits := tenanted.sound.fits address l leased
  have distinct := tenanted.distinct leased
  have round := run_goesRound tenanted rest leased fun past inside =>
    (steady past inside).trans begun.symm
  obtain ⟨-, inside⟩ := Balancer.turnFor_eq (tenanted.current rest leased) fits.peers_ne_nil
  rw [fits.peers_eq] at round inside
  have count : (l.members.map Prod.snd).length = l.members.length := List.length_map ..
  constructor
  · exact fits.ordered
  · exact distinct
  · exact ⟨_, count ▸ inside, round⟩
  · intro i within
    rw [← count] at within ⊢
    exact round.window within
  · intro i m within peer member
    rw [← count]
    exact round.even distinct member within

/-- A plane to which nothing has happened yet. -/
def office : Plane :=
  create { Configuration.standard with sharedSecret := "secret" }
    (.ofOctets 10 0 0 1, .ofOctets 10 0 0 9) true

/-- Two clients join a group and one of them sends a datagram. -/
def pairing : List Event :=
  let request : JoinRequest := ⟨"secret", "group"⟩
  let datagram : Bytes := [0x45, 0, 0, 28, 0, 0, 0, 0, 64, 17, 0, 0, 10, 0, 0, 1, 93, 184, 216, 34,
    0x30, 0x39, 0, 53, 0, 8, 0, 0]
  [.receive true, .message (.relay "first") request.encode,
    .message (.relay "second") request.encode, .message (.relay "first") datagram]

/-- Answers to the datagram come in while the first client asks again, somebody else joins and
leaves another group, and nothing has been idle for too long. -/
def replies : List Event :=
  let reply : Bytes := [0x45, 0, 0, 28, 0, 0, 0, 0, 64, 17, 0, 0, 93, 184, 216, 34, 10, 255, 255,
    255, 0, 53, 4, 0, 0, 8, 0, 0]
  [.arrival reply, .message (.relay "first") (JoinRequest.encode ⟨"secret", "group"⟩),
    .arrival reply, .message (.relay "third") (JoinRequest.encode ⟨"secret", "others"⟩), .sweep,
    .message (.relay "third") [leaveTag], .arrival reply]

theorem replies_fair :
    (∀ past, past <+: replies →
      (office.run (pairing ++ past)).1.registry.behind (.ofOctets 10 0 0 1) =
        some [(1, .relay "first"), (2, .relay "second")]) ∧
    FairShare [(1, .relay "first"), (2, .relay "second")]
      ((office.run pairing).1.deliveries (.ofOctets 10 0 0 1) replies) ∧
    (office.run pairing).1.deliveries (.ofOctets 10 0 0 1) replies =
      [.relay "first", .relay "second", .relay "first"] := by
  have all : ∀ past ∈ replies.inits,
      (office.run (pairing ++ past)).1.registry.behind (.ofOctets 10 0 0 1) =
        some [(1, .relay "first"), (2, .relay "second")] := by
    decide +kernel
  have steady : ∀ past, past <+: replies →
      (office.run (pairing ++ past)).1.registry.behind (.ofOctets 10 0 0 1) =
        some [(1, .relay "first"), (2, .relay "second")] :=
    fun past inside => all past ((List.mem_inits past replies).2 inside)
  exact ⟨steady, run_fair steady, by decide +kernel⟩

end Plane

end Concentrator
