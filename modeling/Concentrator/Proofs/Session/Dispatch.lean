import Concentrator.Proofs.Balancer
import Concentrator.Proofs.Session.Generations

/-!
# A balancer over a registry

Operations of a registry and calls of a balancer over it come in any order, and
the balancer hears of changes or does not. A turn that has fallen behind has a
generation that its address will never be shown under again, so that whoever is
picked is a member of the lease as it is at that moment.
-/

namespace Concentrator

inductive Call where
  | operate (e : Registry.Event)
  | next (address : Ipv4)
  | invalidate (address : Ipv4)

structure Dispatch where
  registry : Clocked Registry
  balancer : Balancer := {}

namespace Dispatch

/-- What a balancer does that hears of a change. -/
def follow (b : Balancer) : Change → Balancer
  | .members address => b.invalidate address
  | .released address => b.invalidate address

def step (wired : Bool) (d : Dispatch) : Call → Dispatch
  | .operate e =>
    let registry := Registry.step d.registry e
    let changes := registry.state.changes.drop d.registry.state.changes.length
    ⟨registry, if wired then changes.foldl follow d.balancer else d.balancer⟩
  | .next address => { d with balancer := (d.balancer.next address d.registry.state).1 }
  | .invalidate address => { d with balancer := d.balancer.invalidate address }

def run (wired : Bool) (d : Dispatch) (calls : List Call) : Dispatch :=
  calls.foldl (step wired) d

def create (secret : String) (first last : Ipv4) (idle : Nat) : Dispatch where
  registry := ⟨.create secret (.between first last) idle, 0⟩

def operation? : Call → Option Registry.Event
  | .operate e => some e
  | _ => none

variable {wired : Bool} {d : Dispatch} {calls past between : List Call} {a address : Ipv4}
  {l : Lease} {turn : Turn}

/-- Nothing is left of the turns whose addresses are named. -/
theorem find?_follow_eq_some_iff {b : Balancer} {changes : List Change} :
    (changes.foldl follow b).turns.find? a = some turn ↔
      ¬Registry.Named changes a ∧ b.turns.find? a = some turn := by
  induction changes generalizing b with
  | nil => simp [Registry.Named]
  | cons c rest ih =>
    rw [List.foldl_cons, ih]
    cases c <;> simp [follow, Balancer.find?_invalidate_eq_some_iff, Registry.Named] <;> tauto

/-- Only operations count for the registry. -/
theorem run_registry (wired : Bool) (d : Dispatch) (calls : List Call) :
    (run wired d calls).registry = Registry.run d.registry (calls.filterMap operation?) := by
  induction calls generalizing d with
  | nil => rfl
  | cons c rest ih => cases c <;> exact ih _

/-! ### The invariant -/

/-- A turn that has the generation of a lease has its members too. -/
structure Abreast (d : Dispatch) : Prop where
  sound : d.registry.state.Sound
  stamped : d.registry.state.Stamped
  issued : ∀ a turn, d.balancer.turns.find? a = some turn →
    turn.generation ≤ d.registry.state.generation
  current : ∀ a l, d.registry.state.leases.find? a = some l → d.balancer.Current a l

theorem create_abreast (secret : String) (first last : Ipv4) (idle : Nat) :
    (create secret first last idle).Abreast := by
  refine ⟨Registry.create_sound secret first last idle, Registry.create_stamped _ _ _, ?_, ?_⟩
  · intro a turn found
    cases found
  · intro a l _ turn found
    cases found

theorem Abreast.forget (abreast : d.Abreast) {b : Balancer}
    (fewer : ∀ a turn, b.turns.find? a = some turn → d.balancer.turns.find? a = some turn) :
    Abreast { d with balancer := b } where
  sound := abreast.sound
  stamped := abreast.stamped
  issued a turn found := abreast.issued a turn (fewer a turn found)
  current a l leased turn found := abreast.current a l leased turn (fewer a turn found)

/-- What a registry does behind the back of the balancer does no harm. -/
theorem Abreast.operate (abreast : d.Abreast) (e : Registry.Event) :
    Abreast { d with registry := Registry.step d.registry e } := by
  have evolved := Registry.step_evolves d.registry e
  refine ⟨Registry.step_sound abreast.sound e, evolved.stamped abreast.stamped, ?_, ?_⟩
  · intro a turn found
    exact Nat.le_trans (abreast.issued a turn found) evolved.grows
  · intro a l leased turn found same
    have old : l.generation ≤ d.registry.state.generation := same ▸ abreast.issued a turn found
    exact abreast.current a l (evolved.recalls leased old) turn found same

theorem Abreast.next (abreast : d.Abreast) (address : Ipv4) :
    Abreast { d with balancer := (d.balancer.next address d.registry.state).1 } := by
  cases leased : d.registry.state.leases.find? address with
  | none =>
    rw [Balancer.next_of_unleased leased]
    exact abreast.forget fun _ _ found => (Balancer.find?_invalidate_eq_some_iff.1 found).2
  | some l =>
    have fits := abreast.sound.fits address l leased
    obtain ⟨inside, picked⟩ := Balancer.next_of_leased leased fits.peers_ne_nil
      (abreast.current address l leased)
    rw [picked]
    refine ⟨abreast.sound, abreast.stamped, ?_, ?_⟩
    · intro a turn found
      rw [Table.find?_insert] at found
      by_cases here : a = address
      · rw [if_pos here] at found
        obtain rfl := Option.some.inj found
        exact abreast.stamped.issued address l leased
      · rw [if_neg here] at found
        exact abreast.issued a turn found
    · intro a l' leased' turn found
      rw [Table.find?_insert] at found
      by_cases here : a = address
      · subst here
        rw [if_pos rfl] at found
        obtain rfl := Option.some.inj found
        rw [leased] at leased'
        obtain rfl := Option.some.inj leased'
        exact fun _ => rfl
      · rw [if_neg here] at found
        exact abreast.current a l' leased' turn found

theorem step_abreast (abreast : d.Abreast) (c : Call) : (step wired d c).Abreast := by
  cases c with
  | operate e =>
    refine (abreast.operate e).forget fun a turn found => ?_
    cases wired with
    | false => exact found
    | true => exact (find?_follow_eq_some_iff.1 found).2
  | next address => exact abreast.next address
  | invalidate address =>
    exact abreast.forget fun _ _ found => (Balancer.find?_invalidate_eq_some_iff.1 found).2

theorem run_abreast (abreast : d.Abreast) (calls : List Call) : (run wired d calls).Abreast :=
  List.foldlRecOn (motive := Abreast) calls (step wired) abreast
    fun _ abreast c _ => step_abreast abreast c

/-! ### What a caller sees -/

/-- What the next packet for an address meets. -/
structure Answers (d : Dispatch) (address : Ipv4) : Prop where
  none_iff : (d.balancer.next address d.registry.state).2 = none ↔
    d.registry.state.leaseAt? address = none
  member : ∀ peer, (d.balancer.next address d.registry.state).2 = some peer →
    ∃ l, d.registry.state.leaseAt? address = some l ∧ peer ∈ l.peers ∧
      l.peers = l.members.map Prod.snd

theorem Abreast.answers (abreast : d.Abreast) (address : Ipv4) : d.Answers address := by
  cases leased : d.registry.state.leases.find? address with
  | none =>
    have nobody := Balancer.next_of_unleased (b := d.balancer) leased
    refine ⟨iff_of_true (by rw [nobody]) leased, fun peer picked => ?_⟩
    rw [nobody] at picked
    cases picked
  | some l =>
    have fits := abreast.sound.fits address l leased
    obtain ⟨inside, somebody⟩ := Balancer.next_of_leased leased fits.peers_ne_nil
      (abreast.current address l leased)
    refine ⟨iff_of_false (by simp [somebody]) (by simp [Registry.leaseAt?, leased]), ?_⟩
    intro peer picked
    rw [somebody] at picked
    obtain rfl := Option.some.inj picked
    exact ⟨l, leased, List.getElem_mem inside, fits.peers_eq⟩

/-- What the generations of leases say at one moment and after more calls. -/
structure Dated (wired : Bool) (d : Dispatch) (between : List Call) : Prop where
  snapshot : ∀ a a' l l', d.registry.state.leaseAt? a = some l →
    (run wired d between).registry.state.leaseAt? a' = some l' →
    l.generation = l'.generation → a = a' ∧ l = l'
  generation_ne_iff : ∀ a l l', d.registry.state.leaseAt? a = some l →
    (run wired d between).registry.state.leaseAt? a = some l' →
    (l.generation ≠ l'.generation ↔ ∃ past, past <+: between ∧
      (run wired d past).registry.state.behind a ≠ d.registry.state.behind a)
  /-- As long as changes can be counted, generations do not run out. -/
  counted : ∀ a l, d.registry.state.leaseAt? a = some l →
    l.generation ≤ d.registry.state.changes.length

theorem Abreast.dated (abreast : d.Abreast) (between : List Call) : Dated wired d between := by
  constructor
  · intro a a' l l' leased leased' same
    rw [run_registry] at leased'
    exact (Registry.run_evolves d.registry _).same_snapshot abreast.stamped leased leased' same
  · intro a l l' leased leased'
    rw [run_registry] at leased'
    rw [Registry.run_generation_ne_iff abreast.sound abreast.stamped leased leased']
    constructor
    · rintro ⟨operations, inside, moved⟩
      obtain ⟨past, before, rfl⟩ := List.prefix_filterMap_iff.1 inside
      exact ⟨past, before, by rwa [run_registry]⟩
    · rintro ⟨past, before, moved⟩
      rw [run_registry] at moved
      exact ⟨past.filterMap operation?, before.filterMap operation?, moved⟩
  · intro a l leased
    exact Nat.le_trans (abreast.stamped.issued a l leased) abreast.stamped.spent

/-- Whatever calls there have been, and whether or not the balancer hears of changes, it picks
among the members of the moment, and generations tell the snapshots of leases apart. -/
theorem run_current (secret : String) (first last : Ipv4) (idle : Nat) (wired : Bool)
    (calls between : List Call) :
    let d := run wired (create secret first last idle) calls
    (∀ address, d.Answers address) ∧ Dated wired d between := by
  have abreast : (run wired (create secret first last idle) calls).Abreast :=
    run_abreast (create_abreast secret first last idle) calls
  exact ⟨abreast.answers, abreast.dated between⟩

end Dispatch

end Concentrator
