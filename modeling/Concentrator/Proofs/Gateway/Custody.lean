import Concentrator.Proofs.Gateway.Outage

/-!
# Who has the interface

The interface passes from nobody to a request, from the request to the reader of
a new session and, once that has ended, back to nobody. `run_custody` says that
it is in exactly one of these hands until a reader finds it at its end, that
nobody else reads from it, and that a request to start always gets it.
-/

namespace Concentrator.Lifecycle

variable {l l' : Lifecycle} {e : Event} {effects : List Effect} {now : Nat} {spent : Bool}

/-- Where the interface can be. -/
inductive Place where
  | parked
  | request (r : Request)
  | reader (t : Reader)
deriving DecidableEq

/-- Everywhere that the interface is. -/
def places (l : Lifecycle) : List Place :=
  (if l.parked then [.parked] else []) ++ l.pending?.toList.map .request ++
    (l.readers.filter Reader.holds).map .reader

/-- A reader finds the interface at its end or broken. -/
def exhausts (l : Lifecycle) : Event → Bool
  | .read i packet => (l.reading? i).isSome ∧ packet = []
  | .readFailed i _ => (l.reading? i).isSome
  | _ => false

def exhausted (l : Lifecycle) : List (Nat × Event) → Bool
  | [] => false
  | (now, e) :: rest => l.exhausts e || (l.step now e).1.exhausted rest

/-! ### Tasks -/

/-- The session whose reader has not been collected. -/
def readerOf? (l : Lifecycle) : Option Nat :=
  match l.phase with
  | .joiningReader _ token => some token
  | _ => l.processing

/-- The session whose sweeper has not been collected. -/
def sweeperOf? (l : Lifecycle) : Option Nat :=
  match l.phase with
  | .joiningReader _ token | .joiningSweeper _ token => some token
  | _ => l.processing

/-- Only a session that runs or is being ended has tasks. -/
structure Staffed (l : Lifecycle) : Prop where
  readers : l.readers.map Reader.token = l.readerOf?.toList
  sweepers : l.sweepers.map Sweeper.token = l.sweeperOf?.toList
  numbered : ∀ token delay call, .starting token delay call ∈ l.recoveries → call ≤ l.calls

theorem initial_staffed (transport : String) (period : Nat) : Staffed { transport, period } where
  readers := rfl
  sweepers := rfl
  numbered := by simp

theorem map_eq_toList_alone {α β : Type} {f : α → β} {xs : List α} {o : Option β} {x : α}
    (same : xs.map f = o.toList) (member : x ∈ xs) : xs = [x] := by
  cases o with
  | none =>
    rw [Option.toList_none, List.map_eq_nil_iff] at same
    simp [same] at member
  | some b =>
    rw [Option.toList_some, List.map_eq_singleton_iff] at same
    obtain ⟨y, only, -⟩ := same
    rw [only, List.mem_singleton] at member
    rw [only, member]

theorem Staffed.only_reader (staffed : Staffed l) {t : Reader} (member : t ∈ l.readers) :
    l.readers = [t] :=
  map_eq_toList_alone staffed.readers member

theorem Staffed.set_reader (staffed : Staffed l) {i : Nat} {t : Reader}
    (found : l.readers[i]? = some t) (u : Reader) : l.readers.set i u = [u] := by
  have only := staffed.only_reader (List.mem_of_getElem? found)
  have inside := (List.getElem?_eq_some_iff.1 found).1
  rw [only, List.length_singleton] at inside
  obtain rfl : i = 0 := by omega
  rw [only, List.set_cons_zero]

theorem Staffed.only_sweeper (staffed : Staffed l) {t : Sweeper} (member : t ∈ l.sweepers) :
    l.sweepers = [t] :=
  map_eq_toList_alone staffed.sweepers member

theorem Staffed.no_readers (staffed : Staffed l) (nobody : l.readerOf? = none) :
    l.readers = [] := by
  have readers := staffed.readers
  rwa [nobody, Option.toList_none, List.map_eq_nil_iff] at readers

theorem Staffed.no_sweepers (staffed : Staffed l) (nobody : l.sweeperOf? = none) :
    l.sweepers = [] := by
  have sweepers := staffed.sweepers
  rwa [nobody, Option.toList_none, List.map_eq_nil_iff] at sweepers

theorem Staffed.congr (staffed : Staffed l)
    (readers : l'.readers.map Reader.token = l.readers.map Reader.token)
    (sweepers : l'.sweepers.map Sweeper.token = l.sweepers.map Sweeper.token)
    (phase : l'.phase = l.phase) (processing : l'.processing = l.processing)
    (numbered : ∀ token delay call, .starting token delay call ∈ l'.recoveries → call ≤ l'.calls) :
    Staffed l' where
  readers := by
    rw [readers, staffed.readers]
    simp [readerOf?, phase, processing]
  sweepers := by
    rw [sweepers, staffed.sweepers]
    simp [sweeperOf?, phase, processing]
  numbered := numbered

/-- Setting a task to one of the same session changes no session. -/
theorem map_set_same {α β : Type} {f : α → β} {xs : List α} {i : Nat} {x y : α}
    (found : xs[i]? = some x) (same : f y = f x) : (xs.set i y).map f = xs.map f := by
  obtain ⟨inside, rfl⟩ := List.getElem?_eq_some_iff.1 found
  rw [List.map_set, same, ← List.getElem_map f (h := by simpa using inside), List.set_getElem_self]

theorem Staffed.set_recovery (staffed : Staffed l) (i : Nat) {r : Recovery} {calls : Nat}
    (more : l.calls ≤ calls) (own : ∀ token delay call, r = .starting token delay call →
      call ≤ calls) :
    ∀ token delay call, .starting token delay call ∈ l.recoveries.set i r → call ≤ calls := by
  intro token delay call member
  rcases List.mem_or_eq_of_mem_set member with old | new
  · exact Nat.le_trans (staffed.numbered token delay call old) more
  · exact own token delay call new.symm

theorem Staffed.erase_recovery (staffed : Staffed l) (i : Nat) :
    ∀ token delay call, .starting token delay call ∈ l.recoveries.eraseIdx i → call ≤ l.calls :=
  fun token delay call member =>
    staffed.numbered token delay call (List.mem_of_mem_eraseIdx member)

theorem resolves_staffed {r : Request} (resolves : Resolves r l l' effects)
    (readers : l.readers = []) (sweepers : l.sweepers = []) (rests : l.processing = none)
    (numbered : ∀ token delay call, .starting token delay call ∈ l.recoveries → call ≤ l.calls) :
    Staffed l' := by
  cases resolves with
  | starting =>
    refine ⟨by simp [readers, readerOf?, rests], by simp [sweepers, sweeperOf?, rests], ?_⟩
    exact fun token delay call member => Nat.le_succ_of_le (numbered token delay call member)
  | _ =>
    exact ⟨by simp [readers, readerOf?, rests], by simp [sweepers, sweeperOf?, rests], numbered⟩

theorem breaks_staffed {operation reason : String} (breaks : Breaks operation reason l l' effects)
    (staffed : Staffed l) : Staffed l' := by
  cases breaks with
  | first => exact staffed.congr rfl rfl rfl rfl staffed.numbered
  | again => exact staffed

theorem reading?_eq_some {i : Nat} {t : Reader} (may : l.reading? i = some t) :
    l.readers[i]? = some t ∧ t.finished = false ∧ t.token ∉ l.cancelled := by
  obtain ⟨found, going⟩ := Option.filter_eq_some_iff.1 may
  exact ⟨found, by simpa using going⟩

theorem turn_staffed (turn : Turn now l e l' effects) (coherent : Coherent l)
    (staffed : Staffed l) : Staffed l' := by
  have numbered := staffed.numbered
  have stopped (locked : l.phase ≠ .free) : l.processing = none :=
    coherent.same.trans (coherent.locked locked)
  cases turn with
  | ignored => exact staffed
  | asked => exact staffed.congr rfl rfl rfl rfl numbered
  | ends r rest token free next runs =>
    refine ⟨?_, ?_, numbered⟩
    · rw [staffed.readers]
      simp [readerOf?, free, runs]
    · rw [staffed.sweepers]
      simp [sweeperOf?, free, runs]
  | acquires r rest free next rests resolves =>
    have readers := staffed.no_readers (by simp [readerOf?, free, rests])
    have sweepers := staffed.no_sweepers (by simp [sweeperOf?, free, rests])
    exact resolves_staffed resolves readers sweepers rests numbered
  | joinsReader r token t waits member =>
    have locked : l.phase ≠ .free := by simp [waits]
    refine ⟨?_, ?_, numbered⟩
    · simp [staffed.only_reader member, readerOf?, stopped locked]
    · rw [staffed.sweepers]
      simp [sweeperOf?, waits]
  | joinsSweeper r token t waits member own finished resolves =>
    have rests := stopped (by simp [waits])
    have readers := staffed.no_readers (by simp [readerOf?, waits, rests])
    exact resolves_staffed resolves readers (by simp [staffed.only_sweeper member]) rests numbered
  | begins r call waits =>
    have rests := stopped (by simp [waits])
    have readers := staffed.no_readers (by simp [readerOf?, waits, rests])
    have sweepers := staffed.no_sweepers (by simp [sweeperOf?, waits, rests])
    exact ⟨by simp [readers, readerOf?], by simp [sweepers, sweeperOf?], numbered⟩
  | startFails r call waits =>
    have rests := stopped (by simp [waits])
    refine ⟨?_, ?_, numbered⟩
    · rw [staffed.readers]
      simp [readerOf?, waits, rests]
    · rw [staffed.sweepers]
      simp [sweeperOf?, waits, rests]
  | reads => exact staffed
  | readBreaks e i t reason may cause breaks =>
    have same := map_set_same (f := Reader.token)
      (y := { t with finished := true, holds := false }) (reading?_eq_some may).1 rfl
    exact breaks_staffed breaks (staffed.congr same rfl rfl rfl numbered)
  | writeBreaks reason breaks => exact breaks_staffed breaks staffed
  | readerStops i t found => exact staffed.congr (map_set_same found rfl) rfl rfl rfl numbered
  | sweeps i t next found => exact staffed.congr rfl (map_set_same found rfl) rfl rfl numbered
  | sweeperStops i t found => exact staffed.congr rfl (map_set_same found rfl) rfl rfl numbered
  | closed byUser =>
    refine staffed.congr rfl rfl rfl rfl fun token delay call member => ?_
    rcases List.mem_append.1 member with old | new
    · exact numbered token delay call old
    · simp at new
  | recovers i =>
    exact staffed.congr rfl rfl rfl rfl (staffed.set_recovery i (Nat.le_refl _) (by simp))
  | onlyLoses i => exact staffed.congr rfl rfl rfl rfl (staffed.erase_recovery i)
  | givesUp i => exact staffed.congr rfl rfl rfl rfl (staffed.erase_recovery i)
  | tries i =>
    refine staffed.congr rfl rfl rfl rfl (staffed.set_recovery i (Nat.le_succ _) ?_)
    rintro _ _ _ ⟨⟩
    exact Nat.le_refl _
  | restarts i => exact staffed.congr rfl rfl rfl rfl (staffed.erase_recovery i)
  | tooLate i => exact staffed.congr rfl rfl rfl rfl (staffed.erase_recovery i)
  | retries i =>
    exact staffed.congr rfl rfl rfl rfl (staffed.set_recovery i (Nat.le_refl _) (by simp))

/-! ### Hands -/

/-- As long as no reader has `spent` the interface, it is in one place. -/
structure Kept (spent : Bool) (l : Lifecycle) : Prop where
  once : l.places.length = if spent then 0 else 1
  broken : spent = true → l.failed = true
  holding : ∀ t ∈ l.readers, t.finished = false → t.holds = true

theorem length_places (l : Lifecycle) :
    l.places.length =
      l.parked.toNat + l.pending?.toList.length + l.readers.countP Reader.holds := by
  unfold places
  rw [List.length_append, List.length_append, List.length_map, List.length_map,
    ← List.countP_eq_length_filter]
  cases l.parked <;> rfl

theorem initial_kept (transport : String) (period : Nat) : Kept false { transport, period } where
  once := rfl
  broken := by simp
  holding := by simp

theorem Kept.congr (kept : Kept spent l) (places : l'.places.length = l.places.length)
    (failed : l.failed = true → l'.failed = true)
    (holding : ∀ t ∈ l'.readers, t.finished = false → t.holds = true) : Kept spent l' where
  once := by rw [places]; exact kept.once
  broken := fun gone => failed (kept.broken gone)
  holding := holding

theorem resolves_kept {r : Request} (resolves : Resolves r l l' effects) (kept : Kept spent l)
    (idle : l.pending? = none) : Kept spent l' := by
  have released : ({ l with phase := .free } : Lifecycle).places.length = l.places.length := by
    rw [length_places, length_places, idle]
    rfl
  cases resolves with
  | stopped => exact kept.congr released id kept.holding
  | refused => exact kept.congr released id kept.holding
  | starting kind working parked =>
    refine kept.congr ?_ id kept.holding
    rw [length_places, length_places, idle, parked]
    simp [pending?]

theorem breaks_kept {operation reason : String} (breaks : Breaks operation reason l l' effects)
    (kept : Kept spent l) : Kept spent l' := by
  cases breaks with
  | first => exact kept.congr rfl (fun _ => rfl) kept.holding
  | again => exact kept

/-- A failure once the interface is in no hand. -/
theorem breaks_spent {operation reason : String} (breaks : Breaks operation reason l l' effects)
    (emptied : l.places.length = 0) (idle : ∀ t ∈ l.readers, t.finished = true) : Kept true l' := by
  have holding : ∀ t ∈ l.readers, t.finished = false → t.holds = true := by
    intro t member going
    rw [idle t member] at going
    cases going
  cases breaks with
  | first => exact ⟨emptied, fun _ => rfl, holding⟩
  | again broken => exact ⟨emptied, fun _ => broken, holding⟩

theorem turn_kept (turn : Turn now l e l' effects) (staffed : Staffed l) (kept : Kept spent l)
    (spares : l.exhausts e = false) : Kept spent l' := by
  have holding := kept.holding
  have few : l.places.length ≤ 1 := by
    rw [kept.once]
    split <;> omega
  rw [length_places] at few
  cases turn with
  | ends r rest token free =>
    refine kept.congr ?_ id holding
    simp [length_places, pending?, free]
  | acquires r rest free next rests resolves =>
    have takes : Kept spent { l with waiting := rest } := kept.congr rfl id holding
    exact resolves_kept resolves takes (by simp [pending?, free])
  | joinsReader r token t waits member =>
    have only := staffed.only_reader member
    refine kept.congr ?_ id (by simp [only])
    -- the interface cannot have been parked while its reader had it
    rw [length_places, length_places]
    simp only [only, pending?, waits] at few ⊢
    cases parked : l.parked <;> cases holds : t.holds <;> simp_all
  | joinsSweeper r token t waits member own finished resolves =>
    have joins : Kept spent { l with sweepers := l.sweepers.erase t } := kept.congr rfl id holding
    exact resolves_kept resolves joins (by simp [pending?, waits])
  | begins r call waits =>
    refine kept.congr ?_ id ?_
    · rw [length_places, length_places]
      simp [pending?, waits]
      omega
    · intro t member going
      rcases List.mem_append.1 member with old | new
      · exact holding t old going
      · rw [List.mem_singleton.1 new]
  | startFails r call waits =>
    have away : l.parked = false := by
      cases parked : l.parked with
      | false => rfl
      | true =>
        simp only [pending?, waits, parked, Option.toList_some, List.length_singleton,
          Bool.toNat_true] at few
        omega
    refine kept.congr ?_ id holding
    rw [length_places, length_places]
    simp [pending?, waits, away]
  | readBreaks e i t reason may cause breaks =>
    rcases cause with ⟨rfl, -⟩ | rfl <;> simp [exhausts, may] at spares
  | writeBreaks reason breaks => exact breaks_kept breaks kept
  | readerStops i t found =>
    have only := staffed.only_reader (List.mem_of_getElem? found)
    have set := staffed.set_reader found { t with finished := true }
    refine kept.congr ?_ id (by simp [set])
    rw [length_places, length_places]
    simp only [set]
    simp [only, pending?, List.countP_singleton]
  | _ => exact kept.congr rfl id holding

/-- A reader that finds the interface exhausted has had it, and lets it go. -/
theorem exhausts_kept (staffed : Staffed l) (kept : Kept spent l) (gone : l.exhausts e = true) :
    Kept true (l.step now e).1 := by
  have broke : ∃ i t reason, l.reading? i = some t ∧ Breaks "read" reason
      { l with readers := l.readers.set i { t with finished := true, holds := false } }
      (l.step now e).1 (l.step now e).2 := by
    cases e with
    | read i packet =>
      obtain ⟨readable, rfl⟩ : (l.reading? i).isSome = true ∧ packet = [] := by
        simpa [exhausts] using gone
      obtain ⟨t, may⟩ := Option.isSome_iff_exists.1 readable
      refine ⟨i, t, "interface closed", may, ?_⟩
      simp only [step, read, may, if_true]
      exact failInterface_breaks _ _ _
    | readFailed i reason =>
      obtain ⟨t, may⟩ := Option.isSome_iff_exists.1 (show (l.reading? i).isSome = true from gone)
      refine ⟨i, t, reason, may, ?_⟩
      simp only [step, readFailed, may]
      exact failInterface_breaks _ _ _
    | _ => simp [exhausts] at gone
  obtain ⟨i, t, reason, may, breaks⟩ := broke
  obtain ⟨found, going, -⟩ := reading?_eq_some may
  have only := staffed.only_reader (List.mem_of_getElem? found)
  have set := staffed.set_reader found { t with finished := true, holds := false }
  have held := kept.holding t (List.mem_of_getElem? found) going
  have once : l.parked.toNat + l.pending?.toList.length + 1 ≤ 1 := by
    have once := kept.once
    rw [length_places, only, List.countP_singleton, held] at once
    rw [if_pos rfl] at once
    rw [once]
    split <;> omega
  have emptied : ({ l with readers := [{ t with finished := true, holds := false }] } :
      Lifecycle).places.length = 0 := by
    rw [length_places, List.countP_singleton]
    simp only [pending?, Bool.false_eq_true, if_false] at once ⊢
    omega
  rw [set] at breaks
  exact breaks_spent breaks emptied (by simp)

theorem step_kept (now : Nat) (e : Event) (staffed : Staffed l) (kept : Kept spent l) :
    Kept (spent || l.exhausts e) (l.step now e).1 := by
  cases gone : l.exhausts e with
  | true =>
    rw [Bool.or_true]
    exact exhausts_kept staffed kept gone
  | false =>
    rw [Bool.or_false]
    exact turn_kept (step_turn now l e) staffed kept gone

/-! ### Requests -/

theorem Kept.once_of_working (kept : Kept spent l) (working : l.failed = false) :
    l.parked.toNat + l.pending?.toList.length + l.readers.countP Reader.holds = 1 := by
  rw [← length_places, kept.once]
  cases spent with
  | false => rfl
  | true =>
    rw [kept.broken rfl] at working
    cases working

/-- The interface is there for a request that finds no session any more. -/
theorem Kept.parked (kept : Kept spent l) (working : l.failed = false) (idle : l.pending? = none)
    (deserted : l.readers = []) : l.parked = true := by
  have once := kept.once_of_working working
  rw [idle, deserted] at once
  simpa using once

theorem resolves_open {r : Request} (resolves : Resolves r l l' effects)
    (parked : l.failed = false → l.parked = true) (asker : Request) :
    .answer asker (.error interfaceClosed) ∉ effects := by
  cases resolves with
  | stopped => simp
  | starting => simp
  | refused kind failure cause =>
    intro member
    rw [List.mem_singleton] at member
    cases member
    split at cause
    · revert cause
      decide
    · rename_i working
      have away := cause.1
      rw [parked (eq_false_of_ne_true working)] at away
      cases away

theorem turn_open (turn : Turn now l e l' effects) (coherent : Coherent l) (staffed : Staffed l)
    (kept : Kept spent l) (asker : Request) : .answer asker (.error interfaceClosed) ∉ effects := by
  cases turn with
  | acquires r rest free next rests resolves =>
    refine resolves_open resolves (fun working => ?_) asker
    have readers := staffed.no_readers (by simp [readerOf?, free, rests])
    exact kept.parked working (by simp [pending?, free]) readers
  | joinsSweeper r token t waits member own finished resolves =>
    have rests : l.processing = none := coherent.same.trans (coherent.locked (by simp [waits]))
    have readers := staffed.no_readers (by simp [readerOf?, waits, rests])
    have opened := resolves_open resolves
      (fun working => kept.parked working (by simp [pending?, waits]) readers) asker
    simpa using opened
  | readBreaks e i t reason may cause breaks => cases breaks <;> simp
  | writeBreaks reason breaks => cases breaks <;> simp
  | startFails => simp [interfaceClosed, startFailure]
  | _ => simp

/-- The turns in which the next request ends the session that runs and collects its tasks. -/
def takeover (now : Nat) : List (Nat × Event) :=
  [(now, .acquire), (now, .readerStops 0), (now, .sweeperStops 0), (now, .proceed),
    (now, .proceed)]

/-- A request to start whose turn it is gets the answer that the transport gives, and the next one
may ask again. -/
def Restartable (l : Lifecycle) : Prop :=
  ∀ now r rest ok, l.phase = .free → l.waiting = r :: rest → r.kind = .start → l.failed = false →
    let o := (l.run (takeover now)).1.step now (.started (l.calls + 1) ok)
    o.1.phase = .free ∧ o.1.failed = false ∧
      .answer r (if ok then .ok () else .error (startFailure l.transport)) ∈ o.2

theorem readerStops_only {t : Reader} (only : l.readers = [t]) (ended : t.token ∈ l.cancelled) :
    (l.readerStops 0).1 = { l with readers := [{ t with finished := true }] } := by
  cases going : t.finished with
  | false => simp [readerStops, only, going, ended, setReader]
  | true =>
    have same : [{ t with finished := true }] = l.readers := by rw [only, ← going]
    have ignored : l.readerStops 0 = (l, []) := by simp [readerStops, only, going]
    rw [ignored, same]

theorem sweeperStops_only {t : Sweeper} (only : l.sweepers = [t]) (ended : t.token ∈ l.cancelled) :
    (l.sweeperStops 0).1 = { l with sweepers := [{ t with finished := true }] } := by
  cases going : t.finished with
  | false => simp [sweeperStops, only, going, ended, setSweeper]
  | true =>
    have same : [{ t with finished := true }] = l.sweepers := by rw [only, ← going]
    have ignored : l.sweeperStops 0 = (l, []) := by simp [sweeperStops, only, going]
    rw [ignored, same]

theorem takeover_starts (now : Nat) (staffed : Staffed l) (kept : Kept spent l) {r : Request}
    {rest : List Request} (free : l.phase = .free) (next : l.waiting = r :: rest)
    (kind : r.kind = .start) (working : l.failed = false) :
    let o := (l.run (takeover now)).1
    o.phase = .starting r (l.calls + 1) ∧ o.recoveries = l.recoveries ∧ o.failed = false ∧
      o.transport = l.transport := by
  cases runs : l.processing with
  | none =>
    have readers := staffed.no_readers (by simp [readerOf?, free, runs])
    have sweepers := staffed.no_sweepers (by simp [sweeperOf?, free, runs])
    have parked := kept.parked working (by simp [pending?, free]) readers
    simp [takeover, run, step, acquire, free, next, runs, afterStop, kind, working, parked,
      readerStops, readers, sweeperStops, sweepers, proceed]
  | some token =>
    have readers := staffed.readers
    have sweepers := staffed.sweepers
    simp only [readerOf?, sweeperOf?, free, runs, Option.toList_some, List.map_eq_singleton_iff]
      at readers sweepers
    obtain ⟨t, readers, rfl⟩ := readers
    obtain ⟨u, sweepers, same⟩ := sweepers
    have given : (l.parked || t.holds) = true := by
      have once := kept.once_of_working working
      rw [readers, List.countP_singleton] at once
      simp only [pending?, free] at once
      cases parked : l.parked <;> cases holds : t.holds <;> simp_all
    simp [takeover, run, step, acquire, free, next, runs, cancel, readers, readerStops_only,
      sweepers, sweeperStops_only, same, proceed, afterStop, kind, working, given]

/-- No recovery waits under the number of a call that is still to come. -/
theorem Staffed.foreign (staffed : Staffed l) : l.callerOf? (l.calls + 1) = none := by
  refine List.findIdx?_eq_none_iff.2 fun r member => ?_
  cases r with
  | starting token delay call =>
    have before := staffed.numbered token delay call member
    simp
    omega
  | _ => rfl

theorem restartable (staffed : Staffed l) (kept : Kept spent l) : Restartable l := by
  intro now r rest ok free next kind working
  obtain ⟨waits, recoveries, works, transport⟩ :=
    takeover_starts now staffed kept free next kind working
  generalize (l.run (takeover now)).1 = o at *
  have foreign : o.callerOf? (l.calls + 1) = none := by
    have before := staffed.foreign
    rwa [callerOf?, ← recoveries] at before
  simp only [step, started, foreign, waits, requestStarted]
  cases ok with
  | true => simp [answer, works]
  | false => simp [answer, works, transport]

theorem run_kept (coherent : Coherent l) (staffed : Staffed l) (kept : Kept spent l)
    (events : List (Nat × Event)) :
    Staffed (l.run events).1 ∧ Kept (spent || l.exhausted events) (l.run events).1 ∧
      ∀ r, .answer r (.error interfaceClosed) ∉ (l.run events).2.flatten := by
  induction events generalizing l spent with
  | nil => exact ⟨staffed, by rwa [exhausted, Bool.or_false], by simp [run]⟩
  | cons event rest ih =>
    obtain ⟨now, e⟩ := event
    have turn := step_turn now l e
    have opened := turn_open turn coherent staffed kept
    obtain ⟨staffed', kept', later⟩ := ih (turn_coherent turn coherent)
      (turn_staffed turn coherent staffed) (step_kept now e staffed kept)
    refine ⟨staffed', ?_, fun r member => ?_⟩
    · rwa [exhausted, ← Bool.or_assoc]
    · rcases List.mem_append.1 member with here | there
      · exact opened r here
      · exact later r there

theorem Kept.sole_reader (kept : Kept spent l) (staffed : Staffed l) {i : Nat} {t : Reader}
    (may : l.reading? i = some t) : l.readers = [t] ∧ l.places = [.reader t] := by
  obtain ⟨found, going, -⟩ := reading?_eq_some may
  have member := List.mem_of_getElem? found
  have only := staffed.only_reader member
  have holds := kept.holding t member going
  have few : l.places.length ≤ 1 := by
    rw [kept.once]
    split <;> omega
  have has : .reader t ∈ l.places := by simp [places, only, holds]
  refine ⟨only, ?_⟩
  obtain ⟨place, single⟩ : ∃ place, l.places = [place] := by
    refine List.length_eq_one_iff.1 ?_
    have some_place := List.length_pos_of_mem has
    omega
  rw [single, List.mem_singleton] at has
  rw [single, has]

/-- Whatever happens, the interface is in exactly one place until a reader finds it at its end or
broken, and in none after that. The reader that may read is the only one and has it. No request is
told that the interface is closed, and none that asks while it works is left without an answer of
the transport. -/
theorem run_custody (transport : String) (period : Nat) (events : List (Nat × Event)) :
    let l : Lifecycle := { transport, period }
    let o := l.run events
    o.1.places.length = (if l.exhausted events then 0 else 1) ∧
      (∀ i t, o.1.reading? i = some t → o.1.readers = [t] ∧ o.1.places = [.reader t]) ∧
      (∀ r, .answer r (.error interfaceClosed) ∉ o.2.flatten) ∧ Restartable o.1 := by
  intro l o
  have coherent : Coherent l := initial_coherent transport period
  have staffed : Staffed l := initial_staffed transport period
  have kept : Kept false l := initial_kept transport period
  obtain ⟨staffed', kept', opened⟩ := run_kept coherent staffed kept events
  rw [Bool.false_or] at kept'
  exact ⟨kept'.once, fun i t may => kept'.sole_reader staffed' may, opened,
    restartable staffed' kept'⟩

end Concentrator.Lifecycle
