import Concentrator.Gateway.Lifecycle

/-!
# What a step of the lifecycle can be

`Turn` lists everything that one task can do before it has to wait again, with
the condition under which it does so, the lifecycle that it leaves and its
effects. `step_turn` says that every step is one of these turns, so what a turn
preserves every interleaving preserves.
-/

namespace Concentrator.Lifecycle

variable {l : Lifecycle}

/-- Somebody waits for the answer to a call. -/
def awaits (call : Nat) (l : Lifecycle) : Bool :=
  (l.callerOf? call).isSome || match l.phase with
    | .starting _ c => c = call
    | _ => false

/-- How a request goes on when no session runs any more. -/
inductive Resolves (r : Request) (l : Lifecycle) : Lifecycle → List Effect → Prop where
  | stopped (kind : r.kind = .stop) :
      Resolves r l { l with phase := .free } [.answer r (.ok ())]
  | refused (kind : r.kind = .start) (failure : Failure)
      (cause : if l.failed then failure = interfaceFailure
        else l.parked = false ∧ failure = interfaceClosed) :
      Resolves r l { l with phase := .free } [.answer r (.error failure)]
  | starting (kind : r.kind = .start) (working : l.failed = false) (parked : l.parked = true) :
      Resolves r l
        { l with parked := false, phase := .starting r (l.calls + 1), calls := l.calls + 1 }
        [.command .start]

inductive Breaks (operation reason : String) (l : Lifecycle) : Lifecycle → List Effect → Prop where
  | first (working : l.failed = false) :
      Breaks operation reason l
        { l with failed := true, attached := false, cancelled := l.active.toList ++ l.cancelled }
        [.notice (.interfaceFailed operation reason), .command .detach, .command .stop]
  | again (broken : l.failed = true) : Breaks operation reason l l []

inductive Turn (now : Nat) (l : Lifecycle) : Event → Lifecycle → List Effect → Prop where
  | ignored (e : Event) (unanswered : ∀ call ok, e = .started call ok → l.awaits call = false) :
      Turn now l e l []
  -- requests
  | asked (r : Request) : Turn now l (.request r) { l with waiting := l.waiting ++ [r] } []
  | ends (r : Request) (rest : List Request) (token : Nat) (free : l.phase = .free)
      (next : l.waiting = r :: rest) (runs : l.processing = some token) :
      Turn now l .acquire
        { l with
          cancelled := token :: l.cancelled
          waiting := rest
          processing := none
          active := none
          attached := false
          phase := .joiningReader r token }
        [.command .detach, .command .stop]
  | acquires {l' : Lifecycle} {effects : List Effect} (r : Request) (rest : List Request)
      (free : l.phase = .free) (next : l.waiting = r :: rest) (rests : l.processing = none)
      (resolves : Resolves r { l with waiting := rest } l' effects) :
      Turn now l .acquire l' effects
  | joinsReader (r : Request) (token : Nat) (t : Reader) (waits : l.phase = .joiningReader r token)
      (member : t ∈ l.readers) (own : t.token = token) (finished : t.finished = true) :
      Turn now l .proceed
        { l with
          parked := l.parked || t.holds
          readers := l.readers.erase t
          phase := .joiningSweeper r token } []
  | joinsSweeper {l' : Lifecycle} {effects : List Effect} (r : Request) (token : Nat)
      (t : Sweeper) (waits : l.phase = .joiningSweeper r token)
      (member : t ∈ l.sweepers) (own : t.token = token) (finished : t.finished = true)
      (resolves : Resolves r { l with sweepers := l.sweepers.erase t } l' effects) :
      Turn now l .proceed l' (.notice .processingStopped :: effects)
  | begins (r : Request) (call : Nat) (waits : l.phase = .starting r call)
      (foreign : l.callerOf? call = none) :
      Turn now l (.started call true)
        { l with
          tokens := l.tokens + 1
          active := some l.tokens
          processing := some l.tokens
          attached := true
          readers := l.readers ++ [{ token := l.tokens }]
          sweepers := l.sweepers ++ [{ token := l.tokens, next := now + l.period }]
          phase := .free }
        [.command .attach, .notice (.processingStarted l.transport), .answer r (.ok ())]
  | startFails (r : Request) (call : Nat) (waits : l.phase = .starting r call)
      (foreign : l.callerOf? call = none) :
      Turn now l (.started call false) { l with parked := true, phase := .free }
        [.answer r (.error (startFailure l.transport))]
  -- tasks
  | reads (i : Nat) (t : Reader) (packet : Bytes) (may : l.reading? i = some t)
      (some_left : packet ≠ []) : Turn now l (.read i packet) l [.packet packet]
  | readBreaks {l' : Lifecycle} {effects : List Effect} (e : Event) (i : Nat) (t : Reader)
      (reason : String) (may : l.reading? i = some t)
      (cause : e = .read i [] ∧ reason = "interface closed" ∨ e = .readFailed i reason)
      (breaks : Breaks "read" reason
        { l with readers := l.readers.set i { t with finished := true, holds := false } }
        l' effects) :
      Turn now l e l' effects
  | writeBreaks {l' : Lifecycle} {effects : List Effect} (reason : String)
      (breaks : Breaks "write" reason l l' effects) :
      Turn now l (.writeFailed reason) l' effects
  | readerStops (i : Nat) (t : Reader) (found : l.readers[i]? = some t)
      (going : t.finished = false) (ended : t.token ∈ l.cancelled) :
      Turn now l (.readerStops i) { l with readers := l.readers.set i { t with finished := true } }
        []
  | sweeps (i : Nat) (t : Sweeper) (next : Nat) (found : l.sweepers[i]? = some t)
      (going : t.finished = false) (runs : t.token ∉ l.cancelled) (due : t.next ≤ now) :
      Turn now l (.sweep i) { l with sweepers := l.sweepers.set i { t with next } } [.sweep]
  | sweeperStops (i : Nat) (t : Sweeper) (found : l.sweepers[i]? = some t)
      (going : t.finished = false) (ended : t.token ∈ l.cancelled) :
      Turn now l (.sweeperStops i)
        { l with sweepers := l.sweepers.set i { t with finished := true } } []
  -- recoveries
  | closed (byUser : Bool) :
      Turn now l (.closed byUser) { l with recoveries := l.recoveries ++ [.fresh byUser] } []
  | recovers (i : Nat) (token : Nat) (found : l.recoveries[i]? = some (.fresh false))
      (runs : l.active = some token) :
      Turn now l (.recover i)
        { l with recoveries :=
            l.recoveries.set i (.sleeping token firstDelay (now + firstDelay)) }
        [.lose false]
  | onlyLoses (i : Nat) (byUser : Bool) (found : l.recoveries[i]? = some (.fresh byUser))
      (cause : byUser = true ∨ l.active = none) :
      Turn now l (.recover i) { l with recoveries := l.recoveries.eraseIdx i } [.lose byUser]
  | givesUp (i token delay due : Nat) (found : l.recoveries[i]? = some (.sleeping token delay due))
      (ended : token ∈ l.cancelled) :
      Turn now l (.recover i) { l with recoveries := l.recoveries.eraseIdx i } []
  | tries (i token delay due : Nat) (found : l.recoveries[i]? = some (.sleeping token delay due))
      (runs : token ∉ l.cancelled) (ready : due ≤ now) :
      Turn now l (.recover i)
        { l with
          recoveries := l.recoveries.set i (.starting token delay (l.calls + 1))
          calls := l.calls + 1 }
        [.command .start]
  | restarts (i token delay call : Nat) (caller : l.callerOf? call = some i)
      (found : l.recoveries[i]? = some (.starting token delay call)) (runs : token ∉ l.cancelled) :
      Turn now l (.started call true)
        { l with recoveries := l.recoveries.eraseIdx i, attached := true }
        [.command .attach, .notice (.transportRestarted l.transport)]
  | tooLate (i token delay call : Nat) (caller : l.callerOf? call = some i)
      (found : l.recoveries[i]? = some (.starting token delay call)) (ended : token ∈ l.cancelled) :
      Turn now l (.started call true) { l with recoveries := l.recoveries.eraseIdx i }
        [.command .stop]
  | retries (i token delay call wait : Nat) (caller : l.callerOf? call = some i)
      (found : l.recoveries[i]? = some (.starting token delay call))
      (doubled : wait = min (delay * 2) lastDelay) :
      Turn now l (.started call false)
        { l with recoveries := l.recoveries.set i (.sleeping token wait (now + wait)) }
        [.notice (.restartFailed l.transport (wait / 1000))]

theorem afterStop_resolves (r : Request) (l : Lifecycle) :
    Resolves r l (l.afterStop r).1 (l.afterStop r).2 := by
  unfold afterStop
  cases kind : r.kind with
  | stop => exact .stopped kind
  | start =>
    dsimp only
    by_cases broken : l.failed = true
    · simp only [if_pos broken]
      exact .refused kind interfaceFailure (by simp [broken])
    · by_cases parked : l.parked = true
      · simp only [if_neg broken, parked, not_true_eq_false, if_false]
        exact .starting kind (eq_false_of_ne_true broken) parked
      · simp only [if_neg broken, if_pos parked]
        exact .refused kind interfaceClosed (by simp [broken, parked])

theorem failInterface_breaks (operation reason : String) (l : Lifecycle) :
    Breaks operation reason l (l.failInterface operation reason).1
      (l.failInterface operation reason).2 := by
  unfold failInterface
  by_cases broken : l.failed = true
  · rw [if_pos broken]
    exact .again broken
  · rw [if_neg broken]
    exact .first (eq_false_of_ne_true broken)

theorem acquire_turn (now : Nat) (l : Lifecycle) :
    Turn now l .acquire l.acquire.1 l.acquire.2 := by
  unfold acquire
  split
  · rename_i r rest free next
    dsimp only
    split
    · rename_i rests
      exact .acquires r rest free next rests (afterStop_resolves r _)
    · rename_i token runs
      exact .ends r rest token free next runs
  · exact .ignored _ (by simp)

theorem proceed_turn (now : Nat) (l : Lifecycle) :
    Turn now l .proceed l.proceed.1 l.proceed.2 := by
  have ignored : Turn now l .proceed l [] := .ignored _ (by simp)
  unfold proceed
  cases waits : l.phase with
  | joiningReader r token =>
    dsimp only
    cases found : l.readers.find? fun t => t.token = token ∧ t.finished with
    | none => exact ignored
    | some t =>
      obtain ⟨own, finished⟩ : t.token = token ∧ t.finished = true := by
        simpa using List.find?_some found
      exact .joinsReader r token t waits (List.mem_of_find?_eq_some found) own finished
  | joiningSweeper r token =>
    dsimp only
    cases found : l.sweepers.find? fun t => t.token = token ∧ t.finished with
    | none => exact ignored
    | some t =>
      obtain ⟨own, finished⟩ : t.token = token ∧ t.finished = true := by
        simpa using List.find?_some found
      exact .joinsSweeper r token t waits (List.mem_of_find?_eq_some found) own finished
        (afterStop_resolves r _)
  | _ => exact ignored

theorem callerOf?_eq_some {call i : Nat} (caller : l.callerOf? call = some i) :
    ∃ token delay, l.recoveries[i]? = some (.starting token delay call) := by
  obtain ⟨inside, match_i, -⟩ := List.findIdx?_eq_some_iff_getElem.1 caller
  rw [List.getElem?_eq_getElem inside]
  cases r : l.recoveries[i] with
  | starting token delay c =>
    have same : c = call := by simpa [r] using match_i
    exact ⟨token, delay, by rw [same]⟩
  | _ => simp [r] at match_i

theorem started_turn (now call : Nat) (ok : Bool) (l : Lifecycle) :
    Turn now l (.started call ok) (l.started now call ok).1 (l.started now call ok).2 := by
  unfold started
  cases caller : l.callerOf? call with
  | some i =>
    obtain ⟨token, delay, found⟩ := callerOf?_eq_some caller
    simp only [recoveryStarted, found]
    cases ok with
    | false => exact .retries i token delay call _ caller found rfl
    | true =>
      by_cases ended : token ∈ l.cancelled
      · simp only [ended, if_true]
        exact .tooLate i token delay call caller found ended
      · simp only [ended, if_true, if_false]
        exact .restarts i token delay call caller found ended
  | none =>
    have ignored (other : l.awaits call = false) : Turn now l (.started call ok) l [] :=
      .ignored _ fun c _ same => by rw [← (Event.started.inj same).1, other]
    cases waits : l.phase with
    | starting r c =>
      by_cases same : c = call
      · subst same
        simp only [if_true, requestStarted, waits]
        cases ok with
        | false => exact .startFails r c waits caller
        | true => exact .begins r c waits caller
      · simp only [if_neg same]
        exact ignored (by simp [awaits, caller, waits, same])
    | _ => exact ignored (by simp [awaits, caller, waits])

theorem recover_turn (now i : Nat) (l : Lifecycle) :
    Turn now l (.recover i) (l.recover now i).1 (l.recover now i).2 := by
  have ignored : Turn now l (.recover i) l [] := .ignored _ (by simp)
  unfold recover
  cases found : l.recoveries[i]? with
  | none => exact ignored
  | some r =>
    cases r with
    | fresh byUser =>
      cases byUser with
      | true => exact .onlyLoses i true found (.inl rfl)
      | false =>
        cases runs : l.active with
        | none => exact .onlyLoses i false found (.inr runs)
        | some token => exact .recovers i token found runs
    | sleeping token delay due =>
      dsimp only
      by_cases ended : token ∈ l.cancelled
      · simp only [ended, if_true]
        exact .givesUp i token delay due found ended
      · by_cases ready : due ≤ now
        · simp only [ended, ready, if_true, if_false]
          exact .tries i token delay due found ended ready
        · simp only [ended, ready, if_false]
          exact ignored
    | starting token delay call => exact ignored

theorem read_turn (now i : Nat) (packet : Bytes) (l : Lifecycle) :
    Turn now l (.read i packet) (l.read i packet).1 (l.read i packet).2 := by
  unfold read
  cases may : l.reading? i with
  | none => exact .ignored _ (by simp)
  | some t =>
    dsimp only
    by_cases empty : packet = []
    · subst empty
      simp only [if_true]
      exact .readBreaks _ i t _ may (.inl ⟨rfl, rfl⟩) (failInterface_breaks _ _ _)
    · simp only [if_neg empty]
      exact .reads i t packet may empty

theorem readFailed_turn (now i : Nat) (reason : String) (l : Lifecycle) :
    Turn now l (.readFailed i reason) (l.readFailed i reason).1 (l.readFailed i reason).2 := by
  unfold readFailed
  cases may : l.reading? i with
  | none => exact .ignored _ (by simp)
  | some t => exact .readBreaks _ i t reason may (.inr rfl) (failInterface_breaks _ _ _)

theorem readerStops_turn (now i : Nat) (l : Lifecycle) :
    Turn now l (.readerStops i) (l.readerStops i).1 (l.readerStops i).2 := by
  have ignored : Turn now l (.readerStops i) l [] := .ignored _ (by simp)
  unfold readerStops
  cases found : l.readers[i]? with
  | none => exact ignored
  | some t =>
    dsimp only
    split
    · rename_i ended
      exact .readerStops i t found (by simpa using ended.1) ended.2
    · exact ignored

theorem sweep_turn (now i : Nat) (l : Lifecycle) :
    Turn now l (.sweep i) (l.sweep now i).1 (l.sweep now i).2 := by
  have ignored : Turn now l (.sweep i) l [] := .ignored _ (by simp)
  unfold sweep
  cases found : l.sweepers[i]? with
  | none => exact ignored
  | some t =>
    dsimp only
    split
    · rename_i due
      exact .sweeps i t _ found (by simpa using due.1) due.2.1 due.2.2
    · exact ignored

theorem sweeperStops_turn (now i : Nat) (l : Lifecycle) :
    Turn now l (.sweeperStops i) (l.sweeperStops i).1 (l.sweeperStops i).2 := by
  have ignored : Turn now l (.sweeperStops i) l [] := .ignored _ (by simp)
  unfold sweeperStops
  cases found : l.sweepers[i]? with
  | none => exact ignored
  | some t =>
    dsimp only
    split
    · rename_i ended
      exact .sweeperStops i t found (by simpa using ended.1) ended.2
    · exact ignored

theorem step_turn (now : Nat) (l : Lifecycle) (e : Event) :
    Turn now l e (l.step now e).1 (l.step now e).2 := by
  cases e with
  | request r => exact .asked r
  | acquire => exact acquire_turn now l
  | proceed => exact proceed_turn now l
  | started call ok => exact started_turn now call ok l
  | read i packet => exact read_turn now i packet l
  | readFailed i reason => exact readFailed_turn now i reason l
  | readerStops i => exact readerStops_turn now i l
  | sweep i => exact sweep_turn now i l
  | sweeperStops i => exact sweeperStops_turn now i l
  | closed byUser => exact .closed byUser
  | recover i => exact recover_turn now i l
  | writeFailed reason => exact .writeBreaks reason (failInterface_breaks _ _ _)

end Concentrator.Lifecycle
