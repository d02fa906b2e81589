import Concentrator.Proofs.Gateway.Turns

/-!
# Sessions and their transport

A token that has not been cancelled belongs to the session that runs, whichever
tasks still know others. It follows that the transport is attached exactly while
a session runs (`run_attached`), and that only the recovery of an earlier session
can have stopped it (`run_up`).
-/

namespace Concentrator

def Recovery.token? : Recovery → Option Nat
  | .fresh _ => none
  | .sleeping token _ _ => some token
  | .starting token _ _ => some token

/-- How a transport stands that is told what to do. -/
structure Standing where
  /-- It delivers what it receives. -/
  attached : Bool := false
  /-- It has not been told to stop since it last was started with success. -/
  up : Bool := false
  /-- When it last was started with success, the session that asked for it had ended. -/
  late : Bool := false

namespace Lifecycle

variable {l l' : Lifecycle} {e : Event} {effects : List Effect} {now : Nat} {s : Standing}

/-! ### Tokens -/

structure Coherent (l : Lifecycle) : Prop where
  same : l.processing = l.active
  /-- Nothing runs while a request holds the lock. -/
  locked : l.phase ≠ .free → l.active = none
  asking : ∀ r call, l.phase = .starting r call → r.kind = .start
  current : ∀ token, l.active = some token → token < l.tokens
  known : ∀ token ∈ l.cancelled, token < l.tokens
  /-- A token that has not been cancelled is that of the session that runs. -/
  running : ∀ token < l.tokens, token ∉ l.cancelled → l.active = some token
  recovering : ∀ r ∈ l.recoveries, ∀ token, r.token? = some token → token < l.tokens
  attached : l.attached = l.isProcessing

theorem initial_coherent (transport : String) (period : Nat) :
    Coherent { transport, period } where
  same := rfl
  locked := by simp
  asking := by simp
  current := by simp
  known := by simp
  running := by simp
  recovering := by simp
  attached := rfl

theorem Coherent.congr (coherent : Coherent l) (active : l'.active = l.active)
    (processing : l'.processing = l.processing) (cancelled : l'.cancelled = l.cancelled)
    (tokens : l'.tokens = l.tokens) (attached : l'.attached = l.attached)
    (locked : l'.phase ≠ .free → l.active = none)
    (asking : ∀ r call, l'.phase = .starting r call → r.kind = .start)
    (recovering : ∀ r ∈ l'.recoveries, ∀ token, r.token? = some token → token < l.tokens) :
    Coherent l' where
  same := by rw [processing, active]; exact coherent.same
  locked := by rw [active]; exact locked
  asking := asking
  current := by rw [active, tokens]; exact coherent.current
  known := by rw [cancelled, tokens]; exact coherent.known
  running := by rw [active, tokens, cancelled]; exact coherent.running
  recovering := by rw [tokens]; exact recovering
  attached := by
    unfold isProcessing
    rw [attached, active, cancelled]
    exact coherent.attached

theorem Coherent.set_recovery (coherent : Coherent l) (i : Nat) {r : Recovery}
    (own : ∀ token, r.token? = some token → token < l.tokens) :
    ∀ r' ∈ l.recoveries.set i r, ∀ token, r'.token? = some token → token < l.tokens := by
  intro r' member
  rcases List.mem_or_eq_of_mem_set member with old | rfl
  · exact coherent.recovering r' old
  · exact own

theorem Coherent.erase_recovery (coherent : Coherent l) (i : Nat) :
    ∀ r ∈ l.recoveries.eraseIdx i, ∀ token, r.token? = some token → token < l.tokens :=
  fun r member => coherent.recovering r (List.mem_of_mem_eraseIdx member)

theorem resolves_coherent {r : Request} (resolves : Resolves r l l' effects)
    (coherent : Coherent l) (rests : l.active = none) : Coherent l' := by
  cases resolves with
  | stopped => exact coherent.congr rfl rfl rfl rfl rfl (by simp) (by simp) coherent.recovering
  | refused => exact coherent.congr rfl rfl rfl rfl rfl (by simp) (by simp) coherent.recovering
  | starting kind =>
    refine coherent.congr rfl rfl rfl rfl rfl (fun _ => rests) ?_ coherent.recovering
    rintro r' call same
    obtain ⟨rfl, -⟩ := Phase.starting.inj same
    exact kind

theorem breaks_coherent {operation reason : String} (breaks : Breaks operation reason l l' effects)
    (coherent : Coherent l) : Coherent l' := by
  cases breaks with
  | again => exact coherent
  | first =>
    refine ⟨coherent.same, coherent.locked, coherent.asking, coherent.current, ?_, ?_,
      coherent.recovering, ?_⟩
    · intro token member
      rcases List.mem_append.1 member with now | before
      · exact coherent.current token (Option.mem_toList.1 now)
      · exact coherent.known token before
    · intro token below spared
      obtain ⟨other, before⟩ := not_or.1 (mt List.mem_append.2 spared)
      have runs := coherent.running token below before
      exact absurd (Option.mem_toList.2 runs) other
    · cases l.active <;> simp [isProcessing]

theorem turn_coherent (turn : Turn now l e l' effects) (coherent : Coherent l) : Coherent l' := by
  have locked := coherent.locked
  have asking := coherent.asking
  have recovering := coherent.recovering
  cases turn with
  | ignored => exact coherent
  | asked => exact coherent.congr rfl rfl rfl rfl rfl locked asking recovering
  | ends r rest token free next runs =>
    have active : l.active = some token := coherent.same ▸ runs
    refine ⟨rfl, fun _ => rfl, by simp, by simp, ?_, ?_, recovering, rfl⟩
    · intro t member
      rcases List.mem_cons.1 member with rfl | before
      · exact coherent.current t active
      · exact coherent.known t before
    · intro t below spared
      obtain ⟨other, before⟩ := not_or.1 (mt List.mem_cons.2 spared)
      have runs := coherent.running t below before
      exact absurd (Option.some.inj (runs.symm.trans active)) other
  | acquires r rest free next rests resolves =>
    have waits : Coherent { l with waiting := rest } :=
      coherent.congr rfl rfl rfl rfl rfl locked asking recovering
    exact resolves_coherent resolves waits (coherent.same ▸ rests)
  | joinsReader r token t waits =>
    exact coherent.congr rfl rfl rfl rfl rfl (fun _ => locked (by simp [waits])) (by simp)
      recovering
  | joinsSweeper r token t waits member own finished resolves =>
    have collected : Coherent { l with sweepers := l.sweepers.erase t } :=
      coherent.congr rfl rfl rfl rfl rfl locked asking recovering
    exact resolves_coherent resolves collected (locked (by simp [waits]))
  | begins r call waits =>
    -- the lock keeps others from running, and nothing can have cancelled a token to come
    have rests : l.active = none := locked (by simp [waits])
    have fresh : l.tokens ∉ l.cancelled := fun member =>
      Nat.lt_irrefl _ (coherent.known _ member)
    refine ⟨rfl, by simp, by simp, ?_, ?_, ?_, ?_, by simp [isProcessing, fresh]⟩
    · rintro token same
      obtain rfl := Option.some.inj same
      exact Nat.lt_succ_self _
    · exact fun token member => Nat.lt_succ_of_lt (coherent.known token member)
    · intro token below spared
      rcases Nat.lt_succ_iff_lt_or_eq.1 below with before | rfl
      · have runs := coherent.running token before spared
        rw [rests] at runs
        cases runs
      · rfl
    · exact fun r member token own => Nat.lt_succ_of_lt (recovering r member token own)
  | startFails r call waits =>
    exact coherent.congr rfl rfl rfl rfl rfl (by simp) (by simp) recovering
  | reads => exact coherent
  | readBreaks e i t reason may cause breaks =>
    exact breaks_coherent breaks
      (coherent.congr rfl rfl rfl rfl rfl locked asking recovering)
  | writeBreaks reason breaks => exact breaks_coherent breaks coherent
  | readerStops => exact coherent.congr rfl rfl rfl rfl rfl locked asking recovering
  | sweeps => exact coherent.congr rfl rfl rfl rfl rfl locked asking recovering
  | sweeperStops => exact coherent.congr rfl rfl rfl rfl rfl locked asking recovering
  | closed byUser =>
    refine coherent.congr rfl rfl rfl rfl rfl locked asking ?_
    intro r member token own
    rcases List.mem_append.1 member with old | new
    · exact recovering r old token own
    · obtain rfl := List.mem_singleton.1 new
      cases own
  | recovers i token found runs =>
    refine coherent.congr rfl rfl rfl rfl rfl locked asking (coherent.set_recovery i ?_)
    rintro _ ⟨⟩
    exact coherent.current token runs
  | onlyLoses i =>
    exact coherent.congr rfl rfl rfl rfl rfl locked asking (coherent.erase_recovery i)
  | givesUp i =>
    exact coherent.congr rfl rfl rfl rfl rfl locked asking (coherent.erase_recovery i)
  | tries i token delay due found =>
    refine coherent.congr rfl rfl rfl rfl rfl locked asking (coherent.set_recovery i ?_)
    rintro _ ⟨⟩
    exact recovering _ (List.mem_of_getElem? found) token rfl
  | restarts i token delay call caller found runs =>
    -- a recovery that has not been cancelled finds its own session running
    have below := recovering _ (List.mem_of_getElem? found) token rfl
    have active := coherent.running token below runs
    have processing : l.isProcessing = true := by simp [isProcessing, active, runs]
    exact ⟨coherent.same, locked, asking, coherent.current, coherent.known, coherent.running,
      coherent.erase_recovery i, processing.symm⟩
  | tooLate i =>
    exact coherent.congr rfl rfl rfl rfl rfl locked asking (coherent.erase_recovery i)
  | retries i token delay call wait caller found =>
    refine coherent.congr rfl rfl rfl rfl rfl locked asking (coherent.set_recovery i ?_)
    rintro _ ⟨⟩
    exact recovering _ (List.mem_of_getElem? found) token rfl

theorem Coherent.run (coherent : Coherent l) (events : List (Nat × Event)) :
    Coherent (l.run events).1 := by
  induction events generalizing l with
  | nil => exact coherent
  | cons event rest ih =>
    obtain ⟨now, e⟩ := event
    exact ih (turn_coherent (step_turn now l e) coherent)

/-! ### The transport -/

def obey (s : Standing) : Effect → Standing
  | .command .stop => { s with up := false }
  | .command .attach => { s with attached := true }
  | .command .detach => { s with attached := false }
  | _ => s

/-- The answer to a call is for a recovery whose session has ended. -/
def overdue (call : Nat) (l : Lifecycle) : Bool :=
  match (l.callerOf? call).bind fun i => l.recoveries[i]? with
  | some (.starting token _ _) => token ∈ l.cancelled
  | _ => false

/-- A transport that gives an answer somebody waits for has started. -/
def hear (l : Lifecycle) (e : Event) (s : Standing) : Standing :=
  match e with
  | .started call true =>
    if l.awaits call then { s with up := true, late := l.overdue call } else s
  | _ => s

/-- What becomes of a transport in a sequence of events: it starts when it says so, and does what
it is told. -/
def watch (l : Lifecycle) (s : Standing) : List (Nat × Event) → Standing
  | [] => s
  | (now, e) :: rest =>
    let (l', effects) := l.step now e
    l'.watch (effects.foldl obey (l.hear e s)) rest

structure Told (l : Lifecycle) (s : Standing) : Prop where
  attached : s.attached = l.attached
  up : l.isProcessing = true → s.up = !s.late

theorem Told.congr (told : Told l s) (attached : l'.attached = l.attached)
    (active : l'.active = l.active) (cancelled : l'.cancelled = l.cancelled) : Told l' s where
  attached := by rw [attached]; exact told.attached
  up := by
    unfold isProcessing
    rw [active, cancelled]
    exact told.up

theorem told_of_detached (coherent : Coherent l') (rests : l'.attached = false)
    (detached : s.attached = false) : Told l' s where
  attached := detached.trans rests.symm
  up := by
    intro processing
    rw [← coherent.attached, rests] at processing
    cases processing

theorem hear_unanswered
    (unanswered : ∀ call ok, e = .started call ok → l.awaits call = false) : l.hear e s = s := by
  cases e with
  | started call ok =>
    cases ok with
    | false => rfl
    | true => simp [hear, unanswered call true rfl]
  | _ => rfl

theorem hear_recovery {call i token delay : Nat} (caller : l.callerOf? call = some i)
    (found : l.recoveries[i]? = some (.starting token delay call)) :
    l.hear (.started call true) s = { s with up := true, late := token ∈ l.cancelled } := by
  simp [hear, awaits, overdue, caller, found]

theorem hear_request {r : Request} {call : Nat} (waits : l.phase = .starting r call)
    (foreign : l.callerOf? call = none) :
    l.hear (.started call true) s = { s with up := true, late := false } := by
  simp [hear, awaits, overdue, foreign, waits]

theorem resolves_told {r : Request} (resolves : Resolves r l l' effects) (told : Told l s) :
    Told l' (effects.foldl obey s) := by
  cases resolves with
  | stopped => exact told.congr rfl rfl rfl
  | refused => exact told.congr rfl rfl rfl
  | starting => exact told.congr rfl rfl rfl

theorem breaks_told {operation reason : String} (breaks : Breaks operation reason l l' effects)
    (coherent : Coherent l') (told : Told l s) : Told l' (effects.foldl obey s) := by
  cases breaks with
  | again => exact told
  | first => exact told_of_detached coherent rfl rfl

theorem turn_told (turn : Turn now l e l' effects) (coherent : Coherent l) (told : Told l s) :
    Told l' (effects.foldl obey (l.hear e s)) := by
  have coherent' : Coherent l' := turn_coherent turn coherent
  cases turn with
  | ignored e unanswered => rwa [hear_unanswered unanswered]
  | ends => exact told_of_detached coherent' rfl rfl
  | acquires r rest free next rests resolves =>
    exact resolves_told resolves (told.congr rfl rfl rfl)
  | joinsSweeper r token t waits member own finished resolves =>
    rw [List.foldl_cons]
    exact resolves_told resolves (told.congr rfl rfl rfl)
  | readBreaks e i t reason may cause breaks =>
    have heard : l.hear e s = s := hear_unanswered (by rcases cause with ⟨rfl, -⟩ | rfl <;> simp)
    rw [heard]
    exact breaks_told breaks coherent' (told.congr rfl rfl rfl)
  | writeBreaks reason breaks => exact breaks_told breaks coherent' told
  | begins r call waits foreign =>
    rw [hear_request waits foreign]
    exact ⟨rfl, fun _ => rfl⟩
  | restarts i token delay call caller found runs =>
    rw [hear_recovery caller found]
    exact ⟨rfl, fun _ => by simp [obey, runs]⟩
  | tooLate i token delay call caller found ended =>
    rw [hear_recovery caller found]
    exact ⟨told.attached, fun _ => by simp [obey, ended]⟩
  | _ => exact told.congr rfl rfl rfl

theorem watch_told (coherent : Coherent l) (told : Told l s) (events : List (Nat × Event)) :
    Told (l.run events).1 (l.watch s events) := by
  induction events generalizing l s with
  | nil => exact told
  | cons event rest ih =>
    obtain ⟨now, e⟩ := event
    have turn := step_turn now l e
    exact ih (turn_coherent turn coherent) (turn_told turn coherent told)

theorem initial_told (transport : String) (period : Nat) :
    Told { transport, period } {} where
  attached := rfl
  up := by simp [isProcessing]

/-- Whatever happens, the transport is attached exactly while a session runs. -/
theorem run_attached (transport : String) (period : Nat) (events : List (Nat × Event)) :
    let l : Lifecycle := { transport, period }
    (l.watch {} events).attached = (l.run events).1.isProcessing := by
  intro l
  have coherent : Coherent l := initial_coherent transport period
  have told := watch_told coherent (initial_told transport period) events
  exact told.attached.trans (coherent.run events).attached

/-- While a session runs the transport is up, unless it last started for a recovery whose session
had ended. Such a recovery stops it, whichever session runs by then. -/
theorem run_up (transport : String) (period : Nat) (events : List (Nat × Event))
    (processing : (({ transport, period } : Lifecycle).run events).1.isProcessing = true) :
    let s := ({ transport, period } : Lifecycle).watch {} events
    s.up = !s.late :=
  (watch_told (initial_coherent transport period) (initial_told transport period) events).up
    processing

/-- A transport is lost and takes its time to start again. In the meantime processing is stopped
and started anew; the answer to the recovery comes last. -/
def lateRestart : List (Nat × Event) :=
  [(0, .request ⟨1, .start⟩), (0, .acquire), (0, .started 1 true),
    (0, .closed false), (0, .recover 0), (1000, .recover 0),
    (1000, .request ⟨2, .stop⟩), (1000, .acquire), (1000, .readerStops 0),
    (1000, .sweeperStops 0), (1000, .proceed), (1000, .proceed),
    (1000, .request ⟨3, .start⟩), (1000, .acquire), (1000, .started 3 true),
    (1000, .started 2 true)]

theorem lateRestart_up :
    let l : Lifecycle := { transport := "udp", period := 1000 }
    (l.run lateRestart).1.isProcessing = true ∧
      (l.watch {} lateRestart).up = !(l.watch {} lateRestart).late :=
  ⟨by decide, run_up "udp" 1000 lateRestart (by decide)⟩

/-- The session that replaced another runs on a transport that has been stopped. -/
theorem lateRestart_takes_down :
    let l : Lifecycle := { transport := "udp", period := 1000 }
    (l.run lateRestart).1.isProcessing = true ∧ (l.watch {} lateRestart).up = false := by
  decide

end Lifecycle

end Concentrator
