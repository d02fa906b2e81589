import Concentrator.Notice
import Concentrator.Transport.Control

/-!
# The life of the gateway

Processing is started and stopped by requests, of which one at a time holds a
lock. While it runs there are one task that reads the interface and one that
sweeps, both of which end when the token of their session is cancelled. A
transport that has gone is started again by recoveries, with growing delays. A
failed interface ends processing for good.

Each event is what one task does between two points at which it may have to
wait, so a list of events is an interleaving of the tasks.
-/

namespace Concentrator

inductive RequestKind where
  | start
  | stop
deriving DecidableEq

structure Request where
  id : Nat
  kind : RequestKind
deriving DecidableEq

/-- How far the request that holds the lock has come. -/
inductive Phase where
  | free
  /-- It waits for the reader of a session that it has ended. -/
  | joiningReader (r : Request) (token : Nat)
  /-- It waits for the sweeper of that session. -/
  | joiningSweeper (r : Request) (token : Nat)
  /-- It has the interface in hand and waits for the answer to its call. -/
  | starting (r : Request) (call : Nat)
deriving DecidableEq

/-- A task that reads the interface. Once finished it may still have the interface in hand. -/
structure Reader where
  token : Nat
  finished : Bool := false
  holds : Bool := true
deriving DecidableEq

structure Sweeper where
  token : Nat
  finished : Bool := false
  /-- When it sweeps next. -/
  next : Nat
deriving DecidableEq

inductive Recovery where
  /-- It has not begun. -/
  | fresh (byUser : Bool)
  /-- It waits until `due` to start the transport. -/
  | sleeping (token delay due : Nat)
  /-- It waits for the answer to its call. -/
  | starting (token delay call : Nat)
deriving DecidableEq

structure Lifecycle where
  transport : String
  /-- The period of the sweeper in milliseconds. -/
  period : Nat
  failed : Bool := false
  /-- The interface is in nobody's hand. -/
  parked : Bool := true
  /-- The token of the session that runs, or of one that a failure has ended. -/
  active : Option Nat := none
  cancelled : List Nat := []
  tokens : Nat := 0
  phase : Phase := .free
  /-- The session that a request to stop would end. -/
  processing : Option Nat := none
  waiting : List Request := []
  readers : List Reader := []
  sweepers : List Sweeper := []
  recoveries : List Recovery := []
  /-- How often the transport has been told to start. Each such call is answered under its number,
  counted from one. -/
  calls : Nat := 0
  /-- The gateway hears what the transport delivers. -/
  attached : Bool := false
deriving DecidableEq

namespace Lifecycle

inductive Effect where
  | command (c : Command)
  | notice (n : Notice)
  | answer (r : Request) (result : Except Failure Unit)
  | lose (byUser : Bool)
  | sweep
  | packet (p : Bytes)

inductive Event where
  | request (r : Request)
  /-- The next request gets the lock. -/
  | acquire
  /-- The request that holds the lock goes on after a task that it waited for. -/
  | proceed
  | started (call : Nat) (ok : Bool)
  /-- A reader gets a packet; an empty one is the end of the interface. -/
  | read (index : Nat) (packet : Bytes)
  | readFailed (index : Nat) (reason : String)
  | readerStops (index : Nat)
  | sweep (index : Nat)
  | sweeperStops (index : Nat)
  | closed (byUser : Bool)
  | recover (index : Nat)
  | writeFailed (reason : String)

def isProcessing (l : Lifecycle) : Bool :=
  match l.active with
  | some token => token ∉ l.cancelled
  | none => false

def cancel (token : Nat) (l : Lifecycle) : Lifecycle :=
  { l with cancelled := token :: l.cancelled }

/-- The interface is unusable: processing ends for good. Only the first failure counts. -/
def failInterface (operation reason : String) (l : Lifecycle) : Lifecycle × List Effect :=
  if l.failed then (l, [])
  else
    ({ l with
        failed := true
        attached := false
        cancelled := l.active.toList ++ l.cancelled },
      [.notice (.interfaceFailed operation reason), .command .detach, .command .stop])

/-! ### Requests -/

def interfaceFailure : Failure := ⟨.stopped, "virtual interface failed", none⟩

def interfaceClosed : Failure := ⟨.stopped, "virtual interface is closed", none⟩

def startFailure (transport : String) : Failure :=
  ⟨.transport, "Failed to start " ++ transport ++ " transport", none⟩

def answer (r : Request) (result : Except Failure Unit) (l : Lifecycle) :
    Lifecycle × List Effect :=
  ({ l with phase := .free }, [.answer r result])

/-- What a request does when no session runs any more. -/
def afterStop (r : Request) (l : Lifecycle) : Lifecycle × List Effect :=
  match r.kind with
  | .stop => l.answer r (.ok ())
  | .start =>
    if l.failed then l.answer r (.error interfaceFailure)
    else if ¬ l.parked then l.answer r (.error interfaceClosed)
    else
      ({ l with parked := false, phase := .starting r (l.calls + 1), calls := l.calls + 1 },
        [.command .start])

/-- The next request gets the lock and ends the session that runs, if there is one. -/
def acquire (l : Lifecycle) : Lifecycle × List Effect :=
  match l.phase, l.waiting with
  | .free, r :: rest =>
    let l := { l with waiting := rest }
    match l.processing with
    | none => l.afterStop r
    | some token =>
      ({ l.cancel token with
          processing := none
          active := none
          attached := false
          phase := .joiningReader r token },
        [.command .detach, .command .stop])
  | _, _ => (l, [])

/-- Collects the task that the request waits for, once it has finished. -/
def proceed (l : Lifecycle) : Lifecycle × List Effect :=
  match l.phase with
  | .joiningReader r token =>
    match l.readers.find? fun t => t.token = token ∧ t.finished with
    | none => (l, [])
    | some t =>
      ({ l with
          parked := l.parked || t.holds
          readers := l.readers.erase t
          phase := .joiningSweeper r token }, [])
  | .joiningSweeper r token =>
    match l.sweepers.find? fun t => t.token = token ∧ t.finished with
    | none => (l, [])
    | some t =>
      let (l, effects) := { l with sweepers := l.sweepers.erase t }.afterStop r
      (l, .notice .processingStopped :: effects)
  | _ => (l, [])

def requestStarted (now : Nat) (ok : Bool) (l : Lifecycle) : Lifecycle × List Effect :=
  match l.phase with
  | .starting r _ =>
    if ok then
      let token := l.tokens
      let l := { l with
        tokens := token + 1
        active := some token
        processing := some token
        attached := true
        readers := l.readers ++ [({ token := token } : Reader)]
        sweepers := l.sweepers ++ [({ token, next := now + l.period } : Sweeper)] }
      let (l, effects) := l.answer r (.ok ())
      (l, .command .attach :: .notice (.processingStarted l.transport) :: effects)
    else { l with parked := true }.answer r (.error (startFailure l.transport))
  | _ => (l, [])

/-! ### Tasks -/

def setReader (i : Nat) (t : Reader) (l : Lifecycle) : Lifecycle :=
  { l with readers := l.readers.set i t }

/-- The reader that may read. -/
def reading? (i : Nat) (l : Lifecycle) : Option Reader :=
  (l.readers[i]?).filter fun t => ¬ t.finished ∧ t.token ∉ l.cancelled

def read (i : Nat) (packet : Bytes) (l : Lifecycle) : Lifecycle × List Effect :=
  match l.reading? i with
  | none => (l, [])
  | some t =>
    if packet = [] then
      (l.setReader i { t with finished := true, holds := false }).failInterface "read"
        "interface closed"
    else (l, [.packet packet])

def readFailed (i : Nat) (reason : String) (l : Lifecycle) : Lifecycle × List Effect :=
  match l.reading? i with
  | none => (l, [])
  | some t =>
    (l.setReader i { t with finished := true, holds := false }).failInterface "read" reason

/-- A reader whose session has ended gives the interface back. -/
def readerStops (i : Nat) (l : Lifecycle) : Lifecycle × List Effect :=
  match l.readers[i]? with
  | some t =>
    if ¬ t.finished ∧ t.token ∈ l.cancelled then (l.setReader i { t with finished := true }, [])
    else (l, [])
  | none => (l, [])

def setSweeper (i : Nat) (t : Sweeper) (l : Lifecycle) : Lifecycle :=
  { l with sweepers := l.sweepers.set i t }

/-- How late a sweep may be, in milliseconds, without putting off the next one. -/
def lateness : Nat := 5

def sweep (now : Nat) (i : Nat) (l : Lifecycle) : Lifecycle × List Effect :=
  match l.sweepers[i]? with
  | some t =>
    if ¬ t.finished ∧ t.token ∉ l.cancelled ∧ t.next ≤ now then
      let base := if t.next + lateness < now then now else t.next
      (l.setSweeper i { t with next := base + l.period }, [.sweep])
    else (l, [])
  | none => (l, [])

def sweeperStops (i : Nat) (l : Lifecycle) : Lifecycle × List Effect :=
  match l.sweepers[i]? with
  | some t =>
    if ¬ t.finished ∧ t.token ∈ l.cancelled then (l.setSweeper i { t with finished := true }, [])
    else (l, [])
  | none => (l, [])

/-! ### Recoveries -/

/-- The delay before the first attempt to start the transport again, in milliseconds. -/
def firstDelay : Nat := 1000

/-- Delays double up to this one. -/
def lastDelay : Nat := 30000

def setRecovery (i : Nat) (r : Recovery) (l : Lifecycle) : Lifecycle :=
  { l with recoveries := l.recoveries.set i r }

def endRecovery (i : Nat) (l : Lifecycle) : Lifecycle :=
  { l with recoveries := l.recoveries.eraseIdx i }

/-- A recovery clears the sessions, and goes on to restart the transport if nobody closed it on
purpose and processing has begun. It ends with the session in which it began. -/
def recover (now : Nat) (i : Nat) (l : Lifecycle) : Lifecycle × List Effect :=
  match l.recoveries[i]? with
  | some (.fresh byUser) =>
    match byUser, l.active with
    | false, some token =>
      (l.setRecovery i (.sleeping token firstDelay (now + firstDelay)), [.lose byUser])
    | _, _ => (l.endRecovery i, [.lose byUser])
  | some (.sleeping token delay due) =>
    if token ∈ l.cancelled then (l.endRecovery i, [])
    else if due ≤ now then
      ({ l.setRecovery i (.starting token delay (l.calls + 1)) with calls := l.calls + 1 },
        [.command .start])
    else (l, [])
  | _ => (l, [])

def recoveryStarted (now : Nat) (i : Nat) (ok : Bool) (l : Lifecycle) :
    Lifecycle × List Effect :=
  match l.recoveries[i]? with
  | some (.starting token delay _) =>
    if ok then
      if token ∈ l.cancelled then (l.endRecovery i, [.command .stop])
      else
        ({ l.endRecovery i with attached := true },
          [.command .attach, .notice (.transportRestarted l.transport)])
    else
      let delay := min (delay * 2) lastDelay
      (l.setRecovery i (.sleeping token delay (now + delay)),
        [.notice (.restartFailed l.transport (delay / 1000))])
  | _ => (l, [])

/-! ### Steps -/

/-- The recovery that waits for the answer to a call. -/
def callerOf? (call : Nat) (l : Lifecycle) : Option Nat :=
  l.recoveries.findIdx? fun
    | .starting _ _ c => c = call
    | _ => false

def started (now call : Nat) (ok : Bool) (l : Lifecycle) : Lifecycle × List Effect :=
  match l.callerOf? call with
  | some i => l.recoveryStarted now i ok
  | none =>
    match l.phase with
    | .starting _ c => if c = call then l.requestStarted now ok else (l, [])
    | _ => (l, [])

/-- An event that cannot happen changes nothing. -/
def step (now : Nat) (l : Lifecycle) : Event → Lifecycle × List Effect
  | .request r => ({ l with waiting := l.waiting ++ [r] }, [])
  | .acquire => l.acquire
  | .proceed => l.proceed
  | .started call ok => l.started now call ok
  | .read i packet => l.read i packet
  | .readFailed i reason => l.readFailed i reason
  | .readerStops i => l.readerStops i
  | .sweep i => l.sweep now i
  | .sweeperStops i => l.sweeperStops i
  | .closed byUser => ({ l with recoveries := l.recoveries ++ [.fresh byUser] }, [])
  | .recover i => l.recover now i
  | .writeFailed reason => l.failInterface "write" reason

/-- A sequence of events, each at its time, with what each of them led to. -/
def run (l : Lifecycle) : List (Nat × Event) → Lifecycle × List (List Effect)
  | [] => (l, [])
  | (now, e) :: rest =>
    let (l, effects) := l.step now e
    let (l, more) := l.run rest
    (l, effects :: more)

end Lifecycle

end Concentrator
