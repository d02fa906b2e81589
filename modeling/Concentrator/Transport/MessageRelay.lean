import Concentrator.Notice
import Concentrator.Payload
import Concentrator.Transport.Frame

/-!
# The message relay transport

A start connects to the relay and authenticates, each within a time limit; a
start that succeeds puts its connection into a slot. A connection has a task
that reads and one that writes, which share a token: cancelling it ends both,
and the writer then closes the connection. A connection that is only pushed out
of the slot by another one is closed by its writer when nothing is left to send,
but is read until it ends.
-/

namespace Concentrator

inductive Incoming where
  | text (s : String)
  /-- A message that is no text. -/
  | blank
  | close
  | broken (reason : String)
  | ended
deriving DecidableEq

/-- A start that is under way, by the number of its call. -/
structure Attempt where
  call : Nat
  /-- It is connected and waits for the answer to its authentication. -/
  authenticating : Bool := false
  /-- When the step under way has taken too long. -/
  due : Nat
deriving DecidableEq

/-- A connection, by the call that made it. -/
structure Connection where
  call : Nat
  cancelled : Bool := false
  /-- Nothing has been read that ends it. -/
  healthy : Bool := true
  outbox : List String := []
  /-- Its writer has closed it. -/
  hungUp : Bool := false
deriving DecidableEq

structure MessageRelay where
  url : String
  /-- The name under which the gateway is known to the relay. -/
  id : String
  attached : Bool := false
  /-- The connection that is sent on. -/
  slot : Option Nat := none
  attempts : List Attempt := []
  connections : List Connection := []
  /-- How often it has been told to start. Calls are numbered from one. -/
  calls : Nat := 0
deriving DecidableEq

namespace MessageRelay

inductive Effect where
  | connect (call : Nat)
  | transmit (call : Nat) (frame : String)
  /-- The writer closes its connection. -/
  | hangUp (call : Nat)
  | started (call : Nat) (ok : Bool)
  | deliver (source : String) (payload : Bytes)
  | closed
  | notice (n : Notice)
deriving DecidableEq

inductive Event where
  | start
  | stop
  | listen (on : Bool)
  | send (destination : Option Peer) (payload : Bytes)
  | connected (call : Nat) (password : String)
  | connectFails (call : Nat) (reason : String)
  /-- The step under way is given up if it has taken too long. -/
  | expire (call : Nat)
  | arrive (call : Nat) (m : Incoming)
  /-- The writer of a connection has a turn. -/
  | write (call : Nat)

/-- The time that connecting may take, in milliseconds. -/
def connectTimeout : Nat := 15000

/-- The time that authenticating may take. -/
def authenticationTimeout : Nat := 10000

def passwordLength : Nat := 32

/-- The characters of a password. -/
def alphabet : List Char :=
  "ABCDEFGHIJKLMNOPQRSTUVWXYZabcdefghijklmnopqrstuvwxyz0123456789".toList

/-- The password that a sequence of random numbers gives. -/
def password (draw : Nat → Nat) : String :=
  String.ofList ((List.range passwordLength).map fun i =>
    alphabet.getD (draw i % alphabet.length) 'A')

def attempt? (call : Nat) (m : MessageRelay) : Option Attempt :=
  m.attempts.find? (·.call = call)

def connection? (call : Nat) (m : MessageRelay) : Option Connection :=
  m.connections.find? (·.call = call)

def dropAttempt (call : Nat) (m : MessageRelay) : MessageRelay :=
  { m with attempts := m.attempts.filter (·.call ≠ call) }

def update (call : Nat) (f : Connection → Connection) (m : MessageRelay) : MessageRelay :=
  { m with connections := m.connections.map fun c => if c.call = call then f c else c }

def fail (call : Nat) (notices : List Notice) (m : MessageRelay) : MessageRelay × List Effect :=
  (m.dropAttempt call, notices.map .notice ++ [.started call false])

/-- A start that has been let in puts its connection into the slot, whatever is there. -/
def succeed (call : Nat) (m : MessageRelay) : MessageRelay × List Effect :=
  ({ m.dropAttempt call with
      slot := some call
      connections := m.connections ++ [{ call := call }] },
    [.notice (.authenticated m.url m.id), .started call true])

def stop (m : MessageRelay) : MessageRelay × List Effect :=
  match m.slot with
  | none => (m, [])
  | some call =>
    ({ m.update call fun c => { c with cancelled := true } with slot := none },
      [.notice .messageRelayStopped])

def start (now : Nat) (m : MessageRelay) : MessageRelay × List Effect :=
  let (m, effects) := m.stop
  let call := m.calls + 1
  ({ m with
      calls := call
      attempts := m.attempts ++ [{ call, due := now + connectTimeout }] },
    effects ++ [.connect call])

/-- Asks for authentication as soon as there is a connection. -/
def connected (now call : Nat) (password : String) (m : MessageRelay) :
    MessageRelay × List Effect :=
  match m.attempt? call with
  | some ⟨_, false, _⟩ =>
    let waiting : Attempt := ⟨call, true, now + authenticationTimeout⟩
    ({ m with attempts := m.attempts.map fun a => if a.call = call then waiting else a },
      [.transmit call (Frame.authenticationRequest m.id password)])
  | _ => (m, [])

/-- Only an answer, a complaint and the end of the connection decide an authentication. -/
def answered (call : Nat) (i : Incoming) (m : MessageRelay) : MessageRelay × List Effect :=
  let refused := Notice.identityRefused m.url m.id
  match i with
  | .blank => (m, [])
  | .text s =>
    match Frame.decode? s with
    | some (.authentication true) => m.succeed call
    | some (.authentication false) => m.fail call [refused]
    | some (.reported reason) => m.fail call [.authenticationRefused reason, refused]
    | _ => (m, [])
  | _ => m.fail call [refused]

/-- What a text gives to the listener and to the log. -/
def deliver (s : String) (m : MessageRelay) : List Effect :=
  match Frame.decode? s with
  | some (.data sender payload) =>
    if ¬ Payload.admissible payload then [.notice (.messageRefused payload.length sender)]
    else if m.attached then [.deliver sender payload]
    else []
  | some (.reported message) => [.notice (.reportedByRelay message)]
  | some _ => []
  | none => [.notice .malformedFrame]

/-- Reading has come to an end, which is reported once. -/
def lose (call : Nat) (notices : List Notice) (m : MessageRelay) : MessageRelay × List Effect :=
  (m.update call fun c => { c with cancelled := true, healthy := false },
    notices.map .notice ++ if m.attached then [.closed] else [])

def read (call : Nat) (i : Incoming) (m : MessageRelay) : MessageRelay × List Effect :=
  match i with
  | .text s => (m, m.deliver s)
  | .blank => (m, [])
  | .close => m.lose call [.closedByRelay]
  | .broken reason => m.lose call [.relayReadFailed reason]
  | .ended => m.lose call []

def arrive (call : Nat) (i : Incoming) (m : MessageRelay) : MessageRelay × List Effect :=
  match m.attempt? call with
  | some ⟨_, true, _⟩ => m.answered call i
  | some ⟨_, false, _⟩ => (m, [])
  | none =>
    match m.connection? call with
    | some c => if c.cancelled then (m, []) else m.read call i
    | none => (m, [])

def expire (now call : Nat) (m : MessageRelay) : MessageRelay × List Effect :=
  match m.attempt? call with
  | some a =>
    if now < a.due then (m, [])
    else if a.authenticating then m.fail call [.authenticationTimedOut m.url]
    else m.fail call [.connectTimedOut m.url]
  | none => (m, [])

def send (destination : Option Peer) (payload : Bytes) (m : MessageRelay) :
    MessageRelay × List Effect :=
  match destination with
  | some (.relay peer) =>
    if ¬ Payload.admissible payload then (m, [])
    else
      match m.slot with
      | none => (m, [])
      | some call =>
        (m.update call fun c => { c with outbox := c.outbox ++ [Frame.outgoing peer payload] }, [])
  | _ => (m, [.notice .noRelayDestination])

/-- The writer of a connection has something to do. -/
def mayWrite (c : Connection) (m : MessageRelay) : Bool :=
  c.cancelled ∨ c.outbox ≠ [] ∨ (¬ c.hungUp ∧ m.slot ≠ some c.call)

/-- The writer sends the next frame, or closes a connection that has been cancelled or that nothing
can be sent on any more. -/
def write (call : Nat) (m : MessageRelay) : MessageRelay × List Effect :=
  match m.connection? call with
  | none => (m, [])
  | some c =>
    if c.cancelled then
      ({ m with connections := m.connections.filter (·.call ≠ call) },
        if c.hungUp then [] else [.hangUp call])
    else
      match c.outbox with
      | frame :: rest => (m.update call fun c => { c with outbox := rest }, [.transmit call frame])
      | [] =>
        if c.hungUp ∨ m.slot = some call then (m, [])
        else (m.update call fun c => { c with hungUp := true }, [.hangUp call])

/-- An event that cannot happen changes nothing. -/
def step (now : Nat) (m : MessageRelay) : Event → MessageRelay × List Effect
  | .start => m.start now
  | .stop => m.stop
  | .listen on => ({ m with attached := on }, [])
  | .send destination payload => m.send destination payload
  | .connected call password => m.connected now call password
  | .connectFails call reason =>
    match m.attempt? call with
    | some ⟨_, false, _⟩ => m.fail call [.connectFailed m.url reason]
    | _ => (m, [])
  | .expire call => m.expire now call
  | .arrive call i => m.arrive call i
  | .write call => m.write call

/-- A sequence of events, each at its time, with what each of them led to. -/
def run (m : MessageRelay) : List (Nat × Event) → MessageRelay × List (List Effect)
  | [] => (m, [])
  | (now, e) :: rest =>
    let (m, effects) := m.step now e
    let (m, more) := m.run rest
    (m, effects :: more)

end MessageRelay

end Concentrator
