import Concentrator.Notice
import Concentrator.Payload

/-!
# The datagram transport

One socket, one message in each datagram. Every successful start issues a token
and has a task of its own that receives until that token is cancelled. The task
is also the one to mend the socket when receiving fails: it binds again on the
same port, with growing delays, and reports the transport closed once that has
failed too often. A start or a stop cancels the token that the transport holds,
which a task looks at first whenever it goes on.
-/

namespace Concentrator

/-- A bound socket: which one it is and its port on this machine. -/
structure Socket where
  id : Nat
  port : UInt16
deriving DecidableEq

inductive Reception where
  | receiving (s : Socket)
  /-- It has lost its socket and tries to bind again at `due`. -/
  | rebinding (port : UInt16) (attempt due : Nat)
deriving DecidableEq

/-- The task of one start. -/
structure Receiver where
  token : Nat
  state : Reception
deriving DecidableEq

structure DatagramTransport where
  /-- The port to bind; zero leaves the choice to the system. -/
  port : UInt16
  /-- The socket that is sent on. -/
  socket : Option Socket := none
  /-- The token that the next start or stop is to cancel. -/
  slot : Option Nat := none
  cancelled : List Nat := []
  receivers : List Receiver := []
  attached : Bool := false
  tokens : Nat := 0
  sockets : Nat := 0
deriving DecidableEq

namespace DatagramTransport

inductive Effect where
  | started (ok : Bool)
  | deliver (source : SocketAddress) (payload : Bytes)
  /-- The transport is gone for good, until it is started again. -/
  | closed
  | transmit (s : Socket) (destination : SocketAddress) (payload : Bytes)
  | notice (n : Notice)
deriving DecidableEq

inductive Event where
  /-- A start, with how its binding ends: the port that was bound, or why none was. -/
  | start (bound : Except SystemError UInt16)
  | stop
  | listen (on : Bool)
  | send (destination : Option Peer) (payload : Bytes)
  | receive (token : Nat) (source : SocketAddress) (payload : Bytes)
  | receiveFails (token : Nat) (reason : SystemError)
  | rebind (token : Nat) (bound : Except SystemError UInt16)
  /-- A task finds its token cancelled. -/
  | retire (token : Nat)

/-- The attempts to bind again after receiving has failed. -/
def maxAttempts : Nat := 5

/-- The delay before an attempt, in milliseconds; every attempt doubles it. -/
def delay (attempt : Nat) : Nat := 200 * Nat.pow 2 (attempt - 1)

def receiver? (token : Nat) (t : DatagramTransport) : Option Receiver :=
  t.receivers.find? (·.token = token)

def setReceiver (token : Nat) (state : Reception) (t : DatagramTransport) : DatagramTransport :=
  { t with
    receivers := t.receivers.map fun r => if r.token = token then { r with state } else r }

def dropReceiver (token : Nat) (t : DatagramTransport) : DatagramTransport :=
  { t with receivers := t.receivers.filter (·.token ≠ token) }

/-- The receiver with a token, as long as that is not cancelled. -/
def active? (token : Nat) (t : DatagramTransport) : Option Receiver :=
  if token ∈ t.cancelled then none else t.receiver? token

/-- The ports that are taken, also by a receiver that is still to notice its end. -/
def boundPorts (t : DatagramTransport) : List UInt16 :=
  t.receivers.filterMap fun r =>
    match r.state with
    | .receiving s => some s.port
    | .rebinding .. => none

def stop (t : DatagramTransport) : DatagramTransport × List Effect :=
  match t.slot with
  | some token =>
    ({ t with slot := none, cancelled := token :: t.cancelled, socket := none },
      [.notice .datagramStopped])
  | none => ({ t with socket := none }, [])

def start (bound : Except SystemError UInt16) (t : DatagramTransport) :
    DatagramTransport × List Effect :=
  let (t, effects) := t.stop
  match bound with
  | .error reason => (t, effects ++ [.notice (.bindFailed t.port.toNat reason), .started false])
  | .ok port =>
    let token := t.tokens
    let s : Socket := ⟨t.sockets, port⟩
    ({ t with
        socket := some s
        slot := some token
        receivers := t.receivers ++ [⟨token, .receiving s⟩]
        tokens := token + 1
        sockets := t.sockets + 1 },
      effects ++ [.notice (.listening (.v4 ⟨0⟩ port)), .started true])

/-- Sends a payload; what cannot be sent is dropped. -/
def send (destination : Option Peer) (payload : Bytes) (t : DatagramTransport) : List Effect :=
  match destination with
  | some (.datagram address) =>
    if ¬ Payload.admissible payload then [.notice (.datagramRefused payload.length address)]
    else (t.socket.map fun s => Effect.transmit s address payload).toList
  | _ => [.notice .noDatagramDestination]

def receive (token : Nat) (source : SocketAddress) (payload : Bytes) (t : DatagramTransport) :
    List Effect :=
  match t.active? token with
  | some ⟨_, .receiving _⟩ =>
    if payload = [] then []
    else if Payload.oversized payload then [.notice (.oversizedDatagram source)]
    else if t.attached then [.deliver source payload]
    else []
  | _ => []

def receiveFails (now token : Nat) (reason : SystemError) (t : DatagramTransport) :
    DatagramTransport × List Effect :=
  match t.active? token with
  | some ⟨_, .receiving s⟩ =>
    ({ t.setReceiver token (.rebinding s.port 1 (now + delay 1)) with socket := none },
      [.notice (.receiveFailed reason)])
  | _ => (t, [])

/-- An attempt to bind again. After the last one the receiver is gone, though its token stays
until the next start or stop. -/
def rebind (now token : Nat) (bound : Except SystemError UInt16) (t : DatagramTransport) :
    DatagramTransport × List Effect :=
  match t.active? token with
  | some ⟨_, .rebinding port attempt due⟩ =>
    if now < due then (t, [])
    else
      match bound with
      | .ok port' =>
        let s : Socket := ⟨t.sockets, port'⟩
        ({ t.setReceiver token (.receiving s) with socket := some s, sockets := t.sockets + 1 },
          [.notice (.rebound port.toNat attempt)])
      | .error reason =>
        let failed := Effect.notice (.rebindFailed attempt port.toNat reason)
        if attempt < maxAttempts then
          (t.setReceiver token (.rebinding port (attempt + 1) (now + delay (attempt + 1))),
            [failed])
        else
          (t.dropReceiver token,
            [failed, .notice .datagramUnrecoverable] ++ if t.attached then [.closed] else [])
  | _ => (t, [])

/-- An event that cannot happen changes nothing. -/
def step (now : Nat) (t : DatagramTransport) : Event → DatagramTransport × List Effect
  | .start bound => t.start bound
  | .stop => t.stop
  | .listen on => ({ t with attached := on }, [])
  | .send destination payload => (t, t.send destination payload)
  | .receive token source payload => (t, t.receive token source payload)
  | .receiveFails token reason => t.receiveFails now token reason
  | .rebind token bound => t.rebind now token bound
  | .retire token => if token ∈ t.cancelled then (t.dropReceiver token, []) else (t, [])

/-- A sequence of events, each at its time, with what each of them led to. -/
def run (t : DatagramTransport) : List (Nat × Event) → DatagramTransport × List (List Effect)
  | [] => (t, [])
  | (now, e) :: rest =>
    let (t, effects) := t.step now e
    let (t, more) := t.run rest
    (t, effects :: more)

end DatagramTransport

end Concentrator
