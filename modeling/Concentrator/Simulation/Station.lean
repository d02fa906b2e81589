import Concentrator.Configuration.Basic
import Concentrator.Simulation.Wire
import Concentrator.Transport.Control
import Concentrator.Transport.Datagram
import Concentrator.Transport.MessageRelay

/-!
# A transport on networks in memory

A station holds one transport, the datagram network that it is on and, if
there is one, the message relay that it finds. What the transport gives to its
listener is collected.
-/

namespace Concentrator

inductive Greeting where
  | completes
  | silent
  | refuses (reason : String)
deriving DecidableEq

/-- A message relay in the experimenter's hand. -/
structure RelayServer where
  greeting : Greeting := .completes
  /-- What it sends once it has read an authentication. -/
  reply : List Incoming := []
  outgoing : List Incoming := []
  received : List String := []
  /-- It has seen the connection closed. -/
  hungUp : Bool := false

namespace RelayServer

/-- Every text is recorded, and the first one is replied to. -/
def hear (text : String) (r : RelayServer) : RelayServer :=
  { r with received := r.received ++ [text], outgoing := r.outgoing ++ r.reply, reply := [] }

end RelayServer

inductive Link where
  | datagram (t : DatagramTransport)
  | relay (m : MessageRelay)

namespace Link

def ofAccess : Access → Link
  | .datagram port => .datagram { port }
  | .relay url id => .relay { url, id }

end Link

inductive Receipt where
  | message (source : Peer) (payload : Bytes)
  | closed (byUser : Bool)
deriving DecidableEq

structure Station where
  link : Link
  wire : Wire := {}
  /-- The relay that listens; without one connections are refused. -/
  server : Option RelayServer := none
  /-- The password of the next authentication. -/
  password : String := MessageRelay.password id
  now : Nat := 0
  calls : Nat := 0
  /-- Answers to those calls. -/
  answers : List (Nat × Bool) := []
  receipts : List Receipt := []
  notices : List Notice := []

namespace Station

/-! ### What transports do -/

def followDatagram (s : Station) : DatagramTransport.Effect → Station
  | .started ok => { s with answers := s.answers ++ [(s.calls, ok)] }
  | .deliver source payload =>
    { s with receipts := s.receipts ++ [.message (.datagram source) payload] }
  | .closed => { s with receipts := s.receipts ++ [.closed false] }
  | .transmit _ destination payload =>
    match s.wire.transmit destination payload with
    | (wire, .ok ()) => { s with wire }
    | (wire, .error reason) =>
      { s with wire, notices := s.notices ++ [.datagramUnsent destination reason] }
  | .notice n => { s with notices := s.notices ++ [n] }

def serve (f : RelayServer → RelayServer) (s : Station) : Station :=
  { s with server := s.server.map f }

def followRelay (s : Station) : MessageRelay.Effect → Station
  | .connect _ => s
  | .transmit _ text => s.serve (RelayServer.hear text)
  | .hangUp _ => s.serve fun r => { r with hungUp := true }
  | .started call ok => { s with answers := s.answers ++ [(call, ok)] }
  | .deliver source payload =>
    { s with receipts := s.receipts ++ [.message (.relay source) payload] }
  | .closed => { s with receipts := s.receipts ++ [.closed false] }
  | .notice n => { s with notices := s.notices ++ [n] }

def datagramStep (t : DatagramTransport) (e : DatagramTransport.Event) (s : Station) : Station :=
  let (t, effects) := t.step s.now e
  effects.foldl followDatagram { s with link := .datagram t }

def relayStep (m : MessageRelay) (e : MessageRelay.Event) (s : Station) : Station :=
  let (m, effects) := m.step s.now e
  effects.foldl followRelay { s with link := .relay m }

/-! ### Commands -/

def start (s : Station) : Station :=
  let s := { s with calls := s.calls + 1 }
  match s.link with
  | .datagram t =>
    let (wire, bound) := s.wire.bind t.boundPorts t.port
    { s with wire }.datagramStep t (.start bound)
  | .relay m => s.relayStep m .start

def stop (s : Station) : Station :=
  match s.link with
  | .datagram t => s.datagramStep t .stop
  | .relay m => s.relayStep m .stop

def listen (on : Bool) (s : Station) : Station :=
  match s.link with
  | .datagram t => s.datagramStep t (.listen on)
  | .relay m => s.relayStep m (.listen on)

def send (destination : Option Peer) (payload : Bytes) (s : Station) : Station :=
  match s.link with
  | .datagram t => s.datagramStep t (.send destination payload)
  | .relay m => s.relayStep m (.send destination payload)

def obey (s : Station) : Command → Station
  | .start => s.start
  | .stop => s.stop
  | .attach => s.listen true
  | .detach => s.listen false
  | .send d => s.send (some d.destination) d.payload

/-! ### Tasks -/

/-- The port at which datagrams reach the transport. -/
def boundPort? (s : Station) : Option UInt16 :=
  match s.link with
  | .datagram t => t.socket.map Socket.port
  | .relay _ => none

def takenPorts (s : Station) : List UInt16 :=
  match s.link with
  | .datagram t => t.boundPorts
  | .relay _ => []

def nextReceiver? (t : DatagramTransport) (s : Station) (r : Receiver) : Option Station :=
  if r.token ∈ t.cancelled then some (s.datagramStep t (.retire r.token))
  else
    match r.state with
    | .receiving socket => do
      let (wire, a) ← s.wire.take? socket.port
      match wire.call .receive with
      | (wire, .ok ()) =>
        return { s with wire }.datagramStep t (.receive r.token a.source a.payload)
      | (wire, .error reason) =>
        return { s with wire }.datagramStep t (.receiveFails r.token reason)
    | .rebinding port _ due =>
      if s.now < due then none
      else
        let (wire, bound) := s.wire.bind t.boundPorts port
        some ({ s with wire }.datagramStep t (.rebind r.token bound))

def nextAttempt? (m : MessageRelay) (s : Station) (a : Attempt) : Option Station :=
  let expired :=
    if s.now < a.due then none else some (s.relayStep m (.expire a.call))
  match s.server with
  | none =>
    some (s.relayStep m (.connectFails a.call ("IO error: " ++ SystemError.connectionRefused.text)))
  | some server =>
    if a.authenticating then
      match server.outgoing with
      | i :: rest =>
        some ((s.serve fun r => { r with outgoing := rest }).relayStep m (.arrive a.call i))
      | [] => expired
    else
      match server.greeting with
      | .completes => some (s.relayStep m (.connected a.call s.password))
      | .refuses reason => some (s.relayStep m (.connectFails a.call reason))
      | .silent => expired

def nextConnection? (m : MessageRelay) (s : Station) (c : Connection) : Option Station :=
  if m.mayWrite c then some (s.relayStep m (.write c.call))
  else do
    let server ← s.server
    let i ← server.outgoing.head?
    return (s.serve fun r => { r with outgoing := server.outgoing.tail }).relayStep m
      (.arrive c.call i)

def next? (s : Station) : Option Station :=
  match s.link with
  | .datagram t => t.receivers.findSome? fun r => s.nextReceiver? t r
  | .relay m =>
    (m.attempts.findSome? fun a => s.nextAttempt? m a)
      <|> m.connections.findSome? fun c => s.nextConnection? m c

/-- Everything that is on its way: no more than four turns each lead to rest. -/
def workload (s : Station) : Nat :=
  let tasks := match s.link with
    | .datagram t => t.receivers.length
    | .relay m => m.attempts.length + m.connections.foldl (fun n c => n + c.outbox.length + 1) 0
  let frames := s.server.map fun r => r.outgoing.length + r.reply.length
  s.wire.waiting.length + frames.getD 0 + tasks + 1

def settleFor : Nat → Station → Station
  | 0, s => s
  | n + 1, s =>
    match s.next? with
    | none => s
    | some s => s.settleFor n

/-- Everything happens that can happen without time passing. -/
def settle (s : Station) : Station := s.settleFor (4 * s.workload)

/-! ### The experimenter -/

def drained (s : Station) : Station :=
  { s with
    receipts := []
    notices := []
    answers := []
    wire := { s.wire with sent := [] }
    server := s.server.map fun r => { r with received := [] } }

/-- Starts the transport; the answer is none if it has not been given at rest. -/
def launch (s : Station) : Station × Option Bool :=
  let s := s.start.settle
  (s, (s.answers.find? (·.1 = s.calls)).map Prod.snd)

def post (source : SocketAddress) (port : UInt16) (payload : Bytes) (s : Station) : Station :=
  { s with wire := s.wire.post ⟨source, port, payload⟩ s.takenPorts }

def push (i : Incoming) (s : Station) : Station :=
  s.serve fun r => { r with outgoing := r.outgoing ++ [i] }

def advance (milliseconds : Nat) (s : Station) : Station :=
  { s with now := s.now + milliseconds }

end Station

end Concentrator
