import Concentrator.Address.Socket
import Concentrator.Bytes
import Concentrator.Failure

/-!
# A datagram network in memory

Everything happens on one machine. The system calls of a transport can be made
to fail a number of times.
-/

namespace Concentrator

inductive SystemCall where
  | receive
  | bind
  | send
deriving DecidableEq

namespace SystemCall

def failure : SystemCall → SystemError
  | .receive => .connectionReset
  | .bind => .addressInUse
  | .send => .notPermitted

end SystemCall

structure Arrival where
  source : SocketAddress
  port : UInt16
  payload : Bytes
deriving DecidableEq

structure Wire where
  /-- The port that is handed out next to a socket that leaves the choice to the system. -/
  nextPort : UInt16 := 20000
  /-- How often each call is still to fail. -/
  faults : SystemCall → Nat := fun _ => 0
  /-- Datagrams for the transport that it has not received yet. -/
  waiting : List Arrival := []
  sent : List (SocketAddress × Bytes) := []

namespace Wire

def fail (call : SystemCall) (times : Nat) (w : Wire) : Wire :=
  { w with faults := fun c => if c = call then times else w.faults c }

/-- A call fails as long as it is to fail. -/
def call (c : SystemCall) (w : Wire) : Wire × Except SystemError Unit :=
  match w.faults c with
  | 0 => (w, .ok ())
  | n + 1 => (w.fail c n, .error c.failure)

/-- Binds a port unless it is taken. -/
def bind (taken : List UInt16) (port : UInt16) (w : Wire) : Wire × Except SystemError UInt16 :=
  match w.call .bind with
  | (w, .error e) => (w, .error e)
  | (w, .ok ()) =>
    if port = 0 then ({ w with nextPort := w.nextPort + 1 }, .ok w.nextPort)
    else if port ∈ taken then (w, .error .addressInUse)
    else (w, .ok port)

def transmit (destination : SocketAddress) (payload : Bytes) (w : Wire) :
    Wire × Except SystemError Unit :=
  match w.call .send with
  | (w, .error e) => (w, .error e)
  | (w, .ok ()) => ({ w with sent := w.sent ++ [(destination, payload)] }, .ok ())

/-- Somebody sends a datagram to a port; it is lost if that port is not open. -/
def post (a : Arrival) (taken : List UInt16) (w : Wire) : Wire :=
  match w.call .send with
  | (w, .error _) => w
  | (w, .ok ()) => if a.port ∈ taken then { w with waiting := w.waiting ++ [a] } else w

/-- The next datagram at a port. -/
def take? (port : UInt16) (w : Wire) : Option (Wire × Arrival) := do
  let a ← w.waiting.find? (·.port = port)
  return ({ w with waiting := w.waiting.erase a }, a)

end Wire

end Concentrator
