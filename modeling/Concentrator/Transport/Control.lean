import Concentrator.Address.Peer
import Concentrator.Bytes

/-!
# What goes to a transport

The gateway tells its transport when to start and stop and whether to deliver
what it receives, and gives it payloads to send. A control message goes out
more than once where it may get lost.
-/

namespace Concentrator

/-- A payload and the peer that it is for. -/
structure Delivery where
  destination : Peer
  payload : Bytes
deriving DecidableEq

inductive Command where
  | start
  | stop
  /-- Deliver what is received. -/
  | attach
  | detach
  | send (d : Delivery)
deriving DecidableEq

namespace Control

def copies (reliable : Bool) : Nat :=
  if reliable then 1 else 3

def deliveries (reliable : Bool) (destination : Peer) (payload : Bytes) : List Delivery :=
  List.replicate (copies reliable) ⟨destination, payload⟩

end Control

end Concentrator
