import Concentrator.Address.Peer
import Concentrator.Bytes

/-!
# The pipeline to the interface

Messages of one peer always wait in the same lane. A lane handles one message
at a time and may end up holding a masqueraded packet for which the outbound
queue has no room; such lanes wait in line, and nobody overtakes them. The
writer takes a batch of packets at a time and writes them one by one.
-/

namespace Concentrator

structure Lane where
  queue : List (Peer × Bytes) := []
  /-- A masqueraded packet that waits for room. -/
  held : Option Bytes := none
deriving DecidableEq

structure Pipeline where
  /-- The capacity of each lane and of the outbound queue. -/
  capacity : Nat
  lanes : List Lane
  /-- The lanes that hold a packet, in the order in which they came to wait. -/
  waiting : List Nat := []
  outbound : List Bytes := []
  /-- What the writer has taken and not yet written; none once it has gone. -/
  writer : Option (List Bytes) := some []
deriving DecidableEq

namespace Pipeline

/-- The most packets that the writer takes at a time. -/
def batchSize : Nat := 64

def create (capacity lanes : Nat) : Pipeline where
  capacity
  lanes := List.replicate lanes {}

def lane (p : Pipeline) (i : Nat) : Lane := p.lanes.getD i {}

def setLane (p : Pipeline) (i : Nat) (l : Lane) : Pipeline :=
  { p with lanes := p.lanes.set i l }

/-- Puts a message into a lane unless the lane is full. -/
def enqueue (i : Nat) (message : Peer × Bytes) (p : Pipeline) : Pipeline × Bool :=
  let l := p.lane i
  if l.queue.length < p.capacity then
    (p.setLane i { l with queue := l.queue ++ [message] }, true)
  else (p, false)

/-- A lane has a message to handle. -/
def ready (p : Pipeline) (i : Nat) : Bool :=
  (p.lane i).held.isNone ∧ (p.lane i).queue ≠ []

/-- Takes the next message out of a lane that holds nothing. -/
def dequeue (i : Nat) (p : Pipeline) : Pipeline × Option (Peer × Bytes) :=
  let l := p.lane i
  match l.held, l.queue with
  | none, message :: rest => (p.setLane i { l with queue := rest }, some message)
  | _, _ => (p, none)

inductive Offer where
  | entered
  | waits
  /-- The writer has gone. -/
  | refused
deriving DecidableEq

/-- Offers a packet to the outbound queue behind all that wait already. -/
def offer (i : Nat) (packet : Bytes) (p : Pipeline) : Pipeline × Offer :=
  if p.writer.isNone then (p, .refused)
  else if p.outbound.length + p.waiting.length < p.capacity then
    ({ p with outbound := p.outbound ++ [packet] }, .entered)
  else
    ({ p.setLane i { p.lane i with held := some packet } with
        waiting := p.waiting ++ [i] }, .waits)

/-- A lane that waits may go on: its place in line has room, or the writer has gone. -/
def mayRelease (p : Pipeline) (i : Nat) : Bool :=
  i ∈ p.waiting ∧
    (p.writer.isNone ∨ p.outbound.length + p.waiting.idxOf i < p.capacity)

/-- Lets a waiting lane go on with the packet in its hand. -/
def release (i : Nat) (p : Pipeline) : Pipeline × Option Offer :=
  match p.mayRelease i, (p.lane i).held with
  | true, some packet =>
    let q := { p.setLane i { p.lane i with held := none } with waiting := p.waiting.erase i }
    if p.writer.isNone then (q, some .refused)
    else ({ q with outbound := q.outbound ++ [packet] }, some .entered)
  | _, _ => (p, none)

/-- The writer takes the next batch when it has written the last one. -/
def take (p : Pipeline) : Pipeline :=
  match p.writer with
  | some [] =>
    { p with writer := some (p.outbound.take batchSize), outbound := p.outbound.drop batchSize }
  | _ => p

/-- The packet that the writer is about to write, and the pipeline once it has. -/
def wrote (p : Pipeline) : Pipeline × Option Bytes :=
  match p.writer with
  | some (packet :: rest) => ({ p with writer := some rest }, some packet)
  | _ => (p, none)

/-- The writer goes, with all that is still on its way to it. -/
def abandon (p : Pipeline) : Pipeline :=
  { p with writer := none, outbound := [] }

end Pipeline

end Concentrator
