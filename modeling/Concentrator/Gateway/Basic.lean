import Concentrator.Gateway.Lifecycle
import Concentrator.Gateway.Pipeline
import Concentrator.Gateway.Plane

/-!
# The gateway

The plane, the pipeline and the lifecycle work on one another only here: a
lane gives its messages to the plane, the plane's packets go into the pipeline,
and a writer that fails ends processing. What the gateway does to the world is
kept in journals until somebody takes it.
-/

namespace Concentrator

structure Gateway where
  plane : Plane
  pipeline : Pipeline
  lifecycle : Lifecycle
  /-- The lane of each peer, before it is brought into range. -/
  route : Peer → Nat
  /-- Packets that have been read and not yet handled. -/
  arrivals : List Bytes := []
  commands : List Command := []
  written : List Bytes := []
  answers : List (Request × Except Failure Unit) := []
  notices : List Notice := []

namespace Gateway

inductive CreateError where
  | defect (d : Configuration.Defect)
  /-- No queue can be that long. -/
  | queueTooLong (size : Nat)
deriving DecidableEq

/-- The greatest capacity that a queue can have. -/
def maxCapacity : Nat := Nat.pow 2 61 - 1

/-- The number of lanes where it makes no difference. -/
def defaultLanes : Nat := 4

/-- A gateway for a sound configuration, over a transport with a name. -/
def create (c : Configuration) (transport : String) (reliable : Bool) (lanes : Nat)
    (route : Peer → Nat) : Except CreateError Gateway :=
  match c.check with
  | .error d => .error (.defect d)
  | .ok clients =>
    if maxCapacity < c.queueSize.toNat then .error (.queueTooLong c.queueSize.toNat)
    else .ok {
      plane := .create c clients reliable
      pipeline := .create c.queueSize.toNat lanes
      lifecycle := { transport, period := c.sweepPeriod }
      route }

def note (notices : List Notice) (g : Gateway) : Gateway :=
  { g with notices := g.notices ++ notices }

/-- Puts a plane with the sends and notices of its last step in place. -/
def react (r : Plane × Reaction) (g : Gateway) : Gateway :=
  { g with
    plane := r.1
    commands := g.commands ++ r.2.sends.map .send
    notices := g.notices ++ r.2.notices }

def count (f : Counters → Counters) (g : Gateway) : Gateway :=
  { g with plane := g.plane.count f }

def laneOf (peer : Peer) (g : Gateway) : Nat := g.route peer % g.pipeline.lanes.length

/-- Takes a message from the transport into its lane. -/
def deliver (source : Option Peer) (payload : Bytes) (g : Gateway) : Gateway :=
  match source with
  | none => g.count fun c => { c with malformed := c.malformed + 1 }
  | some peer =>
    match g.pipeline.enqueue (g.laneOf peer) (peer, payload) with
    | (pipeline, true) => { g with pipeline }
    | (_, false) => g.count fun c => { c with queueFull := c.queueFull + 1 }

/-- Counts what became of a masqueraded packet. -/
def counted (o : Pipeline.Offer) (g : Gateway) : Gateway :=
  match o with
  | .entered => g.count fun c => { c with fromClients := c.fromClients + 1 }
  | .refused => g.count fun c => { c with writeFailed := c.writeFailed + 1 }
  | .waits => g

def serve (i : Nat) (g : Gateway) : Gateway :=
  match g.pipeline.dequeue i with
  | (_, none) => g
  | (pipeline, some (peer, payload)) =>
    let step := g.plane.message peer payload
    let g := { g with pipeline }.react step
    match step.2.packet with
    | none => g
    | some packet =>
      let (pipeline, o) := g.pipeline.offer i packet
      { g with pipeline }.counted o

/-- A lane that has waited for room goes on. -/
def release (i : Nat) (g : Gateway) : Gateway :=
  match g.pipeline.release i with
  | (_, none) => g
  | (pipeline, some o) => { g with pipeline }.counted o

def wrote (g : Gateway) : Gateway :=
  match g.pipeline.wrote with
  | (pipeline, some packet) => { g with pipeline, written := g.written ++ [packet] }
  | (_, none) => g

def handle (i : Nat) (g : Gateway) : Gateway :=
  match g.arrivals[i]? with
  | none => g
  | some packet => { g with arrivals := g.arrivals.eraseIdx i }.react (g.plane.arrival packet)

/-- Does what a step of the lifecycle asks for. -/
def follow (g : Gateway) : Lifecycle.Effect → Gateway
  | .command c => { g with commands := g.commands ++ [c] }
  | .notice n => g.note [n]
  | .answer r result => { g with answers := g.answers ++ [(r, result)] }
  | .lose byUser => g.react (g.plane.lose g.lifecycle.transport byUser)
  | .sweep => g.react g.plane.sweep
  | .packet p =>
    { g.count fun c => { c with read := c.read + 1 } with arrivals := g.arrivals ++ [p] }

def live (e : Lifecycle.Event) (g : Gateway) : Gateway :=
  let (lifecycle, effects) := g.lifecycle.step g.plane.now e
  effects.foldl follow { g with lifecycle }

def writeFailed (reason : String) (g : Gateway) : Gateway :=
  match g.pipeline.writer with
  | some (_ :: _) => { g with pipeline := g.pipeline.abandon }.live (.writeFailed reason)
  | _ => g

inductive Event where
  | deliver (source : Option Peer) (payload : Bytes)
  | serve (lane : Nat)
  | release (lane : Nat)
  | take
  | wrote
  | writeFailed (reason : String)
  | handle (index : Nat)
  | live (e : Lifecycle.Event)
  | receive (enabled : Bool)
  | advance (milliseconds : Nat)

def step (g : Gateway) : Event → Gateway
  | .deliver source payload => g.deliver source payload
  | .serve i => g.serve i
  | .release i => g.release i
  | .take => { g with pipeline := g.pipeline.take }
  | .wrote => g.wrote
  | .writeFailed reason => g.writeFailed reason
  | .handle i => g.handle i
  | .live e => g.live e
  | .receive enabled => g.react (g.plane.receive enabled)
  | .advance milliseconds => { g with plane := (g.plane.step (.advance milliseconds)).1 }

def run (g : Gateway) (events : List Event) : Gateway :=
  events.foldl step g

/-- The last act, after a request to stop has been answered: the interface is released and the
writer goes. -/
def shutDown (g : Gateway) : Gateway :=
  let exit := if g.pipeline.writer.isSome then [Notice.writerExited] else []
  { g with
    pipeline := g.pipeline.abandon
    lifecycle := { g.lifecycle with parked := false }
    notices := g.notices ++ exit ++ [.shutDown] }

/-- The gateway with empty journals. -/
def drained (g : Gateway) : Gateway :=
  { g with commands := [], written := [], answers := [], notices := [] }

end Gateway

end Concentrator
