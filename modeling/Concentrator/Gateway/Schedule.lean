import Concentrator.Gateway.Basic

/-!
# Whose turn it is

Of the events that can happen to a gateway without time passing,
`Gateway.next?` picks one. Tasks of the lifecycle go before the packet path, a
writer with a full batch goes before the lanes, and the lanes go before a
writer without one. Once `next?` is `none` the gateway is at rest.
-/

namespace Concentrator

/-- What the surroundings have ready for a gateway. -/
structure Offers where
  answer : Option (Nat × Bool) := none
  /-- What a reader of the interface would get. -/
  arrival : Option (Except String Bytes) := none
  /-- How a write to the interface would end; none while it would wait. -/
  writing : Option (Except String Unit) := none

namespace Lifecycle

/-- The request that holds the lock can collect the task that it waits for. -/
def mayProceed (l : Lifecycle) : Bool :=
  match l.phase with
  | .joiningReader _ token => l.readers.any fun t => t.token = token ∧ t.finished
  | .joiningSweeper _ token => l.sweepers.any fun t => t.token = token ∧ t.finished
  | _ => false

def mayRecover (now : Nat) (l : Lifecycle) : Recovery → Bool
  | .fresh _ => true
  | .sleeping token _ due => token ∈ l.cancelled ∨ due ≤ now
  | .starting .. => false

def next? (now : Nat) (answer : Option (Nat × Bool)) (l : Lifecycle) : Option Event :=
  (answer.map fun a => .started a.1 a.2)
  <|> (if l.phase = .free ∧ l.waiting ≠ [] then some .acquire else none)
  <|> ((l.readers.findIdx? fun t => ¬ t.finished ∧ t.token ∈ l.cancelled).map .readerStops)
  <|> ((l.sweepers.findIdx? fun t => ¬ t.finished ∧ t.token ∈ l.cancelled).map .sweeperStops)
  <|> (if l.mayProceed then some .proceed else none)
  <|> ((l.recoveries.findIdx? (l.mayRecover now)).map .recover)
  <|> ((l.sweepers.findIdx? fun t =>
        ¬ t.finished ∧ t.token ∉ l.cancelled ∧ t.next ≤ now).map .sweep)

/-- The reader that may read gets what the interface has for it. -/
def nextRead? (arrival : Option (Except String Bytes)) (l : Lifecycle) : Option Event := do
  let i ← l.readers.findIdx? fun t => ¬ t.finished ∧ t.token ∉ l.cancelled
  match ← arrival with
  | .ok packet => some (.read i packet)
  | .error reason => some (.readFailed i reason)

end Lifecycle

namespace Gateway

def nextWrite? (writing : Option (Except String Unit)) (g : Gateway) : Option Event :=
  match g.pipeline.writer, writing with
  | some (_ :: _), some (.ok ()) => some .wrote
  | some (_ :: _), some (.error reason) => some (.writeFailed reason)
  | _, _ => none

/-- The writer takes a batch once at least that many packets wait for it. -/
def nextTake? (least : Nat) (g : Gateway) : Option Event :=
  match g.pipeline.writer with
  | some [] => if least ≤ g.pipeline.outbound.length then some .take else none
  | _ => none

def nextLane? (g : Gateway) : Option Event :=
  ((g.pipeline.waiting.find? g.pipeline.mayRelease).map .release)
  <|> (((List.range g.pipeline.lanes.length).find? g.pipeline.ready).map .serve)

def next? (o : Offers) (g : Gateway) : Option Event :=
  ((g.lifecycle.next? g.plane.now o.answer).map .live)
  <|> g.nextWrite? o.writing
  <|> g.nextTake? Pipeline.batchSize
  <|> g.nextLane?
  <|> g.nextTake? 1
  <|> ((g.lifecycle.nextRead? o.arrival).map .live)
  <|> (if g.arrivals = [] then none else some (.handle 0))

/-- Everything that is on its way through a gateway: no more than eight events each lead to rest
as long as nothing is added. -/
def workload (g : Gateway) : Nat :=
  g.pipeline.lanes.foldl (fun n l => n + l.queue.length) 0 + g.pipeline.waiting.length
    + g.pipeline.outbound.length + (g.pipeline.writer.map List.length).getD 0
    + g.arrivals.length + g.lifecycle.waiting.length + g.lifecycle.readers.length
    + g.lifecycle.sweepers.length + g.lifecycle.recoveries.length + 2

end Gateway

end Concentrator
