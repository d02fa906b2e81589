import Concentrator.Console
import Concentrator.Gateway.Schedule
import Concentrator.Program.Launch
import Concentrator.Simulation.Station

/-!
# The program

A gateway on a device and a station, under the orders of a console. Between
two events from outside everything happens that can happen without time
passing.
-/

namespace Concentrator

structure Program where
  device : Device
  gateway : Gateway
  station : Station
  /-- What the device has for a reader. -/
  incoming : List (Except String Bytes) := []
  /-- There may be another line of orders. -/
  listening : Bool := true
  running : Bool := true
  /-- How many requests have been made. -/
  requests : Nat := 0
  printed : List String := []

namespace Program

def note (n : Notice) (p : Program) : Program :=
  { p with gateway := p.gateway.note [n] }

/-! ### Between the gateway and the station -/

def offers (p : Program) : Offers where
  answer := p.station.answers.head?
  arrival := p.incoming.head?
  writing := some (.ok ())

/-- What an event takes from the surroundings. -/
def give (p : Program) : Gateway.Event → Program
  | .live (.started ..) =>
    { p with station := { p.station with answers := p.station.answers.tail } }
  | .live (.read ..) => { p with incoming := p.incoming.tail }
  | .live (.readFailed ..) => { p with incoming := p.incoming.tail }
  | _ => p

/-- An event of the gateway, whose commands the station obeys at once. -/
def perform (p : Program) (e : Gateway.Event) : Program :=
  let p := p.give e
  let gateway := p.gateway.step e
  { p with
    gateway := { gateway with commands := [] }
    station := gateway.commands.foldl Station.obey p.station }

def hear (p : Program) : Receipt → Program
  | .message source payload => p.perform (.deliver (some source) payload)
  | .closed byUser => p.perform (.live (.closed byUser))

/-- Takes over what the station has for the gateway. -/
def collect (p : Program) : Program :=
  let station := { p.station with receipts := [], notices := [] }
  p.station.receipts.foldl hear
    { p with station, gateway := p.gateway.note p.station.notices }

/-- One thing that happens without time passing; the station goes first. -/
def next? (p : Program) : Option Program :=
  match p.station.next? with
  | some station => some { p with station }.collect
  | none => (p.gateway.next? p.offers).map fun e => (p.perform e).collect

def settleFor : Nat → Program → Program
  | 0, p => p
  | n + 1, p =>
    match p.next? with
    | none => p
    | some p => p.settleFor n

def settle (p : Program) : Program :=
  p.collect.settleFor (16 * (p.gateway.workload + p.station.workload + p.incoming.length))

/-! ### Orders -/

def request (kind : RequestKind) (p : Program) : Program × Option (Except Failure Unit) :=
  let id := p.requests
  let p := ({ p with requests := id + 1 }.perform (.live (.request ⟨id, kind⟩))).settle
  (p, (p.gateway.answers.find? fun a => a.1.id = id).map Prod.snd)

def summary (g : Gateway) : String :=
  let p := g.plane
  " ".intercalate ([("sessions", Text.decimal p.registry.sessions.size),
    ("leases", Text.decimal p.registry.leases.size),
    ("nat_mappings", Text.decimal p.masquerade.size),
    ("processing", toString g.lifecycle.isProcessing),
    ("receiving", toString p.receiving)].map fun m => m.1 ++ "=" ++ m.2)

/-- Processing stops, the gateway shuts down and the program is over. -/
def finish (p : Program) : Program :=
  let (p, _) := p.request .stop
  { p with gateway := p.gateway.shutDown, running := false }

def follow (p : Program) : Order → Program
  | .receive enabled => (p.perform (.receive enabled)).settle
  | .process true =>
    match p.request .start with
    | (p, some (.error f)) =>
      p.note (if f.recoverable then .startFailed f else .startImpossible f)
    | (p, _) => p
  | .process false => (p.request .stop).1
  | .report =>
    { p with printed := p.printed ++ [p.gateway.plane.counters.report, summary p.gateway] }
  | .exit => p.finish
  | .nothing => p
  | .unknown line => p.note (.unknownCommand line)

/-! ### Events from outside -/

def line (text : String) (p : Program) : Program :=
  if p.running ∧ p.listening then p.follow (Order.ofLine text) else p

/-- There are no more lines; the program goes on until it is interrupted. -/
def endOfLines (p : Program) : Program := { p with listening := false }

def interrupt (p : Program) : Program :=
  if p.running then (if p.listening then p.note .interrupted else p).finish else p

/-- The device gets something for a reader; no reader takes more than a packet may have. -/
def feed (arrival : Except String Bytes) (p : Program) : Program :=
  { p with incoming := p.incoming ++ [arrival.map (List.take maxPayload)] }.settle

/-- A peer sends a datagram to a port. -/
def post (source : SocketAddress) (port : UInt16) (payload : Bytes) (p : Program) : Program :=
  { p with station := p.station.post source port payload }.settle

def fail (call : SystemCall) (times : Nat) (p : Program) : Program :=
  { p with station := { p.station with wire := p.station.wire.fail call times } }

def advance (milliseconds : Nat) (p : Program) : Program :=
  ({ p with station := p.station.advance milliseconds }.perform (.advance milliseconds)).settle

/-- The program with empty journals. -/
def drained (p : Program) : Program :=
  { p with gateway := p.gateway.drained, station := p.station.drained, printed := [] }

/-! ### The beginning -/

/-- A program that begins to process on its device, or how it ended before that. -/
def launch (c : Configuration) (device : Device) (wire : Wire) : Except Ending Program :=
  match Gateway.create c c.access.name c.access.isReliable Gateway.defaultLanes Peer.spread with
  | .error (.queueTooLong _) => .error .aborted
  | .error (.defect d) => .error (.because "Failed to build relay" d.failure)
  | .ok gateway =>
    let p : Program := { device, gateway, station := { link := .ofAccess c.access, wire } }
    let p := (p.note (.deviceCreated device.name device.address device.destination)).note
      (.deviceInUse device.name device.mtu.toNat)
    let p := (p.perform (.receive true)).note (.externalAddress p.gateway.plane.masquerade.external)
    match p.request .start with
    | (p, some (.error f)) =>
      if f.recoverable then .ok ((p.note (.launchFailed f)).note (.commands Order.names))
      else .error (.because "Failed to start processing" f)
    | (p, _) => .ok (p.note (.commands Order.names))

end Program

end Concentrator
