import Concentrator.Gateway.Schedule

/-!
# A gateway on a bench

The gateway works on a transport that only records what it is told and on an
interface in the experimenter's hand. Between two actions of the experimenter
everything happens that can happen without time passing.
-/

namespace Concentrator

inductive Writing where
  | succeeds
  | fails
  | waits
deriving DecidableEq

structure Bench where
  gateway : Gateway
  /-- The calls to start that fail, counted from one. -/
  failing : List Nat := []
  /-- The calls that are not answered until they are let go. -/
  slow : List Nat := []
  starts : Nat := 0
  stops : Nat := 0
  attached : Bool := false
  /-- The gateway has been attached at the beginning of some action. -/
  known : Bool := false
  /-- Calls that are to be answered. -/
  calls : List Nat := []
  /-- Slow calls, the oldest first. -/
  heldCalls : List Nat := []
  /-- How many slow calls may still be let go. -/
  releases : Nat := 0
  /-- What the interface has for a reader. -/
  incoming : List (Except String Bytes) := []
  writing : Writing := .succeeds
  requests : Nat := 0

namespace Bench

def create (c : Configuration) (reliable : Bool) (failing slow : List Nat) :
    Except Gateway.CreateError Bench :=
  (Gateway.create c "recording" reliable Gateway.defaultLanes Peer.spread).map fun gateway =>
    { gateway, failing, slow }

/-! ### The surroundings -/

def offers (b : Bench) : Offers where
  answer := b.calls.head?.map fun call => (call, call ∉ b.failing)
  arrival := b.incoming.head?
  writing := match b.writing with
    | .succeeds => some (.ok ())
    | .fails => some (.error "write failed")
    | .waits => none

/-- Lets slow calls go as far as that is allowed. -/
def letGo (b : Bench) : Bench :=
  { b with
    calls := b.calls ++ b.heldCalls.take b.releases
    heldCalls := b.heldCalls.drop b.releases
    releases := b.releases - b.heldCalls.length }

def obey (b : Bench) : Command → Bench
  | .start =>
    let call := b.starts + 1
    if call ∈ b.slow then { b with starts := call, heldCalls := b.heldCalls ++ [call] }.letGo
    else { b with starts := call, calls := b.calls ++ [call] }
  | .stop => { b with stops := b.stops + 1 }
  | .attach => { b with attached := true }
  | .detach => { b with attached := false }
  | .send _ => b

/-- What the surroundings give away with an event. -/
def give (b : Bench) : Gateway.Event → Bench
  | .live (.started ..) => { b with calls := b.calls.tail }
  | .live (.read ..) => { b with incoming := b.incoming.tail }
  | .live (.readFailed ..) => { b with incoming := b.incoming.tail }
  | _ => b

def perform (b : Bench) (e : Gateway.Event) : Bench :=
  let before := b.gateway.commands.length
  let gateway := b.gateway.step e
  (gateway.commands.drop before).foldl obey { b.give e with gateway }

def settleFor : Nat → Bench → Bench
  | 0, b => b
  | n + 1, b =>
    match b.gateway.next? b.offers with
    | none => b
    | some e => (b.perform e).settleFor n

/-- Everything happens that can happen without time passing. -/
def settle (b : Bench) : Bench :=
  b.settleFor (8 * (b.gateway.workload + b.incoming.length + b.calls.length))

/-! ### Actions -/

/-- Begins an action: the journals are empty, and who listens is noted. -/
def begin (b : Bench) : Bench :=
  { b with gateway := b.gateway.drained, known := b.known || b.attached }

/-- The transport can reach the gateway, or with `stale` could do so once. -/
def listens (stale : Bool) (b : Bench) : Bool :=
  if stale then b.known else b.attached

def deliver (times : Nat) (source : Option Peer) (payload : Bytes) (b : Bench) : Bench :=
  (Nat.repeat (fun b => b.perform (.deliver source payload)) times b).settle

def close (byUser : Bool) (b : Bench) : Bench :=
  (b.perform (.live (.closed byUser))).settle

def receive (enabled : Bool) (b : Bench) : Bench :=
  (b.perform (.receive enabled)).settle

/-- Makes a request; the answer is none if it has not been given at rest. -/
def request (kind : RequestKind) (b : Bench) : Bench × Option (Except Failure Unit) :=
  let id := b.requests
  let b := ({ b with requests := id + 1 }.perform (.live (.request ⟨id, kind⟩))).settle
  (b, (b.gateway.answers.find? fun a => a.1.id = id).map Prod.snd)

/-- The interface gets something for a reader; no reader takes more than a packet may have. -/
def feed (arrival : Except String Bytes) (b : Bench) : Bench :=
  { b with incoming := b.incoming ++ [arrival.map (List.take maxPayload)] }.settle

def setWriting (writing : Writing) (b : Bench) : Bench :=
  { b with writing }.settle

/-- Lets one slow call go. -/
def release (b : Bench) : Bench :=
  { b with releases := b.releases + 1 }.letGo.settle

def advance (seconds : Nat) (b : Bench) : Bench :=
  Nat.repeat (fun b => (b.perform (.advance 1000)).settle) seconds b

/-- Has a packet masqueraded that came from nowhere. -/
def relabel (packet : Bytes) (b : Bench) : Bench × Option UInt16 :=
  let p := b.gateway.plane
  let (masquerade, _, port) := p.masquerade.outbound p.now packet
  let notices := masquerade.notices
  let plane := { p with masquerade := { masquerade with notices := [] } }
  ({ b with gateway := { b.gateway with plane }.note notices }, port)

/-- Writes succeed and everything settles before the gateway shuts down. The second bench is the
one before. -/
def shutDown (b : Bench) : Bench × Bench :=
  let before := b.setWriting .succeeds
  let (b, _) := before.request .stop
  ({ b with gateway := b.gateway.shutDown }, before)

end Bench

end Concentrator
