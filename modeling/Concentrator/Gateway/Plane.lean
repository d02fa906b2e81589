import Concentrator.Balancer
import Concentrator.Configuration.Basic
import Concentrator.Counters
import Concentrator.Session.Settings
import Concentrator.Masquerade.Basic
import Concentrator.Transport.Control

/-!
# The packet plane

The tables that decide what becomes of a packet: sessions and leases,
mappings, turns and counters. Every event is handled in one step. Changes
of leases reach the balancer and the masquerade in the same step, so neither
outlives the lease it belongs to.
-/

namespace Concentrator

structure Plane where
  settings : ClientSettings
  /-- The transport delivers everything that is sent. -/
  reliable : Bool
  registry : Registry
  masquerade : Masquerade
  balancer : Balancer := {}
  counters : Counters := {}
  receiving : Bool := false
  /-- The time in milliseconds. -/
  now : Nat := 0

/-- What a step of the plane gives to the world. -/
structure Reaction where
  sends : List Delivery := []
  /-- A masqueraded packet for the interface. -/
  packet : Option Bytes := none
  notices : List Notice := []
deriving DecidableEq

namespace Plane

/-- An empty plane for a configuration, given its client addresses. -/
def create (c : Configuration) (clients : Ipv4 × Ipv4) (reliable : Bool) : Plane where
  settings := c.clientSettings
  reliable
  registry := .create c.sharedSecret (.between clients.1 clients.2) c.sessionIdle
  masquerade := .create c.tunnelDestination c.ports c.mappingIdle

def count (p : Plane) (f : Counters → Counters) : Plane :=
  { p with counters := f p.counters }

/-- Carries a change of a lease to the balancer and the masquerade. -/
def follow (p : Plane) : Change → Plane
  | .members address => { p with balancer := p.balancer.invalidate address }
  | .released address =>
    { p with
      balancer := p.balancer.invalidate address
      masquerade := (p.masquerade.purge address).1 }

/-- Carries all changes over and collects the notices of the step. -/
def settle (p : Plane) : Plane × List Notice :=
  let registry := p.registry
  let p := registry.changes.foldl follow
    { p with registry := { registry with changes := [], notices := [] } }
  ({ p with masquerade := { p.masquerade with notices := [] } },
    registry.notices ++ p.masquerade.notices)

/-- The end of a step that sends nothing of its own. -/
def quiet (p : Plane) : Plane × Reaction :=
  let (p, notices) := p.settle
  (p, { notices })

/-- Handles the join request of a peer. The client is told its address before its session is
recorded, and is not admitted if it cannot be told. -/
def join (source : Peer) (payload : Bytes) (p : Plane) : Plane × Reaction :=
  if ¬ p.receiving then
    (p.count fun c => { c with rejected := c.rejected + 1 }, { notices := [.notReceiving source] })
  else
    match JoinRequest.parse? payload with
    | none =>
      (p.count fun c => { c with rejected := c.rejected + 1 },
        { notices := [.malformedJoin source] })
    | some request =>
      let reply := p.settings.reply?
      let (registry, result) :=
        p.registry.join p.now source request fun address => (reply address).isSome
      let (p, notices) := { p with registry }.settle
      let sends := ((result.offered.bind reply).map (Control.deliveries p.reliable source)).getD []
      let refusal := match result.offered with
        | some address =>
          if (reply address).isSome then [] else [.settingsTooLong address maxPayload]
        | none => []
      match result.admission with
      | none =>
        (p.count fun c => { c with rejected := c.rejected + 1 },
          { sends, notices := notices ++ refusal })
      | some admission =>
        (p.count fun c => { c with accepted := c.accepted + 1 },
          { sends
            notices := notices ++
              if admission.isNew then [] else [.repeatedJoin source admission.address] })

def leave (source : Peer) (p : Plane) : Plane × Reaction :=
  match p.registry.leave source with
  | (_, none) => (p, {})
  | (registry, some _) =>
    ({ p with registry }.count fun c => { c with leaves := c.leaves + 1 }).quiet

/-- Handles a packet from a peer. It goes on only if the peer has a session whose address is the
source of the packet. -/
def data (source : Peer) (payload : Bytes) (p : Plane) : Plane × Reaction :=
  match p.registry.lookup p.now source with
  | (registry, none) =>
    ({ p with registry }.count fun c => { c with noSession := c.noSession + 1 }).quiet
  | (registry, some session) =>
    let p := { p with registry }
    if Payload.source? payload ≠ some session.address then
      (p.count fun c => { c with spoofed := c.spoofed + 1 }).quiet
    else
      match p.masquerade.outbound p.now payload with
      | (masquerade, _, none) =>
        ({ p with masquerade }.count fun c =>
          { c with untranslatable := c.untranslatable + 1 }).quiet
      | (masquerade, packet, some _) =>
        let (p, reaction) := { p with masquerade }.quiet
        (p, { reaction with packet := some packet })

def message (source : Peer) (payload : Bytes) (p : Plane) : Plane × Reaction :=
  if Payload.oversized payload then
    (p.count fun c => { c with malformed := c.malformed + 1 }, {})
  else
    match Payload.kind? payload with
    | some .join => p.join source payload
    | some .leave => p.leave source
    | some .data => p.data source payload
    | none => (p.count fun c => { c with malformed := c.malformed + 1 }, {})

/-- Handles a packet from the interface: the peer whose turn it is gets it. -/
def arrival (packet : Bytes) (p : Plane) : Plane × Reaction :=
  match p.masquerade.inbound p.now packet with
  | (masquerade, _, none) =>
    ({ p with masquerade }.count fun c => { c with unmapped := c.unmapped + 1 }).quiet
  | (masquerade, packet, some internal) =>
    match p.balancer.next internal.address p.registry with
    | (balancer, none) =>
      ({ p with masquerade, balancer }.count fun c => { c with noRoute := c.noRoute + 1 }).quiet
    | (balancer, some destination) =>
      let (p, reaction) := ({ p with masquerade, balancer }.count fun c =>
        { c with toClients := c.toClients + 1 }).quiet
      (p, { reaction with sends := [⟨destination, packet⟩] })

/-- Evicts what has been idle for too long. -/
def sweep (p : Plane) : Plane × Reaction :=
  let (registry, sessions) := p.registry.sweep p.now
  let (p, notices) := { p with registry }.settle
  let (masquerade, mappings) := p.masquerade.sweep p.now
  let (p, more) := { p with masquerade }.settle
  (p, { notices := notices ++ more ++
    if 0 < sessions + mappings then [.swept sessions mappings] else [] })

/-- Ends every session because the transport is gone. -/
def lose (transport : String) (byUser : Bool) (p : Plane) : Plane × Reaction :=
  let (registry, sessions) := p.registry.clear
  let (p, notices) := { p with registry }.settle
  (p, { notices := notices ++ [.transportClosed transport byUser sessions] })

def receive (enabled : Bool) (p : Plane) : Plane × Reaction :=
  ({ p with receiving := enabled }, { notices := [.receiving enabled] })

inductive Event where
  | message (source : Peer) (payload : Bytes)
  | arrival (packet : Bytes)
  | sweep
  | lose (transport : String) (byUser : Bool)
  | receive (enabled : Bool)
  | advance (milliseconds : Nat)
deriving DecidableEq

def step (p : Plane) : Event → Plane × Reaction
  | .message source payload => p.message source payload
  | .arrival packet => p.arrival packet
  | .sweep => p.sweep
  | .lose transport byUser => p.lose transport byUser
  | .receive enabled => p.receive enabled
  | .advance milliseconds => ({ p with now := p.now + milliseconds }, {})

/-- A sequence of events, with what each of them gave to the world. -/
def run (p : Plane) : List Event → Plane × List Reaction
  | [] => (p, [])
  | e :: rest =>
    let (p, reaction) := p.step e
    let (p, reactions) := p.run rest
    (p, reaction :: reactions)

end Plane

end Concentrator
