import Concentrator.Address.Network
import Concentrator.Failure
import Concentrator.Session.Settings

/-!
# Configuration

What an operator can set, and when a configuration holds together. Client
addresses come from a pool that `clientRange` cuts out of the network:
everything from the first client address to the last host, less the tunnel
addresses if they stand at the top.
-/

namespace Concentrator

inductive Access where
  /-- Datagrams to a port of this host. -/
  | datagram (port : UInt16)
  /-- A message relay on which the gateway goes by a name. -/
  | relay (url id : String)
deriving DecidableEq

namespace Access

def name : Access → String
  | .datagram _ => "udp"
  | .relay .. => "relay"

/-- Nothing that is sent gets lost. -/
def isReliable : Access → Bool
  | .datagram _ => false
  | .relay .. => true

/-- A relay needs an address and a name; a port is always complete. -/
def isComplete : Access → Bool
  | .datagram _ => true
  | .relay url id => url ≠ "" ∧ id ≠ ""

end Access

structure Configuration where
  sharedSecret : String := ""
  access : Access := .datagram 1194
  mtu : UInt16 := 1400
  network : Network := ⟨.ofOctets 10 0 0 0, 8, by decide⟩
  tunnelSource : Ipv4 := .ofOctets 10 255 255 254
  /-- The far end of the tunnel, and the address that masqueraded packets come from. -/
  tunnelDestination : Ipv4 := .ofOctets 10 255 255 255
  deviceName : String := "tun0"
  route : Network := ⟨.ofOctets 0 0 0 0, 0, by decide⟩
  dnsServer : Option Ipv4 := some (.ofOctets 8 8 8 8)
  searchDomain : Option String := none
  firstClient : Ipv4 := .ofOctets 10 0 0 1
  /-- The bounds, both included, of the ports that masqueraded packets come from. -/
  ports : UInt16 × UInt16 := (1024, 49151)
  sessionIdleSeconds : UInt64 := 120
  mappingIdleSeconds : UInt64 := 65
  sweepSeconds : UInt64 := 5
  /-- The capacity of each queue between the transport and the interface. -/
  queueSize : UInt64 := 4096
deriving DecidableEq

namespace Configuration

/-- The settings where nothing else is asked for. -/
def standard : Configuration := {}

def defaultPort : UInt16 := 1194

def defaultRelay : String := "wss://cloud.achex.ca"

inductive Defect where
  | emptySecret
  | ambiguousSecret
  | mtuOutOfRange (mtu : UInt16)
  | oneTunnelAddress
  | noPorts (first last : UInt16)
  | zeroTime
  | zeroQueue
  | incompleteRelay
  | smallNetwork (network : Network)
  | firstClientOutside (address : Ipv4) (network : Network)
  | noClients (network : Network)
  | tunnelInPool (address first last : Ipv4)
deriving DecidableEq

namespace Defect

open Text

def message : Defect → String
  | .emptySecret => "shared_secret must not be empty"
  | .ambiguousSecret => "shared_secret must not contain ';'"
  | .mtuOutOfRange mtu => s!"mtu {decimal mtu.toNat} out of range 576..={decimal maxPayload}"
  | .oneTunnelAddress => "tunnel_source and tunnel_destination must differ"
  | .noPorts first last =>
    s!"invalid nat_port_range {decimal first.toNat}..={decimal last.toNat}"
  | .zeroTime => "timeouts and sweep interval must be non-zero"
  | .zeroQueue => "iface_writer_channel_size must be non-zero"
  | .incompleteRelay => "relay transport needs url and server_id"
  | .smallNetwork network => s!"network {network.text} is too small for clients"
  | .firstClientOutside address network =>
    s!"first_client_ip {address.text} is not a host of {network.text}"
  | .noClients network => s!"no client addresses left in {network.text}"
  | .tunnelInPool address first last =>
    s!"tunnel address {address.text} falls inside the client pool {first.text}..={last.text}"

def failure (d : Defect) : Failure where
  kind := match d with
    | .noClients _ => .assignment
    | _ => .config
  message := d.message

end Defect

/-- The greatest value that is not reserved, from `n` down to `first`; below `first` if there is
none. -/
def stepDown (first : Nat) (reserved : List Nat) : Nat → Nat
  | 0 => 0
  | n + 1 => if first ≤ n + 1 ∧ n + 1 ∈ reserved then stepDown first reserved n else n + 1

def tunnelAddresses (c : Configuration) : List Ipv4 := [c.tunnelSource, c.tunnelDestination]

def clientRange (c : Configuration) : Except Defect (Ipv4 × Ipv4) :=
  let first := c.firstClient.toNat
  let broadcast := c.network.broadcast.toNat
  if 30 < c.network.prefixLength then .error (.smallNetwork c.network)
  else if first ≤ c.network.network.toNat ∨ broadcast ≤ first then
    .error (.firstClientOutside c.firstClient c.network)
  else
    let last := stepDown first (c.tunnelAddresses.map Ipv4.toNat) (broadcast - 1)
    if last < first then .error (.noClients c.network)
    else .ok (c.firstClient, .ofNat last)

def inRange (range : Ipv4 × Ipv4) (a : Ipv4) : Bool :=
  range.1.toNat ≤ a.toNat ∧ a.toNat ≤ range.2.toNat

/-- The client range of a sound configuration, or the first defect of another one. -/
def check (c : Configuration) : Except Defect (Ipv4 × Ipv4) := do
  if c.sharedSecret = "" then throw .emptySecret
  if ';' ∈ c.sharedSecret.toList then throw .ambiguousSecret
  if c.mtu.toNat < 576 ∨ maxPayload < c.mtu.toNat then throw (.mtuOutOfRange c.mtu)
  if c.tunnelSource = c.tunnelDestination then throw .oneTunnelAddress
  if c.ports.1 = 0 ∨ c.ports.2 < c.ports.1 then throw (.noPorts c.ports.1 c.ports.2)
  if c.sessionIdleSeconds = 0 ∨ c.mappingIdleSeconds = 0 ∨ c.sweepSeconds = 0 then throw .zeroTime
  if c.queueSize = 0 then throw .zeroQueue
  if ¬ c.access.isComplete then throw .incompleteRelay
  let range ← c.clientRange
  match c.tunnelAddresses.find? (inRange range) with
  | some address => throw (.tunnelInPool address range.1 range.2)
  | none => return range

def clientSettings (c : Configuration) : ClientSettings where
  mtu := c.mtu
  prefixLength := .ofNat c.network.prefixLength
  route := c.route
  dnsServer := c.dnsServer
  searchDomain := c.searchDomain

def sessionIdle (c : Configuration) : Nat := c.sessionIdleSeconds.toNat * 1000

def mappingIdle (c : Configuration) : Nat := c.mappingIdleSeconds.toNat * 1000

/-- The period of the sweeper in milliseconds. -/
def sweepPeriod (c : Configuration) : Nat := c.sweepSeconds.toNat * 1000

end Configuration

end Concentrator
