import Concentrator.Checksum
import Concentrator.Payload

/-!
# Flows

A flow is the addressing of one IPv4 packet that can be masqueraded. `read`
looks at a packet through its octets alone, and `readdress` replaces one end of
a flow by patching single words: addresses, ports and the checksums that cover
them.
-/

namespace Concentrator

/-- An address with a port, or with an echo identifier in its place. -/
structure Endpoint where
  address : Ipv4
  port : UInt16
deriving DecidableEq

namespace Endpoint

def text (e : Endpoint) : String :=
  e.address.text ++ ":" ++ Text.decimal e.port.toNat

end Endpoint

inductive Protocol where
  | tcp
  | udp
  /-- An echo request or reply; its identifier stands in for both ports. -/
  | echo
deriving DecidableEq

namespace Protocol

def ofNumber? (n : UInt8) : Option Protocol :=
  if n = 6 then some .tcp
  else if n = 17 then some .udp
  else if n = 1 then some .echo
  else none

/-- The octets of transport header that masquerading needs. -/
def minLength : Protocol → Nat
  | .tcp => 20
  | .udp => 8
  | .echo => 8

/-- Where the transport header keeps its checksum. -/
def checksumOffset : Protocol → Nat
  | .tcp => 16
  | .udp => 6
  | .echo => 2

end Protocol

inductive Side where
  | source
  | destination
deriving DecidableEq

namespace Side

/-- Where the IPv4 header keeps the address of a side. -/
def addressOffset : Side → Nat
  | .source => 12
  | .destination => 16

end Side

structure Flow where
  headerLength : Nat
  totalLength : Nat
  protocol : Protocol
  source : Endpoint
  destination : Endpoint
deriving DecidableEq

namespace Flow

def wordAt (byte : Nat → UInt8) (i : Nat) : UInt16 :=
  Bytes.word (byte i) (byte (i + 1))

def addressAt (byte : Nat → UInt8) (i : Nat) : Ipv4 :=
  ⟨Bytes.doubleWord (wordAt byte i) (wordAt byte (i + 2))⟩

/-- The ports of a transport header; of the echo protocol only requests and replies have them. -/
def portsAt? (byte : Nat → UInt8) (i : Nat) : Protocol → Option (UInt16 × UInt16)
  | .tcp => some (wordAt byte i, wordAt byte (i + 2))
  | .udp => some (wordAt byte i, wordAt byte (i + 2))
  | .echo =>
    if byte i = 8 ∨ byte i = 0 then some (wordAt byte (i + 4), wordAt byte (i + 4)) else none

/-- The flow of a packet of `size` octets. Other protocols, malformed headers, packets cut short
and fragments past the first have none. -/
def read? (size : Nat) (byte : Nat → UInt8) : Option Flow := do
  guard (minHeader ≤ size ∧ (byte 0).toNat / 16 = 4)
  let headerLength := (byte 0).toNat % 16 * 4
  guard (minHeader ≤ headerLength)
  let totalLength := (wordAt byte 2).toNat
  guard (headerLength ≤ totalLength ∧ totalLength ≤ size)
  guard ((wordAt byte 6).toNat % 8192 = 0)
  let protocol ← Protocol.ofNumber? (byte 9)
  guard (headerLength + protocol.minLength ≤ totalLength)
  let (sourcePort, destinationPort) ← portsAt? byte headerLength protocol
  return { headerLength, totalLength, protocol,
           source := ⟨addressAt byte 12, sourcePort⟩,
           destination := ⟨addressAt byte 16, destinationPort⟩ }

def octetAt (packet : Bytes) (i : Nat) : UInt8 :=
  packet.getD i 0

def parse? (packet : Bytes) : Option Flow :=
  read? packet.length (octetAt packet)

def endpoint (flow : Flow) : Side → Endpoint
  | .source => flow.source
  | .destination => flow.destination

/-- Where the port of a side, or the echo identifier, is kept. -/
def portOffset (flow : Flow) (side : Side) : Nat :=
  match flow.protocol, side with
  | .echo, _ => flow.headerLength + 4
  | _, .source => flow.headerLength
  | _, .destination => flow.headerLength + 2

def checksumOffset (flow : Flow) : Nat :=
  flow.headerLength + flow.protocol.checksumOffset

/-- The transport checksum `stored`, repaired for a new end. Echo messages are not summed with
their addresses. A datagram checksum of zero means "not computed": it stays zero, and no other
one becomes zero. -/
def repair (flow : Flow) (side : Side) (new : Endpoint) (stored : UInt16) : UInt16 :=
  let old := flow.endpoint side
  let addressed := Checksum.updateDouble stored old.address.bits new.address.bits
  match flow.protocol with
  | .tcp => Checksum.update addressed old.port new.port
  | .udp =>
    if stored = 0 then 0
    else
      let repaired := Checksum.update addressed old.port new.port
      if repaired = 0 then 0xFFFF else repaired
  | .echo => Checksum.update stored old.port new.port

/-- The words to write, each with its offset, to give one side of the flow a new end. -/
def patches (flow : Flow) (byte : Nat → UInt8) (side : Side) (new : Endpoint) :
    List (Nat × UInt16) :=
  let old := flow.endpoint side
  [(10, Checksum.updateDouble (wordAt byte 10) old.address.bits new.address.bits),
    (side.addressOffset, Bytes.highHalf new.address.bits),
    (side.addressOffset + 2, Bytes.lowHalf new.address.bits),
    (flow.portOffset side, new.port),
    (flow.checksumOffset, flow.repair side new (wordAt byte flow.checksumOffset))]

def writeWord (packet : Bytes) (patch : Nat × UInt16) : Bytes :=
  Bytes.splice packet patch.1 (Bytes.ofWord patch.2)

def readdress (flow : Flow) (packet : Bytes) (side : Side) (new : Endpoint) : Bytes :=
  (flow.patches (octetAt packet) side new).foldl writeWord packet

end Flow

end Concentrator
