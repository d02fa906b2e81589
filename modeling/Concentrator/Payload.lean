import Concentrator.Address.Ipv4

/-!
# Payloads

Every message between a client and the gateway is a payload. Its first octet
tells a join (`0`) and a leave (`1`) from a raw IPv4 packet (anything else).
-/

namespace Concentrator

/-- A payload is at most as long as a signed 16-bit length can say. -/
def maxPayload : Nat := 32767

/-- The number of octets in an IPv4 header without options. -/
def minHeader : Nat := 20

def joinTag : UInt8 := 0

def leaveTag : UInt8 := 1

inductive Kind where
  | join
  | leave
  | data
deriving DecidableEq

namespace Payload

/-- The kind of a payload; an empty one has none. -/
def kind? : Bytes → Option Kind
  | [] => none
  | tag :: _ => some (if tag = joinTag then .join else if tag = leaveTag then .leave else .data)

def oversized (payload : Bytes) : Bool :=
  maxPayload < payload.length

/-- A payload that a transport passes on in either direction. -/
def admissible (payload : Bytes) : Bool :=
  payload ≠ [] ∧ payload.length ≤ maxPayload

/-- Room for an IPv4 header and the version field four. -/
def looksLikeIpv4 (packet : Bytes) : Bool :=
  minHeader ≤ packet.length ∧ (packet.getD 0 0).toNat / 16 = 4

def addressAt (packet : Bytes) (offset : Nat) : Ipv4 :=
  .ofOctets (packet.getD offset 0) (packet.getD (offset + 1) 0)
    (packet.getD (offset + 2) 0) (packet.getD (offset + 3) 0)

def source? (packet : Bytes) : Option Ipv4 :=
  if looksLikeIpv4 packet then some (addressAt packet 12) else none

def destination? (packet : Bytes) : Option Ipv4 :=
  if looksLikeIpv4 packet then some (addressAt packet 16) else none

end Payload

end Concentrator
