import Concentrator.IdleMap
import Concentrator.Notice

/-!
# Masquerading

All internal endpoints share one external address, each under a port of its own.
`reverse` owns the mappings and their idle clocks; `forward` and `byAddress`
are indexes of it, which an eviction brings up to date.
-/

namespace Concentrator

/-- A cursor that walks round an interval of ports. -/
structure PortCursor where
  first : UInt16
  last : UInt16
  first_le_last : first ≤ last
  /-- How often a port has been offered. -/
  next : UInt32 := 0

namespace PortCursor

theorem le_of_not_le {a b : UInt16} (h : ¬ a ≤ b) : b ≤ a := by
  rw [UInt16.le_iff_toNat_le] at h ⊢
  omega

/-- The bounds may come in either order. -/
def between (a b : UInt16) : PortCursor :=
  if h : a ≤ b then { first := a, last := b, first_le_last := h }
  else { first := b, last := a, first_le_last := le_of_not_le h }

def size (c : PortCursor) : UInt32 := (c.last - c.first).toUInt32 + 1

def port (c : PortCursor) : UInt16 := c.first + (c.next % c.size).toUInt16

def advance (c : PortCursor) : PortCursor := { c with next := c.next + 1 }

/-- Offers up to `offers` ports in turn until one is free. -/
def claim (free : UInt16 → Bool) (c : PortCursor) : Nat → PortCursor × Option UInt16
  | 0 => (c, none)
  | offers + 1 =>
    if free c.port then (c.advance, some c.port) else claim free c.advance offers

/-- Offers each port once. -/
def allocate (c : PortCursor) (free : UInt16 → Bool) : PortCursor × Option UInt16 :=
  c.claim free c.size.toNat

end PortCursor

structure Masquerade where
  external : Ipv4
  /-- Internal endpoints by external port. -/
  reverse : IdleMap UInt16 Endpoint
  forward : Table Endpoint UInt16 := .empty
  /-- The external ports that each internal address holds. -/
  byAddress : Table Ipv4 (List UInt16) := .empty
  cursor : PortCursor
  notices : List Notice := []

namespace Masquerade

/-- No mappings yet; times are in milliseconds. -/
def create (external : Ipv4) (ports : UInt16 × UInt16) (idle : Nat) : Masquerade where
  external
  reverse := { idle }
  cursor := .between ports.1 ports.2

def note (n : Notice) (t : Masquerade) : Masquerade :=
  { t with notices := t.notices ++ [n] }

/-- The index without one port of an address; an address without ports has no entry. -/
def unindex (index : Table Ipv4 (List UInt16)) (address : Ipv4) (port : UInt16) :
    Table Ipv4 (List UInt16) :=
  match index.find? address with
  | none => index
  | some held =>
    let rest := held.erase port
    if rest = [] then index.erase address else index.insert address rest

/-- Brings the indexes up to date after a mapping has gone. -/
def dropped (port : UInt16) (internal : Endpoint) (t : Masquerade) : Masquerade :=
  note (.mappingRemoved internal port)
    { t with
      forward :=
        if t.forward.find? internal = some port then t.forward.erase internal else t.forward
      byAddress := unindex t.byAddress internal.address port }

def mappings : IdleMap.Owner Masquerade UInt16 Endpoint where
  get := reverse
  set := fun m t => { t with reverse := m }
  evicted := dropped

/-- Maps a new port to `internal`. A port whose mapping has expired is not free until the mapping
is evicted. -/
def claimPort (now : Nat) (internal : Endpoint) (t : Masquerade) : Masquerade × Option UInt16 :=
  match t.cursor.allocate fun port => (t.reverse.insertIfVacant now port internal).2 with
  | (cursor, some port) =>
    let held := (t.byAddress.find? internal.address).getD []
    (note (.mappingCreated internal port)
      { t with
        cursor
        reverse := (t.reverse.insertIfVacant now port internal).1
        byAddress := t.byAddress.insert internal.address (held ++ [port]) }, some port)
  | (cursor, none) => (note (.portsExhausted internal) { t with cursor }, none)

/-- The port of `internal` if its mapping is live; a mapping that has expired is evicted. -/
def liveMapping (now : Nat) (internal : Endpoint) (t : Masquerade) : Masquerade × Option UInt16 :=
  match t.forward.find? internal with
  | none => (t, none)
  | some port =>
    match mappings.lookup now port t with
    | (t, some holder) => (t, if holder = internal then some port else none)
    | (t, none) => (t, none)

/-- The port of `internal`, which is mapped to a new one if it has none. -/
def mappingFor (now : Nat) (internal : Endpoint) (t : Masquerade) : Masquerade × Option UInt16 :=
  match t.liveMapping now internal with
  | (t, some port) => (t, some port)
  | (t, none) =>
    match t.claimPort now internal with
    | (t, some port) => ({ t with forward := t.forward.insert internal port }, some port)
    | (t, none) => ({ t with forward := t.forward.erase internal }, none)

/-- Gives a packet the external address and a port as its source. The packet comes back as it was
if it has no flow or no port is left. -/
def outbound (now : Nat) (packet : Bytes) (t : Masquerade) :
    Masquerade × Bytes × Option UInt16 :=
  match Flow.parse? packet with
  | none => (t, packet, none)
  | some flow =>
    match t.mappingFor now flow.source with
    | (t, some port) => (t, flow.readdress packet .source ⟨t.external, port⟩, some port)
    | (t, none) => (t, packet, none)

/-- Gives a packet to a mapped port its internal destination back. The packet comes back as it was
if it has no flow, is for another address or finds no live mapping. -/
def inbound (now : Nat) (packet : Bytes) (t : Masquerade) :
    Masquerade × Bytes × Option Endpoint :=
  match Flow.parse? packet with
  | none => (t, packet, none)
  | some flow =>
    if flow.destination.address = t.external then
      match mappings.lookup now flow.destination.port t with
      | (t, some internal) => (t, flow.readdress packet .destination internal, some internal)
      | (t, none) => (t, packet, none)
    else (t, packet, none)

/-- Evicts the mapping of a port if it belongs to `address`, counting it. -/
def purgePort (address : Ipv4) (s : Masquerade × Nat) (port : UInt16) : Masquerade × Nat :=
  match mappings.evictIf (fun internal => internal.address = address) port s.1 with
  | (t, true) => (t, s.2 + 1)
  | (t, false) => (t, s.2)

/-- Removes the mappings of an internal address, live or expired, and counts them. -/
def purge (address : Ipv4) (t : Masquerade) : Masquerade × Nat :=
  match t.byAddress.find? address with
  | none => (t, 0)
  | some ports =>
    let (t, count) :=
      ports.foldl (purgePort address) ({ t with byAddress := t.byAddress.erase address }, 0)
    (if count = 0 then t else note (.mappingsPurged count address) t, count)

def sweep (now : Nat) (t : Masquerade) : Masquerade × Nat :=
  mappings.sweep now t

/-- The number of mappings that have not been evicted. -/
def size (t : Masquerade) : Nat := t.reverse.size

end Masquerade

end Concentrator
