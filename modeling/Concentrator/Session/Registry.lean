import Concentrator.IdleMap
import Concentrator.Notice
import Concentrator.Session.Join
import Concentrator.Session.Pool

/-!
# Sessions and leases

A session is one peer that has joined a group. All sessions of a group share
one leased address, which is free again when the last of them has gone. Every
change in who stands behind an address is recorded in `changes`.
-/

namespace Concentrator

structure Session where
  /-- Tells a session from an earlier one of the same peer. -/
  serial : Nat
  group : String
  address : Ipv4
deriving DecidableEq

/-- What the rest of the gateway is shown of the members of a lease. -/
structure Snapshot where
  /-- Another number after every change of the members. -/
  generation : Nat := 0
  peers : List Peer := []
deriving DecidableEq

structure Lease where
  group : String
  /-- The sessions behind the address in the order in which they joined. -/
  members : List (Nat × Peer) := []
  snapshot : Snapshot := {}
deriving DecidableEq

namespace Lease

def generation (l : Lease) : Nat := l.snapshot.generation

def peers (l : Lease) : List Peer := l.snapshot.peers

end Lease

inductive Change where
  /-- A session joined, or left while others stayed. -/
  | members (address : Ipv4)
  /-- The last session left. -/
  | released (address : Ipv4)
deriving DecidableEq

structure Admission where
  address : Ipv4
  /-- Not the repeated request of a session that was there already. -/
  isNew : Bool
deriving DecidableEq

structure Registry where
  secret : String
  sessions : IdleMap Peer Session
  pool : Pool
  groups : Table String Ipv4 := .empty
  leases : Table Ipv4 Lease := .empty
  generation : Nat := 0
  nextSerial : Nat := 1
  changes : List Change := []
  notices : List Notice := []

namespace Registry

/-- A registry without sessions; the idle window is in milliseconds. -/
def create (secret : String) (pool : Pool) (idle : Nat) : Registry where
  secret
  sessions := { idle }
  pool

def note (n : Notice) (r : Registry) : Registry :=
  { r with notices := r.notices ++ [n] }

def changed (c : Change) (r : Registry) : Registry :=
  { r with changes := r.changes ++ [c] }

/-- Stores the members of a lease, with a snapshot of them under a new generation. -/
def setMembers (address : Ipv4) (lease : Lease) (members : List (Nat × Peer)) (r : Registry) :
    Registry :=
  let generation := r.generation + 1
  { r with
    generation
    leases := r.leases.insert address
      { lease with members, snapshot := ⟨generation, members.map Prod.snd⟩ } }

/-- Adds a session to the lease of its address, which begins with its first session. -/
def enlist (session : Session) (source : Peer) (r : Registry) : Registry :=
  let lease := (r.leases.find? session.address).getD { group := session.group }
  (r.setMembers session.address lease (lease.members ++ [(session.serial, source)])).changed
    (.members session.address)

/-- Ends a lease that has lost its last session. -/
def releaseLease (session : Session) (lease : Lease) (r : Registry) : Registry :=
  changed (.released session.address) <|
  note (.addressReleased session.address session.group)
    { r with
      leases := r.leases.erase session.address
      groups :=
        if r.groups.find? lease.group = some session.address then r.groups.erase lease.group
        else r.groups
      pool := (r.pool.release session.address).1 }

def withdraw (session : Session) (r : Registry) : Registry :=
  match r.leases.find? session.address with
  | none => r
  | some lease =>
    let rest := lease.members.filter fun member => member.1 ≠ session.serial
    if rest.length = lease.members.length then r
    else if rest = [] then r.releaseLease session lease
    else (r.setMembers session.address lease rest).changed (.members session.address)

def owner : IdleMap.Owner Registry Peer Session where
  get := sessions
  set := fun m r => { r with sessions := m }
  evicted := fun source session r =>
    (note (.sessionExpired source session.address) r).withdraw session

/-- Removes the session of a source that has expired or asks for another group. -/
def dropPrevious (source : Peer) (previous : Session) (group : String) (r : Registry) :
    Registry :=
  let r := r.note (if previous.group = group then .expiredBeforeJoin source
    else .switchedGroup source previous.group group)
  { r with sessions := r.sessions.remove source }.withdraw previous

/-- The address that a new session of `group` would get. -/
def addressFor? (group : String) (r : Registry) : Option Ipv4 :=
  match r.groups.find? group with
  | some address => some address
  | none => r.pool.nextFree?

/-- Leases an address to a group that has none. -/
def lease (group : String) (address : Ipv4) (r : Registry) : Registry :=
  match r.groups.find? group with
  | some _ => r
  | none =>
    note (.addressLeased address group)
      { r with
        pool := (r.pool.occupy address).1
        groups := r.groups.insert group address }

def record (now : Nat) (source : Peer) (group : String) (address : Ipv4) (r : Registry) :
    Registry :=
  let r := r.lease group address
  let session : Session := ⟨r.nextSerial, group, address⟩
  let r := ({ r with nextSerial := r.nextSerial + 1 }.enlist session source).note
    (.sessionJoined source address group)
  { r with sessions := r.sessions.insert now source session }

/-- What came of a join request: the address that was offered to the client, if any, and the
admission if the offer could be made. -/
structure JoinResult where
  offered : Option Ipv4 := none
  admission : Option Admission := none
deriving DecidableEq

/-- Admits a source without a session in the group. -/
def admitNew (now : Nat) (source : Peer) (group : String) (offer : Ipv4 → Bool) (r : Registry) :
    Registry × JoinResult :=
  match r.addressFor? group with
  | none => (r.note (.addressesExhausted source), {})
  | some address =>
    if offer address then
      (r.record now source group address, ⟨some address, some ⟨address, true⟩⟩)
    else (r, ⟨some address, none⟩)

/-- Handles a join request. `offer` says whether the client can be told about an address; nothing
new is recorded unless it can. -/
def join (now : Nat) (source : Peer) (request : JoinRequest) (offer : Ipv4 → Bool)
    (r : Registry) : Registry × JoinResult :=
  if request.secret ≠ r.secret then (r.note (.wrongSecret source), {})
  else
    match r.sessions.peek? source with
    | none => r.admitNew now source request.group offer
    | some previous =>
      if previous.group = request.group ∧ (r.sessions.touch now source).2 then
        ({ r with sessions := (r.sessions.touch now source).1 },
          ⟨some previous.address,
            if offer previous.address then some ⟨previous.address, false⟩ else none⟩)
      else
        (r.dropPrevious source previous request.group).admitNew now source request.group offer

/-- Ends the session of a source, expired or not. -/
def leave (source : Peer) (r : Registry) : Registry × Option Session :=
  match r.sessions.peek? source with
  | none => (r, none)
  | some session =>
    (withdraw session
      (note (.sessionLeft source session.address)
        { r with sessions := r.sessions.remove source }), some session)

/-- The live session of a source, whose idle clock starts again; one that has expired is evicted. -/
def lookup (now : Nat) (source : Peer) (r : Registry) : Registry × Option Session :=
  owner.lookup now source r

def sweep (now : Nat) (r : Registry) : Registry × Nat :=
  owner.sweep now r

def clear (r : Registry) : Registry × Nat :=
  let all := r.sessions.toList
  let r := all.foldl (fun r (_, session) => r.withdraw session)
    { r with sessions := r.sessions.clear }
  (if all = [] then r else r.note (.sessionsCleared all.length), all.length)

def leaseOf? (group : String) (r : Registry) : Option Ipv4 := r.groups.find? group

def leaseAt? (address : Ipv4) (r : Registry) : Option Lease := r.leases.find? address

end Registry

end Concentrator
