import Concentrator.Table

/-!
# Maps whose entries expire

An entry remembers when it was last used and is expired once it has been idle
for longer than the window. The map belongs to a larger state. When an entry is
evicted it leaves the map first, and then the owner acts on its key and value;
what the owner does may change the map again.
-/

namespace Concentrator

structure Timed (α : Type) where
  value : α
  lastUse : Nat

/-- Times and the idle window are in milliseconds. -/
structure IdleMap (κ : Type) (α : Type) where
  idle : Nat
  entries : Table κ (Timed α) := .empty

namespace IdleMap

variable {κ α : Type}

def expired (m : IdleMap κ α) (now : Nat) (entry : Timed α) : Bool :=
  m.idle < now - entry.lastUse

def size (m : IdleMap κ α) : Nat := m.entries.size

def isEmpty (m : IdleMap κ α) : Bool := m.entries.isEmpty

def expiredKeys (m : IdleMap κ α) (now : Nat) : List κ :=
  (m.entries.filter fun _ e => m.expired now e).keys

/-- The entries without their clocks. -/
def toList (m : IdleMap κ α) : List (κ × α) :=
  m.entries.entries.map fun (k, e) => (k, e.value)

/-- The map without its entries; nothing is evicted. -/
def clear (m : IdleMap κ α) : IdleMap κ α := { m with entries := .empty }

variable [DecidableEq κ]

/-- The value at a key, expired or not; its clock stays. -/
def peek? (m : IdleMap κ α) (k : κ) : Option α :=
  (m.entries.find? k).map Timed.value

def contains (m : IdleMap κ α) (k : κ) : Bool := m.entries.contains k

def live? (m : IdleMap κ α) (now : Nat) (k : κ) : Option α :=
  match m.entries.find? k with
  | some e => if m.expired now e then none else some e.value
  | none => none

/-- A replaced entry is not evicted. -/
def insert (m : IdleMap κ α) (now : Nat) (k : κ) (a : α) : IdleMap κ α :=
  { m with entries := m.entries.insert k ⟨a, now⟩ }

/-- The map with a new entry, unless there is one, live or expired; and whether there was none. -/
def insertIfVacant (m : IdleMap κ α) (now : Nat) (k : κ) (a : α) : IdleMap κ α × Bool :=
  if m.contains k then (m, false) else (m.insert now k a, true)

def remove (m : IdleMap κ α) (k : κ) : IdleMap κ α :=
  { m with entries := m.entries.erase k }

def refresh (m : IdleMap κ α) (now : Nat) (k : κ) : IdleMap κ α :=
  { m with entries := m.entries.modify k fun e => { e with lastUse := now } }

/-- The map with a live entry refreshed, and whether there was one. -/
def touch (m : IdleMap κ α) (now : Nat) (k : κ) : IdleMap κ α × Bool :=
  if (m.live? now k).isSome then (m.refresh now k, true) else (m, false)

/-- A state that holds a map, and what it does with an evicted entry. -/
structure Owner (σ : Type) (κ : Type) (α : Type) where
  get : σ → IdleMap κ α
  set : IdleMap κ α → σ → σ
  evicted : κ → α → σ → σ

namespace Owner

variable {σ : Type} (owner : Owner σ κ α)

/-- Takes an entry out of the map and lets the owner act on it. -/
def evict (k : κ) (a : α) (s : σ) : σ :=
  owner.evicted k a (owner.set ((owner.get s).remove k) s)

def evictExpired (now : Nat) (k : κ) (s : σ) : σ × Bool :=
  match (owner.get s).entries.find? k with
  | some e => if (owner.get s).expired now e then (owner.evict k e.value s, true) else (s, false)
  | none => (s, false)

/-- The value at a key, refreshed if it is live and evicted if it is not. -/
def lookup (now : Nat) (k : κ) (s : σ) : σ × Option α :=
  match (owner.get s).live? now k with
  | some a => (owner.set ((owner.get s).refresh now k) s, some a)
  | none => ((owner.evictExpired now k s).1, none)

/-- Evicts an entry, expired or not, whose value satisfies `p`. -/
def evictIf (p : α → Bool) (k : κ) (s : σ) : σ × Bool :=
  match (owner.get s).peek? k with
  | some a => if p a then (owner.evict k a s, true) else (s, false)
  | none => (s, false)

/-- Evicts the expired ones among `keys` in turn and counts them. -/
def evictAll (now : Nat) (keys : List κ) (s : σ) : σ × Nat :=
  keys.foldl (fun (s, n) k =>
    let (s, gone) := owner.evictExpired now k s
    (s, if gone then n + 1 else n)) (s, 0)

/-- Evicts every entry that is expired when the sweep begins and still is when its turn comes. -/
def sweep (now : Nat) (s : σ) : σ × Nat :=
  owner.evictAll now ((owner.get s).expiredKeys now) s

end Owner

end IdleMap

end Concentrator
