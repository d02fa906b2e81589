import Concentrator.Address.Ipv4

/-!
# Address pools

A pool is an interval of addresses. Those in use are kept in ascending order,
so the least free address is found by bisection: up to the first gap, every
address in use lies as far from the lowest one as its position says.
-/

namespace Concentrator

structure Pool where
  first : UInt32
  last : UInt32
  occupied : List UInt32 := []
deriving DecidableEq

namespace Pool

def between (first last : Ipv4) : Pool where
  first := first.bits
  last := last.bits

/-- The first position from `low` to `high` at which the ascending run from `lowest` is broken. -/
def gap (occupied : List UInt32) (lowest : UInt32) (low high : Nat) : Nat :=
  if low < high then
    let middle := low + (high - low) / 2
    if occupied.getD middle 0 = lowest + UInt32.ofNat middle then
      gap occupied lowest (middle + 1) high
    else gap occupied lowest low middle
  else low
termination_by high - low
decreasing_by all_goals omega

/-- The least address that is not in use, wherever the pool ends. -/
def candidate? (p : Pool) : Option UInt32 :=
  match p.occupied with
  | [] => some p.first
  | lowest :: _ =>
    let top := p.occupied.length - 1
    let highest := p.occupied.getD top 0
    if p.first < lowest then some p.first
    else if highest - lowest = UInt32.ofNat top then
      if highest.toNat + 1 < UInt32.size then some (highest + 1) else none
    else some (lowest + UInt32.ofNat (gap p.occupied lowest 0 top))

def nextFree? (p : Pool) : Option Ipv4 := do
  let candidate ← p.candidate?
  guard (candidate ≤ p.last)
  return ⟨candidate⟩

/-- An ascending list with one more value in its place. -/
def place (value : UInt32) : List UInt32 → List UInt32
  | [] => [value]
  | head :: rest => if value < head then value :: head :: rest else head :: place value rest

/-- Marks a free address of the interval as used; no other one can be. -/
def occupy (p : Pool) (address : Ipv4) : Pool × Bool :=
  if p.first ≤ address.bits ∧ address.bits ≤ p.last ∧ address.bits ∉ p.occupied then
    ({ p with occupied := place address.bits p.occupied }, true)
  else (p, false)

def release (p : Pool) (address : Ipv4) : Pool × Bool :=
  if address.bits ∈ p.occupied then
    ({ p with occupied := p.occupied.erase address.bits }, true)
  else (p, false)

end Pool

end Concentrator
