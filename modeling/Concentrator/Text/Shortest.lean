import Concentrator.Text.Decimal

/-!
# The shortest decimal that reads back

A binary fraction m · 2^q stands for every real that rounds to it. Of the
decimals with the fewest digits among those reals, `shortest` gives the one
nearest to the fraction itself.
-/

namespace Concentrator.Text

/-- A positive number as significand and exponent in some base. -/
structure Scaled where
  significand : Nat
  exponent : Int
deriving DecidableEq

/-- The same number without zeros at the end of its significand. -/
def Scaled.trim (x : Scaled) : Scaled :=
  if h : x.significand % 10 = 0 ∧ 0 < x.significand then
    Scaled.trim ⟨x.significand / 10, x.exponent + 1⟩
  else x
termination_by x.significand
decreasing_by
  show x.significand / 10 < x.significand
  omega

/-- The reals that round to a binary fraction, as a quarter-step count around it: the middle and
the two ends are multiples of 2^(q-2), and the ends belong to it if the significand is even. -/
structure Rounding where
  low : Nat
  middle : Nat
  high : Nat
  exponent : Int
  closed : Bool
deriving DecidableEq

/-- The interval of a fraction. Below a power of two the steps are half as wide, except at the
least exponent. -/
def Rounding.around (x : Scaled) (boundary : Bool) : Rounding where
  low := 4 * x.significand - if boundary then 1 else 2
  middle := 4 * x.significand
  high := 4 * x.significand + 2
  exponent := x.exponent - 2
  closed := x.significand % 2 = 0

/-- `n · 10^e` as a fraction. -/
def tenTimes (n : Nat) (e : Int) : Nat × Nat :=
  if e < 0 then (n, Nat.pow 10 e.natAbs) else (n * Nat.pow 10 e.natAbs, 1)

/-- `n · 2^e` as a fraction. -/
def twoTimes (n : Nat) (e : Int) : Nat × Nat :=
  if e < 0 then (n, Nat.pow 2 e.natAbs) else (n * Nat.pow 2 e.natAbs, 1)

def fractionLe (a b : Nat × Nat) : Bool := a.1 * b.2 ≤ b.1 * a.2

def fractionLt (a b : Nat × Nat) : Bool := a.1 * b.2 < b.1 * a.2

namespace Rounding

def holds (r : Rounding) (x : Nat × Nat) : Bool :=
  let low := twoTimes r.low r.exponent
  let high := twoTimes r.high r.exponent
  if r.closed then fractionLe low x && fractionLe x high
  else fractionLt low x && fractionLt x high

/-- The distance of `x` from the middle, as a fraction. -/
def distance (r : Rounding) (x : Nat × Nat) : Nat × Nat :=
  let m := twoTimes r.middle r.exponent
  ((x.1 * m.2 - m.1 * x.2) + (m.1 * x.2 - x.1 * m.2), x.2 * m.2)

/-- The nearest multiple of 10^e to the middle that rounds back, if there is one; of two equally
near the even one. -/
def onGrid? (r : Rounding) (e : Int) : Option Nat :=
  let m := twoTimes r.middle r.exponent
  let unit := tenTimes 1 e
  let below := m.1 * unit.2 / (m.2 * unit.1)
  let low := r.holds (tenTimes below e)
  let high := r.holds (tenTimes (below + 1) e)
  let dl := r.distance (tenTimes below e)
  let dh := r.distance (tenTimes (below + 1) e)
  if low ∧ (¬ high ∨ fractionLt dl dh ∨ (fractionLe dl dh ∧ below % 2 = 0)) then some below
  else if high then some (below + 1)
  else none

/-- The least exponent whose power of ten is above the middle. -/
def magnitude (r : Rounding) : Int :=
  let m := twoTimes r.middle r.exponent
  let guess : Int := (r.middle.log2 + r.exponent) * 30103 / 100000
  (([guess - 1, guess, guess + 1].find? fun k => fractionLt m (tenTimes 1 k))).getD (guess + 2)

/-- The shortest decimal, without trailing zeros. -/
def shortest (r : Rounding) : Scaled :=
  let grids : List Int := (List.range 17).map fun i => r.magnitude - (Int.ofNat i + 1)
  let hit := grids.findSome? fun e => (r.onGrid? e).map fun n => (⟨n, e⟩ : Scaled)
  (hit.getD ⟨0, 0⟩).trim

end Rounding

/-- The positive finite value of a pattern of 64 bits without its sign, with the mark of a power
of two that has narrower neighbours below. -/
def binary64 (bits : Nat) : Scaled × Bool :=
  let fraction := bits % Nat.pow 2 52
  let biased : Nat := bits / Nat.pow 2 52 % Nat.pow 2 11
  if biased = 0 then (⟨fraction, -1074⟩, false)
  else (⟨Nat.pow 2 52 + fraction, (biased : Int) - 1075⟩, fraction = 0 ∧ 1 < biased)

end Concentrator.Text
