import Concentrator.Address.Ipv4

/-!
# IPv6 addresses

Addresses are written in the canonical form: the longest run of two or more
zero groups is left out, the first one of equals, and an IPv4-mapped address
ends in a dotted quad.
-/

namespace Concentrator

structure Ipv6 where
  bits : BitVec 128
deriving DecidableEq

namespace Ipv6

/-- The eight 16-bit groups, the most significant first. -/
def groups (a : Ipv6) : List Nat :=
  (List.range 8).map fun i => a.bits.toNat / Nat.pow 65536 (7 - i) % 65536

def ofGroups (gs : List Nat) : Ipv6 :=
  ⟨BitVec.ofNat 128 (gs.foldl (fun n g => n * 65536 + g) 0)⟩

/-- The length of the run of zero groups that starts at each position. -/
def zeroRuns : List Nat → List Nat
  | [] => []
  | g :: rest =>
    let runs := zeroRuns rest
    (if g = 0 then runs.headD 0 + 1 else 0) :: runs

/-- Where the longest run of zero groups starts, and its length. -/
def longestZeroRun (gs : List Nat) : Nat × Nat :=
  let runs := zeroRuns gs
  let longest := runs.foldl max 0
  (runs.idxOf longest, longest)

def groupsText (gs : List Nat) : String :=
  ":".intercalate (gs.map Text.hexadecimal)

def text (a : Ipv6) : String :=
  let gs := a.groups
  if gs.take 6 = [0, 0, 0, 0, 0, 65535] then
    "::ffff:" ++ (Ipv4.ofNat (a.bits.toNat % UInt32.size)).text
  else
    let (start, length) := longestZeroRun gs
    if 1 < length then
      groupsText (gs.take start) ++ "::" ++ groupsText (gs.drop (start + length))
    else groupsText gs

open Text Scan

/-- A scan that, except at the start of a sequence, is preceded by a colon. -/
def separated {α : Type} (first : Bool) (p : Scan α) : Scan α :=
  if first then p else do
    char ':'
    p

/-- Up to `limit` groups, and whether the last two were written as a dotted quad. -/
def scanGroups (first : Bool) : Nat → Scan (List Nat × Bool)
  | 0 => pure ([], false)
  | limit + 1 =>
    let quad : Scan (List Nat × Bool) := do
      guard (0 < limit)
      let a ← separated first (Ipv4.scan false)
      pure ([a.toNat / 65536, a.toNat % 65536], true)
    let group : Scan (List Nat × Bool) := do
      let g ← separated first (number { base := 16, maxDigits := some 4, bound := 65536 })
      let (rest, embedded) ← scanGroups false limit
      pure (g :: rest, embedded)
    quad <|> group <|> pure ([], false)

/-- Eight groups, or fewer around a double colon. -/
def scan : Scan Ipv6 := do
  let (front, embedded) ← scanGroups true 8
  if front.length = 8 then
    pure (ofGroups front)
  else
    guard (!embedded)
    char ':'
    char ':'
    let (back, _) ← scanGroups true (7 - front.length)
    pure (ofGroups (front ++ List.replicate (8 - front.length - back.length) 0 ++ back))

end Ipv6

end Concentrator
