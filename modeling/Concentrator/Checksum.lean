import Concentrator.Bytes

/-!
# The Internet checksum

A checksum is the complement of the ones' complement sum of the 16-bit words
of a byte string. A word that changes is repaired into an existing checksum
without looking at the rest of the string.
-/

namespace Concentrator.Checksum

/-- `acc` plus the words of a byte string; an odd last octet is a high octet. -/
def sumFrom (acc : UInt32) : Bytes → UInt32
  | [] => acc
  | [last] => acc + UInt32.ofNat (last.toNat * 256)
  | high :: low :: rest => sumFrom (acc + (Bytes.word high low).toUInt32) rest

def sum (bytes : Bytes) : UInt32 :=
  sumFrom 0 bytes

theorem fold_step_lt {n : Nat} (h : 65536 ≤ n) : n % 65536 + n / 65536 < n := by omega

/-- Carries go back in at the low end until none is left. -/
def foldNat (n : Nat) : Nat :=
  if 65536 ≤ n then foldNat (n % 65536 + n / 65536) else n
termination_by n
decreasing_by exact fold_step_lt (by assumption)

def fold (sum : UInt32) : UInt16 :=
  UInt16.ofNat (foldNat sum.toNat)

def compute (bytes : Bytes) : UInt16 :=
  ~~~ fold (sum bytes)

/-- The part of a transport checksum that comes from the addressing around the segment. -/
def pseudoHeader (source destination : UInt32) (protocol : UInt8) (length : UInt16) : UInt32 :=
  (Bytes.highHalf source).toUInt32 + (Bytes.lowHalf source).toUInt32 +
    (Bytes.highHalf destination).toUInt32 + (Bytes.lowHalf destination).toUInt32 +
    protocol.toUInt32 + length.toUInt32

/-- The checksum of a segment whose own checksum field is zero. -/
def transport (source destination : UInt32) (protocol : UInt8) (segment : Bytes) : UInt16 :=
  ~~~ fold (pseudoHeader source destination protocol (UInt16.ofNat segment.length) + sum segment)

/-- The checksum after one word of its string went from `old` to `new`. -/
def update (checksum old new : UInt16) : UInt16 :=
  ~~~ fold ((~~~ checksum).toUInt32 + (~~~ old).toUInt32 + new.toUInt32)

/-- The checksum after two adjacent words went from `old` to `new`. -/
def updateDouble (checksum : UInt16) (old new : UInt32) : UInt16 :=
  update (update checksum (Bytes.highHalf old) (Bytes.highHalf new))
    (Bytes.lowHalf old) (Bytes.lowHalf new)

end Concentrator.Checksum
