/-!
# Byte strings

A payload is a list of octets. Words are big-endian, and text travels as its
UTF-8 encoding.
-/

namespace Concentrator

abbrev Bytes := List UInt8

namespace Bytes

/-- The 16-bit word of two octets, the first one high. -/
def word (high low : UInt8) : UInt16 :=
  UInt16.ofNat (high.toNat * 256 + low.toNat)

/-- The two octets of a word, the high one first. -/
def ofWord (w : UInt16) : Bytes :=
  [UInt8.ofNat (w.toNat / 256), UInt8.ofNat w.toNat]

/-- The 32-bit word of two halves, the first one high. -/
def doubleWord (high low : UInt16) : UInt32 :=
  UInt32.ofNat (high.toNat * 65536 + low.toNat)

def highHalf (w : UInt32) : UInt16 :=
  UInt16.ofNat (w.toNat / 65536)

def lowHalf (w : UInt32) : UInt16 :=
  UInt16.ofNat w.toNat

/-- `patch`, written over `bytes` from `offset` on. -/
def splice (bytes : Bytes) (offset : Nat) (patch : Bytes) : Bytes :=
  bytes.take offset ++ patch ++ bytes.drop (offset + patch.length)

def ofText (s : String) : Bytes :=
  s.toByteArray.data.toList

/-- The text that `bytes` encode, if they are well-formed UTF-8. -/
def toText? (bytes : Bytes) : Option String :=
  String.fromUTF8? ⟨bytes.toArray⟩

end Bytes

end Concentrator
