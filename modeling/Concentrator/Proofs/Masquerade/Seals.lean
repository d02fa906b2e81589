import Concentrator.Proofs.Masquerade.Extents

/-!
# The two checksums of a packet

A packet verifies if the sums over its header and over its segment have residue zero.
It is sealed if its checksums are the very words that summing from scratch gives.
Between the two words of residue zero the summed fields decide, which are never zero
where a version or a pseudo-header is among them.
-/

namespace Concentrator

/-- The number by which a header names its protocol. -/
def Protocol.number : Protocol → UInt8
  | .tcp => 6
  | .udp => 17
  | .echo => 1

theorem Protocol.ofNumber?_eq_some_iff {n : UInt8} {protocol : Protocol} :
    ofNumber? n = some protocol ↔ n = protocol.number := by
  unfold ofNumber?
  constructor
  · intro read
    split at read
    · obtain rfl := Option.some.inj read
      assumption
    · split at read
      · obtain rfl := Option.some.inj read
        assumption
      · split at read
        · obtain rfl := Option.some.inj read
          assumption
        · cases read
  · rintro rfl
    cases protocol <;> rfl

namespace Flow

open Checksum (total)

variable {packet : Bytes} {flow : Flow}

/-! ### Checksums from scratch -/

def header (flow : Flow) (packet : Bytes) : Bytes := extent packet 0 flow.headerLength

/-- The transport header and all that it carries. -/
def segment (flow : Flow) (packet : Bytes) : Bytes :=
  extent packet flow.headerLength flow.totalLength

def headerField (packet : Bytes) : UInt16 := wordAt (octetAt packet) 10

def segmentField (flow : Flow) (packet : Bytes) : UInt16 :=
  wordAt (octetAt packet) flow.checksumOffset

def headerChecksum (flow : Flow) (packet : Bytes) : UInt16 :=
  Checksum.compute (flow.header (blank packet 10))

/-- The checksum of the segment under its pseudo-header. -/
def transportChecksum (flow : Flow) (packet : Bytes) : UInt16 :=
  Checksum.transport flow.source.address.bits flow.destination.address.bits flow.protocol.number
    (flow.segment (blank packet flow.checksumOffset))

/-- A datagram whose checksum is zero says 0xFFFF, and an echo message is summed alone. -/
def segmentChecksum (flow : Flow) (packet : Bytes) : UInt16 :=
  match flow.protocol with
  | .tcp => flow.transportChecksum packet
  | .udp => if flow.transportChecksum packet = 0 then 0xFFFF else flow.transportChecksum packet
  | .echo => Checksum.compute (flow.segment (blank packet flow.checksumOffset))

def HeaderSealed (flow : Flow) (packet : Bytes) : Prop :=
  headerField packet = flow.headerChecksum packet

def SegmentSealed (flow : Flow) (packet : Bytes) : Prop :=
  flow.segmentField packet = flow.segmentChecksum packet ∨
    flow.protocol = .udp ∧ flow.segmentField packet = 0

/-- The sum of the segment and its pseudo-header. -/
def segmentSum (flow : Flow) (packet : Bytes) : UInt32 :=
  Checksum.pseudoHeader flow.source.address.bits flow.destination.address.bits
    flow.protocol.number (UInt16.ofNat (flow.segment packet).length) +
      Checksum.sum (flow.segment packet)

def HeaderVerifies (flow : Flow) (packet : Bytes) : Prop :=
  Checksum.fold (Checksum.sum (flow.header packet)) = 0xFFFF

def SegmentVerifies (flow : Flow) (packet : Bytes) : Prop :=
  Checksum.fold (flow.segmentSum packet) = 0xFFFF

instance : Decidable (flow.HeaderSealed packet) := inferInstanceAs (Decidable (_ = _))

instance : Decidable (flow.SegmentSealed packet) := inferInstanceAs (Decidable (_ ∨ _))

instance : Decidable (flow.HeaderVerifies packet) := inferInstanceAs (Decidable (_ = _))

instance : Decidable (flow.SegmentVerifies packet) := inferInstanceAs (Decidable (_ = _))

/-! ### What the checksums say -/

theorem Reads.bounds {size : Nat} {byte : Nat → UInt8} (reads : Reads size byte flow) :
    20 ≤ flow.headerLength ∧ flow.headerLength ≤ flow.totalLength ∧ flow.totalLength ≤ size ∧
      flow.totalLength < 65536 := by
  have short := (wordAt byte 2).toNat_lt
  rw [← reads.totalLength] at short
  exact ⟨reads.header, reads.whole.1, reads.whole.2, short⟩

theorem toNat_header_sum (reads : Reads packet.length (octetAt packet) flow) (packet' : Bytes) :
    (Checksum.sum (flow.header packet')).toNat = total (flow.header packet') := by
  have length := length_extent_le packet' 0 flow.headerLength
  have bounds := reads.bounds
  exact Checksum.toNat_sum (Nat.le_trans length (by omega))

theorem total_header_blank (reads : Reads packet.length (octetAt packet) flow) :
    total (flow.header (blank packet 10)) + (headerField packet).toNat =
      total (flow.header packet) := by
  have bounds := reads.bounds
  exact total_extent_blank (by omega) (by omega) (by omega) (by omega)

/-- The version is never summed to zero. -/
theorem total_header_blank_pos (reads : Reads packet.length (octetAt packet) flow) :
    0 < total (flow.header (blank packet 10)) := by
  have bounds := reads.bounds
  have version := reads.version
  have length : (blank packet 10).length = packet.length := length_writeWord (by omega)
  have front : wordAt (octetAt (blank packet 10)) 0 = wordAt (octetAt packet) 0 :=
    wordAt_writeWord_apart (by omega) (.inl (by omega))
  have rest : total (extent (blank (blank packet 10) 0) 0 flow.headerLength) +
      (wordAt (octetAt (blank packet 10)) 0).toNat = total (flow.header (blank packet 10)) :=
    total_extent_blank (by omega) (by omega) (by omega) rfl
  rw [front, wordAt, Checksum.toNat_word] at rest
  omega

theorem headerSealed_iff (reads : Reads packet.length (octetAt packet) flow) :
    flow.HeaderSealed packet ↔
      total (flow.header packet) % 65535 = 0 ∧ (headerField packet).toNat ≠ 65535 := by
  have erased := total_header_blank reads
  have positive := total_header_blank_pos reads
  rw [HeaderSealed, eq_comm, headerChecksum, Checksum.compute, Checksum.complement_fold_eq_iff,
    toNat_header_sum reads, erased]
  omega

theorem headerVerifies_iff (reads : Reads packet.length (octetAt packet) flow) :
    flow.HeaderVerifies packet ↔ total (flow.header packet) % 65535 = 0 := by
  have erased := total_header_blank reads
  have positive := total_header_blank_pos reads
  have ones : (0xFFFF : UInt16).toNat = 65535 := rfl
  rw [HeaderVerifies, Checksum.fold_eq_iff, toNat_header_sum reads, ones]
  omega

def addressSum (a : Ipv4) : Nat :=
  (Bytes.highHalf a.bits).toNat + (Bytes.lowHalf a.bits).toNat

/-- What the pseudo-header adds to the sum of a segment. -/
def surround (flow : Flow) : Nat :=
  addressSum flow.source.address + addressSum flow.destination.address +
    flow.protocol.number.toNat + (flow.totalLength - flow.headerLength)

theorem surround_pos (flow : Flow) : 0 < flow.surround := by
  have number : 0 < flow.protocol.number.toNat := by cases flow.protocol <;> decide
  unfold surround
  omega

theorem toNat_segmentSum (whole : flow.totalLength ≤ packet.length)
    (short : flow.totalLength < 65536) :
    (flow.segmentSum packet).toNat = flow.surround + total (flow.segment packet) := by
  have length : (flow.segment packet).length = flow.totalLength - flow.headerLength := by
    rw [segment, extent, List.length_drop, List.length_take_of_le whole]
  have bound := Checksum.total_le (flow.segment packet)
  have source_high := (Bytes.highHalf flow.source.address.bits).toNat_lt
  have source_low := (Bytes.lowHalf flow.source.address.bits).toNat_lt
  have destination_high := (Bytes.highHalf flow.destination.address.bits).toNat_lt
  have destination_low := (Bytes.lowHalf flow.destination.address.bits).toNat_lt
  have number := flow.protocol.number.toNat_lt
  have size : (UInt16.ofNat (flow.segment packet).length).toNat =
      flow.totalLength - flow.headerLength := by
    rw [UInt16.toNat_ofNat', length]
    exact Nat.mod_eq_of_lt (by omega)
  rw [segmentSum, UInt32.toNat_add, Checksum.toNat_pseudoHeader, Checksum.toNat_sum (by omega),
    size]
  unfold surround addressSum
  omega

theorem total_segment_blank (reads : Reads packet.length (octetAt packet) flow) :
    total (flow.segment (blank packet flow.checksumOffset)) + (flow.segmentField packet).toNat =
      total (flow.segment packet) := by
  have bounds := reads.bounds
  have transport := reads.transport
  have offsets := transport_offsets flow .source
  have even : (flow.checksumOffset - flow.headerLength) % 2 = 0 := by
    cases protocol : flow.protocol <;> simp [checksumOffset, protocol, Protocol.checksumOffset]
  exact total_extent_blank (by omega) (by omega) (by omega) even

/-- The pseudo-header keeps the sum from being zero. -/
theorem transportChecksum_eq_iff (reads : Reads packet.length (octetAt packet) flow)
    (checksum : UInt16) :
    flow.transportChecksum packet = checksum ↔
      (flow.surround + total (flow.segment (blank packet flow.checksumOffset)) +
          checksum.toNat) % 65535 = 0 ∧ checksum.toNat ≠ 65535 := by
  have bounds := reads.bounds
  have transport := reads.transport
  have offsets := transport_offsets flow .source
  have length : (blank packet flow.checksumOffset).length = packet.length :=
    length_writeWord (by omega)
  have positive := flow.surround_pos
  have computed : flow.transportChecksum packet =
      ~~~ Checksum.fold (flow.segmentSum (blank packet flow.checksumOffset)) := rfl
  rw [computed, Checksum.complement_fold_eq_iff, toNat_segmentSum (by omega) bounds.2.2.2]
  omega

theorem segmentSealed_iff_of_tcp (reads : Reads packet.length (octetAt packet) flow)
    (tcp : flow.protocol = .tcp) :
    flow.SegmentSealed packet ↔ (flow.surround + total (flow.segment packet)) % 65535 = 0 ∧
      (flow.segmentField packet).toNat ≠ 65535 := by
  have erased := total_segment_blank reads
  have computed : flow.segmentChecksum packet = flow.transportChecksum packet := by
    simp only [segmentChecksum, tcp]
  have other : ¬(flow.protocol = .udp ∧ flow.segmentField packet = 0) := by simp [tcp]
  rw [SegmentSealed, or_iff_left other, eq_comm, computed, transportChecksum_eq_iff reads]
  omega

theorem segmentSealed_iff_of_udp (reads : Reads packet.length (octetAt packet) flow)
    (udp : flow.protocol = .udp) :
    flow.SegmentSealed packet ↔ (flow.surround + total (flow.segment packet)) % 65535 = 0 ∨
      (flow.segmentField packet).toNat = 0 := by
  have erased := total_segment_blank reads
  have bound := (flow.segmentField packet).toNat_lt
  have computed : flow.segmentChecksum packet =
      if flow.transportChecksum packet = 0 then 0xFFFF else flow.transportChecksum packet := by
    simp only [segmentChecksum, udp]
  have nothing := transportChecksum_eq_iff reads 0
  rw [UInt16.toNat_zero] at nothing
  have zero : flow.segmentField packet = 0 ↔ (flow.segmentField packet).toNat = 0 :=
    UInt16.toNat_inj.symm
  have ones : 0xFFFF = flow.segmentField packet ↔ 65535 = (flow.segmentField packet).toNat :=
    UInt16.toNat_inj.symm
  rw [SegmentSealed, eq_comm, computed, zero, and_iff_right udp]
  -- zero is the one word that would not say that the datagram has been summed
  by_cases none : flow.transportChecksum packet = 0
  · have residue := nothing.1 none
    rw [if_pos none, ones]
    omega
  · have residue := mt nothing.2 none
    rw [if_neg none, transportChecksum_eq_iff reads]
    omega

/-- An echo message has no pseudo-header, and its sum may be zero. -/
theorem segmentChecksum_eq_iff_of_echo (reads : Reads packet.length (octetAt packet) flow)
    (echo : flow.protocol = .echo) (checksum : UInt16) :
    flow.segmentChecksum packet = checksum ↔
      (total (flow.segment (blank packet flow.checksumOffset)) + checksum.toNat) % 65535 = 0 ∧
        (checksum.toNat = 65535 ↔
          total (flow.segment (blank packet flow.checksumOffset)) = 0) := by
  have bounds := reads.bounds
  have length := length_extent_le (blank packet flow.checksumOffset) flow.headerLength
    flow.totalLength
  have computed : flow.segmentChecksum packet =
      Checksum.compute (flow.segment (blank packet flow.checksumOffset)) := by
    simp only [segmentChecksum, echo]
  rw [computed, Checksum.compute, Checksum.complement_fold_eq_iff,
    Checksum.toNat_sum (by rw [segment]; omega)]

theorem segmentSealed_iff_of_echo (reads : Reads packet.length (octetAt packet) flow)
    (echo : flow.protocol = .echo) :
    flow.SegmentSealed packet ↔ total (flow.segment packet) % 65535 = 0 ∧
      ((flow.segmentField packet).toNat = 65535 ↔
        total (flow.segment (blank packet flow.checksumOffset)) = 0) := by
  have erased := total_segment_blank reads
  have other : ¬(flow.protocol = .udp ∧ flow.segmentField packet = 0) := by simp [echo]
  rw [SegmentSealed, or_iff_left other, eq_comm, segmentChecksum_eq_iff_of_echo reads echo]
  omega

theorem segmentVerifies_iff (reads : Reads packet.length (octetAt packet) flow) :
    flow.SegmentVerifies packet ↔ (flow.surround + total (flow.segment packet)) % 65535 = 0 := by
  have bounds := reads.bounds
  have positive := flow.surround_pos
  have ones : (0xFFFF : UInt16).toNat = 65535 := rfl
  rw [SegmentVerifies, Checksum.fold_eq_iff, toNat_segmentSum bounds.2.2.1 bounds.2.2.2, ones]
  omega

end Flow

end Concentrator
