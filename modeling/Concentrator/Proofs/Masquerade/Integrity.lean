import Concentrator.Proofs.Masquerade.Seals

/-!
# Checksums of readdressed packets

Readdressing repairs two checksums instead of summing again. The sums of the header
and of the segment keep their residues, whatever is stored there, so a packet
verifies afterwards exactly if it did before. A packet that was sealed is sealed
again, unless it is an echo message of which only zeros are left.
-/

namespace Concentrator

namespace Bytes

theorem highHalf_doubleWord (high low : UInt16) : highHalf (doubleWord high low) = high := by
  apply UInt16.toNat_inj.1
  have bound := high.toNat_lt
  have bound' := low.toNat_lt
  simp only [doubleWord, highHalf, UInt32.toNat_ofNat', UInt16.toNat_ofNat']
  omega

theorem lowHalf_doubleWord (high low : UInt16) : lowHalf (doubleWord high low) = low := by
  apply UInt16.toNat_inj.1
  have bound := high.toNat_lt
  have bound' := low.toNat_lt
  simp only [doubleWord, lowHalf, UInt32.toNat_ofNat', UInt16.toNat_ofNat']
  omega

end Bytes

namespace Flow

open Checksum (total)

variable {packet : Bytes} {flow : Flow} {side : Side} {new : Endpoint}

/-! ### What is written -/

theorem Reads.address_endpoint {size : Nat} {byte : Nat → UInt8} (reads : Reads size byte flow)
    (side : Side) : addressSum (flow.endpoint side).address =
      (wordAt byte side.addressOffset).toNat + (wordAt byte (side.addressOffset + 2)).toNat := by
  rw [reads.addresses side, addressAt, addressSum, Bytes.highHalf_doubleWord,
    Bytes.lowHalf_doubleWord]

theorem Reads.port_endpoint {size : Nat} {byte : Nat → UInt8} (reads : Reads size byte flow)
    (side : Side) : (flow.endpoint side).port = wordAt byte (flow.portOffset side) := by
  obtain ⟨-, source, destination⟩ := portsAt?_eq_some_iff.1 reads.ports
  cases side
  · exact source.symm
  · exact destination.symm

theorem offsets_even (flow : Flow) (side : Side) : side.addressOffset % 2 = 0 ∧
    (flow.portOffset side - flow.headerLength) % 2 = 0 ∧
    (flow.checksumOffset - flow.headerLength) % 2 = 0 := by
  cases protocol : flow.protocol <;> cases side <;>
    simp [Side.addressOffset, portOffset, checksumOffset, protocol, Protocol.checksumOffset]

theorem patches_placed (reads : Reads packet.length (octetAt packet) flow) (side : Side)
    (new : Endpoint) {q : Nat × UInt16} (member : q ∈ flow.patches (octetAt packet) side new) :
    Placed 0 flow.headerLength q.1 ∧ Placed flow.headerLength flow.totalLength q.1 := by
  have bounds := reads.bounds
  have transport := reads.transport
  have offsets := transport_offsets flow side
  have address := addressOffset_bounds side
  have even := offsets_even flow side
  have place := offset_of_mem_patches member
  constructor <;> unfold Placed <;> omega

theorem headerField_readdress (parsed : parse? packet = some flow) (side : Side) (new : Endpoint) :
    headerField (flow.readdress packet side new) =
      Checksum.updateDouble (headerField packet) (flow.endpoint side).address.bits
        new.address.bits :=
  wordAt_readdress_of_mem parsed (by simp [patches, headerField])

theorem segmentField_readdress (parsed : parse? packet = some flow) (side : Side)
    (new : Endpoint) :
    flow.segmentField (flow.readdress packet side new) =
      flow.repair side new (flow.segmentField packet) :=
  wordAt_readdress_of_mem parsed (by simp [patches, segmentField])

theorem total_extent_readdress (parsed : parse? packet = some flow) (first last : Nat)
    (placed : ∀ q ∈ flow.patches (octetAt packet) side new, Placed first last q.1) :
    total (extent (flow.readdress packet side new) first last) +
        ((flow.patches (octetAt packet) side new).map fun q =>
          share first last q.1 (wordAt (octetAt packet) q.1)).sum =
      total (extent packet first last) +
        ((flow.patches (octetAt packet) side new).map fun q => share first last q.1 q.2).sum := by
  have reads := parse?_eq_some_iff.1 parsed
  exact total_extent_writeWords first last
    (fun q member => ⟨patches_inside reads _ q member, placed q member⟩)
    (patches_apart reads.header _)

theorem total_header_readdress (parsed : parse? packet = some flow) (side : Side)
    (new : Endpoint) :
    total (flow.header (flow.readdress packet side new)) +
        ((headerField packet).toNat + addressSum (flow.endpoint side).address) =
      total (flow.header packet) +
        ((headerField (flow.readdress packet side new)).toNat + addressSum new.address) := by
  have reads := parse?_eq_some_iff.1 parsed
  have bounds := reads.bounds
  have offsets := transport_offsets flow side
  have address := addressOffset_bounds side
  have sum := total_extent_readdress parsed 0 flow.headerLength fun q member =>
    (patches_placed reads side new member).1
  -- the checksum and the address lie in the header, the rest behind it
  have field : ∀ w, share 0 flow.headerLength 10 w = w.toNat := fun w =>
    share_inside (by omega) (by omega)
  have high : ∀ w, share 0 flow.headerLength side.addressOffset w = w.toNat := fun w =>
    share_inside (by omega) (by omega)
  have low : ∀ w, share 0 flow.headerLength (side.addressOffset + 2) w = w.toNat := fun w =>
    share_inside (by omega) (by omega)
  have port : ∀ w, share 0 flow.headerLength (flow.portOffset side) w = 0 := fun w =>
    share_outside (by omega)
  have checksum : ∀ w, share 0 flow.headerLength flow.checksumOffset w = 0 := fun w =>
    share_outside (by omega)
  simp only [patches, List.map_cons, List.map_nil, List.sum_cons, List.sum_nil, field, high, low,
    port, checksum] at sum
  rw [headerField_readdress parsed side new, reads.address_endpoint side]
  unfold addressSum headerField header
  omega

theorem total_segment_readdress (parsed : parse? packet = some flow) (side : Side)
    (new : Endpoint) :
    total (flow.segment (flow.readdress packet side new)) +
        ((flow.segmentField packet).toNat + (flow.endpoint side).port.toNat) =
      total (flow.segment packet) +
        ((flow.segmentField (flow.readdress packet side new)).toNat + new.port.toNat) := by
  have reads := parse?_eq_some_iff.1 parsed
  have bounds := reads.bounds
  have transport := reads.transport
  have offsets := transport_offsets flow side
  have address := addressOffset_bounds side
  have sum := total_extent_readdress parsed flow.headerLength flow.totalLength fun q member =>
    (patches_placed reads side new member).2
  have field : ∀ w, share flow.headerLength flow.totalLength 10 w = 0 := fun w =>
    share_outside (by omega)
  have high : ∀ w, share flow.headerLength flow.totalLength side.addressOffset w = 0 := fun w =>
    share_outside (by omega)
  have low : ∀ w, share flow.headerLength flow.totalLength (side.addressOffset + 2) w = 0 :=
    fun w => share_outside (by omega)
  have port : ∀ w, share flow.headerLength flow.totalLength (flow.portOffset side) w = w.toNat :=
    fun w => share_inside (by omega) (by omega)
  have checksum : ∀ w,
      share flow.headerLength flow.totalLength flow.checksumOffset w = w.toNat := fun w =>
    share_inside (by omega) (by omega)
  simp only [patches, List.map_cons, List.map_nil, List.sum_cons, List.sum_nil, field, high, low,
    port, checksum] at sum
  rw [segmentField_readdress parsed side new, reads.port_endpoint side]
  unfold segmentField segment
  omega

theorem header_withEnd (flow : Flow) (side : Side) (new : Endpoint) (packet : Bytes) :
    (flow.withEnd side new).header packet = flow.header packet := by
  rw [header, (withEnd_lengths flow side new).1, header]

theorem segment_withEnd (flow : Flow) (side : Side) (new : Endpoint) (packet : Bytes) :
    (flow.withEnd side new).segment packet = flow.segment packet := by
  obtain ⟨headerLength, totalLength, -⟩ := withEnd_lengths flow side new
  rw [segment, headerLength, totalLength, segment]

theorem checksumOffset_withEnd (flow : Flow) (side : Side) (new : Endpoint) :
    (flow.withEnd side new).checksumOffset = flow.checksumOffset := by
  obtain ⟨headerLength, -, protocol⟩ := withEnd_lengths flow side new
  rw [checksumOffset, headerLength, protocol, checksumOffset]

theorem surround_withEnd (flow : Flow) (side : Side) (new : Endpoint) :
    (flow.withEnd side new).surround + addressSum (flow.endpoint side).address =
      flow.surround + addressSum new.address := by
  obtain ⟨headerLength, totalLength, protocol⟩ := withEnd_lengths flow side new
  have source : (flow.withEnd side new).source.address = _ :=
    congrArg Endpoint.address (withEnd_endpoint flow side new .source)
  have destination : (flow.withEnd side new).destination.address = _ :=
    congrArg Endpoint.address (withEnd_endpoint flow side new .destination)
  rw [surround, surround, headerLength, totalLength, protocol, source, destination]
  cases side <;> simp [endpoint] <;> omega

/-- The header keeps its residue. -/
theorem header_residue (parsed : parse? packet = some flow) (side : Side) (new : Endpoint) :
    total (flow.header (flow.readdress packet side new)) % 65535 =
      total (flow.header packet) % 65535 := by
  have sum := total_header_readdress parsed side new
  have repaired := Checksum.updateDouble_residue (headerField packet)
    (flow.endpoint side).address.bits new.address.bits
  rw [← headerField_readdress parsed side new] at repaired
  unfold addressSum at sum
  omega

theorem repair_residue (ported : flow.protocol ≠ .echo) (side : Side) (new : Endpoint)
    (stored : UInt16) (summed : flow.protocol = .udp → stored.toNat ≠ 0) :
    ((flow.repair side new stored).toNat + (addressSum new.address + new.port.toNat)) % 65535 =
      (stored.toNat + (addressSum (flow.endpoint side).address +
        (flow.endpoint side).port.toNat)) % 65535 := by
  have addressed := Checksum.updateDouble_residue stored (flow.endpoint side).address.bits
    new.address.bits
  have repaired := Checksum.update_residue (Checksum.updateDouble stored
    (flow.endpoint side).address.bits new.address.bits) (flow.endpoint side).port new.port
  unfold repair addressSum
  cases protocol : flow.protocol with
  | tcp =>
    simp only
    omega
  | udp =>
    have nonzero : stored ≠ 0 := fun zero => summed protocol (congrArg UInt16.toNat zero)
    simp only [if_neg nonzero]
    split
    · rename_i zero
      rw [zero] at repaired
      have ones : (0xFFFF : UInt16).toNat = 65535 := rfl
      rw [UInt16.toNat_zero] at repaired
      omega
    · omega
  | echo => exact absurd protocol ported

theorem segment_residue (parsed : parse? packet = some flow) (ported : flow.protocol ≠ .echo)
    (side : Side) (new : Endpoint)
    (summed : flow.protocol = .udp → (flow.segmentField packet).toNat ≠ 0) :
    ((flow.withEnd side new).surround +
        total (flow.segment (flow.readdress packet side new))) % 65535 =
      (flow.surround + total (flow.segment packet)) % 65535 := by
  have sum := total_segment_readdress parsed side new
  have around := surround_withEnd flow side new
  have repaired := repair_residue ported side new (flow.segmentField packet) summed
  rw [← segmentField_readdress parsed side new] at repaired
  omega

/-- A packet that is readdressed on its way is neither mended nor broken by it. -/
theorem readdress_verifies (parsed : parse? packet = some flow)
    (summed : flow.protocol = .tcp ∨ flow.protocol = .udp ∧ flow.segmentField packet ≠ 0)
    (side : Side) (new : Endpoint) :
    ∃ flow', flow' = flow.withEnd side new ∧ parse? (flow.readdress packet side new) = some flow' ∧
      (flow'.HeaderVerifies (flow.readdress packet side new) ↔ flow.HeaderVerifies packet) ∧
      (flow'.SegmentVerifies (flow.readdress packet side new) ↔ flow.SegmentVerifies packet) := by
  have parsed' := parse?_readdress parsed side new
  have reads := parse?_eq_some_iff.1 parsed
  have reads' := parse?_eq_some_iff.1 parsed'
  have ported : flow.protocol ≠ .echo := by
    rcases summed with tcp | ⟨udp, -⟩ <;> simp [*]
  have nonzero : flow.protocol = .udp → (flow.segmentField packet).toNat ≠ 0 := by
    rcases summed with tcp | ⟨-, some⟩
    · simp [tcp]
    · exact fun _ zero => some (UInt16.toNat_inj.1 zero)
  refine ⟨_, rfl, parsed', ?_, ?_⟩
  · rw [headerVerifies_iff reads', headerVerifies_iff reads, header_withEnd,
      header_residue parsed side new]
  · rw [segmentVerifies_iff reads', segmentVerifies_iff reads, segment_withEnd,
      segment_residue parsed ported side new nonzero]

/-- A segment whose checksum has been lost. -/
def damaged : Bytes :=
  [0x45, 0, 0, 40, 0, 1, 0, 0, 64, 6, 0x3A, 0xF4, 10, 0, 0, 1, 93, 184, 216, 34,
    0x30, 0x39, 1, 187, 0, 0, 0, 1, 0, 0, 0, 0, 0x50, 2, 255, 255, 0, 0, 0, 0]

def damagedFlow : Flow where
  headerLength := 20
  totalLength := 40
  protocol := .tcp
  source := ⟨.ofOctets 10 0 0 1, 12345⟩
  destination := ⟨.ofOctets 93 184 216 34, 443⟩

theorem damaged_verifies :
    parse? damaged = some damagedFlow ∧ damagedFlow.HeaderVerifies damaged ∧
      ¬damagedFlow.SegmentVerifies damaged ∧ ∃ flow',
        flow'.source = ⟨.ofOctets 10 255 255 255, 1024⟩ ∧
        flow'.destination = damagedFlow.destination ∧
        parse? (damagedFlow.readdress damaged .source ⟨.ofOctets 10 255 255 255, 1024⟩) =
          some flow' ∧
        flow'.HeaderVerifies
          (damagedFlow.readdress damaged .source ⟨.ofOctets 10 255 255 255, 1024⟩) ∧
        ¬flow'.SegmentVerifies
          (damagedFlow.readdress damaged .source ⟨.ofOctets 10 255 255 255, 1024⟩) := by
  have parsed : parse? damaged = some damagedFlow := by decide +kernel
  have header : damagedFlow.HeaderVerifies damaged := by decide +kernel
  have segment : ¬damagedFlow.SegmentVerifies damaged := by decide +kernel
  obtain ⟨flow', rfl, parsed', header_iff, segment_iff⟩ :=
    readdress_verifies parsed (.inl rfl) .source ⟨.ofOctets 10 255 255 255, 1024⟩
  exact ⟨parsed, header, segment, _, by decide, by decide, parsed', header_iff.2 header,
    mt segment_iff.1 segment⟩

theorem header_sealed (parsed : parse? packet = some flow) (side : Side) (new : Endpoint)
    (before : flow.HeaderSealed packet) :
    (flow.withEnd side new).HeaderSealed (flow.readdress packet side new) := by
  have reads := parse?_eq_some_iff.1 parsed
  have reads' := parse?_eq_some_iff.1 (parse?_readdress parsed side new)
  obtain ⟨residue, other⟩ := (headerSealed_iff reads).1 before
  rw [headerSealed_iff reads', header_withEnd, header_residue parsed side new,
    headerField_readdress parsed side new]
  exact ⟨residue, Checksum.updateDouble_ne_ones other⟩

theorem repair_eq_zero_iff (udp : flow.protocol = .udp) (side : Side) (new : Endpoint)
    (stored : UInt16) : flow.repair side new stored = 0 ↔ stored = 0 := by
  unfold repair
  simp only [udp]
  by_cases zero : stored = 0
  · simp [zero]
  · rw [if_neg zero]
    split <;> simp [*]

theorem segmentField_withEnd (parsed : parse? packet = some flow) (side : Side) (new : Endpoint) :
    (flow.withEnd side new).segmentField (flow.readdress packet side new) =
      flow.repair side new (flow.segmentField packet) := by
  rw [segmentField, checksumOffset_withEnd]
  exact segmentField_readdress parsed side new

theorem segment_sealed (parsed : parse? packet = some flow) (ported : flow.protocol ≠ .echo)
    (side : Side) (new : Endpoint) (before : flow.SegmentSealed packet) :
    (flow.withEnd side new).SegmentSealed (flow.readdress packet side new) := by
  have reads := parse?_eq_some_iff.1 parsed
  have reads' := parse?_eq_some_iff.1 (parse?_readdress parsed side new)
  have protocol' := (withEnd_lengths flow side new).2.2
  have field := segmentField_withEnd parsed side new
  cases protocol : flow.protocol with
  | tcp =>
    obtain ⟨residue, other⟩ := (segmentSealed_iff_of_tcp reads protocol).1 before
    have kept := segment_residue parsed ported side new (by simp [protocol])
    rw [segmentSealed_iff_of_tcp reads' (protocol'.trans protocol), segment_withEnd, kept, field]
    refine ⟨residue, ?_⟩
    have addressed : (Checksum.updateDouble (flow.segmentField packet)
        (flow.endpoint side).address.bits new.address.bits).toNat ≠ 65535 :=
      Checksum.updateDouble_ne_ones other
    simp only [repair, protocol]
    exact fun ones => addressed (Checksum.update_eq_ones_iff.1 ones).1
  | udp =>
    rw [segmentSealed_iff_of_udp reads' (protocol'.trans protocol), segment_withEnd, field]
    by_cases zero : flow.segmentField packet = 0
    · right
      rw [(repair_eq_zero_iff protocol side new _).2 zero, UInt16.toNat_zero]
    · have nonzero : (flow.segmentField packet).toNat ≠ 0 := fun h => zero (UInt16.toNat_inj.1 h)
      left
      rw [segment_residue parsed ported side new fun _ => nonzero]
      exact ((segmentSealed_iff_of_udp reads protocol).1 before).resolve_right nonzero
  | echo => exact absurd protocol ported

/-- The checksums of a readdressed packet are those that would be computed from scratch, and a
datagram has one exactly if it had one. -/
theorem readdress_sealed (parsed : parse? packet = some flow) (ported : flow.protocol ≠ .echo)
    (side : Side) (new : Endpoint) :
    ∃ flow', flow' = flow.withEnd side new ∧ parse? (flow.readdress packet side new) = some flow' ∧
      (flow.HeaderSealed packet → flow'.HeaderSealed (flow.readdress packet side new)) ∧
      (flow.SegmentSealed packet → flow'.SegmentSealed (flow.readdress packet side new)) ∧
      (flow.protocol = .udp →
        (flow'.segmentField (flow.readdress packet side new) = 0 ↔
          flow.segmentField packet = 0)) := by
  refine ⟨_, rfl, parse?_readdress parsed side new, header_sealed parsed side new,
    segment_sealed parsed ported side new, fun udp => ?_⟩
  rw [segmentField_withEnd parsed side new, repair_eq_zero_iff udp]

/-- A datagram that asks a name server for something. -/
def query : Bytes :=
  [0x45, 0, 0, 32, 0, 1, 0, 0, 64, 17, 0x3A, 0xF1, 10, 0, 0, 1, 93, 184, 216, 34,
    0x30, 0x39, 0, 53, 0, 12, 0x8B, 0x0A, 1, 2, 3, 0x80]

def queryFlow : Flow where
  headerLength := 20
  totalLength := 32
  protocol := .udp
  source := ⟨.ofOctets 10 0 0 1, 12345⟩
  destination := ⟨.ofOctets 93 184 216 34, 53⟩

theorem query_sealed :
    parse? query = some queryFlow ∧ queryFlow.HeaderSealed query ∧
      queryFlow.SegmentSealed query ∧ ∃ flow',
        flow'.source = ⟨.ofOctets 10 255 255 255, 1024⟩ ∧
        flow'.destination = queryFlow.destination ∧
        parse? (queryFlow.readdress query .source ⟨.ofOctets 10 255 255 255, 1024⟩) =
          some flow' ∧
        flow'.HeaderSealed (queryFlow.readdress query .source ⟨.ofOctets 10 255 255 255, 1024⟩) ∧
        flow'.SegmentSealed
          (queryFlow.readdress query .source ⟨.ofOctets 10 255 255 255, 1024⟩) := by
  have parsed : parse? query = some queryFlow := by decide +kernel
  have header : queryFlow.HeaderSealed query := by decide +kernel
  have segment : queryFlow.SegmentSealed query := by decide +kernel
  obtain ⟨flow', rfl, parsed', header', segment', -⟩ :=
    readdress_sealed parsed (by decide) .source ⟨.ofOctets 10 255 255 255, 1024⟩
  exact ⟨parsed, header, segment, _, by decide, by decide, parsed', header' header,
    segment' segment⟩

/-! ### Echo messages -/

/-- An echo message that holds nothing but zeros besides its checksum. -/
def Silent (flow : Flow) (packet : Bytes) : Prop :=
  ∀ octet ∈ flow.segment (blank packet flow.checksumOffset), octet.toNat = 0

instance : Decidable (flow.Silent packet) := inferInstanceAs (Decidable (∀ _ ∈ _, _))

/-- A message with an identifier is not silent. -/
theorem port_le_total (reads : Reads packet.length (octetAt packet) flow) (side : Side) :
    (flow.endpoint side).port.toNat ≤
      total (flow.segment (blank packet flow.checksumOffset)) := by
  have bounds := reads.bounds
  have transport := reads.transport
  have offsets := transport_offsets flow side
  have even := offsets_even flow side
  have length : (blank packet flow.checksumOffset).length = packet.length :=
    length_writeWord (by omega)
  have port : wordAt (octetAt (blank packet flow.checksumOffset)) (flow.portOffset side) =
      wordAt (octetAt packet) (flow.portOffset side) :=
    wordAt_writeWord_apart (by omega) (portOffset_apart flow side)
  have rest : total (extent (blank (blank packet flow.checksumOffset) (flow.portOffset side))
        flow.headerLength flow.totalLength) +
      (wordAt (octetAt (blank packet flow.checksumOffset)) (flow.portOffset side)).toNat =
        total (flow.segment (blank packet flow.checksumOffset)) :=
    total_extent_blank (by omega) (by omega) (by omega) (by omega)
  rw [port, ← reads.port_endpoint side] at rest
  omega

theorem echo_residue (parsed : parse? packet = some flow) (echo : flow.protocol = .echo)
    (side : Side) (new : Endpoint) :
    total (flow.segment (flow.readdress packet side new)) % 65535 =
      total (flow.segment packet) % 65535 := by
  have sum := total_segment_readdress parsed side new
  have repaired := Checksum.update_residue (flow.segmentField packet) (flow.endpoint side).port
    new.port
  rw [segmentField_readdress parsed side new] at sum
  simp only [repair, echo] at sum
  omega

/-- Readdressing an echo message leaves the checksum that summing again would give, but for a
message that is silent afterwards: it is left with zero, and summing gives 0xFFFF. -/
theorem readdress_echo (parsed : parse? packet = some flow) (echo : flow.protocol = .echo)
    (side : Side) (new : Endpoint) :
    ∃ flow', flow' = flow.withEnd side new ∧ parse? (flow.readdress packet side new) = some flow' ∧
      (flow.HeaderSealed packet → flow'.HeaderSealed (flow.readdress packet side new)) ∧
      (flow.SegmentSealed packet →
        (flow'.SegmentSealed (flow.readdress packet side new) ↔
          ¬flow'.Silent (flow.readdress packet side new)) ∧
        (flow'.Silent (flow.readdress packet side new) →
          flow'.segmentField (flow.readdress packet side new) = 0 ∧
            flow'.segmentChecksum (flow.readdress packet side new) = 0xFFFF)) := by
  have parsed' := parse?_readdress parsed side new
  have reads := parse?_eq_some_iff.1 parsed
  have reads' := parse?_eq_some_iff.1 parsed'
  have echo' := (withEnd_lengths flow side new).2.2.trans echo
  refine ⟨_, rfl, parsed', header_sealed parsed side new, fun before => ?_⟩
  obtain ⟨residue, ones⟩ := (segmentSealed_iff_of_echo reads echo).1 before
  have residue' : total ((flow.withEnd side new).segment (flow.readdress packet side new)) %
      65535 = 0 := by
    rw [segment_withEnd, echo_residue parsed echo side new, residue]
  have identifier := port_le_total reads side
  have erased := total_segment_blank reads'
  have bound := ((flow.withEnd side new).segmentField (flow.readdress packet side new)).toNat_lt
  -- the old identifier would have to be 0xFFFF in a message of zeros
  have other : ((flow.withEnd side new).segmentField
      (flow.readdress packet side new)).toNat ≠ 65535 := by
    rw [segmentField_withEnd parsed side new]
    simp only [repair, echo]
    rw [ne_eq, Checksum.update_eq_ones_iff, ones]
    omega
  constructor
  · rw [segmentSealed_iff_of_echo reads' echo', Silent, ← Checksum.total_eq_zero_iff]
    omega
  · intro silent
    have nothing := Checksum.total_eq_zero_iff.2 silent
    constructor
    · apply UInt16.toNat_inj.1
      rw [UInt16.toNat_zero]
      omega
    · rw [segmentChecksum_eq_iff_of_echo reads' echo', nothing]
      decide

/-- A reply without data to the request with the number 0 that was sent under an identifier. -/
def reply : Bytes :=
  [0x45, 0, 0, 28, 0, 1, 0, 0, 64, 1, 0x3A, 0x07, 93, 184, 216, 34, 10, 255, 255, 255,
    0, 0, 0xFB, 0xFF, 4, 0, 0, 0]

def replyFlow : Flow where
  headerLength := 20
  totalLength := 28
  protocol := .echo
  source := ⟨.ofOctets 93 184 216 34, 1024⟩
  destination := ⟨.ofOctets 10 255 255 255, 1024⟩

/-- A client with the identifier 7 gets the checksum that it should get. -/
theorem reply_echo :
    parse? reply = some replyFlow ∧ replyFlow.HeaderSealed reply ∧
      replyFlow.SegmentSealed reply ∧ ∃ flow',
        parse? (replyFlow.readdress reply .destination ⟨.ofOctets 10 0 0 1, 7⟩) = some flow' ∧
        flow'.HeaderSealed (replyFlow.readdress reply .destination ⟨.ofOctets 10 0 0 1, 7⟩) ∧
        flow'.SegmentSealed
          (replyFlow.readdress reply .destination ⟨.ofOctets 10 0 0 1, 7⟩) := by
  have parsed : parse? reply = some replyFlow := by decide +kernel
  have header : replyFlow.HeaderSealed reply := by decide +kernel
  have segment : replyFlow.SegmentSealed reply := by decide +kernel
  obtain ⟨flow', rfl, parsed', header', segment'⟩ :=
    readdress_echo parsed rfl .destination ⟨.ofOctets 10 0 0 1, 7⟩
  have loud : ¬(replyFlow.withEnd .destination ⟨.ofOctets 10 0 0 1, 7⟩).Silent
      (replyFlow.readdress reply .destination ⟨.ofOctets 10 0 0 1, 7⟩) := by decide +kernel
  exact ⟨parsed, header, segment, _, parsed', header' header, (segment' segment).1.2 loud⟩

/-- A client with the identifier 0 gets a message of zeros, whose checksum should be 0xFFFF. -/
theorem reply_unsealed :
    parse? reply = some replyFlow ∧ replyFlow.HeaderSealed reply ∧
      replyFlow.SegmentSealed reply ∧ ∃ flow',
        parse? (replyFlow.readdress reply .destination ⟨.ofOctets 10 0 0 1, 0⟩) = some flow' ∧
        flow'.segmentField (replyFlow.readdress reply .destination ⟨.ofOctets 10 0 0 1, 0⟩) = 0 ∧
        flow'.segmentChecksum
          (replyFlow.readdress reply .destination ⟨.ofOctets 10 0 0 1, 0⟩) = 0xFFFF ∧
        ¬flow'.SegmentSealed
          (replyFlow.readdress reply .destination ⟨.ofOctets 10 0 0 1, 0⟩) := by
  have parsed : parse? reply = some replyFlow := by decide +kernel
  exact ⟨parsed, by decide +kernel, by decide +kernel, _, parse?_readdress parsed _ _,
    by decide +kernel, by decide +kernel, by decide +kernel⟩

end Flow

end Concentrator
