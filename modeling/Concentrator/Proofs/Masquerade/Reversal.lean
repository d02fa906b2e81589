import Concentrator.Proofs.Masquerade.Integrity
import Mathlib.Data.List.GetD

/-!
# Readdressing there and back

A packet that is given a new end and then its old end again is the packet that it was,
octet for octet, even if its checksums were wrong. Repairing a checksum keeps a residue
modulo 65535 both ways, and neither way leads to the word of residue zero that the
checksum was not: 0xFFFF for sums that are complemented, 0x0000 for datagrams.
-/

namespace Concentrator

namespace Bytes

theorem word_inj {high low high' low' : UInt8} (same : word high low = word high' low') :
    high = high' ∧ low = low' := by
  have value := congrArg UInt16.toNat same
  rw [Checksum.toNat_word, Checksum.toNat_word] at value
  have bound := low.toNat_lt
  have bound' := low'.toNat_lt
  exact ⟨UInt8.toNat_inj.1 (by omega), UInt8.toNat_inj.1 (by omega)⟩

end Bytes

namespace Checksum

variable {checksum checksum' : UInt16}

/-- Only zero has two words of its residue. -/
theorem eq_of_residue (same : checksum'.toNat % 65535 = checksum.toNat % 65535)
    (one_zero : checksum'.toNat ≠ 65535 ∧ checksum.toNat ≠ 65535 ∨
      checksum'.toNat ≠ 0 ∧ checksum.toNat ≠ 0) : checksum' = checksum := by
  have bound := checksum.toNat_lt
  have bound' := checksum'.toNat_lt
  exact UInt16.toNat_inj.1 (by omega)

theorem updateDouble_back (old new : UInt32) (one_zero : checksum.toNat ≠ 65535) :
    updateDouble (updateDouble checksum old new) new old = checksum := by
  have there := updateDouble_residue checksum old new
  have back := updateDouble_residue (updateDouble checksum old new) new old
  refine eq_of_residue (by omega) (.inl ⟨?_, one_zero⟩)
  exact updateDouble_ne_ones (updateDouble_ne_ones one_zero)

end Checksum

namespace Flow

variable {packet : Bytes} {flow : Flow} {side : Side} {new : Endpoint}
  {patches back : List (Nat × UInt16)}

/-! ### Checksums -/

theorem endpoint_withEnd (flow : Flow) (side : Side) (new : Endpoint) :
    (flow.withEnd side new).endpoint side = new := by
  rw [withEnd_endpoint, if_pos rfl, if_pos (.inl rfl)]

/-- A checksum other than 0xFFFF does not become 0xFFFF, except in datagrams. -/
theorem repair_ne_ones (summed : flow.protocol ≠ .udp) (side : Side) (new : Endpoint)
    {stored : UInt16} (stored_ne : stored.toNat ≠ 65535) :
    (flow.repair side new stored).toNat ≠ 65535 := by
  unfold repair
  cases protocol : flow.protocol with
  | tcp =>
    exact fun ones => Checksum.updateDouble_ne_ones stored_ne (Checksum.update_eq_ones_iff.1 ones).1
  | udp => exact absurd protocol summed
  | echo => exact fun ones => stored_ne (Checksum.update_eq_ones_iff.1 ones).1

/-- What a repair adds to a checksum the repair for the old end takes away. -/
theorem repair_back_residue (flow : Flow) (side : Side) (new : Endpoint) {stored : UInt16}
    (summed : flow.protocol = .udp → stored ≠ 0) :
    ((flow.withEnd side new).repair side (flow.endpoint side)
      (flow.repair side new stored)).toNat % 65535 = stored.toNat % 65535 := by
  have protocol' := (withEnd_lengths flow side new).2.2
  have old := endpoint_withEnd flow side new
  by_cases echo : flow.protocol = .echo
  · have there := Checksum.update_residue stored (flow.endpoint side).port new.port
    have back := Checksum.update_residue
      (Checksum.update stored (flow.endpoint side).port new.port) new.port (flow.endpoint side).port
    simp only [repair, protocol', echo, old]
    omega
  · have nonzero : flow.protocol = .udp → (flow.repair side new stored).toNat ≠ 0 := by
      intro udp zero
      exact summed udp ((repair_eq_zero_iff udp side new stored).1 (UInt16.toNat_inj.1 zero))
    have there := repair_residue echo side new stored
      fun udp zero => summed udp (UInt16.toNat_inj.1 zero)
    have summed' : (flow.withEnd side new).protocol ≠ .echo := by rwa [protocol']
    have back := repair_residue summed' side (flow.endpoint side) (flow.repair side new stored)
      (by rwa [protocol'])
    rw [old] at back
    omega

theorem repair_back (flow : Flow) (side : Side) (new : Endpoint) {stored : UInt16}
    (one_zero : flow.protocol ≠ .udp → stored.toNat ≠ 65535) :
    (flow.withEnd side new).repair side (flow.endpoint side) (flow.repair side new stored) =
      stored := by
  have protocol' := (withEnd_lengths flow side new).2.2
  by_cases udp : flow.protocol = .udp
  · have zero_iff := repair_eq_zero_iff udp side new stored
    have zero_iff' := repair_eq_zero_iff (protocol'.trans udp) side (flow.endpoint side)
      (flow.repair side new stored)
    by_cases zero : stored = 0
    · rw [zero_iff'.2 (zero_iff.2 zero), zero]
    · refine Checksum.eq_of_residue (repair_back_residue flow side new fun _ => zero) (.inr ?_)
      exact ⟨fun none => zero (zero_iff.1 (zero_iff'.1 (UInt16.toNat_inj.1 none))),
        fun none => zero (UInt16.toNat_inj.1 none)⟩
  · have there := repair_ne_ones udp side new (one_zero udp)
    refine Checksum.eq_of_residue
      (repair_back_residue flow side new fun same => absurd same udp) (.inl ⟨?_, one_zero udp⟩)
    exact repair_ne_ones (by rwa [protocol']) side (flow.endpoint side) there

/-! ### Octets -/

theorem eq_of_octetAt {packet' : Bytes} (length : packet'.length = packet.length)
    (octets : ∀ i, octetAt packet' i = octetAt packet i) : packet' = packet := by
  refine List.ext_getElem length fun i inside inside' => ?_
  have octet := octets i
  rwa [octetAt, octetAt, List.getD_eq_getElem _ _ inside, List.getD_eq_getElem _ _ inside'] at octet

/-- Words that lie apart from one another are undone by the words that were in their places. -/
theorem writeWords_back (inside : ∀ q ∈ patches, q.1 + 2 ≤ packet.length)
    (apart : patches.Pairwise fun q q' => Apart q.1 q'.1)
    (places : back.map Prod.fst = patches.map Prod.fst)
    (words : ∀ q ∈ back, q.2 = wordAt (octetAt packet) q.1) :
    back.foldl writeWord (patches.foldl writeWord packet) = packet := by
  have length := length_writeWords inside
  have covered : ∀ q ∈ back, ∃ q' ∈ patches, q'.1 = q.1 := fun q member =>
    List.mem_map.1 (places ▸ List.mem_map_of_mem member)
  have inside' : ∀ q ∈ back, q.1 + 2 ≤ (patches.foldl writeWord packet).length := by
    intro q member
    obtain ⟨q', member', place⟩ := covered q member
    rw [length, ← place]
    exact inside q' member'
  have apart' : back.Pairwise fun q q' => Apart q.1 q'.1 := by
    rw [← List.pairwise_map (f := Prod.fst) (R := Apart)] at apart ⊢
    rwa [places]
  refine eq_of_octetAt ((length_writeWords inside').trans length) fun i => ?_
  by_cases written : ∃ q ∈ back, q.1 ≤ i ∧ i < q.1 + 2
  · obtain ⟨q, member, from_le, lt⟩ := written
    have word := wordAt_writeWords_of_mem inside' apart' (o := q.1) (w := q.2) member
    rw [words q member] at word
    obtain ⟨high, low⟩ := Bytes.word_inj word
    rcases Nat.eq_or_lt_of_le from_le with rfl | above
    · exact high
    · obtain rfl : i = q.1 + 1 := by omega
      exact low
  · have outside : ∀ q ∈ back, i < q.1 ∨ q.1 + 2 ≤ i := by
      intro q member
      have missed : ¬ (q.1 ≤ i ∧ i < q.1 + 2) := fun hit => written ⟨q, member, hit⟩
      omega
    rw [octetAt_writeWords inside' outside, octetAt_writeWords inside]
    intro q' member'
    obtain ⟨q, member, place⟩ := List.mem_map.1 (places ▸ List.mem_map_of_mem member')
    have := outside q member
    omega

/-! ### Packets -/

theorem portOffset_withEnd (flow : Flow) (side : Side) (new : Endpoint) :
    (flow.withEnd side new).portOffset side = flow.portOffset side := by
  obtain ⟨headerLength, -, protocol⟩ := withEnd_lengths flow side new
  unfold portOffset
  rw [headerLength, protocol]

/-- The words that give the old end back are those that have been there. -/
theorem words_back (parsed : parse? packet = some flow) (side : Side) (new : Endpoint)
    (header : (headerField packet).toNat ≠ 65535)
    (segment : flow.protocol ≠ .udp → (flow.segmentField packet).toNat ≠ 65535) :
    ∀ q ∈ (flow.withEnd side new).patches (octetAt (flow.readdress packet side new)) side
      (flow.endpoint side), q.2 = wordAt (octetAt packet) q.1 := by
  have reads := parse?_eq_some_iff.1 parsed
  have old := endpoint_withEnd flow side new
  have address := reads.addresses side
  have field := headerField_readdress parsed side new
  have field' := segmentField_readdress parsed side new
  intro q member
  simp only [patches, List.mem_cons, List.not_mem_nil, or_false] at member
  rcases member with rfl | rfl | rfl | rfl | rfl
  · rw [headerField] at field
    dsimp only
    rw [field, old, Checksum.updateDouble_back _ _ header, headerField]
  · dsimp only
    rw [address, addressAt, Bytes.highHalf_doubleWord]
  · dsimp only
    rw [address, addressAt, Bytes.lowHalf_doubleWord]
  · dsimp only
    rw [portOffset_withEnd, reads.port_endpoint side]
  · dsimp only
    rw [checksumOffset_withEnd]
    rw [segmentField] at field'
    rw [field', repair_back flow side new segment, segmentField]

/-- Giving a side of a packet a new end and then the old one restores the packet. Its checksums may
be wrong, but not 0xFFFF, which would come back as the other zero; in a datagram it may be. -/
theorem readdress_restores (parsed : parse? packet = some flow)
    (header : headerField packet ≠ 0xFFFF)
    (segment : flow.protocol = .tcp ∨ flow.protocol = .echo → flow.segmentField packet ≠ 0xFFFF)
    (side : Side) (new : Endpoint) :
    ∃ flow', parse? (flow.readdress packet side new) = some flow' ∧
      flow'.endpoint side = new ∧
      flow'.readdress (flow.readdress packet side new) side (flow.endpoint side) = packet := by
  have reads := parse?_eq_some_iff.1 parsed
  refine ⟨_, parse?_readdress parsed side new, endpoint_withEnd flow side new, ?_⟩
  refine writeWords_back (patches_inside reads _) (patches_apart reads.header _) ?_
    (words_back parsed side new ?_ ?_)
  · simp only [patches, List.map_cons, List.map_nil, portOffset_withEnd, checksumOffset_withEnd]
  · exact fun ones => header (UInt16.toNat_inj.1 ones)
  · intro other ones
    refine segment ?_ (UInt16.toNat_inj.1 ones)
    cases protocol : flow.protocol <;> simp [protocol] at other ⊢

/-- A datagram whose wrong checksum is the zero that datagrams are given for zero. -/
def misread : Bytes :=
  [0x45, 0, 0, 32, 0, 1, 0, 0, 64, 17, 0, 0, 10, 0, 0, 1, 93, 184, 216, 34,
    0x30, 0x39, 0, 53, 0, 12, 0xFF, 0xFF, 1, 2, 3, 0x80]

theorem misread_restores :
    parse? misread = some queryFlow ∧ headerField misread ≠ 0xFFFF ∧
      queryFlow.segmentField misread = 0xFFFF ∧ ∃ flow',
        parse? (queryFlow.readdress misread .source ⟨.ofOctets 10 255 255 255, 1024⟩) =
          some flow' ∧
        flow'.readdress (queryFlow.readdress misread .source ⟨.ofOctets 10 255 255 255, 1024⟩)
          .source queryFlow.source = misread := by
  have parsed : parse? misread = some queryFlow := by decide +kernel
  have header : headerField misread ≠ 0xFFFF := by decide +kernel
  have segment : queryFlow.segmentField misread = 0xFFFF := by decide +kernel
  obtain ⟨flow', parsed', -, restored⟩ := readdress_restores parsed header (by decide) .source
    ⟨.ofOctets 10 255 255 255, 1024⟩
  exact ⟨parsed, header, segment, flow', parsed', restored⟩

end Flow

end Concentrator
