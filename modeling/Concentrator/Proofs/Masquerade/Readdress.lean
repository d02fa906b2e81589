import Concentrator.Masquerade.Flow
import Mathlib.Data.Option.Basic

/-!
# Reading and rewriting flows

`Reads` says octet by octet what it means for a packet to have a flow.
Readdressing writes five words that lie apart from one another inside the
packet, so that the packet then has the flow with its new end.
-/

namespace Concentrator

namespace Bytes

theorem word_halves (w : UInt16) :
    word (UInt8.ofNat (w.toNat / 256)) (UInt8.ofNat w.toNat) = w := by
  apply UInt16.toNat_inj.1
  have bound := w.toNat_lt
  simp only [word, UInt16.toNat_ofNat', UInt8.toNat_ofNat']
  omega

theorem doubleWord_halves (w : UInt32) : doubleWord (highHalf w) (lowHalf w) = w := by
  apply UInt32.toNat_inj.1
  have bound := w.toNat_lt
  simp only [doubleWord, highHalf, lowHalf, UInt32.toNat_ofNat', UInt16.toNat_ofNat']
  omega

variable {bytes patch : Bytes} {offset i : Nat}

theorem length_splice (inside : offset + patch.length ≤ bytes.length) :
    (splice bytes offset patch).length = bytes.length := by
  simp only [splice, List.length_append, List.length_take, List.length_drop]
  omega

theorem getD_splice_outside (inside : offset + patch.length ≤ bytes.length)
    (outside : i < offset ∨ offset + patch.length ≤ i) :
    (splice bytes offset patch).getD i 0 = bytes.getD i 0 := by
  have front : (bytes.take offset).length = offset := List.length_take_of_le (by omega)
  simp only [splice, List.getD_eq_getElem?_getD]
  rcases outside with before | after
  · rw [List.append_assoc, List.getElem?_append_left (by omega), List.getElem?_take_of_lt before]
  · rw [List.getElem?_append_right (by simp only [List.length_append]; omega),
      List.getElem?_drop]
    congr 2
    simp only [List.length_append]
    omega

theorem getD_splice_inside (inside : offset + patch.length ≤ bytes.length) (i : Nat)
    (within : i < patch.length) :
    (splice bytes offset patch).getD (offset + i) 0 = patch.getD i 0 := by
  have front : (bytes.take offset).length = offset := List.length_take_of_le (by omega)
  simp only [splice, List.getD_eq_getElem?_getD]
  rw [List.append_assoc, List.getElem?_append_right (by omega),
    List.getElem?_append_left (by omega)]
  congr 2
  omega

end Bytes

namespace Flow

/-! ### Words in place -/

variable {packet : Bytes} {patches : List (Nat × UInt16)} {i o : Nat} {w : UInt16}

/-- Two words have no octet in common. -/
def Apart (i j : Nat) : Prop := i + 2 ≤ j ∨ j + 2 ≤ i

theorem length_writeWord (inside : o + 2 ≤ packet.length) :
    (writeWord packet (o, w)).length = packet.length :=
  Bytes.length_splice inside

theorem octetAt_writeWord (inside : o + 2 ≤ packet.length) (apart : i < o ∨ o + 2 ≤ i) :
    octetAt (writeWord packet (o, w)) i = octetAt packet i :=
  Bytes.getD_splice_outside inside apart

theorem wordAt_writeWord_self (inside : o + 2 ≤ packet.length) :
    wordAt (octetAt (writeWord packet (o, w))) o = w := by
  have high : octetAt (writeWord packet (o, w)) (o + 0) = _ :=
    Bytes.getD_splice_inside inside 0 (by simp [Bytes.ofWord])
  have low : octetAt (writeWord packet (o, w)) (o + 1) = _ :=
    Bytes.getD_splice_inside inside 1 (by simp [Bytes.ofWord])
  rw [Nat.add_zero] at high
  rw [wordAt, high, low]
  exact Bytes.word_halves w

theorem length_writeWords (inside : ∀ q ∈ patches, q.1 + 2 ≤ packet.length) :
    (patches.foldl writeWord packet).length = packet.length := by
  induction patches generalizing packet with
  | nil => rfl
  | cons q rest ih =>
    have here := length_writeWord (w := q.2) (inside q List.mem_cons_self)
    rw [List.foldl_cons, ih, here]
    intro q' member
    rw [here]
    exact inside q' (List.mem_cons_of_mem _ member)

theorem octetAt_writeWords (inside : ∀ q ∈ patches, q.1 + 2 ≤ packet.length)
    (apart : ∀ q ∈ patches, i < q.1 ∨ q.1 + 2 ≤ i) :
    octetAt (patches.foldl writeWord packet) i = octetAt packet i := by
  induction patches generalizing packet with
  | nil => rfl
  | cons q rest ih =>
    have here := length_writeWord (w := q.2) (inside q List.mem_cons_self)
    rw [List.foldl_cons, ih, octetAt_writeWord (inside q List.mem_cons_self)
      (apart q List.mem_cons_self)]
    · intro q' member
      rw [here]
      exact inside q' (List.mem_cons_of_mem _ member)
    · exact fun q' member => apart q' (List.mem_cons_of_mem _ member)

theorem wordAt_writeWords (inside : ∀ q ∈ patches, q.1 + 2 ≤ packet.length)
    (apart : ∀ q ∈ patches, Apart i q.1) :
    wordAt (octetAt (patches.foldl writeWord packet)) i = wordAt (octetAt packet) i := by
  unfold Apart at apart
  rw [wordAt, octetAt_writeWords inside, octetAt_writeWords inside, wordAt]
  · intro q member
    have := apart q member
    omega
  · intro q member
    have := apart q member
    omega

/-- Words that lie apart from one another all stay as they are written. -/
theorem wordAt_writeWords_of_mem (inside : ∀ q ∈ patches, q.1 + 2 ≤ packet.length)
    (apart : patches.Pairwise fun q q' => Apart q.1 q'.1) (member : (o, w) ∈ patches) :
    wordAt (octetAt (patches.foldl writeWord packet)) o = w := by
  induction patches generalizing packet with
  | nil => cases member
  | cons q rest ih =>
    have here := length_writeWord (w := q.2) (inside q List.mem_cons_self)
    obtain ⟨first, others⟩ := List.pairwise_cons.1 apart
    have insideRest : ∀ q' ∈ rest, q'.1 + 2 ≤ (writeWord packet q).length := by
      intro q' member
      rw [here]
      exact inside q' (List.mem_cons_of_mem _ member)
    rw [List.foldl_cons]
    rcases List.mem_cons.1 member with rfl | later
    · rw [wordAt_writeWords insideRest first]
      exact wordAt_writeWord_self (inside _ List.mem_cons_self)
    · exact ih insideRest others later

/-! ### Reading -/

/-- What a packet of `size` octets shows of a flow. -/
structure Reads (size : Nat) (byte : Nat → UInt8) (flow : Flow) : Prop where
  room : minHeader ≤ size
  version : (byte 0).toNat / 16 = 4
  headerLength : flow.headerLength = (byte 0).toNat % 16 * 4
  header : minHeader ≤ flow.headerLength
  totalLength : flow.totalLength = (wordAt byte 2).toNat
  whole : flow.headerLength ≤ flow.totalLength ∧ flow.totalLength ≤ size
  unfragmented : (wordAt byte 6).toNat % 8192 = 0
  protocol : Protocol.ofNumber? (byte 9) = some flow.protocol
  transport : flow.headerLength + flow.protocol.minLength ≤ flow.totalLength
  ports : portsAt? byte flow.headerLength flow.protocol =
    some (flow.source.port, flow.destination.port)
  addresses : ∀ side, (flow.endpoint side).address = addressAt byte side.addressOffset

theorem read?_eq_some_iff {size : Nat} {byte : Nat → UInt8} {flow : Flow} :
    read? size byte = some flow ↔ Reads size byte flow := by
  constructor
  · intro read
    simp only [read?, Option.bind_eq_bind, Option.bind_eq_some_iff, Option.guard_eq_some',
      Option.pure_def, Option.some.injEq] at read
    obtain ⟨-, ⟨room, version⟩, -, header, -, whole, -, unfragmented, protocol, number, -,
      transport, ⟨sourcePort, destinationPort⟩, ports, rfl⟩ := read
    refine ⟨room, version, rfl, header, rfl, whole, unfragmented, number, transport, ports, ?_⟩
    intro side
    cases side <;> rfl
  · intro reads
    obtain ⟨headerLength, totalLength, protocol, ⟨source, sourcePort⟩,
      ⟨destination, destinationPort⟩⟩ := flow
    obtain ⟨room, version, rfl, header, rfl, whole, unfragmented, number, transport, ports,
      addresses⟩ := reads
    obtain rfl : source = addressAt byte 12 := addresses .source
    obtain rfl : destination = addressAt byte 16 := addresses .destination
    simp only [read?, Option.bind_eq_bind, Option.bind_eq_some_iff, Option.guard_eq_some',
      Option.pure_def, Option.some.injEq]
    exact ⟨(), ⟨room, version⟩, (), header, (), whole, (), unfragmented, protocol, number, (),
      transport, (sourcePort, destinationPort), ports, rfl⟩

theorem parse?_eq_some_iff {flow : Flow} :
    parse? packet = some flow ↔ Reads packet.length (octetAt packet) flow :=
  read?_eq_some_iff

/-- The payload and the flow of a packet agree on who sent it. -/
theorem source?_of_parse? {flow : Flow} (parsed : parse? packet = some flow) :
    Payload.source? packet = some flow.source.address := by
  have reads := parse?_eq_some_iff.1 parsed
  have ipv4 : Payload.looksLikeIpv4 packet = true := by
    simpa [Payload.looksLikeIpv4] using ⟨reads.room, reads.version⟩
  rw [Payload.source?, if_pos ipv4]
  exact congrArg some (reads.addresses .source).symm

/-! ### Rewriting -/

/-- The flow with another end on one side. An echo message has one identifier for both sides. -/
def withEnd (flow : Flow) (side : Side) (new : Endpoint) : Flow :=
  let moved := match side with
    | .source => { flow with source := new }
    | .destination => { flow with destination := new }
  match flow.protocol with
  | .echo =>
    { moved with
      source := { moved.source with port := new.port }
      destination := { moved.destination with port := new.port } }
  | _ => moved

variable {flow : Flow} {side seen : Side} {new : Endpoint}

/-- The ports and the checksum of a transport header do not reach beyond the part of it that
masquerading needs. -/
theorem transport_offsets (flow : Flow) (side : Side) :
    flow.headerLength ≤ flow.portOffset side ∧
    flow.portOffset side + 2 ≤ flow.headerLength + flow.protocol.minLength ∧
    flow.headerLength ≤ flow.checksumOffset ∧
    flow.checksumOffset + 2 ≤ flow.headerLength + flow.protocol.minLength := by
  cases protocol : flow.protocol <;> cases side <;>
    simp [portOffset, checksumOffset, protocol, Protocol.checksumOffset, Protocol.minLength]

theorem portOffset_apart (flow : Flow) (side : Side) :
    Apart (flow.portOffset side) flow.checksumOffset := by
  unfold Apart
  cases protocol : flow.protocol <;> cases side <;>
    simp [portOffset, checksumOffset, protocol, Protocol.checksumOffset]

/-- An echo message keeps one identifier where other packets have two ports. -/
theorem portOffset_cases (flow : Flow) (seen side : Side) :
    (seen = side ∨ flow.protocol = .echo) ∧ flow.portOffset seen = flow.portOffset side ∨
      ¬ (seen = side ∨ flow.protocol = .echo) ∧
        Apart (flow.portOffset seen) (flow.portOffset side) := by
  unfold Apart
  cases seen <;> cases side <;> cases protocol : flow.protocol <;> simp [portOffset, protocol]

theorem addressOffset_bounds (side : Side) :
    12 ≤ side.addressOffset ∧ side.addressOffset + 4 ≤ 20 := by
  cases side <;> decide

/-- The five places that are written. -/
theorem offset_of_mem_patches {byte : Nat → UInt8} {q : Nat × UInt16}
    (member : q ∈ flow.patches byte side new) :
    q.1 = 10 ∨ q.1 = side.addressOffset ∨ q.1 = side.addressOffset + 2 ∨
      q.1 = flow.portOffset side ∨ q.1 = flow.checksumOffset := by
  simp only [patches, List.mem_cons, List.not_mem_nil, or_false] at member
  rcases member with rfl | rfl | rfl | rfl | rfl <;> simp

/-- The five words lie apart from one another. -/
theorem patches_apart (header : minHeader ≤ flow.headerLength) (byte : Nat → UInt8) :
    (flow.patches byte side new).Pairwise fun q q' => Apart q.1 q'.1 := by
  have offsets := transport_offsets flow side
  have ports := portOffset_apart flow side
  have address := addressOffset_bounds side
  unfold minHeader at header
  unfold Apart at ports
  simp only [patches, Apart, List.pairwise_cons, List.mem_cons, List.not_mem_nil, or_false,
    forall_eq_or_imp, forall_eq, List.Pairwise.nil, false_implies, implies_true, and_true]
  omega

theorem patches_inside {size : Nat} {byte : Nat → UInt8} (reads : Reads size byte flow)
    (byte' : Nat → UInt8) : ∀ q ∈ flow.patches byte' side new, q.1 + 2 ≤ size := by
  have header := reads.header
  have whole := reads.whole
  have transport := reads.transport
  have offsets := transport_offsets flow side
  have address := addressOffset_bounds side
  unfold minHeader at header
  intro q member
  have place := offset_of_mem_patches member
  omega

theorem withEnd_endpoint (flow : Flow) (side : Side) (new : Endpoint) (seen : Side) :
    (flow.withEnd side new).endpoint seen =
    ⟨if seen = side then new.address else (flow.endpoint seen).address,
      if seen = side ∨ flow.protocol = .echo then new.port else (flow.endpoint seen).port⟩ := by
  cases seen <;> cases side <;> cases protocol : flow.protocol <;>
    simp [withEnd, endpoint, protocol]

theorem portsAt?_eq_some_iff {byte : Nat → UInt8} {ports : UInt16 × UInt16} :
    portsAt? byte flow.headerLength flow.protocol = some ports ↔
      (flow.protocol = .echo → byte flow.headerLength = 8 ∨ byte flow.headerLength = 0) ∧
        wordAt byte (flow.portOffset .source) = ports.1 ∧
        wordAt byte (flow.portOffset .destination) = ports.2 := by
  obtain ⟨source, destination⟩ := ports
  cases protocol : flow.protocol <;> simp [portsAt?, portOffset, protocol]

theorem length_readdress (parsed : parse? packet = some flow) (side : Side) (new : Endpoint) :
    (flow.readdress packet side new).length = packet.length :=
  length_writeWords (patches_inside (parse?_eq_some_iff.1 parsed) _)

theorem octetAt_readdress (parsed : parse? packet = some flow)
    (apart : ∀ q ∈ flow.patches (octetAt packet) side new, i < q.1 ∨ q.1 + 2 ≤ i) :
    octetAt (flow.readdress packet side new) i = octetAt packet i :=
  octetAt_writeWords (patches_inside (parse?_eq_some_iff.1 parsed) _) apart

theorem wordAt_readdress (parsed : parse? packet = some flow)
    (apart : ∀ q ∈ flow.patches (octetAt packet) side new, Apart i q.1) :
    wordAt (octetAt (flow.readdress packet side new)) i = wordAt (octetAt packet) i :=
  wordAt_writeWords (patches_inside (parse?_eq_some_iff.1 parsed) _) apart

theorem wordAt_readdress_of_mem (parsed : parse? packet = some flow)
    (member : (o, w) ∈ flow.patches (octetAt packet) side new) :
    wordAt (octetAt (flow.readdress packet side new)) o = w :=
  have reads := parse?_eq_some_iff.1 parsed
  wordAt_writeWords_of_mem (patches_inside reads _) (patches_apart reads.header _) member

/-- The fields in front of the checksum of the header stay as they are. -/
theorem octetAt_readdress_front (parsed : parse? packet = some flow) (side : Side) (new : Endpoint)
    (i : Nat) (front : i < 10) :
    octetAt (flow.readdress packet side new) i = octetAt packet i := by
  have header := (parse?_eq_some_iff.1 parsed).header
  have offsets := transport_offsets flow side
  have address := addressOffset_bounds side
  unfold minHeader at header
  refine octetAt_readdress parsed fun q member => ?_
  have place := offset_of_mem_patches member
  omega

/-- So does the kind of an echo message. -/
theorem octetAt_readdress_kind (parsed : parse? packet = some flow) (side : Side) (new : Endpoint)
    (echo : flow.protocol = .echo) :
    octetAt (flow.readdress packet side new) flow.headerLength =
      octetAt packet flow.headerLength := by
  have header := (parse?_eq_some_iff.1 parsed).header
  have address := addressOffset_bounds side
  have port : flow.portOffset side = flow.headerLength + 4 := by simp [portOffset, echo]
  have checksum : flow.checksumOffset = flow.headerLength + 2 := by
    simp [checksumOffset, echo, Protocol.checksumOffset]
  unfold minHeader at header
  refine octetAt_readdress parsed fun q member => ?_
  have place := offset_of_mem_patches member
  omega

theorem addressAt_readdress (parsed : parse? packet = some flow) (side : Side) (new : Endpoint)
    (seen : Side) :
    addressAt (octetAt (flow.readdress packet side new)) seen.addressOffset =
      if seen = side then new.address else addressAt (octetAt packet) seen.addressOffset := by
  by_cases same : seen = side
  · subst same
    have member : ∀ patch ∈ [(seen.addressOffset, Bytes.highHalf new.address.bits),
        (seen.addressOffset + 2, Bytes.lowHalf new.address.bits)],
        patch ∈ flow.patches (octetAt packet) seen new := by simp [patches]
    have high := wordAt_readdress_of_mem parsed (member _ List.mem_cons_self)
    have low := wordAt_readdress_of_mem parsed
      (member _ (List.mem_cons_of_mem _ List.mem_cons_self))
    rw [if_pos rfl, addressAt, high, low, Bytes.doubleWord_halves]
  · have header := (parse?_eq_some_iff.1 parsed).header
    unfold minHeader at header
    have offsets := transport_offsets flow side
    have address := addressOffset_bounds seen
    have other : seen.addressOffset + 4 ≤ side.addressOffset ∨
        side.addressOffset + 4 ≤ seen.addressOffset := by
      cases seen <;> cases side <;> simp [Side.addressOffset] at same ⊢
    have apart : ∀ q ∈ flow.patches (octetAt packet) side new,
        Apart seen.addressOffset q.1 ∧ Apart (seen.addressOffset + 2) q.1 := by
      intro q member
      have place := offset_of_mem_patches member
      unfold Apart
      omega
    rw [if_neg same, addressAt, wordAt_readdress parsed fun q member => (apart q member).1,
      wordAt_readdress parsed fun q member => (apart q member).2, addressAt]

theorem portAt_readdress (parsed : parse? packet = some flow) (side : Side) (new : Endpoint)
    (seen : Side) :
    wordAt (octetAt (flow.readdress packet side new)) (flow.portOffset seen) =
      if seen = side ∨ flow.protocol = .echo then new.port
      else wordAt (octetAt packet) (flow.portOffset seen) := by
  rcases portOffset_cases flow seen side with ⟨shared, same⟩ | ⟨other, distinct⟩
  · have member : (flow.portOffset side, new.port) ∈ flow.patches (octetAt packet) side new := by
      simp [patches]
    rw [if_pos shared, same, wordAt_readdress_of_mem parsed member]
  · have header := (parse?_eq_some_iff.1 parsed).header
    have offsets := transport_offsets flow seen
    have ports := portOffset_apart flow seen
    have address := addressOffset_bounds side
    unfold minHeader at header
    rw [if_neg other]
    refine wordAt_readdress parsed fun q member => ?_
    have place := offset_of_mem_patches member
    unfold Apart at distinct ports ⊢
    omega

theorem withEnd_lengths (flow : Flow) (side : Side) (new : Endpoint) :
    (flow.withEnd side new).headerLength = flow.headerLength ∧
    (flow.withEnd side new).totalLength = flow.totalLength ∧
    (flow.withEnd side new).protocol = flow.protocol := by
  cases side <;> cases protocol : flow.protocol <;> simp [withEnd, protocol]

/-- A readdressed packet has the flow with the new end. -/
theorem parse?_readdress (parsed : parse? packet = some flow) (side : Side) (new : Endpoint) :
    parse? (flow.readdress packet side new) = some (flow.withEnd side new) := by
  have reads := parse?_eq_some_iff.1 parsed
  have front := octetAt_readdress_front parsed side new
  have word : ∀ i, i + 1 < 10 → wordAt (octetAt (flow.readdress packet side new)) i =
      wordAt (octetAt packet) i := by
    intro i below
    rw [wordAt, front i (by omega), front (i + 1) below, wordAt]
  obtain ⟨headerLength, totalLength, protocol⟩ := withEnd_lengths flow side new
  have address := addressAt_readdress parsed side new
  have port := portAt_readdress parsed side new
  have ends := withEnd_endpoint flow side new
  obtain ⟨echoes, sourcePort, destinationPort⟩ := portsAt?_eq_some_iff.1 reads.ports
  rw [parse?_eq_some_iff, length_readdress parsed]
  constructor
  · exact reads.room
  · rw [front 0 (by omega)]
    exact reads.version
  · rw [headerLength, front 0 (by omega)]
    exact reads.headerLength
  · rw [headerLength]
    exact reads.header
  · rw [totalLength, word 2 (by omega)]
    exact reads.totalLength
  · rw [headerLength, totalLength]
    exact reads.whole
  · rw [word 6 (by omega)]
    exact reads.unfragmented
  · rw [protocol, front 9 (by omega)]
    exact reads.protocol
  · rw [headerLength, totalLength, protocol]
    exact reads.transport
  · rw [headerLength, protocol, portsAt?_eq_some_iff, port, port, sourcePort, destinationPort]
    refine ⟨?_, ?_, ?_⟩
    · intro echo
      rw [octetAt_readdress_kind parsed side new echo]
      exact echoes echo
    · exact (congrArg Endpoint.port (ends .source)).symm
    · exact (congrArg Endpoint.port (ends .destination)).symm
  · intro seen
    rw [ends, address]
    exact if_congr Iff.rfl rfl (reads.addresses seen)

end Flow

end Concentrator
