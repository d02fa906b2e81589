import Concentrator.Proofs.Masquerade.Readdress

/-!
# Access within a packet

Reading and readdressing a packet, with every access to an octet made explicit: an access
out of reach ends them at once. Reading never reaches beyond the length that the packet
states, but for the octets that state it, and readdressing writes four fields that lie
apart from one another inside that length and leaves the rest alone.
-/

namespace Concentrator.Flow

/-- What comes of accesses to octets: a value, or the first place that is out of reach. -/
abbrev Access := Except Nat

/-- The octet at a place inside the packet and its first `reach` octets. -/
def fetch (packet : Bytes) (reach i : Nat) : Access UInt8 :=
  if i < packet.length ∧ i < reach then .ok (octetAt packet i) else .error i

def fetchWord (packet : Bytes) (reach i : Nat) : Access UInt16 := do
  let high ← fetch packet reach i
  let low ← fetch packet reach (i + 1)
  return Bytes.word high low

def fetchAddress (packet : Bytes) (reach i : Nat) : Access Ipv4 := do
  let high ← fetchWord packet reach i
  let low ← fetchWord packet reach (i + 2)
  return ⟨Bytes.doubleWord high low⟩

def fetchPorts (packet : Bytes) (reach i : Nat) : Protocol → Access (Option (UInt16 × UInt16))
  | .echo => do
    let kind ← fetch packet reach i
    if kind = 8 ∨ kind = 0 then
      let identifier ← fetchWord packet reach (i + 4)
      return some (identifier, identifier)
    else return none
  | _ => do
    let source ← fetchWord packet reach i
    let destination ← fetchWord packet reach (i + 2)
    return some (source, destination)

/-- Reads the flow of a packet, octet by octet, and stops where the packet turns out to have
none. -/
def fetchFlow (packet : Bytes) (reach : Nat) : Access (Option Flow) := do
  if packet.length < minHeader then return none
  let first ← fetch packet reach 0
  if first.toNat / 16 ≠ 4 then return none
  let headerLength := first.toNat % 16 * 4
  if headerLength < minHeader then return none
  let total ← fetchWord packet reach 2
  if total.toNat < headerLength ∨ packet.length < total.toNat then return none
  let fragment ← fetchWord packet reach 6
  if fragment.toNat % 8192 ≠ 0 then return none
  let number ← fetch packet reach 9
  match Protocol.ofNumber? number with
  | none => return none
  | some protocol =>
    if total.toNat < headerLength + protocol.minLength then return none
    match ← fetchPorts packet reach headerLength protocol with
    | none => return none
    | some (sourcePort, destinationPort) =>
      let source ← fetchAddress packet reach 12
      let destination ← fetchAddress packet reach 16
      return some { headerLength, totalLength := total.toNat, protocol,
                    source := ⟨source, sourcePort⟩,
                    destination := ⟨destination, destinationPort⟩ }

variable {packet : Bytes} {flow : Flow} {reach i : Nat} {side : Side} {new : Endpoint}

theorem fetch_eq (inside : i < packet.length) (near : i < reach) :
    fetch packet reach i = pure (octetAt packet i) :=
  if_pos ⟨inside, near⟩

theorem fetchWord_eq (inside : i + 2 ≤ packet.length) (near : i + 2 ≤ reach) :
    fetchWord packet reach i = pure (wordAt (octetAt packet) i) := by
  rw [fetchWord, fetch_eq (by omega) (by omega), pure_bind, fetch_eq (by omega) (by omega)]
  rfl

theorem fetchAddress_eq (inside : i + 4 ≤ packet.length) (near : i + 4 ≤ reach) :
    fetchAddress packet reach i = pure (addressAt (octetAt packet) i) := by
  rw [fetchAddress, fetchWord_eq (by omega) (by omega), pure_bind,
    fetchWord_eq (by omega) (by omega)]
  rfl

theorem fetchPorts_eq (protocol : Protocol) (inside : i + protocol.minLength ≤ packet.length)
    (near : i + protocol.minLength ≤ reach) :
    fetchPorts packet reach i protocol = pure (portsAt? (octetAt packet) i protocol) := by
  cases protocol with
  | tcp | udp =>
    simp only [Protocol.minLength] at inside near
    unfold fetchPorts
    dsimp only
    rw [fetchWord_eq (by omega) (by omega), pure_bind, fetchWord_eq (by omega) (by omega),
      pure_bind, portsAt?]
  | echo =>
    simp only [Protocol.minLength] at inside near
    rw [fetchPorts, fetch_eq (by omega) (by omega), pure_bind]
    by_cases kind : octetAt packet i = 8 ∨ octetAt packet i = 0
    · rw [if_pos kind, fetchWord_eq (by omega) (by omega), portsAt?, if_pos kind]
      rfl
    · rw [if_neg kind, portsAt?, if_neg kind]

/-- The length that a packet says it has. -/
def statedLength (packet : Bytes) : Nat := (wordAt (octetAt packet) 2).toNat

theorem refused_eq (unread : ∀ flow, ¬ Reads packet.length (octetAt packet) flow) :
    (pure none : Access (Option Flow)) = .ok (parse? packet) := by
  have nothing : parse? packet = none := Option.eq_none_iff_forall_ne_some.2 fun flow parsed =>
    unread flow (parse?_eq_some_iff.1 parsed)
  rw [nothing]
  rfl

/-- One of the points where reading stops at a packet without a flow. -/
theorem stop_eq {stops : Prop} [Decidable stops] {rest : Access (Option Flow)}
    (unread : stops → ∀ flow, ¬ Reads packet.length (octetAt packet) flow)
    (goes : ¬ stops → rest = .ok (parse? packet)) :
    (if stops then pure none else rest) = .ok (parse? packet) := by
  by_cases stop : stops
  · rw [if_pos stop, refused_eq (unread stop)]
  · rw [if_neg stop, goes stop]

/-- Reading reaches no further than the length that the packet states, or than the octets that
state it. -/
theorem fetchFlow_eq (front : 4 ≤ reach) (stated : statedLength packet ≤ reach) :
    fetchFlow packet reach = .ok (parse? packet) := by
  unfold statedLength at stated
  unfold fetchFlow
  refine stop_eq (fun short _ reads => absurd reads.room (by omega)) fun long => ?_
  have room : 20 ≤ packet.length := Nat.not_lt.1 long
  rw [fetch_eq (by omega) (by omega), pure_bind]
  refine stop_eq (fun other _ reads => other reads.version) fun version => ?_
  refine stop_eq (fun short _ reads => ?_) fun header => ?_
  · have := reads.header
    rw [reads.headerLength] at this
    omega
  have header' : 20 ≤ (octetAt packet 0).toNat % 16 * 4 := Nat.not_lt.1 header
  rw [fetchWord_eq (by omega) (by omega), pure_bind]
  refine stop_eq (fun cut _ reads => ?_) fun whole => ?_
  · have := reads.whole
    rw [reads.headerLength, reads.totalLength] at this
    omega
  -- what is left to read lies inside the stated length
  rw [fetchWord_eq (by omega) (by omega), pure_bind]
  refine stop_eq (fun later _ reads => later reads.unfragmented) fun first => ?_
  rw [fetch_eq (by omega) (by omega), pure_bind]
  cases number : Protocol.ofNumber? (octetAt packet 9) with
  | none =>
    refine refused_eq fun _ reads => ?_
    rw [reads.protocol] at number
    cases number
  | some protocol =>
    have named : ∀ flow, Reads packet.length (octetAt packet) flow → flow.protocol = protocol :=
      fun _ reads => Option.some.inj (reads.protocol.symm.trans number)
    refine stop_eq (fun stub flow reads => ?_) fun transport => ?_
    · have := reads.transport
      rw [named flow reads, reads.headerLength, reads.totalLength] at this
      omega
    rw [fetchPorts_eq protocol (by omega) (by omega), pure_bind]
    cases ports : portsAt? (octetAt packet) ((octetAt packet 0).toNat % 16 * 4) protocol with
    | none =>
      refine refused_eq fun flow reads => ?_
      have read := reads.ports
      rw [named flow reads, reads.headerLength, ports] at read
      cases read
    | some pair =>
      obtain ⟨sourcePort, destinationPort⟩ := pair
      dsimp only
      rw [fetchAddress_eq (by omega) (by omega), pure_bind, fetchAddress_eq (by omega) (by omega),
        pure_bind]
      refine congrArg Except.ok (parse?_eq_some_iff.2 ?_).symm
      rw [not_or, Nat.not_lt, Nat.not_lt] at whole
      refine ⟨room, not_not.1 version, rfl, header', rfl, whole, not_not.1 first, number,
        Nat.not_lt.1 transport, ports, fun side => ?_⟩
      cases side <;> rfl

/-! ### Writing -/

/-- Writes a word inside the packet and its first `reach` octets. -/
def store (reach : Nat) (packet : Bytes) (patch : Nat × UInt16) : Access Bytes :=
  if patch.1 + 2 ≤ packet.length ∧ patch.1 + 2 ≤ reach then .ok (writeWord packet patch)
  else .error patch.1

/-- Readdressing from the two checksums that there are. -/
def storeEnd (flow : Flow) (packet : Bytes) (reach : Nat) (side : Side) (new : Endpoint) :
    Access Bytes := do
  let old := flow.endpoint side
  let header ← fetchWord packet reach 10
  let segment ← fetchWord packet reach flow.checksumOffset
  [(10, Checksum.updateDouble header old.address.bits new.address.bits),
    (side.addressOffset, Bytes.highHalf new.address.bits),
    (side.addressOffset + 2, Bytes.lowHalf new.address.bits),
    (flow.portOffset side, new.port),
    (flow.checksumOffset, flow.repair side new segment)].foldlM (store reach) packet

theorem storeWords_eq {patches : List (Nat × UInt16)}
    (inside : ∀ q ∈ patches, q.1 + 2 ≤ packet.length ∧ q.1 + 2 ≤ reach) :
    patches.foldlM (store reach) packet = pure (patches.foldl writeWord packet) := by
  induction patches generalizing packet with
  | nil => rfl
  | cons q rest ih =>
    have here := inside q List.mem_cons_self
    have length : (writeWord packet q).length = packet.length := length_writeWord here.1
    have stored : store reach packet q = pure (writeWord packet q) := if_pos here
    rw [List.foldlM_cons, stored, pure_bind, List.foldl_cons, ih]
    intro q' member
    rw [length]
    exact inside q' (List.mem_cons_of_mem _ member)

/-- The fields that readdressing writes, each with its length. -/
def fields (flow : Flow) (side : Side) : List (Nat × Nat) :=
  [(10, 2), (side.addressOffset, 4), (flow.portOffset side, 2), (flow.checksumOffset, 2)]

theorem fields_apart (header : minHeader ≤ flow.headerLength) (side : Side) :
    (flow.fields side).Pairwise fun f g => f.1 + f.2 ≤ g.1 ∨ g.1 + g.2 ≤ f.1 := by
  have offsets := transport_offsets flow side
  have ports := portOffset_apart flow side
  have address := addressOffset_bounds side
  unfold minHeader at header
  unfold Apart at ports
  simp only [fields, List.pairwise_cons, List.mem_cons, List.not_mem_nil, or_false,
    forall_eq_or_imp, forall_eq, List.Pairwise.nil, false_implies, implies_true, and_true]
  omega

/-- What lies behind the stated length does not matter. -/
theorem Reads.trim {size : Nat} {byte : Nat → UInt8} (reads : Reads size byte flow) :
    Reads flow.totalLength byte flow :=
  { reads with
    room := Nat.le_trans reads.header reads.whole.1
    whole := ⟨reads.whole.1, Nat.le_refl _⟩ }

theorem storeEnd_eq (parsed : parse? packet = some flow) (side : Side) (new : Endpoint) :
    flow.storeEnd packet flow.totalLength side new = .ok (flow.readdress packet side new) := by
  have reads := parse?_eq_some_iff.1 parsed
  have header := reads.header
  have whole := reads.whole
  have transport := reads.transport
  have offsets := transport_offsets flow side
  unfold minHeader at header
  have inside : ∀ q ∈ flow.patches (octetAt packet) side new,
      q.1 + 2 ≤ packet.length ∧ q.1 + 2 ≤ flow.totalLength :=
    fun q member => ⟨patches_inside reads _ q member, patches_inside reads.trim _ q member⟩
  rw [storeEnd, fetchWord_eq (by omega) (by omega), pure_bind, fetchWord_eq (by omega) (by omega),
    pure_bind]
  exact storeWords_eq inside

theorem octetAt_readdress_elsewhere (parsed : parse? packet = some flow)
    (elsewhere : ∀ f ∈ flow.fields side, i < f.1 ∨ f.1 + f.2 ≤ i) :
    octetAt (flow.readdress packet side new) i = octetAt packet i := by
  simp only [fields, List.mem_cons, List.not_mem_nil, or_false, forall_eq_or_imp,
    forall_eq] at elsewhere
  refine octetAt_readdress parsed fun q member => ?_
  have place := offset_of_mem_patches member
  omega

/-- What readdressing a side of a packet reaches and what it leaves. -/
structure Confined (flow : Flow) (packet : Bytes) (side : Side) (new : Endpoint) : Prop where
  near : flow.storeEnd packet flow.totalLength side new = .ok (flow.readdress packet side new)
  length : (flow.readdress packet side new).length = packet.length
  apart : (flow.fields side).Pairwise fun f g => f.1 + f.2 ≤ g.1 ∨ g.1 + g.2 ≤ f.1
  elsewhere : ∀ i, (∀ f ∈ flow.fields side, i < f.1 ∨ f.1 + f.2 ≤ i) →
    octetAt (flow.readdress packet side new) i = octetAt packet i
  parsed : parse? (flow.readdress packet side new) = some (flow.withEnd side new)

/-- No access to a packet leaves its stated length, but for the four octets in front of a packet
that states less. A packet that has a flow keeps all but the fields of its new end. -/
theorem readdress_confined (packet : Bytes) :
    fetchFlow packet (max 4 (statedLength packet)) = .ok (parse? packet) ∧
      ∀ flow, parse? packet = some flow →
        flow.totalLength = statedLength packet ∧ flow.totalLength ≤ packet.length ∧
        fetchFlow packet flow.totalLength = .ok (some flow) ∧
        ∀ side new, flow.Confined packet side new := by
  refine ⟨fetchFlow_eq (Nat.le_max_left ..) (Nat.le_max_right ..), fun flow parsed => ?_⟩
  have reads := parse?_eq_some_iff.1 parsed
  have header : 20 ≤ flow.headerLength := reads.header
  have whole := reads.whole
  refine ⟨reads.totalLength, whole.2, ?_, fun side new => ?_⟩
  · rw [fetchFlow_eq (by omega) (Nat.le_of_eq reads.totalLength.symm), parsed]
  · exact {
      near := storeEnd_eq parsed side new
      length := length_readdress parsed side new
      apart := fields_apart reads.header side
      elsewhere := fun _ elsewhere => octetAt_readdress_elsewhere parsed elsewhere
      parsed := parse?_readdress parsed side new }

/-- An echo request with options in its header and two octets behind its stated length. -/
def padded : Bytes :=
  [0x46, 0, 0, 32, 0, 1, 0, 0, 64, 1, 0, 0, 10, 0, 0, 1, 93, 184, 216, 34, 1, 1, 1, 0,
    8, 0, 0, 0, 0, 7, 0, 1, 0xFF, 0xFF]

def paddedFlow : Flow where
  headerLength := 24
  totalLength := 32
  protocol := .echo
  source := ⟨.ofOctets 10 0 0 1, 7⟩
  destination := ⟨.ofOctets 93 184 216 34, 7⟩

theorem padded_confined :
    parse? padded = some paddedFlow ∧ fetchFlow padded 32 = .ok (some paddedFlow) ∧
      paddedFlow.Confined padded .destination ⟨.ofOctets 10 0 0 9, 1024⟩ := by
  have parsed : parse? padded = some paddedFlow := by decide +kernel
  obtain ⟨-, -, fetched, confined⟩ := (readdress_confined padded).2 paddedFlow parsed
  exact ⟨parsed, fetched, confined .destination ⟨.ofOctets 10 0 0 9, 1024⟩⟩

/-- A datagram that states no length at all. -/
def unsized : Bytes :=
  [0x45, 0, 0, 0, 0, 1, 0, 0, 64, 17, 0x3B, 0x11, 10, 0, 0, 1, 93, 184, 216, 34,
    0x9C, 0x40, 0, 53, 0, 8, 0, 0]

/-- That a packet states too little is not seen without reading beyond what it states. -/
theorem unsized_overread :
    statedLength unsized = 0 ∧ fetchFlow unsized (statedLength unsized) = .error 0 ∧
      fetchFlow unsized 3 = .error 3 ∧ fetchFlow unsized 4 = .ok none :=
  ⟨by decide, rfl, rfl, rfl⟩

end Concentrator.Flow
