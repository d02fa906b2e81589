import Concentrator.Proofs.Masquerade.Mappings
import Mathlib.Data.Fintype.EquivFin

/-!
# When the ports are used up

A packet is refused when none of the ports that one allocation offers is free. Whether these
are all ports is a matter of the 32-bit counter behind them. As long as it does not wrap on the
way, or if the number of ports divides 2 ^ 32, every port is offered. Otherwise some port is
offered twice and another one is left out.
-/

namespace Concentrator

namespace PortCursor

variable {c : PortCursor} {free : UInt16 → Bool} {n : Nat}

/-- The cursor after so many offers. -/
def skip (c : PortCursor) (n : Nat) : PortCursor := { c with next := c.next + .ofNat n }

theorem skip_zero (c : PortCursor) : c.skip 0 = c := by
  simp [skip]

theorem skip_add (c : PortCursor) (m n : Nat) : (c.skip m).skip n = c.skip (m + n) := by
  simp [skip, UInt32.ofNat_add, UInt32.add_assoc]

theorem advance_skip (c : PortCursor) (n : Nat) : c.advance.skip n = c.skip (n + 1) := by
  rw [Nat.add_comm]
  exact c.skip_add 1 n

theorem toNat_port_skip (c : PortCursor) (n : Nat) :
    (c.skip n).port.toNat =
      c.first.toNat + (c.next.toNat + n) % UInt32.size % c.size.toNat := by
  have size : (c.skip n).size = c.size := rfl
  have next : (c.skip n).next.toNat = (c.next.toNat + n) % UInt32.size := by
    rw [skip, UInt32.toNat_add, UInt32.toNat_ofNat']
    exact Nat.add_mod_mod _ _ _
  rw [toNat_port, size, UInt32.toNat_mod, next]
  rfl

/-- An attempt fails if no port that it offers is free. -/
theorem claim_eq_none_iff :
    (c.claim free n).2 = none ↔ ∀ i < n, free (c.skip i).port = false := by
  induction n generalizing c with
  | zero => simp [claim]
  | succ n ih =>
    unfold claim
    rw [Nat.forall_lt_succ_left, skip_zero]
    split
    · rename_i fits
      simp [fits]
    · rename_i taken
      simp [ih, advance_skip, taken]

theorem claim_failed (failed : (c.claim free n).2 = none) : (c.claim free n).1 = c.skip n := by
  induction n generalizing c with
  | zero => exact c.skip_zero.symm
  | succ n ih =>
    unfold claim at failed ⊢
    split at failed
    · cases failed
    · rename_i taken
      rw [if_neg taken, ih failed, advance_skip]

/-- One allocation offers every port of the interval. -/
def Covers (c : PortCursor) : Prop :=
  ∀ port, c.first ≤ port → port ≤ c.last → ∃ i < c.size.toNat, (c.skip i).port = port

/-- How far into the interval an offer of the allocation leads. -/
def offset (c : PortCursor) (i : Fin c.size.toNat) : Fin c.size.toNat :=
  ⟨(c.next.toNat + i) % UInt32.size % c.size.toNat, Nat.mod_lt _ (Nat.zero_lt_of_lt i.isLt)⟩

theorem covers_iff_surjective : c.Covers ↔ Function.Surjective c.offset := by
  have size := c.toNat_size
  have le := UInt16.le_iff_toNat_le.1 c.first_le_last
  have word := c.last.toNat_lt
  constructor
  · intro covers r
    have port : (UInt16.ofNat (c.first.toNat + r)).toNat = c.first.toNat + r :=
      UInt16.toNat_ofNat_of_lt' (by simp only [UInt16.size]; omega)
    obtain ⟨i, lt, same⟩ := covers (.ofNat (c.first.toNat + r))
      (UInt16.le_iff_toNat_le.2 (by omega)) (UInt16.le_iff_toNat_le.2 (by omega))
    have value := c.toNat_port_skip i
    rw [same, port] at value
    exact ⟨⟨i, lt⟩, Fin.ext (Nat.add_left_cancel value).symm⟩
  · intro surjective port low high
    rw [UInt16.le_iff_toNat_le] at low high
    obtain ⟨i, same⟩ := surjective ⟨port.toNat - c.first.toNat, by omega⟩
    have value := congrArg Fin.val same
    simp only [offset] at value
    refine ⟨i, i.isLt, UInt16.toNat_inj.1 ?_⟩
    rw [toNat_port_skip, value]
    omega

theorem exists_offset {a n r : Nat} (lt : r < n) : ∃ i < n, (a + i) % n = r := by
  have split := Nat.div_add_mod a n
  have small : a % n < n := Nat.mod_lt _ (by omega)
  by_cases le : a % n ≤ r
  · refine ⟨r - a % n, by omega, ?_⟩
    rw [show a + (r - a % n) = n * (a / n) + r by omega, Nat.mul_add_mod, Nat.mod_eq_of_lt lt]
  · refine ⟨n + r - a % n, by omega, ?_⟩
    rw [show a + (n + r - a % n) = n * (a / n) + (n + r) by omega, Nat.mul_add_mod,
      Nat.add_mod_left, Nat.mod_eq_of_lt lt]

theorem offset_surjective
    (regular : c.next.toNat + c.size.toNat ≤ UInt32.size ∨ c.size.toNat ∣ UInt32.size) :
    Function.Surjective c.offset := by
  intro r
  obtain ⟨i, lt, here⟩ := exists_offset (a := c.next.toNat) r.isLt
  refine ⟨⟨i, lt⟩, Fin.ext ?_⟩
  show (c.next.toNat + i) % UInt32.size % c.size.toNat = r
  rcases regular with fits | even
  · rw [Nat.mod_eq_of_lt (show c.next.toNat + i < UInt32.size by omega), here]
  · rw [Nat.mod_mod_of_dvd _ even, here]

/-- If the counter wraps on the way, some offset comes twice, unless the size divides 2 ^ 32. -/
theorem exists_repeated (wraps : UInt32.size < c.next.toNat + c.size.toNat)
    (uneven : ¬ c.size.toNat ∣ UInt32.size) : ∃ i j, i < j ∧ c.offset i = c.offset j := by
  have word : c.next.toNat < UInt32.size := c.next.toNat_lt
  have split := Nat.div_add_mod UInt32.size c.size.toNat
  have positive : UInt32.size % c.size.toNat ≠ 0 := mt Nat.dvd_of_mod_eq_zero uneven
  have small : UInt32.size % c.size.toNat < c.size.toNat := Nat.mod_lt _ (by omega)
  by_cases early : UInt32.size % c.size.toNat < UInt32.size - c.next.toNat
  -- the counter is divided evenly where the last whole round before the wrap ends, and at 0
  · refine ⟨⟨UInt32.size - c.next.toNat - UInt32.size % c.size.toNat, by omega⟩,
      ⟨UInt32.size - c.next.toNat, by omega⟩, Fin.lt_def.2 (by dsimp only; omega), Fin.ext ?_⟩
    have round : c.next.toNat + (UInt32.size - c.next.toNat - UInt32.size % c.size.toNat) =
        c.size.toNat * (UInt32.size / c.size.toNat) := by omega
    have wrapped : c.next.toNat + (UInt32.size - c.next.toNat) = UInt32.size := by omega
    simp only [offset]
    have inside : c.size.toNat * (UInt32.size / c.size.toNat) < UInt32.size := by omega
    rw [round, wrapped, Nat.mod_eq_of_lt inside, Nat.mul_mod_right, Nat.mod_self, Nat.zero_mod]
  -- or the counter starts behind that place, as far from it as it gets to from 0 on
  · obtain ⟨d, behind⟩ := Nat.exists_eq_add_of_le (Nat.not_lt.1 early)
    refine ⟨⟨0, by omega⟩, ⟨UInt32.size % c.size.toNat, small⟩,
      Fin.lt_def.2 (Nat.pos_of_ne_zero positive), Fin.ext ?_⟩
    have start : c.next.toNat + 0 = c.size.toNat * (UInt32.size / c.size.toNat) + d := by omega
    have wrapped : c.next.toNat + UInt32.size % c.size.toNat = UInt32.size + d := by omega
    have inside : c.size.toNat * (UInt32.size / c.size.toNat) + d < UInt32.size := by omega
    simp only [offset]
    rw [start, wrapped, Nat.mod_eq_of_lt inside, Nat.add_mod_left,
      Nat.mod_eq_of_lt (show d < UInt32.size by omega), Nat.mul_add_mod]

/-- All ports are offered if the counter does not wrap on the way or their number divides
2 ^ 32, and only then. -/
theorem covers_iff :
    c.Covers ↔ c.next.toNat + c.size.toNat ≤ UInt32.size ∨ c.size.toNat ∣ UInt32.size := by
  rw [covers_iff_surjective]
  refine ⟨fun surjective => ?_, offset_surjective⟩
  by_contra irregular
  rw [not_or, Nat.not_le] at irregular
  obtain ⟨i, j, lt, same⟩ := exists_repeated irregular.1 irregular.2
  exact lt.ne (Finite.injective_iff_surjective.2 surjective same)

theorem allocate_eq_none_iff (covers : c.Covers) :
    (c.allocate free).2 = none ↔ ∀ port, c.first ≤ port → port ≤ c.last → free port = false := by
  rw [allocate, claim_eq_none_iff]
  constructor
  · intro refused port low high
    obtain ⟨i, lt, rfl⟩ := covers port low high
    exact refused i lt
  · intro full i _
    exact full _ (port_inside (c.skip i)).1 (port_inside (c.skip i)).2

end PortCursor

namespace Masquerade

variable {t : Masquerade} {now : Nat} {internal : Endpoint} {packet : Bytes} {flow : Flow}

/-! ### Refusals -/

theorem live?_of_liveMapping (indexed : Indexed (fun _ => False) t) {port : UInt16}
    (found : (t.liveMapping now internal).2 = some port) :
    t.reverse.live? now port = some internal := by
  rcases liveMapping_cases indexed now internal with
    ⟨known, live, result⟩ | ⟨_, _, -, -, -, result⟩ | ⟨-, result⟩ <;> rw [result] at found
  · obtain rfl := Option.some.inj found
    exact live
  · cases found
  · cases found

/-- An endpoint without a live mapping has none at all by the time it is given a port, and no other
mapping has gone. -/
theorem liveMapping_none (indexed : Indexed (fun _ => False) t)
    (missing : (t.liveMapping now internal).2 = none) :
    (t.liveMapping now internal).1.cursor = t.cursor ∧
      ∀ p e, (t.liveMapping now internal).1.reverse.peek? p = some e ↔
        t.reverse.peek? p = some e ∧ e ≠ internal := by
  rcases liveMapping_cases indexed now internal with
    ⟨port, -, result⟩ | ⟨port, e, found, -, rfl, result⟩ | ⟨unmapped, result⟩ <;>
    rw [result] at missing ⊢
  · cases missing
  · have present := IdleMap.peek?_of_find? found
    refine ⟨rfl, fun p other => ?_⟩
    rw [reverse_evict, IdleMap.peek?_remove_eq_some_iff, and_comm]
    refine and_congr_right fun held => not_congr ⟨?_, ?_⟩
    · rintro rfl
      exact Option.some.inj (held.symm.trans present)
    · rintro rfl
      exact indexed.port_unique held present
  · refine ⟨rfl, fun p e => ⟨fun present => ⟨present, ?_⟩, And.left⟩⟩
    rintro rfl
    rw [(indexed.inverse e p).2 present] at unmapped
    cases unmapped

/-- Every port of the interval is held by an endpoint that is not `internal`. -/
def UsedUp (internal : Endpoint) (t : Masquerade) : Prop :=
  ∀ port, t.cursor.first ≤ port → port ≤ t.cursor.last →
    ∃ e, t.reverse.peek? port = some e ∧ e ≠ internal

theorem mappingFor_eq_none_iff (indexed : Indexed (fun _ => False) t) (covers : t.cursor.Covers) :
    (t.mappingFor now internal).2 = none ↔ t.UsedUp internal := by
  rcases looked : t.liveMapping now internal with ⟨u, _ | known⟩
  · obtain ⟨cursor, held⟩ := liveMapping_none indexed (congrArg Prod.snd looked)
    rw [looked] at cursor held
    have refused : (t.mappingFor now internal).2 = none ↔
        (u.cursor.allocate fun port => !u.reverse.contains port).2 = none := by
      unfold mappingFor
      simp only [looked, claimPort_eq]
      rcases u.cursor.allocate fun port => !u.reverse.contains port with ⟨c, _ | port⟩ <;> simp
    have taken : ∀ port, (!u.reverse.contains port) = false ↔
        ∃ e, t.reverse.peek? port = some e ∧ e ≠ internal := by
      intro port
      rw [Bool.not_eq_false', ← Bool.not_eq_false, IdleMap.contains_eq_false_iff, ← ne_eq,
        Option.ne_none_iff_exists']
      exact exists_congr (held port)
    rw [refused, cursor, PortCursor.allocate_eq_none_iff covers]
    simp only [taken, UsedUp]
  · have present : t.reverse.peek? known = some internal :=
      IdleMap.peek?_of_live? (live?_of_liveMapping indexed (congrArg Prod.snd looked))
    obtain ⟨low, high⟩ := indexed.inside known internal present
    unfold mappingFor
    simp only [looked]
    refine iff_of_false (Option.some_ne_none known) fun usedUp => ?_
    obtain ⟨e, holder, other⟩ := usedUp known low high
    exact other (Option.some.inj (holder.symm.trans present))

theorem outbound_eq_none_iff (indexed : Indexed (fun _ => False) t) (covers : t.cursor.Covers)
    (parsed : Flow.parse? packet = some flow) :
    (t.outbound now packet).2.2 = none ↔ t.UsedUp flow.source := by
  rw [← mappingFor_eq_none_iff indexed covers]
  unfold outbound
  rcases result : t.mappingFor now flow.source with ⟨u, _ | port⟩ <;> simp [parsed, result]

/-- Whatever has been done to a masquerade, a packet that it can translate is refused exactly if
all ports are used up, provided that the counter does not wrap while they are offered or their
number divides 2 ^ 32. -/
theorem run_refuses_iff (external : Ipv4) (a b : UInt16) (idle : Nat) (events : List Event)
    (packet : Bytes) (flow : Flow) (parsed : Flow.parse? packet = some flow) :
    let s := run ⟨create external (a, b) idle, 0⟩ events
    s.state.cursor.next.toNat + s.state.cursor.size.toNat ≤ UInt32.size ∨
        s.state.cursor.size.toNat ∣ UInt32.size →
      ((s.state.outbound s.now packet).2.2 = none ↔
        ∀ port, min a b ≤ port → port ≤ max a b →
          ∃ e, s.state.reverse.peek? port = some e ∧ e ≠ flow.source) := by
  intro s regular
  have evolved := run_evolves ⟨create external (a, b) idle, 0⟩ events
  have bounds := PortCursor.between_bounds a b
  have refused : (s.state.outbound s.now packet).2.2 = none ↔ s.state.UsedUp flow.source :=
    outbound_eq_none_iff (run_indexed (create_indexed external (a, b) idle) events)
      (PortCursor.covers_iff.2 regular) parsed
  rw [refused, UsedUp, evolved.first.trans bounds.1, evolved.last.trans bounds.2]

/-- A query from one of the clients. -/
def queryFrom (client : UInt8) : Bytes :=
  [0x45, 0, 0, 28, 0, 0, 0, 0, 64, 17, 0, 0, 10, 0, 0, client, 93, 184, 216, 34,
    0x30, 0x39, 0, 53, 0, 8, 0, 0]

def fourthFlow : Flow where
  headerLength := 20
  totalLength := 28
  protocol := .udp
  source := ⟨.ofOctets 10 0 0 4, 12345⟩
  destination := ⟨.ofOctets 93 184 216 34, 53⟩

/-- Three clients hold the three ports. -/
def fullHouse : Clocked Masquerade :=
  run ⟨create (.ofOctets 203 0 113 1) (2000, 2002) 30000, 0⟩
    [.outbound (queryFrom 1), .outbound (queryFrom 2), .outbound (queryFrom 3)]

/-- A fourth client is turned away, and indeed the others hold all ports. -/
theorem fullHouse_usedUp :
    Flow.parse? (queryFrom 4) = some fourthFlow ∧
      fullHouse.state.cursor.next.toNat + fullHouse.state.cursor.size.toNat ≤ UInt32.size ∧
      (fullHouse.state.outbound fullHouse.now (queryFrom 4)).2.2 = none ∧
      ∀ port, min 2000 2002 ≤ port → port ≤ max 2000 2002 →
        ∃ e, fullHouse.state.reverse.peek? port = some e ∧ e ≠ fourthFlow.source := by
  have parsed : Flow.parse? (queryFrom 4) = some fourthFlow := by decide +kernel
  have early : fullHouse.state.cursor.next.toNat + fullHouse.state.cursor.size.toNat ≤
      UInt32.size := by decide +kernel
  have refused : (fullHouse.state.outbound fullHouse.now (queryFrom 4)).2.2 = none := by
    decide +kernel
  refine ⟨parsed, early, refused, ?_⟩
  exact (run_refuses_iff (.ofOctets 203 0 113 1) 2000 2002 30000
    [.outbound (queryFrom 1), .outbound (queryFrom 2), .outbound (queryFrom 3)] (queryFrom 4)
    fourthFlow parsed (.inl early)).1 refused

/-! ### A counter that wraps -/

/-- The masquerade with a counter that is so many offers further, and another journal. -/
def turned (offers : Nat) (notices : List Notice) (t : Masquerade) : Masquerade :=
  { t with cursor := t.cursor.skip offers, notices }

theorem turned_turned (m n : Nat) (notices notices' : List Notice) (t : Masquerade) :
    (t.turned m notices).turned n notices' = t.turned (m + n) notices' := by
  simp only [turned, PortCursor.skip_add]

/-- A packet that gets no port changes nothing but the counter and the journal. -/
theorem outbound_exhausted (parsed : Flow.parse? packet = some flow)
    (unmapped : t.forward.find? flow.source = none)
    (full : ∀ port, t.cursor.first ≤ port → port ≤ t.cursor.last →
      t.reverse.contains port = true) :
    (t.outbound now packet).1 =
      t.turned t.cursor.size.toNat (t.notices ++ [.portsExhausted flow.source]) := by
  have missing : (t.cursor.allocate fun port => !t.reverse.contains port).2 = none := by
    rw [PortCursor.allocate, PortCursor.claim_eq_none_iff]
    intro i _
    have inside := PortCursor.port_inside (t.cursor.skip i)
    simp [full _ inside.1 inside.2]
  have failed : (t.cursor.allocate fun port => !t.reverse.contains port) =
      (t.cursor.skip t.cursor.size.toNat, none) :=
    Prod.ext (PortCursor.claim_failed missing) missing
  have erased : t.forward.erase flow.source = t.forward := Table.erase_eq_self unmapped
  simp only [outbound, parsed, mappingFor, liveMapping, unmapped, claimPort_eq, failed, note,
    erased, turned]

/-- The same packet again and again turns the counter as far as one likes. -/
theorem run_exhausted {s : Clocked Masquerade} (parsed : Flow.parse? packet = some flow)
    (unmapped : s.state.forward.find? flow.source = none)
    (full : ∀ port, s.state.cursor.first ≤ port → port ≤ s.state.cursor.last →
      s.state.reverse.contains port = true) (n : Nat) :
    run s (List.replicate n (.outbound packet)) =
      { s with
        state := s.state.turned (n * s.state.cursor.size.toNat)
          (s.state.notices ++ List.replicate n (.portsExhausted flow.source)) } := by
  induction n with
  | zero => simp [run, turned, PortCursor.skip_zero]
  | succ n ih =>
    have again : ∀ k notices, ((s.state.turned k notices).outbound s.now packet).1 =
        (s.state.turned k notices).turned s.state.cursor.size.toNat
          (notices ++ [.portsExhausted flow.source]) :=
      fun k notices => outbound_exhausted parsed unmapped full
    rw [List.replicate_succ', run, List.foldl_append]
    change step (run s (List.replicate n (.outbound packet))) (.outbound packet) = _
    rw [ih, step, again, turned_turned, Nat.succ_mul, List.append_assoc, ← List.replicate_succ']

theorem fullHouse_full (port : UInt16) (low : fullHouse.state.cursor.first ≤ port)
    (high : port ≤ fullHouse.state.cursor.last) :
    fullHouse.state.reverse.contains port = true := by
  have first : fullHouse.state.cursor.first.toNat = 2000 := by decide +kernel
  have last : fullHouse.state.cursor.last.toNat = 2002 := by decide +kernel
  rw [UInt16.le_iff_toNat_le] at low high
  have ports : port = 2000 ∨ port = 2001 ∨ port = 2002 := by
    simp only [← UInt16.toNat_inj, UInt16.reduceToNat]
    omega
  rcases ports with rfl | rfl | rfl <;> decide +kernel

/-- A fourth client asks until the counter is about to wrap, and then a port becomes free. It is
not offered: the counter leads to 2000, again to 2000 and to 2001. -/
theorem fullHouse_refuses :
    let s := run fullHouse
      (List.replicate 1431655764 (.outbound (queryFrom 4)) ++ [.purge (.ofOctets 10 0 0 3)])
    (s.state.outbound s.now (queryFrom 4)).2.2 = none ∧ s.state.reverse.peek? 2002 = none := by
  have parsed : Flow.parse? (queryFrom 4) = some fourthFlow := by decide +kernel
  have unmapped : fullHouse.state.forward.find? fourthFlow.source = none := by decide +kernel
  have turned := run_exhausted parsed unmapped fullHouse_full 1431655764
  rw [run] at turned
  rw [run, List.foldl_append, turned]
  decide +kernel

end Masquerade

end Concentrator
