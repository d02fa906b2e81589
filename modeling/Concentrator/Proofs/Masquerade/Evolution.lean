import Concentrator.Masquerade.Basic
import Concentrator.Proofs.IdleMap

/-!
# What becomes of mappings

`Evolves` relates a masquerade to what an operation makes of it. Settings stay,
the journal of notices grows, and every mapping that there is afterwards has
been there all the time, unless the journal says that it was created on the way
for an endpoint that the operation opens.
-/

namespace Concentrator

namespace PortCursor

variable {c : PortCursor} {free : UInt16 → Bool} {port : UInt16} {offers : Nat}

theorem toNat_size (c : PortCursor) : c.size.toNat = c.last.toNat - c.first.toNat + 1 := by
  have word := c.last.toNat_lt
  have span : (c.last - c.first).toNat = c.last.toNat - c.first.toNat :=
    UInt16.toNat_sub_of_le _ _ c.first_le_last
  rw [PortCursor.size, UInt32.toNat_add, UInt16.toNat_toUInt32, UInt32.toNat_one, span]
  omega

/-- Wherever the cursor stands, its offset does not lead out of the interval. -/
theorem toNat_offset_le (c : PortCursor) :
    c.first.toNat + (c.next % c.size).toNat ≤ c.last.toNat := by
  have le := UInt16.le_iff_toNat_le.1 c.first_le_last
  have size := c.toNat_size
  have offset : (c.next % c.size).toNat < c.size.toNat := by
    rw [UInt32.toNat_mod]
    exact Nat.mod_lt _ (by omega)
  omega

/-- Neither the offset nor the port is cut to fit a word. -/
theorem toNat_port (c : PortCursor) :
    c.port.toNat = c.first.toNat + (c.next % c.size).toNat := by
  have word := c.last.toNat_lt
  have inside := c.toNat_offset_le
  rw [PortCursor.port, UInt16.toNat_add, UInt32.toNat_toUInt16]
  omega

/-- The cursor stays inside its interval. -/
theorem port_inside (c : PortCursor) : c.first ≤ c.port ∧ c.port ≤ c.last := by
  have value := c.toNat_port
  have inside := c.toNat_offset_le
  constructor
  · exact UInt16.le_iff_toNat_le.2 (by omega)
  · exact UInt16.le_iff_toNat_le.2 (by omega)

/-- The cursor may come to stand at any port of its interval. -/
theorem exists_next (low : c.first ≤ port) (high : port ≤ c.last) :
    ∃ next, ({ c with next } : PortCursor).port = port := by
  rw [UInt16.le_iff_toNat_le] at low high
  have word := port.toNat_lt
  have size := c.toNat_size
  have next : (UInt32.ofNat (port.toNat - c.first.toNat)).toNat = port.toNat - c.first.toNat :=
    UInt32.toNat_ofNat_of_lt' (by simp only [UInt32.size]; omega)
  refine ⟨.ofNat (port.toNat - c.first.toNat), UInt16.toNat_inj.1 ?_⟩
  have same : ({ c with next := .ofNat (port.toNat - c.first.toNat) } : PortCursor).size = c.size :=
    rfl
  rw [toNat_port, same, UInt32.toNat_mod, next, Nat.mod_eq_of_lt (by omega)]
  exact Nat.add_sub_of_le low

theorem claim_bounds (c : PortCursor) (free : UInt16 → Bool) (offers : Nat) :
    (c.claim free offers).1.first = c.first ∧ (c.claim free offers).1.last = c.last := by
  induction offers generalizing c with
  | zero => exact ⟨rfl, rfl⟩
  | succ offers ih =>
    unfold claim
    split
    · exact ⟨rfl, rfl⟩
    · exact ih c.advance

theorem claim_some (found : (c.claim free offers).2 = some port) :
    free port = true ∧ c.first ≤ port ∧ port ≤ c.last := by
  induction offers generalizing c with
  | zero => cases found
  | succ offers ih =>
    unfold claim at found
    split at found
    · rename_i fits
      obtain rfl := Option.some.inj found
      exact ⟨fits, port_inside c⟩
    · exact ih (c := c.advance) found

/-- The bounds of the interval between two ports in either order. -/
theorem between_bounds (a b : UInt16) :
    (between a b).first = min a b ∧ (between a b).last = max a b := by
  have least : min a b = if a ≤ b then a else b := rfl
  have greatest : max a b = if a ≤ b then b else a := rfl
  rw [least, greatest, between]
  split <;> exact ⟨rfl, rfl⟩

end PortCursor

namespace Masquerade

/-- New entries of the journal that account for every mapping that there is. -/
structure Accounts (opened : Endpoint → Prop) (t t' : Masquerade) (notices : List Notice) :
    Prop where
  mapped : ∀ p e, t'.reverse.peek? p = some e →
    opened e ∧ .mappingCreated e p ∈ notices ∨
      t.reverse.peek? p = some e ∧ .mappingRemoved e p ∉ notices
  foreign : ∀ a g, .addressReleased a g ∉ notices

structure Evolves (opened : Endpoint → Prop) (t t' : Masquerade) : Prop where
  external : t'.external = t.external
  idle : t'.reverse.idle = t.reverse.idle
  first : t'.cursor.first = t.cursor.first
  last : t'.cursor.last = t.cursor.last
  accounts : ∃ notices, t'.notices = t.notices ++ notices ∧ Accounts opened t t' notices

variable {opened : Endpoint → Prop} {t t' t'' : Masquerade}

theorem Evolves.trans (before : Evolves opened t t') (after : Evolves opened t' t'') :
    Evolves opened t t'' := by
  obtain ⟨ns, notices, mapped, foreign⟩ := before.accounts
  obtain ⟨ns', notices', mapped', foreign'⟩ := after.accounts
  refine ⟨after.external.trans before.external, after.idle.trans before.idle,
    after.first.trans before.first, after.last.trans before.last, ns ++ ns',
    by rw [notices', notices, List.append_assoc], ?_, by simp [foreign, foreign']⟩
  intro p e present
  simp only [List.mem_append, not_or]
  rcases mapped' p e present with ⟨opens, created⟩ | ⟨present, remains⟩
  · exact .inl ⟨opens, .inr created⟩
  · rcases mapped p e present with ⟨opens, created⟩ | ⟨present, remained⟩
    · exact .inl ⟨opens, .inl created⟩
    · exact .inr ⟨present, remained, remains⟩

theorem Evolves.weaken {opened' : Endpoint → Prop} (evolved : Evolves opened t t')
    (le : ∀ e, opened e → opened' e) : Evolves opened' t t' := by
  obtain ⟨notices, journal, mapped, foreign⟩ := evolved.accounts
  refine ⟨evolved.external, evolved.idle, evolved.first, evolved.last, notices, journal,
    fun p e present => ?_, foreign⟩
  exact (mapped p e present).imp_left (And.imp_left (le e))

/-- An operation that touches no mapping, whatever else it writes down. -/
theorem evolves_of_reverse_eq (notices : List Notice)
    (reverse : t'.reverse.peek? = t.reverse.peek?) (noticed : t'.notices = t.notices ++ notices)
    (silent : ∀ e p, .mappingRemoved e p ∉ notices)
    (foreign : ∀ a g, .addressReleased a g ∉ notices) (external : t'.external = t.external)
    (idle : t'.reverse.idle = t.reverse.idle) (first : t'.cursor.first = t.cursor.first)
    (last : t'.cursor.last = t.cursor.last) : Evolves opened t t' := by
  refine ⟨external, idle, first, last, notices, noticed, fun p e present => ?_, foreign⟩
  rw [reverse] at present
  exact .inr ⟨present, silent e p⟩

theorem Evolves.refl (t : Masquerade) : Evolves opened t t :=
  evolves_of_reverse_eq [] rfl (by simp) (by simp) (by simp) rfl rfl rfl rfl

theorem evict_evolves (port : UInt16) (internal : Endpoint) :
    Evolves opened t (mappings.evict port internal t) := by
  refine ⟨rfl, rfl, rfl, rfl, [.mappingRemoved internal port], rfl, fun p e present => .inr ?_,
    by simp⟩
  obtain ⟨other, before⟩ := IdleMap.peek?_remove_eq_some_iff.1
    (show (t.reverse.remove port).peek? p = some e from present)
  exact ⟨before, by simp [other]⟩

theorem lookup_evolves (now : Nat) (port : UInt16) :
    Evolves opened t (mappings.lookup now port t).1 :=
  IdleMap.Owner.lookup_preserves (P := Evolves opened t)
    (fun evolved => evolved.trans (evolves_of_reverse_eq []
      (funext fun p => IdleMap.peek?_refresh _ _ _ p) (by simp [mappings]) (by simp) (by simp)
      rfl rfl rfl rfl))
    (fun _ _ evolved => evolved.trans (evict_evolves _ _)) (.refl t)

theorem sweep_evolves (now : Nat) : Evolves opened t (t.sweep now).1 :=
  IdleMap.Owner.sweep_preserves (P := Evolves opened t)
    (fun _ _ _ _ evolved => evolved.trans (evict_evolves _ _)) (.refl t)

theorem inbound_evolves (now : Nat) (packet : Bytes) :
    Evolves opened t (t.inbound now packet).1 := by
  unfold inbound
  cases Flow.parse? packet with
  | none => exact .refl t
  | some flow =>
    have looked : Evolves opened t _ := lookup_evolves now flow.destination.port
    dsimp only
    split
    · rcases result : mappings.lookup now flow.destination.port t with ⟨u, _ | internal⟩ <;>
        rw [result] at looked <;> exact looked
    · exact .refl t

/-! ### Purges -/

theorem purgePort_cases (address : Ipv4) (s : Masquerade × Nat) (port : UInt16) :
    (∃ e, s.1.reverse.peek? port = some e ∧ e.address = address ∧
      purgePort address s port = (mappings.evict port e s.1, s.2 + 1)) ∨
    (∀ e, s.1.reverse.peek? port = some e → e.address ≠ address) ∧
      purgePort address s port = s := by
  unfold purgePort
  rcases mappings.evictIf_cases s.1 (fun internal => internal.address = address) port with
    ⟨e, present, here, result⟩ | ⟨elsewhere, result⟩
  · exact .inl ⟨e, present, by simpa using here, by rw [result]⟩
  · exact .inr ⟨fun e present => by simpa using elsewhere e present, by rw [result]⟩

theorem purge_evolves (address : Ipv4) : Evolves opened t (t.purge address).1 := by
  unfold purge
  cases t.byAddress.find? address with
  | none => exact .refl t
  | some ports =>
    have unlisted : Evolves opened t { t with byAddress := t.byAddress.erase address } :=
      evolves_of_reverse_eq [] rfl (by simp) (by simp) (by simp) rfl rfl rfl rfl
    have purged := List.foldlRecOn (motive := fun (s : Masquerade × Nat) => Evolves opened t s.1)
      ports (purgePort address) (b := ({ t with byAddress := t.byAddress.erase address }, 0))
      unlisted fun s evolved port _ => by
        rcases purgePort_cases address s port with ⟨e, -, -, result⟩ | ⟨-, result⟩
        · rw [result]
          exact evolved.trans (evict_evolves _ _)
        · rw [result]
          exact evolved
    dsimp only
    split
    · exact purged
    · exact purged.trans (evolves_of_reverse_eq [.mappingsPurged _ address] rfl rfl
        (by simp) (by simp) rfl rfl rfl rfl)

/-! ### New mappings -/

theorem liveMapping_evolves (now : Nat) (internal : Endpoint) :
    Evolves opened t (t.liveMapping now internal).1 := by
  unfold liveMapping
  cases t.forward.find? internal with
  | none => exact .refl t
  | some port =>
    have looked : Evolves opened t _ := lookup_evolves now port
    dsimp only
    rcases result : mappings.lookup now port t with ⟨u, _ | holder⟩ <;>
      rw [result] at looked <;> exact looked

/-- Claiming takes the first vacant port that the cursor offers. -/
theorem claimPort_eq (now : Nat) (internal : Endpoint) (t : Masquerade) :
    t.claimPort now internal =
      match t.cursor.allocate fun port => !t.reverse.contains port with
      | (cursor, some port) =>
        (note (.mappingCreated internal port)
          { t with
            cursor
            reverse := t.reverse.insert now port internal
            byAddress := t.byAddress.insert internal.address
              ((t.byAddress.find? internal.address).getD [] ++ [port]) }, some port)
      | (cursor, none) => (note (.portsExhausted internal) { t with cursor }, none) := by
  unfold claimPort
  simp only [IdleMap.insertIfVacant_snd]
  rcases claimed : t.cursor.allocate fun port => !t.reverse.contains port with ⟨cursor, _ | port⟩
  · rfl
  · obtain ⟨free, -⟩ := PortCursor.claim_some (congrArg Prod.snd claimed)
    have vacant : t.reverse.contains port = false := by simpa using free
    simp only [IdleMap.insertIfVacant_of_vacant vacant]

theorem claimPort_evolves (now : Nat) (internal : Endpoint) :
    Evolves (fun e => e = internal) t (t.claimPort now internal).1 := by
  have bounds := t.cursor.claim_bounds (fun port => !t.reverse.contains port) t.cursor.size.toNat
  rw [claimPort_eq, PortCursor.allocate]
  rcases claimed : t.cursor.claim (fun port => !t.reverse.contains port) t.cursor.size.toNat with
    ⟨cursor, _ | port⟩ <;> rw [claimed] at bounds
  · exact evolves_of_reverse_eq [.portsExhausted internal] rfl rfl (by simp) (by simp)
      rfl rfl bounds.1 bounds.2
  · refine ⟨rfl, rfl, bounds.1, bounds.2, [.mappingCreated internal port], rfl, ?_, by simp⟩
    intro p e present
    have now_there : (t.reverse.insert now port internal).peek? p = some e := present
    rw [IdleMap.peek?_insert] at now_there
    by_cases hit : p = port
    · rw [if_pos hit] at now_there
      obtain rfl := Option.some.inj now_there
      exact .inl ⟨rfl, by simp [hit]⟩
    · rw [if_neg hit] at now_there
      exact .inr ⟨now_there, by simp⟩

theorem mappingFor_evolves (now : Nat) (internal : Endpoint) :
    Evolves (fun e => e = internal) t (t.mappingFor now internal).1 := by
  have live : Evolves (fun e => e = internal) t _ := liveMapping_evolves now internal
  unfold mappingFor
  rcases looked : t.liveMapping now internal with ⟨u, _ | port⟩ <;> rw [looked] at live
  · have claimed : Evolves _ u _ := claimPort_evolves now internal
    dsimp only at live ⊢
    rcases result : u.claimPort now internal with ⟨v, _ | port⟩ <;> rw [result] at claimed
    · exact live.trans (claimed.trans (evolves_of_reverse_eq [] rfl (by simp) (by simp)
        (by simp) rfl rfl rfl rfl))
    · exact live.trans (claimed.trans (evolves_of_reverse_eq [] rfl (by simp) (by simp)
        (by simp) rfl rfl rfl rfl))
  · exact live

theorem outbound_evolves (now : Nat) (packet : Bytes) :
    Evolves (fun e => ∃ flow, Flow.parse? packet = some flow ∧ flow.source = e) t
      (t.outbound now packet).1 := by
  unfold outbound
  cases Flow.parse? packet with
  | none => exact .refl t
  | some flow =>
    have mapped : Evolves _ t _ := mappingFor_evolves now flow.source
    have opens : Evolves (fun e => ∃ f, some flow = some f ∧ f.source = e) t
        (t.mappingFor now flow.source).1 := by
      simpa [eq_comm] using mapped
    dsimp only
    rcases result : t.mappingFor now flow.source with ⟨u, _ | port⟩ <;>
      rw [result] at opens <;> exact opens

end Masquerade

end Concentrator
