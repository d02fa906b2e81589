import Concentrator.Proofs.Masquerade.Extents
import Concentrator.Proofs.Session.Allocation
import Mathlib.Logic.Function.Iterate

/-!
# Checksums of whole byte strings

A byte string of up to 131074 octets has no more than 65537 words, and 65537 · 65535 is the
greatest number of 32 bits, so its sum never overflows. `sum_lawful` says so with every
addition checked, and what follows for the folded sum: it is found within two rounds, it comes
together from the folded sums of parts, and complemented it completes the string.
-/

namespace Concentrator.Checksum

variable {acc s : UInt32} {bytes front back : Bytes}

/-! ### Checked sums -/

/-- The sum of `sumFrom` with every addition checked. -/
def checkedSumFrom (acc : UInt32) : Bytes → Pool.Checked UInt32
  | [] => return acc
  | [last] => Pool.checkedSum acc (.ofNat (last.toNat * 256))
  | high :: low :: rest => do
    let next ← Pool.checkedSum acc (Bytes.word high low).toUInt32
    checkedSumFrom next rest

theorem toNat_octet (last : UInt8) :
    (UInt32.ofNat (last.toNat * 256)).toNat = last.toNat * 256 := by
  have bound := last.toNat_lt
  exact UInt32.toNat_ofNat_of_lt' (by rw [UInt32.size]; omega)

theorem checkedSumFrom_eq (fits : acc.toNat + total bytes < UInt32.size) :
    checkedSumFrom acc bytes = pure (sumFrom acc bytes) := by
  fun_induction sumFrom acc bytes with
  | case1 => rfl
  | case2 acc last =>
    rw [total] at fits
    exact Pool.checkedSum_eq (by rw [toNat_octet]; exact fits)
  | case3 acc high low rest ih =>
    rw [total, ← Nat.add_assoc] at fits
    have here : acc.toNat + (Bytes.word high low).toNat < UInt32.size := by omega
    rw [checkedSumFrom, Pool.checkedSum_eq (by rwa [UInt16.toNat_toUInt32]), pure_bind]
    exact ih (by rwa [toNat_add_word here])

theorem checkedSumFrom_overflow (full : UInt32.size ≤ acc.toNat + total bytes) :
    checkedSumFrom acc bytes = .error .overflow := by
  fun_induction sumFrom acc bytes with
  | case1 acc =>
    have bound := acc.toNat_lt
    rw [total, UInt32.size] at full
    omega
  | case2 acc last =>
    rw [total] at full
    exact if_neg (by rw [toNat_octet]; omega)
  | case3 acc high low rest ih =>
    rw [total, ← Nat.add_assoc] at full
    rw [checkedSumFrom, Pool.checkedSum]
    split
    · rename_i here
      rw [UInt16.toNat_toUInt32] at here
      exact ih (by rwa [toNat_add_word here])
    · rfl

theorem total_ones (n : Nat) :
    total (List.replicate n 255) = n / 2 * 65535 + n % 2 * 65280 := by
  induction n using Nat.twoStepInduction with
  | zero => rfl
  | one => rfl
  | more n ih =>
    have word : (Bytes.word 255 255).toNat = 65535 := by decide
    rw [List.replicate_succ, List.replicate_succ, total, ih, word]
    omega

/-- No greater length than 131074 is safe for every byte string. -/
theorem exists_overflow {n : Nat} (long : 131074 < n) :
    ∃ bytes : Bytes, bytes.length = n ∧ checkedSumFrom 0 bytes = .error .overflow := by
  refine ⟨List.replicate n 255, List.length_replicate, checkedSumFrom_overflow ?_⟩
  rw [total_ones, UInt32.toNat_zero, UInt32.size]
  omega

/-! ### Rounds of folding -/

/-- One round of folding in 32-bit arithmetic. -/
def carry (s : UInt32) : UInt32 := (s &&& (0xFFFF : UInt32)) + (s >>> 16)

theorem toNat_high (s : UInt32) : (s >>> 16).toNat = s.toNat / 65536 := by
  rw [UInt32.toNat_shiftRight]
  exact Nat.shiftRight_eq_div_pow s.toNat 16

theorem toNat_carry (s : UInt32) : (carry s).toNat = s.toNat % 65536 + s.toNat / 65536 := by
  have low : (s &&& (0xFFFF : UInt32)).toNat = s.toNat % 65536 := by
    rw [UInt32.toNat_and]
    exact Nat.and_two_pow_sub_one_eq_mod s.toNat 16
  have bound := s.toNat_lt
  rw [carry, UInt32.toNat_add, low, toNat_high]
  omega

theorem high_eq_zero_iff : s >>> 16 = 0 ↔ s.toNat < 65536 := by
  rw [← UInt32.toNat_inj, toNat_high, UInt32.toNat_zero]
  omega

theorem fold_carry (carries : s >>> 16 ≠ 0) : fold (carry s) = fold s := by
  have large : 65536 ≤ s.toNat := by
    rw [ne_eq, high_eq_zero_iff] at carries
    omega
  rw [← UInt16.toNat_inj, toNat_fold, toNat_fold, foldNat.eq_1 s.toNat, if_pos large, toNat_carry]

theorem fold_of_small (small : s >>> 16 = 0) : (fold s).toUInt32 = s := by
  rw [high_eq_zero_iff] at small
  rw [← UInt32.toNat_inj, UInt16.toNat_toUInt32, toNat_fold, foldNat, if_neg (by omega)]

/-- Folding goes on as long as there is something above the low 16 bits: two rounds at most. -/
theorem carry_rounds (s : UInt32) : ∃ rounds ≤ 2,
    (∀ k < rounds, carry^[k] s >>> 16 ≠ 0) ∧ carry^[rounds] s >>> 16 = 0 ∧
      carry^[rounds] s = (fold s).toUInt32 := by
  by_cases none : s >>> 16 = 0
  · exact ⟨0, by omega, by omega, none, (fold_of_small none).symm⟩
  have first := fold_carry none
  by_cases one : carry s >>> 16 = 0
  · refine ⟨1, by omega, ?_, one, ?_⟩
    · intro k before
      obtain rfl : k = 0 := by omega
      exact none
    · rw [← first]
      exact (fold_of_small one).symm
  have second := fold_carry one
  have two : carry (carry s) >>> 16 = 0 := by
    -- Whatever is folded once has a carry of one at most, and a second one leaves none.
    have bound := s.toNat_lt
    rw [high_eq_zero_iff, toNat_carry, toNat_carry]
    omega
  refine ⟨2, Nat.le_refl 2, ?_, two, ?_⟩
  · intro k before
    obtain rfl | rfl : k = 0 ∨ k = 1 := by omega
    · exact none
    · exact one
  · rw [← first, ← second]
    exact (fold_of_small two).symm

/-! ### Parts and completion -/

theorem fold_residue (s : UInt32) :
    (fold s).toNat % 65535 = s.toNat % 65535 ∧ ((fold s).toNat = 0 ↔ s.toNat = 0) :=
  fold_eq_iff.1 rfl

theorem fold_sum_append (short : (front ++ back).length ≤ 131074) (even : front.length % 2 = 0) :
    fold (sum (front ++ back)) =
      fold ((fold (sum front)).toUInt32 + (fold (sum back)).toUInt32) := by
  rw [List.length_append] at short
  have whole : (sum (front ++ back)).toNat = total front + total back := by
    rw [toNat_sum (by rw [List.length_append]; exact short), total_append even]
  have parts : ((fold (sum front)).toUInt32 + (fold (sum back)).toUInt32).toNat =
      (fold (sum front)).toNat + (fold (sum back)).toNat := by
    have bound := (fold (sum front)).toNat_lt
    have bound' := (fold (sum back)).toNat_lt
    rw [UInt32.toNat_add, UInt16.toNat_toUInt32, UInt16.toNat_toUInt32]
    omega
  have residue := fold_residue (sum front)
  have residue' := fold_residue (sum back)
  have residues := fold_residue ((fold (sum front)).toUInt32 + (fold (sum back)).toUInt32)
  rw [toNat_sum (by omega)] at residue residue'
  rw [parts] at residues
  rw [fold_eq_iff, whole]
  omega

/-- A checksum that is stored where there were zeros completes its string. -/
theorem compute_completed {o : Nat} (short : bytes.length ≤ 131074) (inside : o + 2 ≤ bytes.length)
    (even : o % 2 = 0) (high : bytes.getD o 0 = 0) (low : bytes.getD (o + 1) 0 = 0) :
    compute (bytes.splice o (Bytes.ofWord (compute bytes))) = 0 := by
  have written := Flow.total_writeWord inside even (compute bytes)
  have blank : (Flow.wordAt (Flow.octetAt bytes) o).toNat = 0 := by
    rw [Flow.wordAt, Flow.octetAt, Flow.octetAt, high, low]
    rfl
  have length : (Flow.writeWord bytes (o, compute bytes)).length = bytes.length :=
    Flow.length_writeWord inside
  have own := (complement_fold_eq_iff (sum bytes) (compute bytes)).1 rfl
  rw [toNat_sum short] at own
  change ~~~ fold (sum (Flow.writeWord bytes (o, compute bytes))) = 0
  rw [complement_fold_eq_iff, toNat_sum (by omega), UInt16.toNat_zero]
  omega

/-- Up to the length at which 32 bits are full, a sum is exact, folding ends with the word that
has its residue and is zero only if the sum is, and the checksum completes it to all ones;
checksums of parts and of completed strings are what the sum says. -/
theorem sum_lawful (short : bytes.length ≤ 131074) :
    (checkedSumFrom 0 bytes = .ok (sum bytes) ∧ (sum bytes).toNat = total bytes) ∧
      (∃ rounds ≤ 2, (∀ k < rounds, carry^[k] (sum bytes) >>> 16 ≠ 0) ∧
        carry^[rounds] (sum bytes) >>> 16 = 0 ∧
        carry^[rounds] (sum bytes) = (fold (sum bytes)).toUInt32) ∧
      ((fold (sum bytes)).toNat % 65535 = total bytes % 65535 ∧
        (fold (sum bytes) = 0 ↔ total bytes = 0)) ∧
      (compute bytes).toNat + (fold (sum bytes)).toNat = 0xFFFF ∧
      (∀ front back, bytes = front ++ back → front.length % 2 = 0 →
        fold (sum bytes) = fold ((fold (sum front)).toUInt32 + (fold (sum back)).toUInt32)) ∧
      ∀ o, o % 2 = 0 → o + 2 ≤ bytes.length → bytes.getD o 0 = 0 → bytes.getD (o + 1) 0 = 0 →
        compute (bytes.splice o (Bytes.ofWord (compute bytes))) = 0 := by
  have exact_sum := toNat_sum short
  have bound := total_le bytes
  have fits : (0 : UInt32).toNat + total bytes < UInt32.size := by
    rw [UInt32.toNat_zero, UInt32.size]
    omega
  obtain ⟨residue, zero⟩ := fold_residue (sum bytes)
  rw [exact_sum] at residue zero
  refine ⟨⟨checkedSumFrom_eq fits, exact_sum⟩, carry_rounds _, ⟨residue, ?_⟩, ?_, ?_, ?_⟩
  · rw [← zero, ← UInt16.toNat_inj, UInt16.toNat_zero]
  · have folded := (fold (sum bytes)).toNat_lt
    rw [compute, UInt16.toNat_not, UInt16.size]
    omega
  · rintro front back rfl even
    exact fold_sum_append short even
  · intro o even inside high low
    exact compute_completed short inside even high low

/-- A header of twenty octets whose checksum, at the tenth, is still to come. -/
def openHeader : Bytes :=
  [0x45, 0x00, 0x00, 0x73, 0x00, 0x00, 0x40, 0x00, 0x40, 0x11, 0x00, 0x00, 0xc0, 0xa8,
    0x00, 0x01, 0xc0, 0xa8, 0x00, 0xc7]

theorem openHeader_lawful :
    openHeader.length ≤ 131074 ∧ total openHeader = 149404 ∧
      checkedSumFrom 0 openHeader = .ok (sum openHeader) ∧
      openHeader.getD 10 0 = 0 ∧ openHeader.getD 11 0 = 0 ∧
      compute (openHeader.splice 10 (Bytes.ofWord (compute openHeader))) = 0 := by
  have short : openHeader.length ≤ 131074 := by decide
  obtain ⟨⟨checked, -⟩, -, -, -, -, completed⟩ := sum_lawful short
  exact ⟨short, by decide, checked, rfl, rfl, completed 10 rfl (by decide) rfl rfl⟩

end Concentrator.Checksum
