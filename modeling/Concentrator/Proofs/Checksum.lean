import Concentrator.Checksum

/-!
# Ones' complement arithmetic

Folding a sum keeps its residue modulo 65535. Zero has two words there, 0x0000 and
0xFFFF, so a fact about a checksum has two parts: which residue it has, and which of
the two words it is if the residue is zero. Only the sum that is zero folds to 0x0000.
-/

namespace Concentrator.Checksum

variable {n : Nat} {s : UInt32} {w checksum old new : UInt16} {bytes front back : Bytes}

/-! ### Folding -/

theorem foldNat_of_pos (positive : 0 < n) : foldNat n = (n - 1) % 65535 + 1 := by
  fun_induction foldNat n with
  | case1 n carries ih =>
    have left : 0 < n % 65536 + n / 65536 := by omega
    rw [ih left]
    omega
  | case2 n carries => omega

theorem foldNat_zero : foldNat 0 = 0 := by
  rw [foldNat, if_neg (by decide)]

theorem toNat_fold (s : UInt32) : (fold s).toNat = foldNat s.toNat := by
  have small : foldNat s.toNat < 65536 := by
    rcases Nat.eq_zero_or_pos s.toNat with zero | positive
    · rw [zero, foldNat_zero]
      decide
    · rw [foldNat_of_pos positive]
      omega
  rw [fold, UInt16.toNat_ofNat', Nat.mod_eq_of_lt small]

/-- A sum folds to the one word that has its residue and is zero only if the sum is. -/
theorem fold_eq_iff :
    fold s = w ↔ w.toNat % 65535 = s.toNat % 65535 ∧ (w.toNat = 0 ↔ s.toNat = 0) := by
  have bound := w.toNat_lt
  rw [← UInt16.toNat_inj, toNat_fold]
  rcases Nat.eq_zero_or_pos s.toNat with zero | positive
  · rw [zero, foldNat_zero]
    omega
  · rw [foldNat_of_pos positive]
    omega

theorem toNat_complement (w : UInt16) : (~~~ w).toNat = 65535 - w.toNat :=
  UInt16.toNat_not w

theorem complement_fold_eq_iff (s : UInt32) (checksum : UInt16) :
    ~~~ fold s = checksum ↔
      (s.toNat + checksum.toNat) % 65535 = 0 ∧ (checksum.toNat = 65535 ↔ s.toNat = 0) := by
  have bound := checksum.toNat_lt
  have flip : ~~~ fold s = checksum ↔ fold s = ~~~ checksum := by
    constructor
    · rintro rfl
      exact (UInt16.not_not).symm
    · intro equal
      rw [equal, UInt16.not_not]
  rw [flip, fold_eq_iff, toNat_complement]
  omega

/-! ### Repairing -/

theorem toNat_update_sum (checksum old new : UInt16) :
    ((~~~ checksum).toUInt32 + (~~~ old).toUInt32 + new.toUInt32).toNat =
      (65535 - checksum.toNat) + (65535 - old.toNat) + new.toNat := by
  have bound := new.toNat_lt
  simp only [UInt32.toNat_add, UInt16.toNat_toUInt32, toNat_complement]
  omega

/-- A word and the checksum change together so that their sum keeps its residue. -/
theorem update_residue (checksum old new : UInt16) :
    ((update checksum old new).toNat + new.toNat) % 65535 =
      (checksum.toNat + old.toNat) % 65535 := by
  have repaired := (complement_fold_eq_iff _ (update checksum old new)).1 rfl
  rw [toNat_update_sum] at repaired
  have bound := checksum.toNat_lt
  have bound' := old.toNat_lt
  omega

theorem update_eq_ones_iff :
    (update checksum old new).toNat = 65535 ↔
      checksum.toNat = 65535 ∧ old.toNat = 65535 ∧ new.toNat = 0 := by
  have repaired := (complement_fold_eq_iff _ (update checksum old new)).1 rfl
  rw [toNat_update_sum] at repaired
  have bound := checksum.toNat_lt
  have bound' := old.toNat_lt
  omega

theorem updateDouble_residue (checksum : UInt16) (old new : UInt32) :
    ((updateDouble checksum old new).toNat +
        ((Bytes.highHalf new).toNat + (Bytes.lowHalf new).toNat)) % 65535 =
      (checksum.toNat + ((Bytes.highHalf old).toNat + (Bytes.lowHalf old).toNat)) % 65535 := by
  have high := update_residue checksum (Bytes.highHalf old) (Bytes.highHalf new)
  have low := update_residue (update checksum (Bytes.highHalf old) (Bytes.highHalf new))
    (Bytes.lowHalf old) (Bytes.lowHalf new)
  unfold updateDouble
  omega

theorem updateDouble_ne_ones {old new : UInt32} (checksum_ne : checksum.toNat ≠ 65535) :
    (updateDouble checksum old new).toNat ≠ 65535 :=
  fun ones => checksum_ne (update_eq_ones_iff.1 (update_eq_ones_iff.1 ones).1).1

/-! ### Summing -/

/-- The sum of the words of a byte string as a number. -/
def total : Bytes → Nat
  | [] => 0
  | [last] => last.toNat * 256
  | high :: low :: rest => (Bytes.word high low).toNat + total rest

theorem total_le (bytes : Bytes) : total bytes ≤ 65535 * ((bytes.length + 1) / 2) := by
  fun_induction total bytes with
  | case1 => simp
  | case2 last =>
    have bound := last.toNat_lt
    simp only [List.length_cons, List.length_nil]
    omega
  | case3 high low rest ih =>
    have bound := (Bytes.word high low).toNat_lt
    simp only [List.length_cons]
    omega

theorem toNat_add_word {acc : UInt32} {word : UInt16}
    (fits : acc.toNat + word.toNat < UInt32.size) :
    (acc + word.toUInt32).toNat = acc.toNat + word.toNat := by
  rw [UInt32.toNat_add, UInt16.toNat_toUInt32]
  exact Nat.mod_eq_of_lt fits

theorem toNat_sumFrom {acc : UInt32} (fits : acc.toNat + total bytes < UInt32.size) :
    (sumFrom acc bytes).toNat = acc.toNat + total bytes := by
  fun_induction sumFrom acc bytes with
  | case1 => rfl
  | case2 acc last =>
    simp only [total] at fits ⊢
    rw [UInt32.toNat_add, UInt32.toNat_ofNat', Nat.add_mod_mod]
    exact Nat.mod_eq_of_lt fits
  | case3 acc high low rest ih =>
    simp only [total] at fits ⊢
    have next : (acc + (Bytes.word high low).toUInt32).toNat =
        acc.toNat + (Bytes.word high low).toNat := toNat_add_word (by omega)
    rw [ih (by omega), next, Nat.add_assoc]

theorem toNat_sum (short : bytes.length ≤ 131074) : (sum bytes).toNat = total bytes := by
  have bound := total_le bytes
  have fits : (0 : UInt32).toNat + total bytes < UInt32.size := by
    simp only [UInt32.toNat_zero, UInt32.size]
    omega
  rw [sum, toNat_sumFrom fits, UInt32.toNat_zero, Nat.zero_add]

theorem total_append (even : front.length % 2 = 0) :
    total (front ++ back) = total front + total back := by
  fun_induction total front with
  | case1 => rw [List.nil_append, Nat.zero_add]
  | case2 last => simp at even
  | case3 high low rest ih =>
    have even' : rest.length % 2 = 0 := by
      simp only [List.length_cons] at even
      omega
    rw [List.cons_append, List.cons_append, total, ih even', Nat.add_assoc]

theorem toNat_word (high low : UInt8) :
    (Bytes.word high low).toNat = high.toNat * 256 + low.toNat := by
  have bound := high.toNat_lt
  have bound' := low.toNat_lt
  rw [Bytes.word, UInt16.toNat_ofNat', Nat.mod_eq_of_lt (by omega)]

theorem total_eq_zero_iff : total bytes = 0 ↔ ∀ octet ∈ bytes, octet.toNat = 0 := by
  fun_induction total bytes with
  | case1 => simp
  | case2 last =>
    rw [List.forall_mem_singleton]
    omega
  | case3 high low rest ih =>
    rw [toNat_word, List.forall_mem_cons, List.forall_mem_cons, ← ih]
    omega

theorem toNat_pseudoHeader (source destination : UInt32) (protocol : UInt8) (length : UInt16) :
    (pseudoHeader source destination protocol length).toNat =
      (Bytes.highHalf source).toNat + (Bytes.lowHalf source).toNat +
        ((Bytes.highHalf destination).toNat + (Bytes.lowHalf destination).toNat) +
        protocol.toNat + length.toNat := by
  have source_high := (Bytes.highHalf source).toNat_lt
  have source_low := (Bytes.lowHalf source).toNat_lt
  have destination_high := (Bytes.highHalf destination).toNat_lt
  have destination_low := (Bytes.lowHalf destination).toNat_lt
  have number := protocol.toNat_lt
  have size := length.toNat_lt
  simp only [pseudoHeader, UInt32.toNat_add, UInt16.toNat_toUInt32, UInt8.toNat_toUInt32]
  omega

end Concentrator.Checksum
