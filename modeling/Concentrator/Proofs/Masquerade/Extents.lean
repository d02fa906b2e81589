import Concentrator.Proofs.Checksum
import Concentrator.Proofs.Masquerade.Readdress
import Mathlib.Algebra.GroupWithZero.Nat

/-!
# Sums of parts of a packet

A word that is written changes the sum of a part of a packet by the difference to
the word that was there, if it lies in that part, and else not at all. So does a
list of words that lie apart from one another.
-/

namespace Concentrator.Flow

open Checksum (total)

variable {bytes packet : Bytes} {o n first last : Nat} {w : UInt16}
  {patches : List (Nat × UInt16)}

/-! ### Writing and cutting -/

theorem writeWord_eq (bytes : Bytes) (o : Nat) (w : UInt16) :
    writeWord bytes (o, w) = bytes.take o ++ (Bytes.ofWord w ++ bytes.drop (o + 2)) :=
  List.append_assoc ..

theorem take_writeWord (inside : o + 2 ≤ bytes.length) (within : o + 2 ≤ n) :
    (writeWord bytes (o, w)).take n = writeWord (bytes.take n) (o, w) := by
  have front : (bytes.take o).length = o := List.length_take_of_le (by omega)
  have word : (Bytes.ofWord w).length = 2 := rfl
  rw [writeWord_eq, writeWord_eq, List.take_append, List.take_append, front, word,
    List.take_take, List.take_take, List.drop_take, Nat.sub_sub, Nat.min_comm,
    List.take_of_length_le (l := Bytes.ofWord w) (by omega)]

theorem take_writeWord_of_le (inside : o + 2 ≤ bytes.length) (beyond : n ≤ o) :
    (writeWord bytes (o, w)).take n = bytes.take n := by
  have front : (bytes.take o).length = o := List.length_take_of_le (by omega)
  rw [writeWord_eq, List.take_append_of_le_length (by omega), List.take_take,
    Nat.min_eq_left beyond]

theorem drop_writeWord (inside : o + 2 ≤ bytes.length) (beyond : n ≤ o) :
    (writeWord bytes (o, w)).drop n = writeWord (bytes.drop n) (o - n, w) := by
  have front : (bytes.take o).length = o := List.length_take_of_le (by omega)
  have rest : n + (o - n + 2) = o + 2 := by omega
  rw [writeWord_eq, writeWord_eq, List.drop_append_of_le_length (by omega), List.drop_take,
    List.drop_drop, rest]

theorem drop_writeWord_of_le (inside : o + 2 ≤ bytes.length) (before : o + 2 ≤ n) :
    (writeWord bytes (o, w)).drop n = bytes.drop n := by
  have front : (bytes.take o ++ Bytes.ofWord w).length = o + 2 := by
    rw [List.length_append, List.length_take_of_le (by omega)]
    rfl
  have rest : o + 2 + (n - (o + 2)) = n := by omega
  rw [writeWord_eq, ← List.append_assoc, List.drop_append, front, List.drop_drop, rest,
    List.drop_eq_nil_of_le (by omega), List.nil_append]

theorem total_writeWord (inside : o + 2 ≤ bytes.length) (even : o % 2 = 0) (w : UInt16) :
    total (writeWord bytes (o, w)) + (wordAt (octetAt bytes) o).toNat = total bytes + w.toNat := by
  have front : (bytes.take o).length % 2 = 0 := by
    rw [List.length_take_of_le (by omega)]
    exact even
  have octet : ∀ i (inside : i < bytes.length), octetAt bytes i = bytes[i] := by
    intro i inside
    rw [octetAt, List.getD_eq_getElem?_getD, List.getElem?_eq_getElem inside, Option.getD_some]
  have parts : bytes = bytes.take o ++
      octetAt bytes o :: octetAt bytes (o + 1) :: bytes.drop (o + 2) := by
    rw [octet o (by omega), octet (o + 1) (by omega), ← List.drop_eq_getElem_cons,
      ← List.drop_eq_getElem_cons, List.take_append_drop]
  have before : total bytes =
      total (bytes.take o) + ((wordAt (octetAt bytes) o).toNat + total (bytes.drop (o + 2))) :=
    (congrArg total parts).trans (Checksum.total_append front)
  have after : total (writeWord bytes (o, w)) =
      total (bytes.take o) + (w.toNat + total (bytes.drop (o + 2))) := by
    rw [writeWord_eq, Checksum.total_append front, Bytes.ofWord, List.cons_append, List.cons_append,
      List.nil_append, total, Bytes.word_halves]
  omega

/-- A word that is written changes nothing in a word that lies apart from it. -/
theorem wordAt_writeWord_apart {i : Nat} (inside : o + 2 ≤ bytes.length) (apart : Apart i o) :
    wordAt (octetAt (writeWord bytes (o, w))) i = wordAt (octetAt bytes) i := by
  unfold Apart at apart
  rw [wordAt, octetAt_writeWord inside (by omega), octetAt_writeWord inside (by omega), wordAt]

/-! ### Parts of a packet -/

/-- The octets from `first` on that lie before `last`. -/
def extent (bytes : Bytes) (first last : Nat) : Bytes := (bytes.take last).drop first

theorem wordAt_extent {i : Nat} (upper : first + i + 2 ≤ last) :
    wordAt (octetAt (extent bytes first last)) i = wordAt (octetAt bytes) (first + i) := by
  have octet : ∀ j, first + j < last →
      octetAt (extent bytes first last) j = octetAt bytes (first + j) := by
    intro j below
    rw [octetAt, octetAt, List.getD_eq_getElem?_getD, List.getD_eq_getElem?_getD, extent,
      List.getElem?_drop, List.getElem?_take_of_lt below]
  rw [wordAt, octet i (by omega), octet (i + 1) (by omega), wordAt, Nat.add_assoc]

/-- A word lies in a part of a packet, on its word boundaries, or outside. -/
def Placed (first last o : Nat) : Prop :=
  first ≤ o ∧ o + 2 ≤ last ∧ (o - first) % 2 = 0 ∨ o + 2 ≤ first ∨ last ≤ o

/-- What a word in its place adds to the sum of a part of a packet. -/
def share (first last o : Nat) (w : UInt16) : Nat :=
  if first ≤ o ∧ o + 2 ≤ last then w.toNat else 0

theorem total_extent_writeWord (inside : o + 2 ≤ bytes.length) (placed : Placed first last o)
    (w : UInt16) :
    total (extent (writeWord bytes (o, w)) first last) +
        share first last o (wordAt (octetAt bytes) o) =
      total (extent bytes first last) + share first last o w := by
  rcases placed with ⟨lower, upper, even⟩ | before | beyond
  · have within : o - first + 2 ≤ (extent bytes first last).length := by
      rw [extent, List.length_drop, List.length_take]
      omega
    have written : extent (writeWord bytes (o, w)) first last =
        writeWord (extent bytes first last) (o - first, w) := by
      rw [extent, take_writeWord inside upper, drop_writeWord (n := first) _ lower, extent]
      rw [List.length_take]
      omega
    have place : first + (o - first) = o := by omega
    have sum := total_writeWord within even w
    rw [wordAt_extent (by omega), place, ← written] at sum
    rw [share, share, if_pos ⟨lower, upper⟩, if_pos ⟨lower, upper⟩, sum]
  · have same : extent (writeWord bytes (o, w)) first last = extent bytes first last := by
      rw [extent, List.drop_take, drop_writeWord_of_le inside before, ← List.drop_take, extent]
    rw [same, share, share, if_neg (by omega), if_neg (by omega)]
  · have same : extent (writeWord bytes (o, w)) first last = extent bytes first last := by
      rw [extent, take_writeWord_of_le inside beyond, extent]
    rw [same, share, share, if_neg (by omega), if_neg (by omega)]

/-- Words that lie apart from one another change the sum of a part each by itself. -/
theorem total_extent_writeWords (first last : Nat)
    (inside : ∀ q ∈ patches, q.1 + 2 ≤ bytes.length ∧ Placed first last q.1)
    (apart : patches.Pairwise fun q q' => Apart q.1 q'.1) :
    total (extent (patches.foldl writeWord bytes) first last) +
        (patches.map fun q => share first last q.1 (wordAt (octetAt bytes) q.1)).sum =
      total (extent bytes first last) +
        (patches.map fun q => share first last q.1 q.2).sum := by
  induction patches generalizing bytes with
  | nil => rfl
  | cons q rest ih =>
    obtain ⟨here, placed⟩ := inside q List.mem_cons_self
    obtain ⟨others, apart'⟩ := List.pairwise_cons.1 apart
    have length : (writeWord bytes q).length = bytes.length := length_writeWord here
    have inside' : ∀ q' ∈ rest,
        q'.1 + 2 ≤ (writeWord bytes q).length ∧ Placed first last q'.1 := by
      intro q' member
      rw [length]
      exact inside q' (List.mem_cons_of_mem _ member)
    have same : (rest.map fun q' =>
          share first last q'.1 (wordAt (octetAt (writeWord bytes q)) q'.1)) =
        rest.map fun q' => share first last q'.1 (wordAt (octetAt bytes) q'.1) := by
      refine List.map_congr_left fun q' member => congrArg (share first last q'.1) ?_
      exact wordAt_writeWord_apart here (others q' member).symm
    have later := ih inside' apart'
    have now : total (extent (writeWord bytes q) first last) +
        share first last q.1 (wordAt (octetAt bytes) q.1) =
          total (extent bytes first last) + share first last q.1 q.2 :=
      total_extent_writeWord here placed q.2
    rw [same] at later
    rw [List.foldl_cons, List.map_cons, List.sum_cons, List.map_cons, List.sum_cons]
    omega

theorem share_inside (lower : first ≤ o) (upper : o + 2 ≤ last) : share first last o w = w.toNat :=
  if_pos ⟨lower, upper⟩

theorem share_outside (outside : o + 2 ≤ first ∨ last ≤ o) : share first last o w = 0 :=
  if_neg (by omega)

/-- The packet with zero in place of one of its words. -/
def blank (packet : Bytes) (o : Nat) : Bytes := writeWord packet (o, 0)

theorem total_extent_blank (inside : o + 2 ≤ packet.length) (lower : first ≤ o)
    (upper : o + 2 ≤ last) (even : (o - first) % 2 = 0) :
    total (extent (blank packet o) first last) + (wordAt (octetAt packet) o).toNat =
      total (extent packet first last) := by
  have erased := total_extent_writeWord inside (.inl ⟨lower, upper, even⟩) 0
  rw [share_inside lower upper, share_inside lower upper] at erased
  exact erased

theorem length_extent_le (bytes : Bytes) (first last : Nat) :
    (extent bytes first last).length ≤ last - first := by
  rw [extent, List.length_drop, List.length_take]
  omega

end Concentrator.Flow
