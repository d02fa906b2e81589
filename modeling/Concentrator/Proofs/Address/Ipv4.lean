import Concentrator.Address.Ipv4
import Concentrator.Proofs.Text.Numeral

/-!
# Dotted quads are read as they were written
-/

namespace Concentrator.Ipv4

open Text Text.Scan

variable {a : Ipv4} {w x y z : UInt8} {rest : List Char}

theorem exists_octets (a : Ipv4) : ∃ w x y z : UInt8, a.octets = [w, x, y, z] ∧
    a = ofNat (((w.toNat * 256 + x.toNat) * 256 + y.toNat) * 256 + z.toNat) := by
  obtain ⟨bits⟩ := a
  refine ⟨_, _, _, _, rfl, ?_⟩
  have bound := bits.toNat_lt
  rw [ofNat, Ipv4.mk.injEq, ← UInt32.toNat_inj]
  simp only [Bytes.highHalf, Bytes.lowHalf, UInt8.toNat_ofNat', UInt16.toNat_ofNat',
    UInt32.toNat_ofNat']
  omega

theorem toList_text (shape : a.octets = [w, x, y, z]) :
    a.text.toList = digits w.toNat ++ '.' :: (digits x.toNat ++ '.' ::
      (digits y.toNat ++ '.' :: digits z.toNat)) := by
  rw [text, shape, String.toList_intercalate]
  simp [decimal, List.intercalate]

theorem octet_digits {padded : Bool} (octet : UInt8) (stops : Stops rest) :
    number { maxDigits := some 3, leadingZero := padded, bound := 256 }
      (digits octet.toNat ++ rest) = some (octet.toNat, rest) := by
  have below := octet.toNat_lt
  refine number_digits rfl below ?_ stops
  intro most limit
  obtain rfl := Option.some.inj limit
  exact length_digits_le (k := 2) (by omega)

/-- Whether or not padding is allowed, a scan takes an address that no digit follows. -/
theorem scan_text (padded : Bool) (a : Ipv4) (stops : Stops rest) :
    scan padded (a.text.toList ++ rest) = some (a, rest) := by
  obtain ⟨w, x, y, z, shape, value⟩ := exists_octets a
  have dot : ∀ rest, Stops ('.' :: rest) := fun rest => stops_cons rfl
  unfold scan
  simp only [toList_text shape, List.append_assoc, List.cons_append]
  rw [bind_eq (octet_digits w (dot _)), bind_eq (char_cons '.' _),
    bind_eq (octet_digits x (dot _)), bind_eq (char_cons '.' _),
    bind_eq (octet_digits y (dot _)), bind_eq (char_cons '.' _),
    bind_eq (octet_digits z stops), ← value]
  rfl

theorem ofText?_text (a : Ipv4) : ofText? a.text = some a := by
  have whole := scan_text false a stops_nil
  rw [List.append_nil] at whole
  rw [ofText?, all?, whole]

end Concentrator.Ipv4
