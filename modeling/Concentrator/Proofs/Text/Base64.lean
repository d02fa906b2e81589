import Concentrator.Text.Base64
import Mathlib.Data.UInt

/-!
# Octets come back from their encoding

Four characters hold as many bits as three octets. `group?_chars` and its two
shorter forms say so for each shape that a group can have, and `decode?_encode`
goes through the groups.
-/

namespace Concentrator.Text.Base64

variable {p q r s : Nat}

theorem value?_char {n : Nat} (small : n < 64) : value? (char n) = some n := by
  have each : ∀ n < 64, value? (char n) = some n := by decide
  exact each n small

theorem char_ne_padding {n : Nat} (small : n < 64) : char n ≠ '=' := by
  intro padding
  have value := value?_char small
  rw [padding] at value
  cases value

/-! ### Groups -/

theorem group?_chars (p_lt : p < 64) (q_lt : q < 64) (r_lt : r < 64) (s_lt : s < 64) :
    group? (char p) (char q) (char r) (char s) =
      some [.ofNat (p * 4 + q / 16), .ofNat (q % 16 * 16 + r / 4), .ofNat (r % 4 * 64 + s)] := by
  rw [group?, value?_char p_lt, value?_char q_lt, value?_char r_lt, value?_char s_lt]
  rfl

/-- Two characters with four bits too many. -/
theorem lastGroup?_pair (p_lt : p < 64) (q_lt : q < 64) (spare : q % 16 = 0) :
    lastGroup? (char p) (char q) '=' '=' = some [.ofNat (p * 4 + q / 16)] := by
  rw [lastGroup?, if_neg (not_not.2 rfl), value?_char p_lt, value?_char q_lt]
  simp [spare]

/-- Three characters with two bits too many. -/
theorem lastGroup?_triple (p_lt : p < 64) (q_lt : q < 64) (r_lt : r < 64) (spare : r % 4 = 0) :
    lastGroup? (char p) (char q) (char r) '=' =
      some [.ofNat (p * 4 + q / 16), .ofNat (q % 16 * 16 + r / 4)] := by
  rw [lastGroup?, if_neg (not_not.2 rfl), value?_char p_lt, value?_char q_lt,
    value?_char r_lt]
  simp [char_ne_padding r_lt, spare]

theorem octet {n : Nat} {a : UInt8} (bits : n = a.toNat) : UInt8.ofNat n = a := by
  rw [bits, UInt8.ofNat_toNat]

theorem group?_octets (a b c : UInt8) :
    group? (char (a.toNat / 4)) (char (a.toNat % 4 * 16 + b.toNat / 16))
      (char (b.toNat % 16 * 4 + c.toNat / 64)) (char (c.toNat % 64)) = some [a, b, c] := by
  have a_lt := a.toNat_lt
  have b_lt := b.toNat_lt
  have c_lt := c.toNat_lt
  rw [group?_chars (by omega) (by omega) (by omega) (by omega), octet (a := a) (by omega),
    octet (a := b) (by omega), octet (a := c) (by omega)]

theorem lastGroup?_three (a b c : UInt8) :
    lastGroup? (char (a.toNat / 4)) (char (a.toNat % 4 * 16 + b.toNat / 16))
      (char (b.toNat % 16 * 4 + c.toNat / 64)) (char (c.toNat % 64)) = some [a, b, c] := by
  rw [lastGroup?, if_pos (char_ne_padding (by omega)), group?_octets]

theorem lastGroup?_two (a b : UInt8) :
    lastGroup? (char (a.toNat / 4)) (char (a.toNat % 4 * 16 + b.toNat / 16))
      (char (b.toNat % 16 * 4)) '=' = some [a, b] := by
  have a_lt := a.toNat_lt
  have b_lt := b.toNat_lt
  rw [lastGroup?_triple (by omega) (by omega) (by omega) (by omega), octet (a := a) (by omega),
    octet (a := b) (by omega)]

theorem lastGroup?_one (a : UInt8) :
    lastGroup? (char (a.toNat / 4)) (char (a.toNat % 4 * 16)) '=' '=' = some [a] := by
  have a_lt := a.toNat_lt
  rw [lastGroup?_pair (by omega) (by omega) (by omega), octet (a := a) (by omega)]

/-! ### Texts -/

theorem encode_eq_nil {bytes : Bytes} : encode bytes = [] ↔ bytes = [] := by
  fun_cases encode <;> simp

/-- A group that is not the last one is read without regard to padding. -/
theorem decode?_cons {p q r s : Char} {rest : List Char} (more : rest ≠ []) :
    decode? (p :: q :: r :: s :: rest) =
      (group? p q r s).bind fun octets => (decode? rest).map (octets ++ ·) := by
  cases rest with
  | nil => exact absurd rfl more
  | cons t rest => simp [decode?, Option.map_eq_bind]

theorem decode?_encode (bytes : Bytes) : decode? (encode bytes) = some bytes := by
  fun_induction encode bytes with
  | case1 => rfl
  | case2 a => exact lastGroup?_one a
  | case3 a b => exact lastGroup?_two a b
  | case4 a b c rest ih =>
    by_cases last : rest = []
    · subst last
      exact lastGroup?_three a b c
    · rw [decode?_cons (mt encode_eq_nil.1 last), group?_octets, ih]
      rfl

end Concentrator.Text.Base64
