import Concentrator.Text.Scan
import Mathlib.Algebra.GroupWithZero.Nat
import Mathlib.Data.List.Basic

/-!
# Numerals are read as they were written

A number is written with digits only, without a leading zero and with as few of them as it
takes, and its digits have its value. A scan for a numeral takes all of them and stops where
no digit follows.
-/

namespace Concentrator.Text

variable {n d k : Nat} {c : Char} {cs rest : List Char}

/-! ### Digits -/

theorem digitValue?_digitChar {base : Nat} (known : base ≤ 16) (small : d < base) :
    digitValue? base (digitChar d) = some d := by
  have each : ∀ base ≤ 16, ∀ d < base, digitValue? base (digitChar d) = some d := by decide
  exact each base known d small

theorem digits_of_lt (small : n < 10) : digits n = [digitChar n] := by
  rw [digits, if_pos small]

theorem digits_of_le (large : 10 ≤ n) : digits n = digits (n / 10) ++ [digitChar (n % 10)] := by
  rw [digits, if_neg (by omega)]

/-- A number is built from digits at its end. -/
theorem digits_induction {motive : Nat → Prop} (single : ∀ n < 10, motive n)
    (more : ∀ n, 10 ≤ n → motive (n / 10) → motive n) (n : Nat) : motive n := by
  induction n using Nat.strongRecOn with
  | ind n ih =>
    by_cases small : n < 10
    · exact single n small
    · exact more n (by omega) (ih (n / 10) (by omega))

theorem isDigit_of_mem_digits (member : c ∈ digits n) : isDigit 10 c = true := by
  induction n using digits_induction with
  | single n small =>
    rw [digits_of_lt small, List.mem_singleton] at member
    rw [member, isDigit, digitValue?_digitChar (by omega) small]
    rfl
  | more n large ih =>
    rw [digits_of_le large, List.mem_append, List.mem_singleton] at member
    rcases member with earlier | rfl
    · exact ih earlier
    · rw [isDigit, digitValue?_digitChar (by omega) (Nat.mod_lt n (by omega))]
      rfl

theorem numeral_concat (base : Nat) (cs : List Char) (c : Char) :
    numeral base (cs ++ [c]) = numeral base cs * base + (digitValue? base c).getD 0 := by
  rw [numeral, numeral, List.foldl_append]
  rfl

theorem numeral_digits (n : Nat) : numeral 10 (digits n) = n := by
  induction n using digits_induction with
  | single n small =>
    rw [digits_of_lt small, ← List.nil_append [digitChar n], numeral_concat,
      digitValue?_digitChar (by omega) small, Option.getD_some]
    exact Nat.zero_add n
  | more n large ih =>
    rw [digits_of_le large, numeral_concat, ih,
      digitValue?_digitChar (by omega) (Nat.mod_lt n (by omega)),
      Option.getD_some]
    omega

theorem digits_ne_nil (n : Nat) : digits n ≠ [] := by
  rw [digits]
  split <;> simp

theorem head?_digits_ne_zero (positive : 1 ≤ n) : (digits n).head? ≠ some '0' := by
  induction n using digits_induction with
  | single n small =>
    have each : ∀ d < 10, 1 ≤ d → digitChar d ≠ '0' := by decide
    rw [digits_of_lt small, List.head?_cons]
    exact fun equal => each n small positive (Option.some.inj equal)
  | more n large ih =>
    rw [digits_of_le large, List.head?_append_of_ne_nil _ (digits_ne_nil _)]
    exact ih (by omega)

theorem digits_unpadded (n : Nat) : (digits n).length = 1 ∨ (digits n).head? ≠ some '0' := by
  by_cases zero : n = 0
  · rw [digits_of_lt (by omega)]
    exact .inl rfl
  · exact .inr (head?_digits_ne_zero (by omega))

theorem length_digits_le (short : n < 10 ^ (k + 1)) : (digits n).length ≤ k + 1 := by
  induction n using digits_induction generalizing k with
  | single n small =>
    rw [digits_of_lt small, List.length_singleton]
    omega
  | more n large ih =>
    cases k with
    | zero => omega
    | succ k =>
      have front := ih (k := k) (by rw [Nat.pow_succ] at short; omega)
      rw [digits_of_le large, List.length_append, List.length_singleton]
      omega

/-! ### Scans -/

namespace Scan

variable {α β : Type} {p q : Scan α} {a : α}

theorem bind_eq (taken : p cs = some (a, rest)) (next : α → Scan β) :
    (p >>= next) cs = next a rest := by
  change (p cs).bind _ = _
  rw [taken]
  rfl

theorem orElse_of_some (taken : p cs = some (a, rest)) : (p <|> q) cs = some (a, rest) := by
  change (p cs).orElse _ = _
  rw [taken]
  rfl

theorem orElse_of_none (failed : p cs = none) : (p <|> q) cs = q cs := by
  change (p cs).orElse _ = _
  rw [failed]
  rfl

theorem char_cons (c : Char) (rest : List Char) : Scan.char c (c :: rest) = some ((), rest) :=
  if_pos rfl

theorem guard_pos {condition : Prop} [Decidable condition] (holds : condition) (cs : List Char) :
    (guard condition : Scan Unit) cs = some ((), cs) := by
  rw [guard, if_pos holds]
  rfl

/-- What follows cannot be taken for a further digit. -/
def Stops (rest : List Char) : Prop := ∀ c ∈ rest.head?, isDigit 10 c = false

theorem stops_nil : Stops [] := by
  intro c first
  cases first

theorem stops_cons (other : isDigit 10 c = false) : Stops (c :: rest) := by
  intro d first
  obtain rfl := Option.some.inj first
  exact other

theorem run_digits (n : Nat) (stops : Stops rest) :
    run (isDigit 10) (digits n ++ rest) = some (digits n, rest) := by
  have taken : ∀ c ∈ digits n, isDigit 10 c = true := fun c => isDigit_of_mem_digits
  rw [run, List.takeWhile_append_of_pos taken, List.dropWhile_append_of_pos taken]
  cases rest with
  | nil => simp
  | cons c rest =>
    have left := stops c rfl
    rw [List.takeWhile_cons_of_neg (by simp [left]), List.dropWhile_cons_of_neg (by simp [left]),
      List.append_nil]

/-- A scan takes the digits of a number that is small enough, padding or none. -/
theorem number_digits {form : Numeral} (decimal : form.base = 10) (below : n < form.bound)
    (short : ∀ most, form.maxDigits = some most → (digits n).length ≤ most) (stops : Stops rest) :
    number form (digits n ++ rest) = some (n, rest) := by
  have room : form.maxDigits.all ((digits n).length ≤ ·) = true := by
    cases limit : form.maxDigits with
    | none => rfl
    | some most => exact decide_eq_true (short most limit)
  unfold number
  rw [decimal, bind_eq (run_digits n stops), bind_eq (guard_pos (digits_ne_nil n) _),
    bind_eq (guard_pos room _), bind_eq (guard_pos (.inr (digits_unpadded n)) _), numeral_digits,
    bind_eq (guard_pos below _)]
  rfl

end Scan

end Concentrator.Text
