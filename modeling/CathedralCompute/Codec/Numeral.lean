import CathedralCompute.Codec.Text
import Mathlib.Data.Nat.Log
import Mathlib.Tactic.Ring

/-!
# Decimal numerals

The decimal text of a natural number or an integer, and its value read back.
Digits are produced least significant last, with the number of bits as fuel, so
that both directions reduce.
-/

set_option autoImplicit false

namespace Codec

/-- The decimal digit of a number below ten. -/
def digit (n : ℕ) : CodePoint := .ofNat _ (48 + n % 10)

/-- The number a decimal digit denotes. -/
def digitValue (c : CodePoint) : ℕ := c.val - 48

@[simp] theorem digit_val (n : ℕ) : (digit n).val = 48 + n % 10 := by
  have small : 48 + n % 10 < 0x110000 := by omega
  simpa [digit] using Nat.mod_eq_of_lt small

@[simp] theorem digitValue_digit (n : ℕ) : digitValue (digit n) = n % 10 := by
  simp [digitValue]

@[simp] theorem isDigit_digit (n : ℕ) : Text.isDigit (digit n) = true := by
  have : n % 10 < 10 := Nat.mod_lt _ (by omega)
  simp [Text.isDigit, Text.inRange]
  omega

/-- The digits of `n`, at most `fuel` of them. -/
def natDigits : ℕ → ℕ → Text
  | 0, _ => []
  | fuel + 1, n => if n < 10 then [digit n] else natDigits fuel (n / 10) ++ [digit n]

/-- `str(n)` of a natural number. -/
def natText (n : ℕ) : Text := natDigits (n.log2 + 1) n

/-- The value of a sequence of digits. -/
def natValue (digits : Text) : ℕ := digits.foldl (fun value c => 10 * value + digitValue c) 0

/-- `str(z)` of an integer. -/
def intText (z : ℤ) : Text := if z < 0 then Text.ofString "-" ++ natText z.natAbs else natText z.natAbs

theorem natValue_append_singleton (digits : Text) (c : CodePoint) :
    natValue (digits ++ [c]) = 10 * natValue digits + digitValue c := by
  simp [natValue]

theorem natValue_natDigits {fuel n : ℕ} (enough : n < 10 ^ fuel) (positive : 0 < fuel) :
    natValue (natDigits fuel n) = n := by
  induction fuel generalizing n with
  | zero => omega
  | succ fuel ih =>
    unfold natDigits
    split
    case isTrue small => simp [natValue, Nat.mod_eq_of_lt small]
    case isFalse large =>
      have enough' : n / 10 < 10 ^ fuel := by
        rw [Nat.div_lt_iff_lt_mul (by omega)]
        rwa [pow_succ] at enough
      have positive' : 0 < fuel := by
        rcases Nat.eq_zero_or_pos fuel with rfl | h
        · simp at enough
          omega
        · exact h
      rw [natValue_append_singleton, ih enough' positive', digitValue_digit]
      omega

private theorem lt_pow_log2 (n : ℕ) : n < 10 ^ (n.log2 + 1) :=
  lt_of_lt_of_le Nat.lt_log2_self (Nat.pow_le_pow_left (by omega) _)

/-- A numeral denotes the number it was made from. -/
@[simp] theorem natValue_natText (n : ℕ) : natValue (natText n) = n :=
  natValue_natDigits (lt_pow_log2 n) (Nat.succ_pos _)

theorem natText_injective : Function.Injective natText := by
  intro m n h
  rw [← natValue_natText m, h, natValue_natText]

theorem forall_mem_natDigits {P : CodePoint → Prop} (h : ∀ n, P (digit n)) (fuel n : ℕ) :
    ∀ c ∈ natDigits fuel n, P c := by
  induction fuel generalizing n with
  | zero => simp [natDigits]
  | succ fuel ih =>
    intro c member
    unfold natDigits at member
    split at member
    · rw [List.mem_singleton.mp member]
      exact h n
    · rcases List.mem_append.mp member with member | member
      · exact ih _ c member
      · rw [List.mem_singleton.mp member]
        exact h n

/-- A numeral consists of digits. -/
theorem isDigit_of_mem_natText {n : ℕ} {c : CodePoint} (h : c ∈ natText n) :
    Text.isDigit c = true :=
  forall_mem_natDigits (P := fun c => Text.isDigit c = true) isDigit_digit _ n c h

theorem length_natDigits_le (fuel n : ℕ) : (natDigits fuel n).length ≤ fuel := by
  induction fuel generalizing n with
  | zero => exact le_rfl
  | succ fuel ih =>
    unfold natDigits
    split
    · simp
    · rw [List.length_append, List.length_singleton]
      exact Nat.succ_le_succ (ih _)

theorem length_natDigits_le_of_lt {fuel n width : ℕ} (small : n < 10 ^ width)
    (positive : 0 < width) : (natDigits fuel n).length ≤ width := by
  induction fuel generalizing n width with
  | zero => exact Nat.zero_le _
  | succ fuel ih =>
    rw [natDigits]
    split
    · exact positive
    case isFalse large =>
      obtain ⟨width, rfl⟩ : ∃ k, width = k + 1 := ⟨width - 1, by omega⟩
      have rest : 0 < width := by
        by_contra none
        obtain rfl : width = 0 := by omega
        omega
      have shorter := @ih (n / 10) width (by rw [pow_succ] at small; omega) rest
      rw [List.length_append, List.length_singleton]
      omega

theorem length_natText_le (n : ℕ) : (natText n).length ≤ n.log2 + 1 := length_natDigits_le _ _

/-- A number of few bits has few digits. -/
theorem length_natText_le_of_lt {n bits : ℕ} (small : n < 2 ^ bits) (positive : 0 < bits) :
    (natText n).length ≤ bits := by
  have digits := length_natText_le n
  by_cases zero : n = 0
  · subst zero
    exact digits.trans positive
  · have log := (Nat.log2_lt zero).mpr small
    omega

theorem natDigits_ne_nil {fuel n : ℕ} (positive : 0 < fuel) : natDigits fuel n ≠ [] := by
  cases fuel with
  | zero => omega
  | succ fuel =>
    unfold natDigits
    split <;> simp

/-- A numeral has a leading digit, which is zero only for zero itself. -/
theorem natDigits_eq_cons {fuel n : ℕ} (enough : n < 10 ^ fuel) (positive : 0 < fuel) :
    ∃ m rest, natDigits fuel n = digit m :: rest ∧ m < 10 ∧ (m = 0 → n = 0 ∧ rest = []) := by
  induction fuel generalizing n with
  | zero => omega
  | succ fuel ih =>
    unfold natDigits
    split
    case isTrue small => exact ⟨n, [], rfl, small, fun zero => ⟨zero, rfl⟩⟩
    case isFalse large =>
      have enough' : n / 10 < 10 ^ fuel := by
        rw [Nat.div_lt_iff_lt_mul (by omega)]
        rwa [pow_succ] at enough
      have positive' : 0 < fuel := by
        rcases Nat.eq_zero_or_pos fuel with rfl | h
        · simp at enough
          omega
        · exact h
      obtain ⟨m, rest, digits, small, zero⟩ := ih enough' positive'
      refine ⟨m, rest ++ [digit n], by rw [digits, List.cons_append], small, fun h => ?_⟩
      have := (zero h).1
      omega

theorem natText_eq_cons (n : ℕ) :
    ∃ m rest, natText n = digit m :: rest ∧ m < 10 ∧ (m = 0 → n = 0 ∧ rest = []) :=
  natDigits_eq_cons (lt_pow_log2 n) (Nat.succ_pos _)

end Codec
