import HidMend.Text.Decimal
import Mathlib.Tactic.Common
import Mathlib.Data.List.Basic

/-!
# Decimal numbers are read back

The digits of a number stand for it, and only zero is written with a zero in front.
-/

namespace HidMend.Decimal

variable {number digit : ℕ}

theorem isDigit_ofNat : ∀ digit < 10, (Char.ofNat (0x30 + digit)).isDigit = true := by
  decide

theorem toNat_ofNat_sub : ∀ digit < 10, (Char.ofNat (0x30 + digit)).toNat - 0x30 = digit := by
  decide

theorem ofNat_ne_zero : ∀ digit < 10, digit ≠ 0 → Char.ofNat (0x30 + digit) ≠ '0' := by
  decide

theorem digits_of_lt (hsmall : number < 10) : digits number = [Char.ofNat (0x30 + number)] := by
  rw [digits, if_pos hsmall]

theorem digits_of_le (hlarge : 10 ≤ number) :
    digits number = digits (number / 10) ++ [Char.ofNat (0x30 + number % 10)] := by
  rw [digits, if_neg (Nat.not_lt.mpr hlarge)]

theorem digits_ne_nil (number : ℕ) : digits number ≠ [] := by
  obtain hsmall | hlarge := Nat.lt_or_ge number 10
  · rw [digits_of_lt hsmall]
    exact List.cons_ne_nil _ _
  · rw [digits_of_le hlarge]
    exact List.append_ne_nil_of_right_ne_nil _ (List.cons_ne_nil _ _)

theorem isDigit_of_mem_digits (number : ℕ) : ∀ char ∈ digits number, char.isDigit = true := by
  induction number using digits.induct with
  | case1 number hsmall =>
      rw [digits_of_lt hsmall]
      simpa using isDigit_ofNat number hsmall
  | case2 number hlarge ih =>
      rw [digits_of_le (Nat.le_of_not_lt hlarge)]
      intro char hmem
      obtain hmem | hmem := List.mem_append.mp hmem
      · exact ih char hmem
      · rw [List.mem_singleton.mp hmem]
        exact isDigit_ofNat _ (Nat.mod_lt _ (by decide))

theorem value_append (front : List Char) (char : Char) :
    value (front ++ [char]) = value front * 10 + (char.toNat - 0x30) := by
  rw [value, List.foldl_append]
  rfl

/-- A number is read back from its digits. -/
@[simp]
theorem value_digits (number : ℕ) : value (digits number) = number := by
  induction number using digits.induct with
  | case1 number hsmall =>
      rw [digits_of_lt hsmall]
      simpa [value] using toNat_ofNat_sub number hsmall
  | case2 number hlarge ih =>
      rw [digits_of_le (Nat.le_of_not_lt hlarge), value_append, ih,
        toNat_ofNat_sub _ (Nat.mod_lt _ (by decide))]
      omega

theorem head?_digits_ne_zero (hpos : number ≠ 0) : (digits number).head? ≠ some '0' := by
  induction number using digits.induct with
  | case1 number hsmall =>
      rw [digits_of_lt hsmall]
      simpa using ofNat_ne_zero number hsmall hpos
  | case2 number hlarge ih =>
      rw [digits_of_le (Nat.le_of_not_lt hlarge), List.head?_append_of_ne_nil _ (digits_ne_nil _)]
      apply ih
      omega

/-- A zero in front stands alone. -/
theorem eq_nil_of_digits_eq_cons {rest : List Char} (hdigits : digits number = '0' :: rest) :
    rest = [] := by
  by_cases hzero : number = 0
  · subst hzero
    rw [digits_of_lt (by decide)] at hdigits
    exact (List.cons.inj hdigits).2.symm
  · exact absurd (by rw [hdigits]; rfl) (head?_digits_ne_zero hzero)

end HidMend.Decimal
