import HidMend.Text.Hex
import Mathlib.Data.List.Induction
import Mathlib.Data.Nat.Digits.Defs
import Mathlib.Data.String.Basic

/-!
# Hexadecimal numbers by their places

Digits stand for a number by their places, each digit counting its position in the order from `0`
to `f`.  Reading agrees with that for digits of either case.  A number that is written with a fixed
width is read back, and digits that are read and written again come out in upper case.
-/

namespace HidMend.Hex

/-- The characters that are digits, in either case. -/
def digitSpellings : List Char :=
  "0123456789ABCDEFabcdef".toList

/-- The digits in the order of what they count, in lower case. -/
def digitOrder : List Char :=
  "0123456789abcdef".toList

/-- What a digit counts, whatever its case. -/
def digitNumber (char : Char) : ℕ :=
  digitOrder.idxOf char.toLower

/-- The number that digits stand for by their places. -/
def placeValue (digits : List Char) : ℕ :=
  Nat.ofDigits 16 (digits.reverse.map digitNumber)

/-- Digits of either case, as many as the width says. -/
structure IsGroup (width : ℕ) (digits : List Char) : Prop where
  length_eq : digits.length = width
  mem : ∀ char ∈ digits, char ∈ digitSpellings

instance (width : ℕ) (digits : List Char) : Decidable (IsGroup width digits) :=
  decidable_of_iff (digits.length = width ∧ digits.all (fun char => char ∈ digitSpellings) = true)
    ⟨fun ⟨hlength, hall⟩ => ⟨hlength, by simpa using hall⟩,
      fun ⟨hlength, hmem⟩ => ⟨hlength, by simpa using hmem⟩⟩

variable {char : Char} {digits : List Char} {width number : ℕ}

/-! ## Single digits -/

-- `decide` on its own may go through all characters instead of the list.
theorem forall_mem_digitSpellings {fact : Char → Prop} [DecidablePred fact]
    (hall : digitSpellings.all (fun char => fact char) = true) :
    ∀ char ∈ digitSpellings, fact char := by
  simpa using hall

theorem digitValue?_eq : ∀ char ∈ digitSpellings, digitValue? char = some (digitNumber char) :=
  forall_mem_digitSpellings (by decide)

theorem digitNumber_lt : ∀ char ∈ digitSpellings, digitNumber char < 16 :=
  forall_mem_digitSpellings (by decide)

theorem digit_digitNumber : ∀ char ∈ digitSpellings, digit (digitNumber char) = char.toUpper :=
  forall_mem_digitSpellings (by decide)

theorem toLower_mem : ∀ char ∈ digitSpellings,
    char.toLower ∈ digitSpellings ∧ char.toLower.toLower = char.toLower ∧
      char.toUpper.toLower = char.toLower :=
  forall_mem_digitSpellings (by decide)

theorem utf8Size_eq_one : ∀ char ∈ digitSpellings, char.utf8Size = 1 :=
  forall_mem_digitSpellings (by decide)

theorem digit_mem : ∀ number < 16, digit number ∈ digitSpellings ∧
    digitNumber (digit number) = number := by
  decide

theorem mem_of_isDigit_ofNat : ∀ code < 128,
    isDigit (Char.ofNat code) = true → Char.ofNat code ∈ digitSpellings := by
  decide

/-- A character that is read as a digit is an ASCII character, and of these it is enough to look at
each. -/
theorem isDigit_iff : isDigit char = true ↔ char ∈ digitSpellings := by
  constructor
  · intro hdigit
    have hascii : char.toNat < 128 := by
      by_contra hlarge
      have hbehind : ∀ last : Char, last.toNat < 128 → ¬char ≤ last := by
        intro last hlast hle
        have hcodes : char.toNat ≤ last.toNat := UInt32.le_iff_toNat_le.mp hle
        omega
      simp [isDigit, digitValue?, hbehind '9' (by decide), hbehind 'F' (by decide),
        hbehind 'f' (by decide)] at hdigit
    simpa using mem_of_isDigit_ofNat char.toNat hascii (by simpa using hdigit)
  · intro hmem
    rw [isDigit, digitValue?_eq char hmem]
    rfl

/-- A group has as many bytes as digits. -/
theorem IsGroup.utf8Len_eq (hgroup : IsGroup width digits) : String.utf8Len digits = width := by
  obtain ⟨rfl, hdigits⟩ := hgroup
  induction digits with
  | nil => rfl
  | cons char rest ih =>
      simp only [List.forall_mem_cons] at hdigits
      rw [String.utf8Len_cons, ih hdigits.2, utf8Size_eq_one char hdigits.1, List.length_cons]

/-! ## Numbers -/

theorem value_append (front : List Char) (char : Char) :
    value (front ++ [char]) = value front * 16 + (digitValue? char).getD 0 := by
  rw [value, List.foldl_append]
  rfl

theorem placeValue_append (front : List Char) (char : Char) :
    placeValue (front ++ [char]) = digitNumber char + 16 * placeValue front := by
  simp [placeValue, Nat.ofDigits_cons]

/-- The reader of digits goes from the left, the place value from the right. -/
theorem value_eq_placeValue (hdigits : ∀ char ∈ digits, char ∈ digitSpellings) :
    value digits = placeValue digits := by
  induction digits using List.reverseRecOn with
  | nil => rfl
  | append_singleton front last ih =>
      simp only [List.forall_mem_append, List.forall_mem_singleton] at hdigits
      rw [value_append, placeValue_append, ih hdigits.1, digitValue?_eq last hdigits.2,
        Option.getD_some]
      omega

theorem placeValue_lt (hgroup : IsGroup width digits) : placeValue digits < 16 ^ width := by
  have hnumbers : ∀ number ∈ digits.reverse.map digitNumber, number < 16 := by
    simpa using fun char hchar => digitNumber_lt char (hgroup.mem char hchar)
  simpa [placeValue, hgroup.length_eq] using
    Nat.ofDigits_lt_base_pow_length (by decide) hnumbers

theorem isGroup_fixed (width number : ℕ) : IsGroup width (fixed width number) := by
  induction width generalizing number with
  | zero => exact ⟨rfl, by simp [fixed]⟩
  | succ width ih =>
      have hlast := (digit_mem (number % 16) (Nat.mod_lt _ (by decide))).1
      refine ⟨by simp [fixed, (ih _).length_eq], ?_⟩
      simp only [fixed, List.forall_mem_append, List.forall_mem_singleton]
      exact ⟨(ih (number / 16)).mem, hlast⟩

/-- A number that fits the width is read back. -/
theorem placeValue_fixed (hfits : number < 16 ^ width) :
    placeValue (fixed width number) = number := by
  induction width generalizing number with
  | zero => exact (Nat.lt_one_iff.mp hfits).symm
  | succ width ih =>
      have hlast := (digit_mem (number % 16) (Nat.mod_lt _ (by decide))).2
      have hfront : number / 16 < 16 ^ width := by
        rw [pow_succ] at hfits
        omega
      rw [fixed, placeValue_append, ih hfront, hlast]
      omega

/-- Digits that are read and written with their width come out in upper case. -/
theorem fixed_placeValue (hgroup : IsGroup width digits) :
    fixed width (placeValue digits) = digits.map Char.toUpper := by
  obtain ⟨rfl, hdigits⟩ := hgroup
  induction digits using List.reverseRecOn with
  | nil => rfl
  | append_singleton front last ih =>
      simp only [List.forall_mem_append, List.forall_mem_singleton] at hdigits
      have hlast := digitNumber_lt last hdigits.2
      have hrest : (digitNumber last + 16 * placeValue front) / 16 = placeValue front := by omega
      have hdigit : (digitNumber last + 16 * placeValue front) % 16 = digitNumber last := by omega
      rw [placeValue_append, List.length_append, List.length_singleton, fixed, hrest, hdigit,
        ih hdigits.1, digit_digitNumber last hdigits.2, List.map_append, List.map_singleton]

/-! ## Case -/

theorem IsGroup.map_toLower (hgroup : IsGroup width digits) :
    IsGroup width (digits.map Char.toLower) where
  length_eq := (List.length_map _).trans hgroup.length_eq
  mem := by simpa using fun char hchar => (toLower_mem char (hgroup.mem char hchar)).1

theorem placeValue_map_toLower (hgroup : IsGroup width digits) :
    placeValue (digits.map Char.toLower) = placeValue digits := by
  have hnumbers : (digits.map Char.toLower).map digitNumber = digits.map digitNumber := by
    rw [List.map_map]
    refine List.map_congr_left fun char hchar => ?_
    simp only [Function.comp_apply, digitNumber, (toLower_mem char (hgroup.mem char hchar)).2.1]
  rw [placeValue, placeValue, List.map_reverse, hnumbers, List.map_reverse]

theorem map_toLower_map_toUpper (hgroup : IsGroup width digits) :
    (digits.map Char.toUpper).map Char.toLower = digits.map Char.toLower := by
  rw [List.map_map]
  exact List.map_congr_left fun char hchar => (toLower_mem char (hgroup.mem char hchar)).2.2

end HidMend.Hex
