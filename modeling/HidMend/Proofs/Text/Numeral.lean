import HidMend.Proofs.Text.Blank
import HidMend.Proofs.Text.Hex
import HidMend.Text.HexNumber

/-!
# Numerals

A numeral is a mark, which may be missing, and one or more digits of either case behind it, with any
number of zeros in front.  It stands for the number of its digits.  A reader of numbers below a
limit accepts exactly the numerals of these numbers, and tells a text that is no numeral from one
whose number is too large.
-/

namespace HidMend.Hex

/-- What may stand in front of digits, once. -/
def marks : List (List Char) :=
  [[], ['0', 'x'], ['0', 'X']]

/-- The characters of numerals. -/
def numeralSpellings : List Char :=
  'x' :: 'X' :: digitSpellings

/-- A text is a mark and these digits. -/
structure HasDigits (text digits : List Char) : Prop where
  ne_nil : digits ≠ []
  mem : ∀ char ∈ digits, char ∈ digitSpellings
  marked : ∃ mark ∈ marks, text = mark ++ digits

/-- A text is a numeral of this number. -/
def Numeral (text : List Char) (amount : ℕ) : Prop :=
  ∃ digits, HasDigits text digits ∧ placeValue digits = amount

variable {text digits : List Char} {width amount limit : ℕ}

/-! ## The grammar -/

/-- One mark is stripped, and what is left must be digits. -/
theorem digitsOf?_eq_some_iff : digitsOf? text = some digits ↔ HasDigits text digits := by
  have hdigits : ∀ run : List Char, (!run.isEmpty && run.all isDigit) = true ↔
      run ≠ [] ∧ ∀ char ∈ run, char ∈ digitSpellings := by
    intro run
    simp [isDigit_iff]
  unfold digitsOf?
  simp only [hdigits, Option.ite_none_right_eq_some, Option.some.injEq]
  constructor
  · rintro ⟨⟨hne, hmem⟩, rfl⟩
    refine ⟨hne, hmem, ?_⟩
    split
    · exact ⟨['0', 'x'], by simp [marks], rfl⟩
    · exact ⟨['0', 'X'], by simp [marks], rfl⟩
    · exact ⟨[], by simp [marks], rfl⟩
  · rintro ⟨hne, hmem, mark, hmark, rfl⟩
    simp only [marks, List.mem_cons, List.not_mem_nil, or_false] at hmark
    -- A mark is no digit, so that digits without a mark are not taken for a marked numeral.
    obtain rfl | rfl | rfl := hmark
    · rw [List.nil_append]
      split
      · exact absurd (hmem 'x' (by simp)) (by decide)
      · exact absurd (hmem 'X' (by simp)) (by decide)
      · exact ⟨⟨hne, hmem⟩, rfl⟩
    · exact ⟨⟨hne, hmem⟩, rfl⟩
    · exact ⟨⟨hne, hmem⟩, rfl⟩

theorem Numeral.mem (hnumeral : Numeral text amount) : ∀ char ∈ text, char ∈ numeralSpellings := by
  obtain ⟨digits, ⟨-, hmem, mark, hmark, rfl⟩, -⟩ := hnumeral
  have hmarks : marks.all (fun mark => mark.all fun char => char ∈ numeralSpellings) = true := by
    decide
  have hfront : ∀ mark ∈ marks, ∀ char ∈ mark, char ∈ numeralSpellings := by
    simpa only [List.all_eq_true, decide_eq_true_eq] using hmarks
  exact List.forall_mem_append.mpr ⟨hfront mark hmark, fun char hchar =>
    List.mem_cons_of_mem _ (List.mem_cons_of_mem _ (hmem char hchar))⟩

/-- A numeral begins with a digit, with or without a mark. -/
theorem Numeral.exists_cons (hnumeral : Numeral text amount) :
    ∃ first rest, text = first :: rest ∧ first ∈ digitSpellings := by
  obtain ⟨digits, ⟨hne, hmem, mark, hmark, rfl⟩, -⟩ := hnumeral
  obtain ⟨first, rest, rfl⟩ := List.exists_cons_of_ne_nil hne
  simp only [marks, List.mem_cons, List.not_mem_nil, or_false] at hmark
  obtain rfl | rfl | rfl := hmark
  · exact ⟨first, rest, rfl, hmem first List.mem_cons_self⟩
  · exact ⟨'0', _, rfl, by decide⟩
  · exact ⟨'0', _, rfl, by decide⟩

theorem isBlank_of_mem_numeralSpellings :
    ∀ char ∈ numeralSpellings, Text.isBlank char = false := by
  have hall : numeralSpellings.all (fun char => !Text.isBlank char) = true := by
    decide
  simpa using hall

theorem Numeral.isWord (hnumeral : Numeral text amount) : Text.IsWord text where
  ne_nil := by
    obtain ⟨first, rest, rfl, -⟩ := hnumeral.exists_cons
    exact List.cons_ne_nil first rest
  solid char hchar := isBlank_of_mem_numeralSpellings char (hnumeral.mem char hchar)

/-- A number that fits the width is written as a numeral of it, behind any mark. -/
theorem numeral_fixed {mark : List Char} (hmark : mark ∈ marks) (hwidth : 0 < width)
    (hfits : amount < 16 ^ width) : Numeral (mark ++ fixed width amount) amount := by
  have hgroup := isGroup_fixed width amount
  refine ⟨fixed width amount, ⟨?_, hgroup.mem, mark, hmark, rfl⟩, placeValue_fixed hfits⟩
  exact List.ne_nil_of_length_pos (by rwa [hgroup.length_eq])

/-! ## Reading -/

theorem number_of_not_numeral (hnone : ¬∃ amount, Numeral text amount) :
    number limit text = .error (.malformed (String.ofList text)) := by
  rw [number]
  cases hdigits : digitsOf? text with
  | none => rfl
  | some digits => exact absurd ⟨_, digits, digitsOf?_eq_some_iff.mp hdigits, rfl⟩ hnone

theorem number_of_le (hnumeral : Numeral text amount) (hlimit : limit ≤ amount) :
    number limit text = .error (.tooLarge (String.ofList text)) := by
  obtain ⟨digits, hhas, rfl⟩ := hnumeral
  simp only [number, digitsOf?_eq_some_iff.mpr hhas, value_eq_placeValue hhas.mem,
    if_neg (Nat.not_lt.mpr hlimit)]

theorem number_of_lt (hnumeral : Numeral text amount) (hlimit : amount < limit) :
    number limit text = .ok amount := by
  obtain ⟨digits, hhas, rfl⟩ := hnumeral
  simp only [number, digitsOf?_eq_some_iff.mpr hhas, value_eq_placeValue hhas.mem, if_pos hlimit]

/-- Numerals below the limit are read, and nothing else. -/
theorem number_eq_ok_iff :
    number limit text = .ok amount ↔ Numeral text amount ∧ amount < limit := by
  constructor
  · intro hread
    by_cases hnumeral : ∃ found, Numeral text found
    · obtain ⟨found, hfound⟩ := hnumeral
      obtain hlimit | hlimit := Nat.lt_or_ge found limit
      · rw [number_of_lt hfound hlimit] at hread
        cases hread
        exact ⟨hfound, hlimit⟩
      · rw [number_of_le hfound hlimit] at hread
        cases hread
    · rw [number_of_not_numeral hnumeral] at hread
      cases hread
  · rintro ⟨hnumeral, hlimit⟩
    exact number_of_lt hnumeral hlimit

/-- Numbers below the limit are also the values of a type of their own. -/
theorem map_number_eq_ok_iff {Value : Type} {ofNat : ℕ → Value} {toNat : Value → ℕ}
    (hofNat : ∀ value, ofNat (toNat value) = value)
    (htoNat : ∀ amount < limit, toNat (ofNat amount) = amount)
    (hlimit : ∀ value, toNat value < limit) {value : Value} :
    (number limit text).map ofNat = .ok value ↔ Numeral text (toNat value) := by
  have hnumber : Numeral text (toNat value) ↔ number limit text = .ok (toNat value) := by
    rw [number_eq_ok_iff, and_iff_left (hlimit value)]
  rw [hnumber]
  cases hread : number limit text with
  | error fault => simp [Except.map]
  | ok amount =>
      simp only [Except.map, Except.ok.injEq]
      constructor
      · rintro rfl
        exact (htoNat amount (number_eq_ok_iff.mp hread).2).symm
      · rintro rfl
        exact hofNat value

theorem word_eq_ok_iff {value : UInt16} : word text = .ok value ↔ Numeral text value.toNat :=
  map_number_eq_ok_iff (fun _ => UInt16.ofNat_toNat) (fun _ => UInt16.toNat_ofNat_of_lt')
    UInt16.toNat_lt

theorem byte_eq_ok_iff {value : UInt8} : byte text = .ok value ↔ Numeral text value.toNat :=
  map_number_eq_ok_iff (fun _ => UInt8.ofNat_toNat) (fun _ => UInt8.toNat_ofNat_of_lt')
    UInt8.toNat_lt

end HidMend.Hex
