import HidMend.Json.Printer
import HidMend.Json.Reader
import HidMend.Proofs.Text.Decimal

/-!
# Literals are read back

What the printer writes for a string or a number, the reader takes for that string or number,
whatever follows a string, and in front of anything that does not go on with a number.
-/

namespace HidMend.Json

variable {char : Char} {text rest : List Char}

/-! ## Strings -/

theorem unitOfDigits?_control : ∀ code < 0x20,
    unitOfDigits? ['0', '0', Hex.lowerDigit (code / 16), Hex.lowerDigit (code % 16)] =
      some (.char (Char.ofNat code)) := by
  decide

theorem units?_plain (hquote : char ≠ '\x22') (hescape : char ≠ '\\')
    (hprints : ¬char.toNat < 0x20) (rest : List Char) :
    units? (char :: rest) = (units? rest).map fun result => (.char char :: result.1, result.2) := by
  rw [units?, if_neg hquote, if_neg (by simp [hescape, hprints])]
  · cases units? rest <;> rfl
  · rintro _ _ _ _ _ rfl
    exact absurd rfl hescape
  · rintro _ _ rfl
    exact absurd rfl hescape

/-- Every character is read back from how it is escaped. -/
theorem units?_escape (char : Char) (rest : List Char) :
    units? (escape char ++ rest) =
      (units? rest).map fun result => (.char char :: result.1, result.2) := by
  have hletter : ∀ letter, unescape? letter = some char → letter ≠ 'u' →
      units? ('\\' :: letter :: rest) =
        (units? rest).map fun result => (.char char :: result.1, result.2) := by
    intro letter hunescape hother
    rw [units?, hunescape]
    · cases units? rest <;> rfl
    · rintro _ _ _ _ _ rfl
      exact absurd rfl hother
  rw [escape]
  split_ifs with hquote hbackslash hbackspace hfeed hline hreturn htab hcontrol
  · exact hletter '\x22' (by rw [hquote]; rfl) (by decide)
  · exact hletter '\\' (by rw [hbackslash]; rfl) (by decide)
  · exact hletter 'b' (by rw [hbackspace]; rfl) (by decide)
  · exact hletter 'f' (by rw [hfeed]; rfl) (by decide)
  · exact hletter 'n' (by rw [hline]; rfl) (by decide)
  · exact hletter 'r' (by rw [hreturn]; rfl) (by decide)
  · exact hletter 't' (by rw [htab]; rfl) (by decide)
  · simp only [List.cons_append, List.nil_append]
    rw [units?, unitOfDigits?_control _ hcontrol, Char.ofNat_toNat]
    cases units? rest <;> rfl
  · exact units?_plain hquote hbackslash hcontrol rest

/-- An escaped text is read back up to its closing quote. -/
theorem units?_flatMap_escape (text rest : List Char) :
    units? (text.flatMap escape ++ '\x22' :: rest) = some (text.map .char, rest) := by
  induction text with
  | nil => rfl
  | cons char text ih =>
      rw [List.flatMap_cons, List.append_assoc, units?_escape, ih]
      rfl

theorem textOf?_map_char (text : List Char) : textOf? (text.map .char) = some text := by
  induction text with
  | nil => rfl
  | cons char text ih => rw [List.map_cons, textOf?, ih, Option.map_some]

theorem string?_quote (text rest : List Char) :
    string? (text.flatMap escape ++ '\x22' :: rest) = some (some text, rest) := by
  rw [string?, units?_flatMap_escape, Option.map_some, textOf?_map_char]

theorem quote_append (text rest : List Char) :
    quote text ++ rest = '\x22' :: (text.flatMap escape ++ '\x22' :: rest) := by
  simp [quote]

/-! ## Numbers -/

/-- The text does not go on with the number in front of it. -/
def EndsNumber (rest : List Char) : Prop :=
  ∀ char ∈ rest.head?, char.isDigit = false ∧ char ≠ '.' ∧ char ≠ 'e' ∧ char ≠ 'E'

theorem endsNumber_nil : EndsNumber [] := by
  simp [EndsNumber]

theorem endsNumber_cons (hdigit : char.isDigit = false) (hpoint : char ≠ '.')
    (hlower : char ≠ 'e') (hupper : char ≠ 'E') (rest : List Char) :
    EndsNumber (char :: rest) := by
  rintro _ ⟨⟩
  exact ⟨hdigit, hpoint, hlower, hupper⟩

theorem digits_append (hdigits : ∀ char ∈ text, char.isDigit = true)
    (hends : ∀ char ∈ rest.head?, char.isDigit = false) :
    digits (text ++ rest) = (text, rest) := by
  rw [digits, List.takeWhile_append_of_pos hdigits, List.dropWhile_append_of_pos hdigits]
  cases rest with
  | nil => simp
  | cons char rest =>
      have hchar : ¬char.isDigit = true := by simpa using hends char rfl
      rw [List.takeWhile_cons_of_neg hchar, List.dropWhile_cons_of_neg hchar, List.append_nil]

theorem fractionPart?_of_ends (hends : EndsNumber rest) :
    fractionPart? rest = some ([], rest) := by
  cases rest with
  | nil => rfl
  | cons char rest =>
      rw [fractionPart?]
      rintro _ ⟨⟩
      exact (hends '.' rfl).2.1 rfl

theorem exponentPart?_of_ends (hends : EndsNumber rest) :
    exponentPart? rest = some ([], rest) := by
  cases rest with
  | nil => rfl
  | cons char rest =>
      obtain ⟨-, -, hlower, hupper⟩ := hends char rfl
      exact if_neg (by simp [hlower, hupper])

theorem integerPart?_digits (number : ℕ) (hends : EndsNumber rest) :
    integerPart? (Decimal.digits number ++ rest) = some (Decimal.digits number, rest) := by
  rw [integerPart?, digits_append (Decimal.isDigit_of_mem_digits number)
    fun char hchar => (hends char hchar).1]
  split
  · next hnil => exact absurd (congrArg Prod.fst hnil) (Decimal.digits_ne_nil number)
  · next hzero =>
      have hdigits := congrArg Prod.fst hzero
      exact absurd (Decimal.eq_nil_of_digits_eq_cons hdigits) (List.cons_ne_nil _ _)
  · next hrun => rw [(Prod.mk.inj hrun).1, (Prod.mk.inj hrun).2]

/-- The digits of a number are read as the number. -/
theorem unsigned?_digits (number : ℕ) (hends : EndsNumber rest) :
    unsigned? (Decimal.digits number ++ rest) = some (natural number, rest) := by
  simp only [unsigned?, integerPart?_digits number hends, fractionPart?_of_ends hends,
    exponentPart?_of_ends hends, List.isEmpty_nil, Bool.and_self, if_true, Decimal.value_digits]

end HidMend.Json
