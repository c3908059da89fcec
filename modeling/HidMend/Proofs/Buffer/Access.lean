import HidMend.Buffer
import Mathlib.Tactic.Common

/-!
# Access to the fields of a buffer

The accessors of a buffer are characterized by the bytes at an offset.  A field is inside the
buffer when its end is an address and does not exceed the length; outside, every accessor reports
the same fault and a writer leaves the buffer alone.  A word and its two little-endian bytes
determine each other.
-/

namespace HidMend.Buffer

/-! ## Ranges -/

/-- A range is granted if and only if its end is an address and lies inside the buffer. -/
theorem requireRange_eq_ok_iff {size offset width : ℕ} :
    requireRange size offset width = .ok () ↔
      offset + width < addressLimit ∧ offset + width ≤ size := by
  unfold requireRange endOf?
  by_cases haddress : offset + width < addressLimit
  · by_cases hsize : offset + width ≤ size
    · simp [haddress, hsize]
    · simp [haddress, hsize]
  · simp [haddress]

theorem requireRange_eq_error {size offset width : ℕ}
    (houtside : ¬(offset + width < addressLimit ∧ offset + width ≤ size)) :
    requireRange size offset width = .error (.outOfBounds offset width size) := by
  unfold requireRange endOf?
  by_cases haddress : offset + width < addressLimit
  · have hsize : ¬offset + width ≤ size := fun hfits => houtside ⟨haddress, hfits⟩
    simp [haddress, hsize]
  · simp [haddress]

theorem fits_iff {size offset width : ℕ} :
    fits size offset width = true ↔
      offset + width < addressLimit ∧ offset + width ≤ size := by
  unfold fits
  by_cases hinside : offset + width < addressLimit ∧ offset + width ≤ size
  · rw [requireRange_eq_ok_iff.mpr hinside]
    simp [hinside]
  · rw [requireRange_eq_error hinside]
    simp [hinside]

/-! ## Bytes -/

theorem readByte_eq_ok_iff {bytes : Bytes} {offset : ℕ} {byte : UInt8} :
    readByte bytes offset = .ok byte ↔ bytes[offset]? = some byte := by
  unfold readByte
  cases bytes[offset]? with
  | none => simp
  | some found => simp

theorem readByte_eq_error {bytes : Bytes} {offset : ℕ} (houtside : bytes.length ≤ offset) :
    readByte bytes offset = .error (.outOfBounds offset 1 bytes.length) := by
  rw [readByte, List.getElem?_eq_none houtside]

theorem writeByte_of_getElem? {bytes : Bytes} {offset : ℕ} {byte : UInt8} (value : UInt8)
    (hbyte : bytes[offset]? = some byte) :
    writeByte bytes offset value = (.ok (), bytes.set offset value) := by
  obtain ⟨hinside, -⟩ := List.getElem?_eq_some_iff.mp hbyte
  rw [writeByte, if_pos hinside]

theorem set_eq_self_iff {bytes : Bytes} {offset : ℕ} {current : UInt8} (value : UInt8)
    (hcurrent : bytes[offset]? = some current) :
    bytes.set offset value = bytes ↔ value = current := by
  obtain ⟨hinside, hbyte⟩ := List.getElem?_eq_some_iff.mp hcurrent
  constructor
  · intro hsame
    rw [← hsame, List.getElem?_set_self hinside] at hcurrent
    exact Option.some.inj hcurrent
  · rintro rfl
    rw [← hbyte, List.set_getElem_self]

/-! ## Words -/

theorem toNat_wordOf (low high : UInt8) :
    (wordOf low high).toNat = low.toNat + 256 * high.toNat := by
  have hlow : low.toNat < 2 ^ 8 := low.toNat_lt
  have hhigh : high.toNat < 2 ^ 8 := high.toNat_lt
  have hshift : high.toNat <<< 8 < 2 ^ 16 := by
    rw [Nat.shiftLeft_eq]
    omega
  calc
    (wordOf low high).toNat = low.toNat ||| high.toNat <<< 8 % 2 ^ 16 := by
      rw [wordOf, UInt16.toNat_or, UInt16.toNat_shiftLeft, UInt8.toNat_toUInt16,
        UInt8.toNat_toUInt16]
      rfl
    _ = high.toNat <<< 8 ||| low.toNat := by
      rw [Nat.mod_eq_of_lt hshift, Nat.or_comm]
    _ = high.toNat <<< 8 + low.toNat := (Nat.shiftLeft_add_eq_or_of_lt hlow _).symm
    _ = low.toNat + 256 * high.toNat := by
      rw [Nat.shiftLeft_eq]
      omega

theorem toNat_lowByte (word : UInt16) : (lowByte word).toNat = word.toNat % 256 := by
  simp [lowByte]

theorem toNat_highByte (word : UInt16) : (highByte word).toNat = word.toNat / 256 := by
  have hword : word.toNat < 65536 := word.toNat_lt
  simp only [highByte, UInt16.toNat_toUInt8, UInt16.toNat_shiftRight]
  rw [show (8 : UInt16).toNat % 16 = 8 from rfl, Nat.shiftRight_eq_div_pow]
  omega

@[simp]
theorem lowByte_wordOf (low high : UInt8) : lowByte (wordOf low high) = low := by
  apply UInt8.toNat.inj
  have hlow : low.toNat < 256 := low.toNat_lt
  rw [toNat_lowByte, toNat_wordOf]
  omega

@[simp]
theorem highByte_wordOf (low high : UInt8) : highByte (wordOf low high) = high := by
  apply UInt8.toNat.inj
  have hlow : low.toNat < 256 := low.toNat_lt
  rw [toNat_highByte, toNat_wordOf]
  omega

/-- A word is its two bytes. -/
@[simp]
theorem wordOf_lowByte_highByte (word : UInt16) :
    wordOf (lowByte word) (highByte word) = word := by
  apply UInt16.toNat.inj
  rw [toNat_wordOf, toNat_lowByte, toNat_highByte]
  omega

theorem eq_wordOf_iff {word : UInt16} {low high : UInt8} :
    word = wordOf low high ↔ lowByte word = low ∧ highByte word = high := by
  constructor
  · rintro rfl
    exact ⟨lowByte_wordOf low high, highByte_wordOf low high⟩
  · rintro ⟨rfl, rfl⟩
    exact (wordOf_lowByte_highByte word).symm

theorem readWord_of_getElem? {bytes : Bytes} {offset : ℕ} {low high : UInt8}
    (haddress : offset + 2 < addressLimit) (hlow : bytes[offset]? = some low)
    (hhigh : bytes[offset + 1]? = some high) :
    readWord bytes offset = .ok (wordOf low high) := by
  obtain ⟨hinsideLow, rfl⟩ := List.getElem?_eq_some_iff.mp hlow
  obtain ⟨hinsideHigh, rfl⟩ := List.getElem?_eq_some_iff.mp hhigh
  have hfield : (bytes.drop offset).take 2 = [bytes[offset], bytes[offset + 1]] := by
    rw [List.drop_eq_getElem_cons hinsideLow, List.drop_eq_getElem_cons hinsideHigh]
    rfl
  rw [readWord, requireRange_eq_ok_iff.mpr ⟨haddress, by omega⟩, hfield]

/-- A word that can be read consists of the two bytes from its offset on. -/
theorem getElem?_of_readWord {bytes : Bytes} {offset : ℕ} {word : UInt16}
    (hread : readWord bytes offset = .ok word) :
    offset + 2 < addressLimit ∧ bytes[offset]? = some (lowByte word) ∧
      bytes[offset + 1]? = some (highByte word) := by
  by_cases hinside : offset + 2 < addressLimit ∧ offset + 2 ≤ bytes.length
  · have hlow : bytes[offset]? = some bytes[offset] := List.getElem?_eq_getElem _
    have hhigh : bytes[offset + 1]? = some bytes[offset + 1] := List.getElem?_eq_getElem _
    rw [readWord_of_getElem? hinside.1 hlow hhigh] at hread
    cases hread
    simp [hinside.1]
  · rw [readWord, requireRange_eq_error hinside] at hread
    cases hread

theorem readWord_of_lt {bytes : Bytes} {offset : ℕ} (hshort : bytes.length < offset + 2) :
    readWord bytes offset = .error (.outOfBounds offset 2 bytes.length) := by
  rw [readWord, requireRange_eq_error (by omega)]

/-- Whether a word is there is a matter of the length, and what it is one of its two bytes. -/
theorem readWord_congr {left right : Bytes} {offset : ℕ} (hlength : left.length = right.length)
    (hlow : left[offset]? = right[offset]?) (hhigh : left[offset + 1]? = right[offset + 1]?) :
    readWord left offset = readWord right offset := by
  by_cases hinside : offset + 2 < addressLimit ∧ offset + 2 ≤ left.length
  · have hleftLow : left[offset]? = some left[offset] := List.getElem?_eq_getElem _
    have hleftHigh : left[offset + 1]? = some left[offset + 1] := List.getElem?_eq_getElem _
    rw [readWord_of_getElem? hinside.1 hleftLow hleftHigh,
      readWord_of_getElem? hinside.1 (hlow ▸ hleftLow) (hhigh ▸ hleftHigh)]
  · rw [readWord, requireRange_eq_error hinside, readWord, ← hlength,
      requireRange_eq_error hinside]

theorem writeWord_of_getElem? {bytes : Bytes} {offset : ℕ} {high : UInt8} (value : UInt16)
    (haddress : offset + 2 < addressLimit) (hhigh : bytes[offset + 1]? = some high) :
    writeWord bytes offset value =
      (.ok (), (bytes.set offset (lowByte value)).set (offset + 1) (highByte value)) := by
  obtain ⟨hinside, -⟩ := List.getElem?_eq_some_iff.mp hhigh
  rw [writeWord, requireRange_eq_ok_iff.mpr ⟨haddress, by omega⟩]

/-- A word that differs differs in one of its bytes. -/
theorem setWord_eq_self_iff {bytes : Bytes} {offset : ℕ} {current : UInt16} (value : UInt16)
    (hlow : bytes[offset]? = some (lowByte current))
    (hhigh : bytes[offset + 1]? = some (highByte current)) :
    (bytes.set offset (lowByte value)).set (offset + 1) (highByte value) = bytes ↔
      value = current := by
  obtain ⟨hinsideLow, hlowByte⟩ := List.getElem?_eq_some_iff.mp hlow
  obtain ⟨hinsideHigh, hhighByte⟩ := List.getElem?_eq_some_iff.mp hhigh
  constructor
  · intro hsame
    have hnext : offset + 1 ≠ offset := by omega
    rw [← hsame, List.getElem?_set_ne hnext, List.getElem?_set_self hinsideLow] at hlow
    rw [← hsame, List.getElem?_set_self (by rwa [List.length_set])] at hhigh
    rw [← wordOf_lowByte_highByte current]
    exact eq_wordOf_iff.mpr ⟨Option.some.inj hlow, Option.some.inj hhigh⟩
  · rintro rfl
    rw [← hlowByte, List.set_getElem_self, ← hhighByte, List.set_getElem_self]

/-! ## Words in place -/

/-- The two bytes from an offset on make up a word, the low byte first. -/
def HoldsWord (bytes : Bytes) (offset : ℕ) (word : UInt16) : Prop :=
  ∃ low high, bytes[offset]? = some low ∧ bytes[offset + 1]? = some high ∧
    word.toNat = low.toNat + 256 * high.toNat

/-- The low byte of a word comes first. -/
theorem holdsWord_iff {bytes : Bytes} {offset : ℕ} {word : UInt16} :
    HoldsWord bytes offset word ↔
      bytes[offset]? = some (lowByte word) ∧ bytes[offset + 1]? = some (highByte word) := by
  constructor
  · rintro ⟨low, high, hlow, hhigh, hword⟩
    obtain rfl : word = wordOf low high := UInt16.toNat.inj (by rw [hword, toNat_wordOf])
    rw [lowByte_wordOf, highByte_wordOf]
    exact ⟨hlow, hhigh⟩
  · rintro ⟨hlow, hhigh⟩
    refine ⟨lowByte word, highByte word, hlow, hhigh, ?_⟩
    rw [← toNat_wordOf, wordOf_lowByte_highByte]

theorem exists_holdsWord {bytes : Bytes} {offset : ℕ} (hfits : offset + 2 ≤ bytes.length) :
    ∃ word, HoldsWord bytes offset word := by
  have hlow : bytes[offset]? = some bytes[offset] := List.getElem?_eq_getElem _
  have hhigh : bytes[offset + 1]? = some bytes[offset + 1] := List.getElem?_eq_getElem _
  exact ⟨wordOf bytes[offset] bytes[offset + 1], _, _, hlow, hhigh, toNat_wordOf _ _⟩

/-- A word that was written stands where it was written. -/
theorem holdsWord_setWord {bytes : Bytes} {offset : ℕ} (hfits : offset + 2 ≤ bytes.length)
    (word : UInt16) :
    HoldsWord ((bytes.set offset (lowByte word)).set (offset + 1) (highByte word)) offset
      word := by
  have hnext : offset + 1 ≠ offset := by omega
  have hlow : offset < bytes.length := by omega
  have hhigh : offset + 1 < (bytes.set offset (lowByte word)).length := by
    rw [List.length_set]
    omega
  rw [holdsWord_iff, List.getElem?_set_ne hnext, List.getElem?_set_self hlow,
    List.getElem?_set_self hhigh]
  exact ⟨rfl, rfl⟩

end HidMend.Buffer
