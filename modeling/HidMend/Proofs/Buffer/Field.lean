import HidMend.Proofs.Buffer.Rewrite
import Mathlib.Data.Nat.Bitwise
import Mathlib.Data.Set.Insert

/-!
# Fields are checked alike

Some accessors compute the end of their field and others only look up a byte.  On buffers that have
less bytes than there are addresses they all agree with the check of the range: they succeed where
the end of the field, as a number without bound, does not exceed the length, and report the fault of
that check elsewhere.  A writer that fails writes nothing, and one that succeeds writes its field
and nothing else.
-/

namespace HidMend.Buffer

variable {bytes : Bytes} {byte : UInt8} {size offset width bit other : ℕ}

/-- Whether an access succeeded, and if not, why. -/
def outcome {Value : Type} (result : Except BufferFault Value) : Except BufferFault Unit :=
  result.map fun _ => ()

/-! ## Ranges as numbers without bound -/

theorem requireRange_of_le (hsize : size < addressLimit) (hfits : offset + width ≤ size) :
    requireRange size offset width = .ok () :=
  requireRange_eq_ok_iff.mpr ⟨lt_of_le_of_lt hfits hsize, hfits⟩

theorem requireRange_of_lt (houtside : size < offset + width) :
    requireRange size offset width = .error (.outOfBounds offset width size) :=
  requireRange_eq_error fun ⟨_, hfits⟩ => absurd houtside (Nat.not_lt.mpr hfits)

/-- A field of one byte fits where there is a byte. -/
theorem fits_or_not (hlength : bytes.length < addressLimit) (offset : ℕ) :
    (∃ byte, bytes[offset]? = some byte ∧ requireRange bytes.length offset 1 = .ok ()) ∨
      (bytes.length ≤ offset ∧
        requireRange bytes.length offset 1 = .error (.outOfBounds offset 1 bytes.length)) := by
  rcases Nat.lt_or_ge offset bytes.length with hinside | houtside
  · exact .inl ⟨bytes[offset], List.getElem?_eq_getElem hinside, requireRange_of_le hlength hinside⟩
  · exact .inr ⟨houtside, requireRange_of_lt (Nat.lt_succ_of_le houtside)⟩

/-! ## Bits of a byte -/

theorem bitMask_of_lt (hbit : bit < 8) : bitMask bit = .ok (1 <<< UInt8.ofNat bit) :=
  if_pos hbit

theorem bitMask_of_le (hbit : 8 ≤ bit) : bitMask bit = .error (.invalidBit bit) :=
  if_neg (Nat.not_lt.mpr hbit)

/-- The mask of a bit has that bit only. -/
theorem toNat_mask (hbit : bit < 8) : ((1 : UInt8) <<< UInt8.ofNat bit).toNat = 2 ^ bit := by
  revert hbit bit
  decide

theorem and_mask_ne_zero (byte : UInt8) (hbit : bit < 8) :
    (byte &&& 1 <<< UInt8.ofNat bit != 0) = byte.toNat.testBit bit := by
  have hzero : byte &&& 1 <<< UInt8.ofNat bit = 0 ↔ byte.toNat.testBit bit = false := by
    rw [← UInt8.toNat_inj, UInt8.toNat_and, toNat_mask hbit, Nat.and_two_pow]
    cases byte.toNat.testBit bit <;> simp
  cases htest : byte.toNat.testBit bit with
  | false => simpa using hzero.mpr htest
  | true => simpa [htest] using hzero

/-- The byte with one bit replaced. -/
def withBit (byte : UInt8) (bit : ℕ) (value : Bool) : UInt8 :=
  if value then byte ||| 1 <<< UInt8.ofNat bit else byte &&& ~~~(1 <<< UInt8.ofNat bit)

/-- Setting one bit leaves the seven others. -/
theorem testBit_withBit (byte : UInt8) (value : Bool) (hbit : bit < 8) (hother : other < 8) :
    (withBit byte bit value).toNat.testBit other =
      if other = bit then value else byte.toNat.testBit other := by
  cases value with
  | false =>
      have hmask : 2 ^ bit < 2 ^ 8 := Nat.pow_lt_pow_right (by decide) hbit
      have hnot : (~~~(1 <<< UInt8.ofNat bit) : UInt8).toNat = 2 ^ 8 - (2 ^ bit + 1) := by
        rw [UInt8.toNat_not, toNat_mask hbit, Nat.sub_sub, Nat.add_comm 1]
        rfl
      rw [withBit, if_neg (by decide), UInt8.toNat_and, hnot, Nat.testBit_and,
        Nat.testBit_two_pow_sub_succ hmask, Nat.testBit_two_pow]
      by_cases hsame : other = bit
      · simp [hsame]
      · simp [hsame, hother, Ne.symm hsame]
  | true =>
      rw [withBit, if_pos rfl, UInt8.toNat_or, toNat_mask hbit, Nat.testBit_or,
        Nat.testBit_two_pow]
      by_cases hsame : other = bit
      · simp [hsame]
      · simp [hsame, Ne.symm hsame]

/-! ## Accessors where their field is -/

theorem readByte_of_getElem? (hbyte : bytes[offset]? = some byte) :
    readByte bytes offset = .ok byte :=
  readByte_eq_ok_iff.mpr hbyte

theorem readSigned_of_getElem? (hbyte : bytes[offset]? = some byte) :
    readSigned bytes offset = .ok byte.toInt8 := by
  rw [readSigned, readByte_of_getElem? hbyte]
  rfl

theorem readBit_of_getElem? (hbyte : bytes[offset]? = some byte) (hbit : bit < 8) :
    readBit bytes offset bit = .ok (byte.toNat.testBit bit) := by
  rw [readBit, bitMask_of_lt hbit]
  simp only [readByte_of_getElem? hbyte, Except.map, and_mask_ne_zero byte hbit]

theorem writeBit_of_getElem? (hbyte : bytes[offset]? = some byte) (hbit : bit < 8)
    (value : Bool) :
    writeBit bytes offset bit value = (.ok (), bytes.set offset (withBit byte bit value)) := by
  rw [writeBit, bitMask_of_lt hbit]
  simp only [readByte_of_getElem? hbyte]
  exact writeByte_of_getElem? _ hbyte

theorem xorByte_of_getElem? (hbyte : bytes[offset]? = some byte) (mask : UInt8) :
    xorByte bytes offset mask = (.ok (byte ^^^ mask), bytes.set offset (byte ^^^ mask)) := by
  simp only [xorByte, readByte_of_getElem? hbyte, writeByte_of_getElem? _ hbyte]

/-! ## Accessors where it is not -/

theorem writeByte_eq_error (houtside : bytes.length ≤ offset) (value : UInt8) :
    writeByte bytes offset value = (.error (.outOfBounds offset 1 bytes.length), bytes) :=
  if_neg (Nat.not_lt.mpr houtside)

theorem readSigned_eq_error (houtside : bytes.length ≤ offset) :
    readSigned bytes offset = .error (.outOfBounds offset 1 bytes.length) := by
  rw [readSigned, readByte_eq_error houtside]
  rfl

theorem readBit_eq_error (houtside : bytes.length ≤ offset) (hbit : bit < 8) :
    readBit bytes offset bit = .error (.outOfBounds offset 1 bytes.length) := by
  rw [readBit, bitMask_of_lt hbit]
  simp only [readByte_eq_error houtside, Except.map]

theorem writeBit_eq_error (houtside : bytes.length ≤ offset) (hbit : bit < 8) (value : Bool) :
    writeBit bytes offset bit value = (.error (.outOfBounds offset 1 bytes.length), bytes) := by
  rw [writeBit, bitMask_of_lt hbit]
  simp only [readByte_eq_error houtside]

theorem xorByte_eq_error (houtside : bytes.length ≤ offset) (mask : UInt8) :
    xorByte bytes offset mask = (.error (.outOfBounds offset 1 bytes.length), bytes) := by
  simp only [xorByte, readByte_eq_error houtside]

theorem readBit_invalid (hbit : 8 ≤ bit) (bytes : Bytes) (offset : ℕ) :
    readBit bytes offset bit = .error (.invalidBit bit) := by
  rw [readBit, bitMask_of_le hbit]

theorem writeBit_invalid (hbit : 8 ≤ bit) (bytes : Bytes) (offset : ℕ) (value : Bool) :
    writeBit bytes offset bit value = (.error (.invalidBit bit), bytes) := by
  rw [writeBit, bitMask_of_le hbit]

/-! ## Every accessor checks its range -/

/-- A writer answers as the check of its field does, writes nothing if it fails, and at most the
bytes of its field if it succeeds. -/
structure WritesField {Value : Type} (check : Except BufferFault Unit) (touched : Set ℕ)
    (before : Bytes) (written : Except BufferFault Value × Bytes) : Prop where
  outcome_eq : outcome written.1 = check
  eq_of_fault : ∀ fault, written.1 = .error fault → written.2 = before
  rewrite : Rewrite touched .changed before written.2

section

variable {Value : Type} {result : Except BufferFault Value}
  {written : Except BufferFault Value × Bytes}

/-- A reader that succeeds inside the buffer and fails outside does what the check says. -/
theorem outcome_eq_of_cases (hlength : bytes.length < addressLimit)
    (hinside : ∀ byte, bytes[offset]? = some byte → ∃ value, result = .ok value)
    (houtside : bytes.length ≤ offset → result = .error (.outOfBounds offset 1 bytes.length)) :
    outcome result = requireRange bytes.length offset 1 := by
  rcases fits_or_not hlength offset with ⟨byte, hbyte, hcheck⟩ | ⟨hle, hcheck⟩
  · obtain ⟨value, rfl⟩ := hinside byte hbyte
    exact hcheck.symm
  · rw [houtside hle, hcheck]
    rfl

/-- A writer that sets one byte inside the buffer and fails outside writes a field. -/
theorem writesField_of_cases (hlength : bytes.length < addressLimit)
    (hinside : ∀ byte, bytes[offset]? = some byte →
      ∃ value new, written = (.ok value, bytes.set offset new))
    (houtside : bytes.length ≤ offset →
      written = (.error (.outOfBounds offset 1 bytes.length), bytes)) :
    WritesField (requireRange bytes.length offset 1) {offset} bytes written where
  outcome_eq := by
    refine outcome_eq_of_cases hlength (fun byte hbyte => ?_) (fun hle => ?_)
    · obtain ⟨value, new, hwritten⟩ := hinside byte hbyte
      exact ⟨value, congrArg Prod.fst hwritten⟩
    · exact congrArg Prod.fst (houtside hle)
  eq_of_fault fault hfault := by
    rcases fits_or_not hlength offset with ⟨byte, hbyte, -⟩ | ⟨hle, -⟩
    · obtain ⟨value, new, rfl⟩ := hinside byte hbyte
      cases hfault
    · rw [houtside hle]
  rewrite := by
    rcases fits_or_not hlength offset with ⟨byte, hbyte, -⟩ | ⟨hle, -⟩
    · obtain ⟨value, new, rfl⟩ := hinside byte hbyte
      exact (Rewrite.set new hbyte (Set.mem_singleton offset)).changed
    · rw [houtside hle]
      exact Rewrite.refl _ _ bytes

end

theorem outcome_readWord (bytes : Bytes) (offset : ℕ) :
    outcome (readWord bytes offset) = requireRange bytes.length offset 2 := by
  by_cases hinside : offset + 2 < addressLimit ∧ offset + 2 ≤ bytes.length
  · have hlow : bytes[offset]? = some bytes[offset] := List.getElem?_eq_getElem _
    have hhigh : bytes[offset + 1]? = some bytes[offset + 1] := List.getElem?_eq_getElem _
    rw [readWord_of_getElem? hinside.1 hlow hhigh, requireRange_eq_ok_iff.mpr hinside]
    rfl
  · rw [readWord, requireRange_eq_error hinside]
    rfl

/-- A word is written where it fits, and nowhere else. -/
theorem writeWord_of_check (value : UInt16)
    (hcheck : requireRange bytes.length offset 2 = .ok ()) :
    writeWord bytes offset value =
      (.ok (), (bytes.set offset (lowByte value)).set (offset + 1) (highByte value)) := by
  rw [writeWord, hcheck]

theorem writeWord_of_fault {fault : BufferFault} (value : UInt16)
    (hcheck : requireRange bytes.length offset 2 = .error fault) :
    writeWord bytes offset value = (.error fault, bytes) := by
  rw [writeWord, hcheck]

/-- A word is written to its two bytes or, if they are not both there, nowhere. -/
theorem writesField_writeWord (bytes : Bytes) (offset : ℕ) (value : UInt16) :
    WritesField (requireRange bytes.length offset 2) {offset, offset + 1} bytes
      (writeWord bytes offset value) := by
  cases hcheck : requireRange bytes.length offset 2 with
  | error fault =>
      rw [writeWord_of_fault value hcheck]
      exact ⟨rfl, fun _ _ => rfl, Rewrite.refl _ _ bytes⟩
  | ok _ =>
      obtain ⟨-, hfits⟩ := requireRange_eq_ok_iff.mp hcheck
      obtain ⟨word, hword⟩ := exists_holdsWord hfits
      obtain ⟨hlow, hhigh⟩ := holdsWord_iff.mp hword
      have hfirst : offset ∈ ({offset, offset + 1} : Set ℕ) := Set.mem_insert _ _
      have hsecond : offset + 1 ∈ ({offset, offset + 1} : Set ℕ) :=
        Set.mem_insert_of_mem _ (Set.mem_singleton _)
      rw [writeWord_of_check value hcheck]
      exact ⟨rfl, nofun, (Rewrite.setWord value hlow hhigh hfirst hsecond).changed⟩

/-! ## Reading back -/

theorem exists_byte_of_check (hcheck : requireRange bytes.length offset 1 = .ok ()) :
    ∃ byte, bytes[offset]? = some byte := by
  have hinside : offset < bytes.length := (requireRange_eq_ok_iff.mp hcheck).2
  exact ⟨bytes[offset], List.getElem?_eq_getElem hinside⟩

theorem getElem?_set_of_getElem? (hbyte : bytes[offset]? = some byte) (value : UInt8) :
    (bytes.set offset value)[offset]? = some value :=
  List.getElem?_set_self (List.getElem?_eq_some_iff.mp hbyte).1

/-- A bit that was written is read back, and the other bits of its byte are read as before. -/
theorem readBit_writeBit (hbyte : bytes[offset]? = some byte) (value : Bool) (hbit : bit < 8)
    (hother : other < 8) :
    readBit (writeBit bytes offset bit value).2 offset other =
      if other = bit then .ok value else readBit bytes offset other := by
  rw [writeBit_of_getElem? hbyte hbit, readBit_of_getElem? hbyte hother,
    readBit_of_getElem? (getElem?_set_of_getElem? hbyte _) hother, testBit_withBit _ _ hbit hother]
  split_ifs <;> rfl

/-- The same mask twice is no change, inside the buffer and outside. -/
theorem xorByte_xorByte (bytes : Bytes) (offset : ℕ) (mask : UInt8) :
    (xorByte (xorByte bytes offset mask).2 offset mask).2 = bytes := by
  cases hbyte : bytes[offset]? with
  | none =>
      have houtside : bytes.length ≤ offset := List.getElem?_eq_none_iff.mp hbyte
      rw [xorByte_eq_error houtside, xorByte_eq_error houtside]
  | some byte =>
      have hback : byte ^^^ mask ^^^ mask = byte := by
        rw [UInt8.xor_assoc, UInt8.xor_self, UInt8.xor_zero]
      rw [xorByte_of_getElem? hbyte, xorByte_of_getElem? (getElem?_set_of_getElem? hbyte _),
        List.set_set, hback]
      exact (set_eq_self_iff byte hbyte).mpr rfl

/-! ## The result -/

/-- What every accessor does at an offset of a buffer. -/
structure FieldsConsistent (bytes : Bytes) (offset : ℕ) : Prop where
  /-- The check compares the end of a field, as a number without bound, with the length. -/
  range : ∀ {size width}, size < addressLimit →
    (requireRange size offset width = .ok () ↔ offset + width ≤ size) ∧
      (size < offset + width →
        requireRange size offset width = .error (.outOfBounds offset width size))
  readByte_checks : outcome (readByte bytes offset) = requireRange bytes.length offset 1
  readSigned_checks : outcome (readSigned bytes offset) = requireRange bytes.length offset 1
  readWord_checks : outcome (readWord bytes offset) = requireRange bytes.length offset 2
  readBit_checks : ∀ bit < 8,
    outcome (readBit bytes offset bit) = requireRange bytes.length offset 1
  writeByte_writes : ∀ value,
    WritesField (requireRange bytes.length offset 1) {offset} bytes (writeByte bytes offset value)
  writeWord_writes : ∀ value, WritesField (requireRange bytes.length offset 2)
    {offset, offset + 1} bytes (writeWord bytes offset value)
  writeBit_writes : ∀ bit < 8, ∀ value, WritesField (requireRange bytes.length offset 1) {offset}
    bytes (writeBit bytes offset bit value)
  xorByte_writes : ∀ mask,
    WritesField (requireRange bytes.length offset 1) {offset} bytes (xorByte bytes offset mask)
  /-- A bit number that no bit has is the fault, whatever the offset. -/
  bit_invalid : ∀ bit, 8 ≤ bit → readBit bytes offset bit = .error (.invalidBit bit) ∧
    ∀ value, writeBit bytes offset bit value = (.error (.invalidBit bit), bytes)
  byte_read_back : requireRange bytes.length offset 1 = .ok () → ∀ value,
    readByte (writeByte bytes offset value).2 offset = .ok value ∧
      readSigned (writeByte bytes offset value).2 offset = .ok value.toInt8
  /-- The low byte of a word stands in front. -/
  word_read_back : requireRange bytes.length offset 2 = .ok () → ∀ value,
    readWord (writeWord bytes offset value).2 offset = .ok value ∧
      HoldsWord (writeWord bytes offset value).2 offset value
  /-- Of the eight bits of its byte, a written bit changes itself only. -/
  bit_read_back : requireRange bytes.length offset 1 = .ok () → ∀ bit < 8, ∀ value, ∀ other < 8,
    readBit (writeBit bytes offset bit value).2 offset other =
      if other = bit then .ok value else readBit bytes offset other
  bit_place : ∀ byte, bytes[offset]? = some byte → ∀ bit < 8,
    readBit bytes offset bit = .ok (byte.toNat.testBit bit)
  xor_read_back : ∀ byte, bytes[offset]? = some byte → ∀ mask,
    (xorByte bytes offset mask).1 = .ok (byte ^^^ mask) ∧
      readByte (xorByte bytes offset mask).2 offset = .ok (byte ^^^ mask)
  xor_twice : ∀ mask, (xorByte (xorByte bytes offset mask).2 offset mask).2 = bytes

/-- All readers and writers of one place agree on what stands there, on which bytes belong to it,
and on whether it is in the buffer. -/
theorem fields_consistent (hlength : bytes.length < addressLimit) (offset : ℕ) :
    FieldsConsistent bytes offset where
  range hsize := by
    refine ⟨⟨fun hcheck => (requireRange_eq_ok_iff.mp hcheck).2, requireRange_of_le hsize⟩,
      requireRange_of_lt⟩
  readByte_checks := outcome_eq_of_cases hlength
    (fun _ hbyte => ⟨_, readByte_of_getElem? hbyte⟩) readByte_eq_error
  readSigned_checks := outcome_eq_of_cases hlength
    (fun _ hbyte => ⟨_, readSigned_of_getElem? hbyte⟩) readSigned_eq_error
  readWord_checks := outcome_readWord bytes offset
  readBit_checks bit hbit := outcome_eq_of_cases hlength
    (fun _ hbyte => ⟨_, readBit_of_getElem? hbyte hbit⟩) fun hle => readBit_eq_error hle hbit
  writeByte_writes value := writesField_of_cases hlength
    (fun _ hbyte => ⟨_, _, writeByte_of_getElem? value hbyte⟩)
    fun hle => writeByte_eq_error hle value
  writeWord_writes := writesField_writeWord bytes offset
  writeBit_writes bit hbit value := writesField_of_cases hlength
    (fun _ hbyte => ⟨_, _, writeBit_of_getElem? hbyte hbit value⟩)
    fun hle => writeBit_eq_error hle hbit value
  xorByte_writes mask := writesField_of_cases hlength
    (fun _ hbyte => ⟨_, _, xorByte_of_getElem? hbyte mask⟩) fun hle => xorByte_eq_error hle mask
  bit_invalid bit hbit := ⟨readBit_invalid hbit bytes offset, writeBit_invalid hbit bytes offset⟩
  byte_read_back hcheck value := by
    obtain ⟨byte, hbyte⟩ := exists_byte_of_check hcheck
    have hwritten := getElem?_set_of_getElem? hbyte value
    rw [writeByte_of_getElem? value hbyte]
    exact ⟨readByte_of_getElem? hwritten, readSigned_of_getElem? hwritten⟩
  word_read_back hcheck value := by
    obtain ⟨haddress, hfits⟩ := requireRange_eq_ok_iff.mp hcheck
    have hholds := holdsWord_setWord hfits value
    obtain ⟨hlow, hhigh⟩ := holdsWord_iff.mp hholds
    rw [writeWord_of_check value hcheck]
    refine ⟨?_, hholds⟩
    rw [readWord_of_getElem? haddress hlow hhigh, wordOf_lowByte_highByte]
  bit_read_back hcheck bit hbit value other hother := by
    obtain ⟨byte, hbyte⟩ := exists_byte_of_check hcheck
    exact readBit_writeBit hbyte value hbit hother
  bit_place byte hbyte bit hbit := readBit_of_getElem? hbyte hbit
  xor_read_back byte hbyte mask := by
    rw [xorByte_of_getElem? hbyte]
    exact ⟨rfl, readByte_of_getElem? (getElem?_set_of_getElem? hbyte _)⟩
  xor_twice := xorByte_xorByte bytes offset

/-- At the last byte of a buffer, where a byte fits and a word does not. -/
theorem fields_consistent_lastByte :
    ([0x07, 0x29, 0x10] : Bytes).length < addressLimit ∧ FieldsConsistent [0x07, 0x29, 0x10] 2 :=
  ⟨by decide, fields_consistent (by decide) 2⟩

end HidMend.Buffer
