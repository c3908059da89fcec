import HidMend.Proofs.Text.Numeral
import Mathlib.Data.List.Forall2

/-!
# The data of a report

The data of a report are the words of a text, each of which is a numeral of a byte.  Reading takes
any such text and refuses every other one because of its first word that is no byte.  Writing knows
one spelling of each list of bytes, and reading takes it back to them.
-/

namespace HidMend.Hex

/-- A word that stands for a byte. -/
def IsByte (word : List Char) : Prop :=
  ∃ amount ≤ 255, Numeral word amount

/-- Why a word is no byte.  The fault carries the word. -/
inductive IsFaultOf (word : List Char) : HexFault → Prop
  | malformed (hnone : ¬∃ amount, Numeral word amount) :
      IsFaultOf word (.malformed (String.ofList word))
  | tooLarge {amount : ℕ} (hnumeral : Numeral word amount) (hlarge : 255 < amount) :
      IsFaultOf word (.tooLarge (String.ofList word))

/-- The one spelling in which the bytes of a text are written. -/
def respelled (text : String) : Except HexFault String :=
  (decode text).map encode

variable {word : List Char} {front rest words : List (List Char)} {fault : HexFault}
  {bytes leftBytes rightBytes : List UInt8} {text left right gap : String}

/-! ## Words -/

theorem isByte_iff : IsByte word ↔ ∃ value : UInt8, Numeral word value.toNat := by
  constructor
  · rintro ⟨amount, hamount, hnumeral⟩
    refine ⟨UInt8.ofNat amount, ?_⟩
    rwa [UInt8.toNat_ofNat_of_lt' (Nat.lt_succ_of_le hamount)]
  · rintro ⟨value, hnumeral⟩
    exact ⟨value.toNat, Nat.le_of_lt_succ value.toNat_lt, hnumeral⟩

theorem exists_byte_eq_error (hword : ¬IsByte word) :
    ∃ fault, byte word = .error fault ∧ IsFaultOf word fault := by
  by_cases hnumeral : ∃ amount, Numeral word amount
  · obtain ⟨amount, hamount⟩ := hnumeral
    have hlarge : 255 < amount := by
      by_contra hsmall
      exact hword ⟨amount, Nat.le_of_not_lt hsmall, hamount⟩
    refine ⟨_, ?_, .tooLarge hamount hlarge⟩
    rw [byte, number_of_le hamount hlarge]
    rfl
  · refine ⟨_, ?_, .malformed hnumeral⟩
    rw [byte, number_of_not_numeral hnumeral]
    rfl

theorem IsFaultOf.byteMessage_eq (hfault : IsFaultOf word fault) :
    ∃ ending, fault.byteMessage = "bad byte '" ++ String.ofList word ++ "'" ++ ending := by
  cases hfault with
  | malformed hnone =>
      exact ⟨"", by simp [HexFault.byteMessage, HexFault.message, String.append_assoc]⟩
  | tooLarge hnumeral hlarge =>
      refine ⟨": number too large to fit in target type", ?_⟩
      simp [HexFault.byteMessage, HexFault.message, String.append_assoc]

/-! ## Lists of words -/

/-- Words are read as bytes one by one. -/
theorem bytesOf_eq_ok_iff : bytesOf words = .ok bytes ↔
    List.Forall₂ (fun word value => Numeral word value.toNat) words bytes := by
  induction words generalizing bytes with
  | nil => simp [bytesOf, eq_comm]
  | cons word words ih =>
      constructor
      · intro hread
        rw [bytesOf] at hread
        cases hbyte : byte word with
        | error fault =>
            rw [hbyte] at hread
            cases hread
        | ok value =>
            cases hmore : bytesOf words with
            | error fault =>
                rw [hbyte, hmore] at hread
                cases hread
            | ok more =>
                rw [hbyte, hmore] at hread
                cases hread
                exact .cons (byte_eq_ok_iff.mp hbyte) (ih.mp hmore)
      · rintro (_ | ⟨hword, hmore⟩)
        rw [bytesOf, byte_eq_ok_iff.mpr hword, ih.mpr hmore]

theorem exists_bytesOf_eq_ok_iff :
    (∃ bytes, bytesOf words = .ok bytes) ↔ ∀ word ∈ words, IsByte word := by
  simp only [bytesOf_eq_ok_iff, isByte_iff]
  induction words with
  | nil => simp
  | cons word words ih => simp [List.forall₂_cons_left_iff, ← ih]

/-- The first word that is no byte decides. -/
theorem bytesOf_append_eq_error (hfront : ∀ word ∈ front, IsByte word)
    (hword : byte word = .error fault) : bytesOf (front ++ word :: rest) = .error fault := by
  induction front with
  | nil => rw [List.nil_append, bytesOf, hword]
  | cons first front ih =>
      obtain ⟨hfirst, hfront⟩ := List.forall_mem_cons.mp hfront
      obtain ⟨value, hvalue⟩ := isByte_iff.mp hfirst
      rw [List.cons_append, bytesOf, byte_eq_ok_iff.mpr hvalue, ih hfront]

/-! ## Texts -/

theorem decode_of_separated (hseparated : Text.Separated text.toList words) :
    decode text = bytesOf words := by
  rw [decode, hseparated.words_eq]

theorem numeral_token (value : UInt8) : Numeral (token value) value.toNat :=
  numeral_fixed (show ['0', 'x'] ∈ marks by decide) (by decide) value.toNat_lt

theorem separated_encode (bytes : List UInt8) :
    Text.Separated (encode bytes).toList (bytes.map token) := by
  rw [encode, String.toList_ofList]
  apply Text.separated_intercalate (by decide)
  intro word hword
  obtain ⟨value, -, rfl⟩ := List.mem_map.mp hword
  exact (numeral_token value).isWord

/-- What is written for bytes is read back. -/
theorem decode_encode (bytes : List UInt8) : decode (encode bytes) = .ok bytes := by
  rw [decode_of_separated (separated_encode bytes), bytesOf_eq_ok_iff, List.forall₂_map_left_iff]
  exact List.forall₂_same.mpr fun value _ => numeral_token value

theorem encode_injective : Function.Injective encode := by
  intro left right heq
  exact Except.ok.inj ((decode_encode left).symm.trans (heq ▸ decode_encode right))

/-- Data behind each other are bytes behind each other. -/
theorem decode_append (hgap : Text.IsGap gap.toList) (hne : gap ≠ "")
    (hleft : decode left = .ok leftBytes) (hright : decode right = .ok rightBytes) :
    decode (left ++ gap ++ right) = .ok (leftBytes ++ rightBytes) := by
  have hwords : Text.words (left ++ gap ++ right).toList =
      Text.words left.toList ++ Text.words right.toList := by
    rw [String.toList_append, String.toList_append]
    exact Text.words_append_gap_append hgap (by simpa using hne) _ _
  rw [decode, bytesOf_eq_ok_iff] at hleft hright ⊢
  rw [hwords]
  exact List.rel_append hleft hright

/-! ## The result -/

/-- What reading and writing the data of reports amount to. -/
structure RecognizesBytes : Prop where
  words : ∀ text : String, ∃! words, Text.Separated text.toList words
  decode_encode : ∀ bytes, decode (encode bytes) = .ok bytes
  accepts_iff : ∀ {text words}, Text.Separated text.toList words →
    ((∃ bytes, decode text = .ok bytes) ↔ ∀ word ∈ words, IsByte word)
  /-- The bytes are the numbers of the words, in their order. -/
  reads : ∀ {text words bytes}, Text.Separated text.toList words → decode text = .ok bytes →
    List.Forall₂ (fun word value => Numeral word value.toNat) words bytes
  /-- The first word that is no byte is the one that is named. -/
  refuses : ∀ {text front word rest}, Text.Separated text.toList (front ++ word :: rest) →
    (∀ early ∈ front, IsByte early) → ¬IsByte word →
    ∃ fault, decode text = .error fault ∧ IsFaultOf word fault ∧
      ∃ ending, fault.byteMessage = "bad byte '" ++ String.ofList word ++ "'" ++ ending
  /-- The written spelling stands for the same bytes and is its own spelling. -/
  respells : ∀ {text spelling}, respelled text = .ok spelling →
    decode spelling = decode text ∧ respelled spelling = .ok spelling
  /-- Texts have a spelling in common only if they have their bytes in common. -/
  decode_eq_iff : ∀ {left right leftSpelling rightSpelling}, respelled left = .ok leftSpelling →
    respelled right = .ok rightSpelling →
    (decode left = decode right ↔ leftSpelling = rightSpelling)
  joins : ∀ {left gap right leftBytes rightBytes}, Text.IsGap gap.toList → gap ≠ "" →
    decode left = .ok leftBytes → decode right = .ok rightBytes →
    decode (left ++ gap ++ right) = .ok (leftBytes ++ rightBytes)

theorem respelled_eq_ok_iff {spelling : String} :
    respelled text = .ok spelling ↔ ∃ bytes, decode text = .ok bytes ∧ encode bytes = spelling := by
  rw [respelled]
  cases decode text <;> simp [Except.map]

/-- Report data are read exactly if all their words are bytes, and are written in one spelling. -/
theorem decode_recognizes_bytes : RecognizesBytes where
  words text := Text.existsUnique_separated text.toList
  decode_encode := decode_encode
  accepts_iff hseparated := by
    rw [decode_of_separated hseparated]
    exact exists_bytesOf_eq_ok_iff
  reads hseparated hdecode := by
    rw [decode_of_separated hseparated] at hdecode
    exact bytesOf_eq_ok_iff.mp hdecode
  refuses hseparated hfront hword := by
    obtain ⟨fault, hbyte, hfault⟩ := exists_byte_eq_error hword
    refine ⟨fault, ?_, hfault, hfault.byteMessage_eq⟩
    rw [decode_of_separated hseparated, bytesOf_append_eq_error hfront hbyte]
  respells hspelling := by
    obtain ⟨bytes, hdecode, rfl⟩ := respelled_eq_ok_iff.mp hspelling
    exact ⟨(decode_encode bytes).trans hdecode.symm,
      respelled_eq_ok_iff.mpr ⟨bytes, decode_encode bytes, rfl⟩⟩
  decode_eq_iff hleft hright := by
    obtain ⟨leftBytes, hleftBytes, rfl⟩ := respelled_eq_ok_iff.mp hleft
    obtain ⟨rightBytes, hrightBytes, rfl⟩ := respelled_eq_ok_iff.mp hright
    rw [hleftBytes, hrightBytes, Except.ok.injEq, encode_injective.eq_iff]
  joins := decode_append

/-- A sign is no part of a numeral, and the first word that is no byte hides one behind it that is
too large; an ideographic space joins texts as well as any other. -/
theorem decode_recognizes_bytes_signed :
    (Text.Separated "0x07 +29 100".toList ["0x07".toList, "+29".toList, "100".toList] ∧
      IsByte "0x07".toList ∧ ¬IsByte "+29".toList ∧
      decode "0x07 +29 100" = .error (.malformed "+29")) ∧
    (respelled "fF" = .ok "0xFF" ∧ decode "0xFF" = decode "fF") ∧
    decode ("0X007" ++ "\u3000" ++ "fF") = .ok [7, 255] := by
  have hseparated : Text.Separated "0x07 +29 100".toList
      (["0x07".toList] ++ "+29".toList :: ["100".toList]) :=
    Text.words_eq_iff.mp (by decide)
  have hfirst : IsByte "0x07".toList := isByte_iff.mpr ⟨7, byte_eq_ok_iff.mp (by decide)⟩
  have hread : decode "0x07 +29 100" = .error (.malformed "+29") := by decide
  have hsigned : ¬IsByte "+29".toList := by
    intro hword
    obtain ⟨value, hvalue⟩ := isByte_iff.mp hword
    cases (show byte "+29".toList = .error (.malformed "+29") by decide).symm.trans
      (byte_eq_ok_iff.mpr hvalue)
  obtain ⟨fault, hdecode, hfault, -⟩ :=
    decode_recognizes_bytes.refuses hseparated (List.forall_mem_singleton.mpr hfirst) hsigned
  obtain rfl := Except.error.inj (hread.symm.trans hdecode)
  have hspelling : respelled "fF" = .ok "0xFF" := by decide
  exact ⟨⟨hseparated, hfirst, hsigned, hdecode⟩,
    ⟨hspelling, (decode_recognizes_bytes.respells hspelling).1⟩,
    decode_recognizes_bytes.joins (by decide) (by decide)
      (show decode "0X007" = .ok [7] by decide) (show decode "fF" = .ok [255] by decide)⟩

end HidMend.Hex
