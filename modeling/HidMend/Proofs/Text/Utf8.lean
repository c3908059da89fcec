import HidMend.Files
import Mathlib.Tactic.Common

/-!
# Texts and their bytes

The bytes of a text are read back as this text, and no other bytes are.
-/

namespace HidMend

theorem byteArrayToList_loop (bytes : ByteArray) (offset : ℕ) (front : List UInt8) :
    ByteArray.toList.loop bytes offset front =
      front.reverse ++ bytes.data.toList.drop offset := by
  fun_induction ByteArray.toList.loop bytes offset front with
  | case1 offset front hinside ih =>
      have hbound : offset < bytes.data.toList.length := by simpa using hinside
      rw [ih, List.drop_eq_getElem_cons hbound]
      simp [ByteArray.get!, getElem!_pos, hinside]
  | case2 offset front hend =>
      have hbound : bytes.data.toList.length ≤ offset := by simpa using hend
      rw [List.drop_eq_nil_of_le hbound, List.append_nil]

theorem mk_toArray_byteArrayToList (bytes : ByteArray) : ⟨bytes.toList.toArray⟩ = bytes := by
  have hlist : bytes.toList = bytes.data.toList := byteArrayToList_loop bytes 0 []
  rw [hlist]

/-- A text is written character by character. -/
theorem bytesOfText_eq_flatMap (text : String) :
    bytesOfText text = text.toList.flatMap String.utf8EncodeChar := by
  have hlist : text.toUTF8.toList = text.toByteArray.data.toList := byteArrayToList_loop _ 0 []
  rw [bytesOfText, hlist, ← String.utf8Encode_toList, List.utf8Encode,
    List.toList_data_toByteArray]

theorem length_bytesOfText (text : String) : (bytesOfText text).length = text.utf8ByteSize := by
  have hlist : text.toUTF8.toList = text.toByteArray.data.toList := byteArrayToList_loop _ 0 []
  rw [bytesOfText, hlist]
  rfl

/-- A written text is read back. -/
@[simp]
theorem textOfBytes_bytesOfText (text : String) : textOfBytes (bytesOfText text) = .ok text := by
  have htext : String.fromUTF8? text.toUTF8 = some text := by
    rw [String.fromUTF8?, dif_pos (show text.toUTF8.IsValidUTF8 from text.isValidUTF8)]
    rfl
  rw [textOfBytes, bytesOfText, mk_toArray_byteArrayToList, htext]

theorem bytesOfText_injective : Function.Injective bytesOfText := by
  intro left right hbytes
  have htext := congrArg textOfBytes hbytes
  rw [textOfBytes_bytesOfText, textOfBytes_bytesOfText] at htext
  exact Except.ok.inj htext

/-- Bytes are a text if and only if they are the bytes of it. -/
theorem textOfBytes_eq_ok_iff {bytes : Bytes} {text : String} :
    textOfBytes bytes = .ok text ↔ bytes = bytesOfText text := by
  constructor
  · intro htext
    rw [textOfBytes, String.fromUTF8?] at htext
    split_ifs at htext with hvalid
    cases htext
    have hlist : (ByteArray.mk bytes.toArray).toList = bytes := byteArrayToList_loop _ 0 []
    exact hlist.symm
  · rintro rfl
    exact textOfBytes_bytesOfText text

end HidMend
