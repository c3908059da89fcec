import HidMend.Text.Blank
import HidMend.Text.Hex

/-!
# Hexadecimal numbers in input texts

People write a number with or without `0x` in front and with any number of leading zeros.  A 16-bit
number stands alone; a report is a list of bytes separated by white space.  Bytes are written back
as `0x` and two upper-case digits, with a space between them.
-/

namespace HidMend

/-- Why a text is not the number it should be. -/
inductive HexFault
  /-- Not an optional prefix and one or more hexadecimal digits. -/
  | malformed (text : String)
  /-- More than the number of bits can hold. -/
  | tooLarge (text : String)
  deriving DecidableEq, Repr

namespace HexFault

/-- The wording, behind a phrase that says what the text should have been. -/
def message (phrase : String) : HexFault → String
  | malformed text => phrase ++ " '" ++ text ++ "'"
  | tooLarge text => phrase ++ " '" ++ text ++ "': number too large to fit in target type"

/-- The wording for a number that stands alone. -/
def valueMessage (fault : HexFault) : String :=
  fault.message "invalid hex value"

/-- The wording for one byte of a report. -/
def byteMessage (fault : HexFault) : String :=
  fault.message "bad byte"

end HexFault

namespace Hex

/-- Read a number below a limit. -/
def number (limit : Nat) (text : List Char) : Except HexFault Nat :=
  match digitsOf? text with
  | none => .error (.malformed (String.ofList text))
  | some digits =>
      if value digits < limit then .ok (value digits)
      else .error (.tooLarge (String.ofList text))

/-- Read a 16-bit number. -/
def word (text : List Char) : Except HexFault UInt16 :=
  (number 65536 text).map UInt16.ofNat

/-- Read one byte. -/
def byte (token : List Char) : Except HexFault UInt8 :=
  (number 256 token).map UInt8.ofNat

/-- Read the words of a list as bytes, up to the first that is none. -/
def bytesOf : List (List Char) → Except HexFault (List UInt8)
  | [] => .ok []
  | token :: rest =>
      match byte token with
      | .error fault => .error fault
      | .ok first =>
          match bytesOf rest with
          | .error fault => .error fault
          | .ok bytes => .ok (first :: bytes)

/-- Read the bytes of a report. -/
def decode (text : String) : Except HexFault (List UInt8) :=
  bytesOf (Text.words text.toList)

def token (byte : UInt8) : List Char :=
  '0' :: 'x' :: fixed 2 byte.toNat

/-- Write the bytes of a report. -/
def encode (bytes : List UInt8) : String :=
  String.ofList (List.intercalate [' '] (bytes.map token))

end Hex

end HidMend
