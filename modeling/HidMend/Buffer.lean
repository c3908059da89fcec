import HidMend.Fault

/-!
# Fields of a buffer

Descriptors and reports are addressed by fixed byte offsets.  Every access is checked, so that a
short buffer gives a `BufferFault` and never reads or writes elsewhere.  Offsets are 64-bit words:
a field whose end lies past the address space does not fit any buffer.

Writers return the buffer beside their result, so that what a failing writer leaves behind can be
said.
-/

namespace HidMend

abbrev Bytes := List UInt8

inductive BufferFault
  /-- A field of `width` bytes at `offset` does not lie inside a buffer of `size` bytes. -/
  | outOfBounds (offset width size : Nat)
  /-- Bits of a byte are numbered 0 to 7. -/
  | invalidBit (bit : Nat)
  deriving DecidableEq, Repr

namespace BufferFault

def message : BufferFault → String
  | outOfBounds offset width size =>
      toString width ++ "-byte field at offset " ++ toString offset ++ " exceeds buffer of "
        ++ toString size ++ " bytes"
  | invalidBit bit => "bit position " ++ toString bit ++ " is out of range"

/-- To a repair stage, any field fault means that its content does not fit. -/
def toFault (_ : BufferFault) : Fault :=
  .bufferTooSmall

end BufferFault

namespace Buffer

/-- The number of addresses. -/
def addressLimit : Nat := UInt64.size

/-- The address just behind a field, if it is an address. -/
def endOf? (offset width : Nat) : Option Nat :=
  if offset + width < addressLimit then some (offset + width) else none

/-- Check that a field lies inside a buffer of `size` bytes. -/
def requireRange (size offset width : Nat) : Except BufferFault Unit :=
  match endOf? offset width with
  | some stop => if stop ≤ size then .ok () else .error (.outOfBounds offset width size)
  | none => .error (.outOfBounds offset width size)

def fits (size offset width : Nat) : Bool :=
  match requireRange size offset width with
  | .ok _ => true
  | .error _ => false

def readByte (bytes : Bytes) (offset : Nat) : Except BufferFault UInt8 :=
  match bytes[offset]? with
  | some byte => .ok byte
  | none => .error (.outOfBounds offset 1 bytes.length)

/-- Read a byte in two's complement, such as a tilt angle. -/
def readSigned (bytes : Bytes) (offset : Nat) : Except BufferFault Int8 :=
  (readByte bytes offset).map UInt8.toInt8

def writeByte (bytes : Bytes) (offset : Nat) (value : UInt8) :
    Except BufferFault Unit × Bytes :=
  if offset < bytes.length then (.ok (), bytes.set offset value)
  else (.error (.outOfBounds offset 1 bytes.length), bytes)

/-- The word whose little-endian bytes are `low`, `high`. -/
def wordOf (low high : UInt8) : UInt16 :=
  low.toUInt16 ||| (high.toUInt16 <<< 8)

def lowByte (word : UInt16) : UInt8 :=
  word.toUInt8

def highByte (word : UInt16) : UInt8 :=
  (word >>> 8).toUInt8

/-- Read a little-endian word. -/
def readWord (bytes : Bytes) (offset : Nat) : Except BufferFault UInt16 :=
  match requireRange bytes.length offset 2 with
  | .error fault => .error fault
  | .ok () =>
      match (bytes.drop offset).take 2 with
      | [low, high] => .ok (wordOf low high)
      | _ => .error (.outOfBounds offset 2 bytes.length)

/-- Write a little-endian word. -/
def writeWord (bytes : Bytes) (offset : Nat) (value : UInt16) :
    Except BufferFault Unit × Bytes :=
  match requireRange bytes.length offset 2 with
  | .error fault => (.error fault, bytes)
  | .ok () => (.ok (), (bytes.set offset (lowByte value)).set (offset + 1) (highByte value))

/-- The byte that has only the given bit. -/
def bitMask (bit : Nat) : Except BufferFault UInt8 :=
  if bit < 8 then .ok (1 <<< UInt8.ofNat bit) else .error (.invalidBit bit)

/-- Read a bit, 0 being the least significant.  The bit number is checked before the offset. -/
def readBit (bytes : Bytes) (offset bit : Nat) : Except BufferFault Bool :=
  match bitMask bit with
  | .error fault => .error fault
  | .ok mask => (readByte bytes offset).map fun byte => byte &&& mask != 0

def writeBit (bytes : Bytes) (offset bit : Nat) (value : Bool) :
    Except BufferFault Unit × Bytes :=
  match bitMask bit with
  | .error fault => (.error fault, bytes)
  | .ok mask =>
      match readByte bytes offset with
      | .error fault => (.error fault, bytes)
      | .ok byte =>
          writeByte bytes offset (if value then byte ||| mask else byte &&& ~~~mask)

/-- Exclusive-or a mask into a byte; the result is the new byte. -/
def xorByte (bytes : Bytes) (offset : Nat) (mask : UInt8) : Except BufferFault UInt8 × Bytes :=
  match readByte bytes offset with
  | .error fault => (.error fault, bytes)
  | .ok byte =>
      match writeByte bytes offset (byte ^^^ mask) with
      | (.error fault, after) => (.error fault, after)
      | (.ok (), after) => (.ok (byte ^^^ mask), after)

/-- Whether every bit of the mask is set in the byte. -/
def hasAll (byte mask : UInt8) : Bool :=
  byte &&& mask == mask

end Buffer

end HidMend
