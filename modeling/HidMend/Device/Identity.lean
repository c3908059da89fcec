import HidMend.Device.Basic
import HidMend.Files
import HidMend.Text.Blank

/-!
# Identity strings of the kernel

The kernel publishes two texts for a device.  A modalias such as `hid:b0003g0001v000028BDp0000095B`
has bus and group in four digits and vendor and product in eight; its first four characters are
optional.  A sysname such as `0003:28BD:095B.000B` has bus, vendor and product and a number that is
new at each boot, and carries no group.  Digits are read in either case and written in upper case.
-/

namespace HidMend

inductive IdentityFault
  | invalidModalias (text : String)
  | invalidSysname (text : String)
  /-- A number of a modalias is too large for the identity of a device. -/
  | valueTooLarge (field : String) (value : UInt32)
  deriving DecidableEq, Repr

namespace IdentityFault

def message : IdentityFault → String
  | invalidModalias text => "invalid modalias '" ++ text ++ "'"
  | invalidSysname text => "invalid HID sysname '" ++ text ++ "'"
  | valueTooLarge field value =>
      field ++ " 0x" ++ String.ofList (Hex.shortest value.toNat) ++ " does not fit in 16 bits"

end IdentityFault

namespace Layout

/-- Read one marker letter, in either case, or one punctuation mark. -/
def marker? (mark : Char) : List Char → Option (List Char)
  | [] => none
  | char :: rest => if char = mark ∨ char = mark.toUpper then some rest else none

/-- Read a number of exactly `width` hexadecimal digits. -/
def number? (width : Nat) (text : List Char) : Option (Nat × List Char) :=
  let digits := text.take width
  if digits.length = width && digits.all Hex.isDigit then
    some (Hex.value digits, text.drop width)
  else none

end Layout

structure Modalias where
  bus : UInt16
  group : UInt16
  vendor : UInt32
  product : UInt32
  deriving DecidableEq, Repr

namespace Modalias

/-- What may stand in front of the numbers. -/
def scheme : List Char := ['h', 'i', 'd', ':']

/-- The text without one leading scheme. -/
def bodyOf (text : List Char) : List Char :=
  if text.take 4 = scheme then text.drop 4 else text

/-- Read marker, number, marker, number and so on up to the end of the text. -/
def ofBody? (body : List Char) : Option Modalias := do
  let text ← Layout.marker? 'b' body
  let (bus, text) ← Layout.number? 4 text
  let text ← Layout.marker? 'g' text
  let (group, text) ← Layout.number? 4 text
  let text ← Layout.marker? 'v' text
  let (vendor, text) ← Layout.number? 8 text
  let text ← Layout.marker? 'p' text
  let (product, text) ← Layout.number? 8 text
  if text.isEmpty then
    some ⟨UInt16.ofNat bus, UInt16.ofNat group, UInt32.ofNat vendor, UInt32.ofNat product⟩
  else none

def parse (text : String) : Except IdentityFault Modalias :=
  match ofBody? (bodyOf text.toList) with
  | some modalias => .ok modalias
  | none => .error (.invalidModalias text)

def ofDevice (device : DeviceId) : Modalias :=
  ⟨device.bus.number, device.group.number, device.vendor.toUInt32, device.product.toUInt32⟩

/-- The identity of the device, if vendor and product have 16 bits. -/
def device (modalias : Modalias) : Except IdentityFault DeviceId :=
  if modalias.vendor.toNat < 65536 then
    if modalias.product.toNat < 65536 then
      .ok ⟨⟨modalias.bus⟩, ⟨modalias.group⟩, modalias.vendor.toUInt16, modalias.product.toUInt16⟩
    else .error (.valueTooLarge "product id" modalias.product)
  else .error (.valueTooLarge "vendor id" modalias.vendor)

def body (modalias : Modalias) : List Char :=
  'b' :: Hex.fixed 4 modalias.bus.toNat ++ 'g' :: Hex.fixed 4 modalias.group.toNat
    ++ 'v' :: Hex.fixed 8 modalias.vendor.toNat ++ 'p' :: Hex.fixed 8 modalias.product.toNat

def text (modalias : Modalias) : String :=
  String.ofList (scheme ++ modalias.body)

end Modalias

structure Sysname where
  bus : Bus
  vendor : UInt16
  product : UInt16
  /-- The number that the kernel gave the device at this boot. -/
  instanceNumber : UInt16
  deriving DecidableEq, Repr

namespace Sysname

def ofText? (text : List Char) : Option Sysname := do
  let (bus, text) ← Layout.number? 4 text
  let text ← Layout.marker? ':' text
  let (vendor, text) ← Layout.number? 4 text
  let text ← Layout.marker? ':' text
  let (product, text) ← Layout.number? 4 text
  let text ← Layout.marker? '.' text
  let (instanceNumber, text) ← Layout.number? 4 text
  if text.isEmpty then
    some ⟨⟨UInt16.ofNat bus⟩, UInt16.ofNat vendor, UInt16.ofNat product,
      UInt16.ofNat instanceNumber⟩
  else none

def parse (text : String) : Except IdentityFault Sysname :=
  match ofText? text.toList with
  | some sysname => .ok sysname
  | none => .error (.invalidSysname text)

/-- The byte between the parts of a path. -/
def slash : UInt8 := 0x2F

/-- The byte of which the parts `.` and `..` are made. -/
def point : UInt8 := 0x2E

/-- The parts of a path between its slashes. -/
def partsFrom (part : Bytes) : Bytes → List Bytes
  | [] => [part]
  | byte :: rest =>
      if byte = slash then part :: partsFrom [] rest else partsFrom (part ++ [byte]) rest

/-- The last part of a path.  Empty parts and the part `.` do not count, and a path that ends in
`..` has no last part. -/
def lastPart? (path : Bytes) : Option Bytes :=
  match ((partsFrom [] path).filter fun part => part ≠ [] && part ≠ [point]).getLast? with
  | some part => if part = [point, point] then none else some part
  | none => none

/-- Read the sysname in the last part of a path.  To the host a path is a string of bytes, which
need not be a text; a fault shows the text that stands for it. -/
def ofHostPath (path : Bytes) (shown : String) : Except IdentityFault Sysname :=
  match lastPart? path with
  | some part =>
      match textOfBytes part with
      | .ok name => parse name
      | .error _ => .error (.invalidSysname shown)
  | none => .error (.invalidSysname shown)

/-- Read the sysname in the last part of a path that is a text. -/
def ofPath (path : String) : Except IdentityFault Sysname :=
  ofHostPath (bytesOfText path) path

/-- The identity of the device, with its group left open. -/
def device (sysname : Sysname) : DeviceId :=
  ⟨sysname.bus, .any, sysname.vendor, sysname.product⟩

def text (sysname : Sysname) : String :=
  String.ofList (Hex.fixed 4 sysname.bus.number.toNat ++ ':' :: Hex.fixed 4 sysname.vendor.toNat
    ++ ':' :: Hex.fixed 4 sysname.product.toNat
    ++ '.' :: Hex.fixed 4 sysname.instanceNumber.toNat)

end Sysname

end HidMend
