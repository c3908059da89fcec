import HidMend.Recipe

/-!
# XP-Pen Artist Pro (Gen 2)

The pen displays of this series publish a descriptor that does not describe their reports, signal
the eraser by an ambiguous combination of bits, and sense a tilted pen off its nib.  The recipe
replaces the descriptor, resolves the eraser, and compensates both axes.

A report has ten bytes: its number, the status bits, the two coordinates and the pressure as
little-endian words, and the tilts in degrees along both axes.
-/

namespace HidMend.ArtistPro

def vendor : UInt16 := 0x28BD

/-- The products of the series and their names. -/
def products : List (UInt16 × String) :=
  [(0x095A, "XP-Pen Artist Pro 14 (Gen 2)"), (0x095B, "XP-Pen Artist Pro 16 (Gen 2)")]

def title? (product : UInt16) : Option String :=
  products.lookup product

def serves (device : UInt16 × UInt16) : Bool :=
  device.1 == vendor && (title? device.2).isSome

def devices : List DeviceId :=
  products.map fun product => .usb vendor product.1

/-- The size of the unpatched descriptor. -/
def factorySize : Nat := 113

/-- Byte 17 opens an item in the unpatched descriptor that the fixed one does not have there. -/
def gate : Gate :=
  ⟨factorySize, [⟨17, 0x45⟩]⟩

/-- The descriptor that matches the reports. -/
def fixedDescriptor : Bytes :=
  [0x05, 0x0D, 0x09, 0x02, 0xA1, 0x01, 0x85, 0x07, 0x09, 0x20, 0xA1, 0x00, 0x09, 0x42, 0x09, 0x44,
    0x09, 0x5A, 0x09, 0x3C, 0x09, 0x45, 0x15, 0x00, 0x25, 0x01, 0x75, 0x01, 0x95, 0x05, 0x81, 0x02,
    0x09, 0x32, 0x15, 0x00, 0x25, 0x01, 0x95, 0x01, 0x81, 0x02, 0x95, 0x02, 0x81, 0x03, 0x75, 0x10,
    0x95, 0x01, 0x35, 0x00, 0xA4, 0x05, 0x01, 0x09, 0x30, 0x65, 0x13, 0x55, 0x0D, 0x46, 0xFF, 0x34,
    0x26, 0xFF, 0x7F, 0x81, 0x02, 0x09, 0x31, 0x46, 0x20, 0x21, 0x26, 0xFF, 0x7F, 0x81, 0x02, 0xB4,
    0x09, 0x30, 0x45, 0x00, 0x26, 0xFF, 0x3F, 0x81, 0x42, 0x09, 0x3D, 0x15, 0x81, 0x25, 0x7F, 0x75,
    0x08, 0x95, 0x01, 0x81, 0x02, 0x09, 0x3E, 0x15, 0x81, 0x25, 0x7F, 0x81, 0x02, 0xC0, 0xC0]

def reportId : UInt8 := 0x07

def reportLength : Nat := 10

namespace Status

def tipSwitch : UInt8 := 0x01

def invert : UInt8 := 0x08

def eraser : UInt8 := 0x10

def inRange : UInt8 := 0x20

end Status

/-- The eraser touches the surface: tip, invert and in range. -/
def eraserTouch : UInt8 :=
  Status.tipSwitch ||| Status.invert ||| Status.inRange

/-- Flips tip, invert and eraser. -/
def eraserTouchFlip : UInt8 :=
  Status.tipSwitch ||| Status.invert ||| Status.eraser

/-- The extent of the panel and the height of the coil, in inches. -/
def panelWidth : Float := 11.874

def panelHeight : Float := 7.421

def coilDistance : Float := 0.055677699

/-- The offsets along the width of the panel: 153.64 times the sine of the angle. -/
def horizontal : TiltTable :=
  ⟨#v[0, 3, 5, 8, 11, 13, 16, 19, 21, 24, 27, 29, 32, 35, 37, 40,
    42, 45, 47, 50, 53, 55, 58, 60, 62, 65, 67, 70, 72, 74, 77, 79,
    81, 84, 86, 88, 90, 92, 95, 97, 99, 101, 103, 105, 107, 109, 111, 112,
    114, 116, 118, 119, 121, 123, 124, 126, 127, 129, 130, 132, 133, 134, 136, 137,
    138, 139, 140, 141, 142, 143, 144, 145, 146, 147, 148, 148, 149, 150, 150, 151,
    151, 152, 152, 153, 153, 153, 153, 153, 154, 154, 154, 154, 154, 153, 153, 153,
    153, 153, 152, 152, 151, 151, 150, 150, 149, 148, 148, 147, 146, 145, 144, 143,
    142, 141, 140, 139, 138, 137, 136, 134, 133, 132, 130, 129, 127, 126, 124, 123]⟩

/-- The offsets along the height of the panel: 245.84 times the sine of the angle. -/
def vertical : TiltTable :=
  ⟨#v[0, 4, 9, 13, 17, 21, 26, 30, 34, 38, 43, 47, 51, 55, 59, 64,
    68, 72, 76, 80, 84, 88, 92, 96, 100, 104, 108, 112, 115, 119, 123, 127,
    130, 134, 137, 141, 145, 148, 151, 155, 158, 161, 165, 168, 171, 174, 177, 180,
    183, 186, 188, 191, 194, 196, 199, 201, 204, 206, 208, 211, 213, 215, 217, 219,
    221, 223, 225, 226, 228, 230, 231, 232, 234, 235, 236, 237, 239, 240, 240, 241,
    242, 243, 243, 244, 244, 245, 245, 246, 246, 246, 246, 246, 246, 246, 245, 245,
    244, 244, 243, 243, 242, 241, 240, 240, 239, 237, 236, 235, 234, 232, 231, 230,
    228, 226, 225, 223, 221, 219, 217, 215, 213, 211, 208, 206, 204, 201, 199, 196]⟩

/-- Where a report holds its fields. -/
def statusOffset : Nat := 1

def xOffset : Nat := 2

def yOffset : Nat := 4

def xTiltOffset : Nat := 8

def yTiltOffset : Nat := 9

/-- The eraser first, then both coordinates. -/
def transforms : List Transform :=
  [.bits ⟨statusOffset, eraserTouch, eraserTouchFlip⟩,
    .tilt ⟨xOffset, xTiltOffset, horizontal, Coordinate.logicalMaximum⟩,
    .tilt ⟨yOffset, yTiltOffset, vertical, Coordinate.logicalMaximum⟩]

def recipe : Recipe where
  name := "xppen-artist-pro-gen2"
  devices := devices
  gate := gate
  patch := some (.replace fixedDescriptor)
  reportLength := reportLength
  transforms := transforms

end HidMend.ArtistPro
