import HidMend.Fault

/-!
# Tilt tables

The coil of a pen sits above its nib.  When the pen is tilted, the tablet senses a position that is
off by the height of the coil times the sine of the tilt.  A table holds this offset in logical
units of one axis, for each whole degree from 0 to 127.
-/

namespace HidMend

/-- The physical geometry of one axis of a tablet. -/
structure Axis where
  /-- The extent of the active area, in inches. -/
  extent : Float
  /-- The distance between the nib and the coil, in inches. -/
  coil : Float
  /-- The largest coordinate that the axis reports. -/
  maximum : UInt16

namespace Axis

def unitsPerInch (axis : Axis) : Float :=
  axis.maximum.toNat.toFloat / axis.extent

/-- The height of the coil in logical units. -/
def coilHeight (axis : Axis) : Float :=
  axis.coil * axis.unitsPerInch

end Axis

structure TiltTable where
  offsets : Vector UInt16 128
  deriving DecidableEq, Repr

namespace TiltTable

/-- The number of entries. -/
def size : Nat := 128

/-- The largest angle that has an entry. -/
def maxAngle : Nat := 127

/-- One degree in radians. -/
def radiansPerDegree : Float := 0.017453292519943295

/-- Round to the nearest number, a half away from zero, and cut to 16 bits.  What is no number
counts as zero. -/
def entryOf (offset : Float) : UInt16 :=
  offset.round.toUInt16

/-- Derive the table of an axis from its geometry. -/
def ofAxis (axis : Axis) : TiltTable :=
  let height := axis.coilHeight
  ⟨Vector.ofFn fun angle =>
    entryOf (height * (angle.val.toFloat * radiansPerDegree).sin)⟩

/-- The offset for an angle in degrees. -/
def offset (table : TiltTable) (angle : Nat) : Except Fault UInt16 :=
  match table.offsets[angle]? with
  | some value => .ok value
  | none => .error .outOfDomain

/-- The largest offset. -/
def maxOffset (table : TiltTable) : UInt16 :=
  table.offsets.toList.foldl (fun largest value => if largest < value then value else largest) 0

end TiltTable

end HidMend
