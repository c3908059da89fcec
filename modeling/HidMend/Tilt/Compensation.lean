import HidMend.Buffer
import HidMend.Effect
import HidMend.Journal.Note
import HidMend.Tilt.Table

/-!
# Tilt compensation

A coordinate is corrected by the offset that its table holds for the tilt.  A positive tilt moves
the coil towards higher coordinates, so its offset is subtracted; any other tilt is added.  The
result stays between zero and the largest coordinate of the axis.  The tilt of -128 degrees has no
entry and is out of domain.
-/

namespace HidMend

/-- Which way a sensed coordinate is moved. -/
inductive Shift
  | down
  | up
  deriving DecidableEq, Repr

namespace Shift

def ofTilt (tilt : Int8) : Shift :=
  if 0 < tilt.toInt then down else up

end Shift

namespace Coordinate

/-- The largest coordinate of a 15-bit axis. -/
def logicalMaximum : UInt16 := 32767

/-- Subtraction that stops at zero. -/
def lower (coordinate offset : UInt16) : UInt16 :=
  if offset ≤ coordinate then coordinate - offset else 0

/-- Addition that stops at the largest word. -/
def raise (coordinate offset : UInt16) : UInt16 :=
  if coordinate.toNat + offset.toNat < 65536 then coordinate + offset else 65535

/-- Correct a coordinate for a tilt in degrees. -/
def compensate (coordinate : UInt16) (tilt : Int8) (table : TiltTable) (maximum : UInt16) :
    Except Fault UInt16 :=
  let angle := tilt.toInt.natAbs
  if TiltTable.maxAngle < angle then .error .outOfDomain
  else
    match table.offset angle with
    | .error fault => .error fault
    | .ok offset =>
        match Shift.ofTilt tilt with
        | .down => .ok (lower coordinate offset)
        | .up =>
            if coordinate < lower maximum offset then .ok (raise coordinate offset)
            else .ok maximum

end Coordinate

/-- Correct the coordinate at `offset` of a report for a given tilt.  A field that does not fit and
a tilt without an entry leave the report alone. -/
def compensateField (report : Bytes) (offset : Nat) (tilt : Int8) (table : TiltTable)
    (maximum : UInt16) : Effect × Bytes :=
  match Buffer.readWord report offset with
  | .error _ => (.unchanged, report)
  | .ok coordinate =>
      match Coordinate.compensate coordinate tilt table maximum with
      | .error _ => (.unchanged, report)
      | .ok corrected =>
          if corrected = coordinate then (.unchanged, report)
          else
            match Buffer.writeWord report offset corrected with
            | (.ok (), after) => (.changed, after)
            | (.error _, after) => (.unchanged, after)

/-- Where a report holds the coordinate and the tilt of one axis, and how they are related. -/
structure AxisCorrection where
  coordinateOffset : Nat
  tiltOffset : Nat
  table : TiltTable
  maximum : UInt16 := Coordinate.logicalMaximum
  deriving DecidableEq, Repr

namespace AxisCorrection

/-- Read the tilt from the report and correct the coordinate. -/
def apply (axis : AxisCorrection) (report : Bytes) : Effect × Bytes :=
  match Buffer.readSigned report axis.tiltOffset with
  | .ok tilt => compensateField report axis.coordinateOffset tilt axis.table axis.maximum
  | .error _ => (.unchanged, report)

/-- What the correction of a report has to say. -/
def notes (axis : AxisCorrection) (report : Bytes) : List Note :=
  match Buffer.readSigned report axis.tiltOffset with
  | .error _ => []
  | .ok tilt =>
      match Buffer.readWord report axis.coordinateOffset with
      | .error _ =>
          [⟨.trace, .compensation, "coordinate outside report",
            [("coord_offset", toString axis.coordinateOffset),
              ("len", toString report.length)]⟩]
      | .ok coordinate =>
          match Coordinate.compensate coordinate tilt axis.table axis.maximum with
          | .error fault =>
              [⟨.trace, .compensation, "tilt not compensated",
                [("tilt", toString tilt.toInt), ("err", fault.message)]⟩]
          | .ok _ => []

end AxisCorrection

end HidMend
