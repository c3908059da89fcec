import HidMend.Tilt.Compensation

/-!
# Report transforms

The corrections of a report run in order over one buffer.  Each checks its own preconditions and
leaves the report alone where they do not hold; none of them fails, and none changes the length.
-/

namespace HidMend

/-- Resolve an ambiguous combination of bits: where every bit of the trigger is set, the whole byte
is exclusive-ored with a mask, which may flip bits outside the trigger as well. -/
structure BitFix where
  offset : Nat
  trigger : UInt8
  flip : UInt8
  deriving DecidableEq, Repr

namespace BitFix

def apply (fix : BitFix) (report : Bytes) : Effect × Bytes :=
  match Buffer.readByte report fix.offset with
  | .error _ => (.unchanged, report)
  | .ok byte =>
      if Buffer.hasAll byte fix.trigger then
        match Buffer.xorByte report fix.offset fix.flip with
        | (.ok fixed, after) => (Effect.ofBool (fixed != byte), after)
        | (.error _, after) => (.unchanged, after)
      else (.unchanged, report)

def notes (fix : BitFix) (report : Bytes) : List Note :=
  match Buffer.readByte report fix.offset with
  | .error _ => []
  | .ok byte =>
      if Buffer.hasAll byte fix.trigger then
        [⟨.trace, .transform, "bit fixup",
          [("offset", toString fix.offset), ("from", toString byte.toNat),
            ("to", toString (byte ^^^ fix.flip).toNat)]⟩]
      else []

end BitFix

inductive Transform
  | bits (fix : BitFix)
  | tilt (axis : AxisCorrection)
  deriving DecidableEq, Repr

namespace Transform

def apply : Transform → Bytes → Effect × Bytes
  | bits fix, report => fix.apply report
  | tilt axis, report => axis.apply report

def notes : Transform → Bytes → List Note
  | bits fix, report => fix.notes report
  | tilt axis, report => axis.notes report

/-- Run transforms in order over one report and merge their effects. -/
def applyAll (transforms : List Transform) (report : Bytes) : Effect × Bytes :=
  transforms.foldl
    (fun state transform =>
      let step := transform.apply state.2
      (state.1.merge step.1, step.2))
    (.unchanged, report)

/-- The notes of a run, each transform seeing the report that the ones before it left. -/
def runNotes : List Transform → Bytes → List Note
  | [], _ => []
  | transform :: rest, report =>
      transform.notes report ++ runNotes rest (transform.apply report).2

end Transform

end HidMend
