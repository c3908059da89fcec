import HidMend.Descriptor.Patch
import HidMend.Device.Basic

/-!
# Menders

A mender repairs a family of devices: it decides whether to attach to a descriptor, patches the
descriptor, and corrects input reports.  The record says nothing about how; in particular a mender
may write to a buffer and fail afterwards, which is why each step returns the buffer it leaves.

The entry points wrap these steps in the calling convention of the host, where an absent buffer
means that access was refused and results are status codes.
-/

namespace HidMend

structure Mender where
  /-- A short name, unique within a roster. -/
  name : String
  /-- The identities that the mender lists. -/
  devices : List DeviceId
  /-- Whether the mender claims the device.  Unless a mender has a rule of its own, it claims what
  one of the listed identities covers. -/
  claims : DeviceId → Bool → Bool :=
    fun device strict => devices.any fun claim => claim.covers device strict
  /-- Decide whether to attach to a descriptor of the given size. -/
  accepts : Nat → Bytes → Except Fault Unit
  /-- Patch a descriptor of the given size at the start of a buffer. -/
  mendDescriptor : Nat → Bytes → Except Fault PatchResult × Bytes
  /-- Correct one input report. -/
  mendReport : Bytes → Except Fault Effect × Bytes
  /-- What the three steps have to say. -/
  attachNotes : Nat → Bytes → List Note := fun _ _ => []
  patchNotes : Nat → Bytes → List Note := fun _ _ => []
  reportNotes : Bytes → List Note := fun _ => []

namespace Mender

/-- Attach entry point: 0 accepts, and every refusal looks alike to the host. -/
def attachStatus (mender : Mender) (size : Nat) (descriptor : Bytes) : Int :=
  match mender.accepts size descriptor with
  | .ok () => 0
  | .error _ => Fault.sizeMismatch.status

/-- The status of a fault: neutral faults keep the data as it is. -/
def faultStatus (fault : Fault) : Int :=
  if fault.passesThrough then 0 else fault.status

/-- The largest status that can stand for a length. -/
def maxStatus : Nat := 2147483647

/-- Descriptor entry point: 0 keeps the descriptor as it was, a positive status is the length of the
changed descriptor, a negative one is an error. -/
def descriptorStatus (mender : Mender) (size : Nat) : Option Bytes → Int × Option Bytes
  | none => (0, none)
  | some bytes =>
      match mender.mendDescriptor size bytes with
      | (.ok patched, after) =>
          let status : Int :=
            match patched.effect with
            | .unchanged => 0
            | .changed =>
                if patched.size ≤ maxStatus then patched.size else Fault.bufferTooSmall.status
          (status, some after)
      | (.error fault, after) => (faultStatus fault, some after)

/-- Report entry point: the first `size` bytes of the buffer are the report.  Without access, or
with a size that exceeds the buffer, nothing happens. -/
def reportStatus (mender : Mender) (size : Nat) : Option Bytes → Int × Option Bytes
  | none => (0, none)
  | some bytes =>
      if size ≤ bytes.length then
        match mender.mendReport (bytes.take size) with
        | (.ok _, report) => (0, some (report ++ bytes.drop size))
        | (.error fault, report) => (faultStatus fault, some (report ++ bytes.drop size))
      else (0, some bytes)

end Mender

end HidMend
