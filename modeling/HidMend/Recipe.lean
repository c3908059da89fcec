import HidMend.Mender
import HidMend.Report.Transform

/-!
# Recipes

A recipe is a mender that is all data: the devices it claims, a gate, an optional descriptor patch,
and the transforms that run over every report of sufficient length.
-/

namespace HidMend

structure Recipe where
  name : String
  devices : List DeviceId
  gate : Gate
  /-- Absent for devices whose descriptor is correct. -/
  patch : Option Patch
  /-- The length of the shortest report that the transforms may look at. -/
  reportLength : Nat
  /-- Run in order over every input report. -/
  transforms : List Transform

namespace Recipe

/-- Patch a descriptor; without a patch it stays as it is. -/
def mendDescriptor (recipe : Recipe) (size : Nat) (bytes : Bytes) :
    Except Fault PatchResult × Bytes :=
  match recipe.patch with
  | some patch => patch.apply size bytes
  | none => (.ok ⟨size, .unchanged⟩, bytes)

/-- Correct a report; a report that is too short passes through. -/
def mendReport (recipe : Recipe) (report : Bytes) : Except Fault Effect × Bytes :=
  if report.length < recipe.reportLength then (.ok .unchanged, report)
  else
    let run := Transform.applyAll recipe.transforms report
    (.ok run.1, run.2)

def patchNotes (recipe : Recipe) (size : Nat) (bytes : Bytes) : List Note :=
  match recipe.patch with
  | some patch => patch.notes size bytes
  | none => []

def reportNotes (recipe : Recipe) (report : Bytes) : List Note :=
  if report.length < recipe.reportLength then
    [⟨.debug, .recipe, "report too short, passing through",
      [("module", Note.quoted recipe.name), ("len", toString report.length),
        ("expected", toString recipe.reportLength)]⟩]
  else Transform.runNotes recipe.transforms report

/-- The mender that follows a recipe. -/
def toMender (recipe : Recipe) : Mender where
  name := recipe.name
  devices := recipe.devices
  accepts := recipe.gate.check
  mendDescriptor := recipe.mendDescriptor
  mendReport := recipe.mendReport
  attachNotes := recipe.gate.notes
  patchNotes := recipe.patchNotes
  reportNotes := recipe.reportNotes

end Recipe

end HidMend
