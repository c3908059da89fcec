import HidMend.Mender

/-!
# Attachments

An attachment holds the menders that attached to a device, in roster order.  The descriptor passes
through all of them, each seeing the bytes and the length that the one before it left.  A chain
that fails somewhere leaves the descriptor as it was, even where earlier menders had written: with
more than one mender the chain runs on a copy.
-/

namespace HidMend

structure Attachment where
  device : DeviceId
  menders : List Mender

namespace Attachment

def names (attachment : Attachment) : List String :=
  attachment.menders.map Mender.name

/-- Run the menders in order from a given length, up to the first that fails. -/
def chain : List Mender → PatchResult → Bytes → Except Fault PatchResult × Bytes
  | [], patched, bytes => (.ok patched, bytes)
  | mender :: rest, patched, bytes =>
      match mender.mendDescriptor patched.size bytes with
      | (.ok step, after) => chain rest ⟨step.size, patched.effect.merge step.effect⟩ after
      | (.error fault, after) => (.error fault, after)

/-- Patch the descriptor with every mender, or leave it as it was. -/
def mendDescriptor (attachment : Attachment) (size : Nat) (bytes : Bytes) :
    Except Fault PatchResult × Bytes :=
  let run := chain attachment.menders ⟨size, .unchanged⟩ bytes
  if attachment.menders.length ≤ 1 then run
  else
    match run with
    | (.ok patched, after) => (.ok patched, after)
    | (.error fault, _) => (.error fault, bytes)

/-- Correct one report with the given menders, merging effects, up to the first that fails. -/
def mendReportWith : List Mender → Effect → Bytes → Except Fault Effect × Bytes
  | [], effect, report => (.ok effect, report)
  | mender :: rest, effect, report =>
      match mender.mendReport report with
      | (.ok next, after) => mendReportWith rest (effect.merge next) after
      | (.error fault, after) => (.error fault, after)

/-- Correct one report with every mender. -/
def mendReport (attachment : Attachment) (report : Bytes) : Except Fault Effect × Bytes :=
  mendReportWith attachment.menders .unchanged report

/-- What the stages of the descriptor chain have to say. -/
def chainNotes : List Mender → Nat → Bytes → List Note
  | [], _, _ => []
  | mender :: rest, size, bytes =>
      mender.patchNotes size bytes ++
        match mender.mendDescriptor size bytes with
        | (.ok step, after) =>
            let effect := if step.effect.isChanged then "Modified" else "Untouched"
            ⟨.trace, .attachment, "descriptor stage",
              [("module", Note.quoted mender.name), ("len", toString step.size),
                ("outcome", effect)]⟩ :: chainNotes rest step.size after
        | (.error _, _) => []

def descriptorNotes (attachment : Attachment) (size : Nat) (bytes : Bytes) : List Note :=
  chainNotes attachment.menders size bytes

/-- What the menders have to say about a report. -/
def reportNotesWith : List Mender → Bytes → List Note
  | [], _ => []
  | mender :: rest, report =>
      mender.reportNotes report ++
        match mender.mendReport report with
        | (.ok _, after) => reportNotesWith rest after
        | (.error _, _) => []

def reportNotes (attachment : Attachment) (report : Bytes) : List Note :=
  reportNotesWith attachment.menders report

end Attachment

end HidMend
