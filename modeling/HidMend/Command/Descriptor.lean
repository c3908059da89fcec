import HidMend.Command.Session

/-!
# Repairing a descriptor

A descriptor dump is handed to the menders as a host would do it: they see it at the start of a
buffer of the largest size, filled up with zeros.  What the menders leave is written to a file if
one is named.
-/

namespace HidMend

/-- A descriptor behind the menders that attached to it. -/
structure RepairedDescriptor where
  menders : List String
  patched : PatchResult
  bytes : Bytes
  deriving DecidableEq, Repr

namespace RepairedDescriptor

/-- The buffer in which a host hands over a descriptor. -/
def hostBuffer (descriptor : Bytes) : Bytes :=
  descriptor ++ List.replicate (Catalog.maxDescriptorSize - descriptor.length) 0

/-- Repair a descriptor with the menders that accept it. -/
def ofDump (roster : Roster) (device : DeviceId) (descriptor : Bytes) :
    Except Failure RepairedDescriptor :=
  if Catalog.maxDescriptorSize < descriptor.length then .error (.repair .bufferTooSmall)
  else
    match roster.attach device descriptor.length descriptor with
    | .error fault => .error (.attachment fault)
    | .ok attachment =>
        match attachment.mendDescriptor descriptor.length (hostBuffer descriptor) with
        | (.error fault, _) => .error (.repair fault)
        | (.ok patched, after) =>
            let bytes := if patched.size ≤ after.length then after.take patched.size else []
            .ok ⟨attachment.names, patched, bytes⟩

/-- What repairing has to say. -/
def notes (roster : Roster) (device : DeviceId) (descriptor : Bytes) : List Note :=
  if Catalog.maxDescriptorSize < descriptor.length then []
  else
    roster.attachNotes device descriptor.length descriptor ++
      match roster.attach device descriptor.length descriptor with
      | .error _ => []
      | .ok attachment =>
          let buffer := hostBuffer descriptor
          attachment.descriptorNotes descriptor.length buffer ++
            match attachment.mendDescriptor descriptor.length buffer with
            | (.error _, _) => []
            | (.ok patched, _) =>
                [⟨.info, .descriptorCommand, "descriptor fixed",
                  [("device", device.text), ("len", toString patched.size)]⟩]

/-- The answer about a repair of a descriptor that had a given size. -/
def answer (repaired : RepairedDescriptor) (sizeBefore : Nat) (output : Option String) :
    Answer where
  text :=
    let sizes :=
      if repaired.patched.effect.isChanged then
        "  Descriptor: " ++ toString sizeBefore ++ " -> " ++ toString repaired.patched.size
          ++ " bytes"
      else "  Descriptor unchanged (" ++ toString sizeBefore ++ " bytes)"
    Answer.lines (("Attached: " ++ ", ".intercalate repaired.menders) :: sizes ::
      Answer.writtenLine output)
  member :=
    ("rdesc", .record [("modified", .bool repaired.patched.effect.isChanged),
      ("modules", Answer.texts repaired.menders),
      ("new_len", .natural repaired.patched.size),
      ("original_len", .natural sizeBefore),
      ("output", Answer.optionalText output)])

/-- Repair the descriptor in a file. -/
def run {m : Type → Type} [Monad m] [Files m] (roster : Roster) (device input : String)
    (output : Option String) : Session m Answer := do
  let device ← Session.require ((DeviceId.ofArgument device).mapError .device)
  let descriptor ← Session.requireFile .readDescriptor input (← Files.readFile input)
  Session.addNotes (notes roster device descriptor)
  let repaired ← Session.require (ofDump roster device descriptor)
  match output with
  | none => pure ()
  | some path =>
      Session.requireFile .writeDescriptor path (← Files.writeFile path repaired.bytes)
  return repaired.answer descriptor.length output

end RepairedDescriptor

end HidMend
