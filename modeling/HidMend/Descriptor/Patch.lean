import HidMend.Descriptor.Gate
import HidMend.Effect

/-!
# Descriptor patches

A patch corrects a report descriptor of `size` bytes inside a buffer that may be longer.  There are
three strategies: overwrite it with a template, replace single bytes that still hold their factory
value, or turn constant input items into data items on one layout of the descriptor.  Each strategy
validates everything it is going to write before it writes the first byte.
-/

namespace HidMend

/-- The length of a descriptor after a patch, and whether it was changed. -/
structure PatchResult where
  size : Nat
  effect : Effect
  deriving DecidableEq, Repr

/-- Replace one byte if it holds its factory value. -/
structure ByteEdit where
  offset : Nat
  expected : UInt8
  value : UInt8
  deriving DecidableEq, Repr

/-- Turn constant input items into data items.  The discriminator selects the layout on which the
items at the given offsets are constant by mistake. -/
structure ConstantToData where
  discriminator : GuardedByte
  items : List Nat
  deriving DecidableEq, Repr

inductive Patch
  | replace (template : Bytes)
  | edit (edits : List ByteEdit)
  | constantToData (change : ConstantToData)
  deriving DecidableEq, Repr

/-- The item byte of an input item with one byte of data. -/
def inputItem : UInt8 := 0x81

/-- The data of a constant, variable, absolute input item. -/
def constantInput : UInt8 := 0x03

/-- The data of a data, variable, absolute input item. -/
def dataInput : UInt8 := 0x02

namespace ByteEdit

/-- Apply one edit to a buffer. -/
def apply (edit : ByteEdit) (bytes : Bytes) : Except Fault Effect × Bytes :=
  match Buffer.readByte bytes edit.offset with
  | .error fault => (.error fault.toFault, bytes)
  | .ok current =>
      if current = edit.expected then
        match Buffer.writeByte bytes edit.offset edit.value with
        | (.error fault, after) => (.error fault.toFault, after)
        | (.ok (), after) => (.ok (Effect.ofBool (edit.value != current)), after)
      else (.ok .unchanged, bytes)

def notes (edit : ByteEdit) (bytes : Bytes) : List Note :=
  match Buffer.readByte bytes edit.offset with
  | .error _ => []
  | .ok current =>
      if current = edit.expected then []
      else
        [⟨.debug, .patch, "descriptor byte drifted from factory value, skipping",
          [("offset", toString edit.offset), ("expected", toString edit.expected.toNat),
            ("found", toString current.toNat)]⟩]

end ByteEdit

namespace ConstantToData

/-- Change the item at one offset, if it is a constant input item. -/
def applyItem (offset : Nat) (bytes : Bytes) : Except Fault Effect × Bytes :=
  match Buffer.readByte bytes offset, Buffer.readByte bytes (offset + 1) with
  | .ok item, .ok data =>
      if item = inputItem ∧ data = constantInput then
        match Buffer.writeByte bytes (offset + 1) dataInput with
        | (.error fault, after) => (.error fault.toFault, after)
        | (.ok (), after) => (.ok .changed, after)
      else (.ok .unchanged, bytes)
  | .error fault, _ => (.error fault.toFault, bytes)
  | .ok _, .error fault => (.error fault.toFault, bytes)

def itemNotes (offset : Nat) (bytes : Bytes) : List Note :=
  match Buffer.readByte bytes offset, Buffer.readByte bytes (offset + 1) with
  | .ok item, .ok data =>
      if item = inputItem ∧ data = constantInput then []
      else
        [⟨.debug, .patch, "not an Input (Constant) item, skipping",
          [("offset", toString offset), ("prefix", toString item.toNat),
            ("data", toString data.toNat)]⟩]
  | _, _ => []

end ConstantToData

namespace Patch

/-- Run writing steps in order, merging their effects, up to the first that fails. -/
def runSteps {Step : Type} (apply : Step → Bytes → Except Fault Effect × Bytes) :
    List Step → Effect → Bytes → Except Fault Effect × Bytes
  | [], effect, bytes => (.ok effect, bytes)
  | step :: rest, effect, bytes =>
      match apply step bytes with
      | (.ok next, after) => runSteps apply rest (effect.merge next) after
      | (.error fault, after) => (.error fault, after)

/-- Run steps and report the unchanged length. -/
def inPlace {Step : Type} (apply : Step → Bytes → Except Fault Effect × Bytes)
    (steps : List Step) (size : Nat) (bytes : Bytes) : Except Fault PatchResult × Bytes :=
  match runSteps apply steps .unchanged bytes with
  | (.ok effect, after) => (.ok ⟨size, effect⟩, after)
  | (.error fault, after) => (.error fault, after)

/-- Apply a patch to the descriptor of `size` bytes at the start of a buffer. -/
def apply (patch : Patch) (size : Nat) (bytes : Bytes) : Except Fault PatchResult × Bytes :=
  if bytes.length < size then (.error .bufferTooSmall, bytes)
  else
    match patch with
    | replace template =>
        if template.length ≤ bytes.length then
          (.ok ⟨template.length, .changed⟩, template ++ bytes.drop template.length)
        else (.error .bufferTooSmall, bytes)
    | edit edits =>
        if edits.all fun change => Buffer.fits size change.offset 1 then
          inPlace ByteEdit.apply edits size bytes
        else (.error .bufferTooSmall, bytes)
    | constantToData change =>
        if change.discriminator.holds (bytes.take size) then
          if change.items.all fun offset => Buffer.fits size offset 2 then
            inPlace ConstantToData.applyItem change.items size bytes
          else (.error .bufferTooSmall, bytes)
        else (.ok ⟨size, .unchanged⟩, bytes)

/-- The notes of steps that run in order. -/
def stepNotes {Step : Type} (apply : Step → Bytes → Except Fault Effect × Bytes)
    (notes : Step → Bytes → List Note) : List Step → Bytes → List Note
  | [], _ => []
  | step :: rest, bytes =>
      notes step bytes ++ stepNotes apply notes rest (apply step bytes).2

/-- What a patch has to say about a descriptor. -/
def notes (patch : Patch) (size : Nat) (bytes : Bytes) : List Note :=
  if bytes.length < size then
    [⟨.debug, .patch, "descriptor larger than its buffer",
      [("size", toString size), ("capacity", toString bytes.length)]⟩]
  else
    match patch with
    | replace template =>
        if template.length ≤ bytes.length then
          [⟨.trace, .patch, "descriptor replaced", [("len", toString template.length)]⟩]
        else
          [⟨.debug, .patch, "replacement descriptor does not fit",
            [("needed", toString template.length), ("capacity", toString bytes.length)]⟩]
    | edit edits =>
        match edits.find? fun change => !Buffer.fits size change.offset 1 with
        | some change =>
            [⟨.debug, .patch, "field edit outside descriptor",
              [("offset", toString change.offset), ("size", toString size)]⟩]
        | none => stepNotes ByteEdit.apply ByteEdit.notes edits bytes
    | constantToData change =>
        if change.discriminator.holds (bytes.take size) then
          match change.items.find? fun offset => !Buffer.fits size offset 2 with
          | some offset =>
              [⟨.debug, .patch, "constant item outside descriptor",
                [("offset", toString offset), ("size", toString size)]⟩]
          | none => stepNotes ConstantToData.applyItem ConstantToData.itemNotes change.items bytes
        else
          [⟨.trace, .patch, "layout discriminator does not match, leaving descriptor",
            [("offset", toString change.discriminator.offset)]⟩]

end Patch

end HidMend
