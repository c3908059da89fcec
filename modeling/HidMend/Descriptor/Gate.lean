import HidMend.Buffer
import HidMend.Journal.Note

/-!
# Attach gates

A mender attaches only to the firmware it was written for.  Its gate asks for the exact size of the
descriptor and for designated bytes that still hold their factory values; a guarded byte that has
changed means that the descriptor was patched before.
-/

namespace HidMend

/-- A descriptor byte and its factory value. -/
structure GuardedByte where
  offset : Nat
  factory : UInt8
  deriving DecidableEq, Repr

namespace GuardedByte

/-- Whether the byte is there and unchanged. -/
def holds (guard : GuardedByte) (descriptor : Bytes) : Bool :=
  descriptor[guard.offset]? == some guard.factory

end GuardedByte

structure Gate where
  /-- The size of the unpatched descriptor. -/
  expectedSize : Nat
  /-- Bytes that must be unchanged, in the order they are checked. -/
  guards : List GuardedByte
  deriving DecidableEq, Repr

namespace Gate

/-- A gate on the size alone. -/
def sizeOnly (expectedSize : Nat) : Gate :=
  ⟨expectedSize, []⟩

/-- Decide whether to attach to a descriptor of the reported size.  The size is checked before any
byte. -/
def check (gate : Gate) (size : Nat) (descriptor : Bytes) : Except Fault Unit :=
  if size = gate.expectedSize then
    if gate.guards.all fun guard => guard.holds descriptor then .ok ()
    else .error .alreadyPatched
  else .error .sizeMismatch

/-- What a refusal has to say: the sizes, or the first guarded byte that has changed. -/
def notes (gate : Gate) (size : Nat) (descriptor : Bytes) : List Note :=
  if size = gate.expectedSize then
    match gate.guards.find? fun guard => !guard.holds descriptor with
    | none => []
    | some guard =>
        let found :=
          match descriptor[guard.offset]? with
          | some byte => "Some(" ++ toString byte.toNat ++ ")"
          | none => "None"
        [⟨.debug, .gate, "guard byte changed, descriptor already patched",
          [("offset", toString guard.offset), ("expected", toString guard.factory.toNat),
            ("found", found)]⟩]
  else
    [⟨.debug, .gate, "descriptor size mismatch, declining",
      [("size", toString size), ("expected", toString gate.expectedSize)]⟩]

end Gate

end HidMend
