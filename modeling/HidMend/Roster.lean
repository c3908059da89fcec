import HidMend.Attachment
import HidMend.Catalog.Builtin
import HidMend.Settings

/-!
# Rosters

A roster is the list of active menders and the strictness of matching.  A device has claimants, the
menders that claim its identity.  Unchecked attachment takes all of them; attachment asks the gate
of each, keeps those that accept, and fails only if there is none, with the first refusal as the
reason.
-/

namespace HidMend

/-- Why no mender attached to a device. -/
inductive AttachFault
  | noMender (device : DeviceId)
  | declined (device : DeviceId) (menderName : String) (reason : Fault)
  deriving DecidableEq, Repr

namespace AttachFault

def message : AttachFault → String
  | noMender device => "no fixup module for " ++ device.text
  | declined device menderName reason =>
      "module '" ++ menderName ++ "' declined " ++ device.text ++ ": " ++ reason.message

end AttachFault

structure Roster where
  menders : List Mender
  strict : Bool

namespace Roster

/-- A strict roster of the given menders. -/
def ofModules (menders : List Mender) : Roster :=
  ⟨menders, true⟩

def builtin : Roster :=
  ofModules Catalog.menders

def find? (roster : Roster) (name : String) : Option Mender :=
  roster.menders.find? fun mender => mender.name == name

/-- The built-in menders that settings leave, or the first disabled name that no mender has. -/
def ofSettings (settings : Settings) : Except String Roster :=
  match settings.disabled.find? fun name => (builtin.find? name).isNone with
  | some unknown => .error unknown
  | none =>
      .ok ⟨builtin.menders.filter fun mender => !settings.disables mender.name, settings.strict⟩

/-- The menders that claim a device, whatever its descriptor. -/
def claimants (roster : Roster) (device : DeviceId) : List Mender :=
  roster.menders.filter fun mender => mender.claims device roster.strict

/-- Attach every mender that claims a device, without asking the gates. -/
def attachUnchecked (roster : Roster) (device : DeviceId) : Except AttachFault Attachment :=
  match roster.claimants device with
  | [] => .error (.noMender device)
  | menders => .ok ⟨device, menders⟩

/-- Ask the gates of menders in order.  The state is the list of menders that accepted, and the
first refusal. -/
def attachStep (device : DeviceId) (size : Nat) (descriptor : Bytes)
    (state : List Mender × Option AttachFault) (mender : Mender) :
    List Mender × Option AttachFault :=
  match mender.accepts size descriptor with
  | .ok () => (state.1 ++ [mender], state.2)
  | .error reason =>
      (state.1, state.2.or (some (.declined device mender.name reason)))

/-- Attach the menders that claim a device and whose gates accept its descriptor. -/
def attach (roster : Roster) (device : DeviceId) (size : Nat) (descriptor : Bytes) :
    Except AttachFault Attachment :=
  match (roster.claimants device).foldl (attachStep device size descriptor) ([], none) with
  | ([], refusal) => .error (refusal.getD (.noMender device))
  | (accepted, _) => .ok ⟨device, accepted⟩

/-- What attaching has to say. -/
def attachNotes (roster : Roster) (device : DeviceId) (size : Nat) (descriptor : Bytes) :
    List Note :=
  (roster.claimants device).flatMap fun mender =>
    mender.attachNotes size descriptor ++
      match mender.accepts size descriptor with
      | .ok () =>
          [⟨.info, .roster, "module attached",
            [("module", Note.quoted mender.name), ("device", device.text)]⟩]
      | .error reason =>
          [⟨.debug, .roster, "module declined",
            [("module", Note.quoted mender.name), ("device", device.text),
              ("reason", reason.message)]⟩]

/-- What a roster made from settings has to say.  Names that the roster accepted need no
escapes between their quotation marks. -/
def settingsNotes (settings : Settings) : List Note :=
  [⟨.debug, .roster, "registry configured",
    [("disabled", "[" ++ ", ".intercalate (settings.disabled.map Note.quoted) ++ "]"),
      ("strict", if settings.strict then "true" else "false")]⟩]

end Roster

end HidMend
