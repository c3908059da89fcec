import HidMend.Command.Session
import HidMend.Scan

/-!
# Listings

Two commands only look: one lists the active menders with the devices they claim, the other lists
the devices of a directory with the menders that claim them.
-/

namespace HidMend.Listing

/-- The menders of a roster. -/
def menders (roster : Roster) : Answer where
  text :=
    if roster.menders.isEmpty then Answer.lines ["No modules enabled"]
    else
      Answer.lines ("Fixup Modules:" :: roster.menders.flatMap fun mender =>
        ("  " ++ mender.name) :: mender.devices.map fun device => "    " ++ device.text)
  member :=
    ("modules", .array (roster.menders.map fun mender =>
      .record [("devices", .array (mender.devices.map Answer.device)),
        ("name", .text mender.name)]))

def deviceLines (device : FoundDevice) : List String :=
  let mark := if device.menders.isEmpty then "○" else "●"
  let heading :=
    "  " ++ mark ++ " " ++ device.name.getD "(unknown)" ++ " (" ++ device.sysname ++ ")"
  if device.menders.isEmpty then [heading]
  else [heading, "    Modules: " ++ ", ".intercalate device.menders]

def deviceRecord (device : FoundDevice) : Json :=
  .record [("id", Json.optional (device.id.map Answer.device)),
    ("modalias", Answer.optionalText device.modalias),
    ("modules", Answer.texts device.menders),
    ("name", Answer.optionalText device.name),
    ("sysname", .text device.sysname)]

def ofDevices (devices : List FoundDevice) : Answer where
  text :=
    if devices.isEmpty then Answer.lines ["No HID devices found"]
    else Answer.lines ("HID Devices:" :: devices.flatMap deviceLines)
  member := ("devices", .array (devices.map deviceRecord))

/-- Read the uevent files below a directory. -/
def readEntries {m : Type → Type} [Monad m] [Files m] (directory : String)
    (names : List String) : m (List Scan.Entry) :=
  names.mapM fun name => do
    return ⟨name, ← readText (joinPath (joinPath directory name) "uevent")⟩

/-- The devices of a directory. -/
def devices {m : Type → Type} [Monad m] [Files m] (roster : Roster) (directory : String) :
    Session m (List FoundDevice) := do
  let listed ← Session.requireFile .listDevices directory (← Files.listDirectory directory)
  let entries ← readEntries directory (Scan.namesInOrder listed)
  Session.addNotes (Scan.notes directory entries)
  return Scan.devices roster entries

end HidMend.Listing
