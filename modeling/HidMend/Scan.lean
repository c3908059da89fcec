import HidMend.Device.Argument
import HidMend.Files
import HidMend.Roster

/-!
# Scanning a device directory

The kernel has a directory with one entry for each device, named by its sysname, with a uevent file
inside.  A scan gives one device for each entry whose name and whose uevent file are texts, in the
order of the names.  A device is identified by its modalias; where that is missing or unusable, its
name decides.

A uevent file describes a device by lines of the form `KEY=value`.  Two keys matter here; of a key
that occurs several times the last value counts.  White space around keys and values does not count,
and lines without an equals sign are ignored.
-/

namespace HidMend

/-! ## Uevent files -/

structure Uevent where
  name : Option String
  modalias : Option String
  deriving DecidableEq, Repr

namespace Uevent

def empty : Uevent := ⟨none, none⟩

/-- Key and value of a line. -/
def entry? (line : List Char) : Option (List Char × List Char) :=
  (Text.splitFirst? '=' line).map fun parts => (Text.trim parts.1, Text.trim parts.2)

/-- Let one line override what earlier lines said. -/
def readLine (uevent : Uevent) (line : List Char) : Uevent :=
  match entry? line with
  | none => uevent
  | some (key, value) =>
      if key = "HID_NAME".toList then { uevent with name := some (String.ofList value) }
      else if key = "MODALIAS".toList then { uevent with modalias := some (String.ofList value) }
      else uevent

def parse (text : String) : Uevent :=
  (Text.lines text.toList).foldl readLine empty

end Uevent

/-! ## Devices -/

/-- A device that was found, and the menders that claim it. -/
structure FoundDevice where
  sysname : String
  name : Option String
  modalias : Option String
  id : Option DeviceId
  menders : List String
  deriving DecidableEq, Repr

namespace Scan

/-- What was found under one name: the text of its uevent file, or why there is none. -/
structure Entry where
  name : String
  uevent : Except FileFault String

/-- The identity of an entry. -/
def identify (name : String) (uevent : Uevent) : Option DeviceId :=
  match uevent.modalias.map DeviceId.ofModalias with
  | some (.ok device) => some device
  | _ =>
      match Sysname.parse name with
      | .ok sysname => some sysname.device
      | .error _ => none

def device (roster : Roster) (name : String) (uevent : Uevent) : FoundDevice :=
  let id := identify name uevent
  ⟨name, uevent.name, uevent.modalias, id,
    (id.map fun id => (roster.claimants id).map Mender.name).getD []⟩

/-- The order of names in a directory: by their bytes. -/
def before (left right : Bytes) : Bool :=
  decide (left ≤ right)

/-- The name of an entry, if it is a text. -/
def nameOf? (bytes : Bytes) : Option String :=
  match textOfBytes bytes with
  | .ok name => some name
  | .error _ => none

/-- The names of the entries to look into, whatever the order in which a directory lists them. -/
def namesInOrder (listed : List Bytes) : List String :=
  (listed.mergeSort before).filterMap nameOf?

/-- The devices of entries, in the order of these. -/
def devices (roster : Roster) (entries : List Entry) : List FoundDevice :=
  entries.filterMap fun entry =>
    match entry.uevent with
    | .ok text => some (device roster entry.name (Uevent.parse text))
    | .error _ => none

/-- What a scan has to say about entries of a directory. -/
def notes (directory : String) (entries : List Entry) : List Note :=
  entries.flatMap fun entry =>
    match entry.uevent with
    | .error fault =>
        [⟨.warn, .scan, "skipping device without uevent",
          [("sysname", entry.name), ("error", fault.message)]⟩]
    | .ok text =>
        match (Uevent.parse text).modalias.map DeviceId.ofModalias with
        | some (.error fault) =>
            [⟨.debug, .scan, "unusable MODALIAS",
              [("path", joinPath directory entry.name), ("error", fault.message)]⟩]
        | _ => []

end Scan

end HidMend
