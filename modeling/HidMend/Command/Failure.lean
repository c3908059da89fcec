import HidMend.Device.Argument
import HidMend.Json.Printer
import HidMend.Roster
import HidMend.Settings
import HidMend.Text.HexNumber

/-!
# Failures

A command fails with a cause, a message and an exit code.  Two causes have codes of their own, so
that a script can tell them apart: no mender claims the device, and all menders that claim it
declined.
-/

namespace HidMend

/-- What a file or directory was needed for. -/
inductive FileUse
  | readDescriptor
  | writeDescriptor
  | readRecording
  | writeRecording
  | listDevices
  deriving DecidableEq, Repr

namespace FileUse

/-- What could not be done. -/
def message (path : String) : FileUse → String
  | readDescriptor => "Failed to read descriptor '" ++ path ++ "'"
  | writeDescriptor => "Failed to write descriptor '" ++ path ++ "'"
  | readRecording => "Failed to read capture '" ++ path ++ "'"
  | writeRecording => "Failed to write output file '" ++ path ++ "'"
  | listDevices => "Failed to read HID devices from '" ++ path ++ "'"

end FileUse

inductive Failure
  | settings (fault : SettingsFault)
  | device (fault : ArgumentFault)
  | attachment (fault : AttachFault)
  | repair (fault : Fault)
  /-- Vendor or product of a recording is no 16-bit number. -/
  | recordingIdentity (fault : HexFault)
  /-- The data of a recorded report are no bytes. -/
  | recordingData (fault : HexFault)
  /-- A text is no recording. -/
  | recordingText
  | file (use : FileUse) (path : String) (cause : FileFault)
  deriving DecidableEq, Repr

namespace Failure

def recordingProblem : String := "the text is not a capture"

def message : Failure → String
  | settings fault => "Configuration error: " ++ fault.message
  | device fault => "Invalid device identity: " ++ fault.message
  | attachment (.noMender unclaimed) => "No fixup module for device: " ++ unclaimed.text
  | attachment fault => "Module declined device: " ++ fault.message
  | repair fault => "Descriptor fixup failed: " ++ fault.message
  | recordingIdentity fault => "Invalid capture: " ++ fault.valueMessage
  | recordingData fault => "Invalid capture: " ++ fault.byteMessage
  | recordingText => "JSON error: " ++ recordingProblem
  | file use path _ => use.message path

/-- What caused a failure, from the nearest cause to the deepest. -/
def causes : Failure → List String
  | settings fault => fault.message :: fault.causes
  | repair fault => [fault.message]
  | recordingText => [recordingProblem]
  | file _ _ cause => [cause.message]
  | _ => []

def exitCode : Failure → Nat
  | attachment (.noMender _) => 2
  | attachment (.declined _ _ _) => 3
  | _ => 1

/-- The lines for people: the message, and below it the causes. -/
def text (failure : Failure) : String :=
  String.join (("Error: " ++ failure.message ++ "\n") ::
    failure.causes.map fun cause => "  Caused by: " ++ cause ++ "\n")

def toJson (failure : Failure) : Json :=
  .record [("error", .record [("message", .text failure.message)]), ("success", .bool false)]

end Failure

end HidMend
