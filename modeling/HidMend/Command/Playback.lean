import HidMend.Command.Session
import HidMend.Device.Record

/-!
# Replaying a recording

The reports of a recording go through the menders that claim the device.  A recording has no
descriptor, so no gate is asked.  Of a report that the menders changed the data are written anew;
every other report keeps the text it was recorded with.  A single report that cannot be read fails
the whole replay, and nothing is written.
-/

namespace HidMend

/-- A report that was changed, by its position in the recording. -/
structure ChangedReport where
  index : Nat
  before : String
  after : String
  deriving DecidableEq, Repr

/-- The reports of a recording behind the menders. -/
structure Playback where
  reports : List RecordedReport
  changes : List ChangedReport
  deriving DecidableEq, Repr

namespace Playback

/-- Send one report through the menders. -/
def report (attachment : Attachment) (recorded : RecordedReport) :
    Except Failure (RecordedReport × Effect) :=
  match Hex.decode recorded.data with
  | .error fault => .error (.recordingData fault)
  | .ok bytes =>
      match attachment.mendReport bytes with
      | (.error fault, _) => .error (.repair fault)
      | (.ok .unchanged, _) => .ok (recorded, .unchanged)
      | (.ok .changed, after) => .ok ({ recorded with data := Hex.encode after }, .changed)

/-- Send reports through the menders, the first having the given position. -/
def reportsFrom (attachment : Attachment) : Nat → List RecordedReport → Except Failure Playback
  | _, [] => .ok ⟨[], []⟩
  | index, recorded :: rest =>
      match report attachment recorded with
      | .error failure => .error failure
      | .ok (corrected, effect) =>
          match reportsFrom attachment (index + 1) rest with
          | .error failure => .error failure
          | .ok later =>
              let change :=
                if effect.isChanged then [⟨index, recorded.data, corrected.data⟩] else []
              .ok ⟨corrected :: later.reports, change ++ later.changes⟩

/-- What the replay of reports has to say, up to the first that fails. -/
def reportNotes (attachment : Attachment) : Nat → List RecordedReport → List Note
  | _, [] => []
  | index, recorded :: rest =>
      match Hex.decode recorded.data with
      | .error _ => []
      | .ok bytes =>
          attachment.reportNotes bytes ++
            match report attachment recorded with
            | .error _ => []
            | .ok (_, effect) =>
                ⟨.trace, .replayCommand, "report replayed",
                  [("index", toString index), ("outcome", Note.quoted effect.label)]⟩ ::
                  reportNotes attachment (index + 1) rest

/-- Whether a recording was recorded from a device. -/
def recordedFrom (recording : Recording) (device : DeviceId) : Except Failure Bool :=
  match recording.vendorNumber with
  | .error fault => .error (.recordingIdentity fault)
  | .ok vendor =>
      match recording.productNumber with
      | .error fault => .error (.recordingIdentity fault)
      | .ok product => .ok (vendor == device.vendor && product == device.product)

/-- A replay behind all checks: the menders that took part and what they made of the reports. -/
def ofRecording (roster : Roster) (device : DeviceId) (recording : Recording) :
    Except Failure (List String × Playback) :=
  match recordedFrom recording device with
  | .error failure => .error failure
  | .ok _ =>
      match roster.attachUnchecked device with
      | .error fault => .error (.attachment fault)
      | .ok attachment =>
          (reportsFrom attachment 0 recording.reports).map fun playback =>
            (attachment.names, playback)

/-- What a replay has to say. -/
def notes (roster : Roster) (device : DeviceId) (recording : Recording) : List Note :=
  match recordedFrom recording device with
  | .error _ => []
  | .ok same =>
      let warning : List Note :=
        if same then []
        else
          [⟨.warn, .replayCommand, "capture was recorded from a different device",
            [("capture_vid", recording.vendor), ("capture_pid", recording.product),
              ("device", device.text)]⟩]
      warning ++
        match roster.attachUnchecked device with
        | .error _ => []
        | .ok attachment => reportNotes attachment 0 recording.reports

/-- A text filled up with spaces. -/
def padded (width : Nat) (text : String) : String :=
  text ++ String.ofList (List.replicate (width - text.length) ' ')

def changeLines (change : ChangedReport) : List String :=
  ["  #" ++ padded 5 (toString change.index) ++ " " ++ change.before,
    "  " ++ padded 6 "->" ++ " " ++ change.after]

/-- The answer about a replay. -/
def answer (menders : List String) (playback : Playback) (output : Option String) : Answer where
  text :=
    let total :=
      "Replayed: " ++ toString playback.changes.length ++ " of "
        ++ toString playback.reports.length ++ " report(s) modified by "
        ++ ", ".intercalate menders
    Answer.lines (playback.changes.flatMap changeLines ++ total :: Answer.writtenLine output)
  member :=
    ("replay", .record [
      ("changes", .array (playback.changes.map fun change =>
        .record [("after", .text change.after), ("before", .text change.before),
          ("index", .natural change.index)])),
      ("modified", .natural playback.changes.length),
      ("modules", Answer.texts menders),
      ("output", Answer.optionalText output),
      ("reports", .natural playback.reports.length)])

/-- Replay the recording in a file. -/
def run {m : Type → Type} [Monad m] [Files m] (roster : Roster) (device input : String)
    (output : Option String) : Session m Answer := do
  let device ← Session.require ((DeviceId.ofArgument device).mapError .device)
  let text ← Session.requireFile .readRecording input (← readText input)
  match Recording.parse? text with
  | none => throw .recordingText
  | some recording => do
      Session.addNotes (notes roster device recording)
      let (menders, playback) ← Session.require (ofRecording roster device recording)
      match output with
      | none => pure ()
      | some path => do
          let corrected := { recording with reports := playback.reports }
          Session.requireFile .writeRecording path
            (← Files.writeFile path (bytesOfText corrected.write))
      return answer menders playback output

end Playback

end HidMend
