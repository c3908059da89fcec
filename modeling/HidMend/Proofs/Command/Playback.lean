import HidMend.Files.Tree
import HidMend.Proofs.Command.Session
import HidMend.Proofs.Playback
import HidMend.Proofs.Records

/-!
# Replaying a recording, from the arguments to the output file

A run that replays a recording ends in one of four ways: the device or the recording is unusable, no
active recipe claims the device, the data of a report are no bytes, or all reports are replayed.
Only the last one writes, and what it writes is read back as the recording with its reports behind
the menders.
-/

namespace HidMend

/-- The content of a file is the text of the recording. -/
def Recording.Reads (content : Except FileFault Bytes) (recording : Recording) : Prop :=
  ∃ text, content.bind textOfBytes = .ok text ∧ Recording.parse? text = some recording

theorem Recording.reads_write (recording : Recording) :
    Recording.Reads (.ok (bytesOfText recording.write)) recording :=
  ⟨recording.write, textOfBytes_bytesOfText _, recording.parse?_write⟩

/-- A file is the text of one recording at most. -/
theorem Recording.Reads.unique {content : Except FileFault Bytes} {first second : Recording}
    (hfirst : Reads content first) (hsecond : Reads content second) : first = second := by
  obtain ⟨text, htext, hparse⟩ := hfirst
  obtain ⟨other, hother, hparsed⟩ := hsecond
  rw [htext] at hother
  cases hother
  exact Option.some.inj (hparse.symm.trans hparsed)

namespace Playback

variable {settings : Settings} {roster : Roster} {id : DeviceId} {recording : Recording}
  {attachment : Attachment}

/-! ## The recording behind the menders -/

/-- Vendor and product of the recording are numbers. -/
structure Identified (recording : Recording) : Prop where
  vendor : ∃ number, recording.vendorNumber = .ok number
  product : ∃ number, recording.productNumber = .ok number

theorem recordedFrom_of_identified (hidentified : Identified recording) (device : DeviceId) :
    ∃ same, recordedFrom recording device = .ok same := by
  obtain ⟨vendor, hvendor⟩ := hidentified.vendor
  obtain ⟨product, hproduct⟩ := hidentified.product
  rw [recordedFrom, hvendor]
  simp only [hproduct]
  exact ⟨_, rfl⟩

theorem ofRecording_of_not_identified (hidentified : ¬Identified recording) (roster : Roster)
    (device : DeviceId) :
    ∃ fault, ofRecording roster device recording = .error (.recordingIdentity fault) := by
  cases hvendor : recording.vendorNumber with
  | error fault => exact ⟨fault, by simp only [ofRecording, recordedFrom, hvendor]⟩
  | ok vendor =>
      cases hproduct : recording.productNumber with
      | error fault => exact ⟨fault, by simp only [ofRecording, recordedFrom, hvendor, hproduct]⟩
      | ok product => exact absurd ⟨⟨vendor, hvendor⟩, ⟨product, hproduct⟩⟩ hidentified

/-- Claimants are looked up before any report is read. -/
theorem ofRecording_of_unclaimed (hidentified : Identified recording)
    (hnone : roster.claimants id = []) :
    ofRecording roster id recording = .error (.attachment (.noMender id)) := by
  obtain ⟨same, hsame⟩ := recordedFrom_of_identified hidentified id
  simp only [ofRecording, hsame, Roster.attachUnchecked, hnone]

/-- A replay is the replay of its reports once the recording has an identity and the device a
claimant. -/
theorem ofRecording_of_attachUnchecked (hidentified : Identified recording)
    (hattach : roster.attachUnchecked id = .ok attachment) :
    ofRecording roster id recording =
      (reportsFrom attachment 0 recording.reports).map fun playback =>
        (attachment.names, playback) := by
  obtain ⟨same, hsame⟩ := recordedFrom_of_identified hidentified id
  simp only [ofRecording, hsame, hattach]

/-! ## The session -/

section Session

variable {World : Type} [Files (StateM World)] {world after : World} {device input output : String}
  {content : Except FileFault Bytes} {text : String}

theorem ends_run_of_device_error {fault : ArgumentFault}
    (hdevice : DeviceId.ofArgument device = .error fault) (output : Option String) :
    Session.Ends (run (m := StateM World) roster device input output) world
      (.error (.device fault)) world := by
  rw [run, hdevice]
  exact (Session.ends_throw _ world).bind_error

theorem ends_run_of_text_error {fault : FileFault} (hdevice : DeviceId.ofArgument device = .ok id)
    (hread : (Files.readFile input : StateM World _).run world = (content, world))
    (htext : content.bind textOfBytes = .error fault) (output : Option String) :
    Session.Ends (run (m := StateM World) roster device input output) world
      (.error (.file .readRecording input fault)) world := by
  rw [run, hdevice]
  apply (Session.ends_pure id world).bind
  apply (Session.ends_readText hread).bind
  rw [htext]
  exact (Session.ends_requireFile _ input (.error fault) world).bind_error

theorem ends_run_of_parse?_none (hdevice : DeviceId.ofArgument device = .ok id)
    (hread : (Files.readFile input : StateM World _).run world = (content, world))
    (htext : content.bind textOfBytes = .ok text) (hparse : Recording.parse? text = none)
    (output : Option String) :
    Session.Ends (run (m := StateM World) roster device input output) world
      (.error .recordingText) world := by
  rw [run, hdevice]
  apply (Session.ends_pure id world).bind
  apply (Session.ends_readText hread).bind
  rw [htext]
  apply (Session.ends_requireFile .readRecording input (.ok text) world).bind
  rw [hparse]
  exact Session.ends_throw _ world

/-- What fails behind the recording fails the run, and nothing is written. -/
theorem ends_run_of_ofRecording_error {failure : Failure}
    (hdevice : DeviceId.ofArgument device = .ok id)
    (hread : (Files.readFile input : StateM World _).run world = (content, world))
    (hreads : Recording.Reads content recording)
    (hfailed : ofRecording roster id recording = .error failure) (output : Option String) :
    Session.Ends (run (m := StateM World) roster device input output) world (.error failure)
      world := by
  obtain ⟨text, htext, hparse⟩ := hreads
  rw [run, hdevice]
  apply (Session.ends_pure id world).bind
  apply (Session.ends_readText hread).bind
  rw [htext]
  apply (Session.ends_requireFile .readRecording input (.ok text) world).bind
  rw [hparse]
  apply (Session.ends_addNotes _ world).bind
  rw [hfailed]
  exact (Session.ends_throw failure world).bind_error

/-- Only a run that replays all reports writes. -/
theorem ends_run_of_ofRecording_ok {menders : List String} {playback : Playback}
    (hdevice : DeviceId.ofArgument device = .ok id)
    (hread : (Files.readFile input : StateM World _).run world = (content, world))
    (hreads : Recording.Reads content recording)
    (hplayed : ofRecording roster id recording = .ok (menders, playback))
    (hwrite : (Files.writeFile output
      (bytesOfText { recording with reports := playback.reports }.write) : StateM World _).run
        world = (.ok (), after)) :
    Session.Ends (run (m := StateM World) roster device input (some output)) world
      (.ok (answer menders playback (some output))) after := by
  obtain ⟨text, htext, hparse⟩ := hreads
  rw [run, hdevice]
  apply (Session.ends_pure id world).bind
  apply (Session.ends_readText hread).bind
  rw [htext]
  apply (Session.ends_requireFile .readRecording input (.ok text) world).bind
  rw [hparse]
  apply (Session.ends_addNotes _ world).bind
  rw [hplayed]
  apply (Session.ends_pure (menders, playback) world).bind
  apply (Session.ends_writeFile hwrite).bind
  apply (Session.ends_requireFile .writeRecording output (.ok ()) after).bind
  exact Session.ends_pure _ after

end Session

/-! ## The exit code, the output file and the summary -/

/-- The device is an identity, and the file is the text of a recording with an identity. -/
structure Usable (device : String) (content : Except FileFault Bytes) (id : DeviceId)
    (recording : Recording) : Prop where
  device_eq : DeviceId.ofArgument device = .ok id
  reads : Recording.Reads content recording
  identified : Identified recording

/-- The device is no identity, the file could not be read or is no recording, or the recording has
no identity. -/
def Unusable (device : String) (content : Except FileFault Bytes) : Prop :=
  (∃ fault, DeviceId.ofArgument device = .error fault) ∨
    (¬∃ recording, Recording.Reads content recording) ∨
    ∃ recording, Recording.Reads content recording ∧ ¬Identified recording

/-- An active recipe claims the device. -/
def Claimed (settings : Settings) (id : DeviceId) : Prop :=
  ∃ recipe ∈ Catalog.recipes, settings.Assigns recipe id

/-- No active recipe claims the device. -/
def Unclaimed (settings : Settings) (device : String) (content : Except FileFault Bytes) : Prop :=
  ∃ id recording, Usable device content id recording ∧ ¬Claimed settings id

/-- A recipe claims the device, but the data of a report are no bytes. -/
def Undecodable (settings : Settings) (device : String) (content : Except FileFault Bytes) :
    Prop :=
  ∃ id recording, Usable device content id recording ∧ Claimed settings id ∧
    ∃ recorded ∈ recording.reports, ¬Decodes recorded

/-- A recipe claims the device, and the data of all reports are bytes. -/
def Replayable (settings : Settings) (device : String) (content : Except FileFault Bytes) : Prop :=
  ∃ id recording, Usable device content id recording ∧ Claimed settings id ∧
    ∀ recorded ∈ recording.reports, Decodes recorded

theorem unusable_or_usable (device : String) (content : Except FileFault Bytes) :
    Unusable device content ∨ ∃ id recording, Usable device content id recording := by
  cases hdevice : DeviceId.ofArgument device with
  | error fault => exact Or.inl (Or.inl ⟨fault, hdevice⟩)
  | ok id =>
      by_cases hreads : ∃ recording, Recording.Reads content recording
      · obtain ⟨recording, hreads⟩ := hreads
        by_cases hidentified : Identified recording
        · exact Or.inr ⟨id, recording, hdevice, hreads, hidentified⟩
        · exact Or.inl (Or.inr (Or.inr ⟨recording, hreads, hidentified⟩))
      · exact Or.inl (Or.inr (Or.inl hreads))

/-- The four kinds of requests. -/
theorem request_cases (settings : Settings) (device : String)
    (content : Except FileFault Bytes) :
    Unusable device content ∨ Unclaimed settings device content ∨
      Undecodable settings device content ∨ Replayable settings device content := by
  obtain hunusable | ⟨id, recording, husable⟩ := unusable_or_usable device content
  · exact Or.inl hunusable
  refine Or.inr ?_
  by_cases hclaimed : Claimed settings id
  · by_cases hbroken : ∃ recorded ∈ recording.reports, ¬Decodes recorded
    · exact Or.inr (Or.inl ⟨id, recording, husable, hclaimed, hbroken⟩)
    · push Not at hbroken
      exact Or.inr (Or.inr ⟨id, recording, husable, hclaimed, hbroken⟩)
  · exact Or.inl ⟨id, recording, husable, hclaimed⟩

theorem exists_attachUnchecked (hroster : Roster.ofSettings settings = .ok roster)
    (hclaimed : Claimed settings id) :
    ∃ attachment, roster.attachUnchecked id = .ok attachment ∧ attachment.Exact := by
  obtain ⟨recipe, hrecipe, hassigns⟩ := hclaimed
  have hattach := Roster.attachUnchecked_singleton
    (Roster.claimants_eq_singleton hroster hrecipe hassigns)
  exact ⟨_, hattach, Roster.exact_of_attachUnchecked hroster hattach⟩

section Sessions

variable {World : Type} [Files (StateM World)] {world : World} {device input : String}
  {content : Except FileFault Bytes}

theorem ends_run_of_unusable (roster : Roster) (hunusable : Unusable device content)
    (hread : (Files.readFile input : StateM World _).run world = (content, world))
    (output : Option String) :
    ∃ failure, failure.exitCode = 1 ∧
      Session.Ends (run (m := StateM World) roster device input output) world (.error failure)
        world := by
  cases hdevice : DeviceId.ofArgument device with
  | error fault => exact ⟨_, rfl, ends_run_of_device_error hdevice output⟩
  | ok id =>
      cases htext : content.bind textOfBytes with
      | error fault => exact ⟨_, rfl, ends_run_of_text_error hdevice hread htext output⟩
      | ok text =>
          cases hparse : Recording.parse? text with
          | none => exact ⟨_, rfl, ends_run_of_parse?_none hdevice hread htext hparse output⟩
          | some recording =>
              have hreads : Recording.Reads content recording := ⟨text, htext, hparse⟩
              have hidentified : ¬Identified recording := by
                obtain ⟨fault, hfault⟩ | hnone | ⟨other, hother, hidentified⟩ := hunusable
                · rw [hdevice] at hfault
                  cases hfault
                · exact absurd ⟨recording, hreads⟩ hnone
                · rwa [hother.unique hreads] at hidentified
              obtain ⟨fault, hfailed⟩ := ofRecording_of_not_identified hidentified roster id
              exact ⟨_, rfl, ends_run_of_ofRecording_error hdevice hread hreads hfailed output⟩

theorem ends_run_of_unclaimed (hroster : Roster.ofSettings settings = .ok roster)
    (hunclaimed : Unclaimed settings device content)
    (hread : (Files.readFile input : StateM World _).run world = (content, world))
    (output : Option String) :
    ∃ failure, failure.exitCode = 2 ∧
      Session.Ends (run (m := StateM World) roster device input output) world (.error failure)
        world := by
  obtain ⟨id, recording, husable, hunclaimed⟩ := hunclaimed
  have hnone : roster.claimants id = [] := by
    rw [Roster.claimants_eq_nil_iff hroster]
    intro recipe hrecipe hassigns
    exact hunclaimed ⟨recipe, hrecipe, hassigns⟩
  have hfailed := ofRecording_of_unclaimed husable.identified hnone
  exact ⟨_, rfl,
    ends_run_of_ofRecording_error husable.device_eq hread husable.reads hfailed output⟩

/-- Data that are no bytes end a request with exit code 1, also behind reports that are replayed. -/
theorem ends_run_of_undecodable (hroster : Roster.ofSettings settings = .ok roster)
    (hundecodable : Undecodable settings device content)
    (hread : (Files.readFile input : StateM World _).run world = (content, world))
    (output : Option String) :
    ∃ failure, failure.exitCode = 1 ∧
      Session.Ends (run (m := StateM World) roster device input output) world (.error failure)
        world := by
  obtain ⟨id, recording, husable, hclaimed, hbroken⟩ := hundecodable
  obtain ⟨attachment, hattach, hexact⟩ := exists_attachUnchecked hroster hclaimed
  obtain ⟨fault, hfault⟩ := reportsFrom_of_not_decodes hexact hbroken 0
  have hfailed : ofRecording roster id recording = .error (.recordingData fault) := by
    rw [ofRecording_of_attachUnchecked husable.identified hattach, hfault]
    rfl
  exact ⟨_, rfl,
    ends_run_of_ofRecording_error husable.device_eq hread husable.reads hfailed output⟩

/-- A request whose reports are all bytes is answered, and what it writes is read back. -/
theorem ends_run_of_decodes {output : String} (hroster : Roster.ofSettings settings = .ok roster)
    (husable : Usable device content id recording) (hclaimed : Claimed settings id)
    (hdecodes : ∀ recorded ∈ recording.reports, Decodes recorded)
    (hread : (Files.readFile input : StateM World _).run world = (content, world))
    (hwrite : Files.Writable output world) :
    ∃ attachment playback after, roster.attachUnchecked id = .ok attachment ∧
      Replays attachment 0 recording.reports playback ∧
      (∃ bytes, Files.Written output bytes world after ∧
        Recording.Reads (.ok bytes) { recording with reports := playback.reports }) ∧
      Session.Ends (run (m := StateM World) roster device input (some output)) world
        (.ok (answer attachment.names playback (some output))) after := by
  obtain ⟨attachment, hattach, hexact⟩ := exists_attachUnchecked hroster hclaimed
  obtain ⟨playback, hplayback, hreplays⟩ := reportsFrom_of_decodes hexact hdecodes 0
  have hplayed : ofRecording roster id recording = .ok (attachment.names, playback) := by
    rw [ofRecording_of_attachUnchecked husable.identified hattach, hplayback]
    rfl
  obtain ⟨after, hwritten⟩ :=
    hwrite (bytesOfText { recording with reports := playback.reports }.write)
  exact ⟨attachment, playback, after, hattach, hreplays,
    ⟨_, hwritten, Recording.reads_write _⟩,
    ends_run_of_ofRecording_ok husable.device_eq hread husable.reads hplayed hwritten.1⟩

end Sessions

/-- A replay of all reports: what is written is read back as the recording with its reports behind
the menders, and what is shown counts the reports and lists the changes. -/
structure Completed {World : Type} [Files (StateM World)] (attachment : Attachment)
    (recording : Recording) (output : String) (json : Bool) (world : World)
    (execution : Execution) (after : World) (playback : Playback) : Prop where
  replays : Replays attachment 0 recording.reports playback
  written : ∃ bytes, Files.Written output bytes world after ∧
    Recording.Reads (.ok bytes) { recording with reports := playback.reports }
  shown : ∃ notes, execution =
    .ofResult json (.ok (answer attachment.names playback (some output))) notes
  summary : (answer attachment.names playback (some output)).member.2.fields?
      ["reports", "modified", "changes"] =
    some [.natural recording.reports.length, .natural playback.changes.length,
      .array (playback.changes.map fun change =>
        .record [("after", .text change.after), ("before", .text change.before),
          ("index", .natural change.index)])]

/-- What the exit code says about the request, and what becomes of the world. -/
structure Verdict {World : Type} [Files (StateM World)] (settings : Settings) (roster : Roster)
    (device : String) (content : Except FileFault Bytes) (output : String) (json : Bool)
    (world : World) (execution : Execution) (after : World) : Prop where
  one_iff : execution.exitCode = 1 ↔
    Unusable device content ∨ Undecodable settings device content
  two_iff : execution.exitCode = 2 ↔ Unclaimed settings device content
  zero_iff : execution.exitCode = 0 ↔ Replayable settings device content
  completed : ∀ id recording, Usable device content id recording → Claimed settings id →
    (∀ recorded ∈ recording.reports, Decodes recorded) →
    ∃ attachment playback, roster.attachUnchecked id = .ok attachment ∧
      Completed attachment recording output json world execution after playback
  kept : execution.exitCode ≠ 0 → after = world

section Execution

variable {World : Type} [Files (StateM World)] {world after : World} {device input output : String}
  {content : Except FileFault Bytes} {json : Bool} {execution : Execution}

/-- The summary counts the reports and lists the changes. -/
theorem fields?_answer {playback : Playback} (menders : List String) (output : Option String)
    (hlength : playback.reports.length = recording.reports.length) :
    (answer menders playback output).member.2.fields? ["reports", "modified", "changes"] =
      some [.natural recording.reports.length, .natural playback.changes.length,
        .array (playback.changes.map fun change =>
          .record [("after", .text change.after), ("before", .text change.before),
            ("index", .natural change.index)])] := by
  rw [← hlength]
  have hkeys : ["changes", "modified", "modules", "output", "reports"].Nodup := by decide
  exact Json.fields?_record hkeys (by simp)

/-- The verdict on whatever shows the result of the session and leaves its world. -/
theorem verdict_of_ends (hroster : Roster.ofSettings settings = .ok roster)
    (hread : (Files.readFile input : StateM World _).run world = (content, world))
    (hwrite : Files.Writable output world)
    (hends : ∀ {result left},
      Session.Ends (run (m := StateM World) roster device input (some output)) world result left →
        (∃ notes, execution = .ofResult json result notes) ∧ after = left) :
    Verdict settings roster device content output json world execution after := by
  have hfails : ∀ {failure}, Session.Ends
      (run (m := StateM World) roster device input (some output)) world (.error failure) world →
        execution.exitCode = failure.exitCode ∧ after = world := by
    intro failure hfailed
    obtain ⟨⟨notes, rfl⟩, rfl⟩ := hends hfailed
    exact ⟨Execution.exitCode_ofResult _ _ _, rfl⟩
  have hunusable : Unusable device content → execution.exitCode = 1 ∧ after = world := by
    intro hunusable
    obtain ⟨failure, hcode, hfailed⟩ := ends_run_of_unusable roster hunusable hread (some output)
    exact hcode ▸ hfails hfailed
  have htwo : Unclaimed settings device content → execution.exitCode = 2 ∧ after = world := by
    intro hunclaimed
    obtain ⟨failure, hcode, hfailed⟩ :=
      ends_run_of_unclaimed hroster hunclaimed hread (some output)
    exact hcode ▸ hfails hfailed
  have hundecodable :
      Undecodable settings device content → execution.exitCode = 1 ∧ after = world := by
    intro hundecodable
    obtain ⟨failure, hcode, hfailed⟩ :=
      ends_run_of_undecodable hroster hundecodable hread (some output)
    exact hcode ▸ hfails hfailed
  have hcompleted : ∀ id recording, Usable device content id recording → Claimed settings id →
      (∀ recorded ∈ recording.reports, Decodes recorded) →
      execution.exitCode = 0 ∧ ∃ attachment playback,
        roster.attachUnchecked id = .ok attachment ∧
          Completed attachment recording output json world execution after playback := by
    intro id recording husable hclaimed hdecodes
    obtain ⟨attachment, playback, left, hattach, hreplays, hwritten, hplayed⟩ :=
      ends_run_of_decodes hroster husable hclaimed hdecodes hread hwrite
    obtain ⟨⟨notes, rfl⟩, rfl⟩ := hends hplayed
    exact ⟨rfl, attachment, playback, hattach, hreplays, hwritten, ⟨notes, rfl⟩,
      fields?_answer _ _ hreplays.corrects.length_eq.symm⟩
  have hzero : Replayable settings device content → execution.exitCode = 0 := by
    rintro ⟨id, recording, husable, hclaimed, hdecodes⟩
    exact (hcompleted id recording husable hclaimed hdecodes).1
  -- The cases are all there are, and those that differ in their exit codes exclude one another.
  have hcases := request_cases settings device content
  exact {
    one_iff := by grind
    two_iff := by grind
    zero_iff := by grind
    completed := fun id recording husable hclaimed hdecodes =>
      (hcompleted id recording husable hclaimed hdecodes).2
    kept := by grind }

/-- A run that replays a recording ends as its exit code says, and writes all reports or nothing. -/
theorem run_replays {environment : Environment} {arguments : List String} {invocation : Invocation}
    (hrequest : Request.ofArguments arguments environment.settingsPath = .ok (.perform invocation))
    (htask : invocation.task = .replay device input (some output))
    (hloads : Execution.Loads world invocation.settingsPath settings roster)
    (hread : (Files.readFile input : StateM World _).run world = (content, world))
    (hwrite : Files.Writable output world) :
    ∃ execution after,
      (Execution.run environment arguments : StateM World Execution).run world =
          (execution, after) ∧
        Verdict settings roster device content output invocation.json world execution after := by
  cases hrun : (Execution.run environment arguments : StateM World Execution).run world with
  | mk execution after =>
      refine ⟨execution, after, rfl, verdict_of_ends hloads.roster hread hwrite ?_⟩
      intro result left hends
      have hperform :
          Session.Ends (Execution.perform roster invocation.task) world result left := by
        rw [htask]
        exact hends
      exact Execution.eq_ofResult_of_ends hrequest hloads hrun hperform

end Execution

/-- A touch of the eraser on a tilted pen, the pen upright above the tablet, and a touch of its
tip. -/
def penRecording : Recording :=
  ⟨"28bd", "095a",
    [⟨8000, 0x07, "07 29 10 00 FF FF 00 00 0A 80"⟩, ⟨16000, 0x07, "07 20 0 10 0 10 0 0 0 0"⟩,
      ⟨24000, 0x07, "07 21 00 40 00 40 ff 00 f6 0a"⟩]⟩

/-- The two touches are written anew, and between them the text stays as it was recorded. -/
def mendedPenReports : List RecordedReport :=
  [⟨8000, 0x07, "0x07 0x30 0x00 0x00 0xFF 0xFF 0x00 0x00 0x0A 0x80"⟩,
    ⟨16000, 0x07, "07 20 0 10 0 10 0 0 0 0"⟩,
    ⟨24000, 0x07, "0x07 0x21 0x1B 0x40 0xD5 0x3F 0xFF 0x00 0xF6 0x0A"⟩]

def penChanges : List ChangedReport :=
  [⟨0, "07 29 10 00 FF FF 00 00 0A 80", "0x07 0x30 0x00 0x00 0xFF 0xFF 0x00 0x00 0x0A 0x80"⟩,
    ⟨2, "07 21 00 40 00 40 ff 00 f6 0a", "0x07 0x21 0x1B 0x40 0xD5 0x3F 0xFF 0x00 0xF6 0x0A"⟩]

def penTree : FileTree :=
  FileTree.empty.create ["pen.json"] (.file (bytesOfText penRecording.write))

theorem decodes_penRecording : ∀ recorded ∈ penRecording.reports, Decodes recorded := by
  simp only [penRecording, List.forall_mem_cons, List.not_mem_nil, false_implies, implies_true,
    and_true]
  exact ⟨⟨[0x07, 0x29, 0x10, 0x00, 0xFF, 0xFF, 0x00, 0x00, 0x0A, 0x80], rfl⟩,
    ⟨[0x07, 0x20, 0x00, 0x10, 0x00, 0x10, 0x00, 0x00, 0x00, 0x00], rfl⟩,
    ⟨[0x07, 0x21, 0x00, 0x40, 0x00, 0x40, 0xFF, 0x00, 0xF6, 0x0A], rfl⟩⟩

/-- The recording of a pen is replayed in a tree of files. -/
theorem run_replays_penRecording :
    ∃ execution after,
      (Execution.run ⟨none, none⟩
          ["replay", "--device", "28bd:095a", "pen.json", "--output", "mended.json"] :
          StateM FileTree Execution).run penTree = (execution, after) ∧
        execution.exitCode = 0 ∧
        execution.output = Answer.lines [
          "  #0     07 29 10 00 FF FF 00 00 0A 80",
          "  ->     0x07 0x30 0x00 0x00 0xFF 0xFF 0x00 0x00 0x0A 0x80",
          "  #2     07 21 00 40 00 40 ff 00 f6 0a",
          "  ->     0x07 0x21 0x1B 0x40 0xD5 0x3F 0xFF 0x00 0xF6 0x0A",
          "Replayed: 2 of 3 report(s) modified by xppen-artist-pro-gen2",
          "  Written to 'mended.json'"] ∧
        (∃ attachment, Roster.builtin.attachUnchecked (.usb 0x28BD 0x095A) = .ok attachment ∧
          Completed attachment penRecording "mended.json" false penTree execution after
            ⟨mendedPenReports, penChanges⟩) ∧
        ∃ bytes, (Files.readFile "mended.json" : StateM FileTree _).run after = (.ok bytes, after) ∧
          Recording.Reads (.ok bytes) ⟨"28bd", "095a", mendedPenReports⟩ := by
  have hrequest :
      Request.ofArguments
          ["replay", "--device", "28bd:095a", "pen.json", "--output", "mended.json"]
          (Environment.mk none none).settingsPath =
        .ok (.perform ⟨false, 0, none,
          .replay "28bd:095a" "pen.json" (some "mended.json")⟩) := rfl
  have hloads : Execution.Loads penTree none .default .builtin := ⟨rfl, rfl⟩
  have hread : (Files.readFile "pen.json" : StateM FileTree _).run penTree =
      (.ok (bytesOfText penRecording.write), penTree) := rfl
  have hwrite : Files.Writable "mended.json" penTree := fun bytes =>
    ⟨penTree.set ⟨.above 0, ["mended.json"]⟩ (.file bytes), rfl, rfl⟩
  have husable : Usable "28bd:095a" (.ok (bytesOfText penRecording.write))
      (.usb 0x28BD 0x095A) penRecording :=
    ⟨rfl, penRecording.reads_write, ⟨0x28BD, rfl⟩, ⟨0x095A, rfl⟩⟩
  have hclaimed : Claimed .default (.usb 0x28BD 0x095A) :=
    ⟨ArtistPro.recipe, List.mem_cons_self, rfl, rfl⟩
  obtain ⟨execution, after, hrun, hverdict⟩ := run_replays hrequest rfl hloads hread hwrite
  have hzero : execution.exitCode = 0 :=
    hverdict.zero_iff.mpr ⟨_, _, husable, hclaimed, decodes_penRecording⟩
  obtain ⟨attachment, playback, hattach, hcompleted⟩ :=
    hverdict.completed _ _ husable hclaimed decodes_penRecording
  have hexact : attachment.Exact := Roster.exact_of_attachUnchecked hloads.roster hattach
  obtain rfl : ⟨.usb 0x28BD 0x095A, [ArtistPro.recipe.toMender]⟩ = attachment :=
    Except.ok.inj hattach
  -- The menders leave one result, which is found by sending the reports through them.
  have hplayed := (reportsFrom_eq_ok_iff hexact decodes_penRecording).mpr hcompleted.replays
  obtain rfl : ⟨mendedPenReports, penChanges⟩ = playback := Except.ok.inj hplayed
  obtain ⟨notes, hshown⟩ := hcompleted.shown
  obtain ⟨bytes, hwritten, hreads⟩ := hcompleted.written
  refine ⟨execution, after, hrun, hzero, ?_, ⟨_, hattach, hcompleted⟩, bytes, hwritten.2, hreads⟩
  rw [hshown]
  rfl

end Playback

end HidMend
