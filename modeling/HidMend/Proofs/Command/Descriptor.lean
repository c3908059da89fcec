import HidMend.Files.Tree
import HidMend.Proofs.Catalog.Descriptor
import HidMend.Proofs.Command.Session
import HidMend.Proofs.Roster.Builtin

/-!
# Repairing a descriptor, from the arguments to the output file

A run that repairs a dump ends in one of four ways, and the exit code tells which: the device or the
dump is unusable, no active recipe claims the device, its gate refuses the dump, or the dump is
repaired.  A dump behind its gate is always repaired, so no other way is left, and only the last one
writes.
-/

namespace HidMend.RepairedDescriptor

variable {settings : Settings} {roster : Roster} {recipe : Recipe} {id : DeviceId}
  {dump : Bytes}

/-! ## The buffer of the host -/

theorem length_hostBuffer (hsize : dump.length ≤ 4096) : (hostBuffer dump).length = 4096 := by
  simp only [hostBuffer, Catalog.maxDescriptorSize, List.length_append, List.length_replicate]
  omega

theorem take_hostBuffer : (hostBuffer dump).take dump.length = dump := by
  rw [hostBuffer, List.take_left]

/-! ## The dump behind the menders -/

/-- No gate is asked about a dump that the host could not hold. -/
theorem ofDump_of_lt (hlong : 4096 < dump.length) :
    ofDump roster id dump = .error (.repair .bufferTooSmall) := by
  have hexceeds : Catalog.maxDescriptorSize < dump.length := hlong
  rw [ofDump, if_pos hexceeds]

theorem ofDump_of_attach_error {fault : AttachFault} (hsize : dump.length ≤ 4096)
    (hattach : roster.attach id dump.length dump = .error fault) :
    ofDump roster id dump = .error (.attachment fault) := by
  have hfits : ¬Catalog.maxDescriptorSize < dump.length := Nat.not_lt.mpr hsize
  rw [ofDump, if_neg hfits, hattach]

/-- A single claimant that accepts the dump decides what comes out. -/
theorem ofDump_of_mendDescriptor {mender : Mender} {size : ℕ} {effect : Effect} {after : Bytes}
    (hsize : dump.length ≤ 4096) (hclaimants : roster.claimants id = [mender])
    (haccepts : mender.accepts dump.length dump = .ok ())
    (hmend : mender.mendDescriptor dump.length (hostBuffer dump) = (.ok ⟨size, effect⟩, after))
    (hroom : size ≤ after.length) :
    ofDump roster id dump = .ok ⟨[mender.name], ⟨size, effect⟩, after.take size⟩ := by
  have hfits : ¬Catalog.maxDescriptorSize < dump.length := Nat.not_lt.mpr hsize
  rw [ofDump, if_neg hfits, Roster.attach_singleton_of_ok hclaimants haccepts]
  simp only [Attachment.mendDescriptor_singleton, hmend, if_pos hroom]
  rfl

theorem ofDump_of_unclaimed (hroster : Roster.ofSettings settings = .ok roster)
    (hsize : dump.length ≤ 4096) (hpen : ¬settings.Assigns ArtistPro.recipe id)
    (hmouse : ¬settings.Assigns Momentum.recipe id) :
    ofDump roster id dump = .error (.attachment (.noMender id)) := by
  apply ofDump_of_attach_error hsize
  apply Roster.attach_of_claimants_eq_nil
  rw [Roster.claimants_eq_nil_iff hroster]
  simp [Catalog.recipes, hpen, hmouse]

theorem ofDump_of_declined (hroster : Roster.ofSettings settings = .ok roster)
    (hsize : dump.length ≤ 4096) (hrecipe : recipe ∈ Catalog.recipes)
    (hassigns : settings.Assigns recipe id)
    (hrefuse : ¬recipe.gate.check dump.length dump = .ok ()) :
    ∃ reason, ofDump roster id dump = .error (.attachment (.declined id recipe.name reason)) := by
  obtain ⟨reason, hreason⟩ := Gate.exists_check_eq_error hrefuse
  refine ⟨reason, ofDump_of_attach_error hsize ?_⟩
  exact Roster.attach_singleton_of_error
    (Roster.claimants_eq_singleton hroster hrecipe hassigns) hreason

theorem ofDump_of_pen (hroster : Roster.ofSettings settings = .ok roster)
    (hassigns : settings.Assigns ArtistPro.recipe id) (hsize : dump.length = 113)
    (hguard : dump[17]? = some 0x45) :
    ∃ repaired, ofDump roster id dump = .ok repaired ∧
      repaired.bytes = ArtistPro.fixedDescriptor := by
  have hbuffer : 113 ≤ (hostBuffer dump).length := by
    rw [length_hostBuffer (by omega)]
    decide
  have hclaimants := Roster.claimants_eq_singleton hroster (by simp [Catalog.recipes]) hassigns
  have haccepts := ArtistPro.gate_check_eq_ok_iff.mpr ⟨hsize, hguard⟩
  have hmend := ArtistPro.mendDescriptor_eq hbuffer
  have hroom : 111 ≤
      (ArtistPro.fixedDescriptor ++ (hostBuffer dump).drop 111).length := by
    rw [List.length_append, ArtistPro.length_fixedDescriptor]
    exact Nat.le_add_right _ _
  refine ⟨_, ofDump_of_mendDescriptor (by omega) hclaimants haccepts (hsize ▸ hmend) hroom, ?_⟩
  exact List.take_left' ArtistPro.length_fixedDescriptor

theorem ofDump_of_mouse (hroster : Roster.ofSettings settings = .ok roster)
    (hassigns : settings.Assigns Momentum.recipe id) (hsize : dump.length = 213) :
    ∃ repaired, ofDump roster id dump = .ok repaired ∧
      repaired.bytes = Momentum.repaired dump := by
  have hbuffer : 213 ≤ (hostBuffer dump).length := by
    rw [length_hostBuffer (by omega)]
    decide
  have hclaimants := Roster.claimants_eq_singleton hroster (by simp [Catalog.recipes]) hassigns
  have haccepts : Momentum.recipe.gate.check dump.length dump = .ok () :=
    Momentum.gate_check_eq_ok_iff.mpr hsize
  have hdump : (hostBuffer dump).take 213 = dump := hsize ▸ take_hostBuffer
  obtain ⟨effect, after, hmend, hafter, htake⟩ := Momentum.take_mendDescriptor hbuffer
  have hmend' : Momentum.recipe.toMender.mendDescriptor dump.length (hostBuffer dump) =
      (.ok ⟨213, effect⟩, after) := by
    rw [hsize]
    exact hmend
  refine ⟨_, ofDump_of_mendDescriptor (by omega) hclaimants haccepts hmend' (by omega), ?_⟩
  exact htake.trans (congrArg Momentum.repaired hdump)

/-! ## The session -/

section Session

variable {World : Type} [Files (StateM World)] {world after : World} {device input output : String}
  {content : Except FileFault Bytes}

/-- A device that is no identity fails the run before any file is read. -/
theorem ends_run_of_device_error {fault : ArgumentFault}
    (hdevice : DeviceId.ofArgument device = .error fault) (output : Option String) :
    Session.Ends (run (m := StateM World) roster device input output) world
      (.error (.device fault)) world := by
  rw [run, hdevice]
  exact (Session.ends_throw _ world).bind_error

theorem ends_run_of_read_error {fault : FileFault} (hdevice : DeviceId.ofArgument device = .ok id)
    (hread : (Files.readFile input : StateM World _).run world = (.error fault, world))
    (output : Option String) :
    Session.Ends (run (m := StateM World) roster device input output) world
      (.error (.file .readDescriptor input fault)) world := by
  rw [run, hdevice]
  apply (Session.ends_pure id world).bind
  apply (Session.ends_readFile hread).bind
  exact (Session.ends_requireFile _ input (.error fault) world).bind_error

/-- What fails behind the dump fails the run, and nothing is written. -/
theorem ends_run_of_ofDump_error {failure : Failure}
    (hdevice : DeviceId.ofArgument device = .ok id)
    (hread : (Files.readFile input : StateM World _).run world = (.ok dump, world))
    (hfailed : ofDump roster id dump = .error failure) (output : Option String) :
    Session.Ends (run (m := StateM World) roster device input output) world (.error failure)
      world := by
  rw [run, hdevice]
  apply (Session.ends_pure id world).bind
  apply (Session.ends_readFile hread).bind
  apply (Session.ends_requireFile .readDescriptor input (.ok dump) world).bind
  apply (Session.ends_addNotes _ world).bind
  rw [hfailed]
  exact (Session.ends_throw failure world).bind_error

/-- Only a run that repairs the dump writes. -/
theorem ends_run_of_ofDump_ok {repaired : RepairedDescriptor}
    (hdevice : DeviceId.ofArgument device = .ok id)
    (hread : (Files.readFile input : StateM World _).run world = (.ok dump, world))
    (hrepaired : ofDump roster id dump = .ok repaired)
    (hwrite : (Files.writeFile output repaired.bytes : StateM World _).run world =
      (.ok (), after)) :
    Session.Ends (run (m := StateM World) roster device input (some output)) world
      (.ok (repaired.answer dump.length (some output))) after := by
  rw [run, hdevice]
  apply (Session.ends_pure id world).bind
  apply (Session.ends_readFile hread).bind
  apply (Session.ends_requireFile .readDescriptor input (.ok dump) world).bind
  apply (Session.ends_addNotes _ world).bind
  rw [hrepaired]
  apply (Session.ends_pure repaired world).bind
  apply (Session.ends_writeFile hwrite).bind
  apply (Session.ends_requireFile .writeDescriptor output (.ok ()) after).bind
  exact Session.ends_pure _ after

end Session

/-! ## The exit code and the output file -/

/-- The device is an identity, and the dump was read and fits the buffer of a host. -/
structure Usable (device : String) (content : Except FileFault Bytes) (id : DeviceId)
    (dump : Bytes) : Prop where
  device_eq : DeviceId.ofArgument device = .ok id
  content_eq : content = .ok dump
  length_le : dump.length ≤ 4096

/-- The device is no identity, or the dump could not be read or is too long. -/
def Unusable (device : String) (content : Except FileFault Bytes) : Prop :=
  (∃ fault, DeviceId.ofArgument device = .error fault) ∨ (∃ fault, content = .error fault) ∨
    ∃ dump, content = .ok dump ∧ 4096 < dump.length

/-- The dump is an unpatched descriptor of the pen. -/
def IsPenDump (dump : Bytes) : Prop :=
  dump.length = 113 ∧ dump[17]? = some 0x45

/-- No active recipe claims the device. -/
def Unclaimed (settings : Settings) (device : String) (content : Except FileFault Bytes) : Prop :=
  ∃ id dump, Usable device content id dump ∧ ¬settings.Assigns ArtistPro.recipe id ∧
    ¬settings.Assigns Momentum.recipe id

/-- The recipe that claims the device was not written for the dump. -/
def Refused (settings : Settings) (device : String) (content : Except FileFault Bytes) : Prop :=
  ∃ id dump, Usable device content id dump ∧
    (settings.Assigns ArtistPro.recipe id ∧ ¬IsPenDump dump ∨
      settings.Assigns Momentum.recipe id ∧ dump.length ≠ 213)

/-- The recipe that claims the device was written for the dump. -/
def Accepted (settings : Settings) (device : String) (content : Except FileFault Bytes) : Prop :=
  ∃ id dump, Usable device content id dump ∧
    (settings.Assigns ArtistPro.recipe id ∧ IsPenDump dump ∨
      settings.Assigns Momentum.recipe id ∧ dump.length = 213)

/-- A device and a file are usable, or what is wrong with one of them is known. -/
theorem unusable_or_usable (device : String) (content : Except FileFault Bytes) :
    Unusable device content ∨ ∃ id dump, Usable device content id dump := by
  cases hdevice : DeviceId.ofArgument device with
  | error fault => exact Or.inl (Or.inl ⟨fault, hdevice⟩)
  | ok id =>
      cases content with
      | error fault => exact Or.inl (Or.inr (Or.inl ⟨fault, rfl⟩))
      | ok dump =>
          by_cases hlong : 4096 < dump.length
          · exact Or.inl (Or.inr (Or.inr ⟨dump, rfl, hlong⟩))
          · exact Or.inr ⟨id, dump, hdevice, rfl, Nat.le_of_not_lt hlong⟩

/-- The four kinds of requests. -/
theorem request_cases (settings : Settings) (device : String)
    (content : Except FileFault Bytes) :
    Unusable device content ∨ Unclaimed settings device content ∨
      Refused settings device content ∨ Accepted settings device content := by
  obtain hunusable | ⟨id, dump, husable⟩ := unusable_or_usable device content
  · exact Or.inl hunusable
  refine Or.inr ?_
  by_cases hpen : settings.Assigns ArtistPro.recipe id
  · by_cases hdump : IsPenDump dump
    · exact Or.inr (Or.inr ⟨id, dump, husable, Or.inl ⟨hpen, hdump⟩⟩)
    · exact Or.inr (Or.inl ⟨id, dump, husable, Or.inl ⟨hpen, hdump⟩⟩)
  by_cases hmouse : settings.Assigns Momentum.recipe id
  · by_cases hdump : dump.length = 213
    · exact Or.inr (Or.inr ⟨id, dump, husable, Or.inr ⟨hmouse, hdump⟩⟩)
    · exact Or.inr (Or.inl ⟨id, dump, husable, Or.inr ⟨hmouse, hdump⟩⟩)
  · exact Or.inl ⟨id, dump, husable, hpen, hmouse⟩

section Sessions

variable {World : Type} [Files (StateM World)] {world : World} {device input : String}
  {content : Except FileFault Bytes}

theorem ends_run_of_unusable (roster : Roster) (hunusable : Unusable device content)
    (hread : (Files.readFile input : StateM World _).run world = (content, world))
    (output : Option String) :
    ∃ failure, failure.exitCode = 1 ∧
      Session.Ends (run (m := StateM World) roster device input output) world (.error failure)
        world := by
  cases hdevice : DeviceId.ofArgument device with
  | error fault => exact ⟨_, rfl, ends_run_of_device_error hdevice output⟩
  | ok id =>
      obtain ⟨fault, hfault⟩ | ⟨fault, rfl⟩ | ⟨dump, rfl, hlong⟩ := hunusable
      · rw [hdevice] at hfault
        cases hfault
      · exact ⟨_, rfl, ends_run_of_read_error hdevice hread output⟩
      · exact ⟨_, rfl, ends_run_of_ofDump_error hdevice hread (ofDump_of_lt hlong) output⟩

theorem ends_run_of_unclaimed (hroster : Roster.ofSettings settings = .ok roster)
    (hunclaimed : Unclaimed settings device content)
    (hread : (Files.readFile input : StateM World _).run world = (content, world))
    (output : Option String) :
    ∃ failure, failure.exitCode = 2 ∧
      Session.Ends (run (m := StateM World) roster device input output) world (.error failure)
        world := by
  obtain ⟨id, dump, ⟨hdevice, rfl, hsize⟩, hpen, hmouse⟩ := hunclaimed
  have hfailed := ofDump_of_unclaimed hroster hsize hpen hmouse
  exact ⟨_, rfl, ends_run_of_ofDump_error hdevice hread hfailed output⟩

theorem ends_run_of_refused (hroster : Roster.ofSettings settings = .ok roster)
    (hrefused : Refused settings device content)
    (hread : (Files.readFile input : StateM World _).run world = (content, world))
    (output : Option String) :
    ∃ failure, failure.exitCode = 3 ∧
      Session.Ends (run (m := StateM World) roster device input output) world (.error failure)
        world := by
  obtain ⟨id, dump, ⟨hdevice, rfl, hsize⟩, ⟨hassigns, hother⟩ | ⟨hassigns, hother⟩⟩ := hrefused
  · have hrefuse : ¬ArtistPro.recipe.gate.check dump.length dump = .ok () := by
      rwa [ArtistPro.gate_check_eq_ok_iff]
    obtain ⟨reason, hfailed⟩ :=
      ofDump_of_declined hroster hsize (by simp [Catalog.recipes]) hassigns hrefuse
    exact ⟨_, rfl, ends_run_of_ofDump_error hdevice hread hfailed output⟩
  · have hrefuse : ¬Momentum.recipe.gate.check dump.length dump = .ok () := by
      rwa [Momentum.gate_check_eq_ok_iff]
    obtain ⟨reason, hfailed⟩ :=
      ofDump_of_declined hroster hsize (by simp [Catalog.recipes]) hassigns hrefuse
    exact ⟨_, rfl, ends_run_of_ofDump_error hdevice hread hfailed output⟩

variable {output : String}

theorem ends_run_of_repaired {repaired : RepairedDescriptor}
    (husable : Usable device content id dump) (hrepaired : ofDump roster id dump = .ok repaired)
    (hread : (Files.readFile input : StateM World _).run world = (content, world))
    (hwrite : Files.Writable output world) :
    ∃ answer after, Files.Written output repaired.bytes world after ∧
      Session.Ends (run (m := StateM World) roster device input (some output)) world (.ok answer)
        after := by
  obtain ⟨hdevice, rfl, -⟩ := husable
  obtain ⟨after, hwritten⟩ := hwrite repaired.bytes
  exact ⟨_, after, hwritten, ends_run_of_ofDump_ok hdevice hread hrepaired hwritten.1⟩

theorem ends_run_of_pen (hroster : Roster.ofSettings settings = .ok roster)
    (husable : Usable device content id dump) (hassigns : settings.Assigns ArtistPro.recipe id)
    (hdump : IsPenDump dump)
    (hread : (Files.readFile input : StateM World _).run world = (content, world))
    (hwrite : Files.Writable output world) :
    ∃ answer after, Files.Written output ArtistPro.fixedDescriptor world after ∧
      Session.Ends (run (m := StateM World) roster device input (some output)) world (.ok answer)
        after := by
  obtain ⟨repaired, hrepaired, hbytes⟩ := ofDump_of_pen hroster hassigns hdump.1 hdump.2
  rw [← hbytes]
  exact ends_run_of_repaired husable hrepaired hread hwrite

theorem ends_run_of_mouse (hroster : Roster.ofSettings settings = .ok roster)
    (husable : Usable device content id dump) (hassigns : settings.Assigns Momentum.recipe id)
    (hdump : dump.length = 213)
    (hread : (Files.readFile input : StateM World _).run world = (content, world))
    (hwrite : Files.Writable output world) :
    ∃ answer after, Files.Written output (Momentum.repaired dump) world after ∧
      Session.Ends (run (m := StateM World) roster device input (some output)) world (.ok answer)
        after := by
  obtain ⟨repaired, hrepaired, hbytes⟩ := ofDump_of_mouse hroster hassigns hdump
  rw [← hbytes]
  exact ends_run_of_repaired husable hrepaired hread hwrite

end Sessions

/-- What the exit code says about the request, and what becomes of the world. -/
structure Verdict {World : Type} [Files (StateM World)] (settings : Settings) (device : String)
    (content : Except FileFault Bytes) (output : String) (world : World) (exitCode : ℕ)
    (after : World) : Prop where
  one_iff : exitCode = 1 ↔ Unusable device content
  two_iff : exitCode = 2 ↔ Unclaimed settings device content
  three_iff : exitCode = 3 ↔ Refused settings device content
  zero_iff : exitCode = 0 ↔ Accepted settings device content
  pen_written : ∀ id dump, Usable device content id dump →
    settings.Assigns ArtistPro.recipe id → IsPenDump dump →
    Files.Written output ArtistPro.fixedDescriptor world after
  mouse_written : ∀ id dump, Usable device content id dump →
    settings.Assigns Momentum.recipe id → dump.length = 213 →
    Files.Written output (Momentum.repaired dump) world after
  kept : exitCode ≠ 0 → after = world

section Execution

variable {World : Type} [Files (StateM World)] {world after : World} {device input output : String}
  {content : Except FileFault Bytes} {exitCode : ℕ}

/-- The verdict on whatever has the exit code of the session and leaves its world. -/
theorem verdict_of_ends (hroster : Roster.ofSettings settings = .ok roster)
    (hread : (Files.readFile input : StateM World _).run world = (content, world))
    (hwrite : Files.Writable output world)
    (hends : ∀ {result left},
      Session.Ends (run (m := StateM World) roster device input (some output)) world result left →
        exitCode = Execution.exitCodeOf result ∧ after = left) :
    Verdict settings device content output world exitCode after := by
  have hone : Unusable device content → exitCode = 1 ∧ after = world := by
    intro hunusable
    obtain ⟨failure, hcode, hfailed⟩ :=
      ends_run_of_unusable roster hunusable hread (some output)
    exact hcode ▸ hends hfailed
  have htwo : Unclaimed settings device content → exitCode = 2 ∧ after = world := by
    intro hunclaimed
    obtain ⟨failure, hcode, hfailed⟩ := ends_run_of_unclaimed hroster hunclaimed hread (some output)
    exact hcode ▸ hends hfailed
  have hthree : Refused settings device content → exitCode = 3 ∧ after = world := by
    intro hrefused
    obtain ⟨failure, hcode, hfailed⟩ := ends_run_of_refused hroster hrefused hread (some output)
    exact hcode ▸ hends hfailed
  have hpen : ∀ id dump, Usable device content id dump →
      settings.Assigns ArtistPro.recipe id → IsPenDump dump →
      exitCode = 0 ∧ Files.Written output ArtistPro.fixedDescriptor world after := by
    intro id dump husable hassigns hdump
    obtain ⟨answer, left, hwritten, hrepaired⟩ :=
      ends_run_of_pen hroster husable hassigns hdump hread hwrite
    obtain ⟨hcode, rfl⟩ := hends hrepaired
    exact ⟨hcode, hwritten⟩
  have hmouse : ∀ id dump, Usable device content id dump →
      settings.Assigns Momentum.recipe id → dump.length = 213 →
      exitCode = 0 ∧ Files.Written output (Momentum.repaired dump) world after := by
    intro id dump husable hassigns hdump
    obtain ⟨answer, left, hwritten, hrepaired⟩ :=
      ends_run_of_mouse hroster husable hassigns hdump hread hwrite
    obtain ⟨hcode, rfl⟩ := hends hrepaired
    exact ⟨hcode, hwritten⟩
  have hzero : Accepted settings device content → exitCode = 0 := by
    rintro ⟨id, dump, husable, ⟨hassigns, hdump⟩ | ⟨hassigns, hdump⟩⟩
    · exact (hpen id dump husable hassigns hdump).1
    · exact (hmouse id dump husable hassigns hdump).1
  -- The four cases are all there are, and no two of them have the same exit code.
  have hcases := request_cases settings device content
  exact {
    one_iff := by grind
    two_iff := by grind
    three_iff := by grind
    zero_iff := by grind
    pen_written := fun id dump husable hassigns hdump => (hpen id dump husable hassigns hdump).2
    mouse_written := fun id dump husable hassigns hdump => (hmouse id dump husable hassigns hdump).2
    kept := by grind }

/-- A run that repairs a descriptor ends as its exit code says, and never fails behind the gate. -/
theorem run_repairs {environment : Environment} {arguments : List String} {invocation : Invocation}
    (hrequest : Request.ofArguments arguments environment.settingsPath = .ok (.perform invocation))
    (htask : invocation.task = .mendDescriptor device input (some output))
    (hloads : Execution.Loads world invocation.settingsPath settings roster)
    (hread : (Files.readFile input : StateM World _).run world = (content, world))
    (hwrite : Files.Writable output world) :
    ∃ execution after,
      (Execution.run environment arguments : StateM World Execution).run world =
          (execution, after) ∧
        Verdict settings device content output world execution.exitCode after := by
  cases hrun : (Execution.run environment arguments : StateM World Execution).run world with
  | mk execution after =>
      refine ⟨execution, after, rfl, verdict_of_ends hloads.roster hread hwrite ?_⟩
      intro result left hends
      have hperform :
          Session.Ends (Execution.perform roster invocation.task) world result left := by
        rw [htask]
        exact hends
      obtain ⟨⟨notes, rfl⟩, rfl⟩ :=
        Execution.eq_ofResult_of_ends hrequest hloads hrun hperform
      exact ⟨Execution.exitCode_ofResult _ _ _, rfl⟩

end Execution

/-- A dump with what the gate of the pen asks for, and zeros. -/
def penDump : Bytes :=
  List.replicate 17 0 ++ 0x45 :: List.replicate 95 0

def penTree : FileTree :=
  FileTree.empty.create ["dump.bin"] (.file penDump)

/-- The dump of a pen is repaired in a tree of files. -/
theorem run_repairs_penDump :
    ∃ execution after,
      (Execution.run ⟨none, none⟩
          ["fixup-rdesc", "--device", "28bd:095a", "dump.bin", "--output", "mended.bin"] :
          StateM FileTree Execution).run penTree = (execution, after) ∧
        execution.exitCode = 0 ∧
        Files.Written "mended.bin" ArtistPro.fixedDescriptor penTree after := by
  have hrequest :
      Request.ofArguments
          ["fixup-rdesc", "--device", "28bd:095a", "dump.bin", "--output", "mended.bin"]
          (Environment.mk none none).settingsPath =
        .ok (.perform ⟨false, 0, none,
          .mendDescriptor "28bd:095a" "dump.bin" (some "mended.bin")⟩) := rfl
  have hloads : Execution.Loads penTree none .default .builtin := ⟨rfl, rfl⟩
  have hread : (Files.readFile "dump.bin" : StateM FileTree _).run penTree =
      (.ok penDump, penTree) := rfl
  have hwrite : Files.Writable "mended.bin" penTree := fun bytes =>
    ⟨penTree.set ⟨.above 0, ["mended.bin"]⟩ (.file bytes), rfl, rfl⟩
  have husable : Usable "28bd:095a" (.ok penDump) (.usb 0x28BD 0x095A) penDump :=
    ⟨rfl, rfl, by decide⟩
  have hassigns : Settings.default.Assigns ArtistPro.recipe (.usb 0x28BD 0x095A) := ⟨rfl, rfl⟩
  have hdump : IsPenDump penDump := ⟨rfl, rfl⟩
  obtain ⟨execution, after, hrun, hverdict⟩ := run_repairs hrequest rfl hloads hread hwrite
  exact ⟨execution, after, hrun,
    hverdict.zero_iff.mpr ⟨_, _, husable, Or.inl ⟨hassigns, hdump⟩⟩,
    hverdict.pen_written _ _ husable hassigns hdump⟩

end HidMend.RepairedDescriptor
