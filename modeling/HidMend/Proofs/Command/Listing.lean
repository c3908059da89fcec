import HidMend.Command.Listing
import HidMend.Files.Tree
import HidMend.Proofs.Command.Session
import HidMend.Proofs.Scan

/-!
# Listing the devices of a directory

A session that scans a directory ends with the report on it.  Of the world it is assumed that the
directory can be listed, and that listing it and reading files leave everything as it is; whether a
uevent file can be read, and what is in it, is open for each child.  In a tree of files this holds
of every directory that lists no name twice.
-/

namespace HidMend.Listing

variable {World : Type} [Files (StateM World)] {world : World} {roster : Roster} {path : String}
  {directory : Scan.Directory}

/-- In this world the path leads to the directory. -/
structure Shows (path : String) (directory : Scan.Directory) (world : World) : Prop where
  list : (Files.listDirectory path : StateM World _).run world = (.ok directory.listed, world)
  read : ∀ name, bytesOfText name ∈ directory.listed →
    (Files.readFile (joinPath (joinPath path name) "uevent") : StateM World _).run world =
      (directory.uevent name, world)

/-- Every uevent file is tried, and a file that cannot be read does not end the session. -/
theorem ends_readEntries (hshows : Shows path directory world) :
    Session.Ends
      (readEntries (m := Session (StateM World)) path (Scan.namesInOrder directory.listed)) world
      (.ok directory.entries) world := by
  apply Session.ends_mapM
  intro name hname
  have hread := hshows.read name (Scan.mem_namesInOrder_iff.mp hname)
  apply (Session.ends_readText hread).bind
  exact Session.ends_pure _ world

/-- A scan of a directory ends with what the directory has. -/
theorem ends_devices (hshows : Shows path directory world) :
    Session.Ends (devices (m := StateM World) roster path) world (.ok (directory.found roster))
      world := by
  apply (Session.ends_listDirectory hshows.list).bind
  apply (Session.ends_requireFile .listDevices path (.ok directory.listed) world).bind
  apply (ends_readEntries hshows).bind
  apply (Session.ends_addNotes _ world).bind
  exact Session.ends_pure _ world

/-- A scan of a directory ends with the report on it.  What is reported under a name is reported of
any other directory that has the same child of this name, whatever else is there and wherever the
child is listed. -/
theorem devices_reports_directory (roster : Roster) (hshows : Shows path directory world) :
    Session.Ends (devices (m := StateM World) roster path) world (.ok (directory.found roster))
        world ∧
      Scan.Reports roster directory (directory.found roster) ∧
      ∀ other : Scan.Directory,
        (∀ device : FoundDevice, directory.AgreesOn other device.sysname →
          (device ∈ directory.found roster ↔ device ∈ other.found roster)) ∧
        ((∀ name, directory.AgreesOn other name) →
          directory.found roster = other.found roster) := by
  have hreports := Scan.Directory.found_reports roster directory
  refine ⟨ends_devices hshows, hreports, fun other => ?_⟩
  have hother := Scan.Directory.found_reports roster other
  exact ⟨fun device hagrees => hreports.mem_iff_of_agreesOn hother hagrees,
    fun hagrees => hreports.unique hother hagrees⟩

/-! ## Trees of files -/

/-- The directory at a path of a tree, where these names are. -/
def directoryOf (tree : FileTree) (path : String) (names : List String) (hnodup : names.Nodup) :
    Scan.Directory where
  listed := names.map bytesOfText
  uevent name := tree.read (joinPath (joinPath path name) "uevent")
  nodup := hnodup.map bytesOfText_injective

/-- A directory of a tree is what a path to it shows. -/
theorem shows_directoryOf {tree : FileTree} {names : List String} (hnodup : names.Nodup)
    (hlist : tree.list path = .ok names) :
    Shows path (directoryOf tree path names hnodup) tree where
  list := by
    have hrun : (Files.listDirectory path : StateM FileTree _).run tree =
        ((tree.list path).map fun names => names.map bytesOfText, tree) := rfl
    rw [hrun, hlist]
    rfl
  read _ _ := rfl

/-- A pen, a keyboard without a uevent file, and a mouse without a modalias. -/
def deskTree : FileTree :=
  ((FileTree.empty.create ["devices", "0003:28BD:095B.0001", "uevent"]
      (.file (bytesOfText "HID_NAME=Pen\nMODALIAS=hid:b0003g0001v000028BDp0000095B\n"))).create
    ["devices", "0003:258A:0027.0002"] .directory).create
    ["devices", "0003:258A:0027.0003", "uevent"] (.file (bytesOfText "HID_NAME=Mouse\n"))

def deskNames : List String :=
  ["0003:258A:0027.0003", "0003:258A:0027.0002", "0003:28BD:095B.0001"]

theorem nodup_deskNames : deskNames.Nodup := by
  decide

/-- The directory of the devices on the desk. -/
def deskDirectory : Scan.Directory :=
  directoryOf deskTree "devices" deskNames nodup_deskNames

/-- The mouse is known by its name and the pen by its modalias. -/
def deskDevices : List FoundDevice :=
  [⟨"0003:258A:0027.0003", some "Mouse", none, some ⟨.usb, .any, 0x258A, 0x0027⟩,
      ["kaliber-mmomentum"]⟩,
    ⟨"0003:28BD:095B.0001", some "Pen", some "hid:b0003g0001v000028BDp0000095B",
      some ⟨.usb, ⟨1⟩, 0x28BD, 0x095B⟩, ["xppen-artist-pro-gen2"]⟩]

theorem found_deskDirectory : deskDirectory.found .builtin = deskDevices := by
  have hnames : Scan.namesInOrder deskDirectory.listed =
      ["0003:258A:0027.0002", "0003:258A:0027.0003", "0003:28BD:095B.0001"] :=
    Scan.namesInOrder_map_bytesOfText nodup_deskNames (by decide) (by decide +kernel)
  have hkeyboard : (deskDirectory.uevent "0003:258A:0027.0002").bind textOfBytes =
      .error .notFound := rfl
  have hmouse : (deskDirectory.uevent "0003:258A:0027.0003").bind textOfBytes =
      .ok "HID_NAME=Mouse\n" := textOfBytes_bytesOfText _
  have hpen : (deskDirectory.uevent "0003:28BD:095B.0001").bind textOfBytes =
      .ok "HID_NAME=Pen\nMODALIAS=hid:b0003g0001v000028BDp0000095B\n" := textOfBytes_bytesOfText _
  rw [Scan.Directory.found, Scan.Directory.entries, hnames]
  simp only [List.map_cons, List.map_nil, hkeyboard, hmouse, hpen]
  rfl

/-- Two devices are found in the order of their names, and the keyboard is skipped. -/
theorem devices_reports_directory_deskTree :
    Session.Ends (devices (m := StateM FileTree) .builtin "devices") deskTree (.ok deskDevices)
        deskTree ∧
      Scan.Reports .builtin deskDirectory deskDevices ∧
      (∃! device, device ∈ deskDevices ∧ device.sysname = "0003:28BD:095B.0001") ∧
      ∀ device ∈ deskDevices, device.sysname ≠ "0003:258A:0027.0002" := by
  have hshows : Shows "devices" deskDirectory deskTree := shows_directoryOf nodup_deskNames rfl
  have hmissing :
      deskTree.read (joinPath (joinPath "devices" "0003:258A:0027.0002") "uevent") =
        .error .notFound := rfl
  obtain ⟨hends, hreports, -⟩ := devices_reports_directory .builtin hshows
  rw [found_deskDirectory] at hends hreports
  refine ⟨hends, hreports, hreports.existsUnique _ _ ⟨?_, rfl⟩, ?_⟩
  · exact List.mem_map_of_mem (by decide)
  · intro device hdevice hsysname
    obtain ⟨text, hreadable, -⟩ := (hreports.mem_iff device).mp hdevice
    have huevent := hreadable.uevent
    rw [hsysname] at huevent
    cases hmissing.symm.trans huevent

end HidMend.Listing
