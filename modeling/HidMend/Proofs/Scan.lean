import HidMend.Proofs.Device.Argument
import HidMend.Proofs.Device.Sysname
import HidMend.Proofs.Text.Utf8
import HidMend.Scan
import Mathlib.Data.List.Sort

/-!
# What a scan finds in a directory

A directory has children, listed in any order, and for each of them there is an attempt to read a
uevent file.  A scan finds one device for every child of which name and uevent file are texts and
none for any other, in strictly ascending order of the bytes of the names.  What it says of a device
depends on the name and the uevent file of this child and on the roster, and on no other child.
-/

namespace HidMend.Scan

/-! ## Directories -/

/-- The children of a directory, each listed once, and what comes of reading the uevent file of the
child with a given name. -/
structure Directory where
  listed : List Bytes
  uevent : String → Except FileFault Bytes
  nodup : listed.Nodup

/-- The directory has a child of this name, and the uevent file of it is this text. -/
structure Directory.Readable (directory : Directory) (name text : String) : Prop where
  listed : bytesOfText name ∈ directory.listed
  uevent : directory.uevent name = .ok (bytesOfText text)

/-- Two directories are the same as far as the child of this name goes, if there is one. -/
structure Directory.AgreesOn (directory other : Directory) (name : String) : Prop where
  listed_iff : bytesOfText name ∈ directory.listed ↔ bytesOfText name ∈ other.listed
  uevent_eq : bytesOfText name ∈ directory.listed → directory.uevent name = other.uevent name

/-! ## Reports -/

/-- The name is the sysname of a device. -/
def IsSysname (name : String) (sysname : Sysname) : Prop :=
  ∃ groups, Sysname.Spells name.toList groups ∧ groups.Denotes sysname

/-- What identifies the device of a child: a modalias, if it has one that is a modalias of a device,
or else its name, if that is a sysname. -/
inductive Identified (name : String) (modalias : Option String) : Option DeviceId → Prop
  | byModalias {text : String} {device : DeviceId} (hpresent : modalias = some text)
      (hdevice : DeviceId.IsModalias text device) : Identified name modalias (some device)
  | byName {sysname : Sysname}
      (hunusable : ∀ text, modalias = some text → ∀ device, ¬DeviceId.IsModalias text device)
      (hname : IsSysname name sysname) :
      Identified name modalias (some ⟨sysname.bus, .any, sysname.vendor, sysname.product⟩)
  | unknown
      (hunusable : ∀ text, modalias = some text → ∀ device, ¬DeviceId.IsModalias text device)
      (hname : ∀ sysname, ¬IsSysname name sysname) : Identified name modalias none

/-- The entry for a device whose uevent file is `text`. -/
structure Describes (roster : Roster) (text : String) (device : FoundDevice) : Prop where
  name : device.name = (Uevent.parse text).name
  modalias : device.modalias = (Uevent.parse text).modalias
  id : Identified device.sysname (Uevent.parse text).modalias device.id
  menders_of_some : ∀ id, device.id = some id →
    device.menders = (roster.claimants id).map Mender.name
  menders_of_none : device.id = none → device.menders = []

/-- The report on a directory: the readable children and no others, each once, in the order of the
bytes of their names. -/
structure Reports (roster : Roster) (directory : Directory) (found : List FoundDevice) :
    Prop where
  mem_iff : ∀ device, device ∈ found ↔
    ∃ text, directory.Readable device.sysname text ∧ Describes roster text device
  existsUnique : ∀ name text, directory.Readable name text →
    ∃! device, device ∈ found ∧ device.sysname = name
  ascending : found.Pairwise fun left right =>
    bytesOfText left.sysname < bytesOfText right.sysname

variable {roster : Roster} {directory other : Directory} {name text : String} {uevent : Uevent}
  {id : Option DeviceId} {listed : List Bytes} {device : FoundDevice} {visited : List Entry}

/-! ## Identities -/

theorem parse_eq_ok_iff_isSysname {sysname : Sysname} :
    Sysname.parse name = .ok sysname ↔ IsSysname name sysname :=
  Sysname.parse_eq_ok_iff

theorem identify_of_isModalias {found : DeviceId} (hpresent : uevent.modalias = some text)
    (hdevice : DeviceId.IsModalias text found) : identify name uevent = some found := by
  rw [identify, hpresent, Option.map_some, DeviceId.ofModalias_eq_ok_iff.mpr hdevice]

theorem identify_of_unusable
    (hunusable : ∀ text, uevent.modalias = some text →
      ∀ device, ¬DeviceId.IsModalias text device) :
    identify name uevent = (Sysname.parse name).toOption.map Sysname.device := by
  rw [identify]
  cases hmodalias : uevent.modalias with
  | none =>
      rw [Option.map_none]
      cases Sysname.parse name <;> rfl
  | some text =>
      rw [Option.map_some]
      cases hdevice : DeviceId.ofModalias text with
      | ok device =>
          exact absurd (DeviceId.ofModalias_eq_ok_iff.mp hdevice) (hunusable text hmodalias device)
      | error fault => cases Sysname.parse name <;> rfl

/-- A scan identifies every child as it should. -/
theorem identified_identify (name : String) (uevent : Uevent) :
    Identified name uevent.modalias (identify name uevent) := by
  by_cases husable : ∃ text device, uevent.modalias = some text ∧ DeviceId.IsModalias text device
  · obtain ⟨text, device, hpresent, hdevice⟩ := husable
    rw [identify_of_isModalias hpresent hdevice]
    exact .byModalias hpresent hdevice
  · have hunusable : ∀ text, uevent.modalias = some text →
        ∀ device, ¬DeviceId.IsModalias text device :=
      fun text hpresent device hdevice => husable ⟨text, device, hpresent, hdevice⟩
    rw [identify_of_unusable hunusable]
    cases hname : Sysname.parse name with
    | ok sysname => exact .byName hunusable (parse_eq_ok_iff_isSysname.mp hname)
    | error fault =>
        refine .unknown hunusable fun sysname hsysname => ?_
        rw [parse_eq_ok_iff_isSysname.mpr hsysname] at hname
        cases hname

theorem Identified.eq_identify (hidentified : Identified name uevent.modalias id) :
    id = identify name uevent := by
  cases hidentified with
  | byModalias hpresent hdevice => exact (identify_of_isModalias hpresent hdevice).symm
  | byName hunusable hname =>
      rw [identify_of_unusable hunusable, parse_eq_ok_iff_isSysname.mpr hname]
      rfl
  | unknown hunusable hname =>
      rw [identify_of_unusable hunusable]
      cases hparse : Sysname.parse name with
      | ok sysname => exact absurd (parse_eq_ok_iff_isSysname.mp hparse) (hname sysname)
      | error fault => rfl

/-- What a scan makes of a child is what describes it. -/
theorem device_eq_iff :
    Scan.device roster name (Uevent.parse text) = device ↔
      device.sysname = name ∧ Describes roster text device := by
  constructor
  · rintro rfl
    refine ⟨rfl, rfl, rfl, identified_identify name (Uevent.parse text), ?_, ?_⟩
    · intro id hid
      simp only [Scan.device] at hid ⊢
      rw [hid]
      rfl
    · intro hid
      simp only [Scan.device] at hid ⊢
      rw [hid]
      rfl
  · rintro ⟨rfl, hdescribes⟩
    obtain ⟨hname, hmodalias, hid, hsome, hnone⟩ := hdescribes
    have hidentity := hid.eq_identify
    obtain ⟨sysname, deviceName, modalias, id, menders⟩ := device
    simp only at hname hmodalias hidentity hsome hnone
    subst hname hmodalias
    rw [Scan.device, ← hidentity]
    cases id with
    | none => rw [hnone rfl]; rfl
    | some id => rw [hsome id rfl]; rfl

/-! ## Names in order -/

theorem nameOf?_eq_some_iff {bytes : Bytes} :
    nameOf? bytes = some name ↔ bytes = bytesOfText name := by
  rw [← textOfBytes_eq_ok_iff, nameOf?]
  cases textOfBytes bytes <;> simp

/-- A scan looks into the children whose names are texts. -/
theorem mem_namesInOrder_iff : name ∈ namesInOrder listed ↔ bytesOfText name ∈ listed := by
  simp only [namesInOrder, List.mem_filterMap, List.mem_mergeSort, nameOf?_eq_some_iff,
    exists_eq_right]

theorem before_iff {left right : Bytes} : before left right = true ↔ left ≤ right := by
  rw [before, decide_eq_true_iff]

/-- A scan looks into each child once, in the order of the bytes of the names. -/
theorem pairwise_namesInOrder (hnodup : listed.Nodup) :
    (namesInOrder listed).Pairwise fun left right => bytesOfText left < bytesOfText right := by
  have hsorted : (listed.mergeSort before).Pairwise fun left right => before left right = true := by
    apply List.pairwise_mergeSort
    · intro first second third
      simp only [before_iff]
      exact List.le_trans
    · intro left right
      simp only [Bool.or_eq_true, before_iff]
      exact List.le_total left right
  have hdistinct : (listed.mergeSort before).Nodup :=
    (List.mergeSort_perm listed before).nodup_iff.mpr hnodup
  rw [namesInOrder, List.pairwise_filterMap]
  refine (hsorted.and hdistinct).imp ?_
  rintro left right ⟨hle, hne⟩ leftName hleft rightName hright
  rw [nameOf?_eq_some_iff] at hleft hright
  rw [← hleft, ← hright, ← List.not_le]
  intro hge
  exact hne (List.le_antisymm (before_iff.mp hle) hge)

/-- Names are looked into in one order, wherever the directory lists them. -/
theorem namesInOrder_map_bytesOfText {names ascending : List String} (hnodup : names.Nodup)
    (hperm : names.Perm ascending)
    (hascending : ascending.Pairwise fun left right => bytesOfText left < bytesOfText right) :
    namesInOrder (names.map bytesOfText) = ascending := by
  have hirrefl : Std.Irrefl fun left right : String => bytesOfText left < bytesOfText right :=
    ⟨fun _ => List.lt_irrefl _⟩
  have hordered := pairwise_namesInOrder (hnodup.map bytesOfText_injective)
  apply hordered.eq_of_mem_iff hascending
  intro name
  rw [mem_namesInOrder_iff, List.mem_map_of_injective bytesOfText_injective, hperm.mem_iff]

/-! ## Devices of a directory -/

/-- The entries that a scan looks into. -/
def Directory.entries (directory : Directory) : List Entry :=
  (namesInOrder directory.listed).map fun name =>
    ⟨name, (directory.uevent name).bind textOfBytes⟩

/-- The devices that a scan finds. -/
def Directory.found (roster : Roster) (directory : Directory) : List FoundDevice :=
  devices roster directory.entries

theorem mem_devices_iff :
    device ∈ devices roster visited ↔
      ∃ text, ⟨device.sysname, .ok text⟩ ∈ visited ∧ Describes roster text device := by
  simp only [devices, List.mem_filterMap]
  constructor
  · rintro ⟨⟨name, uevent⟩, hentry, hdevice⟩
    cases uevent with
    | error fault => cases hdevice
    | ok text =>
        obtain ⟨rfl, hdescribes⟩ := device_eq_iff.mp (Option.some.inj hdevice)
        exact ⟨text, hentry, hdescribes⟩
  · rintro ⟨text, hentry, hdescribes⟩
    exact ⟨_, hentry, congrArg some (device_eq_iff.mpr ⟨rfl, hdescribes⟩)⟩

theorem pairwise_devices
    (hvisited : visited.Pairwise fun left right =>
      bytesOfText left.name < bytesOfText right.name) :
    (devices roster visited).Pairwise fun left right =>
      bytesOfText left.sysname < bytesOfText right.sysname := by
  rw [devices, List.pairwise_filterMap]
  refine hvisited.imp ?_
  rintro ⟨leftName, left⟩ ⟨rightName, right⟩ hless leftDevice hleft rightDevice hright
  cases left with
  | error fault => cases hleft
  | ok leftText =>
      cases right with
      | error fault => cases hright
      | ok rightText =>
          cases hleft
          cases hright
          exact hless

namespace Directory

theorem mem_entries_iff : ⟨name, .ok text⟩ ∈ directory.entries ↔ directory.Readable name text := by
  have hread : ∀ content : Except FileFault Bytes,
      content.bind textOfBytes = .ok text ↔ content = .ok (bytesOfText text) := by
    rintro (_ | bytes)
    · simp [Except.bind]
    · simp [Except.bind, textOfBytes_eq_ok_iff]
  simp only [entries, List.mem_map, Entry.mk.injEq, mem_namesInOrder_iff, hread]
  constructor
  · rintro ⟨name, hlisted, rfl, huevent⟩
    exact ⟨hlisted, huevent⟩
  · rintro ⟨hlisted, huevent⟩
    exact ⟨name, hlisted, rfl, huevent⟩

theorem Readable.unique {left right : String} (hleft : directory.Readable name left)
    (hright : directory.Readable name right) : left = right :=
  bytesOfText_injective (Except.ok.inj (hleft.uevent.symm.trans hright.uevent))

theorem AgreesOn.readable_iff (hagrees : directory.AgreesOn other name) :
    directory.Readable name text ↔ other.Readable name text := by
  constructor
  · rintro ⟨hlisted, huevent⟩
    exact ⟨hagrees.listed_iff.mp hlisted, (hagrees.uevent_eq hlisted).symm.trans huevent⟩
  · rintro ⟨hother, huevent⟩
    have hlisted := hagrees.listed_iff.mpr hother
    exact ⟨hlisted, (hagrees.uevent_eq hlisted).trans huevent⟩

/-- What is found is what describes a readable child. -/
theorem mem_found_iff : device ∈ directory.found roster ↔
    ∃ text, directory.Readable device.sysname text ∧ Describes roster text device := by
  simp only [found, mem_devices_iff, mem_entries_iff]

/-- What a scan finds is the report on the directory. -/
theorem found_reports (roster : Roster) (directory : Directory) :
    Reports roster directory (directory.found roster) where
  mem_iff _ := mem_found_iff
  existsUnique name text hreadable := by
    obtain ⟨hsysname, hdescribes⟩ :=
      device_eq_iff.mp (Eq.refl (Scan.device roster name (Uevent.parse text)))
    refine ⟨_, ⟨mem_found_iff.mpr ⟨text, hsysname ▸ hreadable, hdescribes⟩, hsysname⟩, ?_⟩
    rintro device ⟨hfound, rfl⟩
    obtain ⟨other, hother, hdevice⟩ := mem_found_iff.mp hfound
    obtain rfl := hother.unique hreadable
    exact (device_eq_iff.mpr ⟨rfl, hdevice⟩).symm
  ascending := by
    apply pairwise_devices
    rw [entries, List.pairwise_map]
    exact pairwise_namesInOrder directory.nodup

end Directory

/-- What is found under a name depends on the child of this name only. -/
theorem Reports.mem_iff_of_agreesOn {found otherFound : List FoundDevice}
    (hreports : Reports roster directory found) (hother : Reports roster other otherFound)
    (hagrees : directory.AgreesOn other device.sysname) :
    device ∈ found ↔ device ∈ otherFound := by
  simp only [hreports.mem_iff, hother.mem_iff, hagrees.readable_iff]

/-- There is one report on a directory, in whatever order its children are listed. -/
theorem Reports.unique {found otherFound : List FoundDevice}
    (hreports : Reports roster directory found) (hother : Reports roster other otherFound)
    (hagrees : ∀ name, directory.AgreesOn other name) : found = otherFound := by
  have hirrefl : Std.Irrefl fun left right : FoundDevice =>
      bytesOfText left.sysname < bytesOfText right.sysname := ⟨fun _ => List.lt_irrefl _⟩
  exact hreports.ascending.eq_of_mem_iff hother.ascending fun device =>
    hreports.mem_iff_of_agreesOn hother (hagrees device.sysname)

end HidMend.Scan
