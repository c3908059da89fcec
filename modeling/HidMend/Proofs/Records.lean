import HidMend.Device.Record
import HidMend.Proofs.Json.Record
import HidMend.Proofs.Text.Utf8

/-!
# Written records are read back

Recordings are written on indented lines and identities without any space.  Both are read back as
what was written, a recording down to the bytes of its file: each number fits the field that it is
read with, and the texts may hold any characters.  The white space has no part in it: any other
layout of the same JSON is read as the same record.
-/

namespace HidMend

/-! ## Identities -/

namespace DeviceId

/-- Each of the four numbers is read with the 16 bits it has. -/
theorem ofJson?_toJson (device : DeviceId) : ofJson? device.toJson = some device := by
  obtain ⟨⟨bus⟩, ⟨group⟩, vendor, product⟩ := device
  have hfields : (toJson ⟨⟨bus⟩, ⟨group⟩, vendor, product⟩).fields? keys =
      some [.natural bus.toNat, .natural group.toNat, .natural vendor.toNat,
        .natural product.toNat] :=
    Json.fields?_record (show keys.Nodup by decide) (by simp [keys])
  have hnumber : ∀ value : UInt16,
      Json.toNatBelow? UInt16.size (.natural value.toNat) = some value.toNat :=
    fun value => if_pos value.toNat_lt
  simp [ofJson?, hfields, hnumber]

theorem plain_toJson (device : DeviceId) : device.toJson.Plain := by
  apply Json.plain_record
  simp [Json.Plain.natural]

theorem parse?_write (device : DeviceId) : parse? device.write = some device := by
  rw [parse?, write, Json.parse?_toCompact device.plain_toJson]
  exact ofJson?_toJson device

end DeviceId

/-! ## Recordings -/

/-- A report keeps its time, its number and its data as they are written. -/
theorem RecordedReport.ofJson?_toJson (report : RecordedReport) :
    ofJson? report.toJson = some report := by
  have hfields : report.toJson.fields? keys =
      some [.natural report.timestamp.toNat, .natural report.reportId.toNat,
        .text report.data] :=
    Json.fields?_record (show keys.Nodup by decide) (by simp [keys])
  have htimestamp : report.timestamp.toNat < UInt64.size := report.timestamp.toNat_lt
  have hreportId : report.reportId.toNat < UInt8.size := report.reportId.toNat_lt
  simp [ofJson?, hfields, Json.toNatBelow?, htimestamp, hreportId, Json.toText?, Json.text]

theorem RecordedReport.plain_toJson (report : RecordedReport) : report.toJson.Plain := by
  apply Json.plain_record
  simp [Json.text, Json.Plain.natural, Json.Plain.string]

namespace Recording

theorem mapM_ofJson?_toJson (reports : List RecordedReport) :
    (reports.map RecordedReport.toJson).mapM RecordedReport.ofJson? = some reports := by
  induction reports with
  | nil => rfl
  | cons report reports ih => simp [List.mapM_cons, RecordedReport.ofJson?_toJson, ih]

/-- A recording keeps its reports in their order. -/
theorem ofJson?_toJson (recording : Recording) : ofJson? recording.toJson = some recording := by
  have hfields : recording.toJson.fields? keys =
      some [.text recording.vendor, .text recording.product,
        .array (recording.reports.map RecordedReport.toJson)] :=
    Json.fields?_record (show keys.Nodup by decide) (by simp [keys])
  simp only [ofJson?, hfields, Json.toText?, Json.text, Json.toElements?, mapM_ofJson?_toJson,
    String.ofList_toList, Option.map_some]

theorem plain_toJson (recording : Recording) : recording.toJson.Plain := by
  have hreports : (Json.array (recording.reports.map RecordedReport.toJson)).Plain := by
    apply Json.Plain.array
    intro element helement
    obtain ⟨report, -, rfl⟩ := List.mem_map.mp helement
    exact report.plain_toJson
  apply Json.plain_record
  simp [Json.text, Json.Plain.string, hreports]

theorem parse?_write (recording : Recording) : parse? recording.write = some recording := by
  rw [parse?, write, Json.parse?_toPretty recording.plain_toJson]
  exact ofJson?_toJson recording

end Recording

/-! ## The result -/

namespace Json

/-- What reading comes to behind writing. -/
structure ReadsRecords : Prop where
  /-- The texts of a recording may hold any characters, and its numbers may be as large as their
  fields. -/
  recording : ∀ recording : Recording, Recording.parse? recording.write = some recording
  /-- On the way through a file, too. -/
  file : ∀ recording : Recording, ∃ text, textOfBytes (bytesOfText recording.write) = .ok text ∧
    Recording.parse? text = some recording
  device : ∀ device : DeviceId, DeviceId.parse? device.write = some device
  recording_layout : ∀ {recording : Recording} {text}, LaidOut recording.toJson text →
    Recording.parse? (String.ofList text) = some recording
  device_layout : ∀ {device : DeviceId} {text}, LaidOut device.toJson text →
    DeviceId.parse? (String.ofList text) = some device

/-- What is written for a recording or an identity is read back, in the layout it is written in and
in any other. -/
theorem reads_records : ReadsRecords where
  recording recording := recording.parse?_write
  file recording := ⟨recording.write, textOfBytes_bytesOfText _, recording.parse?_write⟩
  device device := device.parse?_write
  recording_layout hlaid := by
    rw [Recording.parse?, parse?_of_laidOut hlaid]
    exact Recording.ofJson?_toJson _
  device_layout hlaid := by
    rw [DeviceId.parse?, parse?_of_laidOut hlaid]
    exact DeviceId.ofJson?_toJson _

example : (DeviceId.usb 0x28BD 0x095A).write =
    "\x7b\"bus\":3,\"group\":1,\"vendor_id\":10429,\"product_id\":2394\x7d" := by
  cbv

/-- An identity on indented lines, as it is never written. -/
theorem reads_records_indented :
    (DeviceId.usb 0x28BD 0x095A).toJson.LaidOut (pretty 0 (DeviceId.usb 0x28BD 0x095A).toJson) ∧
      DeviceId.parse? (DeviceId.usb 0x28BD 0x095A).toJson.toPretty =
        some (DeviceId.usb 0x28BD 0x095A) :=
  have hlaid := laidOut_pretty (DeviceId.usb 0x28BD 0x095A).plain_toJson 0
  ⟨hlaid, reads_records.device_layout hlaid⟩

end Json

end HidMend
