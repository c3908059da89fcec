import HidMend.Device.Basic
import HidMend.Json.Printer
import HidMend.Json.Reader
import HidMend.Text.HexNumber

/-!
# Records about devices

Two things about a device are kept as JSON.  Its identity is a record of four 16-bit numbers.  A
recording is a list of input reports recorded from the device; in it vendor, product and the bytes
of a report are hexadecimal texts, and these are kept as they were written, so that what is not
corrected is written back unchanged.
-/

namespace HidMend

/-! ## Identities -/

namespace DeviceId

def keys : List String := ["bus", "group", "vendor_id", "product_id"]

def toJson (device : DeviceId) : Json :=
  .record [("bus", .natural device.bus.number.toNat), ("group", .natural device.group.number.toNat),
    ("vendor_id", .natural device.vendor.toNat), ("product_id", .natural device.product.toNat)]

def ofJson? (json : Json) : Option DeviceId :=
  match json.fields? keys with
  | some fields =>
      match fields.mapM (Json.toNatBelow? UInt16.size) with
      | some [bus, group, vendor, product] =>
          some ⟨⟨UInt16.ofNat bus⟩, ⟨UInt16.ofNat group⟩, UInt16.ofNat vendor,
            UInt16.ofNat product⟩
      | _ => none
  | none => none

def parse? (text : String) : Option DeviceId :=
  (Json.parse? text).bind ofJson?

/-- The compact text of an identity. -/
def write (device : DeviceId) : String :=
  device.toJson.toCompact

end DeviceId

/-! ## Recordings -/

/-- One recorded report, its number included in the data. -/
structure RecordedReport where
  /-- When it was recorded, in microseconds. -/
  timestamp : UInt64
  reportId : UInt8
  data : String
  deriving DecidableEq, Repr

structure Recording where
  vendor : String
  product : String
  reports : List RecordedReport
  deriving DecidableEq, Repr

namespace RecordedReport

def keys : List String := ["timestamp_us", "report_id", "data"]

def ofJson? (json : Json) : Option RecordedReport :=
  match json.fields? keys with
  | some [timestamp, reportId, data] =>
      match timestamp.toNatBelow? UInt64.size, reportId.toNatBelow? UInt8.size, data.toText? with
      | some timestamp, some reportId, some data =>
          some ⟨UInt64.ofNat timestamp, UInt8.ofNat reportId, data⟩
      | _, _, _ => none
  | _ => none

def toJson (report : RecordedReport) : Json :=
  .record [("timestamp_us", .natural report.timestamp.toNat),
    ("report_id", .natural report.reportId.toNat), ("data", .text report.data)]

end RecordedReport

namespace Recording

def keys : List String := ["vendor_id", "product_id", "captures"]

def ofJson? (json : Json) : Option Recording :=
  match json.fields? keys with
  | some [vendor, product, reports] =>
      match vendor.toText?, product.toText?, reports.toElements? with
      | some vendor, some product, some elements =>
          (elements.mapM RecordedReport.ofJson?).map fun reports => ⟨vendor, product, reports⟩
      | _, _, _ => none
  | _ => none

def toJson (recording : Recording) : Json :=
  .record [("vendor_id", .text recording.vendor), ("product_id", .text recording.product),
    ("captures", .array (recording.reports.map RecordedReport.toJson))]

def parse? (text : String) : Option Recording :=
  (Json.parse? text).bind ofJson?

/-- The text of a recording file. -/
def write (recording : Recording) : String :=
  recording.toJson.toPretty

def vendorNumber (recording : Recording) : Except HexFault UInt16 :=
  Hex.word recording.vendor.toList

def productNumber (recording : Recording) : Except HexFault UInt16 :=
  Hex.word recording.product.toList

end Recording

end HidMend
