import HidMend.Device.Record
import HidMend.Files.Tree
import HidMend.Main
import HidMend.Proofs.Json.Literal
import HidMend.Proofs.Json.RoundTrip
import HidMend.Proofs.Descriptor.Chain
import HidMend.Proofs.Descriptor.ConstantToData
import HidMend.Proofs.Descriptor.Recipe
import HidMend.Proofs.Descriptor.Status
import HidMend.Proofs.Tilt.Compensation
import HidMend.Proofs.Report.Chain
import HidMend.Proofs.Report.Transform
import HidMend.Proofs.Catalog.ArtistPro
import HidMend.Proofs.Catalog.Descriptor
import HidMend.Proofs.Catalog.Report
import HidMend.Proofs.Roster.Again
import HidMend.Proofs.Roster.Attach
import HidMend.Proofs.Roster.Builtin
import HidMend.Proofs.Roster.Gates
import HidMend.Proofs.Roster.Session
import HidMend.Proofs.Playback
import HidMend.Proofs.Command.Descriptor
import HidMend.Proofs.Command.Playback
import HidMend.Proofs.Descriptor.Frame
import HidMend.Proofs.Roster.Confinement
import HidMend.Proofs.Report.Pipeline
import HidMend.Proofs.Text.Hex
import HidMend.Proofs.Device.Modalias
import HidMend.Proofs.Text.Blank
import HidMend.Proofs.Text.Numeral
import HidMend.Proofs.Text.ReportData
import HidMend.Proofs.Device.Argument
import HidMend.Proofs.Device.Sysname
import HidMend.Proofs.Records
import HidMend.Proofs.Roster.Fallback
import HidMend.Proofs.Descriptor.Edit
import HidMend.Proofs.Catalog.Eraser
import HidMend.Proofs.Descriptor.Extent
import HidMend.Proofs.Scan
import HidMend.Proofs.Command.Listing
import HidMend.Proofs.Descriptor.Conversion
import HidMend.Proofs.Report.Exactness
import HidMend.Proofs.Catalog.Pipeline
import HidMend.Proofs.Report.Coordinate
import HidMend.Proofs.Catalog.Again
import HidMend.Proofs.Descriptor.Gate
import HidMend.Proofs.Device.Path
import HidMend.Proofs.Report.Status
import HidMend.Proofs.Roster.Settings
import HidMend.Proofs.Device.Naming
import HidMend.Proofs.Buffer.Field
import HidMend.Proofs.Uevent
import HidMend.Proofs.Yaml.Word
import HidMend.Proofs.Yaml.Rows
import HidMend.Proofs.Yaml.Document
import HidMend.Proofs.Settings.File
