import TagFix.Anchor.Directory
import TagFix.Anchor.Document
import TagFix.Anchor.Id
import TagFix.Anchor.Refresh
import TagFix.Bytes.Hex
import TagFix.Bytes.LittleEndian
import TagFix.Command
import TagFix.CommandLine.Arguments
import TagFix.CommandLine.Run
import TagFix.Config.Check
import TagFix.Config.Document
import TagFix.Config.Settings
import TagFix.Decimal.Binary
import TagFix.Decimal.Layout
import TagFix.Decimal.Numeral
import TagFix.Decimal.Shortest
import TagFix.Device
import TagFix.Engine.Machine
import TagFix.Engine.Notice
import TagFix.Engine.Simulation
import TagFix.File
import TagFix.Json.Cursor
import TagFix.Json.Fault
import TagFix.Json.Numeral
import TagFix.Json.Printer
import TagFix.Json.Reader
import TagFix.Json.Record
import TagFix.Json.Skip
import TagFix.Json.Text
import TagFix.Json.Value
import TagFix.Link.Failure
import TagFix.Link.Operation
import TagFix.Link.Simulated
import TagFix.Main
import TagFix.Position.Arithmetic
import TagFix.Position.Equations
import TagFix.Position.Fix
import TagFix.Position.Point
import TagFix.Position.Report
import TagFix.Position.Solver
import TagFix.Proofs.Anchor.Document
import TagFix.Proofs.Anchor.Forms
import TagFix.Proofs.Anchor.Partition
import TagFix.Proofs.Anchor.Refresh
import TagFix.Proofs.Anchor.Spelling
import TagFix.Proofs.Config.Check
import TagFix.Proofs.Config.Overrides
import TagFix.Proofs.Config.RoundTrip
import TagFix.Proofs.Double
import TagFix.Proofs.Double.Magnitude
import TagFix.Proofs.Double.Positive
import TagFix.Proofs.Engine.Commands
import TagFix.Proofs.Engine.Isolation
import TagFix.Proofs.Engine.Notices
import TagFix.Proofs.Engine.Settings
import TagFix.Proofs.Engine.Shutdown
import TagFix.Proofs.Json.Kind
import TagFix.Proofs.Json.Members
import TagFix.Proofs.Json.Spelling
import TagFix.Proofs.Link.Simulated
import TagFix.Proofs.Position.Converged
import TagFix.Proofs.Position.Damping
import TagFix.Proofs.Position.Descent
import TagFix.Proofs.Position.Inputs
import TagFix.Proofs.Position.Search
import TagFix.Proofs.Sequence
import TagFix.Proofs.Session.Coherence
import TagFix.Proofs.Session.ConnectTimeout
import TagFix.Proofs.Session.Course
import TagFix.Proofs.Session.Doubling
import TagFix.Proofs.Session.HealthyLink
import TagFix.Proofs.Session.Meaning
import TagFix.Proofs.Session.Move
import TagFix.Proofs.Session.Pauses
import TagFix.Proofs.Session.Radio
import TagFix.Proofs.Session.Reads
import TagFix.Proofs.Session.Rest
import TagFix.Proofs.Session.Retries
import TagFix.Proofs.Session.Run
import TagFix.Proofs.Session.Settling
import TagFix.Proofs.Session.Supersession
import TagFix.Proofs.Session.Waiting
import TagFix.Proofs.Telemetry.Classification
import TagFix.Proofs.Telemetry.Format
import TagFix.Proofs.Telemetry.Metres
import TagFix.Proofs.Telemetry.Readiness
import TagFix.Proofs.Telemetry.Records
import TagFix.Proofs.Telemetry.RoundTrip
import TagFix.Proofs.Telemetry.Selection
import TagFix.Session.Backoff
import TagFix.Session.Machine
import TagFix.Session.Phase
import TagFix.Table
import TagFix.Telemetry.Outcome
import TagFix.Telemetry.Payload
import TagFix.Telemetry.Range
import TagFix.Telemetry.Selection
import TagFix.Text.Blank
import TagFix.Text.Combining
import TagFix.Text.Printable
import TagFix.Text.Quoted
import TagFix.Text.Search
import TagFix.Timestamp
