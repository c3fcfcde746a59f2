import ShowControl.Build
import ShowControl.CommandLine.Arguments
import ShowControl.CommandLine.Directive
import ShowControl.CommandLine.LogFilter
import ShowControl.CommandLine.LogLevel
import ShowControl.CommandLine.LogLine
import ShowControl.CommandLine.Startup
import ShowControl.Config.Address
import ShowControl.Config.Location
import ShowControl.Config.Settings
import ShowControl.Cue.Intake
import ShowControl.Cue.Naming
import ShowControl.Cue.Priority
import ShowControl.Cue.Registry
import ShowControl.Fault
import ShowControl.Http.Endpoint
import ShowControl.Http.MediaType
import ShowControl.Http.Message
import ShowControl.Http.Query
import ShowControl.Http.Service
import ShowControl.Http.Status
import ShowControl.Http.Target
import ShowControl.Http.Wire
import ShowControl.Instant
import ShowControl.Json.Bytes
import ShowControl.Json.Text
import ShowControl.Json.Tree
import ShowControl.Json.Value
import ShowControl.Lighting.Handoff
import ShowControl.Lighting.Intent
import ShowControl.Main
import ShowControl.Number.Binary64
import ShowControl.Number.Decimal
import ShowControl.Number.Rounding
import ShowControl.Number.Shortest
import ShowControl.Pattern.Class
import ShowControl.Pattern.Escape
import ShowControl.Pattern.Form
import ShowControl.Playhead
import ShowControl.Proofs.Config.Address
import ShowControl.Proofs.Config.AddressText
import ShowControl.Proofs.Config.Binding
import ShowControl.Proofs.Config.Layering
import ShowControl.Proofs.Cue.Acceptance
import ShowControl.Proofs.Cue.ArrivalList
import ShowControl.Proofs.Cue.Calls
import ShowControl.Proofs.Cue.Claims
import ShowControl.Proofs.Cue.Dispatch
import ShowControl.Proofs.Cue.Intake
import ShowControl.Proofs.Cue.Numbering
import ShowControl.Proofs.Cue.Order
import ShowControl.Proofs.Cue.Priority
import ShowControl.Proofs.Cue.Sound
import ShowControl.Proofs.Cue.Stability
import ShowControl.Proofs.Cue.Streams
import ShowControl.Proofs.Http.Halves
import ShowControl.Proofs.Http.HandOut
import ShowControl.Proofs.Http.Masking
import ShowControl.Proofs.Http.NoTrace
import ShowControl.Proofs.Http.Playhead
import ShowControl.Proofs.Http.Query
import ShowControl.Proofs.Http.Readings
import ShowControl.Proofs.Http.Seconds
import ShowControl.Proofs.Http.Session
import ShowControl.Proofs.Http.Verdicts
import ShowControl.Proofs.Json.Document
import ShowControl.Proofs.Json.Fields
import ShowControl.Proofs.Json.Number
import ShowControl.Proofs.Json.NumberText
import ShowControl.Proofs.Json.ReadBack
import ShowControl.Proofs.Json.Text
import ShowControl.Proofs.Lighting.LevelCue
import ShowControl.Proofs.Lighting.RawLevels
import ShowControl.Proofs.Lighting.Resubmission
import ShowControl.Proofs.Lighting.RoundTrip
import ShowControl.Proofs.Lighting.Spelling
import ShowControl.Proofs.Lighting.Universe
import ShowControl.Proofs.Lighting.WellFormed
import ShowControl.Proofs.Number.DecimalText
import ShowControl.Proofs.Number.Digits
import ShowControl.Proofs.Number.Exact
import ShowControl.Proofs.Number.IntegerText
import ShowControl.Proofs.Number.Nearest
import ShowControl.Proofs.Number.Order
import ShowControl.Proofs.Number.ReadBack
import ShowControl.Proofs.Number.Value
import ShowControl.Proofs.Run
import ShowControl.Proofs.Text.Blank
import ShowControl.Proofs.Text.Utf8
import ShowControl.Proofs.Validation.Rejection
import ShowControl.Terminal.Control
import ShowControl.Terminal.Style
import ShowControl.Text.Blank
import ShowControl.Text.Bytes
import ShowControl.Text.Hex
import ShowControl.Text.Letters
import ShowControl.Text.Pieces
import ShowControl.Text.Utf8
import ShowControl.Toml.Read
import ShowControl.Toml.Scalar
import ShowControl.Toml.Table
import ShowControl.Toml.Text
import ShowControl.Toml.Value
import ShowControl.Validation.Client
import ShowControl.Validation.Rejection
import ShowControl.Validation.Reply
