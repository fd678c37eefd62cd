import Rollup.Alert
import Rollup.Comparison
import Rollup.Dashboard
import Rollup.Entries
import Rollup.Failure
import Rollup.Http
import Rollup.Http.Form
import Rollup.Http.Route
import Rollup.Json
import Rollup.Number.Binary64
import Rollup.Number.Rounding
import Rollup.Number.Shortest
import Rollup.Number.Style
import Rollup.Overview
import Rollup.Point
import Rollup.Policy
import Rollup.Program
import Rollup.Proofs.Comparison.Confinement
import Rollup.Proofs.Dashboard.Cells
import Rollup.Proofs.Dashboard.Completeness
import Rollup.Proofs.Dashboard.Degradation
import Rollup.Proofs.Dashboard.Required
import Rollup.Proofs.Entries
import Rollup.Proofs.Failure
import Rollup.Proofs.Http.Escape
import Rollup.Proofs.Http.Page
import Rollup.Proofs.Http.Parameters
import Rollup.Proofs.Http.Validation
import Rollup.Proofs.Inquiry
import Rollup.Proofs.Inquiry.Breakage
import Rollup.Proofs.Inquiry.Encoding
import Rollup.Proofs.Inquiry.Isolation
import Rollup.Proofs.Json
import Rollup.Proofs.Number.Decimal
import Rollup.Proofs.Number.Nearest
import Rollup.Proofs.Number.Padded
import Rollup.Proofs.Number.Rounding
import Rollup.Proofs.Policy
import Rollup.Proofs.Policy.Acceptance
import Rollup.Proofs.Program.Cancellation
import Rollup.Proofs.Program.Contract
import Rollup.Proofs.Program.Sequence
import Rollup.Proofs.Program.Transcript
import Rollup.Proofs.Series.Bare
import Rollup.Proofs.Series.Completeness
import Rollup.Proofs.Series.Confinement
import Rollup.Proofs.Series.Course
import Rollup.Proofs.Series.Protocol
import Rollup.Proofs.Series.Reference
import Rollup.Proofs.Series.Spacing
import Rollup.Proofs.Session.Cancellation
import Rollup.Proofs.Settings
import Rollup.Proofs.Store.Agreement
import Rollup.Proofs.Store.Bucket
import Rollup.Proofs.Store.Census
import Rollup.Proofs.Store.Chronicle
import Rollup.Proofs.Store.Consistency
import Rollup.Proofs.Store.Database
import Rollup.Proofs.Store.Failure
import Rollup.Proofs.Store.Held
import Rollup.Proofs.Store.History
import Rollup.Proofs.Store.Indistinct
import Rollup.Proofs.Store.Instants
import Rollup.Proofs.Store.Isolation
import Rollup.Proofs.Store.LastWriter
import Rollup.Proofs.Store.Lifecycle
import Rollup.Proofs.Store.Memory
import Rollup.Proofs.Store.Mirror
import Rollup.Proofs.Store.Observed
import Rollup.Proofs.Store.Readable
import Rollup.Proofs.Store.Reading
import Rollup.Proofs.Store.Recent
import Rollup.Proofs.Store.Retold
import Rollup.Proofs.Store.Row
import Rollup.Proofs.Store.Shown
import Rollup.Proofs.Store.Sources
import Rollup.Proofs.Store.Table
import Rollup.Proofs.Store.Tally
import Rollup.Proofs.Store.Transaction
import Rollup.Proofs.Summary
import Rollup.Proofs.Time.Calendar
import Rollup.Proofs.Time.Duration
import Rollup.Proofs.Time.Duration.Pattern
import Rollup.Proofs.Time.IsoReader
import Rollup.Proofs.Time.Timestamp
import Rollup.Proofs.Time.Written
import Rollup.Proofs.Trend
import Rollup.Proofs.Value
import Rollup.Series
import Rollup.Session
import Rollup.Session.Fault
import Rollup.Settings
import Rollup.Settings.EnvFile
import Rollup.Stats
import Rollup.Store
import Rollup.Store.Bucket
import Rollup.Store.Database
import Rollup.Store.Memory
import Rollup.Store.Schema
import Rollup.Store.Table
import Rollup.Text.Blank
import Rollup.Text.Digit
import Rollup.Text.Integer
import Rollup.Text.Letter
import Rollup.Text.Pieces
import Rollup.Text.Printable
import Rollup.Text.Quoted
import Rollup.Text.Utf8
import Rollup.Tier
import Rollup.Time.Calendar
import Rollup.Time.Duration
import Rollup.Time.Iso
import Rollup.Time.IsoReader
import Rollup.Time.Literal
import Rollup.Time.Timestamp
import Rollup.Trend
import Rollup.Value
import Rollup.Window
