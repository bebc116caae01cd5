import Floodgate.Binary64.Arithmetic
import Floodgate.Binary64.Basic
import Floodgate.Binary64.Decimal
import Floodgate.Binary64.Rounding
import Floodgate.Binary64.Shortest
import Floodgate.Body.Error
import Floodgate.Body.Status
import Floodgate.Bucket
import Floodgate.CommandLine.Option
import Floodgate.CommandLine.Scan
import Floodgate.CommandLine.Settle
import Floodgate.CommandLine.Value
import Floodgate.Edge.Basic
import Floodgate.Edge.Gateway
import Floodgate.Edge.Route
import Floodgate.Edge.Site
import Floodgate.Environment.Basic
import Floodgate.Environment.File
import Floodgate.Failure
import Floodgate.Http.ClientKey
import Floodgate.Http.Header
import Floodgate.Http.Message
import Floodgate.Http.RequestId
import Floodgate.Http.Target
import Floodgate.Http.Wire
import Floodgate.Janitor.Basic
import Floodgate.Janitor.Schedule
import Floodgate.Json.Fault
import Floodgate.Json.Number
import Floodgate.Json.Quoted
import Floodgate.Json.Record
import Floodgate.Json.Scalar
import Floodgate.Json.Skip
import Floodgate.Json.Value
import Floodgate.Limiter.Basic
import Floodgate.Limiter.Clients
import Floodgate.Limiter.Session
import Floodgate.Limits
import Floodgate.Limits.Json
import Floodgate.Log.Directive
import Floodgate.Log.Event
import Floodgate.Log.Filter
import Floodgate.Log.Line
import Floodgate.Log.Pattern
import Floodgate.Main
import Floodgate.Net.Address
import Floodgate.Net.Socket
import Floodgate.Power
import Floodgate.Proofs.Binary64.Grid
import Floodgate.Proofs.Binary64.Magnitude
import Floodgate.Proofs.Binary64.Nearest
import Floodgate.Proofs.Binary64.Order
import Floodgate.Proofs.Binary64.Shortest
import Floodgate.Proofs.Binary64.Steps
import Floodgate.Proofs.Body.RoundTrip
import Floodgate.Proofs.Bucket.Level
import Floodgate.Proofs.Bucket.Monotone
import Floodgate.Proofs.Bucket.Projection
import Floodgate.Proofs.Bucket.Refills
import Floodgate.Proofs.Bucket.Setbacks
import Floodgate.Proofs.CommandLine.Complaints
import Floodgate.Proofs.CommandLine.Sources
import Floodgate.Proofs.CommandLine.SpanOptions
import Floodgate.Proofs.Crashes
import Floodgate.Proofs.Edge.Answers
import Floodgate.Proofs.Edge.Charging
import Floodgate.Proofs.Edge.Ending
import Floodgate.Proofs.Edge.Naming
import Floodgate.Proofs.Edge.Precedence
import Floodgate.Proofs.Http.ClientKey
import Floodgate.Proofs.Http.Deciding
import Floodgate.Proofs.Http.Fields
import Floodgate.Proofs.Janitor.Survival
import Floodgate.Proofs.Janitor.Sweeps
import Floodgate.Proofs.Janitor.Ticks
import Floodgate.Proofs.Json.Grammar
import Floodgate.Proofs.Json.Judging
import Floodgate.Proofs.Json.Members
import Floodgate.Proofs.Json.Numeral
import Floodgate.Proofs.Json.Reading
import Floodgate.Proofs.Json.Records
import Floodgate.Proofs.Json.Refusals
import Floodgate.Proofs.Json.Scaling
import Floodgate.Proofs.Json.Skipping
import Floodgate.Proofs.Json.Tracing
import Floodgate.Proofs.Json.WrittenNumber
import Floodgate.Proofs.Limiter.Balance
import Floodgate.Proofs.Limiter.Burst
import Floodgate.Proofs.Limiter.Ceiling
import Floodgate.Proofs.Limiter.Eviction
import Floodgate.Proofs.Limiter.GlobalTier
import Floodgate.Proofs.Limiter.History
import Floodgate.Proofs.Limiter.Isolation
import Floodgate.Proofs.Limiter.Reachable
import Floodgate.Proofs.Limiter.Reclamation
import Floodgate.Proofs.Limiter.Recovery
import Floodgate.Proofs.Limiter.Tracking
import Floodgate.Proofs.Limits.Culprit
import Floodgate.Proofs.Limits.Interval
import Floodgate.Proofs.Limits.Naming
import Floodgate.Proofs.Limits.RoundTrip
import Floodgate.Proofs.Net.Canonical
import Floodgate.Proofs.Net.Spelling
import Floodgate.Proofs.Outcome
import Floodgate.Proofs.Spans
import Floodgate.Proofs.Text.Digits
import Floodgate.Proofs.Text.Order
import Floodgate.Proofs.Text.Parts
import Floodgate.Proofs.Time.Overflow
import Floodgate.Proofs.Time.Seconds
import Floodgate.Proofs.Time.SpanText
import Floodgate.Proofs.Validation
import Floodgate.Proofs.Validation.Table
import Floodgate.Service
import Floodgate.Settings
import Floodgate.Text.Alphanumeric
import Floodgate.Text.Blank
import Floodgate.Text.Bytes
import Floodgate.Text.Decimal
import Floodgate.Text.Hexadecimal
import Floodgate.Text.Integer
import Floodgate.Text.Plain
import Floodgate.Text.Printable
import Floodgate.Text.Quoted
import Floodgate.Text.Split
import Floodgate.Time.Clock
import Floodgate.Time.Span
import Floodgate.Time.SpanText
import Floodgate.Validation
