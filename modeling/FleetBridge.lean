import FleetBridge.Bridge.Schedule
import FleetBridge.Database.Query
import FleetBridge.Listing
import FleetBridge.Main
import FleetBridge.Sample.Line
import FleetBridge.Service
import FleetBridge.Proofs.Table
import FleetBridge.Proofs.Roster
import FleetBridge.Proofs.StatusLog
import FleetBridge.Proofs.Bridge.Course
import FleetBridge.Proofs.Bridge.Frame
import FleetBridge.Proofs.Bridge.Tasks
import FleetBridge.Proofs.Probe.Settlement
import FleetBridge.Proofs.Probe.Cycle
import FleetBridge.Proofs.Probe.Eviction
import FleetBridge.Proofs.Probe.Aggregation
import FleetBridge.Proofs.Registration.Handling
import FleetBridge.Proofs.Session
import FleetBridge.Proofs.Overlap
import FleetBridge.Proofs.Bus.Feed
import FleetBridge.Proofs.Bus.Delivery
import FleetBridge.Proofs.Bridge.History
import FleetBridge.Proofs.Subject
import FleetBridge.Proofs.Subject.Language
import FleetBridge.Proofs.Telemetry.Decode
import FleetBridge.Proofs.Telemetry.Dispatching
import FleetBridge.Proofs.Telemetry.Serving
import FleetBridge.Proofs.Telemetry.Forwarding
import FleetBridge.Proofs.Registration.Calls
import FleetBridge.Proofs.Json.Strings
import FleetBridge.Proofs.Json.Numbers
import FleetBridge.Proofs.Json.Values
import FleetBridge.Proofs.Json.Texts
import FleetBridge.Proofs.Decimal.Doubles
import FleetBridge.Proofs.Json.Magnitudes
import FleetBridge.Proofs.Json.Readings
import FleetBridge.Proofs.Json.Floats
import FleetBridge.Proofs.Json.Outline
import FleetBridge.Proofs.Registration.Reply
import FleetBridge.Proofs.Roster.Enrolment
import FleetBridge.Proofs.Bridge.Holding
import FleetBridge.Proofs.Bridge.Ownership
import FleetBridge.Proofs.Bridge.Conversing
import FleetBridge.Proofs.Bridge.Turns
import FleetBridge.Proofs.Bridge.Gauge
import FleetBridge.Proofs.Bus.Requests
import FleetBridge.Proofs.Telemetry.Charge
import FleetBridge.Proofs.Telemetry.Passes
import FleetBridge.Proofs.Supervision.Staff
import FleetBridge.Proofs.Supervision.Generations
import FleetBridge.Proofs.Decimal.Shortest
import FleetBridge.Proofs.Decimal.Layout
import FleetBridge.Proofs.Sample.Record
import FleetBridge.Proofs.Sample.Leaves
import FleetBridge.Proofs.Sample.Batch
import FleetBridge.Proofs.Telemetry.Lines
import FleetBridge.Proofs.Text
import FleetBridge.Proofs.Settings.Values
import FleetBridge.Proofs.Settings.Load
import FleetBridge.Proofs.Settings.Subjects
import FleetBridge.Proofs.Telemetry.Origin
import FleetBridge.Proofs.Sample.Paths
import FleetBridge.Proofs.Registration.Outcomes
import FleetBridge.Proofs.Registration.Listening
import FleetBridge.Proofs.Registration.Succession
import FleetBridge.Proofs.Meters.Counters
import FleetBridge.Proofs.Meters.Books
import FleetBridge.Proofs.Meters.Postings
import FleetBridge.Proofs.Meters.Census
import FleetBridge.Proofs.Probe.FanOut
import FleetBridge.Proofs.Supervision.Retrying
import FleetBridge.Proofs.Settings.Precedence
import FleetBridge.Proofs.Probe.Addressing
import FleetBridge.Proofs.Sink.Connection
import FleetBridge.Proofs.Decimal.Packing
import FleetBridge.Proofs.Decimal.Least
import FleetBridge.Proofs.Backoff
import FleetBridge.Proofs.Settings.UnitIds
import FleetBridge.Proofs.Jitter
