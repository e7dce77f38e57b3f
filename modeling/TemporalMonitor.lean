import TemporalMonitor.Decimal.Binary
import TemporalMonitor.Decimal.Layout
import TemporalMonitor.Decimal.Shortest
import TemporalMonitor.Error
import TemporalMonitor.Hub.Basic
import TemporalMonitor.Hub.Event
import TemporalMonitor.Hub.Stream
import TemporalMonitor.Hub.Uuid
import TemporalMonitor.Json.Basic
import TemporalMonitor.Json.Fields
import TemporalMonitor.Json.Reader
import TemporalMonitor.Json.Writer
import TemporalMonitor.Machine.Basic
import TemporalMonitor.Machine.Compile
import TemporalMonitor.Machine.Document
import TemporalMonitor.Machine.Manifest
import TemporalMonitor.Machine.State
import TemporalMonitor.Monitor.Basic
import TemporalMonitor.Monitor.Instance
import TemporalMonitor.Monitor.Log
import TemporalMonitor.Monitor.Pool
import TemporalMonitor.Monitor.Record
import TemporalMonitor.Monitor.Step
import TemporalMonitor.Ordered
import TemporalMonitor.Predicate.Basic
import TemporalMonitor.Predicate.Bindings
import TemporalMonitor.Proofs.Machine.Duties
import TemporalMonitor.Proofs.Machine.Rules
import TemporalMonitor.Proofs.Monitor.Account
import TemporalMonitor.Proofs.Monitor.Arrival
import TemporalMonitor.Proofs.Monitor.Binding
import TemporalMonitor.Proofs.Monitor.Call
import TemporalMonitor.Proofs.Monitor.Chronicle
import TemporalMonitor.Proofs.Monitor.Conduct
import TemporalMonitor.Proofs.Monitor.Lapse
import TemporalMonitor.Proofs.Monitor.Operation
import TemporalMonitor.Proofs.Monitor.Polling
import TemporalMonitor.Proofs.Monitor.Pool
import TemporalMonitor.Proofs.Monitor.Reaction
import TemporalMonitor.Proofs.Monitor.Soundness
import TemporalMonitor.Proofs.Monitor.Witness
import TemporalMonitor.Proofs.Predicate.Reading
import TemporalMonitor.Proofs.Property.Scoped
import TemporalMonitor.Proofs.Trace.Absence
import TemporalMonitor.Proofs.Trace.Episode
import TemporalMonitor.Proofs.Trace.Existence
import TemporalMonitor.Proofs.Trace.Requirement
import TemporalMonitor.Proofs.Trace.Response
import TemporalMonitor.Proofs.Trace.Simulation
import TemporalMonitor.Proofs.Trace.Trigger
import TemporalMonitor.Property.Basic
import TemporalMonitor.Property.WellFormed
import TemporalMonitor.Regex.Basic
import TemporalMonitor.Regex.Brackets
import TemporalMonitor.Regex.Escape
import TemporalMonitor.Regex.Expr
import TemporalMonitor.Regex.Footprint
import TemporalMonitor.Regex.Meaning
import TemporalMonitor.Regex.Pattern
import TemporalMonitor.Regex.Program
import TemporalMonitor.Regex.Reader
import TemporalMonitor.Text.Blank
import TemporalMonitor.Text.Boundaries
import TemporalMonitor.Text.CharSet
import TemporalMonitor.Text.Digits
import TemporalMonitor.Text.Printable
import TemporalMonitor.Text.Quoted
import TemporalMonitor.Text.Utf8
import TemporalMonitor.Time.Bound
import TemporalMonitor.Time.Calendar
import TemporalMonitor.Time.Duration
import TemporalMonitor.Time.Timestamp
import TemporalMonitor.Unicode.Age
import TemporalMonitor.Unicode.Binary
import TemporalMonitor.Unicode.CaseFold
import TemporalMonitor.Unicode.Category
import TemporalMonitor.Unicode.Property
import TemporalMonitor.Unicode.Runs
import TemporalMonitor.Unicode.Script
import TemporalMonitor.Unicode.Segment
import TemporalMonitor.Value.Basic
import TemporalMonitor.Value.Compare
import TemporalMonitor.Value.Document
import TemporalMonitor.Proofs.Monitor.Lifecycle
import TemporalMonitor.Proofs.Monitor.Protocol
import TemporalMonitor.Proofs.Monitor.Likeness
import TemporalMonitor.Proofs.Monitor.Renewal
import TemporalMonitor.Proofs.Json.Scalars
import TemporalMonitor.Proofs.Json.Reading
import TemporalMonitor.Proofs.Json.Records
import TemporalMonitor.Proofs.Machine.Manifest
import TemporalMonitor.Proofs.Ordered
import TemporalMonitor.Proofs.Trace.Leniency
import TemporalMonitor.Proofs.Hub.Calls
import TemporalMonitor.Proofs.Hub.Registry
import TemporalMonitor.Proofs.Hub.Routing
import TemporalMonitor.Proofs.Hub.Delivery
import TemporalMonitor.Proofs.Predicate.Partial
import TemporalMonitor.Proofs.Value.Document
import TemporalMonitor.Proofs.Monitor.Discharge
import TemporalMonitor.Proofs.Machine.Posts
import TemporalMonitor.Proofs.Machine.Table
import TemporalMonitor.Proofs.Monitor.Shelf
import TemporalMonitor.Proofs.Monitor.Jitter
import TemporalMonitor.Proofs.Machine.Listing
import TemporalMonitor.Proofs.Time.Storage
import TemporalMonitor.Proofs.Value.Path
import TemporalMonitor.Proofs.Hub.Unison
import TemporalMonitor.Proofs.Time.Elapse
import TemporalMonitor.Proofs.Machine.Tabulation
import TemporalMonitor.Proofs.Monitor.Dating
import TemporalMonitor.Proofs.Trace.Holding
