import Gatehouse.Acl
import Gatehouse.Acl.Document
import Gatehouse.Address
import Gatehouse.Address.Reader
import Gatehouse.Admin
import Gatehouse.Business
import Gatehouse.Caller
import Gatehouse.Config
import Gatehouse.Config.Document
import Gatehouse.Config.Load
import Gatehouse.Dispatcher
import Gatehouse.Drain
import Gatehouse.Event
import Gatehouse.Fault
import Gatehouse.Files
import Gatehouse.Frame
import Gatehouse.Gate
import Gatehouse.Gateway
import Gatehouse.Http.Query
import Gatehouse.Http.Request
import Gatehouse.Http.Response
import Gatehouse.Http.Route
import Gatehouse.Hub
import Gatehouse.Json.Decode
import Gatehouse.Json.Magnitude
import Gatehouse.Json.Printer
import Gatehouse.Json.Reader
import Gatehouse.Json.Value
import Gatehouse.Main
import Gatehouse.Metadata
import Gatehouse.MethodPath
import Gatehouse.Metrics
import Gatehouse.Metrics.Exposition
import Gatehouse.Metrics.Family
import Gatehouse.Metrics.Histogram
import Gatehouse.Metrics.Labels
import Gatehouse.Note
import Gatehouse.Pattern
import Gatehouse.Proofs.Acl
import Gatehouse.Proofs.Acl.Document
import Gatehouse.Proofs.Caller
import Gatehouse.Proofs.Config.Checking
import Gatehouse.Proofs.Config.Layout
import Gatehouse.Proofs.Config.Places
import Gatehouse.Proofs.Config.Sections
import Gatehouse.Proofs.Dispatcher
import Gatehouse.Proofs.Dispatcher.Registration
import Gatehouse.Proofs.Drain
import Gatehouse.Proofs.Frame
import Gatehouse.Proofs.Gate
import Gatehouse.Proofs.Gate.Counters
import Gatehouse.Proofs.Gate.History
import Gatehouse.Proofs.Gate.Series
import Gatehouse.Proofs.Gateway.Audit
import Gatehouse.Proofs.Gateway.Draining
import Gatehouse.Proofs.Gateway.Gauges
import Gatehouse.Proofs.Gateway.History
import Gatehouse.Proofs.Gateway.Limits
import Gatehouse.Proofs.Gateway.Posts
import Gatehouse.Proofs.Gateway.Refusals
import Gatehouse.Proofs.Gateway.Requests
import Gatehouse.Proofs.Gateway.Subscriptions
import Gatehouse.Proofs.Gateway.Warnings
import Gatehouse.Proofs.Hub.Delivery
import Gatehouse.Proofs.Hub.History
import Gatehouse.Proofs.Hub.Ledger
import Gatehouse.Proofs.Hub.Membership
import Gatehouse.Proofs.Hub.Registry
import Gatehouse.Proofs.Hub.Windows
import Gatehouse.Proofs.Json.Counts
import Gatehouse.Proofs.Json.Grammar
import Gatehouse.Proofs.Json.Members
import Gatehouse.Proofs.Json.Numeral
import Gatehouse.Proofs.Json.Printed
import Gatehouse.Proofs.Json.Reading
import Gatehouse.Proofs.Json.RoundTrip
import Gatehouse.Proofs.Json.Spacing
import Gatehouse.Proofs.Json.Steps
import Gatehouse.Proofs.Metadata
import Gatehouse.Proofs.Metadata.Headers
import Gatehouse.Proofs.MethodPath
import Gatehouse.Proofs.Metrics
import Gatehouse.Proofs.Metrics.Family
import Gatehouse.Proofs.Metrics.Grammar
import Gatehouse.Proofs.Metrics.Lines
import Gatehouse.Proofs.Metrics.Observations
import Gatehouse.Proofs.Metrics.Reading
import Gatehouse.Proofs.Metrics.RoundTrip
import Gatehouse.Proofs.Metrics.Totals
import Gatehouse.Proofs.Pattern
import Gatehouse.Proofs.Pattern.Services
import Gatehouse.Proofs.Schema
import Gatehouse.Proofs.Schema.Order
import Gatehouse.Proofs.Snapshot
import Gatehouse.Proofs.Snapshot.Totals
import Gatehouse.Proofs.Station.Carrying
import Gatehouse.Proofs.Station.Draining
import Gatehouse.Proofs.Station.Gauges
import Gatehouse.Proofs.Station.History
import Gatehouse.Proofs.Station.Periods
import Gatehouse.Proofs.Station.Relaying
import Gatehouse.Proofs.Station.Settling
import Gatehouse.Proofs.Station.Ticking
import Gatehouse.Proofs.Station.Tolerance
import Gatehouse.Proofs.Stream.Acts
import Gatehouse.Proofs.Stream.Pacing
import Gatehouse.Proofs.Stream.Relay
import Gatehouse.Proofs.Text.ByteOrder
import Gatehouse.Proofs.Text.LetterCase
import Gatehouse.Proofs.TextMap
import Gatehouse.Proofs.Yaml.Tree
import Gatehouse.Queue
import Gatehouse.Schema
import Gatehouse.Server
import Gatehouse.Snapshot
import Gatehouse.Station
import Gatehouse.Stream.Basic
import Gatehouse.Stream.Outbox
import Gatehouse.Stream.Period
import Gatehouse.Stream.Relay
import Gatehouse.Text.Blank
import Gatehouse.Text.Extender
import Gatehouse.Text.Numeral
import Gatehouse.Text.Printable
import Gatehouse.Text.Quoted
import Gatehouse.Text.Ranges
import Gatehouse.TextMap
import Gatehouse.Yaml.Cursor
import Gatehouse.Yaml.Document
import Gatehouse.Yaml.Lexer
import Gatehouse.Yaml.Node
import Gatehouse.Yaml.Resolution
import Gatehouse.Yaml.Scalar
import Gatehouse.Yaml.Tag
import Gatehouse.Yaml.Written
