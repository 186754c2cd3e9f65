import DeviceFleet.Agent.Heartbeat
import DeviceFleet.Agent.RunLoop
import DeviceFleet.Agent.Ticker
import DeviceFleet.CommandLine.Flag
import DeviceFleet.CommandLine.Given
import DeviceFleet.CommandLine.Help
import DeviceFleet.CommandLine.Parser
import DeviceFleet.Files.Path
import DeviceFleet.Files.Tree
import DeviceFleet.Fleet.Codec
import DeviceFleet.Fleet.Key
import DeviceFleet.Fleet.Page
import DeviceFleet.Fleet.Pager
import DeviceFleet.Fleet.Record
import DeviceFleet.Fleet.Request
import DeviceFleet.Fleet.SharedStore
import DeviceFleet.Fleet.Store
import DeviceFleet.Fleet.Store.Lemmas
import DeviceFleet.Fleet.StoreError
import DeviceFleet.Fleet.Timestamp
import DeviceFleet.Http.Api
import DeviceFleet.Http.Query
import DeviceFleet.Http.Route
import DeviceFleet.Http.Uri
import DeviceFleet.Json.Parser
import DeviceFleet.Json.Printer
import DeviceFleet.Json.Value
import DeviceFleet.Lifecycle.Shutdown
import DeviceFleet.Lifecycle.Startup
import DeviceFleet.Lifecycle.State
import DeviceFleet.Lifecycle.Supervisor
import DeviceFleet.Lifecycle.Tracker
import DeviceFleet.Lifecycle.Watch
import DeviceFleet.Main
import DeviceFleet.Mismatch
import DeviceFleet.Net.SocketAddress
import DeviceFleet.Number.Binary64
import DeviceFleet.Number.Shortest
import DeviceFleet.Proofs.Agent.Aftermath
import DeviceFleet.Proofs.Agent.Assurance
import DeviceFleet.Proofs.Agent.Awaited
import DeviceFleet.Proofs.Agent.Beats
import DeviceFleet.Proofs.Agent.Crashes
import DeviceFleet.Proofs.Agent.Footprint
import DeviceFleet.Proofs.Agent.OwnRecord
import DeviceFleet.Proofs.Agent.Pulse
import DeviceFleet.Proofs.Agent.Registration
import DeviceFleet.Proofs.Agent.Shown
import DeviceFleet.Proofs.Agent.Tagging
import DeviceFleet.Proofs.Agent.Timers
import DeviceFleet.Proofs.CommandLine.Precedence
import DeviceFleet.Proofs.CommandLine.Spelling
import DeviceFleet.Proofs.Fleet.Amid
import DeviceFleet.Proofs.Fleet.Bookkeeping
import DeviceFleet.Proofs.Fleet.Calls
import DeviceFleet.Proofs.Fleet.Collecting
import DeviceFleet.Proofs.Fleet.Contents
import DeviceFleet.Proofs.Fleet.Following
import DeviceFleet.Proofs.Fleet.Gauge
import DeviceFleet.Proofs.Fleet.Interleaving
import DeviceFleet.Proofs.Fleet.Ledger
import DeviceFleet.Proofs.Fleet.Listing
import DeviceFleet.Proofs.Fleet.Locality
import DeviceFleet.Proofs.Fleet.Reference
import DeviceFleet.Proofs.Fleet.Retries
import DeviceFleet.Proofs.Fleet.RoundTrip
import DeviceFleet.Proofs.Fleet.Stamps
import DeviceFleet.Proofs.Fleet.Stepping
import DeviceFleet.Proofs.Fleet.Tokens
import DeviceFleet.Proofs.Fleet.Walk
import DeviceFleet.Proofs.Http.Mirror
import DeviceFleet.Proofs.Http.Paths
import DeviceFleet.Proofs.Http.Queries
import DeviceFleet.Proofs.Json.RoundTrip
import DeviceFleet.Proofs.Lifecycle.Course
import DeviceFleet.Proofs.Lifecycle.Deadline
import DeviceFleet.Proofs.Lifecycle.Requests
import DeviceFleet.Proofs.Lifecycle.Turns
import DeviceFleet.Proofs.Lifecycle.Vigil
import DeviceFleet.Proofs.Settings.Acceptance
import DeviceFleet.Proofs.Settings.Addresses
import DeviceFleet.Proofs.Settings.Denotation
import DeviceFleet.Proofs.Settings.Documents
import DeviceFleet.Proofs.Settings.Entries
import DeviceFleet.Proofs.Settings.LastWrite
import DeviceFleet.Proofs.Settings.TagLists
import DeviceFleet.Proofs.Settings.TagTexts
import DeviceFleet.Proofs.Settings.Texts
import DeviceFleet.Proofs.Telemetry.Levels
import DeviceFleet.Proofs.Telemetry.Tagged
import DeviceFleet.Proofs.Text.ByteOrder
import DeviceFleet.Proofs.Text.Decimal
import DeviceFleet.Proofs.Text.Encoding
import DeviceFleet.Proofs.Text.Hexadecimal
import DeviceFleet.Proofs.Text.Segments
import DeviceFleet.Proofs.Text.Transport
import DeviceFleet.Proofs.Text.Trimming
import DeviceFleet.Proofs.Toml.Tables
import DeviceFleet.Proofs.Toml.WellFormed
import DeviceFleet.Settings.Basic
import DeviceFleet.Settings.Draft
import DeviceFleet.Settings.File
import DeviceFleet.Settings.Load
import DeviceFleet.Settings.LogLevel
import DeviceFleet.Settings.Port
import DeviceFleet.Settings.Role
import DeviceFleet.Settings.Tags
import DeviceFleet.Settings.Violation
import DeviceFleet.Simulation.Host
import DeviceFleet.Simulation.Process
import DeviceFleet.Simulation.Run
import DeviceFleet.Simulation.Schedule
import DeviceFleet.Simulation.Script
import DeviceFleet.Simulation.Session
import DeviceFleet.Simulation.World
import DeviceFleet.Table
import DeviceFleet.Table.Lemmas
import DeviceFleet.Telemetry.Basic
import DeviceFleet.Telemetry.Directive
import DeviceFleet.Telemetry.Event
import DeviceFleet.Telemetry.Filter
import DeviceFleet.Telemetry.Line
import DeviceFleet.Telemetry.Metrics
import DeviceFleet.Text.Alphanumeric
import DeviceFleet.Text.Blank
import DeviceFleet.Text.Cut
import DeviceFleet.Text.Decimal
import DeviceFleet.Text.Hex
import DeviceFleet.Text.Percent
import DeviceFleet.Text.Printable
import DeviceFleet.Text.Quoted
import DeviceFleet.Text.Range
import DeviceFleet.Text.Regex
import DeviceFleet.Text.Regex.Parser
import DeviceFleet.Text.Terminal
import DeviceFleet.Text.Utf8
import DeviceFleet.Toml.Moment
import DeviceFleet.Toml.Number
import DeviceFleet.Toml.Parser
import DeviceFleet.Toml.Place
import DeviceFleet.Toml.Reader
import DeviceFleet.Toml.Text
import DeviceFleet.Toml.Tree
import DeviceFleet.Toml.Value
