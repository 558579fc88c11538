import TagRelay.Calendar.Date
import TagRelay.Calendar.Instant
import TagRelay.Calendar.Reader
import TagRelay.Config.Address
import TagRelay.Config.Basic
import TagRelay.Config.Decode
import TagRelay.Config.Encode
import TagRelay.Config.Load
import TagRelay.Config.Validate
import TagRelay.Conversion.Coercion
import TagRelay.Conversion.Converter
import TagRelay.Conversion.Registry
import TagRelay.Conversion.Uplink
import TagRelay.Daemon.Check
import TagRelay.Daemon.CommandLine
import TagRelay.Daemon.Exporter
import TagRelay.Daemon.LogFile
import TagRelay.Decimal.Layout
import TagRelay.Decimal.Reader
import TagRelay.Decimal.Shortest
import TagRelay.Decimal.Whole
import TagRelay.Device
import TagRelay.Duration
import TagRelay.Error
import TagRelay.Files.Making
import TagRelay.Files.Path
import TagRelay.Files.Tree
import TagRelay.Json.Basic
import TagRelay.Json.Free
import TagRelay.Json.Parser
import TagRelay.Json.Printer
import TagRelay.Json.Record
import TagRelay.Json.Token
import TagRelay.Link
import TagRelay.Main
import TagRelay.Metrics.Basic
import TagRelay.Metrics.Exposition
import TagRelay.Metrics.Fingerprint
import TagRelay.Metrics.Tally
import TagRelay.Pipeline.Connector
import TagRelay.Pipeline.Host
import TagRelay.Pipeline.Poll
import TagRelay.Pipeline.Running
import TagRelay.Pipeline.Sink
import TagRelay.Pipeline.Worker
import TagRelay.Proofs.Calendar.Date
import TagRelay.Proofs.Calendar.Forms
import TagRelay.Proofs.Calendar.Reading
import TagRelay.Proofs.Calendar.Spelling
import TagRelay.Proofs.Calendar.Wall
import TagRelay.Proofs.Config.Address
import TagRelay.Proofs.Config.Canonical
import TagRelay.Proofs.Config.Checks
import TagRelay.Proofs.Config.Forms
import TagRelay.Proofs.Config.Loading
import TagRelay.Proofs.Conversion.Coercion
import TagRelay.Proofs.Conversion.Entries
import TagRelay.Proofs.Conversion.Keys
import TagRelay.Proofs.Conversion.Lookup
import TagRelay.Proofs.Conversion.Matching
import TagRelay.Proofs.Conversion.Reordering
import TagRelay.Proofs.Conversion.Untrusted
import TagRelay.Proofs.Daemon.Checking
import TagRelay.Proofs.Daemon.CommandLine
import TagRelay.Proofs.Decimal.Whole
import TagRelay.Proofs.Device
import TagRelay.Proofs.Files.Outline
import TagRelay.Proofs.Json.Compact
import TagRelay.Proofs.Json.Form
import TagRelay.Proofs.Json.Reading
import TagRelay.Proofs.Json.Written
import TagRelay.Proofs.Link.Alone
import TagRelay.Proofs.Link.Effects
import TagRelay.Proofs.Link.Sequence
import TagRelay.Proofs.Link.Shared
import TagRelay.Proofs.Metrics.Shares
import TagRelay.Proofs.Metrics.Tallies
import TagRelay.Proofs.Pipeline.Abreast
import TagRelay.Proofs.Pipeline.Assembly
import TagRelay.Proofs.Pipeline.CallOrder
import TagRelay.Proofs.Pipeline.CallRules
import TagRelay.Proofs.Pipeline.Clocked
import TagRelay.Proofs.Pipeline.Conservation
import TagRelay.Proofs.Pipeline.Containment
import TagRelay.Proofs.Pipeline.Draining
import TagRelay.Proofs.Pipeline.Dues
import TagRelay.Proofs.Pipeline.Interleaved
import TagRelay.Proofs.Pipeline.Lockstep
import TagRelay.Proofs.Pipeline.Parties
import TagRelay.Proofs.Pipeline.PollLedger
import TagRelay.Proofs.Pipeline.Schedule
import TagRelay.Proofs.Pipeline.Scheduled
import TagRelay.Proofs.Pipeline.Steady
import TagRelay.Proofs.Pipeline.Stopping
import TagRelay.Proofs.Pipeline.Strategies
import TagRelay.Proofs.Pipeline.TimeRules
import TagRelay.Proofs.Pipeline.Timekeeping
import TagRelay.Proofs.Pipeline.Timetable
import TagRelay.Proofs.Pipeline.Twins
import TagRelay.Proofs.Pipeline.Untimed
import TagRelay.Proofs.Pipeline.View
import TagRelay.Proofs.Pipeline.WorkerLedger
import TagRelay.Proofs.Remote.Answering
import TagRelay.Proofs.Remote.Conduct
import TagRelay.Proofs.Remote.Counting
import TagRelay.Proofs.Remote.Declared
import TagRelay.Proofs.Remote.PairText
import TagRelay.Proofs.Remote.ReadBack
import TagRelay.Proofs.Remote.ReplyForm
import TagRelay.Proofs.Remote.Resolving
import TagRelay.Proofs.Remote.Routes
import TagRelay.Proofs.Remote.Spellings
import TagRelay.Proofs.Remote.TextParams
import TagRelay.Proofs.Remote.Updating
import TagRelay.Proofs.Roster
import TagRelay.Proofs.Routine
import TagRelay.Proofs.Session.History
import TagRelay.Proofs.Session.Openness
import TagRelay.Proofs.Session.Rejecting
import TagRelay.Proofs.Session.Remembering
import TagRelay.Proofs.Session.Simulating
import TagRelay.Proofs.Session.Storage
import TagRelay.Proofs.Tag.NormalForm
import TagRelay.Proofs.Tag.Payload
import TagRelay.Proofs.Text.Blank
import TagRelay.Proofs.Text.Parts
import TagRelay.Record
import TagRelay.Remote.PassThrough
import TagRelay.Remote.Reply
import TagRelay.Remote.Request
import TagRelay.Remote.Target
import TagRelay.Roster
import TagRelay.Routine
import TagRelay.Session.Basic
import TagRelay.Session.Kind
import TagRelay.Session.Memory
import TagRelay.Session.Simulated
import TagRelay.Strategy
import TagRelay.Tag.Quality
import TagRelay.Tag.Reading
import TagRelay.Tag.Value
import TagRelay.Text.Base64
import TagRelay.Text.Blank
import TagRelay.Text.Parts
import TagRelay.Text.Quoted
import TagRelay.Text.Unseen
import TagRelay.Toml.Document
import TagRelay.Toml.Reader
import TagRelay.Toml.Scalar
import TagRelay.Toml.Text
