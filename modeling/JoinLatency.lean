import JoinLatency.Average.Groups
import JoinLatency.Average.Runs
import JoinLatency.Command.Basic
import JoinLatency.Command.Failure
import JoinLatency.Command.Line
import JoinLatency.Command.Run
import JoinLatency.Config.Basic
import JoinLatency.Config.Json
import JoinLatency.Config.Validation
import JoinLatency.Database.Address
import JoinLatency.Database.Basic
import JoinLatency.Database.Connection
import JoinLatency.Database.Expression
import JoinLatency.Database.Fault
import JoinLatency.Database.Reader
import JoinLatency.Database.Script
import JoinLatency.Database.Select
import JoinLatency.Database.Session
import JoinLatency.Database.Statement
import JoinLatency.Database.Store
import JoinLatency.Database.Token
import JoinLatency.Database.Transaction
import JoinLatency.Database.Value
import JoinLatency.Decimal.Binary64
import JoinLatency.Decimal.Fixed
import JoinLatency.Decimal.Layout
import JoinLatency.Decimal.Literal
import JoinLatency.Decimal.Rounding
import JoinLatency.Decimal.Shortest
import JoinLatency.Error
import JoinLatency.Files
import JoinLatency.Json.Basic
import JoinLatency.Json.Number
import JoinLatency.Json.Reader
import JoinLatency.Json.Record
import JoinLatency.Json.Token
import JoinLatency.Main
import JoinLatency.Proofs.Average.Alignment
import JoinLatency.Proofs.Average.Histories
import JoinLatency.Proofs.Average.Recording
import JoinLatency.Proofs.Command.Averaging
import JoinLatency.Proofs.Config.Acceptance
import JoinLatency.Proofs.Config.Overlay
import JoinLatency.Proofs.Database.Copying
import JoinLatency.Proofs.Database.Lexing
import JoinLatency.Proofs.Database.Names
import JoinLatency.Proofs.Database.Reading
import JoinLatency.Proofs.Database.Selecting
import JoinLatency.Proofs.Database.Transactional
import JoinLatency.Proofs.Decimal.Doubles
import JoinLatency.Proofs.Decimal.Fixed
import JoinLatency.Proofs.Decimal.Nearest
import JoinLatency.Proofs.Decimal.ReadBack
import JoinLatency.Proofs.Files.Paths
import JoinLatency.Proofs.Outcome
import JoinLatency.Proofs.Settings.Probe
import JoinLatency.Proofs.Settings.Statements
import JoinLatency.Proofs.Shuffle.Copies
import JoinLatency.Proofs.Shuffle.Names
import JoinLatency.Proofs.Shuffle.Rollback
import JoinLatency.Proofs.Shuffle.Sending
import JoinLatency.Proofs.Shuffle.Texts
import JoinLatency.Proofs.Summary.Averaging
import JoinLatency.Proofs.Summary.Formats
import JoinLatency.Proofs.Summary.Grammar
import JoinLatency.Proofs.Summary.Merging
import JoinLatency.Proofs.Summary.Reading
import JoinLatency.Proofs.Summary.Rereading
import JoinLatency.Proofs.Sweep.Details
import JoinLatency.Proofs.Sweep.Faults
import JoinLatency.Proofs.Sweep.Isolation
import JoinLatency.Proofs.Sweep.Lasting
import JoinLatency.Proofs.Sweep.Outcomes
import JoinLatency.Proofs.Sweep.Partition
import JoinLatency.Proofs.Sweep.Recording
import JoinLatency.Proofs.Sweep.Reporting
import JoinLatency.Proofs.Sweep.Reruns
import JoinLatency.Proofs.Sweep.Scripts
import JoinLatency.Proofs.Sweep.Statements
import JoinLatency.Proofs.Sweep.SummaryFiles
import JoinLatency.Proofs.Sweep.Writing
import JoinLatency.Proofs.Table
import JoinLatency.Proofs.Template.Inverse
import JoinLatency.Proofs.Timer.Admission
import JoinLatency.Proofs.Timer.Capacity
import JoinLatency.Proofs.Timer.Decay
import JoinLatency.Proofs.Timer.Fetching
import JoinLatency.Proofs.Timer.Logging
import JoinLatency.Proofs.Timer.Origins
import JoinLatency.Proofs.Timer.Resuming
import JoinLatency.Proofs.Timer.Sampling
import JoinLatency.Proofs.Timer.Schedule
import JoinLatency.Proofs.Timer.Shift
import JoinLatency.Proofs.Timer.Stopping
import JoinLatency.Proofs.Timer.Synthetic
import JoinLatency.Proofs.Timer.Texts
import JoinLatency.Proofs.Timer.Traces
import JoinLatency.Proofs.Variant.Labels
import JoinLatency.Proofs.Variant.Space
import JoinLatency.Proofs.Variant.Token
import JoinLatency.Query
import JoinLatency.Session.Basic
import JoinLatency.Session.Rehearsal
import JoinLatency.Session.Synthetic
import JoinLatency.Settings
import JoinLatency.Shuffle
import JoinLatency.Sql.Change
import JoinLatency.Sql.Expression
import JoinLatency.Sql.Phrase
import JoinLatency.Sql.Select
import JoinLatency.Sql.Statement
import JoinLatency.Sql.Token
import JoinLatency.Storage
import JoinLatency.Summary.Entry
import JoinLatency.Summary.Format
import JoinLatency.Summary.Merge
import JoinLatency.Sweep.Report
import JoinLatency.Sweep.Run
import JoinLatency.Table
import JoinLatency.Template
import JoinLatency.Text.Alphabetic
import JoinLatency.Text.Blank
import JoinLatency.Text.Lines
import JoinLatency.Text.Quoted
import JoinLatency.Text.Unprintable
import JoinLatency.Time.Calendar
import JoinLatency.Time.Duration
import JoinLatency.Time.Exact
import JoinLatency.Time.Moment
import JoinLatency.Time.Seconds
import JoinLatency.Timer.Log
import JoinLatency.Timer.RowSource
import JoinLatency.Timer.Run
import JoinLatency.Timer.Schedule
import JoinLatency.Timer.Trace
import JoinLatency.Variant.Basic
import JoinLatency.Variant.Json
import JoinLatency.Variant.Space
import JoinLatency.Variant.Token
