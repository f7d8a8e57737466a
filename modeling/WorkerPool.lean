import WorkerPool.Decimal.Notation
import WorkerPool.Decimal.Reading
import WorkerPool.Decimal.Shortest
import WorkerPool.Decimal.Whole
import WorkerPool.Demo.Transcript
import WorkerPool.Demo.Workload
import WorkerPool.Duration
import WorkerPool.Log.Event
import WorkerPool.Log.Fields
import WorkerPool.Log.Filter
import WorkerPool.Log.Json
import WorkerPool.Log.Line
import WorkerPool.Log.Writer
import WorkerPool.Main
import WorkerPool.Metrics.Family
import WorkerPool.Metrics.Meters
import WorkerPool.Metrics.Registry
import WorkerPool.Pattern.Atom
import WorkerPool.Pattern.Bracket
import WorkerPool.Pattern.Group
import WorkerPool.Pool.Call
import WorkerPool.Pool.Error
import WorkerPool.Pool.Notice
import WorkerPool.Pool.Panic
import WorkerPool.Pool.Plan
import WorkerPool.Pool.Roster
import WorkerPool.Pool.Slots
import WorkerPool.Pool.State
import WorkerPool.Pool.Step
import WorkerPool.Pool.Thread
import WorkerPool.Proofs.Decimal.Numeral
import WorkerPool.Proofs.Decimal.Rounding
import WorkerPool.Proofs.Decimal.Shortest
import WorkerPool.Proofs.Decimal.Whole
import WorkerPool.Proofs.Duration.Spelling
import WorkerPool.Proofs.Log.Fields
import WorkerPool.Proofs.Log.Line
import WorkerPool.Proofs.Log.Reading
import WorkerPool.Proofs.Log.Token
import WorkerPool.Proofs.Pool.Balance
import WorkerPool.Proofs.Pool.Calm
import WorkerPool.Proofs.Pool.Capacity
import WorkerPool.Proofs.Pool.Census
import WorkerPool.Proofs.Pool.Conservation
import WorkerPool.Proofs.Pool.Custody
import WorkerPool.Proofs.Pool.Delivery
import WorkerPool.Proofs.Pool.Door
import WorkerPool.Proofs.Pool.Ending
import WorkerPool.Proofs.Pool.Eviction
import WorkerPool.Proofs.Pool.Fall
import WorkerPool.Proofs.Pool.Fallout
import WorkerPool.Proofs.Pool.Gauge
import WorkerPool.Proofs.Pool.Handle
import WorkerPool.Proofs.Pool.Handover
import WorkerPool.Proofs.Pool.Isolation
import WorkerPool.Proofs.Pool.Ledger
import WorkerPool.Proofs.Pool.Lifecycle
import WorkerPool.Proofs.Pool.Move
import WorkerPool.Proofs.Pool.Queue
import WorkerPool.Proofs.Pool.Reading
import WorkerPool.Proofs.Pool.Rejection
import WorkerPool.Proofs.Pool.Restart
import WorkerPool.Proofs.Pool.Role
import WorkerPool.Proofs.Pool.Roster
import WorkerPool.Proofs.Pool.Rounds
import WorkerPool.Proofs.Pool.Run
import WorkerPool.Proofs.Pool.Single
import WorkerPool.Proofs.Pool.Slots
import WorkerPool.Proofs.Pool.Snapshot
import WorkerPool.Proofs.Pool.Stays
import WorkerPool.Proofs.Pool.Sweepers
import WorkerPool.Proofs.Pool.Token
import WorkerPool.Proofs.Pool.Wakeup
import WorkerPool.Proofs.Settings.Agreement
import WorkerPool.Proofs.Settings.Loading
import WorkerPool.Proofs.Settings.Precedence
import WorkerPool.Proofs.Settings.Seconds
import WorkerPool.Proofs.Settings.Tables
import WorkerPool.Proofs.Text.Edges
import WorkerPool.Proofs.Toml.Words
import WorkerPool.Script.Crowd
import WorkerPool.Script.Cue
import WorkerPool.Script.Stage
import WorkerPool.Script.Task
import WorkerPool.Settings.Environment
import WorkerPool.Settings.Error
import WorkerPool.Settings.Files
import WorkerPool.Settings.Load
import WorkerPool.Settings.Log
import WorkerPool.Settings.Pool
import WorkerPool.Settings.Table
import WorkerPool.Text.Alphanumeric
import WorkerPool.Text.Casing
import WorkerPool.Text.Classes
import WorkerPool.Text.Lowercase
import WorkerPool.Text.Visible
import WorkerPool.Toml.Document
import WorkerPool.Toml.Node
import WorkerPool.Toml.Quoted
import WorkerPool.Toml.Scalar
