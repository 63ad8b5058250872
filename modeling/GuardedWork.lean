import GuardedWork.Batch
import GuardedWork.Breaker.Call
import GuardedWork.Breaker.Configured
import GuardedWork.Breaker.Rule
import GuardedWork.Breaker.State
import GuardedWork.Breaker.Use
import GuardedWork.CancelToken
import GuardedWork.Clock
import GuardedWork.Config.Procedure
import GuardedWork.Config.Settings
import GuardedWork.Config.Setup
import GuardedWork.Config.SocketAddress
import GuardedWork.Config.Surroundings
import GuardedWork.Decimal.Binary64
import GuardedWork.Dispatcher
import GuardedWork.Job
import GuardedWork.Pool.Run
import GuardedWork.Pool.Start
import GuardedWork.Pool.State
import GuardedWork.Queue.Basic
import GuardedWork.Queue.Shared
import GuardedWork.Queue.Transfer
import GuardedWork.Source
import GuardedWork.Summary
import GuardedWork.Telemetry
import GuardedWork.Text.Blank
import GuardedWork.Text.JsonTree
import GuardedWork.Text.Numeral
import GuardedWork.Text.Quoted
import GuardedWork.Text.Unshown
import GuardedWork.Transform
import GuardedWork.Yaml.Cursor
import GuardedWork.Yaml.Node
import GuardedWork.Yaml.Property
import GuardedWork.Yaml.Reader
import GuardedWork.Yaml.Scalar
import GuardedWork.Yaml.Token
import GuardedWork.Yaml.TokenStream
import GuardedWork.Yaml.Value
import GuardedWork.Proofs.Pool.Moves
import GuardedWork.Proofs.Pool.Exits
import GuardedWork.Proofs.Pool.Parcels
import GuardedWork.Proofs.Pool.Numbering
import GuardedWork.Proofs.Pool.Opening
import GuardedWork.Proofs.Pool.Places
import GuardedWork.Proofs.Pool.Ledgers
import GuardedWork.Proofs.Pool.Work
import GuardedWork.Proofs.Pool.Progress
import GuardedWork.Proofs.Batch.Moves
import GuardedWork.Proofs.Batch.Returns
import GuardedWork.Proofs.Batch.Fold
import GuardedWork.Proofs.Breaker.Events
import GuardedWork.Proofs.Breaker.History
import GuardedWork.Proofs.Breaker.Window
import GuardedWork.Proofs.Batch.Losses
import GuardedWork.Proofs.Batch.Ledgers
import GuardedWork.Proofs.Pool.Close
import GuardedWork.Pipeline.Run
import GuardedWork.Proofs.Pipeline.Flow
import GuardedWork.Proofs.Pipeline.Progress
import GuardedWork.Proofs.Pipeline.Schedule
import GuardedWork.Proofs.Pool.Fates
import GuardedWork.Proofs.Batch.Survivors
import GuardedWork.Proofs.Pool.Cancel
import GuardedWork.Proofs.Pool.Turns
import GuardedWork.Proofs.Pool.Shares
import GuardedWork.Proofs.Pool.Undrained
import GuardedWork.Dispatcher.State
import GuardedWork.Proofs.Batch.Cancel
import GuardedWork.Proofs.Batch.OneWorker
import GuardedWork.Proofs.Dispatcher.Moves
import GuardedWork.Proofs.Dispatcher.Alone
import GuardedWork.Proofs.Dispatcher.Numbering
import GuardedWork.Proofs.Breaker.Turnings
import GuardedWork.Proofs.Breaker.Consistency
import GuardedWork.Proofs.Breaker.Notices
import GuardedWork.Config.Concurrent
import GuardedWork.Config.Request
import GuardedWork.Proofs.Config.Concurrent
import GuardedWork.Proofs.Config.Validity
import GuardedWork.Proofs.Batch.Backlog
import GuardedWork.Proofs.Pipeline.ReadAhead
import GuardedWork.Proofs.Config.Failures
import GuardedWork.Proofs.Breaker.Budget
import GuardedWork.Proofs.Pipeline.Shutdown
import GuardedWork.Queue.Use
import GuardedWork.Proofs.Queue.Transfer
import GuardedWork.Proofs.Queue.Order
import GuardedWork.Proofs.Queue.Confluence
import GuardedWork.Proofs.Config.Variables
import GuardedWork.Proofs.Config.Agreement
import GuardedWork.Config.Change
import GuardedWork.Config.Among
import GuardedWork.Proofs.Config.Readers
import GuardedWork.Proofs.Saturation
import GuardedWork.Proofs.Config.Exporter
import GuardedWork.Proofs.Numeral
import GuardedWork.Proofs.Config.Precedence
import GuardedWork.Proofs.Breaker.RetryTime
import GuardedWork.Proofs.Breaker.ElapsedTime
import GuardedWork.Proofs.Dispatcher.Counts
import GuardedWork.Proofs.Yaml.Escapes
import GuardedWork.Proofs.Yaml.Words
import GuardedWork.Proofs.Yaml.Scanning
import GuardedWork.Proofs.Yaml.Printed
import GuardedWork.Proofs.Yaml.Nodes
import GuardedWork.Proofs.Yaml.Records
import GuardedWork.Proofs.Config.Printed
import GuardedWork.Proofs.Yaml.Abridged
import GuardedWork.Proofs.Yaml.Defaults
import GuardedWork.Proofs.Config.Omissions
