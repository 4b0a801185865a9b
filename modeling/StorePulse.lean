import StorePulse.Backend.Alone
import StorePulse.Backend.Api
import StorePulse.Backend.Assertions
import StorePulse.Backend.Atomicity
import StorePulse.Backend.Batches
import StorePulse.Backend.Classification
import StorePulse.Backend.ClassificationPaths
import StorePulse.Backend.Connectivity
import StorePulse.Backend.ControlFlow
import StorePulse.Backend.Database
import StorePulse.Backend.Deadlock
import StorePulse.Backend.Documented
import StorePulse.Backend.EventIngestion
import StorePulse.Backend.Finality
import StorePulse.Backend.Idempotency
import StorePulse.Backend.InternalErrors
import StorePulse.Backend.Invariant
import StorePulse.Backend.Log
import StorePulse.Backend.Models
import StorePulse.Backend.Moves
import StorePulse.Backend.Progress
import StorePulse.Backend.Realtime
import StorePulse.Backend.Receipts
import StorePulse.Backend.Refinement
import StorePulse.Backend.RefundLimits
import StorePulse.Backend.Registry
import StorePulse.Backend.Schemas
import StorePulse.Backend.Serializability
import StorePulse.Backend.Server
import StorePulse.Backend.Specification
import StorePulse.Backend.Statements
import StorePulse.Dashboard.App
import StorePulse.Dashboard.Invariant
import StorePulse.Dashboard.Reconnects
import StorePulse.Dashboard.Refreshes
import StorePulse.Deployment.Delivery
import StorePulse.Deployment.Drain
import StorePulse.Deployment.LedgerBound
import StorePulse.Deployment.Seeded
import StorePulse.Deployment.System
import StorePulse.Foundation.AttemptLoop
import StorePulse.Foundation.Backoff
import StorePulse.Foundation.CapacityLedger
import StorePulse.Foundation.EventLog
import StorePulse.Foundation.Inserts
import StorePulse.Foundation.Linearizability
import StorePulse.Foundation.LockTable
import StorePulse.Foundation.Owned
import StorePulse.Foundation.Patterns
import StorePulse.Foundation.Periodic
import StorePulse.Foundation.Program
import StorePulse.Foundation.ProgramRuns
import StorePulse.Foundation.ProgramSum
import StorePulse.Foundation.Rounding
import StorePulse.Foundation.Schedules
import StorePulse.Foundation.SqlLiterals
import StorePulse.Foundation.Timers
import StorePulse.Foundation.Totals
import StorePulse.Foundation.TransactionalTable
import StorePulse.Foundation.Transition
import StorePulse.Foundation.Wildcards
import StorePulse.Harness.Cleanup
import StorePulse.Harness.CommandRuns
import StorePulse.Harness.Compose
import StorePulse.Harness.DockerHost
import StorePulse.Harness.DuplicateLog
import StorePulse.Harness.FinalizeRuns
import StorePulse.Harness.Isolation
import StorePulse.Harness.JsonText
import StorePulse.Harness.Smoke
import StorePulse.Harness.SmokeEvidence
import StorePulse.Harness.SmokeHost
import StorePulse.Harness.SmokePasses
import StorePulse.Harness.SmokeRuns
import StorePulse.Harness.Snapshot
import StorePulse.Harness.SqlText
import StorePulse.Harness.WriteBarrier
import StorePulse.Python.Floats
import StorePulse.Python.JsonEquality
import StorePulse.Python.Numbers
import StorePulse.Python.Text
import StorePulse.Python.Uuid
import StorePulse.Python.Values
import StorePulse.Simulator.Accounting
import StorePulse.Simulator.Assortment
import StorePulse.Simulator.Backoff
import StorePulse.Simulator.Capacity
import StorePulse.Simulator.Config
import StorePulse.Simulator.Domain
import StorePulse.Simulator.Environment
import StorePulse.Simulator.Posts
import StorePulse.Simulator.RetryLoop
import StorePulse.Simulator.Runtime
import StorePulse.Simulator.Sleeps
import StorePulse.Simulator.Transport
import StorePulse.Stores.Heartbeats
import StorePulse.Stores.Presence
import StorePulse.Stores.Seed
