import ScriptScheduler.Ident
import ScriptScheduler.Json.Parser
import ScriptScheduler.Json.Printer
import ScriptScheduler.Value.Text
import ScriptScheduler.Value.Layout
import ScriptScheduler.Value.Exchange
import ScriptScheduler.Machine
import ScriptScheduler.Request.Table
import ScriptScheduler.Thread
import ScriptScheduler.Effect
import ScriptScheduler.Config.Layout
import ScriptScheduler.Executor.Slice
import ScriptScheduler.Scheduler.Operation
import ScriptScheduler.Scheduler.Report
import ScriptScheduler.Server
import ScriptScheduler.CommandLine.Arguments
import ScriptScheduler.Config.Setting
import ScriptScheduler.Config.Sources
import ScriptScheduler.Main
import ScriptScheduler.Proofs.HoldLists
import ScriptScheduler.Proofs.Moves
import ScriptScheduler.Proofs.Placement
import ScriptScheduler.Proofs.RequestTable
import ScriptScheduler.Proofs.RequestIndex
import ScriptScheduler.Proofs.RequestNumbers
import ScriptScheduler.Proofs.Changes
import ScriptScheduler.Proofs.Coherence
import ScriptScheduler.Proofs.Departures
import ScriptScheduler.Proofs.Recurrence
import ScriptScheduler.Proofs.Links
import ScriptScheduler.Proofs.Waiting
import ScriptScheduler.Proofs.ReadyQueue
import ScriptScheduler.Proofs.Passes
import ScriptScheduler.Proofs.Runs
import ScriptScheduler.Proofs.Answers
import ScriptScheduler.Proofs.Wakeups
import ScriptScheduler.Proofs.Resolution
import ScriptScheduler.Proofs.EngineCalls
import ScriptScheduler.Proofs.WakeCauses
import ScriptScheduler.Proofs.CallRecords
import ScriptScheduler.Proofs.EngineScripts
import ScriptScheduler.Proofs.Completion
import ScriptScheduler.Proofs.Deadlines
import ScriptScheduler.Proofs.Removal
import ScriptScheduler.Proofs.History
import ScriptScheduler.Proofs.Loners
import ScriptScheduler.Proofs.Callers
import ScriptScheduler.Proofs.Slots
import ScriptScheduler.Proofs.Turns
import ScriptScheduler.Proofs.Events
import ScriptScheduler.Proofs.Cycles
import ScriptScheduler.Proofs.Idling
import ScriptScheduler.Proofs.Runaway
import ScriptScheduler.Proofs.Failures
import ScriptScheduler.Proofs.Spending
import ScriptScheduler.Proofs.Ledger
import ScriptScheduler.Proofs.Solo
import ScriptScheduler.Proofs.Outings
import ScriptScheduler.Proofs.Roused
import ScriptScheduler.Proofs.Expiry
import ScriptScheduler.Proofs.ServerLoop
import ScriptScheduler.Proofs.Exchange
import ScriptScheduler.Proofs.StraightRuns
import ScriptScheduler.Proofs.Chains
import ScriptScheduler.Proofs.SplitSlices
import ScriptScheduler.Proofs.Routing
import ScriptScheduler.Proofs.Delivery
import ScriptScheduler.Proofs.Placeless
import ScriptScheduler.Proofs.Indifference
import ScriptScheduler.Proofs.Debugging
import ScriptScheduler.Proofs.Commuting
import ScriptScheduler.Proofs.Shutdown
import ScriptScheduler.Proofs.Acceptance
import ScriptScheduler.Proofs.Rearrangement
import ScriptScheduler.Proofs.StoredValues
import ScriptScheduler.Proofs.Persistence
import ScriptScheduler.Proofs.Registrations
import ScriptScheduler.Proofs.Binding
