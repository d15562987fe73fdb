import LinkWarden.Agent.Bench
import LinkWarden.Config.Directory
import LinkWarden.Config.Encode
import LinkWarden.Main
import LinkWarden.Observe.Dispatch
import LinkWarden.Observe.Reading
import LinkWarden.Supervisor.Rig
import LinkWarden.Proofs.Supervisor.Run
import LinkWarden.Proofs.Supervisor.Phase
import LinkWarden.Proofs.Supervisor.Attempts
import LinkWarden.Proofs.Supervisor.Escalation
import LinkWarden.Proofs.Agent.Run
import LinkWarden.Proofs.Supervisor.FollowUp
import LinkWarden.Proofs.Agent.Session
import LinkWarden.Proofs.Agent.Autopilot
import LinkWarden.Proofs.Ring.View
import LinkWarden.Proofs.Ring.Queue
import LinkWarden.Proofs.Supervisor.Rounds
import LinkWarden.Proofs.Supervisor.Misses
import LinkWarden.Proofs.Supervisor.Threshold
import LinkWarden.Proofs.Simulation.Belief
import LinkWarden.Proofs.Simulation.Sessions
import LinkWarden.Proofs.Observe.Evolution
import LinkWarden.Proofs.Observe.Tail
import LinkWarden.Proofs.Supervisor.Launch
import LinkWarden.Proofs.Supervisor.Calls
import LinkWarden.Proofs.Observe.Registrations
import LinkWarden.Proofs.Observe.Sparing
import LinkWarden.Proofs.Observe.Story
import LinkWarden.Proofs.Observe.Notification
import LinkWarden.Proofs.Link.Table
import LinkWarden.Proofs.Observe.LinkCell
import LinkWarden.Proofs.Supervisor.EventRuns
import LinkWarden.Proofs.Supervisor.Heard
import LinkWarden.Proofs.Supervisor.Shutdown
import LinkWarden.Proofs.Status.Indicators
import LinkWarden.Proofs.Document.Trimmed
import LinkWarden.Proofs.Config.RoundTrip
import LinkWarden.Proofs.Supervisor.FirstAttempt
import LinkWarden.Proofs.Agent.Build
import LinkWarden.Proofs.Link.Waits
import LinkWarden.Proofs.Link.Budget
import LinkWarden.Proofs.Config.UsedAsWritten
import LinkWarden.Proofs.Config.Violations
import LinkWarden.Proofs.Config.Search
import LinkWarden.Proofs.Config.Formats
import LinkWarden.Proofs.Document.ArrayForm
import LinkWarden.Proofs.Config.ArrayForm
import LinkWarden.Proofs.Config.EffectInRule
import LinkWarden.Proofs.Ring.Ledger
import LinkWarden.Proofs.Time.Digits
import LinkWarden.Proofs.Time.Calendar
import LinkWarden.Proofs.Time.Clock
import LinkWarden.Proofs.Time.ExactText
import LinkWarden.Proofs.Text.Json
import LinkWarden.Proofs.Observe.Export
import LinkWarden.Proofs.Observe.LogOrder
import LinkWarden.Proofs.Ring.Bounds
