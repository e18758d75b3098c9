import ZenControl.References.Namespace
import ZenControl.Store.UpgradeSafety
import ZenControl.Attention.Webhooks
import ZenControl.Store.SettingsForms
import ZenControl.Router.Authority
import ZenControl.Attention.FalseClears
import ZenControl.Store.OptimisticConcurrency
import ZenControl.Rewards.Ledger
import ZenControl.Policy.Simulation
import ZenControl.KidControl.Preservation
import ZenControl.KidControl.Identities
import ZenControl.Attention.Settled
import ZenControl.Attention.Attempts
import ZenControl.Attention.Progress
import ZenControl.Attention.Suppression
import ZenControl.Attention.OpenPeriods
import ZenControl.Attention.Queueing
import ZenControl.Reconciliation.Intent
import ZenControl.PolicyHistory.Independence
import ZenControl.Router.Observation
import ZenControl.Router.Interruptions
import ZenControl.References.Runs
import ZenControl.Auth.Authenticators
import ZenControl.Store.RevisionJournal
import ZenControl.Telemetry.Coverage
import ZenControl.Telemetry.Queries
import ZenControl.Telemetry.UsageRuns
import ZenControl.Release.Completeness
import ZenControl.Release.Hardening
import ZenControl.Policy.Quotas
import ZenControl.PolicyHistory.Tiling
import ZenControl.PolicyHistory.Conservation
import ZenControl.Policy.Precedence
import ZenControl.Policy.Occurrences
import ZenControl.Policy.Conflicts
import ZenControl.Policy.Explanations
import ZenControl.References.ContractNames
import ZenControl.Router.Transitions
import ZenControl.Workers.Cycles
import ZenControl.Workers.Locks
import ZenControl.Telemetry.BypassScores
import ZenControl.Router.Snapshot
import ZenControl.Router.ExactRates
import ZenControl.Telemetry.CatalogLoader
import ZenControl.Release.RestartEvidence
import ZenControl.Telemetry.Review
import ZenControl.Telemetry.BypassHiding
import ZenControl.Device360.Related
import ZenControl.Router.Convergence
import ZenControl.Router.Cleanup
import ZenControl.Rewards.Recovery
import ZenControl.Policy.ExceptionConflicts
import ZenControl.Policy.Quality
