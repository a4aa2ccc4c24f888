import Mpango.Library.Decimal
import Mpango.Library.Table
import Mpango.Library.Registry
import Mpango.Library.Command
import Mpango.Library.Text
import Mpango.Library.Windows
import Mpango.Library.Pattern
import Mpango.Library.Substitution
import Mpango.Library.RegexLanguage
import Mpango.Library.SqlTokens
import Mpango.Library.Subsequence
import Mpango.Library.Grouping
import Mpango.Library.Run
import Mpango.Library.ReadCommitted
import Mpango.Library.Slots
import Mpango.Library.JoinedFields
import Mpango.Library.Recall
import Mpango.Library.Journal
import Mpango.Model.OrderState
import Mpango.Model.Errors
import Mpango.Model.Tables
import Mpango.Model.Catalogue
import Mpango.Model.Payments
import Mpango.Model.Balances
import Mpango.Model.Inventory
import Mpango.Model.OrderCommands
import Mpango.Model.CanonicalPayment
import Mpango.Model.CatalogIdentity
import Mpango.Model.Declarations
import Mpango.Model.Receivables
import Mpango.Model.History
import Mpango.Model.Bootstrap
import Mpango.Model.Migration
import Mpango.Model.Statement
import Mpango.Model.StatementPrint
import Mpango.Model.System
import Mpango.Model.Service
import Mpango.Model.ControlledActions
import Mpango.Model.ApprovalWorkflow
import Mpango.Model.ActionRedaction
import Mpango.Model.MethodIntegrity
import Mpango.Model.ActionRequests
import Mpango.Model.DurableApprovals
import Mpango.Model.ApprovalStore
import Mpango.Model.ApprovalFlights
import Mpango.Model.GovernedExecution
import Mpango.Model.ApprovalSystem
import Mpango.Model.GovernedRuns
import Mpango.Model.OperatorTasks
import Mpango.Model.OperatorSources
import Mpango.Model.IncidentCloseouts
import Mpango.Model.Reporting
import Mpango.Model.Exports
import Mpango.Model.Harness
import Mpango.Model.Baselines
import Mpango.Model.ApiClient
import Mpango.Model.JobQueue
import Mpango.Library.Jsonb
import Mpango.Model.SkuImport
import Mpango.Model.IntakeWorkspace
import Mpango.Spec.OrderCommands
import Mpango.Spec.Inventory
import Mpango.Stock.Loops
import Mpango.Stock.Step
import Mpango.Stock.Reservations
import Mpango.Stock.Conservation
import Mpango.Stock.Refusals
import Mpango.Spec.Payments
import Mpango.Spec.Declarations
import Mpango.Spec.Execution
import Mpango.Spec.Refusals
import Mpango.Spec.Approvals
import Mpango.Spec.OperatorTasks
import Mpango.Spec.LinkedTasks
import Mpango.Spec.IncidentCloseouts
import Mpango.Money.Account
import Mpango.Money.Step
import Mpango.Money.Refinement
import Mpango.Money.Lifecycle
import Mpango.Money.Ledger
import Mpango.Money.HoldContract
import Mpango.Money.Binding
import Mpango.Money.History
import Mpango.Money.Bootstrap
import Mpango.Money.Migration
import Mpango.Money.Receivables
import Mpango.Money.Statement
import Mpango.Money.Collect
import Mpango.Money.Precision
import Mpango.Money.Replay
import Mpango.Money.ExactlyOnce
import Mpango.Money.Tender
import Mpango.Money.Receipts
import Mpango.Money.Protocol
import Mpango.Money.Printing
import Mpango.Approvals.Expiry
import Mpango.Approvals.DualControl
import Mpango.Approvals.Backends
import Mpango.Approvals.Governed
import Mpango.Operations.Queue
import Mpango.Operations.Severity
import Mpango.Operations.Identity
import Mpango.Operations.Closing
import Mpango.Operations.Seam
import Mpango.Harness.Drift
import Mpango.Harness.Sync
import Mpango.Harness.Trees
import Mpango.Reporting.Dashboard
import Mpango.Reporting.Exports
import Mpango.Tenancy.Sessions
import Mpango.Access.Logins
import Mpango.Gateway.Keys
import Mpango.Gateway.Replay
import Mpango.Operations.Refused
import Mpango.Operations.FollowUps
import Mpango.Client.Queue
import Mpango.Client.Sessions
import Mpango.Jobs.Accounting
import Mpango.Jobs.Smooth
import Mpango.Digests.Keys
import Mpango.Access.Policies
import Mpango.Intake.Columns
import Mpango.Intake.Agreement
import Mpango.Intake.Readiness
import Mpango.Harness.Itself
import Mpango.Money.DeclareRace
import Mpango.Money.Tiling
import Mpango.Money.ReplayPaths
import Mpango.Library.Latest
import Mpango.Model.BackupPosture
import Mpango.Operations.BackupPosture
import Mpango.Library.Json
import Mpango.Library.UtcTime
import Mpango.Model.SkuListing
import Mpango.Skus.Cache
import Mpango.Skus.Fulfilment
import Mpango.Skus.Identity
import Mpango.Skus.Lines
import Mpango.Library.Base64
import Mpango.Library.Double
import Mpango.Model.JoinIntents
import Mpango.Access.JoinIntents
import Mpango.Model.SupportSessions
import Mpango.Operations.SupportSessions
import Mpango.Model.RateLimits
import Mpango.Gateway.Limits
import Mpango.Library.Joins
import Mpango.Model.TenantFilter
import Mpango.Tenancy.Barrier
import Mpango.Library.Paging
import Mpango.Model.Listings
import Mpango.Reporting.Listings
import Mpango.Model.Moves
import Mpango.Harness.Moves
import Mpango.Model.Worktree
import Mpango.Model.BatchRunner
import Mpango.Harness.Batches
import Mpango.Model.PrintFormat
import Mpango.Client.PrintFormat
import Mpango.Harness.Worktrees
import Mpango.Library.Raising
import Mpango.Model.AuthorityWindow
import Mpango.Tenancy.AuthorityWindow
import Mpango.Tenancy.MethodMembers
import Mpango.Tenancy.MethodIntegrity
import Mpango.Operations.Redaction
import Mpango.Operations.Echoes
