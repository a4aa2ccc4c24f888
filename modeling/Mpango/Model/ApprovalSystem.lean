import Mpango.Model.GovernedExecution

/-!
# The platform's approvals

The three approval stores and the execution store behind one clock. An operation is a call of one of
the service functions, at a moment the environment chooses; a sweep of the workflow may come at any
moment or never. The storage mode of the approvals is chosen with each call, and with it the backend
an execution resolves its approval from.
-/

namespace Mpango

open Durable Execution

inductive StorageMode
  | memory
  | durable
  deriving DecidableEq

structure ApprovalSystem where
  workflow : Workflow.Store
  memory : MemoryStore
  durable : ApprovalDb
  execution : ExecutionStore

namespace ApprovalSystem

def empty : ApprovalSystem := ⟨Table.empty, Table.empty, ApprovalDb.empty, ExecutionStore.empty⟩

/-- How an execution resolves its approval: the storage mode, and whether the store is ready. -/
structure Resolver where
  mode : StorageMode
  ready : Bool

inductive Operation
  | openWorkflow (ctx : ActionContext) (newId : Uuid) (req : Workflow.ApprovalRequest)
  | decideWorkflow (req : Workflow.DecisionRequest)
  | cancelWorkflow (approvalId : String)
  | sweepWorkflow
  | openApproval (mode : StorageMode) (ctx : ActionContext) (newId newActionId : Uuid)
      (req : CreateRequest)
  | decideApproval (mode : StorageMode) (req : DecisionRequest)
  | dryRun (resolver : Resolver) (newId : Uuid) (req : DryRunRequest)
  | requestExecution (resolver : Resolver) (newId : Uuid) (req : ExecutionRequest)
  | completeBackupCheck (resolver : Resolver) (req : GovernedRequest) (read : BackupCheckSummary)

variable (env : Primitives)

/-- The approval an id names in the backend of a mode. -/
def approvalOf (s : ApprovalSystem) (mode : StorageMode) (approvalId : Option String) :
    Option ApprovalSnapshot :=
  match mode with
  | .memory => (s.memory.find? (orEmpty approvalId)).map .ofStored
  | .durable => ((Uuid.parse (orEmpty approvalId)).bind s.durable.requests.find?).map fun row =>
      .ofRow row (s.durable.decisionsOf row.approvalId)

/-- `_default_resolve_approval`. A read of the durable backend is audited. -/
def resolveApproval (s : ApprovalSystem) (resolver : Resolver) (approvalId : Option String) :
    ApprovalSystem × Option ApprovalSnapshot :=
  if isAbsent approvalId ∨ resolver.ready = false then (s, none)
  else match resolver.mode with
    | .memory => (s, s.approvalOf .memory approvalId)
    | .durable =>
      match getRequest env s.durable (orEmpty approvalId) with
      | (db, some row) =>
        ({ s with durable := db }, some (.ofRow row (s.durable.decisionsOf row.approvalId)))
      | (db, none) => ({ s with durable := db }, none)

/-- The state after an operation. -/
def execute (s : ApprovalSystem) (now : Instant) : Operation → ApprovalSystem
  | .openWorkflow ctx newId req =>
    { s with workflow := (Workflow.createApproval env now ctx newId s.workflow req).1 }
  | .decideWorkflow req =>
    { s with workflow := (Workflow.submitDecision env now s.workflow req).1 }
  | .cancelWorkflow approvalId =>
    { s with workflow := (Workflow.cancelApproval now s.workflow approvalId).1 }
  | .sweepWorkflow => { s with workflow := Workflow.sweepExpired now s.workflow }
  | .openApproval .memory ctx newId _ req =>
    { s with memory := (memoryCreate env now ctx newId s.memory req).1 }
  | .openApproval .durable ctx newId newActionId req =>
    { s with durable := (durableCreate env now ctx newId newActionId s.durable req).1 }
  | .decideApproval .memory req =>
    { s with memory := (memorySubmitDecision env now s.memory req).1 }
  | .decideApproval .durable req =>
    { s with durable := (durableSubmitDecision env now s.durable req).1 }
  | .dryRun resolver newId req =>
    let (s', approval?) := s.resolveApproval env resolver req.durableApprovalId
    { s' with execution := (evaluateDryRun now newId approval? s.execution req).1 }
  | .requestExecution resolver newId req =>
    let (s', approval?) := s.resolveApproval env resolver req.durableApprovalId
    { s' with execution := (recordExecutionRequest env now newId approval? s.execution req).1 }
  | .completeBackupCheck resolver req _ => (s.resolveApproval env resolver req.durableApprovalId).1

/-- Whether an operation is a dry-run, a request or a completion that passes. -/
def passes (s : ApprovalSystem) (now : Instant) : Operation → Prop
  | .dryRun resolver newId req =>
    (evaluateDryRun now newId (s.resolveApproval env resolver req.durableApprovalId).2
      s.execution req).2 = []
  | .requestExecution resolver newId req =>
    (recordExecutionRequest env now newId (s.resolveApproval env resolver req.durableApprovalId).2
      s.execution req).2.resultState = .dryRunPassed
  | .completeBackupCheck resolver req read =>
    (completeGovernedBackupCheck now (s.resolveApproval env resolver req.durableApprovalId).2
      s.execution req read).1 ≠ .blocked
  | _ => False

/-- The approval an operation relies on. -/
def reliedOn (s : ApprovalSystem) : Operation → Option ApprovalSnapshot
  | .dryRun resolver _ req => s.approvalOf resolver.mode req.durableApprovalId
  | .requestExecution resolver _ req => s.approvalOf resolver.mode req.durableApprovalId
  | .completeBackupCheck resolver req _ => s.approvalOf resolver.mode req.durableApprovalId
  | _ => none

/-- An operation and its moment. -/
abbrev Event := Instant × Operation

def step (s : ApprovalSystem) (event : Event) : ApprovalSystem := s.execute env event.1 event.2

end ApprovalSystem

end Mpango
