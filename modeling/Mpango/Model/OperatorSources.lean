import Mpango.Model.ApprovalWorkflow
import Mpango.Model.OperatorTasks

/-!
# Approval follow-ups

`materialize_approvals` of `p23/sources.py`: the newest approvals of the workflow's queue are read,
and an event is taken in for each that is still open. The pass over the backup source, which needs a
database, is left out.
-/

namespace Mpango

namespace Workflow

/-- The records `list_approvals` shows. -/
def listApprovals (limit offset : ℤ) (store : Store) : List StoredApproval :=
  let safeLimit := max 1 (min limit 100)
  let safeOffset := max 0 offset
  ((store.rows.mergeSort fun a b => b.createdAt ≤ a.createdAt).drop safeOffset.toNat).take
    safeLimit.toNat

/-- Decided or cancelled. -/
def ApprovalState.isDecided : ApprovalState → Bool
  | executionBlocked | rejected | cancelled => true
  | pendingReview | expired => false

end Workflow

namespace Operator

open Workflow (StoredApproval)

/-! ## The event of an approval -/

def sourceStatusForApproval : Mpango.SourceStatus → SourceStatus
  | .available => .known
  | .unavailable => .degraded
  | .unknown => .unknown

/-- `approval_event_from_record` -/
def approvalEvent (now : Instant) (a : StoredApproval) : Option IntakeEvent :=
  if a.state ≠ .pendingReview then none
  else
    let overdue := a.expiresAt ≤ now
    let taskType : TaskType := if overdue then .approvalDecisionRequired else .approvalPending
    let actionType := if a.actionType = "" then "unknown_action" else a.actionType
    some
      { taskType
        severity := none
        tenantId := a.tenantId
        actorScope := if isAbsent a.tenantId then .platform else .tenantContextual
        ownerRole := some .superAdmin
        correlationId :=
          if isAbsent a.correlationId then "p23c:p19:approval:" ++ a.approvalId
          else orEmpty a.correlationId
        linkedActionId := a.actionId
        linkedApprovalId := if a.approvalId = "" then none else some a.approvalId
        linkedExecutionId := none
        linkedDryRunRef := none
        linkedSourceRef := none
        linkedIncidentId := none
        summary := "P19 approval " ++ a.approvalId ++ " for " ++ actionType ++ " is pending_review." ++
          if overdue then " It is past expiry; a checker decision is required." else ""
        reason := some "Materialized from P19 approval state=pending_review."
        sourceStatus := some (sourceStatusForApproval a.sourceStatus)
        linkedGateOpen := true
        followupVariant := some taskType.text
        ttlExpiresAt := some a.expiresAt
        channel := none }

/-! ## The pass -/

/-- `SourceMaterializationCounts` -/
structure Counts where
  read : ℕ := 0
  created : ℕ := 0
  deduped : ℕ := 0
  skipped : ℕ := 0
  taskIds : List String := []

variable (env : Primitives) (now : Instant)

/-- One record of the list. -/
def followUp (newId : Uuid) (a : StoredApproval) (s : TaskQueue × Counts) : TaskQueue × Counts :=
  match approvalEvent now a with
  | none => (s.1, { s.2 with skipped := s.2.skipped + 1 })
  | some event =>
    let (q, response) := s.1.upsertTaskFromEvent env now newId newId event
    (q, { s.2 with
      created := s.2.created + if response.created then 1 else 0
      deduped := s.2.deduped + if response.created then 0 else 1
      taskIds := s.2.taskIds ++ [response.task.taskId] })

/-- The records one after the other, with the identifiers for the tasks they may become. -/
def followUps (newIds : ℕ → Uuid) :
    ℕ → List StoredApproval → TaskQueue × Counts → TaskQueue × Counts
  | _, [], s => s
  | n, a :: approvals, s => followUps newIds (n + 1) approvals (followUp env now (newIds n) a s)

def materializeApprovals (newIds : ℕ → Uuid) (store : Workflow.Store) (q : TaskQueue) :
    TaskQueue × Counts :=
  let queue := Workflow.listApprovals 100 0 store
  followUps env now newIds 0 queue (q, { read := queue.length })

/-! ## What is asked of a pass -/

/-- An active task is linked to the approval, and asks for a decision when the approval is past its
expiry. -/
def HasTask (q : TaskQueue) (a : StoredApproval) : Prop :=
  ∃ t ∈ q.tasks, t.isActive = true ∧ t.linkedApprovalId = some a.approvalId ∧
    (a.expiresAt ≤ now → t.taskType = .approvalDecisionRequired)

/-- Every open approval has its task, a second pass without a change creates nothing, and no task of
an approval that is decided or cancelled is still blocked. -/
structure FollowedUp (store : Workflow.Store) (q : TaskQueue) : Prop where
  complete : ∀ a ∈ store, a.state = .pendingReview → HasTask now q a
  settled : ∀ later newIds, (∀ a ∈ store, a.expiresAt ≤ later ↔ a.expiresAt ≤ now) →
    (materializeApprovals env later newIds store q).2.created = 0
  unblocked : ∀ a ∈ store, a.state.isDecided = true → ∀ t ∈ q.tasks, t.isActive = true →
    t.linkedApprovalId = some a.approvalId → t.linkedGateOpen = false

/-- The event of the approval is the first of the pass with its digest, and no task absorbs it. -/
def BecomesTask (store : Workflow.Store) (q : TaskQueue) (a : StoredApproval) : Prop :=
  a.approvalId ≠ "" ∧ ∃ before after event,
    Workflow.listApprovals 100 0 store = before ++ a :: after ∧
      approvalEvent now a = some event ∧ q.absorbing env event = none ∧
      ∀ b ∈ before, ∀ event', approvalEvent now b = some event' →
        event'.dedupKeyDigest env ≠ event.dedupKeyDigest env

/-- Every open approval has its task before the pass or is among the newest and becomes one, and
the tasks of approvals that are decided or cancelled are not blocked and absorb no event. -/
structure WithinReach (store : Workflow.Store) (q : TaskQueue) : Prop where
  pending : ∀ a ∈ store, a.state = .pendingReview →
    HasTask now q a ∨ BecomesTask env now store q a
  decided : ∀ a ∈ store, a.state.isDecided = true → ∀ t ∈ q.tasks, t.isActive = true →
    t.linkedApprovalId = some a.approvalId → t.linkedGateOpen = false ∧
      ∀ b ∈ Workflow.listApprovals 100 0 store, ∀ event, approvalEvent now b = some event →
        q.absorbing env event ≠ some t

end Operator

end Mpango
