import Mpango.Model.ApprovalStore

/-!
# Governed execution

`p22`: what may follow an approval. A dry-run checks the preconditions of an action against the
approval it names and binds a passed verdict for a quarter of an hour; an execution request is
recorded after such a dry-run; the governed `backup.check` completes a recorded request after one
more preflight of every precondition. Each of the three resolves the approval again.

The audit log, the echoed texts and the expected audit shapes are left out: no operation reads them.
-/

namespace Mpango

namespace Execution

open Durable

/-! ## Vocabularies -/

inductive ExecutionSourceStatus
  | known
  | unknown
  | degraded
  deriving DecidableEq

/-- `_P20_TO_P22_SOURCE`. -/
def ExecutionSourceStatus.ofSource : SourceStatus → ExecutionSourceStatus
  | .available => known
  | .unavailable => degraded
  | .unknown => unknown

inductive BlockReason
  | executorNotIdentitySuperAdmin
  | actionNotAllowlisted
  | actionExcluded
  | approvalNotFound
  | approvalStateNotApprovedExecutionBlocked
  | quorumNotMet
  | sourceUnknownForWrite
  | selfExecutionForbidden
  | checkerExecutionForbidden
  | idempotencyKeyRequired
  | actionMismatchApproval
  | targetMismatchApproval
  | reasonRequired
  | executionModeRequired
  | dryRunRequired
  | dryRunInvalid
  | executionAckRequired
  | idempotencyConflict
  | executionRequestRequired
  | executionRequestNotFound
  | executionRequestMismatch
  deriving DecidableEq

/-- A list of one reason where a condition holds. -/
def blockIf (condition : Prop) [Decidable condition] (reason : BlockReason) : List BlockReason :=
  if condition then [reason] else []

@[simp] theorem blockIf_eq_nil {condition : Prop} [Decidable condition] {reason : BlockReason} :
    blockIf condition reason = [] ↔ ¬condition := by
  unfold blockIf
  split <;> simp_all

/-- `ALLOWED_ACTION_TYPES`. -/
def isAllowed (actionType : ActionType) : Bool :=
  match actionType with
  | .tenantPause | .tenantResume | .lifecycleTransition => false
  | _ => true

/-- The action an optional text names. -/
def namedAction (actionType : Option String) : Option ActionType :=
  actionType.bind ActionType.ofText?

/-- The reason of `_classify_action`. -/
def classifyAction (actionType : Option String) : List BlockReason :=
  match namedAction actionType with
  | none => [.actionNotAllowlisted]
  | some action => blockIf (isAllowed action = false) .actionExcluded

/-- `_norm`. -/
def norm (value : Option String) : Option String := (value.map strip).filter (· ≠ "")

/-! ## The approval -/

/-- What the preconditions see of an approval. -/
structure ApprovalSnapshot where
  approvalId : String
  state : ApprovalState
  quorumRequired : ℕ
  quorumMet : Bool
  maker : String
  checkerIds : List String
  sourceStatus : ExecutionSourceStatus
  actionType : String
  tenantId : Option String
  expiresAt : Instant

/-- The snapshot of an approval of the memory backend. -/
def ApprovalSnapshot.ofStored (approval : StoredApproval) : ApprovalSnapshot where
  approvalId := approval.approvalId
  state := approval.state
  quorumRequired := approval.quorumRequired
  quorumMet := approval.quorumMet
  maker := approval.maker
  checkerIds := approval.checkers.map (·.checkerId)
  sourceStatus := .ofSource approval.sourceStatus
  actionType := approval.actionType
  tenantId := approval.tenantId
  expiresAt := approval.expiresAt

/-- The snapshot of an approval of the durable backend. -/
def ApprovalSnapshot.ofRow (row : DurableApprovalRequest)
    (decisions : List DurableApprovalDecision) : ApprovalSnapshot where
  approvalId := row.approvalId.text
  state := row.state
  quorumRequired := row.quorumRequired
  quorumMet := row.quorumMet
  maker := row.makerActorId
  checkerIds := decisions.map (·.checkerActorId)
  sourceStatus := .ofSource row.sourceStatus
  actionType := row.actionType
  tenantId := row.tenantId.map (·.text)
  expiresAt := row.expiresAt

/-- `_check_approval_preconditions` on an approval that was found. -/
def ApprovalSnapshot.check (approval : ApprovalSnapshot) (actionType executor tenantId : Option String) :
    List BlockReason :=
  blockIf (approval.state ≠ .approvedExecutionBlocked) .approvalStateNotApprovedExecutionBlocked ++
  blockIf (approval.quorumMet = false) .quorumNotMet ++
  blockIf (approval.actionType ≠ "" ∧ isAbsent actionType = false ∧
    some approval.actionType ≠ actionType) .actionMismatchApproval ++
  blockIf (norm approval.tenantId ≠ norm tenantId) .targetMismatchApproval ++
  blockIf ((namedAction actionType).any (fun a => isAllowed a ∧ a.classification ≠ .read) ∧
    approval.sourceStatus ≠ .known) .sourceUnknownForWrite ++
  blockIf (isAbsent executor = false ∧ approval.maker ≠ "" ∧ executor = some approval.maker)
    .selfExecutionForbidden ++
  blockIf (isAbsent executor = false ∧ orEmpty executor ∈ approval.checkerIds)
    .checkerExecutionForbidden

/-- `_check_approval_preconditions`. -/
def checkApprovalPreconditions (approval? : Option ApprovalSnapshot)
    (actionType executor tenantId : Option String) : List BlockReason :=
  match approval? with
  | none => [.approvalNotFound]
  | some approval => approval.check actionType executor tenantId

/-- `_executor_block_reason`. -/
def executorBlockReason (sender : Sender) : List BlockReason :=
  blockIf (¬(sender.actorRole = .superAdmin ∧ sender.identityContext = .identityOnly))
    .executorNotIdentitySuperAdmin

/-! ## The store -/

/-- A passed dry-run. -/
structure StoredDryRun where
  dryRunId : String
  durableApprovalId : Option String
  actionType : Option String
  tenantId : Option String
  requestedState : Option String
  executor : Option String
  createdAt : Instant
  expiresAt : Instant
  deriving DecidableEq

instance : Keyed StoredDryRun String where
  key := StoredDryRun.dryRunId

inductive ResultState
  | dryRunPassed
  | blocked
  deriving DecidableEq

/-- A recorded execution request. -/
structure StoredExecutionRequest where
  executionRequestId : String
  durableApprovalId : Option String
  actionType : Option String
  tenantId : Option String
  requestedState : Option String
  idempotencyKeyDigest : String
  payloadDigest : String
  actorId : Option String
  identityContext : IdentityContext
  dryRunRef : Option String
  resultState : ResultState
  createdAt : Instant
  deriving DecidableEq

instance : Keyed StoredExecutionRequest String where
  key := StoredExecutionRequest.executionRequestId

/-- `_DRY_RUNS` and `_EXEC_REQUESTS`. The dictionary of key digests is the column
`idempotencyKeyDigest`. -/
structure ExecutionStore where
  dryRuns : Table StoredDryRun
  requests : Table StoredExecutionRequest
  deriving DecidableEq

def ExecutionStore.empty : ExecutionStore := ⟨Table.empty, Table.empty⟩

/-- The recorded request under a key digest. -/
def ExecutionStore.findByKey (store : ExecutionStore) (digest : String) :
    Option StoredExecutionRequest :=
  store.requests.rows.find? fun x => x.idempotencyKeyDigest = digest

/-- The time a passed dry-run stays bound: fifteen minutes. -/
def dryRunTtl : Instant := 15 * 60 * 1000000

variable (env : Primitives)

/-- `_payload_digest`. -/
def payloadDigest (durableApprovalId actionType tenantId requestedState executor : Option String) :
    String :=
  env.sha256 (barJoin [orEmpty durableApprovalId, orEmpty actionType, orEmpty tenantId,
    orEmpty requestedState, orEmpty executor])

/-! ## Dry-run -/

structure DryRunRequest where
  durableApprovalId : Option String
  actionType : Option String
  tenantId : Option String
  requestedState : Option String
  reason : Option String
  idempotencyKey : Option String
  executionMode : Option String
  sender : Sender

/-- Whether a mode is one of the two there are. -/
def isMode (executionMode : Option String) : Bool :=
  executionMode = some "sync" ∨ executionMode = some "queued"

/-- The reasons that block a dry-run. -/
def dryRunReasons (approval? : Option ApprovalSnapshot) (req : DryRunRequest) : List BlockReason :=
  executorBlockReason req.sender ++
  blockIf (stripped req.idempotencyKey = "") .idempotencyKeyRequired ++
  blockIf (stripped req.reason = "") .reasonRequired ++
  blockIf (isMode req.executionMode = false) .executionModeRequired ++
  classifyAction req.actionType ++
  checkApprovalPreconditions approval? req.actionType req.sender.actor req.tenantId

/-- `evaluate_dry_run`: the store and the reasons. The verdict is passed when there are none. -/
def evaluateDryRun (now : Instant) (newId : Uuid) (approval? : Option ApprovalSnapshot)
    (store : ExecutionStore) (req : DryRunRequest) : ExecutionStore × List BlockReason :=
  let reasons := dryRunReasons approval? req
  if reasons = [] then
    ({ store with
        dryRuns := store.dryRuns.put
          { dryRunId := newId.text
            durableApprovalId := req.durableApprovalId
            actionType := req.actionType
            tenantId := req.tenantId
            requestedState := req.requestedState
            executor := req.sender.actor
            createdAt := now
            expiresAt := now + dryRunTtl } }, reasons)
  else (store, reasons)

/-! ## Execution request -/

structure ExecutionRequest where
  durableApprovalId : Option String
  actionType : Option String
  tenantId : Option String
  requestedState : Option String
  reason : Option String
  idempotencyKey : Option String
  dryRunRef : Option String
  executionAck : Bool
  executionMode : Option String
  sender : Sender

/-- Whether a bound dry-run is for the same approval, action, target and executor, and still
valid. -/
def StoredDryRun.binds (dryRun : StoredDryRun) (now : Instant)
    (durableApprovalId actionType tenantId requestedState executor : Option String) : Bool :=
  dryRun.durableApprovalId = durableApprovalId ∧ dryRun.actionType = actionType ∧
    dryRun.tenantId = tenantId ∧ dryRun.requestedState = requestedState ∧
    dryRun.executor = executor ∧ now < dryRun.expiresAt

/-- The reason a bound dry-run gives. -/
def dryRunBlock (store : ExecutionStore) (now : Instant)
    (dryRunRef durableApprovalId actionType tenantId requestedState executor : Option String) :
    List BlockReason :=
  if isAbsent dryRunRef then [.dryRunRequired]
  else match store.dryRuns.find? (orEmpty dryRunRef) with
    | none => [.dryRunInvalid]
    | some dryRun =>
      blockIf (dryRun.binds now durableApprovalId actionType tenantId requestedState executor =
        false) .dryRunInvalid

namespace ExecutionRequest

/-- The payload digest of a request. -/
def payload (req : ExecutionRequest) : String :=
  payloadDigest env req.durableApprovalId req.actionType req.tenantId req.requestedState
    req.sender.actor

/-- The request recorded under the key of a request. -/
def existing (req : ExecutionRequest) (store : ExecutionStore) : Option StoredExecutionRequest :=
  if stripped req.idempotencyKey = "" then none
  else store.findByKey (env.digest (stripped req.idempotencyKey))

/-- The reasons that block a request, but for a conflict of its key. -/
def preconditions (req : ExecutionRequest) (now : Instant) (approval? : Option ApprovalSnapshot)
    (store : ExecutionStore) : List BlockReason :=
  executorBlockReason req.sender ++
  blockIf (stripped req.idempotencyKey = "") .idempotencyKeyRequired ++
  blockIf (stripped req.reason = "") .reasonRequired ++
  blockIf (isMode req.executionMode = false) .executionModeRequired ++
  blockIf (req.executionAck = false) .executionAckRequired ++
  classifyAction req.actionType ++
  dryRunBlock store now req.dryRunRef req.durableApprovalId req.actionType req.tenantId
    req.requestedState req.sender.actor ++
  checkApprovalPreconditions approval? req.actionType req.sender.actor req.tenantId

/-- The request `record_execution_request` records. -/
def recorded (req : ExecutionRequest) (now : Instant) (newId : Uuid) : StoredExecutionRequest where
  executionRequestId := newId.text
  durableApprovalId := req.durableApprovalId
  actionType := env.sanitizeText req.actionType
  tenantId := req.tenantId
  requestedState := req.requestedState
  idempotencyKeyDigest := env.digest (stripped req.idempotencyKey)
  payloadDigest := req.payload env
  actorId := req.sender.actor
  identityContext := req.sender.identityContext
  dryRunRef := req.dryRunRef
  resultState := .dryRunPassed
  createdAt := now

end ExecutionRequest

/-- The answer to an execution request. -/
inductive RequestResponse
  | recorded (request : StoredExecutionRequest)
  | replayed (request : StoredExecutionRequest)
  | blocked (reasons : List BlockReason)
  deriving DecidableEq

/-- `result_state` of the answer. -/
def RequestResponse.resultState : RequestResponse → ResultState
  | recorded request => request.resultState
  | replayed request => request.resultState
  | blocked _ => .blocked

/-- `record_execution_request`. -/
def recordExecutionRequest (now : Instant) (newId : Uuid) (approval? : Option ApprovalSnapshot)
    (store : ExecutionStore) (req : ExecutionRequest) : ExecutionStore × RequestResponse :=
  let reasons := req.preconditions now approval? store
  match req.existing env store with
  | some existing =>
    if existing.payloadDigest = req.payload env then (store, .replayed existing)
    else (store, .blocked (reasons ++ [.idempotencyConflict]))
  | none =>
    if reasons = [] then
      let request := req.recorded env now newId
      ({ store with requests := store.requests.put request }, .recorded request)
    else (store, .blocked reasons)

/-! ## The governed completion -/

/-- The request to complete `backup.check`. The action type is pinned. -/
structure GovernedRequest where
  executionRequestId : Option String
  durableApprovalId : Option String
  tenantId : Option String
  requestedState : Option String
  dryRunRef : Option String
  executionAck : Bool
  idempotencyKeyDigest : Option String
  payloadDigest : Option String
  sender : Sender

/-- `GOVERNED_ACTION_TYPE`. -/
def governedActionType : Option String := some ActionType.backupCheck.text

/-- `_request_mismatch` finds none: the governed request is for the recorded one. -/
def GovernedRequest.matchesRecorded (req : GovernedRequest) (stored : StoredExecutionRequest) :
    Bool :=
  stored.resultState = .dryRunPassed ∧ stored.actionType = governedActionType ∧
    norm stored.durableApprovalId = norm req.durableApprovalId ∧
    norm stored.tenantId = norm req.tenantId ∧ norm stored.dryRunRef = norm req.dryRunRef ∧
    norm stored.actorId = norm req.sender.actor ∧
    stored.identityContext = req.sender.identityContext ∧
    norm (some stored.idempotencyKeyDigest) = norm req.idempotencyKeyDigest ∧
    norm (some stored.payloadDigest) = norm req.payloadDigest

/-- Whether `classify_idempotency` finds a conflict. -/
def isKeyConflict (store : ExecutionStore) (keyDigest payload : Option String) : Bool :=
  !isAbsent keyDigest && match store.findByKey (orEmpty keyDigest) with
  | none => false
  | some existing => isAbsent payload ∨ existing.payloadDigest ≠ orEmpty payload

/-- `evaluate_preflight_gate` for `backup.check`: the reasons that block it. -/
def preflightReasons (now : Instant) (approval? : Option ApprovalSnapshot) (store : ExecutionStore)
    (req : GovernedRequest) : List BlockReason :=
  executorBlockReason req.sender ++
  blockIf (isAbsent req.idempotencyKeyDigest = true) .idempotencyKeyRequired ++
  blockIf (req.executionAck = false) .executionAckRequired ++
  classifyAction governedActionType ++
  dryRunBlock store now req.dryRunRef req.durableApprovalId governedActionType req.tenantId
    req.requestedState req.sender.actor ++
  checkApprovalPreconditions approval? governedActionType req.sender.actor req.tenantId ++
  blockIf (isKeyConflict store req.idempotencyKeyDigest req.payloadDigest = true)
    .idempotencyConflict

/-- What the read of the backup source says. -/
inductive BackupCheckSummary
  | freshSuccess
  | unavailable
  | unknown
  | degraded
  deriving DecidableEq

inductive GovernedResultState
  | succeeded
  | completedWithWarning
  | failed
  | blocked
  deriving DecidableEq

/-- `_map_read_to_result`. -/
def mapReadToResult : BackupCheckSummary → GovernedResultState
  | .freshSuccess => .succeeded
  | .unavailable => .failed
  | .unknown => .completedWithWarning
  | .degraded => .completedWithWarning

/-- The reasons that block a governed completion: the binding to a recorded request, then the
preflight. -/
def governedReasons (now : Instant) (approval? : Option ApprovalSnapshot) (store : ExecutionStore)
    (req : GovernedRequest) : List BlockReason :=
  match norm req.executionRequestId with
  | none => [.executionRequestRequired]
  | some _ =>
    match store.requests.find? (orEmpty req.executionRequestId) with
    | none => [.executionRequestNotFound]
    | some stored =>
      if req.matchesRecorded stored then preflightReasons now approval? store req
      else [.executionRequestMismatch]

/-- `complete_governed_backup_check`: the result state, and the reasons of a blocked one. -/
def completeGovernedBackupCheck (now : Instant) (approval? : Option ApprovalSnapshot)
    (store : ExecutionStore) (req : GovernedRequest) (read : BackupCheckSummary) :
    GovernedResultState × List BlockReason :=
  let reasons := governedReasons now approval? store req
  if reasons = [] then (mapReadToResult read, []) else (.blocked, reasons)

end Execution

end Mpango
