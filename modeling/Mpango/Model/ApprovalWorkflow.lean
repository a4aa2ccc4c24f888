import Mpango.Library.Command
import Mpango.Library.Table
import Mpango.Model.ControlledActions

/-!
# The approval workflow

`p19/services.py`: the approval queue kept in process memory. A request opens an approval at
`pending_review`; one reviewer approves it, which resolves it to `execution_blocked`, or rejects
it; its requester may cancel it, and a sweep marks the pending approvals that are past their
`expires_at`. The audit log is left out: no operation reads it.
-/

namespace Mpango

/-- `(value or "").strip()`. -/
def stripped (value : Option String) : String := strip (orEmpty value)

inductive Decision
  | approve
  | reject
  deriving DecidableEq

/-- The decision a request names; any other text is no decision. -/
def Decision.ofText? (value : Option String) : Option Decision :=
  match value with
  | some "approve" => some approve
  | some "reject" => some reject
  | _ => none

namespace Workflow

/-- The states the service assigns. -/
inductive ApprovalState
  | pendingReview
  | executionBlocked
  | rejected
  | expired
  | cancelled
  deriving DecidableEq

inductive ApprovalResult
  | recorded
  | approved
  | rejected
  | denied
  | duplicate
  | conflict
  | expired
  | cancelled
  | notFound
  deriving DecidableEq

structure StoredApproval where
  approvalId : String
  actionId : Option String
  tenantId : Option String
  actionType : String
  state : ApprovalState
  requestedBy : Option String
  requestedAt : Instant
  reviewedBy : Option String
  reviewedAt : Option Instant
  decision : Option Decision
  reason : String
  expiresAt : Instant
  idempotencyKey : String
  sourceStatus : SourceStatus
  previousState : Option ApprovalState
  correlationId : Option String
  createdAt : Instant
  updatedAt : Instant
  createKey : String
  createFingerprint : String
  decisionKey : Option String

instance : Keyed StoredApproval String where
  key := StoredApproval.approvalId

/-- `_STORE`. The dictionary of create keys is its column `createKey`. -/
abbrev Store := Table StoredApproval

structure ApprovalRequest where
  actionId : Option String
  tenantId : Option String
  actionType : Option String
  requestedBy : Option String
  reason : Option String
  idempotencyKey : Option String
  expiresAt : Option Instant
  confirm : Bool
  correlationId : Option String

structure DecisionRequest where
  approvalId : String
  decision : Option String
  reviewedBy : Option String
  reason : Option String
  idempotencyKey : Option String
  confirm : Bool

/-- The answer of an operation: its result, and the approval it shows. -/
structure Response where
  result : ApprovalResult
  record : Option StoredApproval

variable (env : Primitives)

def createFingerprint (actionType : String) (tenantId : Option String) (reason : String) : String :=
  env.sha256 (barJoin [actionType, orEmpty tenantId, reason])

/-! ## Opening an approval -/

/-- The checks of `create_approval` up to the idempotency store, in their order: the expiry, and
what the action reference resolves to. -/
def checkApproval (now : Instant) (ctx : ActionContext) (req : ApprovalRequest) :
    Except ApprovalResult (Instant × ActionType × SourceStatus) := do
  refuseIf (stripped req.reason = "") .denied
  refuseIf (stripped req.idempotencyKey = "") .denied
  refuseIf (stripped req.requestedBy = "") .denied
  refuseIf (req.confirm = false) .denied
  let exp ← orRefuse req.expiresAt .denied
  refuseIf (exp ≤ now) .denied
  let resolved ← orRefuse (ctx.resolve req.actionId req.actionType req.tenantId) .notFound
  return (exp, resolved)

/-- The approval `create_approval` records. -/
def newApproval (now : Instant) (newId : Uuid) (req : ApprovalRequest) (exp : Instant)
    (actionType : ActionType) (sourceStatus : SourceStatus) : StoredApproval where
  approvalId := newId.text
  actionId := req.actionId
  tenantId := req.tenantId
  actionType := env.redactReason actionType.text
  state := .pendingReview
  requestedBy := env.sanitizeText (some (stripped req.requestedBy))
  requestedAt := now
  reviewedBy := none
  reviewedAt := none
  decision := none
  reason := env.redactReason (stripped req.reason)
  expiresAt := exp
  idempotencyKey := env.redactReason (stripped req.idempotencyKey)
  sourceStatus := sourceStatus
  previousState := none
  correlationId := env.sanitizeText req.correlationId
  createdAt := now
  updatedAt := now
  createKey := env.digest (stripped req.idempotencyKey)
  createFingerprint := createFingerprint env actionType.text req.tenantId (stripped req.reason)
  decisionKey := none

def createApproval (now : Instant) (ctx : ActionContext) (newId : Uuid) (store : Store)
    (req : ApprovalRequest) : Store × Response :=
  match checkApproval now ctx req with
  | .error result => (store, ⟨result, none⟩)
  | .ok (exp, actionType, sourceStatus) =>
    let approval := newApproval env now newId req exp actionType sourceStatus
    match store.rows.find? fun x => x.createKey = approval.createKey with
    | some existing =>
      if existing.createFingerprint = approval.createFingerprint then
        (store, ⟨.duplicate, some existing⟩)
      else (store, ⟨.conflict, none⟩)
    | none => (store.put approval, ⟨.recorded, some approval⟩)

/-! ## Deciding -/

/-- The checks of `submit_decision` on the approval it found, in their order. An error is the
result of an answer that leaves the approval as it is. -/
def StoredApproval.check (approval : StoredApproval) (req : DecisionRequest) :
    Except ApprovalResult Decision := do
  let decision ← orRefuse (Decision.ofText? req.decision) .denied
  refuseIf (stripped req.reason = "") .denied
  refuseIf (stripped req.idempotencyKey = "") .denied
  refuseIf (stripped req.reviewedBy = "") .denied
  refuseIf (req.confirm = false) .denied
  refuseIf (approval.state = .expired) .expired
  refuseIf (approval.state = .cancelled) .denied
  refuseIf (approval.state ≠ .pendingReview ∧
    approval.decisionKey = some (env.digest (stripped req.idempotencyKey)) ∧
    approval.decision = some decision) .duplicate
  refuseIf (approval.state ≠ .pendingReview) .conflict
  refuseIf (decision = .approve ∧ approval.sourceStatus ≠ .available) .denied
  return decision

/-- The state a decision resolves a pending approval to. -/
def resolvedState : Decision → ApprovalState
  | .approve => .executionBlocked
  | .reject => .rejected

/-- The approval after a decision. -/
def StoredApproval.decided (approval : StoredApproval) (now : Instant) (req : DecisionRequest)
    (decision : Decision) : StoredApproval :=
  { approval with
    previousState := some approval.state
    state := resolvedState decision
    decision := some decision
    reviewedBy := env.sanitizeText (some (stripped req.reviewedBy))
    reviewedAt := some now
    decisionKey := some (env.digest (stripped req.idempotencyKey))
    updatedAt := now }

def submitDecision (now : Instant) (store : Store) (req : DecisionRequest) : Store × Response :=
  match store.find? req.approvalId with
  | none => (store, ⟨.notFound, none⟩)
  | some approval =>
    match approval.check env req with
    | .error result => (store, ⟨result, some approval⟩)
    | .ok decision =>
      let decided := approval.decided env now req decision
      (store.put decided, ⟨if decision = .approve then .approved else .rejected, some decided⟩)

/-! ## Cancelling and expiring -/

/-- An approval moved to another state at a moment. -/
def StoredApproval.moved (approval : StoredApproval) (state : ApprovalState) (now : Instant) :
    StoredApproval :=
  { approval with previousState := some approval.state, state, updatedAt := now }

def cancelApproval (now : Instant) (store : Store) (approvalId : String) : Store × Response :=
  match store.find? approvalId with
  | none => (store, ⟨.notFound, none⟩)
  | some approval =>
    if approval.state = .pendingReview then
      (store.put (approval.moved .cancelled now), ⟨.cancelled, some (approval.moved .cancelled now)⟩)
    else (store, ⟨.denied, some approval⟩)

/-- Whether a sweep at a moment marks an approval. -/
def StoredApproval.isDue (approval : StoredApproval) (now : Instant) : Bool :=
  approval.state = .pendingReview ∧ approval.expiresAt ≤ now

def sweepExpired (now : Instant) (store : Store) : Store :=
  store.updateWhere (·.isDue now) (·.moved .expired now) fun approval =>
    show key (approval.moved .expired now) = key approval from rfl

end Workflow

end Mpango
