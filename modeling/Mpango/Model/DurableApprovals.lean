import Mpango.Model.ApprovalWorkflow

/-!
# Durable approvals

`p20/services.py`: approvals under dual control. The maker opens an approval for a controlled
action; other identities, the checkers, approve or reject it. Enough approvals resolve it to
`approved_execution_blocked`, one rejection to `rejected`. This is the memory backend; the requests,
the vocabularies and the quorum are shared with the durable one.

The audit log is left out, and so is the metadata: no operation reads them. The messages are left
out: the result strings are modelled, and `Refusal` names the check a denial comes from.
-/

namespace Mpango

namespace Durable

/-! ## Vocabularies -/

/-- The lifecycle states of an approval; the services assign the first three. -/
inductive ApprovalState
  | pendingReview
  | approvedExecutionBlocked
  | rejected
  | expired
  | cancelled
  | superseded
  | failedValidation
  deriving DecidableEq

/-- The terminal states no service assigns. -/
def ApprovalState.isUnimplemented : ApprovalState → Bool
  | expired | cancelled | superseded | failedValidation => true
  | _ => false

/-- The result string of an answer. -/
inductive ApprovalResult
  | recorded
  | approved
  | rejected
  | denied
  | duplicate
  | conflict
  | notFound
  | quorumPending
  deriving DecidableEq

inductive ValidationStatus
  | valid
  | sourceUnknown
  deriving DecidableEq

inductive ActorRole
  | superAdmin
  | supportOperator
  | engineeringOperator
  | system
  | unknown
  deriving DecidableEq

inductive IdentityContext
  | identityOnly
  | tenantContextual
  | tenantScopedToken
  | tenantAdmin
  | system
  | unknown
  deriving DecidableEq

/-- The checks a request can fail. -/
inductive Refusal
  | actorRequired
  | identitySpoofed
  | reasonRequired
  | keyRequired
  | confirmationRequired
  | expiryRequired
  | expiryPassed
  | unresolvedAction
  | keyConflict
  | approvalNotFound
  | decisionRequired
  | terminalState
  | selfDecision
  | rejectFinal
  | quorumReached
  | checkerFlip
  | sourceUnavailable
  deriving DecidableEq

/-- The result string of a denial. -/
def Refusal.result : Refusal → ApprovalResult
  | unresolvedAction | approvalNotFound => .notFound
  | keyConflict | rejectFinal | quorumReached | checkerFlip => .conflict
  | _ => .denied

/-! ## Requests -/

/-- Who sends a request, as the route reads it from the token. -/
structure Sender where
  actor : Option String
  actorRole : ActorRole
  identityContext : IdentityContext

/-- `actor` where the code tests `if actor`. -/
def Sender.identity (sender : Sender) : Option String := sender.actor.filter (· ≠ "")

structure CreateRequest where
  actionId : Option String
  tenantId : Option String
  actionType : Option String
  maker : Option String
  reason : Option String
  idempotencyKey : Option String
  expiresAt : Option Instant
  durableRetainUntil : Option Instant
  confirm : Bool
  correlationId : Option String
  sender : Sender

structure DecisionRequest where
  approvalId : String
  decision : Option String
  approverId : Option String
  reason : Option String
  idempotencyKey : Option String
  confirm : Bool
  correlationId : Option String
  sender : Sender

variable (env : Primitives)

/-- The actor a maker or a checker is bound to. -/
def boundActor (sender : Sender) : Option String := env.sanitizeText sender.identity

/-- The quorum floor of an action class. -/
def quorumRequiredFor : ActionClassification → ℕ
  | .read => 1
  | .write | .writeRequest => 2

def validationStatusFor (sourceStatus : SourceStatus) : ValidationStatus :=
  if sourceStatus = .available then .valid else .sourceUnknown

/-- The identity checks both operations begin with: the bound actor. -/
def bindActor (sender : Sender) (claimed : Option String) : Except Refusal String := do
  let actor ← orRefuse ((boundActor env sender).filter (· ≠ "")) .actorRequired
  refuseIf (stripped claimed ≠ "" ∧ some (stripped claimed) ≠ sender.actor) .identitySpoofed
  return actor

/-- The checks on the fields of a request to open an approval: the maker and the expiry. -/
def checkCreate (now : Instant) (req : CreateRequest) : Except Refusal (String × Instant) := do
  let maker ← bindActor env req.sender req.maker
  refuseIf (stripped req.reason = "") .reasonRequired
  refuseIf (stripped req.idempotencyKey = "") .keyRequired
  refuseIf (req.confirm = false) .confirmationRequired
  let exp ← orRefuse req.expiresAt .expiryRequired
  refuseIf (exp ≤ now) .expiryPassed
  return (maker, exp)

/-- The checks on the fields of a decision: the checker and the decision. -/
def checkDecision (req : DecisionRequest) : Except Refusal (String × Decision) := do
  let checker ← bindActor env req.sender req.approverId
  let decision ← orRefuse (Decision.ofText? req.decision) .decisionRequired
  refuseIf (stripped req.reason = "") .reasonRequired
  refuseIf (stripped req.idempotencyKey = "") .keyRequired
  refuseIf (req.confirm = false) .confirmationRequired
  return (checker, decision)

/-- `_create_fingerprint`. The memory backend calls it with the raw reason, the durable one with the
redacted reason. -/
def createFingerprint (actionType : String) (tenantId : Option String) (maker reason : String) :
    String :=
  env.sha256 (barJoin [actionType, orEmpty tenantId, maker, reason])

/-! ## The policy -/

/-- What the policy reads of an approval. -/
structure Standing where
  state : ApprovalState
  maker : String
  validationStatus : ValidationStatus

/-- What a well-formed decision comes to: an answer that changes nothing, or a decision that is to
be recorded. -/
inductive Verdict
  | refused (refusal : Refusal)
  | duplicate
  | record
  deriving DecidableEq

/-- The dual-control policy, checks 5 to 9 of `submit_decision`: `own` is the decision this checker
already recorded on the approval. -/
def Standing.judge (standing : Standing) (own : Option Decision) (checker : String)
    (decision : Decision) : Verdict :=
  if standing.state.isUnimplemented then .refused .terminalState
  else if checker = standing.maker then .refused .selfDecision
  else if standing.state = .rejected then
    if own = some decision then .duplicate else .refused .rejectFinal
  else if standing.state = .approvedExecutionBlocked then
    if decision = .approve ∧ (own = none ∨ own = some .approve) then .duplicate
    else .refused .quorumReached
  else match own with
    | some recorded => if recorded = decision then .duplicate else .refused .checkerFlip
    | none =>
      if decision = .approve ∧ standing.validationStatus ≠ .valid then .refused .sourceUnavailable
      else .record

/-! ## The memory store -/

structure CheckerDecision where
  checkerId : String
  decidedAt : Instant
  decision : Decision
  reasonRedacted : String
  decisionDigest : String
  deriving DecidableEq

structure StoredApproval where
  approvalId : String
  actionId : Option String
  tenantId : Option String
  actionType : String
  actionClass : ActionClassification
  state : ApprovalState
  maker : String
  makerAt : Instant
  checkers : List CheckerDecision
  quorumRequired : ℕ
  quorumMet : Bool
  decision : Option Decision
  reason : String
  requestDigest : String
  idempotencyKeyDigest : String
  expiresAt : Instant
  durableRetainUntil : Instant
  validationStatus : ValidationStatus
  sourceStatus : SourceStatus
  previousState : Option ApprovalState
  correlationId : Option String
  createdAt : Instant
  updatedAt : Instant
  createKey : String
  createFingerprint : String

instance : Keyed StoredApproval String where
  key := StoredApproval.approvalId

/-- `_STORE`. The dictionary of create keys is its column `createKey`. -/
abbrev MemoryStore := Table StoredApproval

/-- The answer of an operation: its result, and the approval it shows. -/
structure MemoryResponse where
  result : ApprovalResult
  record : Option StoredApproval

/-! ### Opening an approval -/

/-- The approval `_memory_create_durable_approval` records. -/
def newStoredApproval (now : Instant) (newId : Uuid) (req : CreateRequest) (maker : String)
    (exp : Instant) (actionType : ActionType) (sourceStatus : SourceStatus) : StoredApproval where
  approvalId := newId.text
  actionId := req.actionId
  tenantId := req.tenantId
  actionType := env.redactReason actionType.text
  actionClass := actionType.classification
  state := .pendingReview
  maker := maker
  makerAt := now
  checkers := []
  quorumRequired := quorumRequiredFor actionType.classification
  quorumMet := false
  decision := none
  reason := env.redactReason (stripped req.reason)
  requestDigest := env.requestDigest req.actionId actionType.text req.tenantId maker
  idempotencyKeyDigest := env.digest (stripped req.idempotencyKey)
  expiresAt := exp
  durableRetainUntil := req.durableRetainUntil.getD exp
  validationStatus := validationStatusFor sourceStatus
  sourceStatus := sourceStatus
  previousState := none
  correlationId := env.sanitizeText req.correlationId
  createdAt := now
  updatedAt := now
  createKey := env.digest (stripped req.idempotencyKey)
  createFingerprint := createFingerprint env actionType.text req.tenantId maker (stripped req.reason)

/-- `_memory_create_durable_approval`. -/
def memoryCreate (now : Instant) (ctx : ActionContext) (newId : Uuid) (store : MemoryStore)
    (req : CreateRequest) : MemoryStore × MemoryResponse :=
  match checkCreate env now req with
  | .error refusal => (store, ⟨refusal.result, none⟩)
  | .ok (maker, exp) =>
    match ctx.resolve req.actionId req.actionType req.tenantId with
    | none => (store, ⟨Refusal.unresolvedAction.result, none⟩)
    | some (actionType, sourceStatus) =>
      let approval := newStoredApproval env now newId req maker exp actionType sourceStatus
      match store.rows.find? fun x => x.createKey = approval.createKey with
      | some existing =>
        if existing.createFingerprint = approval.createFingerprint then
          (store, ⟨.duplicate, some existing⟩)
        else (store, ⟨Refusal.keyConflict.result, none⟩)
      | none => (store.put approval, ⟨.recorded, some approval⟩)

/-! ### Deciding -/

namespace StoredApproval

def standing (approval : StoredApproval) : Standing :=
  ⟨approval.state, approval.maker, approval.validationStatus⟩

/-- The decision a checker recorded. -/
def ownDecision (approval : StoredApproval) (checker : String) : Option Decision :=
  (approval.checkers.find? fun c => c.checkerId = checker).map (·.decision)

def approveCount (approval : StoredApproval) : ℕ :=
  approval.checkers.countP fun c => c.decision = .approve

/-- The approval with one more checker decision. -/
def withChecker (approval : StoredApproval) (now : Instant) (req : DecisionRequest)
    (checker : String) (decision : Decision) : StoredApproval :=
  { approval with
    checkers := approval.checkers ++
      [⟨checker, now, decision, env.redactReason (stripped req.reason),
        env.digest (stripped req.idempotencyKey)⟩]
    updatedAt := now }

/-- The effect of a decision that is to be recorded, with the result of the answer. -/
def recordDecision (approval : StoredApproval) (now : Instant) (req : DecisionRequest)
    (checker : String) (decision : Decision) : StoredApproval × ApprovalResult :=
  let next := approval.withChecker env now req checker decision
  match decision with
  | .reject =>
    ({ next with
        previousState := some approval.state
        state := .rejected
        decision := some .reject }, .rejected)
  | .approve =>
    if approval.quorumRequired ≤ next.approveCount then
      ({ next with
          previousState := some approval.state
          state := .approvedExecutionBlocked
          decision := some .approve
          quorumMet := true }, .approved)
    else (next, .quorumPending)

end StoredApproval

/-- `_memory_submit_decision`. -/
def memorySubmitDecision (now : Instant) (store : MemoryStore) (req : DecisionRequest) :
    MemoryStore × MemoryResponse :=
  match store.find? req.approvalId with
  | none => (store, ⟨Refusal.approvalNotFound.result, none⟩)
  | some approval =>
    match checkDecision env req with
    | .error refusal => (store, ⟨refusal.result, some approval⟩)
    | .ok (checker, decision) =>
      match approval.standing.judge (approval.ownDecision checker) checker decision with
      | .refused refusal => (store, ⟨refusal.result, some approval⟩)
      | .duplicate => (store, ⟨.duplicate, some approval⟩)
      | .record =>
        let (next, result) := approval.recordDecision env now req checker decision
        (store.put next, ⟨result, some next⟩)

end Durable

end Mpango
