import Mpango.Model.ApprovalWorkflow

/-!
# Action requests

`evaluate_request` of `p18/services.py` and the requests it records: the checks, and the store that
is asked, under the idempotency key, whether the request was recorded before. An action is never
executed.

The messages are left out: `Denial` names the check a denial comes from. The metadata is left out:
it is redacted and echoed, and no check reads it.
-/

namespace Mpango

namespace ActionType

/-- `confirmation_required`. -/
def confirmationRequired : ActionType → Bool
  | provisioningRecheck | backupCheck => false
  | _ => true

/-- `degraded_allowed`. -/
def degradedAllowed : ActionType → Bool
  | provisioningRecheck | backupCheck => true
  | _ => false

end ActionType

namespace Actions

structure ActionRequest where
  actionType : String
  tenantId : Option String
  reason : Option String
  idempotencyKey : Option String
  requestedState : Option String
  confirm : Bool
  correlationId : Option String

inductive Denial
  | reasonRequired
  | keyRequired
  | unsupportedActionType
  | confirmationRequired
  | unreadableSource
  | degradedNotPermitted
  deriving DecidableEq

inductive ActionResult
  | accepted
  | denied (denial : Denial)
  | degraded
  | duplicate
  | conflict
  deriving DecidableEq

/-- `_StoredRequest`, with the key it is stored under. -/
structure ActionRecord where
  key : String
  actionId : Uuid
  actionType : ActionType
  tenantId : Option String
  reason : String
  idempotencyKey : String
  requestedState : Option String
  sourceStatus : SourceStatus
  createdAt : Instant
  fingerprint : String
  correlationId : Option String
  deriving DecidableEq

/-- `_STORE`: a key that is there is never written again. -/
abbrev ActionStore := List ActionRecord

def ActionStore.get (store : ActionStore) (key : String) : Option ActionRecord :=
  store.find? fun r => r.key = key

/-- What the approval services see of the recorded requests. -/
def ActionStore.context (store : ActionStore) (registry : String → Option TenantRegistry) :
    ActionContext :=
  ⟨store.map fun r => ⟨r.actionId, r.actionType, r.sourceStatus⟩, registry⟩

structure ActionResponse where
  result : ActionResult
  actionId : Option Uuid
  actionType : String
  reason : String
  idempotencyKey : String
  requestedState : Option String
  sourceStatus : SourceStatus
  dryRun : Bool
  correlationId : Option String
  createdAt : Instant

variable (env : Primitives)

/-- `_fingerprint`. -/
def fingerprint (actionType : String) (tenantId requestedState : Option String) (reason : String) :
    String :=
  env.sha256 (barJoin [actionType, orEmpty tenantId, orEmpty requestedState, reason])

/-- `_sanitize_action_type`. -/
def sanitizeActionType (actionType : String) : String :=
  if (ActionType.ofText? actionType).isSome then actionType else env.redactReason actionType

namespace ActionRequest

variable (req : ActionRequest)

def rawReason : String := stripped req.reason

def rawKey : String := stripped req.idempotencyKey

/-- A response that echoes the request. -/
def respond (now : Instant) (persist : Bool) (result : ActionResult) (sourceStatus : SourceStatus) :
    ActionResponse where
  result
  actionId := none
  actionType := sanitizeActionType env req.actionType
  reason := env.redactReason req.rawReason
  idempotencyKey := env.redactReason req.rawKey
  requestedState := env.sanitizeText req.requestedState
  sourceStatus
  dryRun := !persist
  correlationId := env.sanitizeText req.correlationId
  createdAt := now

/-- Checks 1 to 4: the action of the catalog. -/
def checkFields : Except Denial ActionType := do
  refuseIf (req.rawReason = "") .reasonRequired
  refuseIf (req.rawKey = "") .keyRequired
  let item ← orRefuse (ActionType.ofText? req.actionType) .unsupportedActionType
  refuseIf (item.confirmationRequired ∧ req.confirm = false) .confirmationRequired
  return item

/-- Check 6: what a source that is not available makes of the request. -/
def unavailableResult (item : ActionType) : ActionResult :=
  if item.classification ≠ .read then .denied .unreadableSource
  else if item.degradedAllowed then .degraded
  else .denied .degradedNotPermitted

/-- The record of an accepted request. -/
def recorded (now : Instant) (newId : Uuid) (item : ActionType) : ActionRecord where
  key := req.rawKey
  actionId := newId
  actionType := item
  tenantId := req.tenantId
  reason := env.redactReason req.rawReason
  idempotencyKey := env.redactReason req.rawKey
  requestedState := env.sanitizeText req.requestedState
  sourceStatus := .available
  createdAt := now
  fingerprint := fingerprint env req.actionType req.tenantId req.requestedState req.rawReason
  correlationId := env.sanitizeText req.correlationId

end ActionRequest

/-- The answer to a request that was recorded before. -/
def ActionRecord.duplicate (record : ActionRecord) (req : ActionRequest) : ActionResponse where
  result := .duplicate
  actionId := some record.actionId
  actionType := record.actionType.text
  reason := record.reason
  idempotencyKey := env.redactReason req.rawKey
  requestedState := record.requestedState
  sourceStatus := record.sourceStatus
  dryRun := false
  correlationId := record.correlationId
  createdAt := record.createdAt

/-- `evaluate_request`. -/
def evaluateRequest (now : Instant) (newId : Uuid) (registry : String → Option TenantRegistry)
    (persist : Bool) (store : ActionStore) (req : ActionRequest) : ActionStore × ActionResponse :=
  match req.checkFields with
  | .error denial => (store, req.respond env now persist (.denied denial) .unknown)
  | .ok item =>
    let sourceStatus := (store.context registry).resolveActionSourceStatus item req.tenantId
    if sourceStatus ≠ .available then
      (store, req.respond env now persist (ActionRequest.unavailableResult item) sourceStatus)
    else if persist = false then (store, req.respond env now false .accepted sourceStatus)
    else match store.get req.rawKey with
      | some existing =>
        if existing.fingerprint =
            fingerprint env req.actionType req.tenantId req.requestedState req.rawReason then
          (store, existing.duplicate env req)
        else (store, req.respond env now true .conflict sourceStatus)
      | none =>
        (store ++ [req.recorded env now newId item],
          { req.respond env now true .accepted sourceStatus with actionId := some newId })

/-- A call of the module, by an operator the module is not told. -/
structure Submission where
  now : Instant
  newId : Uuid
  registry : String → Option TenantRegistry
  actor : Option String
  persist : Bool
  request : ActionRequest

/-- The store and the answer of a submission. -/
def submit (store : ActionStore) (c : Submission) : ActionStore × ActionResponse :=
  evaluateRequest env c.now c.newId c.registry c.persist store c.request

end Actions

end Mpango
