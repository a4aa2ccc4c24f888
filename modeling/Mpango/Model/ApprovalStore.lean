import Mpango.Model.DurableApprovals

/-!
# The approval store

`p21/adapter.py` over the tables of migration 029: the durable backend of the approvals, and the
storage gate of `p20/services.py` in front of it.

A call of the adapter reads, decides on a `Plan`, and then runs the plan's script: the statements
of its one transaction, in their order. An audit event takes its sequence number by a statement of
its own. `Write` lists what a statement can write, and `ApprovalDb.write` is what the database makes
of it: the unique indexes, the compare-and-set on `store_version` and the column types. Columns that
no operation reads are left out: the identifiers of the audit events, and what an event repeats of
its approval.
-/

namespace Mpango

namespace Durable

/-! ## The tables -/

/-- Whether a text fits a column of `n` characters; PostgreSQL stores no NUL. -/
def fits (n : ℕ) (s : String) : Bool := s.length ≤ n && s.toList.all (· ≠ '\x00')

/-- A row of `durable_approval_requests`. -/
structure DurableApprovalRequest where
  approvalId : Uuid
  actionId : Uuid
  tenantId : Option Uuid
  actionType : String
  actionClass : ActionClassification
  state : ApprovalState
  makerActorId : String
  makerAt : Instant
  quorumRequired : ℕ
  quorumMet : Bool
  decision : Option Decision
  reasonRedacted : String
  requestDigest : String
  idempotencyKeyDigest : String
  sourceStatus : SourceStatus
  validationStatus : ValidationStatus
  expiresAt : Instant
  durableRetainUntil : Instant
  previousState : Option ApprovalState
  correlationId : Option String
  storeVersion : ℕ
  createdAt : Instant
  updatedAt : Instant

instance : Keyed DurableApprovalRequest Uuid where
  key := DurableApprovalRequest.approvalId

/-- A row of `durable_approval_decisions`. -/
structure DurableApprovalDecision where
  approvalId : Uuid
  checkerActorId : String
  decision : Decision
  reasonRedacted : String
  idempotencyKeyDigest : String
  decisionDigest : String
  confirm : Bool
  correlationId : Option String
  createdAt : Instant
  deriving DecidableEq

inductive ScopeKey
  | open
  | decide
  deriving DecidableEq

/-- A row of `durable_approval_idempotency_keys`. -/
structure IdempotencyKey where
  scopeKey : ScopeKey
  scopeId : String
  idempotencyKeyDigest : String
  payloadDigest : String
  resultRef : Uuid
  deriving DecidableEq

inductive EventType
  | approvalOpened
  | approvalDecisionRecorded
  | approvalQuorumMet
  | approvalRejected
  | approvalRead
  | approvalDenied
  deriving DecidableEq

/-- An audit event before it has its sequence number. -/
structure AuditDraft where
  approvalId : Option Uuid
  eventType : EventType
  actorId : String
  actorRole : ActorRole
  reasonRedacted : String
  correlationId : Option String
  deriving DecidableEq

/-- A row of `durable_approval_audit_events`. -/
structure AuditEvent extends AuditDraft where
  sequenceNo : ℕ
  deriving DecidableEq

/-- The tables, each in the order of its commits. -/
structure ApprovalDb where
  requests : Table DurableApprovalRequest
  decisions : List DurableApprovalDecision
  idempotencyKeys : List IdempotencyKey
  auditEvents : List AuditEvent

def ApprovalDb.empty : ApprovalDb := ⟨Table.empty, [], [], []⟩

/-! ## The unique indexes -/

/-- The states the two partial indexes on the requests cover. -/
def ApprovalState.isActive : ApprovalState → Bool
  | pendingReview | approvedExecutionBlocked => true
  | _ => false

/-- `uq_requests_active_digest` and `uq_requests_open_action_maker`, on two rows they both cover. -/
def DurableApprovalRequest.sameTarget (r r' : DurableApprovalRequest) : Bool :=
  r.requestDigest = r'.requestDigest ||
    (r.actionId = r'.actionId && r.makerActorId = r'.makerActorId)

/-- Two rows that cannot stand beside each other. -/
def DurableApprovalRequest.clashes (r r' : DurableApprovalRequest) : Bool :=
  r.approvalId ≠ r'.approvalId && r.state.isActive && r'.state.isActive && r.sameTarget r'

theorem DurableApprovalRequest.sameTarget_comm (r r' : DurableApprovalRequest) :
    r.sameTarget r' = r'.sameTarget r := by
  unfold sameTarget
  rw [Bool.eq_iff_iff]
  simp only [Bool.or_eq_true, Bool.and_eq_true, decide_eq_true_eq]
  rw [eq_comm, eq_comm (a := r.actionId), eq_comm (a := r.makerActorId)]

theorem DurableApprovalRequest.clashes_comm (r r' : DurableApprovalRequest) :
    r.clashes r' = r'.clashes r := by
  unfold clashes
  rw [sameTarget_comm, Bool.eq_iff_iff]
  simp only [Bool.and_eq_true, decide_eq_true_eq]
  rw [ne_comm]
  tauto

/-- `uq_decisions_approval_checker` and `uq_decisions_approval_idem`. -/
def DurableApprovalDecision.clashes (d d' : DurableApprovalDecision) : Bool :=
  d.approvalId = d'.approvalId && (d.checkerActorId = d'.checkerActorId ||
    d.idempotencyKeyDigest = d'.idempotencyKeyDigest)

/-- `uq_idem_scope`. -/
def IdempotencyKey.clashes (k k' : IdempotencyKey) : Bool :=
  k.scopeKey = k'.scopeKey && k.scopeId = k'.scopeId &&
    k.idempotencyKeyDigest = k'.idempotencyKeyDigest

/-- `uq_audit_approval_seq`: rows without an approval never clash. -/
def AuditEvent.clashes (e e' : AuditEvent) : Bool :=
  e.approvalId.isSome && e.approvalId = e'.approvalId && e.sequenceNo = e'.sequenceNo

/-! ## Writing -/

inductive Write
  | audit (event : AuditEvent)
  | request (row : DurableApprovalRequest)
  | decision (row : DurableApprovalDecision)
  | key (row : IdempotencyKey)
  | update (storeVersion : ℕ) (row : DurableApprovalRequest)

inductive StoreFailure
  | integrityError
  | dataError
  | staleWrite
  deriving DecidableEq

/-- Whether the columns can hold what is written. The role enumeration of the database has no
`unknown`. -/
def Write.isStorable : Write → Bool
  | audit e => e.actorRole ≠ .unknown && fits 255 e.actorId && e.reasonRedacted.toList.all (· ≠ '\x00')
      && e.correlationId.all (fits 255)
  | request r => fits 255 r.makerActorId && fits 255 r.actionType &&
      r.reasonRedacted.toList.all (· ≠ '\x00') && r.correlationId.all (fits 255)
  | decision d => fits 255 d.checkerActorId && d.reasonRedacted.toList.all (· ≠ '\x00') &&
      d.correlationId.all (fits 255)
  | key _ => true
  | update _ _ => true

namespace ApprovalDb

/-- Whether the unique indexes admit a write. -/
def isUnique (db : ApprovalDb) : Write → Bool
  | .audit e => db.auditEvents.all fun x => !e.clashes x
  | .request r => db.requests.rows.all fun x => x.approvalId ≠ r.approvalId && !r.clashes x
  | .decision d => db.decisions.all fun x => !d.clashes x
  | .key k => db.idempotencyKeys.all fun x => !k.clashes x
  | .update _ r => db.requests.rows.all fun x => !r.clashes x

/-- Whether the `WHERE` of an update finds its row. -/
def isCurrent (db : ApprovalDb) : Write → Bool
  | .update version r => (db.requests.find? r.approvalId).any (·.storeVersion = version)
  | _ => true

def apply (db : ApprovalDb) : Write → ApprovalDb
  | .audit e => { db with auditEvents := db.auditEvents ++ [e] }
  | .request r => { db with requests := db.requests.put r }
  | .decision d => { db with decisions := db.decisions ++ [d] }
  | .key k => { db with idempotencyKeys := db.idempotencyKeys ++ [k] }
  | .update _ r => { db with requests := db.requests.set r }

/-- What the database makes of a write. -/
def write (db : ApprovalDb) (w : Write) : Except StoreFailure ApprovalDb := do
  refuseIf (w.isStorable = false) .dataError
  refuseIf (db.isUnique w = false) .integrityError
  refuseIf (db.isCurrent w = false) .staleWrite
  return db.apply w

/-- `_next_sequence_no`. -/
def nextSequenceNo (db : ApprovalDb) (approvalId : Option Uuid) : ℕ :=
  ((db.auditEvents.filter (·.approvalId = approvalId)).map (·.sequenceNo)).foldr max 0 + 1

/-- `_fetch_decisions`. -/
def decisionsOf (db : ApprovalDb) (approvalId : Uuid) : List DurableApprovalDecision :=
  db.decisions.filter (·.approvalId = approvalId)

/-- `_find_idempotency_row` of a create. -/
def findOpenKey (db : ApprovalDb) (digest : String) : Option IdempotencyKey :=
  db.idempotencyKeys.find? fun k =>
    k.scopeKey = .open ∧ k.scopeId = "open" ∧ k.idempotencyKeyDigest = digest

end ApprovalDb

/-! ## Statements -/

/-- A statement of a call's transaction: an audit event, which takes the next sequence number first,
or another write. -/
inductive Statement
  | audit (draft : AuditDraft)
  | write (w : Write)

/-- The write of an audit event with the number it took. -/
def AuditDraft.numbered (draft : AuditDraft) (sequenceNo : ℕ) : Write :=
  .audit { toAuditDraft := draft, sequenceNo }

/-- A statement by itself. -/
def Statement.run (db : ApprovalDb) : Statement → Except StoreFailure ApprovalDb
  | audit draft => db.write (draft.numbered (db.nextSequenceNo draft.approvalId))
  | write w => db.write w

/-- The statements of a transaction with none of another in between. -/
def runScript (db : ApprovalDb) (script : List Statement) : Except StoreFailure ApprovalDb :=
  script.foldlM Statement.run db

variable (env : Primitives)

/-- `_emit_audit`, up to the number. -/
def draftAudit (sender : Sender) (approvalId : Option Uuid) (eventType : EventType)
    (reason : String) (correlationId : Option String) : AuditDraft where
  approvalId := approvalId
  eventType := eventType
  actorId := orEmpty sender.actor
  actorRole := sender.actorRole
  reasonRedacted := env.redactReason reason
  correlationId := correlationId

/-! ## Opening an approval -/

/-- The request row of `create_request`. -/
def newRequestRow (now : Instant) (newId actionId : Uuid) (tenantId : Option Uuid)
    (req : CreateRequest) (maker : String) (exp : Instant) (actionType : ActionType)
    (sourceStatus : SourceStatus) : DurableApprovalRequest where
  approvalId := newId
  actionId := actionId
  tenantId := tenantId
  actionType := env.redactReason actionType.text
  actionClass := actionType.classification
  state := .pendingReview
  makerActorId := maker
  makerAt := now
  quorumRequired := quorumRequiredFor actionType.classification
  quorumMet := false
  decision := none
  reasonRedacted := env.redactReason (stripped req.reason)
  requestDigest :=
    env.requestDigest req.actionId (env.redactReason actionType.text) req.tenantId maker
  idempotencyKeyDigest := env.digest (stripped req.idempotencyKey)
  sourceStatus := sourceStatus
  validationStatus := validationStatusFor sourceStatus
  expiresAt := exp
  durableRetainUntil := req.durableRetainUntil.getD exp
  previousState := none
  correlationId := env.sanitizeText req.correlationId
  storeVersion := 1
  createdAt := now
  updatedAt := now

/-- The payload digest of `create_request`, which redacts before it hashes. -/
def payloadDigest (req : CreateRequest) (maker : String) (actionType : ActionType) : String :=
  createFingerprint env (env.redactReason actionType.text) req.tenantId maker
    (env.redactReason (stripped req.reason))

/-- What a call of the adapter comes to, from what it read. -/
inductive Plan
  | denied (refusal : Refusal) (audit : AuditDraft)
  | replay (row : DurableApprovalRequest) (audit : Option AuditDraft)
  | missing
  | opened (row : DurableApprovalRequest) (key : IdempotencyKey) (audit : AuditDraft)
  | pending (row : DurableApprovalDecision) (key : IdempotencyKey) (audit : AuditDraft)
  | resolved (row : DurableApprovalDecision) (key : IdempotencyKey) (storeVersion : ℕ)
      (next : DurableApprovalRequest) (audit outcome : AuditDraft)

/-- The statements of a plan. The session does not flush by itself: the decision and its key go out
with the second audit event, which takes its number before, or with the commit. -/
def Plan.script : Plan → List Statement
  | denied _ audit => [.audit audit]
  | replay _ audit => audit.toList.map .audit
  | missing => []
  | opened row key audit => [.audit audit, .write (.request row), .write (.key key)]
  | pending row key audit => [.audit audit, .write (.decision row), .write (.key key)]
  | resolved row key storeVersion next audit outcome =>
    [.audit audit, .audit outcome, .write (.decision row), .write (.key key),
      .write (.update storeVersion next)]

/-- `create_request`, from the idempotency row and the request it finds. -/
def openPlan (now : Instant) (newId actionId : Uuid) (tenantId : Option Uuid) (db : ApprovalDb)
    (req : CreateRequest) (actionType : ActionType) (sourceStatus : SourceStatus) : Plan :=
  let denied (refusal : Refusal) : Plan :=
    .denied refusal (draftAudit env req.sender none .approvalDenied
      (env.redactReason (stripped req.reason)) (env.sanitizeText req.correlationId))
  match checkCreate env now req with
  | .error refusal => denied refusal
  | .ok (maker, exp) =>
    match db.findOpenKey (env.digest (stripped req.idempotencyKey)) with
    | some existing =>
      if existing.payloadDigest = payloadDigest env req maker actionType then
        match db.requests.find? existing.resultRef with
        | some row => .replay row (some (draftAudit env req.sender (some row.approvalId)
            .approvalOpened row.reasonRedacted row.correlationId))
        | none => .missing
      else denied .keyConflict
    | none =>
      .opened (newRequestRow env now newId actionId tenantId req maker exp actionType sourceStatus)
        { scopeKey := .open
          scopeId := "open"
          idempotencyKeyDigest := env.digest (stripped req.idempotencyKey)
          payloadDigest := payloadDigest env req maker actionType
          resultRef := newId }
        (draftAudit env req.sender (some newId) .approvalOpened
          (env.redactReason (stripped req.reason)) (env.sanitizeText req.correlationId))

/-! ## Deciding -/

namespace DurableApprovalRequest

def standing (row : DurableApprovalRequest) : Standing :=
  ⟨row.state, row.makerActorId, row.validationStatus⟩

/-- The row `_optimistic_update` writes. -/
def advanced (row : DurableApprovalRequest) (now : Instant) (state : ApprovalState)
    (decision : Decision) (quorumMet : Bool) : DurableApprovalRequest :=
  { row with
    state
    decision := some decision
    quorumMet
    previousState := some row.state
    storeVersion := row.storeVersion + 1
    updatedAt := now }

end DurableApprovalRequest

/-- The decision a checker recorded, among decisions that were read. -/
def ownDecision (decisions : List DurableApprovalDecision) (checker : String) : Option Decision :=
  (decisions.find? fun d => d.checkerActorId = checker).map (·.decision)

def approveCount (decisions : List DurableApprovalDecision) : ℕ :=
  decisions.countP fun d => d.decision = .approve

/-- `_decision_digest`. -/
def decisionDigest (approvalId checker : String) (decision : Decision) (reason : String) : String :=
  env.sha256 (barJoin [approvalId, checker,
    match decision with
    | .approve => "approve"
    | .reject => "reject", reason])

/-- The decision row of `submit_decision`. -/
def newDecisionRow (now : Instant) (row : DurableApprovalRequest) (req : DecisionRequest)
    (checker : String) (decision : Decision) : DurableApprovalDecision where
  approvalId := row.approvalId
  checkerActorId := checker
  decision := decision
  reasonRedacted := env.redactReason (stripped req.reason)
  idempotencyKeyDigest := env.digest (stripped req.idempotencyKey)
  decisionDigest :=
    decisionDigest env req.approvalId checker decision (env.redactReason (stripped req.reason))
  confirm := req.confirm
  correlationId := env.sanitizeText req.correlationId
  createdAt := now

/-- The idempotency row of `submit_decision`. -/
def newDecideKey (row : DurableApprovalRequest) (req : DecisionRequest) (checker : String)
    (decision : Decision) : IdempotencyKey where
  scopeKey := .decide
  scopeId := row.approvalId.text
  idempotencyKeyDigest := env.digest (stripped req.idempotencyKey)
  payloadDigest :=
    decisionDigest env req.approvalId checker decision (env.redactReason (stripped req.reason))
  resultRef := row.approvalId

/-- `submit_decision`, from the request row and the decisions it read. -/
def decidePlan (now : Instant) (row? : Option DurableApprovalRequest)
    (decisions : List DurableApprovalDecision) (req : DecisionRequest) : Plan :=
  let audit (eventType : EventType) : AuditDraft :=
    draftAudit env req.sender (row?.map (·.approvalId)) eventType
      (env.redactReason (stripped req.reason)) (env.sanitizeText req.correlationId)
  match row? with
  | none => .denied .approvalNotFound (audit .approvalDenied)
  | some row =>
    match checkDecision env req with
    | .error refusal => .denied refusal (audit .approvalDenied)
    | .ok (checker, decision) =>
      match row.standing.judge (ownDecision decisions checker) checker decision with
      | .refused refusal => .denied refusal (audit .approvalDenied)
      | .duplicate =>
        .replay row (if row.state = .rejected then some (audit .approvalRejected) else none)
      | .record =>
        let decided := newDecisionRow env now row req checker decision
        let key := newDecideKey env row req checker decision
        match decision with
        | .reject =>
          .resolved decided key row.storeVersion (row.advanced now .rejected .reject false)
            (audit .approvalDecisionRecorded) (audit .approvalRejected)
        | .approve =>
          if row.quorumRequired ≤ 1 + approveCount decisions then
            .resolved decided key row.storeVersion
              (row.advanced now .approvedExecutionBlocked .approve true)
              (audit .approvalDecisionRecorded) (audit .approvalQuorumMet)
          else .pending decided key (audit .approvalDecisionRecorded)

/-! ## The storage gate -/

/-- The answer of the gate: a result with the request row it shows, or a store that is not ready. -/
inductive DurableResponse
  | answer (result : ApprovalResult) (record : Option DurableApprovalRequest)
  | notReady

/-- The answer of a plan whose transaction committed. -/
def Plan.answer (db : ApprovalDb) : Plan → DurableResponse
  | denied refusal _ => .answer refusal.result none
  | replay row _ => .answer .duplicate (some row)
  | missing => .notReady
  | opened row _ _ => .answer .recorded (some row)
  | pending row _ _ => .answer .quorumPending (db.requests.find? row.approvalId)
  | resolved row _ _ _ _ _ =>
    .answer (if row.decision = .approve then .approved else .rejected)
      (db.requests.find? row.approvalId)

/-- The answer of a plan whose transaction failed. A collision is a conflict where the adapter
expects one: at the commit of a create, and after the first audit event of an approve. -/
def Plan.failure : Plan → StoreFailure → DurableResponse
  | opened _ _ _, .integrityError => .answer .conflict none
  | pending _ _ _, .integrityError => .answer .conflict none
  | resolved row _ _ _ _ _, .integrityError =>
    if row.decision = .approve then .answer .conflict none else .notReady
  | _, _ => .notReady

/-- Run a plan as one transaction. -/
def Plan.run (plan : Plan) (db : ApprovalDb) : ApprovalDb × DurableResponse :=
  match runScript db plan.script with
  | .ok db' => (db', plan.answer db')
  | .error failure => (db, plan.failure failure)

/-- `_to_uuid`, on an optional text. -/
def toUuid? (value : Option String) : Option (Option Uuid) :=
  match value with
  | none => some none
  | some s => (Uuid.parse s).map some

/-- `create_durable_approval` in durable mode, with the store ready. A tenant or an action that is
no identifier stops the adapter before it writes. -/
def durableCreate (now : Instant) (ctx : ActionContext) (newId newActionId : Uuid)
    (db : ApprovalDb) (req : CreateRequest) : ApprovalDb × DurableResponse :=
  match ctx.resolve req.actionId req.actionType req.tenantId with
  | none => (db, .answer Refusal.unresolvedAction.result none)
  | some (actionType, sourceStatus) =>
    match toUuid? req.tenantId, toUuid? req.actionId with
    | some tenantId, some actionId =>
      (openPlan env now newId (actionId.getD newActionId) tenantId db req actionType
        sourceStatus).run db
    | _, _ => (db, .notReady)

/-- `submit_decision` in durable mode, with the store ready. -/
def durableSubmitDecision (now : Instant) (db : ApprovalDb) (req : DecisionRequest) :
    ApprovalDb × DurableResponse :=
  match Uuid.parse req.approvalId with
  | none => (db, .answer Refusal.approvalNotFound.result none)
  | some id => (decidePlan env now (db.requests.find? id) (db.decisionsOf id) req).run db

/-- `get_request`: the row, and the audit event of the read. A read whose audit event fails is no
read. -/
def getRequest (db : ApprovalDb) (approvalId : String) :
    ApprovalDb × Option DurableApprovalRequest :=
  match (Uuid.parse approvalId).bind db.requests.find? with
  | none => (db, none)
  | some row =>
    match (Statement.audit (draftAudit env ⟨some row.makerActorId, .system, .system⟩
      (some row.approvalId) .approvalRead row.reasonRedacted row.correlationId)).run db with
    | .ok db' => (db', some row)
    | .error _ => (db, none)

end Durable

end Mpango
