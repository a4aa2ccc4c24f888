import Mpango.Library.Substitution
import Mpango.Library.Table
import Mpango.Model.ControlledActions

/-!
# Operator tasks

`p23`: source events become tasks of a queue, one active task for each logical follow-up, with a
severity that rises within a correlation. Operators move the tasks through their states; every
attempt leaves an audit event, and notifications are recorded, once for each task and channel.

The store is one process's memory. The ids of audit events are left out: no operation reads them.
-/

namespace Mpango

namespace Operator

/-! ## Vocabularies -/

inductive TaskType
  | actionRequestCreated
  | approvalPending
  | approvalDecisionRequired
  | executionReady
  | executionCompleted
  | executionFailed
  | sourceUnknown
  | backupCheckWarning
  | incidentFollowupRequired
  | runbookStepRequired
  deriving DecidableEq

def TaskType.text : TaskType → String
  | actionRequestCreated => "action_request_created"
  | approvalPending => "approval_pending"
  | approvalDecisionRequired => "approval_decision_required"
  | executionReady => "execution_ready"
  | executionCompleted => "execution_completed"
  | executionFailed => "execution_failed"
  | sourceUnknown => "source_unknown"
  | backupCheckWarning => "backup_check_warning"
  | incidentFollowupRequired => "incident_followup_required"
  | runbookStepRequired => "runbook_step_required"

inductive TaskState
  | open
  | acknowledged
  | inProgress
  | waitingOnApproval
  | waitingOnSource
  | completed
  | dismissed
  | expired
  | failed
  deriving DecidableEq

namespace TaskState

def text : TaskState → String
  | .open => "open"
  | acknowledged => "acknowledged"
  | inProgress => "in_progress"
  | waitingOnApproval => "waiting_on_approval"
  | waitingOnSource => "waiting_on_source"
  | completed => "completed"
  | dismissed => "dismissed"
  | expired => "expired"
  | failed => "failed"

/-- `TERMINAL_STATES`. -/
def isTerminal : TaskState → Bool
  | completed | dismissed | expired | failed => true
  | _ => false

/-- `ALLOWED_TRANSITIONS`. -/
def allowed : TaskState → List TaskState
  | .open => [acknowledged, inProgress, waitingOnApproval, waitingOnSource, dismissed, expired,
      failed, completed]
  | acknowledged => [inProgress, waitingOnApproval, waitingOnSource, completed, dismissed, expired]
  | inProgress => [waitingOnApproval, waitingOnSource, completed, failed, dismissed]
  | waitingOnApproval => [acknowledged, inProgress, expired, failed]
  | waitingOnSource => [acknowledged, inProgress, expired, failed]
  | completed => []
  | dismissed => []
  | expired => []
  | failed => []

end TaskState

inductive Severity
  | low
  | medium
  | high
  deriving DecidableEq

/-- `_SEVERITY_RANK`. -/
def Severity.rank : Severity → ℕ
  | low => 0
  | medium => 1
  | high => 2

theorem Severity.rank_injective : Function.Injective rank := by
  intro a b h
  cases a <;> cases b <;> first | rfl | cases h

instance : LinearOrder Severity := LinearOrder.lift' Severity.rank Severity.rank_injective

inductive ActorScope
  | platform
  | tenantContextual
  deriving DecidableEq

inductive SourceStatus
  | known
  | unknown
  | degraded
  deriving DecidableEq

def SourceStatus.text : SourceStatus → String
  | known => "known"
  | unknown => "unknown"
  | degraded => "degraded"

inductive OwnerRole
  | superAdmin
  | engineeringOperator
  | supportOperator
  deriving DecidableEq

inductive AuditActorRole
  | superAdmin
  | engineeringOperator
  | supportOperator
  | system
  deriving DecidableEq

/-- The owner role of an actor's role, if it is one. -/
def AuditActorRole.owner? : AuditActorRole → Option OwnerRole
  | superAdmin => some .superAdmin
  | engineeringOperator => some .engineeringOperator
  | supportOperator => some .supportOperator
  | system => none

inductive NotificationChannel
  | inApp
  | email
  | webhook
  deriving DecidableEq

/-- The two delivery states there are. -/
inductive DeliveryState
  | recorded
  | suppressed
  deriving DecidableEq

inductive DisplayStatus
  | healthy
  | warning
  | unknown
  | failed
  | completed
  | dismissed
  | none
  deriving DecidableEq

inductive TransitionDenialCode
  | transitionDeniedInvalid
  | transitionDeniedTerminal
  | completeDeniedNoEvidence
  | completeDeniedGateOpen
  | taskNotFound
  deriving DecidableEq

/-- `DEFAULT_SEVERITY`. -/
def TaskType.defaultSeverity : TaskType → Severity
  | actionRequestCreated => .low
  | approvalPending => .medium
  | approvalDecisionRequired => .high
  | executionReady => .high
  | executionCompleted => .low
  | executionFailed => .high
  | sourceUnknown => .high
  | backupCheckWarning => .high
  | incidentFollowupRequired => .medium
  | runbookStepRequired => .medium

/-- `_FORCE_HIGH_TYPES`. -/
def TaskType.isForceHigh : TaskType → Bool
  | sourceUnknown | backupCheckWarning | executionFailed => true
  | _ => false

/-! ## Redaction -/

section Redaction
variable (env : Primitives)

/-- An ASCII letter. -/
def isAsciiLetter (c : Char) : Bool := 'a' ≤ c ∧ c ≤ 'z' ∨ 'A' ≤ c ∧ c ≤ 'Z'

/-- An ASCII letter or digit. -/
def isAsciiAlphanumeric (c : Char) : Bool := isAsciiLetter c || ('0' ≤ c ∧ c ≤ '9')

/-- `\S+`. -/
def nonBlanks : Regex := .run (fun c => !isBlank c) 1 none

/-- `[_-]?`. -/
def optionalDash : Regex := .opt (.one fun c => c = '_' ∨ c = '-')

/-- `_RE_DSN`. -/
def reDsn : Regex :=
  .all [.edge env.classes.word,
    .any [.all [.literal "postgres", .opt (.literal "ql")], .literal "mysql", .literal "redis",
      .all [.literal "mongodb", .opt (.literal "+srv")], .literal "amqp", .literal "mssql",
      .literal "clickhouse", .literal "cassandra", .literal "elasticsearch", .literal "smtp",
      .literal "smtps", .literal "ftp", .literal "ldap", .literal "ldaps", .literal "s3",
      .literal "gs", .literal "azure", .literal "cockroachdb", .literal "influxdb"],
    .opt (.all [.literal "+", .run env.classes.word 1 none]), .literal "://", nonBlanks]

/-- `_RE_HTTP_URL`. -/
def reHttpUrl : Regex :=
  .all [.edge env.classes.word, .literal "http", .opt (.literal "s"), .literal "://", nonBlanks]

/-- `(?::\d{2,5})?`. -/
def optionalPort : Regex := .opt (.all [.text ":", .run env.classes.decimal 2 (some 5)])

/-- `_RE_USERINFO`. -/
def reUserinfo : Regex :=
  .all [.run (fun c => isAsciiAlphanumeric c ∨ c ∈ ['.', '_', '%', '+', '-']) 1 none, .text ":",
    .run (fun c => !isBlank c ∧ c ≠ '@' ∧ c ≠ '/') 1 none, .text "@",
    .run (fun c => isAsciiAlphanumeric c ∨ c = '.' ∨ c = '-') 1 none, optionalPort env]

/-- `_RE_HOSTPORT`. -/
def reHostport : Regex :=
  let group := Regex.all [.text ".", .run env.classes.decimal 1 (some 3)]
  .any [
    .all [.edge env.classes.word,
      .plus (.seq (.run (fun c => isAsciiAlphanumeric c ∨ c = '-') 1 none) (.text ".")),
      .run isAsciiLetter 2 none, optionalPort env, .edge env.classes.word],
    .all [.edge env.classes.word, .text "localhost", optionalPort env, .edge env.classes.word],
    .all [.edge env.classes.word, .run env.classes.decimal 1 (some 3), group, group, group,
      optionalPort env, .edge env.classes.word]]

/-- `_RE_SECRET_KV`. -/
def reSecretKv : Regex :=
  .all [.edge env.classes.word,
    .any [.literal "password", .literal "passwd", .literal "pwd", .literal "secret",
      .literal "token", .all [.literal "api", optionalDash, .literal "key"],
      .all [.literal "access", optionalDash, .literal "key"],
      .all [.literal "secret", optionalDash, .literal "key"], .literal "auth",
      .literal "authorization", .literal "cookie",
      .all [.literal "set", optionalDash, .literal "cookie"], .literal "credential",
      .literal "apikey", .literal "dsn",
      .all [.literal "connection", optionalDash, .literal "string"],
      .all [.literal "database", optionalDash, .literal "url"], .literal "bearer"],
    .edge env.classes.word, .run isBlank 0 none, .one fun c => c = ':' ∨ c = '=',
    .run isBlank 0 none, .run (fun c => !isBlank c ∧ c ∉ [';', ',', ')', '}', ']']) 1 none]

/-- `_RE_UNSAFE_TOKEN`. -/
def reUnsafeToken : Regex :=
  let blanks := Regex.run isBlank 1 none
  let optionalBlanks := Regex.run isBlank 0 none
  .all [.edge env.classes.word,
    .any [.literal "pg_dump", .literal "pg_restore", .literal "mysqldump",
      .all [.literal "rm", blanks, .literal "-rf"], .all [.literal "drop", blanks, .literal "table"],
      .all [.literal "truncate", blanks, .literal "table"],
      .all [.literal "delete", blanks, .literal "from"],
      .all [.literal "insert", blanks, .literal "into"],
      .all [.literal "update", blanks, .run env.classes.word 1 none, blanks, .literal "set"],
      .literal "subprocess", .literal "os.system", .literal "os.popen",
      .all [.literal "shell", optionalBlanks, .literal "=", optionalBlanks, .literal "true"],
      .all [.literal "eval", optionalBlanks, .literal "("],
      .all [.literal "exec", optionalBlanks, .literal "("], .literal "<script",
      .literal "javascript:"],
    .edge env.classes.word]

/-- `redact_text`. -/
def redactText (value : String) : String :=
  (reUnsafeToken env).sub "[redacted:unsafe-token]" <|
  (reHostport env).sub "[redacted:hostport]" <|
  (reSecretKv env).sub "[redacted:secret]" <|
  (reUserinfo env).sub "[redacted:credentials]" <|
  (reHttpUrl env).sub "[redacted:url]" <|
  (reDsn env).sub "[redacted:dsn]" value

/-- Redaction leaves something of every text. -/
theorem redactText_eq_empty {value : String} : redactText env value = "" ↔ value = "" := by
  unfold redactText
  rw [Regex.sub_eq_empty (by decide), Regex.sub_eq_empty (by decide),
    Regex.sub_eq_empty (by decide), Regex.sub_eq_empty (by decide),
    Regex.sub_eq_empty (by decide), Regex.sub_eq_empty (by decide)]

/-- `redact_text(summary) if summary else ""`, with the text of a suppressed summary. -/
def storedSummary (summary : String) : String :=
  if redactText env summary = "" then "[suppressed:non-safe-summary]" else redactText env summary

/-- The pointer to an evidence note: a part of the digest of its redaction. -/
def evidencePointer (evidence : String) : String :=
  "note:" ++ String.ofList ((env.digest (redactText env evidence)).toList.take 16)

end Redaction

/-! ## The store -/

structure StoredTask where
  taskId : String
  taskType : TaskType
  severity : Severity
  state : TaskState
  displayStatus : DisplayStatus
  tenantId : Option String
  actorScope : ActorScope
  ownerRole : Option OwnerRole
  ownerActorId : Option String
  correlationId : String
  linkedActionId : Option String
  linkedApprovalId : Option String
  linkedExecutionId : Option String
  linkedDryRunRef : Option String
  linkedSourceRef : Option String
  linkedIncidentId : Option String
  summaryRedacted : String
  reasonRedacted : Option String
  evidenceRef : Option String
  sourceStatus : Option SourceStatus
  linkedGateOpen : Bool
  dedupKeyDigest : String
  ttlExpiresAt : Option Instant
  createdAt : Instant
  updatedAt : Instant
  deriving DecidableEq

instance : Keyed StoredTask String where
  key := StoredTask.taskId

structure Actor where
  actorId : Option String
  actorRole : AuditActorRole

structure TaskAuditEvent where
  taskId : String
  taskType : TaskType
  actorId : Option String
  actorRole : AuditActorRole
  tenantId : Option String
  transition : String
  previousState : TaskState
  nextState : TaskState
  reasonRedacted : Option String
  denialCode : Option TransitionDenialCode
  correlationId : String
  linkedActionId : Option String
  linkedApprovalId : Option String
  linkedExecutionId : Option String
  linkedSourceRef : Option String
  linkedIncidentId : Option String
  sequenceNo : ℕ
  createdAt : Instant
  deriving DecidableEq

structure NotificationEvent where
  eventId : Uuid
  taskId : String
  channel : NotificationChannel
  deliveryState : DeliveryState
  severity : Severity
  tenantId : Option String
  actorScope : ActorScope
  recipientRole : Option OwnerRole
  summaryRedacted : String
  correlationId : String
  createdAt : Instant
  deriving DecidableEq

/-- `_TASKS`, `_AUDIT`, `_NOTIFICATIONS` and the three dictionaries beside them. -/
structure TaskQueue where
  tasks : Table StoredTask
  audit : List TaskAuditEvent
  notifications : List NotificationEvent
  activeDedup : String → Option String
  auditSeq : String → ℕ
  inflight : String × NotificationChannel → Option Uuid

def TaskQueue.empty : TaskQueue :=
  ⟨Table.empty, [], [], fun _ => none, fun _ => 0, fun _ => none⟩

structure IntakeEvent where
  taskType : TaskType
  severity : Option Severity
  tenantId : Option String
  actorScope : ActorScope
  ownerRole : Option OwnerRole
  correlationId : String
  linkedActionId : Option String
  linkedApprovalId : Option String
  linkedExecutionId : Option String
  linkedDryRunRef : Option String
  linkedSourceRef : Option String
  linkedIncidentId : Option String
  summary : String
  reason : Option String
  sourceStatus : Option SourceStatus
  linkedGateOpen : Bool
  followupVariant : Option String
  ttlExpiresAt : Option Instant
  channel : Option NotificationChannel

structure TransitionRequest where
  reason : Option String
  evidence : Option String
  evidenceRef : Option String

variable (env : Primitives)

/-- `_first_linked_id`. -/
def IntakeEvent.firstLinkedId (event : IntakeEvent) : Option String :=
  ([event.linkedExecutionId, event.linkedApprovalId, event.linkedActionId, event.linkedIncidentId,
    event.linkedSourceRef].map orEmpty).find? (· ≠ "")

/-- `_dedup_key_digest`. -/
def IntakeEvent.dedupKeyDigest (event : IntakeEvent) : String :=
  env.digest (barJoin [event.taskType.text, orEmpty event.firstLinkedId, orEmpty event.tenantId,
    orEmpty (event.sourceStatus.map (·.text)),
    if isAbsent event.followupVariant then event.taskType.text else orEmpty event.followupVariant])

/-- `_compute_display_status`. -/
def computeDisplayStatus (taskType : TaskType) (sourceStatus : Option SourceStatus)
    (state : TaskState) : DisplayStatus :=
  if taskType = .sourceUnknown ∨ sourceStatus = some .unknown then .unknown
  else if taskType = .backupCheckWarning ∨ sourceStatus = some .degraded then .warning
  else match state with
    | .failed => .failed
    | .completed => .completed
    | .dismissed => .dismissed
    | _ => .healthy

/-- A reason that is given replaces the stored one. -/
def newReason (reason stored : Option String) : Option String :=
  if isAbsent reason then stored else reason.map (redactText env)

def StoredTask.isActive (task : StoredTask) : Bool := !task.state.isTerminal

/-- The task is an active task of a correlation and a tenant. -/
def StoredTask.isPeer (task : StoredTask) (correlationId : String) (tenantId : Option String) :
    Bool :=
  task.isActive ∧ task.correlationId = correlationId ∧ orEmpty task.tenantId = orEmpty tenantId

namespace TaskQueue

/-- The record of a task as it is now. -/
def current (q : TaskQueue) (task : StoredTask) : StoredTask :=
  (q.tasks.find? task.taskId).getD task

/-- `_severity_for`. -/
def severityFor (q : TaskQueue) (taskType : TaskType) (requested : Option Severity)
    (correlationId : String) (tenantId : Option String) : Severity :=
  let base := requested.getD taskType.defaultSeverity
  let peers := q.tasks.select (·.isPeer correlationId tenantId)
  let level := if peers.any (·.severity = .high) then max base .medium else base
  if taskType.isForceHigh || peers.any (·.taskType.isForceHigh) then max level .high else level

/-- A peer lifted to a level. -/
def lifted (now : Instant) (level : Severity) (task : StoredTask) : StoredTask :=
  if task.severity < level then { task with severity := level, updatedAt := now } else task

theorem key_lifted (now : Instant) (level : Severity) (task : StoredTask) :
    key (lifted now level task) = key task := by
  unfold lifted
  split <;> rfl

/-- `_rerank_correlation`. -/
def rerankCorrelation (now : Instant) (correlationId : String) (tenantId : Option String)
    (q : TaskQueue) : TaskQueue :=
  let peers := q.tasks.select (·.isPeer correlationId tenantId)
  let lift (level : Severity) : TaskQueue :=
    { q with
      tasks := q.tasks.updateWhere (·.isPeer correlationId tenantId) (lifted now level)
        (key_lifted now level) }
  if peers.any (·.taskType.isForceHigh) then lift .high
  else if peers.any (·.severity = .high) then lift .medium
  else q

/-- `_emit_audit`. -/
def emitAudit (now : Instant) (actor : Actor) (task : StoredTask) (transition : String)
    (previousState nextState : TaskState) (reason : Option String)
    (denialCode : Option TransitionDenialCode) (q : TaskQueue) : TaskQueue :=
  let seq := q.auditSeq task.taskId + 1
  { q with
    auditSeq := Function.update q.auditSeq task.taskId seq
    audit := q.audit ++
      [{ taskId := task.taskId
         taskType := task.taskType
         actorId := actor.actorId
         actorRole := actor.actorRole
         tenantId := task.tenantId
         transition
         previousState
         nextState
         reasonRedacted := reason.map (redactText env)
         denialCode
         correlationId := task.correlationId
         linkedActionId := task.linkedActionId
         linkedApprovalId := task.linkedApprovalId
         linkedExecutionId := task.linkedExecutionId
         linkedSourceRef := task.linkedSourceRef
         linkedIncidentId := task.linkedIncidentId
         sequenceNo := seq
         createdAt := now }] }

/-- The notification in flight for a task and a channel. -/
def inflightNotification (q : TaskQueue) (taskId : String) (channel : NotificationChannel) :
    Option NotificationEvent :=
  (q.inflight (taskId, channel)).bind fun eventId =>
    q.notifications.find? fun n => n.eventId = eventId

/-- `_record_notification`. -/
def recordNotification (now : Instant) (eventId : Uuid) (task : StoredTask)
    (channel : NotificationChannel) (summary : Option String) (recipientRole : Option OwnerRole)
    (q : TaskQueue) : TaskQueue × NotificationEvent :=
  match q.inflightNotification task.taskId channel with
  | some n => (q, n)
  | none =>
    let deliveryState : DeliveryState :=
      if redactText env (orEmpty summary) = "" then .suppressed else .recorded
    let event : NotificationEvent :=
      { eventId
        taskId := task.taskId
        channel
        deliveryState
        severity := task.severity
        tenantId := task.tenantId
        actorScope := task.actorScope
        recipientRole
        summaryRedacted := storedSummary env (orEmpty summary)
        correlationId := task.correlationId
        createdAt := now }
    ({ q with
        notifications := q.notifications ++ [event]
        inflight := if deliveryState = .recorded then
          Function.update q.inflight (task.taskId, channel) (some eventId) else q.inflight }, event)

/-- The notification an intake event asks for, if it does. -/
def notifyFor (now : Instant) (eventId : Uuid) (event : IntakeEvent) (task : StoredTask)
    (q : TaskQueue) : TaskQueue :=
  match event.channel with
  | none => q
  | some channel =>
    (q.recordNotification env now eventId task channel (some event.summary) event.ownerRole).1

end TaskQueue

/-! ## Intake -/

/-- The task a new event becomes. -/
def IntakeEvent.materialized (event : IntakeEvent) (now : Instant) (newId : Uuid)
    (severity : Severity) : StoredTask where
  taskId := newId.text
  taskType := event.taskType
  severity
  state := .open
  displayStatus := computeDisplayStatus event.taskType event.sourceStatus .open
  tenantId := event.tenantId
  actorScope := event.actorScope
  ownerRole := event.ownerRole
  ownerActorId := none
  correlationId := event.correlationId
  linkedActionId := event.linkedActionId
  linkedApprovalId := event.linkedApprovalId
  linkedExecutionId := event.linkedExecutionId
  linkedDryRunRef := event.linkedDryRunRef
  linkedSourceRef := event.linkedSourceRef
  linkedIncidentId := event.linkedIncidentId
  summaryRedacted := storedSummary env event.summary
  reasonRedacted := event.reason.map (redactText env)
  evidenceRef := none
  sourceStatus := event.sourceStatus
  linkedGateOpen := event.linkedGateOpen
  dedupKeyDigest := event.dedupKeyDigest env
  ttlExpiresAt := event.ttlExpiresAt
  createdAt := now
  updatedAt := now

/-- An active task that takes a repeated event. -/
def StoredTask.replayed (task : StoredTask) (now : Instant) (severity : Severity)
    (event : IntakeEvent) : StoredTask :=
  { task with
    updatedAt := now
    severity
    linkedGateOpen := event.linkedGateOpen
    reasonRedacted := newReason env event.reason task.reasonRedacted }

structure IntakeResponse where
  task : StoredTask
  created : Bool
  deduped : Bool

namespace TaskQueue

/-- The active task that absorbs an event. -/
def absorbing (q : TaskQueue) (event : IntakeEvent) : Option StoredTask :=
  (q.activeDedup (event.dedupKeyDigest env)).bind q.tasks.find?

/-- The queue after an active task has taken a repeated event, before a notification. -/
def replay (now : Instant) (event : IntakeEvent) (task : StoredTask) (q : TaskQueue) : TaskQueue :=
  let severity := q.severityFor task.taskType event.severity task.correlationId task.tenantId
  ({ q with tasks := q.tasks.put (task.replayed env now severity event) } : TaskQueue)
    |>.rerankCorrelation now task.correlationId task.tenantId

/-- The queue after an event has become a task, before a notification. -/
def materialize (now : Instant) (newId : Uuid) (event : IntakeEvent) (q : TaskQueue) : TaskQueue :=
  let severity := q.severityFor event.taskType event.severity event.correlationId event.tenantId
  let task := event.materialized env now newId severity
  ({ q with
      tasks := q.tasks.put task
      activeDedup := Function.update q.activeDedup task.dedupKeyDigest (some task.taskId)
      auditSeq := Function.update q.auditSeq task.taskId 0 } : TaskQueue)
    |>.emitAudit env now ⟨none, .system⟩ task "materialized" .open .open (some event.summary) none
    |>.rerankCorrelation now task.correlationId task.tenantId

/-- `upsert_task_from_event`. -/
def upsertTaskFromEvent (now : Instant) (newId notificationId : Uuid) (event : IntakeEvent)
    (q : TaskQueue) : TaskQueue × IntakeResponse :=
  match q.absorbing env event with
  | some task =>
    let q' := q.replay env now event task
    let task' := q'.current task
    (q'.notifyFor env now notificationId event task', ⟨task', false, true⟩)
  | none =>
    let q' := q.materialize env now newId event
    let task' := q'.current (event.materialized env now newId .low)
    (q'.notifyFor env now notificationId event task', ⟨task', true, false⟩)

end TaskQueue

/-! ## Transitions -/

structure TransitionResponse where
  accepted : Bool
  task : StoredTask
  transition : String
  previousState : TaskState
  nextState : TaskState
  denialCode : Option TransitionDenialCode

/-- The placeholder for a task that is not there. -/
def notFoundTask (now : Instant) (taskId : String) : StoredTask where
  taskId
  taskType := .actionRequestCreated
  severity := .low
  state := .open
  displayStatus := .none
  tenantId := none
  actorScope := .platform
  ownerRole := none
  ownerActorId := none
  correlationId := ""
  linkedActionId := none
  linkedApprovalId := none
  linkedExecutionId := none
  linkedDryRunRef := none
  linkedSourceRef := none
  linkedIncidentId := none
  summaryRedacted := "[not-found]"
  reasonRedacted := none
  evidenceRef := none
  sourceStatus := none
  linkedGateOpen := false
  dedupKeyDigest := ""
  ttlExpiresAt := none
  createdAt := now
  updatedAt := now

/-- Whether an optional text says something: `value and value.strip()`. -/
def isGiven (value : Option String) : Bool := strip (orEmpty value) ≠ ""

namespace TransitionRequest

/-- The fields of a payload that may be missing. -/
def reasonOf (payload : Option TransitionRequest) : Option String := payload.bind (·.reason)
def evidenceOf (payload : Option TransitionRequest) : Option String := payload.bind (·.evidence)
def evidenceRefOf (payload : Option TransitionRequest) : Option String :=
  payload.bind (·.evidenceRef)

/-- The reason a transition is audited with. -/
def auditReason (payload : Option TransitionRequest) (target : TaskState) : Option String :=
  if target = .completed then
    if isGiven (evidenceOf payload) then evidenceOf payload
    else if isAbsent (evidenceRefOf payload) then reasonOf payload
    else evidenceRefOf payload
  else reasonOf payload

end TransitionRequest

open TransitionRequest

/-- Why a transition is refused, and what the attempt is called in the audit. -/
def StoredTask.refusal (task : StoredTask) (target : TaskState) (action : String)
    (payload : Option TransitionRequest) : Option (TransitionDenialCode × String) :=
  if task.state.isTerminal then some (.transitionDeniedTerminal, "denied:" ++ action)
  else if target ∉ task.state.allowed then some (.transitionDeniedInvalid, "denied:" ++ action)
  else if target = .completed then
    if ¬(isGiven (evidenceOf payload) ∨ isGiven (evidenceRefOf payload)) then
      some (.completeDeniedNoEvidence, "denied:complete")
    else if task.linkedGateOpen then some (.completeDeniedGateOpen, "denied:complete")
    else none
  else none

/-- The task after a transition. -/
def StoredTask.moved (task : StoredTask) (now : Instant) (target : TaskState)
    (payload : Option TransitionRequest) : StoredTask :=
  { task with
    state := target
    displayStatus := computeDisplayStatus task.taskType task.sourceStatus target
    updatedAt := now
    reasonRedacted := newReason env (reasonOf payload) task.reasonRedacted
    evidenceRef :=
      if target = .completed then
        if isGiven (evidenceOf payload) then some (evidencePointer env (orEmpty (evidenceOf payload)))
        else if isGiven (evidenceRefOf payload) then (evidenceRefOf payload).map (redactText env)
        else task.evidenceRef
      else task.evidenceRef }

namespace TaskQueue

/-- An attempt that is refused: it is audited, and nothing else. -/
def deny (now : Instant) (actor : Actor) (task : StoredTask) (code : TransitionDenialCode)
    (transition : String) (reason : Option String) (q : TaskQueue) :
    TaskQueue × TransitionResponse :=
  (q.emitAudit env now actor task transition task.state task.state reason (some code),
    ⟨false, task, transition, task.state, task.state, some code⟩)

/-- `_apply_transition`. -/
def applyTransition (now : Instant) (actor : Actor) (action : String) (target : TaskState)
    (taskId : String) (payload : Option TransitionRequest) (q : TaskQueue) :
    TaskQueue × TransitionResponse :=
  match q.tasks.find? taskId with
  | none =>
    (q, ⟨false, notFoundTask now taskId, "denied:" ++ action, .open, .open, some .taskNotFound⟩)
  | some task =>
    match task.refusal target action payload with
    | some (code, transition) =>
      q.deny env now actor task code transition (reasonOf payload)
    | none =>
      let task' := task.moved env now target payload
      let transition := task.state.text ++ "->" ++ target.text
      (({ q with
          tasks := q.tasks.put task'
          activeDedup := if target.isTerminal then
            Function.update q.activeDedup task.dedupKeyDigest none else q.activeDedup } : TaskQueue)
        |>.emitAudit env now actor task' transition task.state target (auditReason payload target)
          none,
        ⟨true, task', transition, task.state, target, none⟩)

/-- `acknowledge_task`. -/
def acknowledgeTask (now : Instant) (actor : Actor) :=
  applyTransition env now actor "acknowledge" .acknowledged

/-- `mark_in_progress_task`. -/
def markInProgressTask (now : Instant) (actor : Actor) :=
  applyTransition env now actor "in_progress" .inProgress

/-- `complete_task`. -/
def completeTask (now : Instant) (actor : Actor) :=
  applyTransition env now actor "complete" .completed

/-- `dismiss_task`. -/
def dismissTask (now : Instant) (actor : Actor) :=
  applyTransition env now actor "dismiss" .dismissed

/-- `self_assign_task`. -/
def selfAssignTask (now : Instant) (actor : Actor) (taskId : String)
    (payload : Option TransitionRequest) (q : TaskQueue) : TaskQueue × TransitionResponse :=
  match q.tasks.find? taskId with
  | none => q.applyTransition env now actor "self_assign" .open taskId payload
  | some task =>
    if task.state.isTerminal then
      q.deny env now actor task .transitionDeniedTerminal "denied:self_assign" (reasonOf payload)
    else
      let task' : StoredTask :=
        { task with
          ownerActorId := actor.actorId
          ownerRole := actor.actorRole.owner?.or task.ownerRole
          updatedAt := now
          reasonRedacted := newReason env (reasonOf payload) task.reasonRedacted }
      (({ q with tasks := q.tasks.put task' } : TaskQueue)
        |>.emitAudit env now actor task' "self_assigned" task.state task.state (reasonOf payload)
          none,
        ⟨true, task', "self_assigned", task.state, task.state, none⟩)

/-- `record_notification_event`. -/
def recordNotificationEvent (now : Instant) (eventId : Uuid) (taskId : String)
    (channel : NotificationChannel) (summary : Option String) (recipientRole : Option OwnerRole)
    (q : TaskQueue) : TaskQueue × Option NotificationEvent :=
  match q.tasks.find? taskId with
  | none => (q, none)
  | some task =>
    let (q', n) := q.recordNotification env now eventId task channel summary recipientRole
    (q', some n)

end TaskQueue

/-! ## Runs -/

inductive TaskCall
  | intake (newId notificationId : Uuid) (event : IntakeEvent)
  | acknowledge (taskId : String) (payload : Option TransitionRequest)
  | inProgress (taskId : String) (payload : Option TransitionRequest)
  | complete (taskId : String) (payload : Option TransitionRequest)
  | dismiss (taskId : String) (payload : Option TransitionRequest)
  | selfAssign (taskId : String) (payload : Option TransitionRequest)
  | notify (eventId : Uuid) (taskId : String) (channel : NotificationChannel)
      (summary : Option String) (recipientRole : Option OwnerRole)

/-- A call, by an actor, at a time. -/
structure TaskRequest where
  now : Instant
  actor : Actor
  call : TaskCall

/-- The queue after a call. -/
def TaskQueue.step (q : TaskQueue) (r : TaskRequest) : TaskQueue :=
  match r.call with
  | .intake newId notificationId event =>
    (q.upsertTaskFromEvent env r.now newId notificationId event).1
  | .acknowledge taskId payload => (q.acknowledgeTask env r.now r.actor taskId payload).1
  | .inProgress taskId payload => (q.markInProgressTask env r.now r.actor taskId payload).1
  | .complete taskId payload => (q.completeTask env r.now r.actor taskId payload).1
  | .dismiss taskId payload => (q.dismissTask env r.now r.actor taskId payload).1
  | .selfAssign taskId payload => (q.selfAssignTask env r.now r.actor taskId payload).1
  | .notify eventId taskId channel summary recipientRole =>
    (q.recordNotificationEvent env r.now eventId taskId channel summary recipientRole).1

end Operator

end Mpango
