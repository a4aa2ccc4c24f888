import Mpango.Model.OperatorTasks

/-!
# Incident closeouts and runbook steps

`p24`: recorded events open a closeout for an incident, mirror what other services say about it, and
add the steps of its runbook. Operators move closeouts and steps through their states. A follow-up
that is owed, and every step that is not over, stand as tasks in the operator queue.

The store is one process's memory, next to that of the tasks. A call draws at most one id for a
closeout or a step and at most one for a task; the ids of audit events are left out.
-/

namespace Mpango

namespace Incident

open Operator

/-! ## Vocabularies -/

inductive CloseoutState
  | detected
  | triaged
  | flaggedActive
  | inRemediation
  | awaitingCloseout
  | closed
  | withdrawn
  | expired
  deriving DecidableEq

namespace CloseoutState

def text : CloseoutState → String
  | detected => "detected"
  | triaged => "triaged"
  | flaggedActive => "flagged_active"
  | inRemediation => "in_remediation"
  | awaitingCloseout => "awaiting_closeout"
  | closed => "closed"
  | withdrawn => "withdrawn"
  | expired => "expired"

/-- `TERMINAL_CLOSEOUT_STATES`. -/
def isTerminal : CloseoutState → Bool
  | closed | withdrawn | expired => true
  | _ => false

/-- `ALLOWED_CLOSEOUT_TRANSITIONS`. -/
def allowed : CloseoutState → List CloseoutState
  | detected => [triaged, withdrawn, expired]
  | triaged => [flaggedActive, inRemediation, closed, withdrawn, expired]
  | flaggedActive => [inRemediation, awaitingCloseout, withdrawn, expired]
  | inRemediation => [flaggedActive, awaitingCloseout, withdrawn, expired]
  | awaitingCloseout => [closed, inRemediation, expired]
  | closed => []
  | withdrawn => []
  | expired => []

end CloseoutState

inductive StepKind
  | observation
  | actionPointer
  | approvalPointer
  deriving DecidableEq

def StepKind.text : StepKind → String
  | observation => "observation"
  | actionPointer => "action_pointer"
  | approvalPointer => "approval_pointer"

inductive StepState
  | owed
  | inProgress
  | done
  | notApplicable
  | blocked
  deriving DecidableEq

namespace StepState

def text : StepState → String
  | owed => "owed"
  | inProgress => "in_progress"
  | done => "done"
  | notApplicable => "not_applicable"
  | blocked => "blocked"

/-- `TERMINAL_STEP_STATES`; the others are `ACTIVE_STEP_STATES`. -/
def isTerminal : StepState → Bool
  | done | notApplicable => true
  | _ => false

/-- `ALLOWED_STEP_TRANSITIONS`. -/
def allowed : StepState → List StepState
  | owed => [inProgress, done, notApplicable, blocked]
  | inProgress => [done, notApplicable, blocked]
  | blocked => [owed, notApplicable]
  | done => []
  | notApplicable => []

end StepState

inductive Classification
  | database
  | system
  | api
  | tenantHealth
  | supportIssue
  deriving DecidableEq

inductive FlagObserved
  | observedTrue
  | observedFalse
  | observedUnknown
  deriving DecidableEq

inductive CloseoutDenialCode
  | transitionDeniedInvalid
  | transitionDeniedTerminal
  | closeDeniedFlagStillSet
  | closeDeniedOwedTasksNonterminal
  | closeDeniedSourceUnknown
  | closeDeniedExecutionWarning
  | stepDoneDeniedGateOpen
  | stepDoneDeniedNoEvidence
  | closeoutNotFound
  | stepNotFound
  deriving DecidableEq

inductive DisplayStatus
  | healthy
  | warning
  | unknown
  | completed
  | dismissed
  | closed
  | withdrawn
  | none
  deriving DecidableEq

/-! ## The store -/

structure StoredCloseout where
  closeoutId : String
  state : CloseoutState
  displayStatus : DisplayStatus
  classification : Option Classification
  severity : Severity
  tenantId : Option String
  actorScope : ActorScope
  ownerRole : Option OwnerRole
  ownerActorId : Option String
  correlationId : String
  flagObserved : FlagObserved
  flagEverSet : Bool
  linkedIncidentId : Option String
  linkedTriageSnapshotRef : Option String
  linkedHandoffRef : Option String
  summaryRedacted : String
  reasonRedacted : Option String
  sourceStatus : Option Operator.SourceStatus
  linkedExecutionWarning : Bool
  dedupKeyDigest : String
  ttlExpiresAt : Option Instant
  linkedFollowupTaskId : Option String
  followupOwed : Bool
  createdAt : Instant
  updatedAt : Instant
  deriving DecidableEq

instance : Keyed StoredCloseout String where
  key := StoredCloseout.closeoutId

structure StoredStep where
  stepId : String
  closeoutId : String
  sequenceNo : ℤ
  stepKind : StepKind
  stepState : StepState
  displayStatus : DisplayStatus
  tenantId : Option String
  correlationId : String
  linkedActionId : Option String
  linkedApprovalId : Option String
  linkedExecutionId : Option String
  linkedSourceRef : Option String
  evidenceRef : Option String
  summaryRedacted : String
  reasonRedacted : Option String
  sourceStatus : Option Operator.SourceStatus
  linkedExecutionTerminal : Bool
  linkedApprovalResolved : Bool
  linkedExecutionWarning : Bool
  dedupKeyDigest : String
  linkedTaskId : Option String
  createdAt : Instant
  updatedAt : Instant
  deriving DecidableEq

instance : Keyed StoredStep String where
  key := StoredStep.stepId

structure CloseoutAuditEvent where
  closeoutId : String
  state : CloseoutState
  actorId : Option String
  actorRole : AuditActorRole
  tenantId : Option String
  transition : String
  previousState : CloseoutState
  nextState : CloseoutState
  flagObserved : FlagObserved
  reasonRedacted : Option String
  denialCode : Option CloseoutDenialCode
  correlationId : String
  linkedIncidentId : Option String
  sequenceNo : ℕ
  createdAt : Instant
  deriving DecidableEq

structure StepAuditEvent where
  stepId : String
  closeoutId : String
  stepKind : StepKind
  stepTransition : String
  previousState : StepState
  nextState : StepState
  actorId : Option String
  actorRole : AuditActorRole
  tenantId : Option String
  evidenceRedacted : Option String
  correlationId : String
  linkedActionId : Option String
  linkedApprovalId : Option String
  linkedExecutionId : Option String
  linkedSourceRef : Option String
  sequenceNo : ℕ
  createdAt : Instant
  deriving DecidableEq

/-- `_CLOSEOUTS`, `_STEPS` and the dictionaries and logs beside them, with the task queue. -/
structure CloseoutStore where
  closeouts : Table StoredCloseout
  steps : Table StoredStep
  closeoutStepOrder : String → List String
  closeoutAudit : List CloseoutAuditEvent
  stepAudit : List StepAuditEvent
  activeCloseoutDedup : String → Option String
  activeStepDedup : String → Option String
  closeoutAuditSeq : String → ℕ
  stepAuditSeq : String → ℕ
  tasks : TaskQueue

def CloseoutStore.empty : CloseoutStore :=
  ⟨Table.empty, Table.empty, fun _ => [], [], [], fun _ => none, fun _ => none, fun _ => 0,
    fun _ => 0, .empty⟩

inductive IntakeEventType
  | incidentDetected
  | incidentClassified
  | incidentFlagObserved
  | runbookStepOwed
  | runbookStepProgress
  | runbookStepTerminal
  | closeoutTransition
  deriving DecidableEq

def IntakeEventType.text : IntakeEventType → String
  | incidentDetected => "incident_detected"
  | incidentClassified => "incident_classified"
  | incidentFlagObserved => "incident_flag_observed"
  | runbookStepOwed => "runbook_step_owed"
  | runbookStepProgress => "runbook_step_progress"
  | runbookStepTerminal => "runbook_step_terminal"
  | closeoutTransition => "closeout_transition"

structure CloseoutIntakeEvent where
  eventType : IntakeEventType
  closeoutId : Option String
  classification : Option Classification
  severity : Option Severity
  tenantId : Option String
  actorScope : ActorScope
  ownerRole : Option OwnerRole
  correlationId : String
  linkedIncidentId : Option String
  linkedTriageSnapshotRef : Option String
  linkedHandoffRef : Option String
  summary : String
  reason : Option String
  flagObserved : Option FlagObserved
  sourceStatus : Option Operator.SourceStatus
  linkedActionId : Option String
  linkedApprovalId : Option String
  linkedExecutionId : Option String
  linkedSourceRef : Option String
  stepId : Option String
  stepKind : Option StepKind
  sequenceNo : Option ℤ
  linkedExecutionTerminal : Option Bool
  linkedApprovalResolved : Option Bool
  linkedExecutionWarning : Option Bool
  evidence : Option String
  targetState : Option CloseoutState
  ttlExpiresAt : Option Instant

variable (env : Primitives)

/-! ## Helpers -/

/-- An optional text that says something: `None` and the empty text are the same to the code. -/
def given (value : Option String) : Option String := value.filter fun v => v ≠ ""

/-- A supplied id, or the one that was drawn. -/
def idOr (supplied : Option String) (newId : Uuid) : String := (given supplied).getD newId.text

/-- `_compute_closeout_display`. -/
def computeCloseoutDisplay (state : CloseoutState) (sourceStatus : Option Operator.SourceStatus)
    (linkedExecutionWarning : Bool) : DisplayStatus :=
  if sourceStatus = some .unknown then .unknown
  else if linkedExecutionWarning ∨ sourceStatus = some .degraded then .warning
  else match state with
    | .closed => .closed
    | .withdrawn => .withdrawn
    | .expired => .unknown
    | _ => .healthy

/-- `_compute_step_display`. -/
def computeStepDisplay (state : StepState) (sourceStatus : Option Operator.SourceStatus)
    (linkedExecutionWarning : Bool) : DisplayStatus :=
  if sourceStatus = some .unknown ∨ state = .blocked then .unknown
  else if linkedExecutionWarning ∨ sourceStatus = some .degraded then .warning
  else match state with
    | .done => .completed
    | .notApplicable => .dismissed
    | _ => .healthy

/-- `_closeout_dedup_digest`. -/
def closeoutDedupDigest (correlationId : String) (tenantId linkedIncidentId : Option String) :
    String :=
  env.digest (barJoin ["incident_closeout", correlationId, orEmpty tenantId,
    orEmpty linkedIncidentId])

/-- `_step_dedup_digest`. -/
def stepDedupDigest (closeoutId : String) (sequenceNo : ℤ) (stepKind : StepKind)
    (tenantId : Option String) : String :=
  env.digest (barJoin ["runbook_step", closeoutId, toString sequenceNo, stepKind.text,
    orEmpty tenantId])

/-- `_p23_task_is_terminal`. -/
def p23TaskIsTerminal (q : TaskQueue) (taskId : String) : Bool :=
  match q.tasks.find? taskId with
  | none => true
  | some task => task.state.isTerminal

def StoredCloseout.isActive (c : StoredCloseout) : Bool := !c.state.isTerminal

def StoredStep.isActive (st : StoredStep) : Bool := !st.stepState.isTerminal

namespace CloseoutStore

/-- `_severity_for`. -/
def severityFor (s : CloseoutStore) (requested : Option Severity)
    (sourceStatus : Option Operator.SourceStatus) (linkedExecutionWarning : Bool)
    (correlationId : String) (tenantId : Option String) : Severity :=
  let forceHigh : Bool := sourceStatus = some .unknown ∨ linkedExecutionWarning
  let base := requested.getD (if forceHigh then .high else .medium)
  let peerHigh := s.closeouts.rows.any fun peer => peer.isActive ∧
    peer.correlationId = correlationId ∧ orEmpty peer.tenantId = orEmpty tenantId ∧
    peer.severity = .high
  if forceHigh then max base .high
  else if peerHigh then max base .medium
  else base

/-- `_steps_for`. -/
def stepsFor (s : CloseoutStore) (closeoutId : String) : List StoredStep :=
  (s.closeoutStepOrder closeoutId).filterMap s.steps.find?

def putCloseout (c : StoredCloseout) (s : CloseoutStore) : CloseoutStore :=
  { s with closeouts := s.closeouts.put c }

def putStep (st : StoredStep) (s : CloseoutStore) : CloseoutStore :=
  { s with steps := s.steps.put st }

/-- `_emit_closeout_audit`. -/
def emitCloseoutAudit (now : Instant) (actor : Actor) (c : StoredCloseout) (transition : String)
    (previousState nextState : CloseoutState) (reason : Option String)
    (denialCode : Option CloseoutDenialCode) (s : CloseoutStore) : CloseoutStore :=
  let seq := s.closeoutAuditSeq c.closeoutId + 1
  { s with
    closeoutAuditSeq := Function.update s.closeoutAuditSeq c.closeoutId seq
    closeoutAudit := s.closeoutAudit ++
      [{ closeoutId := c.closeoutId
         state := nextState
         actorId := actor.actorId
         actorRole := actor.actorRole
         tenantId := c.tenantId
         transition
         previousState
         nextState
         flagObserved := c.flagObserved
         reasonRedacted := reason.map (redactText env)
         denialCode
         correlationId := c.correlationId
         linkedIncidentId := c.linkedIncidentId
         sequenceNo := seq
         createdAt := now }] }

/-- `_emit_step_audit`. -/
def emitStepAudit (now : Instant) (actor : Actor) (st : StoredStep) (stepTransition : String)
    (previousState nextState : StepState) (evidence : Option String) (s : CloseoutStore) :
    CloseoutStore :=
  let seq := s.stepAuditSeq st.stepId + 1
  { s with
    stepAuditSeq := Function.update s.stepAuditSeq st.stepId seq
    stepAudit := s.stepAudit ++
      [{ stepId := st.stepId
         closeoutId := st.closeoutId
         stepKind := st.stepKind
         stepTransition
         previousState
         nextState
         actorId := actor.actorId
         actorRole := actor.actorRole
         tenantId := st.tenantId
         evidenceRedacted := evidence.map (redactText env)
         correlationId := st.correlationId
         linkedActionId := st.linkedActionId
         linkedApprovalId := st.linkedApprovalId
         linkedExecutionId := st.linkedExecutionId
         linkedSourceRef := st.linkedSourceRef
         sequenceNo := seq
         createdAt := now }] }

end CloseoutStore

/-! ## Tasks in the operator queue -/

/-- The event of a follow-up that is owed. -/
def StoredCloseout.followupEvent (c : StoredCloseout) : IntakeEvent where
  taskType := .incidentFollowupRequired
  severity := some c.severity
  tenantId := c.tenantId
  actorScope := c.actorScope
  ownerRole := c.ownerRole
  correlationId := c.correlationId
  linkedActionId := none
  linkedApprovalId := none
  linkedExecutionId := none
  linkedDryRunRef := none
  linkedSourceRef := none
  linkedIncidentId := c.linkedIncidentId
  summary := "Incident follow-up owed for closeout " ++ c.closeoutId ++ "."
  reason := some ("Materialized by P24 closeout state=" ++ c.state.text ++ ".")
  sourceStatus := c.sourceStatus
  linkedGateOpen := false
  followupVariant := some c.closeoutId
  ttlExpiresAt := c.ttlExpiresAt
  channel := none

/-- `_materialize_followup_task`. The event asks for no notification, so none has an id. -/
def materializeFollowupTask (now : Instant) (newTaskId : Uuid) (c : StoredCloseout)
    (q : TaskQueue) : TaskQueue × StoredCloseout :=
  let result := q.upsertTaskFromEvent env now newTaskId newTaskId c.followupEvent
  (result.1, { c with
    linkedFollowupTaskId := some result.2.task.taskId
    followupOwed := true
    updatedAt := now })

/-- `_resolve_followup_task`. -/
def resolveFollowupTask (now : Instant) (actor : Actor) (evidence : String) (c : StoredCloseout)
    (q : TaskQueue) : TaskQueue × StoredCloseout :=
  match given c.linkedFollowupTaskId with
  | none => (q, { c with followupOwed := false })
  | some taskId =>
    if p23TaskIsTerminal q taskId then (q, { c with followupOwed := false })
    else
      ((q.completeTask env now actor taskId
          (some ⟨some "follow-up resolved via P24 closeout", some evidence, none⟩)).1,
        { c with followupOwed := false, updatedAt := now })

/-- The event of a step that is not over. -/
def StoredStep.taskEvent (st : StoredStep) (closeoutSeverity : Severity) : IntakeEvent where
  taskType := .runbookStepRequired
  severity := some <|
    if st.stepKind = .actionPointer ∧
      (st.sourceStatus = some .unknown ∨ st.linkedExecutionWarning) then .high
    else closeoutSeverity
  tenantId := st.tenantId
  actorScope := if isAbsent st.tenantId then .platform else .tenantContextual
  ownerRole := none
  correlationId := st.correlationId
  linkedActionId := st.linkedActionId
  linkedApprovalId := st.linkedApprovalId
  linkedExecutionId := st.linkedExecutionId
  linkedDryRunRef := none
  linkedSourceRef := st.linkedSourceRef
  linkedIncidentId := none
  summary := "Runbook step " ++ st.stepId ++ " (" ++ st.stepKind.text ++ ") owed."
  reason := some ("Materialized by P24 step_state=" ++ st.stepState.text ++ ".")
  sourceStatus := st.sourceStatus
  linkedGateOpen := false
  followupVariant := some st.stepId
  ttlExpiresAt := none
  channel := none

/-- `_materialize_step_task`. -/
def materializeStepTask (now : Instant) (newTaskId : Uuid) (closeoutSeverity : Severity)
    (st : StoredStep) (q : TaskQueue) : TaskQueue × StoredStep :=
  let result := q.upsertTaskFromEvent env now newTaskId newTaskId (st.taskEvent closeoutSeverity)
  (result.1, { st with linkedTaskId := some result.2.task.taskId, updatedAt := now })

/-- The evidence a step is resolved with: what was given, or a note of the state. -/
def StoredStep.resolution (st : StoredStep) (evidence : Option String) : String :=
  (given evidence).getD ("step " ++ st.stepState.text ++ " via P24")

/-- `_resolve_step_task`. -/
def resolveStepTask (now : Instant) (actor : Actor) (evidence : Option String) (dismiss : Bool)
    (st : StoredStep) (q : TaskQueue) : TaskQueue × StoredStep :=
  match given st.linkedTaskId with
  | none => (q, st)
  | some taskId =>
    if p23TaskIsTerminal q taskId then (q, st)
    else
      let payload : TransitionRequest :=
        ⟨some "runbook step resolved via P24", some (st.resolution evidence), none⟩
      let q' :=
        if dismiss then (q.dismissTask env now actor taskId (some payload)).1
        else (q.completeTask env now actor taskId (some payload)).1
      (q', { st with updatedAt := now })

/-! ## Closeout transitions -/

/-- The closeout in a new state. -/
def StoredCloseout.entering (c : StoredCloseout) (now : Instant) (target : CloseoutState)
    (reason : Option String) : StoredCloseout :=
  { c with
    state := target
    displayStatus := computeCloseoutDisplay target c.sourceStatus c.linkedExecutionWarning
    reasonRedacted := newReason env reason c.reasonRedacted
    updatedAt := now }

/-- What a transition does about the follow-up. A closed closeout resolves it once: after that it is
not owed any more. -/
def settleFollowup (now : Instant) (newTaskId : Uuid) (actor : Actor) (target : CloseoutState)
    (c : StoredCloseout) (q : TaskQueue) : TaskQueue × StoredCloseout :=
  match target with
  | .flaggedActive =>
    if c.followupOwed = false ∧ c.flagObserved = .observedTrue then
      materializeFollowupTask env now newTaskId c q
    else (q, c)
  | .awaitingCloseout =>
    if c.followupOwed then
      resolveFollowupTask env now actor "closeout advanced to awaiting_closeout" c q
    else (q, c)
  | .closed =>
    if c.followupOwed then resolveFollowupTask env now actor "closeout closed" c q else (q, c)
  | .withdrawn | .expired =>
    if c.followupOwed then resolveFollowupTask env now actor "closeout terminal" c q else (q, c)
  | .detected | .triaged | .inRemediation => (q, c)

namespace CloseoutStore

/-- Whether a step of the closeout is not over. -/
def owedStepsOpen (s : CloseoutStore) (c : StoredCloseout) : Bool :=
  (s.stepsFor c.closeoutId).any (·.isActive)

/-- `_followup_task_terminal`. -/
def followupTaskTerminal (s : CloseoutStore) (c : StoredCloseout) : Bool :=
  match given c.linkedFollowupTaskId with
  | none => true
  | some taskId => p23TaskIsTerminal s.tasks taskId

/-- Why a transition of a closeout is refused. -/
def closeoutRefusal (s : CloseoutStore) (c : StoredCloseout) (target : CloseoutState) :
    Option CloseoutDenialCode :=
  if c.state.isTerminal then some .transitionDeniedTerminal
  else if target ∉ c.state.allowed then some .transitionDeniedInvalid
  else if target = .flaggedActive ∧ c.flagObserved ≠ .observedTrue then
    some .transitionDeniedInvalid
  else if target = .awaitingCloseout ∧ s.owedStepsOpen c then some .closeDeniedOwedTasksNonterminal
  else if target = .closed then
    if s.owedStepsOpen c then some .closeDeniedOwedTasksNonterminal
    else if c.flagEverSet ∧ c.flagObserved ≠ .observedFalse then some .closeDeniedFlagStillSet
    else if c.followupOwed ∧ ¬s.followupTaskTerminal c then some .closeDeniedOwedTasksNonterminal
    else if c.sourceStatus = some .unknown then some .closeDeniedSourceUnknown
    else if c.linkedExecutionWarning then some .closeDeniedExecutionWarning
    else none
  else none

/-- `_transition_closeout`. -/
def transitionCloseout (now : Instant) (newTaskId : Uuid) (actor : Actor) (target : CloseoutState)
    (reason : Option String) (c : StoredCloseout) (s : CloseoutStore) :
    Except CloseoutDenialCode (CloseoutStore × StoredCloseout) :=
  match s.closeoutRefusal c target with
  | some code => .error code
  | none =>
    let settled :=
      settleFollowup env now newTaskId actor target (c.entering env now target reason) s.tasks
    .ok ({ s with
      closeouts := s.closeouts.put settled.2
      activeCloseoutDedup := if target.isTerminal then
        Function.update s.activeCloseoutDedup c.dedupKeyDigest none else s.activeCloseoutDedup
      tasks := settled.1 }, settled.2)

end CloseoutStore

/-- The answer to an operator: nothing but the code where there is no record. -/
structure TransitionAnswer (Record State : Type) where
  record : Option Record
  accepted : Bool
  denialCode : Option CloseoutDenialCode
  states : Option (State × State)

namespace CloseoutStore

/-- `apply_closeout_transition`. -/
def applyCloseoutTransition (now : Instant) (newTaskId : Uuid) (actor : Actor)
    (closeoutId : String) (target : CloseoutState) (reason : Option String) (s : CloseoutStore) :
    CloseoutStore × TransitionAnswer StoredCloseout CloseoutState :=
  match s.closeouts.find? closeoutId with
  | none => (s, ⟨none, false, some .closeoutNotFound, none⟩)
  | some c =>
    match s.transitionCloseout env now newTaskId actor target reason c with
    | .error code =>
      (s.emitCloseoutAudit env now actor c ("denied:closeout:" ++ target.text) c.state c.state
        reason (some code), ⟨some c, false, some code, some (c.state, c.state)⟩)
    | .ok (s', c') =>
      (s'.emitCloseoutAudit env now actor c' (c.state.text ++ "->" ++ target.text) c.state c'.state
        reason none, ⟨some c', true, none, some (c.state, c'.state)⟩)

/-- `self_assign_closeout`. -/
def selfAssignCloseout (now : Instant) (actor : Actor) (closeoutId : String) (s : CloseoutStore) :
    CloseoutStore × TransitionAnswer StoredCloseout CloseoutState :=
  match s.closeouts.find? closeoutId with
  | none => (s, ⟨none, false, some .closeoutNotFound, none⟩)
  | some c =>
    if c.state.isTerminal then
      (s.emitCloseoutAudit env now actor c "denied:self_assign" c.state c.state none
        (some .transitionDeniedTerminal),
        ⟨some c, false, some .transitionDeniedTerminal, some (c.state, c.state)⟩)
    else
      let c' : StoredCloseout :=
        { c with
          ownerActorId := actor.actorId
          ownerRole := actor.actorRole.owner?.or c.ownerRole
          updatedAt := now }
      ((s.putCloseout c').emitCloseoutAudit env now actor c' "self_assigned" c.state c.state none
        none, ⟨some c', true, none, some (c.state, c.state)⟩)

end CloseoutStore

/-! ## Step transitions -/

/-- Why a transition of a step is refused. -/
def StoredStep.refusal (st : StoredStep) (target : StepState) (evidence : Option String) :
    Option CloseoutDenialCode :=
  if st.stepState.isTerminal then some .transitionDeniedTerminal
  else if target ∉ st.stepState.allowed then some .transitionDeniedInvalid
  else if target = .done then
    match st.stepKind with
    | .actionPointer => if st.linkedExecutionTerminal then none else some .stepDoneDeniedGateOpen
    | .approvalPointer => if st.linkedApprovalResolved then none else some .stepDoneDeniedGateOpen
    | .observation => if isGiven evidence then none else some .stepDoneDeniedNoEvidence
  else none

/-- The step in a new state. -/
def StoredStep.entering (st : StoredStep) (now : Instant) (target : StepState)
    (evidence reason : Option String) : StoredStep :=
  { st with
    stepState := target
    displayStatus := computeStepDisplay target st.sourceStatus st.linkedExecutionWarning
    reasonRedacted := newReason env reason st.reasonRedacted
    evidenceRef :=
      if isGiven evidence then some (evidencePointer env (orEmpty evidence)) else st.evidenceRef
    updatedAt := now }

/-- What a transition does about the task of the step. -/
def settleStepTask (now : Instant) (newTaskId : Uuid) (actor : Actor) (target : StepState)
    (evidence : Option String) (closeoutSeverity : Severity) (st : StoredStep) (q : TaskQueue) :
    TaskQueue × StoredStep :=
  if target.isTerminal then
    resolveStepTask env now actor evidence (target = .notApplicable) st q
  else materializeStepTask env now newTaskId closeoutSeverity st q

namespace CloseoutStore

/-- `_transition_step`. -/
def transitionStep (now : Instant) (newTaskId : Uuid) (actor : Actor) (target : StepState)
    (evidence reason : Option String) (closeoutSeverity : Severity) (st : StoredStep)
    (s : CloseoutStore) : Except CloseoutDenialCode (CloseoutStore × StoredStep) :=
  match st.refusal target evidence with
  | some code => .error code
  | none =>
    let settled := settleStepTask env now newTaskId actor target evidence closeoutSeverity
      (st.entering env now target evidence reason) s.tasks
    .ok ({ s with
      steps := s.steps.put settled.2
      activeStepDedup := if target.isTerminal then
        Function.update s.activeStepDedup st.dedupKeyDigest none else s.activeStepDedup
      tasks := settled.1 }, settled.2)

/-- A step by its closeout and its id. -/
def findStep (s : CloseoutStore) (closeoutId stepId : String) : Option StoredStep :=
  (s.steps.find? stepId).filter fun st => st.closeoutId = closeoutId

/-- The severity of a closeout that may be missing. -/
def severityOf (s : CloseoutStore) (closeoutId : String) : Severity :=
  ((s.closeouts.find? closeoutId).map (·.severity)).getD .medium

/-- `apply_step_transition`. -/
def applyStepTransition (now : Instant) (newTaskId : Uuid) (actor : Actor)
    (closeoutId stepId : String) (target : StepState) (evidence reason : Option String)
    (s : CloseoutStore) : CloseoutStore × TransitionAnswer StoredStep StepState :=
  match s.findStep closeoutId stepId with
  | none => (s, ⟨none, false, some .stepNotFound, none⟩)
  | some st =>
    match s.transitionStep env now newTaskId actor target evidence reason
      (s.severityOf closeoutId) st with
    | .error code =>
      (s.emitStepAudit env now actor st ("denied:step:" ++ target.text) st.stepState st.stepState
        reason, ⟨some st, false, some code, some (st.stepState, st.stepState)⟩)
    | .ok (s', st') =>
      (s'.emitStepAudit env now actor st' (st.stepState.text ++ "->" ++ st'.stepState.text)
        st.stepState st'.stepState (if target = .done then evidence else reason),
        ⟨some st', true, none, some (st.stepState, st'.stepState)⟩)

end CloseoutStore

/-! ## Intake -/

structure IntakeResponse where
  closeout : StoredCloseout
  step : Option StoredStep
  created : Bool
  deduped : Bool
  accepted : Bool
  denialCode : Option CloseoutDenialCode

/-- `_phantom_closeout`. -/
def CloseoutIntakeEvent.phantomCloseout (event : CloseoutIntakeEvent) (now : Instant) :
    StoredCloseout where
  closeoutId := (given event.closeoutId).getD "[not-found]"
  state := .detected
  displayStatus := .none
  classification := event.classification
  severity := event.severity.getD .medium
  tenantId := event.tenantId
  actorScope := event.actorScope
  ownerRole := event.ownerRole
  ownerActorId := none
  correlationId := event.correlationId
  flagObserved := event.flagObserved.getD .observedUnknown
  flagEverSet := false
  linkedIncidentId := event.linkedIncidentId
  linkedTriageSnapshotRef := event.linkedTriageSnapshotRef
  linkedHandoffRef := event.linkedHandoffRef
  summaryRedacted := "[not-found]"
  reasonRedacted := event.reason.map (redactText env)
  sourceStatus := event.sourceStatus
  linkedExecutionWarning := event.linkedExecutionWarning.getD false
  dedupKeyDigest := ""
  ttlExpiresAt := event.ttlExpiresAt
  linkedFollowupTaskId := none
  followupOwed := false
  createdAt := now
  updatedAt := now

/-- The closeout a detected incident opens. -/
def CloseoutIntakeEvent.detected (event : CloseoutIntakeEvent) (now : Instant) (newId : Uuid)
    (severity : Severity) : StoredCloseout where
  closeoutId := idOr event.closeoutId newId
  state := .detected
  displayStatus := computeCloseoutDisplay .detected event.sourceStatus
    (event.linkedExecutionWarning.getD false)
  classification := event.classification
  severity
  tenantId := event.tenantId
  actorScope := event.actorScope
  ownerRole := event.ownerRole
  ownerActorId := none
  correlationId := event.correlationId
  flagObserved := event.flagObserved.getD .observedUnknown
  flagEverSet := event.flagObserved.getD .observedUnknown = .observedTrue
  linkedIncidentId := event.linkedIncidentId
  linkedTriageSnapshotRef := event.linkedTriageSnapshotRef
  linkedHandoffRef := event.linkedHandoffRef
  summaryRedacted := storedSummary env event.summary
  reasonRedacted := event.reason.map (redactText env)
  sourceStatus := event.sourceStatus
  linkedExecutionWarning := event.linkedExecutionWarning.getD false
  dedupKeyDigest := closeoutDedupDigest env event.correlationId event.tenantId event.linkedIncidentId
  ttlExpiresAt := event.ttlExpiresAt
  linkedFollowupTaskId := none
  followupOwed := false
  createdAt := now
  updatedAt := now

/-- The step an event adds to a closeout. -/
def CloseoutIntakeEvent.owedStep (event : CloseoutIntakeEvent) (now : Instant) (newId : Uuid)
    (c : StoredCloseout) (stepKind : StepKind) (sequenceNo : ℤ) (digest : String) :
    StoredStep where
  stepId := idOr event.stepId newId
  closeoutId := c.closeoutId
  sequenceNo
  stepKind
  stepState := .owed
  displayStatus := computeStepDisplay .owed event.sourceStatus
    (event.linkedExecutionWarning.getD false)
  tenantId := c.tenantId
  correlationId := c.correlationId
  linkedActionId := event.linkedActionId
  linkedApprovalId := event.linkedApprovalId
  linkedExecutionId := event.linkedExecutionId
  linkedSourceRef := event.linkedSourceRef
  evidenceRef := none
  summaryRedacted := storedSummary env event.summary
  reasonRedacted := event.reason.map (redactText env)
  sourceStatus := event.sourceStatus
  linkedExecutionTerminal := event.linkedExecutionTerminal.getD false
  linkedApprovalResolved := event.linkedApprovalResolved.getD false
  linkedExecutionWarning := event.linkedExecutionWarning.getD false
  dedupKeyDigest := digest
  linkedTaskId := none
  createdAt := now
  updatedAt := now

/-- The step with what an event has observed of its execution, its approval and its source. -/
def StoredStep.mirroring (st : StoredStep) (event : CloseoutIntakeEvent) : StoredStep :=
  let sourceStatus := event.sourceStatus.or st.sourceStatus
  let linkedExecutionWarning := event.linkedExecutionWarning.getD st.linkedExecutionWarning
  { st with
    sourceStatus
    linkedExecutionTerminal := event.linkedExecutionTerminal.getD st.linkedExecutionTerminal
    linkedApprovalResolved := event.linkedApprovalResolved.getD st.linkedApprovalResolved
    linkedExecutionWarning
    displayStatus := computeStepDisplay st.stepState sourceStatus linkedExecutionWarning }

/-- The closeout with the flag an event has observed. -/
def StoredCloseout.mirroring (c : StoredCloseout) (event : CloseoutIntakeEvent) : StoredCloseout :=
  { c with
    flagObserved := event.flagObserved.getD c.flagObserved
    flagEverSet := c.flagEverSet || event.flagObserved = some .observedTrue }

/-- A reason that is given is stored, whatever becomes of a transition. -/
def StoredCloseout.reasoned (c : StoredCloseout) (reason : Option String) : StoredCloseout :=
  { c with reasonRedacted := newReason env reason c.reasonRedacted }

/-- Where an observed flag takes a closeout. -/
def StoredCloseout.flagTarget (c : StoredCloseout) : Option CloseoutState :=
  match c.flagObserved, c.state with
  | .observedTrue, .triaged => some .flaggedActive
  | .observedTrue, .inRemediation => some .flaggedActive
  | .observedFalse, .flaggedActive => some .awaitingCloseout
  | _, _ => none

namespace CloseoutStore

/-- The active closeout that takes a repeated incident. -/
def absorbingCloseout (s : CloseoutStore) (event : CloseoutIntakeEvent) : Option StoredCloseout :=
  (given (s.activeCloseoutDedup
    (closeoutDedupDigest env event.correlationId event.tenantId event.linkedIncidentId))).bind
    s.closeouts.find?

/-- `_ingest_incident_detected`. -/
def ingestIncidentDetected (now : Instant) (newId : Uuid) (actor : Actor)
    (event : CloseoutIntakeEvent) (s : CloseoutStore) : CloseoutStore × IntakeResponse :=
  match s.absorbingCloseout env event with
  | some c =>
    let c' : StoredCloseout :=
      { c with reasonRedacted := newReason env event.reason c.reasonRedacted, updatedAt := now }
    ((s.putCloseout c').emitCloseoutAudit env now actor c' "replayed:incident_detected" c.state
      c.state (some event.summary) none, ⟨c', none, false, true, true, none⟩)
  | none =>
    let severity := s.severityFor event.severity event.sourceStatus
      (event.linkedExecutionWarning.getD false) event.correlationId event.tenantId
    let c := event.detected env now newId severity
    (({ s with
        closeouts := s.closeouts.put c
        closeoutStepOrder := Function.update s.closeoutStepOrder c.closeoutId []
        activeCloseoutDedup := Function.update s.activeCloseoutDedup c.dedupKeyDigest
          (some c.closeoutId)
        closeoutAuditSeq := Function.update s.closeoutAuditSeq c.closeoutId 0 } : CloseoutStore)
      |>.emitCloseoutAudit env now actor c "materialized:detected" .detected .detected
        (some event.summary) none, ⟨c, none, true, false, true, none⟩)

/-- A transition by intake: made and audited, or audited as denied. -/
def transitionByIntake (now : Instant) (newTaskId : Uuid) (actor : Actor) (action : String)
    (target : CloseoutState) (reason : Option String) (c : StoredCloseout) (s : CloseoutStore) :
    CloseoutStore × IntakeResponse :=
  match s.transitionCloseout env now newTaskId actor target reason c with
  | .error code =>
    (s.emitCloseoutAudit env now actor c ("denied:" ++ action) c.state c.state reason (some code),
      ⟨c, none, false, false, false, some code⟩)
  | .ok (s', c') =>
    (s'.emitCloseoutAudit env now actor c' (c.state.text ++ "->" ++ c'.state.text) c.state c'.state
      reason none, ⟨c', none, false, false, true, none⟩)

/-- `_ingest_incident_classified`. -/
def ingestIncidentClassified (now : Instant) (newTaskId : Uuid) (actor : Actor)
    (event : CloseoutIntakeEvent) (c : StoredCloseout) (s : CloseoutStore) :
    CloseoutStore × IntakeResponse :=
  let c := { c with classification := event.classification.or c.classification }
  (s.putCloseout c).transitionByIntake env now newTaskId actor "intake:classify" .triaged
    event.reason c

/-- `_ingest_incident_flag_observed`. -/
def ingestIncidentFlagObserved (now : Instant) (newTaskId : Uuid) (actor : Actor)
    (event : CloseoutIntakeEvent) (c : StoredCloseout) (s : CloseoutStore) :
    CloseoutStore × IntakeResponse :=
  let c := c.mirroring event
  match c.flagTarget with
  | none =>
    let c' := { c with updatedAt := now }.reasoned env event.reason
    ((s.putCloseout c').emitCloseoutAudit env now actor c' "mirrored:flag_observed" c.state c.state
      event.reason none, ⟨c', none, false, false, true, none⟩)
  | some target =>
    match (s.putCloseout c).transitionCloseout env now newTaskId actor target event.reason c with
    | .error code =>
      let c' := c.reasoned env event.reason
      ((s.putCloseout c').emitCloseoutAudit env now actor c' "denied:intake:flag_observed" c.state
        c.state event.reason (some code), ⟨c', none, false, false, false, some code⟩)
    | .ok (s', c') =>
      let c'' := c'.reasoned env event.reason
      ((s'.putCloseout c'').emitCloseoutAudit env now actor c''
        (c.state.text ++ "->" ++ c'.state.text) c.state c'.state event.reason none,
        ⟨c'', none, false, false, true, none⟩)

/-- `_denied_intake`. -/
def deniedIntake (now : Instant) (actor : Actor) (action : String) (code : CloseoutDenialCode)
    (reason : Option String) (c : StoredCloseout) (s : CloseoutStore) :
    CloseoutStore × IntakeResponse :=
  (s.emitCloseoutAudit env now actor c ("denied:" ++ action) c.state c.state reason (some code),
    ⟨c, none, false, false, false, some code⟩)

/-- `_ingest_closeout_transition`. -/
def ingestCloseoutTransition (now : Instant) (newTaskId : Uuid) (actor : Actor)
    (event : CloseoutIntakeEvent) (c : StoredCloseout) (s : CloseoutStore) :
    CloseoutStore × IntakeResponse :=
  match event.targetState with
  | none =>
    s.deniedIntake env now actor "intake:closeout_transition" .transitionDeniedInvalid event.reason c
  | some target =>
    let answer := s.applyCloseoutTransition env now newTaskId actor c.closeoutId target event.reason
    (answer.1, ⟨answer.2.record.getD c, none, false, false, answer.2.accepted,
      answer.2.denialCode⟩)

/-- `_next_sequence`. -/
def nextSequence (s : CloseoutStore) (closeoutId : String) : ℤ :=
  (s.closeoutStepOrder closeoutId).length + 1

/-- `_new_step`, less the record itself. -/
def addStep (st : StoredStep) (s : CloseoutStore) : CloseoutStore :=
  { s with
    steps := s.steps.put st
    closeoutStepOrder := Function.update s.closeoutStepOrder st.closeoutId
      (s.closeoutStepOrder st.closeoutId ++ [st.stepId])
    activeStepDedup := Function.update s.activeStepDedup st.dedupKeyDigest (some st.stepId)
    stepAuditSeq := Function.update s.stepAuditSeq st.stepId 0 }

/-- `_maybe_enter_remediation`. -/
def maybeEnterRemediation (now : Instant) (newTaskId : Uuid) (actor : Actor) (c : StoredCloseout)
    (s : CloseoutStore) : CloseoutStore × StoredCloseout :=
  if c.state = .triaged ∨ c.state = .flaggedActive then
    match s.transitionCloseout env now newTaskId actor .inRemediation none c with
    | .error _ => (s, c)
    | .ok (s', c') =>
      (s'.emitCloseoutAudit env now actor c' (c.state.text ++ "->in_remediation") c.state c'.state
        none none, c')
  else (s, c)

/-- The active step that takes a repeated event. -/
def absorbingStep (s : CloseoutStore) (digest : String) : Option StoredStep :=
  (given (s.activeStepDedup digest)).bind s.steps.find?

/-- The sequence number of the step an event is about. -/
def sequenceFor (s : CloseoutStore) (event : CloseoutIntakeEvent) (c : StoredCloseout) : ℤ :=
  event.sequenceNo.getD (s.nextSequence c.closeoutId)

/-- The dedup digest of the step an event is about. -/
def owedDigest (s : CloseoutStore) (event : CloseoutIntakeEvent) (c : StoredCloseout) : String :=
  stepDedupDigest env c.closeoutId (s.sequenceFor event c) (event.stepKind.getD .observation)
    event.tenantId

/-- `_ingest_runbook_step` for a step that is owed. -/
def ingestStepOwed (now : Instant) (newId newTaskId : Uuid) (actor : Actor)
    (event : CloseoutIntakeEvent) (c : StoredCloseout) (s : CloseoutStore) :
    CloseoutStore × IntakeResponse :=
  match s.absorbingStep (s.owedDigest env event c) with
  | some st =>
    let st' := { st with updatedAt := now }
    ((s.putStep st').emitStepAudit env now actor st' "replayed:runbook_step_owed" st.stepState
      st.stepState (some event.summary), ⟨c, some st', false, true, true, none⟩)
  | none =>
    let st := event.owedStep env now newId c (event.stepKind.getD .observation)
      (s.sequenceFor event c) (s.owedDigest env event c)
    let remediated := (s.addStep st).maybeEnterRemediation env now newTaskId actor c
    let settled := materializeStepTask env now newTaskId remediated.2.severity st remediated.1.tasks
    (({ remediated.1 with
        steps := remediated.1.steps.put settled.2
        tasks := settled.1 } : CloseoutStore)
      |>.emitStepAudit env now actor settled.2 "materialized:owed" .owed .owed (some event.summary),
      ⟨remediated.2, some settled.2, false, false, true, none⟩)

/-- `_ingest_runbook_step` for the progress or the end of a step. -/
def ingestStepChange (now : Instant) (newTaskId : Uuid) (actor : Actor) (target : StepState)
    (evidence : Option String) (event : CloseoutIntakeEvent) (c : StoredCloseout)
    (s : CloseoutStore) : CloseoutStore × IntakeResponse :=
  match (given event.stepId).bind (s.findStep c.closeoutId) with
  | none =>
    s.deniedIntake env now actor ("intake:" ++ event.eventType.text) .stepNotFound
      (some event.summary) c
  | some st =>
    let answer := (s.putStep (st.mirroring event)).applyStepTransition env now newTaskId actor
      c.closeoutId st.stepId target evidence event.reason
    (answer.1, ⟨c, answer.2.record, false, false, answer.2.accepted, answer.2.denialCode⟩)

/-- `ingest_event`. -/
def ingestEvent (now : Instant) (newId newTaskId : Uuid) (actor : Actor)
    (event : CloseoutIntakeEvent) (s : CloseoutStore) : CloseoutStore × IntakeResponse :=
  if event.eventType = .incidentDetected then s.ingestIncidentDetected env now newId actor event
  else
    match (given event.closeoutId).bind s.closeouts.find? with
    | none => (s, ⟨event.phantomCloseout env now, none, false, false, false, some .closeoutNotFound⟩)
    | some c =>
      match event.eventType with
      | .incidentDetected => s.ingestIncidentDetected env now newId actor event
      | .incidentClassified => s.ingestIncidentClassified env now newTaskId actor event c
      | .incidentFlagObserved => s.ingestIncidentFlagObserved env now newTaskId actor event c
      | .closeoutTransition => s.ingestCloseoutTransition env now newTaskId actor event c
      | .runbookStepOwed => s.ingestStepOwed env now newId newTaskId actor event c
      | .runbookStepProgress => s.ingestStepChange env now newTaskId actor .inProgress none event c
      | .runbookStepTerminal => s.ingestStepChange env now newTaskId actor .done event.evidence event c

/-- `read_runbook`. -/
def readRunbook (s : CloseoutStore) (closeoutId : String) : Option (List StoredStep) :=
  (s.closeouts.find? closeoutId).map fun _ => s.stepsFor closeoutId

end CloseoutStore

/-! ## Runs -/

inductive CloseoutCall
  | ingest (event : CloseoutIntakeEvent)
  | closeoutTransition (closeoutId : String) (target : CloseoutState) (reason : Option String)
  | stepTransition (closeoutId stepId : String) (target : StepState)
      (evidence reason : Option String)
  | selfAssign (closeoutId : String)
  | acknowledgeTask (taskId : String) (payload : Option TransitionRequest)
  | inProgressTask (taskId : String) (payload : Option TransitionRequest)

/-- A call, by an actor, at a time, with the ids it draws if it needs them. -/
structure CloseoutRequest where
  now : Instant
  actor : Actor
  newId : Uuid
  newTaskId : Uuid
  call : CloseoutCall

/-- The store after a call. -/
def CloseoutStore.step (s : CloseoutStore) (r : CloseoutRequest) : CloseoutStore :=
  match r.call with
  | .ingest event => (s.ingestEvent env r.now r.newId r.newTaskId r.actor event).1
  | .closeoutTransition closeoutId target reason =>
    (s.applyCloseoutTransition env r.now r.newTaskId r.actor closeoutId target reason).1
  | .stepTransition closeoutId stepId target evidence reason =>
    (s.applyStepTransition env r.now r.newTaskId r.actor closeoutId stepId target evidence
      reason).1
  | .selfAssign closeoutId => (s.selfAssignCloseout env r.now r.actor closeoutId).1
  | .acknowledgeTask taskId payload =>
    { s with tasks := (s.tasks.acknowledgeTask env r.now r.actor taskId payload).1 }
  | .inProgressTask taskId payload =>
    { s with tasks := (s.tasks.markInProgressTask env r.now r.actor taskId payload).1 }

end Incident

end Mpango
