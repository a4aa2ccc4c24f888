import Mpango.Model.OperatorTasks

/-!
# What the operations on tasks do

A repeated event and a rerank change the severity of tasks and little else, so most facts about the
queue are about the `Standing` of its tasks: their type, their state and their dedup digest. Each
operation leaves every standing as it is but for the one task it adds or moves.

`TaskQueue.step_outcome` lists what a call can do to the queue.
-/

namespace Mpango

namespace Operator

variable {env : Primitives} {now : Instant} {q : TaskQueue}

/-! ## Standings -/

/-- What a task is for, and where it stands. -/
structure Standing where
  taskType : TaskType
  state : TaskState
  digest : String
  deriving DecidableEq

def StoredTask.standing (t : StoredTask) : Standing := ⟨t.taskType, t.state, t.dedupKeyDigest⟩

theorem StoredTask.isActive_iff {t : StoredTask} : t.isActive = true ↔ t.state.isTerminal = false := by
  simp [isActive]

namespace TaskQueue

/-- The standing of a task, if there is one with the id. -/
def standing (q : TaskQueue) (taskId : String) : Option Standing :=
  (q.tasks.find? taskId).map (·.standing)

theorem standing_of_mem {t : StoredTask} (h : t ∈ q.tasks) :
    q.standing t.taskId = some t.standing := by
  have hfind : q.tasks.find? t.taskId = some t := Table.find?_key h
  rw [standing, hfind, Option.map_some]

theorem standing_eq_some {taskId : String} {x : Standing} :
    q.standing taskId = some x ↔ ∃ t ∈ q.tasks, t.taskId = taskId ∧ t.standing = x := by
  rw [standing, Option.map_eq_some_iff]
  constructor
  · rintro ⟨t, hfind, hx⟩
    obtain ⟨ht, hkey⟩ := Table.find?_eq_some.mp hfind
    exact ⟨t, ht, hkey, hx⟩
  · rintro ⟨t, ht, rfl, hx⟩
    exact ⟨t, Table.find?_key ht, hx⟩

theorem standing_eq_none {taskId : String} :
    q.standing taskId = none ↔ q.tasks.find? taskId = none := by
  rw [standing, Option.map_eq_none_iff]

/-- Assigning a task changes the standing under its id alone. -/
theorem standing_put {t : StoredTask} {q' : TaskQueue} (h : q'.tasks = q.tasks.put t) :
    q'.standing = Function.update q.standing t.taskId (some t.standing) := by
  funext id
  unfold standing
  rw [h]
  by_cases hid : id = t.taskId
  · subst hid
    have hself : (q.tasks.put t).find? t.taskId = some t := Table.find?_put_self (r := t)
    rw [Function.update_self, hself, Option.map_some]
  · have hother : (q.tasks.put t).find? id = q.tasks.find? id := Table.find?_put_of_ne (r := t) hid
    rw [Function.update_of_ne hid, hother]

/-- Assigning a task in its own place, with its standing, changes no standing. -/
theorem standing_put_same {t t' : StoredTask} {q' : TaskQueue} (h : q'.tasks = q.tasks.put t')
    (ht : t ∈ q.tasks) (hid : t'.taskId = t.taskId) (hstanding : t'.standing = t.standing) :
    q'.standing = q.standing := by
  rw [standing_put h, hid, hstanding, ← standing_of_mem ht, Function.update_eq_self]

/-! ## Audit and notifications -/

section Audit
variable {actor : Actor} {task : StoredTask} {transition : String} {previous next : TaskState}
  {reason : Option String} {code : Option TransitionDenialCode}

@[simp] theorem emitAudit_tasks :
    (q.emitAudit env now actor task transition previous next reason code).tasks = q.tasks := rfl

@[simp] theorem emitAudit_activeDedup :
    (q.emitAudit env now actor task transition previous next reason code).activeDedup =
      q.activeDedup := rfl

@[simp] theorem emitAudit_notifications :
    (q.emitAudit env now actor task transition previous next reason code).notifications =
      q.notifications := rfl

@[simp] theorem emitAudit_inflight :
    (q.emitAudit env now actor task transition previous next reason code).inflight =
      q.inflight := rfl

@[simp] theorem emitAudit_standing :
    (q.emitAudit env now actor task transition previous next reason code).standing =
      q.standing := rfl

/-- The audit event an emission appends. -/
theorem emitAudit_audit (env : Primitives) (now : Instant) (actor : Actor) (task : StoredTask)
    (transition : String) (previous next : TaskState) (reason : Option String)
    (code : Option TransitionDenialCode) (q : TaskQueue) :
    ∃ e : TaskAuditEvent, (q.emitAudit env now actor task transition previous next reason code).audit =
      q.audit ++ [e] ∧ e.taskId = task.taskId ∧ e.sequenceNo = q.auditSeq task.taskId + 1 :=
  ⟨_, rfl, rfl, rfl⟩

theorem emitAudit_auditSeq :
    (q.emitAudit env now actor task transition previous next reason code).auditSeq =
      Function.update q.auditSeq task.taskId (q.auditSeq task.taskId + 1) := rfl

end Audit

section Notify
variable {eventId : Uuid} {task : StoredTask} {channel : NotificationChannel}
  {summary : Option String} {role : Option OwnerRole} {event : IntakeEvent}

/-- A notification touches the notifications alone. -/
theorem recordNotification_frame (env : Primitives) (now : Instant) (eventId : Uuid)
    (task : StoredTask) (channel : NotificationChannel) (summary : Option String)
    (role : Option OwnerRole) (q : TaskQueue) :
    ∃ notifications inflight,
      (q.recordNotification env now eventId task channel summary role).1 =
        { q with notifications, inflight } := by
  unfold recordNotification
  split
  · exact ⟨q.notifications, q.inflight, rfl⟩
  · exact ⟨_, _, rfl⟩

theorem notifyFor_frame (env : Primitives) (now : Instant) (eventId : Uuid) (event : IntakeEvent)
    (task : StoredTask) (q : TaskQueue) :
    ∃ notifications inflight,
      q.notifyFor env now eventId event task = { q with notifications, inflight } := by
  unfold notifyFor
  split
  · exact ⟨q.notifications, q.inflight, rfl⟩
  · exact recordNotification_frame env now eventId task _ _ _ q

@[simp] theorem notifyFor_tasks : (q.notifyFor env now eventId event task).tasks = q.tasks := by
  obtain ⟨_, _, h⟩ := notifyFor_frame env now eventId event task q
  rw [h]

@[simp] theorem notifyFor_activeDedup :
    (q.notifyFor env now eventId event task).activeDedup = q.activeDedup := by
  obtain ⟨_, _, h⟩ := notifyFor_frame env now eventId event task q
  rw [h]

@[simp] theorem notifyFor_audit : (q.notifyFor env now eventId event task).audit = q.audit := by
  obtain ⟨_, _, h⟩ := notifyFor_frame env now eventId event task q
  rw [h]

@[simp] theorem notifyFor_auditSeq :
    (q.notifyFor env now eventId event task).auditSeq = q.auditSeq := by
  obtain ⟨_, _, h⟩ := notifyFor_frame env now eventId event task q
  rw [h]

@[simp] theorem notifyFor_standing :
    (q.notifyFor env now eventId event task).standing = q.standing := by
  obtain ⟨_, _, h⟩ := notifyFor_frame env now eventId event task q
  rw [h]
  rfl

end Notify

/-! ## Reranks -/

section Rerank
variable {correlationId : String} {tenantId : Option String}

/-- The level a rerank lifts the peers to. -/
def floor (q : TaskQueue) (correlationId : String) (tenantId : Option String) : Severity :=
  let peers := q.tasks.select (·.isPeer correlationId tenantId)
  if peers.any (·.taskType.isForceHigh) then .high
  else if peers.any (·.severity = .high) then .medium
  else .low

/-- A task after a rerank. -/
def reranked (q : TaskQueue) (now : Instant) (correlationId : String) (tenantId : Option String)
    (t : StoredTask) : StoredTask :=
  if t.isPeer correlationId tenantId then lifted now (q.floor correlationId tenantId) t else t

theorem lifted_low (t : StoredTask) : lifted now .low t = t := by
  have hlow : ¬t.severity < .low := by cases t.severity <;> decide
  rw [lifted, if_neg hlow]

@[simp] theorem rerank_activeDedup :
    (q.rerankCorrelation now correlationId tenantId).activeDedup = q.activeDedup := by
  unfold rerankCorrelation
  dsimp only
  split_ifs <;> rfl

@[simp] theorem rerank_audit :
    (q.rerankCorrelation now correlationId tenantId).audit = q.audit := by
  unfold rerankCorrelation
  dsimp only
  split_ifs <;> rfl

@[simp] theorem rerank_auditSeq :
    (q.rerankCorrelation now correlationId tenantId).auditSeq = q.auditSeq := by
  unfold rerankCorrelation
  dsimp only
  split_ifs <;> rfl

@[simp] theorem rerank_notifications :
    (q.rerankCorrelation now correlationId tenantId).notifications = q.notifications := by
  unfold rerankCorrelation
  dsimp only
  split_ifs <;> rfl

@[simp] theorem rerank_inflight :
    (q.rerankCorrelation now correlationId tenantId).inflight = q.inflight := by
  unfold rerankCorrelation
  dsimp only
  split_ifs <;> rfl

theorem find?_rerank (taskId : String) :
    (q.rerankCorrelation now correlationId tenantId).tasks.find? taskId =
      (q.tasks.find? taskId).map (q.reranked now correlationId tenantId) := by
  have hlift : ∀ level, q.floor correlationId tenantId = level →
      (q.tasks.updateWhere (·.isPeer correlationId tenantId) (lifted now level)
        (key_lifted now level)).find? taskId =
      (q.tasks.find? taskId).map (q.reranked now correlationId tenantId) := by
    rintro level rfl
    exact Table.find?_updateWhere taskId
  unfold rerankCorrelation
  dsimp only
  split_ifs with hforce hhigh
  · exact hlift .high (if_pos hforce)
  · exact hlift .medium ((if_neg hforce).trans (if_pos hhigh))
  · have hfloor : q.floor correlationId tenantId = .low := (if_neg hforce).trans (if_neg hhigh)
    have hid : q.reranked now correlationId tenantId = id := by
      funext t
      unfold reranked
      rw [hfloor, lifted_low, ite_self, id]
    rw [hid, Option.map_id, id]

/-- A rerank changes the severity of a task, and the time. -/
theorem reranked_frame (q : TaskQueue) (now : Instant) (correlationId : String)
    (tenantId : Option String) (t : StoredTask) :
    ∃ severity updatedAt, q.reranked now correlationId tenantId t = { t with severity, updatedAt } := by
  unfold reranked lifted
  split_ifs
  · exact ⟨_, _, rfl⟩
  · exact ⟨t.severity, t.updatedAt, rfl⟩
  · exact ⟨t.severity, t.updatedAt, rfl⟩

theorem reranked_standing (t : StoredTask) :
    (q.reranked now correlationId tenantId t).standing = t.standing := by
  obtain ⟨_, _, h⟩ := reranked_frame q now correlationId tenantId t
  rw [h]
  rfl

theorem reranked_taskId (t : StoredTask) :
    (q.reranked now correlationId tenantId t).taskId = t.taskId := by
  obtain ⟨_, _, h⟩ := reranked_frame q now correlationId tenantId t
  rw [h]

theorem mem_rerank {x : StoredTask} : x ∈ (q.rerankCorrelation now correlationId tenantId).tasks ↔
    ∃ t ∈ q.tasks, x = q.reranked now correlationId tenantId t := by
  constructor
  · intro hx
    have hfind : (q.rerankCorrelation now correlationId tenantId).tasks.find? x.taskId = some x :=
      Table.find?_key hx
    rw [find?_rerank] at hfind
    obtain ⟨t, ht, rfl⟩ := Option.map_eq_some_iff.mp hfind
    exact ⟨t, Table.mem_of_find? ht, rfl⟩
  · rintro ⟨t, ht, rfl⟩
    have hfind : q.tasks.find? t.taskId = some t := Table.find?_key ht
    refine Table.mem_of_find? (k := t.taskId) ?_
    rw [find?_rerank, hfind, Option.map_some]

@[simp] theorem rerank_standing :
    (q.rerankCorrelation now correlationId tenantId).standing = q.standing := by
  funext id
  unfold standing
  rw [find?_rerank, Option.map_map]
  congr 1
  funext t
  exact reranked_standing t

end Rerank

/-! ## Intake -/

section Intake
variable {newId notificationId : Uuid} {event : IntakeEvent} {task : StoredTask}

/-- What absorbs an event is a task in the index under its digest. -/
theorem absorbing_eq_some : q.absorbing env event = some task ↔
    q.activeDedup (event.dedupKeyDigest env) = some task.taskId ∧ task ∈ q.tasks := by
  rw [absorbing, Option.bind_eq_some_iff]
  constructor
  · rintro ⟨taskId, hindex, hfind⟩
    obtain ⟨ht, hkey⟩ := Table.find?_eq_some.mp hfind
    have hid : task.taskId = taskId := hkey
    exact ⟨hid ▸ hindex, ht⟩
  · rintro ⟨hindex, ht⟩
    exact ⟨task.taskId, hindex, Table.find?_key ht⟩

theorem replay_standing (htask : task ∈ q.tasks) :
    (q.replay env now event task).standing = q.standing := by
  unfold replay
  rw [rerank_standing]
  exact standing_put_same rfl htask rfl rfl

@[simp] theorem replay_activeDedup :
    (q.replay env now event task).activeDedup = q.activeDedup := by
  unfold replay
  exact rerank_activeDedup

@[simp] theorem replay_audit : (q.replay env now event task).audit = q.audit := by
  unfold replay
  exact rerank_audit

@[simp] theorem replay_auditSeq : (q.replay env now event task).auditSeq = q.auditSeq := by
  unfold replay
  exact rerank_auditSeq

@[simp] theorem replay_notifications :
    (q.replay env now event task).notifications = q.notifications := by
  unfold replay
  exact rerank_notifications

@[simp] theorem replay_inflight : (q.replay env now event task).inflight = q.inflight := by
  unfold replay
  exact rerank_inflight

/-- The queue with a new task in it. -/
def entered (q : TaskQueue) (task : StoredTask) : TaskQueue :=
  { q with
    tasks := q.tasks.put task
    activeDedup := Function.update q.activeDedup task.dedupKeyDigest (some task.taskId)
    auditSeq := Function.update q.auditSeq task.taskId 0 }

theorem entered_auditSeq (q : TaskQueue) (task : StoredTask) :
    (q.entered task).auditSeq = Function.update q.auditSeq task.taskId 0 := rfl

/-- The task an event becomes in a queue. -/
def newTask (env : Primitives) (now : Instant) (newId : Uuid) (event : IntakeEvent)
    (q : TaskQueue) : StoredTask :=
  event.materialized env now newId
    (q.severityFor event.taskType event.severity event.correlationId event.tenantId)

/-- Materializing enters the task, audits it and reranks its peers. -/
theorem materialize_eq (env : Primitives) (now : Instant) (newId : Uuid) (event : IntakeEvent)
    (q : TaskQueue) : q.materialize env now newId event =
      rerankCorrelation now (q.newTask env now newId event).correlationId
        (q.newTask env now newId event).tenantId
        ((q.entered (q.newTask env now newId event)).emitAudit env now ⟨none, .system⟩
          (q.newTask env now newId event) "materialized" .open .open (some event.summary) none) :=
  rfl

theorem newTask_taskId : (q.newTask env now newId event).taskId = newId.text := rfl

theorem newTask_standing : (q.newTask env now newId event).standing =
    ⟨event.taskType, .open, event.dedupKeyDigest env⟩ := rfl

theorem newTask_digest :
    (q.newTask env now newId event).dedupKeyDigest = event.dedupKeyDigest env := rfl

theorem entered_standing (q : TaskQueue) (task : StoredTask) :
    (q.entered task).standing = Function.update q.standing task.taskId (some task.standing) :=
  standing_put rfl

theorem materialize_standing : (q.materialize env now newId event).standing =
    Function.update q.standing newId.text
      (some ⟨event.taskType, .open, event.dedupKeyDigest env⟩) := by
  rw [materialize_eq, rerank_standing, emitAudit_standing, entered_standing, newTask_taskId,
    newTask_standing]

theorem materialize_activeDedup : (q.materialize env now newId event).activeDedup =
    Function.update q.activeDedup (event.dedupKeyDigest env) (some newId.text) := by
  rw [materialize_eq, rerank_activeDedup, emitAudit_activeDedup, entered, newTask_taskId,
    newTask_digest]

theorem materialize_audit : ∃ e : TaskAuditEvent,
    (q.materialize env now newId event).audit = q.audit ++ [e] ∧ e.taskId = newId.text ∧
      e.sequenceNo = 1 := by
  rw [materialize_eq, rerank_audit]
  obtain ⟨e, haudit, hid, hseq⟩ := emitAudit_audit env now ⟨none, .system⟩
    (q.newTask env now newId event) "materialized" .open .open (some event.summary) none
    (q.entered (q.newTask env now newId event))
  refine ⟨e, haudit, hid, ?_⟩
  rw [hseq, entered_auditSeq, newTask_taskId, Function.update_self]

theorem materialize_auditSeq : (q.materialize env now newId event).auditSeq =
    Function.update q.auditSeq newId.text 1 := by
  rw [materialize_eq, rerank_auditSeq, emitAudit_auditSeq, entered_auditSeq, newTask_taskId,
    Function.update_self, Function.update_idem]

@[simp] theorem materialize_notifications :
    (q.materialize env now newId event).notifications = q.notifications := by
  rw [materialize_eq, rerank_notifications, emitAudit_notifications, entered]

@[simp] theorem materialize_inflight :
    (q.materialize env now newId event).inflight = q.inflight := by
  rw [materialize_eq, rerank_inflight, emitAudit_inflight, entered]

/-- The answer to an event names the task that took it. -/
theorem upsert_task (env : Primitives) (now : Instant) (newId notificationId : Uuid)
    (event : IntakeEvent) (q : TaskQueue) :
    (q.upsertTaskFromEvent env now newId notificationId event).2.task.taskId =
      ((q.absorbing env event).map (·.taskId)).getD newId.text := by
  have hcurrent : ∀ (q : TaskQueue) (t : StoredTask), (q.current t).taskId = t.taskId := by
    intro q t
    unfold current
    cases hfind : q.tasks.find? t.taskId with
    | none => rfl
    | some t' => exact Table.key_of_find? hfind
  unfold upsertTaskFromEvent
  cases q.absorbing env event with
  | some task => exact hcurrent _ _
  | none => exact hcurrent _ _

/-- An event changes the standing of no task, or adds an open one under a new id. -/
theorem upsert_standing :
    (q.upsertTaskFromEvent env now newId notificationId event).1.standing =
      match q.absorbing env event with
      | some _ => q.standing
      | none => Function.update q.standing newId.text
          (some ⟨event.taskType, .open, event.dedupKeyDigest env⟩) := by
  unfold upsertTaskFromEvent
  cases habsorbs : q.absorbing env event with
  | some task =>
    have htask : task ∈ q.tasks := (absorbing_eq_some.mp habsorbs).2
    simp only [notifyFor_standing, replay_standing htask]
  | none => simp only [notifyFor_standing, materialize_standing]

theorem upsert_activeDedup :
    (q.upsertTaskFromEvent env now newId notificationId event).1.activeDedup =
      match q.absorbing env event with
      | some _ => q.activeDedup
      | none => Function.update q.activeDedup (event.dedupKeyDigest env) (some newId.text) := by
  unfold upsertTaskFromEvent
  cases q.absorbing env event with
  | some task => simp only [notifyFor_activeDedup, replay_activeDedup]
  | none => simp only [notifyFor_activeDedup, materialize_activeDedup]

end Intake

/-! ## Transitions -/

section Transition
variable {actor : Actor} {action : String} {target : TaskState} {taskId : String}
  {payload : Option TransitionRequest} {task : StoredTask}

/-- A transition that is not refused is allowed, from a state that is not terminal. -/
theorem refusal_eq_none (h : task.refusal target action payload = none) :
    task.state.isTerminal = false ∧ target ∈ task.state.allowed ∧ (target = .completed →
      (isGiven (TransitionRequest.evidenceOf payload) = true ∨
        isGiven (TransitionRequest.evidenceRefOf payload) = true) ∧
      task.linkedGateOpen = false) := by
  unfold StoredTask.refusal at h
  split at h
  · cases h
  · next hterminal =>
    split at h
    · cases h
    · next hallowed =>
      refine ⟨by simpa using hterminal, not_not.mp hallowed, fun hcompleted => ?_⟩
      rw [if_pos hcompleted] at h
      split at h
      · cases h
      · next hevidence =>
        split at h
        · cases h
        · next hgate => exact ⟨not_not.mp hevidence, by simpa using hgate⟩

/-- The queue after a transition that is not refused. -/
def afterMove (env : Primitives) (now : Instant) (actor : Actor) (target : TaskState)
    (payload : Option TransitionRequest) (task : StoredTask) (q : TaskQueue) : TaskQueue :=
  ({ q with
      tasks := q.tasks.put (task.moved env now target payload)
      activeDedup := if target.isTerminal then
        Function.update q.activeDedup task.dedupKeyDigest none else q.activeDedup } : TaskQueue)
    |>.emitAudit env now actor (task.moved env now target payload)
      (task.state.text ++ "->" ++ target.text) task.state target
      (TransitionRequest.auditReason payload target) none

/-- An attempt finds no task, is refused, or moves the task. -/
inductive Attempt (env : Primitives) (now : Instant) (actor : Actor) (action : String)
    (target : TaskState) (taskId : String) (payload : Option TransitionRequest) (q : TaskQueue) :
    TaskQueue × TransitionResponse → Prop
  | missing (hfind : q.tasks.find? taskId = none) :
      Attempt env now actor action target taskId payload q
        (q, ⟨false, notFoundTask now taskId, "denied:" ++ action, .open, .open, some .taskNotFound⟩)
  | denied (task : StoredTask) (htask : task ∈ q.tasks) (hid : task.taskId = taskId)
      (code : TransitionDenialCode) (transition : String)
      (hrefusal : task.refusal target action payload = some (code, transition)) :
      Attempt env now actor action target taskId payload q
        (q.deny env now actor task code transition (TransitionRequest.reasonOf payload))
  | moved (task : StoredTask) (htask : task ∈ q.tasks) (hid : task.taskId = taskId)
      (hrefusal : task.refusal target action payload = none) :
      Attempt env now actor action target taskId payload q
        (q.afterMove env now actor target payload task,
          ⟨true, task.moved env now target payload, task.state.text ++ "->" ++ target.text,
            task.state, target, none⟩)

theorem applyTransition_attempt :
    Attempt env now actor action target taskId payload q
      (q.applyTransition env now actor action target taskId payload) := by
  unfold applyTransition
  cases hfind : q.tasks.find? taskId with
  | none => exact .missing hfind
  | some task =>
    obtain ⟨htask, hkey⟩ := Table.find?_eq_some.mp hfind
    dsimp only
    cases hrefusal : task.refusal target action payload with
    | some refusal =>
      obtain ⟨code, transition⟩ := refusal
      exact .denied task htask hkey code transition hrefusal
    | none => exact .moved task htask hkey hrefusal

theorem afterMove_tasks : (q.afterMove env now actor target payload task).tasks =
    q.tasks.put (task.moved env now target payload) := rfl

theorem afterMove_audit : ∃ e : TaskAuditEvent,
    (q.afterMove env now actor target payload task).audit = q.audit ++ [e] ∧
      e.taskId = task.taskId ∧ e.sequenceNo = q.auditSeq task.taskId + 1 :=
  ⟨_, rfl, rfl, rfl⟩

theorem afterMove_auditSeq : (q.afterMove env now actor target payload task).auditSeq =
    Function.update q.auditSeq task.taskId (q.auditSeq task.taskId + 1) := rfl

theorem afterMove_standing : (q.afterMove env now actor target payload task).standing =
    Function.update q.standing task.taskId
      (some ⟨task.taskType, target, task.dedupKeyDigest⟩) :=
  standing_put afterMove_tasks

theorem afterMove_activeDedup : (q.afterMove env now actor target payload task).activeDedup =
    if target.isTerminal then Function.update q.activeDedup task.dedupKeyDigest none
    else q.activeDedup := rfl

/-- The queue after a task has been assigned to an actor. -/
def afterAssign (env : Primitives) (now : Instant) (actor : Actor)
    (payload : Option TransitionRequest) (task task' : StoredTask) (q : TaskQueue) : TaskQueue :=
  ({ q with tasks := q.tasks.put task' } : TaskQueue)
    |>.emitAudit env now actor task' "self_assigned" task.state task.state
      (TransitionRequest.reasonOf payload) none

/-- A self-assignment finds no task, is refused on a terminal task, or changes the owner. -/
inductive Assignment (env : Primitives) (now : Instant) (actor : Actor) (taskId : String)
    (payload : Option TransitionRequest) (q : TaskQueue) : TaskQueue × TransitionResponse → Prop
  | missing (hfind : q.tasks.find? taskId = none) (response : TransitionResponse) :
      Assignment env now actor taskId payload q (q, response)
  | denied (task : StoredTask) (htask : task ∈ q.tasks) (hid : task.taskId = taskId)
      (hterminal : task.state.isTerminal = true) :
      Assignment env now actor taskId payload q
        (q.deny env now actor task .transitionDeniedTerminal "denied:self_assign"
          (TransitionRequest.reasonOf payload))
  | assigned (task task' : StoredTask) (htask : task ∈ q.tasks) (hid : task.taskId = taskId)
      (hactive : task.state.isTerminal = false)
      (hframe : ∃ ownerActorId ownerRole updatedAt reasonRedacted,
        task' = { task with ownerActorId, ownerRole, updatedAt, reasonRedacted }) :
      Assignment env now actor taskId payload q
        (q.afterAssign env now actor payload task task',
          ⟨true, task', "self_assigned", task.state, task.state, none⟩)

theorem selfAssignTask_assignment :
    Assignment env now actor taskId payload q (q.selfAssignTask env now actor taskId payload) := by
  unfold selfAssignTask
  cases hfind : q.tasks.find? taskId with
  | none =>
    dsimp only
    rw [applyTransition, hfind]
    exact .missing hfind _
  | some task =>
    obtain ⟨htask, hkey⟩ := Table.find?_eq_some.mp hfind
    dsimp only
    split
    · next hterminal => exact .denied task htask hkey hterminal
    · next hterminal =>
      exact .assigned task _ htask hkey (by simpa using hterminal) ⟨_, _, _, _, rfl⟩

theorem afterAssign_tasks {task' : StoredTask} :
    (q.afterAssign env now actor payload task task').tasks = q.tasks.put task' := rfl

theorem afterAssign_audit {task' : StoredTask} : ∃ e : TaskAuditEvent,
    (q.afterAssign env now actor payload task task').audit = q.audit ++ [e] ∧
      e.taskId = task'.taskId ∧ e.sequenceNo = q.auditSeq task'.taskId + 1 :=
  ⟨_, rfl, rfl, rfl⟩

theorem afterAssign_auditSeq {task' : StoredTask} :
    (q.afterAssign env now actor payload task task').auditSeq =
      Function.update q.auditSeq task'.taskId (q.auditSeq task'.taskId + 1) := rfl

/-- Assigning a task leaves every standing. -/
theorem afterAssign_standing {task' : StoredTask} (htask : task ∈ q.tasks)
    (hframe : ∃ ownerActorId ownerRole updatedAt reasonRedacted,
      task' = { task with ownerActorId, ownerRole, updatedAt, reasonRedacted }) :
    (q.afterAssign env now actor payload task task').standing = q.standing := by
  obtain ⟨_, _, _, _, rfl⟩ := hframe
  exact standing_put_same afterAssign_tasks htask rfl rfl

end Transition

section Record
variable {eventId : Uuid} {taskId : String} {channel : NotificationChannel}
  {summary : Option String} {role : Option OwnerRole}

/-- Recording a notification touches the notifications alone. -/
theorem recordNotificationEvent_frame (env : Primitives) (now : Instant) (eventId : Uuid)
    (taskId : String) (channel : NotificationChannel) (summary : Option String)
    (role : Option OwnerRole) (q : TaskQueue) : ∃ notifications inflight,
      (q.recordNotificationEvent env now eventId taskId channel summary role).1 =
        { q with notifications, inflight } := by
  unfold recordNotificationEvent
  split
  · exact ⟨q.notifications, q.inflight, rfl⟩
  · next task _ => exact recordNotification_frame env now eventId task channel summary role q

end Record

end TaskQueue

end Operator

end Mpango
