import Mpango.Operations.Queue

/-!
# The severity of operator tasks

Within a correlation and a tenant the active tasks lift each other: a task of a forcing type makes
all of them high, a high one makes all of them at least medium. An intake keeps its group closed
under this and touches no other group. But it does not only raise: a repeated event sets the severity
of the task that absorbs it to what the event asks for, lifted by the group as it stands, and that may
be less than the task had. `severity_law_iff` says when.
-/

namespace Mpango

namespace Operator

namespace TaskQueue

variable {env : Primitives} {now : Instant} {q : TaskQueue}

/-! ## The law -/

/-- Two tasks of one correlation and one tenant. -/
def SameGroup (t t' : StoredTask) : Prop :=
  t.correlationId = t'.correlationId ∧ orEmpty t.tenantId = orEmpty t'.tenantId

/-- The active tasks of a group lift each other. -/
def Closed (q : TaskQueue) : Prop :=
  ∀ t ∈ q.tasks, ∀ t' ∈ q.tasks, t.isActive = true → t'.isActive = true → SameGroup t t' →
    (t.taskType.isForceHigh = true → t'.severity = .high) ∧
      (t.severity = .high → .medium ≤ t'.severity)

/-- The task that takes the event of an intake. -/
def taken (env : Primitives) (q : TaskQueue) (r : TaskRequest) : Option StoredTask :=
  match r.call with
  | .intake newId notificationId event =>
    some (q.upsertTaskFromEvent env r.now newId notificationId event).2.task
  | _ => none

/-- Severities only rise, groups are closed after an intake, and it touches its own group alone. -/
structure SeverityLaw (env : Primitives) (q : TaskQueue) (r : TaskRequest) : Prop where
  monotone : ∀ t ∈ q.tasks, t.isActive = true → ∀ t' ∈ (q.step env r).tasks,
    t'.taskId = t.taskId → t.severity ≤ t'.severity
  closed : ∀ taker, q.taken env r = some taker → (q.step env r).Closed
  framed : ∀ taker, q.taken env r = some taker → ∀ t ∈ q.tasks, ¬SameGroup t taker →
    t ∈ (q.step env r).tasks

/-- What a repeated event asks for is no less than what its task has, or the group lifts it. -/
def NotLowered (env : Primitives) (q : TaskQueue) (r : TaskRequest) : Prop :=
  match r.call with
  | .intake _ _ event => ∀ task, q.absorbing env event = some task →
      task.severity ≤ event.severity.getD task.taskType.defaultSeverity ∨
      (task.severity = .medium ∧ ∃ peer ∈ q.tasks,
        peer.isPeer task.correlationId task.tenantId = true ∧ peer.severity = .high) ∨
      ∃ peer ∈ q.tasks, peer.isPeer task.correlationId task.tenantId = true ∧
        peer.taskType.isForceHigh = true
  | _ => True

/-! ## Levels -/

theorem lifted_severity (level : Severity) (t : StoredTask) :
    (lifted now level t).severity = max t.severity level := by
  unfold lifted
  split
  · next h => exact (max_eq_right h.le).symm
  · next h => exact (max_eq_left (not_lt.mp h)).symm

theorem le_high (s : Severity) : s ≤ .high := by cases s <;> decide

theorem low_le (s : Severity) : .low ≤ s := by cases s <;> decide

theorem max_medium_ne_high {s : Severity} (h : s ≠ .high) : max s .medium = .medium := by
  cases s
  · decide
  · decide
  · exact absurd rfl h

theorem isPeer_iff {t : StoredTask} {correlationId : String} {tenantId : Option String} :
    t.isPeer correlationId tenantId = true ↔ t.isActive = true ∧ t.correlationId = correlationId ∧
      orEmpty t.tenantId = orEmpty tenantId := by
  simp [StoredTask.isPeer]

section Floor
variable {correlationId : String} {tenantId : Option String}

/-- A group has a peer with a property. -/
def HasPeer (q : TaskQueue) (correlationId : String) (tenantId : Option String)
    (p : StoredTask → Bool) : Prop :=
  ∃ t ∈ q.tasks, t.isPeer correlationId tenantId = true ∧ p t = true

theorem any_peers {p : StoredTask → Bool} :
    (q.tasks.select (·.isPeer correlationId tenantId)).any p = true ↔
      q.HasPeer correlationId tenantId p := by
  rw [List.any_eq_true]
  constructor
  · rintro ⟨t, ht, hp⟩
    obtain ⟨htask, hpeer⟩ := Table.mem_select.mp ht
    exact ⟨t, htask, hpeer, hp⟩
  · rintro ⟨t, ht, hpeer, hp⟩
    exact ⟨t, Table.mem_select.mpr ⟨ht, hpeer⟩, hp⟩

theorem floor_of_force (h : q.HasPeer correlationId tenantId (·.taskType.isForceHigh)) :
    q.floor correlationId tenantId = .high :=
  if_pos (any_peers.mpr h)

theorem floor_of_high (hforce : ¬q.HasPeer correlationId tenantId (·.taskType.isForceHigh))
    (h : q.HasPeer correlationId tenantId (·.severity = .high)) :
    q.floor correlationId tenantId = .medium :=
  (if_neg (mt any_peers.mp hforce)).trans (if_pos (any_peers.mpr h))

theorem floor_of_none (hforce : ¬q.HasPeer correlationId tenantId (·.taskType.isForceHigh))
    (h : ¬q.HasPeer correlationId tenantId (·.severity = .high)) :
    q.floor correlationId tenantId = .low :=
  (if_neg (mt any_peers.mp hforce)).trans (if_neg (mt any_peers.mp h))

/-- The severity a group gives a task that asks for one. -/
theorem severityFor_of_force {taskType : TaskType} {requested : Option Severity}
    (h : taskType.isForceHigh = true ∨ q.HasPeer correlationId tenantId (·.taskType.isForceHigh)) :
    q.severityFor taskType requested correlationId tenantId = .high := by
  unfold severityFor
  dsimp only
  rw [if_pos (by rw [Bool.or_eq_true]; exact h.imp_right any_peers.mpr)]
  exact max_eq_right (le_high _)

theorem severityFor_of_high {taskType : TaskType} {requested : Option Severity}
    (htype : taskType.isForceHigh = false)
    (hforce : ¬q.HasPeer correlationId tenantId (·.taskType.isForceHigh))
    (h : q.HasPeer correlationId tenantId (·.severity = .high)) :
    q.severityFor taskType requested correlationId tenantId =
      max (requested.getD taskType.defaultSeverity) .medium := by
  unfold severityFor
  dsimp only
  rw [if_neg (by rw [htype, Bool.false_or]; exact mt any_peers.mp hforce),
    if_pos (any_peers.mpr h)]

theorem severityFor_of_none {taskType : TaskType} {requested : Option Severity}
    (htype : taskType.isForceHigh = false)
    (hforce : ¬q.HasPeer correlationId tenantId (·.taskType.isForceHigh))
    (h : ¬q.HasPeer correlationId tenantId (·.severity = .high)) :
    q.severityFor taskType requested correlationId tenantId =
      requested.getD taskType.defaultSeverity := by
  unfold severityFor
  dsimp only
  rw [if_neg (by rw [htype, Bool.false_or]; exact mt any_peers.mp hforce),
    if_neg (mt any_peers.mp h)]

/-- Whatever the group, a task gets at least what it asks for. -/
theorem le_severityFor {taskType : TaskType} {requested : Option Severity} :
    requested.getD taskType.defaultSeverity ≤
      q.severityFor taskType requested correlationId tenantId := by
  unfold severityFor
  dsimp only
  split_ifs
  · exact (le_max_left ..).trans (le_max_left ..)
  · exact le_max_left ..
  · exact le_max_left ..
  · exact le_rfl

end Floor

/-! ## Reranks -/

section Rerank
variable {correlationId : String} {tenantId : Option String}

theorem reranked_severity_of_peer {t : StoredTask} (h : t.isPeer correlationId tenantId = true) :
    (q.reranked now correlationId tenantId t).severity =
      max t.severity (q.floor correlationId tenantId) := by
  rw [reranked, if_pos h, lifted_severity]

theorem le_reranked (t : StoredTask) :
    t.severity ≤ (q.reranked now correlationId tenantId t).severity := by
  unfold reranked
  split
  · rw [lifted_severity]
    exact le_max_left ..
  · exact le_rfl

/-- A task of another group stays as it is. -/
theorem reranked_of_other {t : StoredTask} (h : ¬t.isPeer correlationId tenantId = true) :
    q.reranked now correlationId tenantId t = t :=
  if_neg h

theorem reranked_isActive (t : StoredTask) :
    (q.reranked now correlationId tenantId t).isActive = t.isActive := by
  obtain ⟨_, _, h⟩ := reranked_frame q now correlationId tenantId t
  rw [h]
  rfl

theorem reranked_taskType (t : StoredTask) :
    (q.reranked now correlationId tenantId t).taskType = t.taskType := by
  obtain ⟨_, _, h⟩ := reranked_frame q now correlationId tenantId t
  rw [h]

theorem reranked_sameGroup (t x : StoredTask) :
    SameGroup (q.reranked now correlationId tenantId t) x ↔ SameGroup t x := by
  obtain ⟨_, _, h⟩ := reranked_frame q now correlationId tenantId t
  rw [h]
  exact Iff.rfl

theorem SameGroup.symm {t t' : StoredTask} (h : SameGroup t t') : SameGroup t' t :=
  ⟨h.1.symm, h.2.symm⟩

/-- A rerank closes its group; the others are as they were. -/
theorem Closed.rerank (h : ∀ t ∈ q.tasks, ∀ t' ∈ q.tasks, t.isActive = true → t'.isActive = true →
      SameGroup t t' → ¬t.isPeer correlationId tenantId = true →
      (t.taskType.isForceHigh = true → t'.severity = .high) ∧
        (t.severity = .high → .medium ≤ t'.severity)) :
    Closed (q.rerankCorrelation now correlationId tenantId) := by
  intro x hx x' hx' hactive hactive' hgroup
  obtain ⟨t, ht, rfl⟩ := mem_rerank.mp hx
  obtain ⟨t', ht', rfl⟩ := mem_rerank.mp hx'
  rw [reranked_isActive] at hactive hactive'
  have hgroup' : SameGroup t t' :=
    ((reranked_sameGroup t' t).mp ((reranked_sameGroup t _).mp hgroup).symm).symm
  rw [reranked_taskType]
  by_cases hpeer : t.isPeer correlationId tenantId = true
  · have hpeer' : t'.isPeer correlationId tenantId = true := by
      rw [isPeer_iff] at hpeer ⊢
      exact ⟨hactive', hgroup'.1 ▸ hpeer.2.1, hgroup'.2 ▸ hpeer.2.2⟩
    rw [reranked_severity_of_peer hpeer, reranked_severity_of_peer hpeer']
    constructor
    · intro hforce
      rw [floor_of_force ⟨t, ht, hpeer, hforce⟩]
      exact max_eq_right (le_high _)
    · intro hhigh
      by_cases hforce : q.HasPeer correlationId tenantId (·.taskType.isForceHigh)
      · rw [floor_of_force hforce]
        exact le_max_of_le_right (le_high _)
      · by_cases hhighs : q.HasPeer correlationId tenantId (·.severity = .high)
        · rw [floor_of_high hforce hhighs]
          exact le_max_right ..
        · rw [floor_of_none hforce hhighs, max_eq_left (low_le _)] at hhigh
          exact absurd ⟨t, ht, hpeer, decide_eq_true hhigh⟩ hhighs
  · have hpeer' : ¬t'.isPeer correlationId tenantId = true := by
      intro h'
      rw [isPeer_iff] at hpeer h'
      exact hpeer ⟨hactive, hgroup'.1.trans h'.2.1, hgroup'.2.trans h'.2.2⟩
    rw [reranked_of_other hpeer, reranked_of_other hpeer']
    exact h t ht t' ht' hactive hactive' hgroup' hpeer

end Rerank

/-! ## Intakes -/

section Intake
variable {newId notificationId : Uuid} {event : IntakeEvent} {task : StoredTask}

/-- The queue with a repeated event taken by a task, before the rerank. -/
def repeated (env : Primitives) (now : Instant) (event : IntakeEvent) (task : StoredTask)
    (q : TaskQueue) : TaskQueue :=
  { q with
    tasks := q.tasks.put (task.replayed env now
      (q.severityFor task.taskType event.severity task.correlationId task.tenantId) event) }

theorem replay_eq (env : Primitives) (now : Instant) (event : IntakeEvent) (task : StoredTask)
    (q : TaskQueue) : q.replay env now event task =
      rerankCorrelation now task.correlationId task.tenantId (q.repeated env now event task) := rfl

/-- The queue with a new task in it, audited, before the rerank. -/
def admitted (env : Primitives) (now : Instant) (newId : Uuid) (event : IntakeEvent)
    (q : TaskQueue) : TaskQueue :=
  (q.entered (q.newTask env now newId event)).emitAudit env now ⟨none, .system⟩
    (q.newTask env now newId event) "materialized" .open .open (some event.summary) none

theorem admitted_tasks : (q.admitted env now newId event).tasks =
    q.tasks.put (q.newTask env now newId event) := rfl

theorem materialize_eq_rerank (env : Primitives) (now : Instant) (newId : Uuid)
    (event : IntakeEvent) (q : TaskQueue) : q.materialize env now newId event =
      rerankCorrelation now event.correlationId event.tenantId (q.admitted env now newId event) :=
  rfl

/-- Closing a group in which one task was assigned. -/
theorem Closed.rerank_put (h : Closed q) {q' : TaskQueue} {x : StoredTask}
    (htasks : q'.tasks = q.tasks.put x) (hactive : x.isActive = true) :
    Closed (q'.rerankCorrelation now x.correlationId x.tenantId) := by
  refine Closed.rerank fun t ht t' ht' hat hat' hgroup hother => ?_
  rw [htasks] at ht ht'
  rcases Table.mem_put.mp ht with ⟨ht, -⟩ | rfl
  · rcases Table.mem_put.mp ht' with ⟨ht', -⟩ | rfl
    · exact h t ht t' ht' hat hat' hgroup
    · exact absurd (isPeer_iff.mpr ⟨hat, hgroup.1, hgroup.2⟩) hother
  · exact absurd (isPeer_iff.mpr ⟨hactive, rfl, rfl⟩) hother

theorem Closed.replay (h : Closed q) (hactive : task.isActive = true) :
    Closed (q.replay env now event task) := by
  rw [replay_eq]
  set x := task.replayed env now
    (q.severityFor task.taskType event.severity task.correlationId task.tenantId) event with hx
  have hclosed : Closed ((q.repeated env now event task).rerankCorrelation now x.correlationId
      x.tenantId) := h.rerank_put rfl hactive
  exact hclosed

theorem Closed.materialize (h : Closed q) : Closed (q.materialize env now newId event) := by
  rw [materialize_eq_rerank]
  have hclosed : Closed ((q.admitted env now newId event).rerankCorrelation now
      (q.newTask env now newId event).correlationId (q.newTask env now newId event).tenantId) :=
    h.rerank_put admitted_tasks rfl
  exact hclosed

/-- The same tasks are closed in the same way. -/
theorem Closed.congr (h : Closed q) {q' : TaskQueue} (htasks : q'.tasks = q.tasks) : Closed q' := by
  unfold Closed
  rw [htasks]
  exact h

/-- Tasks that come from active tasks with their type, their severity and their group. -/
theorem Closed.of_origin (h : Closed q) {q' : TaskQueue} (horigin : ∀ t' ∈ q'.tasks,
    t'.isActive = true → ∃ t ∈ q.tasks, t.isActive = true ∧ t'.taskType = t.taskType ∧
      t'.severity = t.severity ∧ t'.correlationId = t.correlationId ∧ t'.tenantId = t.tenantId) :
    Closed q' := by
  intro x hx x' hx' hactive hactive' hgroup
  obtain ⟨t, ht, hat, htype, hseverity, hcorrelation, htenant⟩ := horigin x hx hactive
  obtain ⟨t', ht', hat', -, hseverity', hcorrelation', htenant'⟩ := horigin x' hx' hactive'
  have hgroup' : SameGroup t t' :=
    ⟨by rw [← hcorrelation, ← hcorrelation', hgroup.1], by rw [← htenant, ← htenant', hgroup.2]⟩
  rw [htype, hseverity, hseverity']
  exact h t ht t' ht' hat hat' hgroup'

/-- An event is absorbed by an active task. -/
theorem Indexed.absorbing_isActive (h : Indexed q) (habsorbs : q.absorbing env event = some task) :
    task.isActive = true := by
  obtain ⟨hindex, htask⟩ := absorbing_eq_some.mp habsorbs
  obtain ⟨x, hx, hactive, -⟩ := (h _ _).mp hindex
  rw [standing_of_mem htask] at hx
  cases hx
  exact StoredTask.isActive_iff.mpr hactive

theorem Closed.upsert (h : Closed q) (hindexed : Indexed q) :
    Closed (q.upsertTaskFromEvent env now newId notificationId event).1 := by
  unfold upsertTaskFromEvent
  cases habsorbs : q.absorbing env event with
  | some task =>
    exact (h.replay (hindexed.absorbing_isActive habsorbs)).congr notifyFor_tasks
  | none => exact h.materialize.congr notifyFor_tasks

end Intake

/-- A task with its severity and its group, put in the place of one. -/
theorem Closed.put (h : Closed q) {q' : TaskQueue} {task task' : StoredTask} (htask : task ∈ q.tasks)
    (hactive : task.isActive = true) (htasks : q'.tasks = q.tasks.put task')
    (hsame : task'.taskType = task.taskType ∧ task'.severity = task.severity ∧
      task'.correlationId = task.correlationId ∧ task'.tenantId = task.tenantId) : Closed q' := by
  refine h.of_origin fun t' ht' hactive' => ?_
  rw [htasks] at ht'
  rcases Table.mem_put.mp ht' with ⟨ht', -⟩ | rfl
  · exact ⟨t', ht', hactive', rfl, rfl, rfl, rfl⟩
  · exact ⟨task, htask, hactive, hsame⟩

theorem Closed.applyTransition (h : Closed q) {actor : Actor} {action : String} {target : TaskState}
    {taskId : String} {payload : Option TransitionRequest} :
    Closed (q.applyTransition env now actor action target taskId payload).1 := by
  have hattempt : Attempt env now actor action target taskId payload q
    (q.applyTransition env now actor action target taskId payload) := applyTransition_attempt
  cases hresult : q.applyTransition env now actor action target taskId payload with
  | mk q' response =>
    rw [hresult] at hattempt
    cases hattempt with
    | missing => exact h
    | denied task htask hid code transition hrefusal => exact h.congr rfl
    | moved task htask hid hrefusal =>
      exact h.put htask (StoredTask.isActive_iff.mpr (refusal_eq_none hrefusal).1) afterMove_tasks
        ⟨rfl, rfl, rfl, rfl⟩

/-- Every call leaves every group closed. -/
theorem Closed.step (h : Closed q) (hindexed : Indexed q) {r : TaskRequest} :
    Closed (q.step env r) := by
  obtain ⟨now, actor, call⟩ := r
  cases call with
  | intake newId notificationId event => exact h.upsert hindexed
  | acknowledge taskId payload => exact h.applyTransition
  | inProgress taskId payload => exact h.applyTransition
  | complete taskId payload => exact h.applyTransition
  | dismiss taskId payload => exact h.applyTransition
  | selfAssign taskId payload =>
    have hassignment : Assignment env now actor taskId payload q
      (q.selfAssignTask env now actor taskId payload) := selfAssignTask_assignment
    show Closed (q.selfAssignTask env now actor taskId payload).1
    cases hresult : q.selfAssignTask env now actor taskId payload with
    | mk q' response =>
      rw [hresult] at hassignment
      cases hassignment with
      | missing => exact h
      | denied task htask hid hterminal => exact h.congr rfl
      | assigned task task' htask hid hactive hframe =>
        obtain ⟨_, _, _, _, rfl⟩ := hframe
        exact h.put htask (StoredTask.isActive_iff.mpr hactive) afterAssign_tasks
          ⟨rfl, rfl, rfl, rfl⟩
  | notify eventId taskId channel summary role =>
    obtain ⟨_, _, hframe⟩ :=
      recordNotificationEvent_frame env now eventId taskId channel summary role q
    show Closed (q.recordNotificationEvent env now eventId taskId channel summary role).1
    rw [hframe]
    exact h.congr rfl

/-! ## The severity of the task that takes an event -/

section Taken
variable {newId notificationId : Uuid} {event : IntakeEvent} {task : StoredTask}

/-- A task in the group of the one that absorbs an event, before and after it has. -/
theorem repeated_hasPeer {p : StoredTask → Bool} (htask : task ∈ q.tasks)
    (hactive : task.isActive = true)
    (hsame : ∀ t : StoredTask, ∀ updatedAt linkedGateOpen reasonRedacted severity,
      p { t with updatedAt, severity, linkedGateOpen, reasonRedacted } = p t) :
    (q.repeated env now event task).HasPeer task.correlationId task.tenantId p ↔
      q.HasPeer task.correlationId task.tenantId p := by
  have hself : task.isPeer task.correlationId task.tenantId = true :=
    isPeer_iff.mpr ⟨hactive, rfl, rfl⟩
  constructor
  · rintro ⟨t, ht, hpeer, hp⟩
    rcases Table.mem_put.mp ht with ⟨ht, -⟩ | rfl
    · exact ⟨t, ht, hpeer, hp⟩
    · exact ⟨task, htask, hself, by rw [← hp]; exact (hsame task _ _ _ _).symm⟩
  · rintro ⟨t, ht, hpeer, hp⟩
    by_cases hid : t.taskId = task.taskId
    · have hsametask : t = task := Table.eq_of_key_eq ht htask hid
      subst hsametask
      exact ⟨_, Table.mem_put.mpr (.inr rfl), hpeer, (hsame t _ _ _ _).trans hp⟩
    · exact ⟨t, Table.mem_put.mpr (.inl ⟨ht, hid⟩), hpeer, hp⟩

/-- The severity of the absorbing task after a repeated event. -/
theorem replay_severity (hactive : task.isActive = true) {t' : StoredTask}
    (ht' : t' ∈ (q.replay env now event task).tasks) (hid : t'.taskId = task.taskId) :
    t'.severity = max (q.severityFor task.taskType event.severity task.correlationId task.tenantId)
      ((q.repeated env now event task).floor task.correlationId task.tenantId) := by
  rw [replay_eq] at ht'
  obtain ⟨x, hx, rfl⟩ := mem_rerank.mp ht'
  rw [reranked_taskId] at hid
  have hself : ∀ x : StoredTask, x ∈ (q.repeated env now event task).tasks → x.taskId = task.taskId →
      x = task.replayed env now
        (q.severityFor task.taskType event.severity task.correlationId task.tenantId) event := by
    intro x hx hid
    rcases Table.mem_put.mp hx with ⟨-, hne⟩ | rfl
    · exact absurd hid hne
    · rfl
  have hpeer : (task.replayed env now (q.severityFor task.taskType event.severity
      task.correlationId task.tenantId) event).isPeer task.correlationId task.tenantId = true :=
    isPeer_iff.mpr ⟨hactive, rfl, rfl⟩
  rw [hself x hx hid, reranked_severity_of_peer hpeer]
  rfl

/-- The absorbing task does not lose severity exactly when the event asks for no less, or the group
lifts it. -/
theorem le_replay_iff (env : Primitives) (now : Instant) (htask : task ∈ q.tasks) (hactive : task.isActive = true) :
    task.severity ≤ max
        (q.severityFor task.taskType event.severity task.correlationId task.tenantId)
        ((q.repeated env now event task).floor task.correlationId task.tenantId) ↔
      task.severity ≤ event.severity.getD task.taskType.defaultSeverity ∨
      (task.severity = .medium ∧ q.HasPeer task.correlationId task.tenantId (·.severity = .high)) ∨
      q.HasPeer task.correlationId task.tenantId (·.taskType.isForceHigh) := by
  have hself : task.isPeer task.correlationId task.tenantId = true :=
    isPeer_iff.mpr ⟨hactive, rfl, rfl⟩
  set base := event.severity.getD task.taskType.defaultSeverity with hbase
  by_cases hforce : q.HasPeer task.correlationId task.tenantId (·.taskType.isForceHigh)
  · refine iff_of_true ?_ (.inr (.inr hforce))
    rw [severityFor_of_force (.inr hforce)]
    exact le_max_of_le_left (le_high _)
  · have htype : task.taskType.isForceHigh = false := by
      by_contra h
      exact hforce ⟨task, htask, hself, by simpa using h⟩
    have hforce' : ¬(q.repeated env now event task).HasPeer task.correlationId task.tenantId
        (·.taskType.isForceHigh) :=
      mt (repeated_hasPeer htask hactive fun _ _ _ _ _ => rfl).mp hforce
    constructor
    · intro hle
      by_contra hnone
      push Not at hnone
      obtain ⟨hlow, hmedium, -⟩ := hnone
      by_cases hhigh : q.HasPeer task.correlationId task.tenantId (·.severity = .high)
      · -- a high group, so the task is not the medium one; it is not low, so it is high itself
        have htaskhigh : task.severity = .high := by
          cases hseverity : task.severity with
          | low =>
            rw [hseverity] at hlow
            exact absurd (low_le base) (not_le.mpr hlow)
          | medium => exact absurd hhigh (hmedium hseverity)
          | high => rfl
        rw [htaskhigh] at hlow hle
        have hbaselevel : max base .medium = .medium := max_medium_ne_high hlow.ne
        have hfloor : (q.repeated env now event task).floor task.correlationId task.tenantId ≤
            .medium := by
          by_cases hhigh' : (q.repeated env now event task).HasPeer task.correlationId task.tenantId
              (·.severity = .high)
          · exact (floor_of_high hforce' hhigh').le
          · rw [floor_of_none hforce' hhigh']
            exact low_le _
        rw [severityFor_of_high htype hforce hhigh, ← hbase, hbaselevel, max_eq_left hfloor] at hle
        exact absurd hle (by decide)
      · -- no high task, so none after the event, which asks for less than the task has
        have hbasehigh : base ≠ .high := by
          intro h
          rw [h] at hlow
          exact absurd (le_high task.severity) (not_le.mpr hlow)
        have hhigh' : ¬(q.repeated env now event task).HasPeer task.correlationId task.tenantId
            (·.severity = .high) := by
          rintro ⟨t, ht, hpeer, hp⟩
          rcases Table.mem_put.mp ht with ⟨ht, -⟩ | rfl
          · exact hhigh ⟨t, ht, hpeer, hp⟩
          · have hp' : q.severityFor task.taskType event.severity task.correlationId
                task.tenantId = .high := of_decide_eq_true hp
            rw [severityFor_of_none htype hforce hhigh] at hp'
            exact hbasehigh hp'
        rw [severityFor_of_none htype hforce hhigh, ← hbase, floor_of_none hforce' hhigh',
          max_eq_left (low_le _)] at hle
        exact absurd hle (not_le.mpr hlow)
    · rintro (hbaselevel | ⟨hmedium, hhigh⟩ | hforce'')
      · exact le_max_of_le_left (hbaselevel.trans le_severityFor)
      · rw [hmedium, severityFor_of_high htype hforce hhigh]
        exact le_max_of_le_left (le_max_right ..)
      · exact absurd hforce'' hforce

end Taken

/-! ## One call -/

/-- Severities only rise from one queue to another. -/
def Rises (q q' : TaskQueue) : Prop :=
  ∀ t ∈ q.tasks, t.isActive = true → ∀ t' ∈ q'.tasks, t'.taskId = t.taskId → t.severity ≤ t'.severity

theorem Rises.of_tasks_eq {q' : TaskQueue} (h : q'.tasks = q.tasks) : Rises q q' := by
  intro t ht _ t' ht' hid
  rw [h] at ht'
  have hsame : t' = t := Table.eq_of_key_eq ht' ht hid
  rw [hsame]

/-- Assigning a task that keeps its severity. -/
theorem Rises.put {q' : TaskQueue} {task task' : StoredTask} (h : q'.tasks = q.tasks.put task')
    (htask : task ∈ q.tasks) (hid : task'.taskId = task.taskId)
    (hseverity : task'.severity = task.severity) : Rises q q' := by
  intro t ht _ t' ht' hid'
  rw [h] at ht'
  rcases Table.mem_put.mp ht' with ⟨ht', -⟩ | rfl
  · have hsame : t' = t := Table.eq_of_key_eq ht' ht hid'
    rw [hsame]
  · have hsame : t = task := Table.eq_of_key_eq ht htask (hid'.symm.trans hid)
    rw [hsame, hseverity]

theorem Rises.applyTransition {actor : Actor} {action : String} {target : TaskState}
    {taskId : String} {payload : Option TransitionRequest} :
    Rises q (q.applyTransition env now actor action target taskId payload).1 := by
  have hattempt : Attempt env now actor action target taskId payload q
    (q.applyTransition env now actor action target taskId payload) := applyTransition_attempt
  cases hresult : q.applyTransition env now actor action target taskId payload with
  | mk q' response =>
    rw [hresult] at hattempt
    cases hattempt with
    | missing => exact .of_tasks_eq rfl
    | denied task htask hid code transition hrefusal => exact .of_tasks_eq rfl
    | moved task htask hid hrefusal => exact .put afterMove_tasks htask rfl rfl

theorem Rises.selfAssign {actor : Actor} {taskId : String} {payload : Option TransitionRequest} :
    Rises q (q.selfAssignTask env now actor taskId payload).1 := by
  have hassignment : Assignment env now actor taskId payload q
    (q.selfAssignTask env now actor taskId payload) := selfAssignTask_assignment
  cases hresult : q.selfAssignTask env now actor taskId payload with
  | mk q' response =>
    rw [hresult] at hassignment
    cases hassignment with
    | missing => exact .of_tasks_eq rfl
    | denied task htask hid hterminal => exact .of_tasks_eq rfl
    | assigned task task' htask hid hactive hframe =>
      obtain ⟨_, _, _, _, rfl⟩ := hframe
      exact .put afterAssign_tasks htask rfl rfl

/-- A new task leaves the severities, but for the rerank. -/
theorem Rises.materialize {newId : Uuid} {event : IntakeEvent}
    (hfresh : q.tasks.find? newId.text = none) : Rises q (q.materialize env now newId event) := by
  intro t ht _ t' ht' hid
  rw [materialize_eq_rerank] at ht'
  obtain ⟨x, hx, rfl⟩ := mem_rerank.mp ht'
  rw [reranked_taskId] at hid
  rw [admitted_tasks] at hx
  rcases Table.mem_put.mp hx with ⟨hx, -⟩ | rfl
  · have hsame : x = t := Table.eq_of_key_eq hx ht hid
    rw [hsame]
    exact le_reranked t
  · exact absurd hid.symm (Table.find?_eq_none.mp hfresh t ht)

/-- A repeated event lowers no severity exactly when it does not lower that of its task. -/
theorem rises_replay_iff {event : IntakeEvent} {task : StoredTask} (htask : task ∈ q.tasks)
    (hactive : task.isActive = true) : Rises q (q.replay env now event task) ↔
      task.severity ≤ event.severity.getD task.taskType.defaultSeverity ∨
      (task.severity = .medium ∧ q.HasPeer task.correlationId task.tenantId (·.severity = .high)) ∨
      q.HasPeer task.correlationId task.tenantId (·.taskType.isForceHigh) := by
  rw [← le_replay_iff env now htask hactive]
  constructor
  · intro h
    have hstanding : (q.replay env now event task).standing task.taskId = some task.standing := by
      rw [replay_standing htask, standing_of_mem htask]
    obtain ⟨t', ht', hid, -⟩ := standing_eq_some.mp hstanding
    rw [← replay_severity hactive ht' hid]
    exact h task htask hactive t' ht' hid
  · intro h t ht _ t' ht' hid
    by_cases hsame : t.taskId = task.taskId
    · have heq : t = task := Table.eq_of_key_eq ht htask hsame
      rw [replay_severity hactive ht' (hid.trans hsame), heq]
      exact h
    · rw [replay_eq] at ht'
      obtain ⟨x, hx, rfl⟩ := mem_rerank.mp ht'
      rw [reranked_taskId] at hid
      rcases Table.mem_put.mp hx with ⟨hx, -⟩ | rfl
      · have heq : x = t := Table.eq_of_key_eq hx ht hid
        rw [heq]
        exact le_reranked t
      · exact absurd hid.symm hsame

/-- A call lowers no severity exactly when it repeats no event that does. -/
theorem rises_step_iff (env : Primitives) (hindexed : Indexed q) {r : TaskRequest} (hfresh : q.Fresh r) :
    Rises q (q.step env r) ↔ q.NotLowered env r := by
  obtain ⟨now, actor, call⟩ := r
  cases call with
  | intake newId notificationId event =>
    show Rises q (q.upsertTaskFromEvent env now newId notificationId event).1 ↔ _
    unfold upsertTaskFromEvent NotLowered
    dsimp only
    cases habsorbs : q.absorbing env event with
    | some task =>
      have htask : task ∈ q.tasks := (absorbing_eq_some.mp habsorbs).2
      have hactive := hindexed.absorbing_isActive habsorbs
      have hnotify : Rises q ((q.replay env now event task).notifyFor env now notificationId event
          ((q.replay env now event task).current task)) ↔ Rises q (q.replay env now event task) := by
        unfold Rises
        rw [notifyFor_tasks]
      dsimp only
      rw [hnotify, rises_replay_iff htask hactive]
      unfold HasPeer
      simp only [Option.some.injEq, forall_eq', decide_eq_true_eq]
    | none =>
      refine iff_of_true ?_ (fun _ => nofun)
      unfold Rises
      rw [notifyFor_tasks]
      exact Rises.materialize hfresh
  | acknowledge taskId payload => exact iff_of_true .applyTransition trivial
  | inProgress taskId payload => exact iff_of_true .applyTransition trivial
  | complete taskId payload => exact iff_of_true .applyTransition trivial
  | dismiss taskId payload => exact iff_of_true .applyTransition trivial
  | selfAssign taskId payload => exact iff_of_true .selfAssign trivial
  | notify eventId taskId channel summary role =>
    refine iff_of_true ?_ trivial
    obtain ⟨_, _, hframe⟩ :=
      recordNotificationEvent_frame env now eventId taskId channel summary role q
    show Rises q (q.recordNotificationEvent env now eventId taskId channel summary role).1
    rw [hframe]
    exact .of_tasks_eq rfl

/-- A task that is in the queue under an id is in the group of what it was assigned as. -/
theorem current_sameGroup {q' : TaskQueue} {x y : StoredTask} (hid : y.taskId = x.taskId)
    (hgroup : ∀ t ∈ q'.tasks, t.taskId = x.taskId → SameGroup t x) (hstored : q'.standing x.taskId ≠ none) :
    SameGroup (q'.current y) x := by
  unfold current
  rw [hid]
  cases hfind : q'.tasks.find? x.taskId with
  | none => exact absurd (standing_eq_none.mpr hfind) hstored
  | some t =>
    obtain ⟨ht, hkey⟩ := Table.find?_eq_some.mp hfind
    exact hgroup t ht hkey

/-- A rerank after an assignment leaves the tasks of other groups. -/
theorem mem_rerank_put {q' : TaskQueue} {t x : StoredTask} (htasks : q'.tasks = q.tasks.put x)
    (ht : t ∈ q.tasks) (hid : t.taskId ≠ x.taskId) (hother : ¬SameGroup t x) :
    t ∈ (q'.rerankCorrelation now x.correlationId x.tenantId).tasks := by
  refine mem_rerank.mpr ⟨t, ?_, ?_⟩
  · rw [htasks]
    exact Table.mem_put.mpr (.inl ⟨ht, hid⟩)
  · exact (reranked_of_other fun hpeer => hother (isPeer_iff.mp hpeer).2).symm

/-- The task under the id of an assigned one, after a rerank, is in its group. -/
theorem rerank_put_sameGroup {q' : TaskQueue} {t x : StoredTask} (htasks : q'.tasks = q.tasks.put x)
    (ht : t ∈ (q'.rerankCorrelation now x.correlationId x.tenantId).tasks)
    (hid : t.taskId = x.taskId) : SameGroup t x := by
  obtain ⟨y, hy, rfl⟩ := mem_rerank.mp ht
  rw [reranked_taskId] at hid
  rw [reranked_sameGroup]
  rw [htasks] at hy
  rcases Table.mem_put.mp hy with ⟨-, hne⟩ | rfl
  · exact absurd hid hne
  · exact ⟨rfl, rfl⟩

/-- An intake leaves the tasks of other groups as they are. -/
theorem intake_framed {newId notificationId : Uuid} {event : IntakeEvent}
    (hfresh : q.tasks.find? newId.text = none) {t : StoredTask} (ht : t ∈ q.tasks)
    (hother : ¬SameGroup t
      (q.upsertTaskFromEvent env now newId notificationId event).2.task) :
    t ∈ (q.upsertTaskFromEvent env now newId notificationId event).1.tasks := by
  unfold upsertTaskFromEvent at hother ⊢
  cases habsorbs : q.absorbing env event with
  | some task =>
    have htask : task ∈ q.tasks := (absorbing_eq_some.mp habsorbs).2
    rw [habsorbs] at hother
    dsimp only at hother ⊢
    rw [notifyFor_tasks]
    set x := task.replayed env now
      (q.severityFor task.taskType event.severity task.correlationId task.tenantId) event with hx
    have htasks : (q.repeated env now event task).tasks = q.tasks.put x := rfl
    have hstored : (q.replay env now event task).standing x.taskId ≠ none := by
      have hne : q.standing task.taskId ≠ none := standing_ne_none htask
      rw [replay_standing htask]
      exact hne
    have hgroup : SameGroup ((q.replay env now event task).current task) x :=
      current_sameGroup rfl (fun t ht hid => rerank_put_sameGroup htasks ht hid) hstored
    have hother' : ¬SameGroup t x := fun h => hother ⟨h.1.trans hgroup.1.symm, h.2.trans hgroup.2.symm⟩
    have hid : t.taskId ≠ x.taskId := by
      intro hid
      have hsame : t = task := Table.eq_of_key_eq ht htask hid
      exact hother' (hsame ▸ ⟨rfl, rfl⟩)
    have hkept : t ∈ ((q.repeated env now event task).rerankCorrelation now x.correlationId
        x.tenantId).tasks := mem_rerank_put htasks ht hid hother'
    exact hkept
  | none =>
    rw [habsorbs] at hother
    dsimp only at hother ⊢
    rw [notifyFor_tasks]
    have hstored : (q.materialize env now newId event).standing
        (q.newTask env now newId event).taskId ≠ none := by
      rw [newTask_taskId, materialize_standing, Function.update_self]
      nofun
    have hgroup : SameGroup ((q.materialize env now newId event).current
        (event.materialized env now newId .low)) (q.newTask env now newId event) :=
      current_sameGroup rfl (fun t ht hid => rerank_put_sameGroup admitted_tasks ht hid) hstored
    have hother' : ¬SameGroup t (q.newTask env now newId event) :=
      fun h => hother ⟨h.1.trans hgroup.1.symm, h.2.trans hgroup.2.symm⟩
    refine mem_rerank_put admitted_tasks ht ?_ hother'
    intro hid
    exact Table.find?_eq_none.mp hfresh t ht hid

theorem severityLaw_iff (hindexed : Indexed q) (hclosed : Closed q) {r : TaskRequest}
    (hfresh : q.Fresh r) : SeverityLaw env q r ↔ q.NotLowered env r := by
  rw [← rises_step_iff env hindexed hfresh]
  refine ⟨fun h => h.monotone, fun h => ⟨h, fun _ _ => hclosed.step hindexed, ?_⟩⟩
  obtain ⟨now, actor, call⟩ := r
  intro taker htaker t ht hother
  cases call with
  | intake newId notificationId event =>
    have heq := Option.some.inj htaker
    subst heq
    exact intake_framed hfresh ht hother
  | acknowledge taskId payload => cases htaker
  | inProgress taskId payload => cases htaker
  | complete taskId payload => cases htaker
  | dismiss taskId payload => cases htaker
  | selfAssign taskId payload => cases htaker
  | notify eventId taskId channel summary role => cases htaker

end TaskQueue

/-- Severities follow the law along a run exactly when no event is repeated that asks for less than
its task has and that the group does not make up for. -/
theorem severity_law_iff (env : Primitives) (requests : List TaskRequest)
    (hfresh : Along (TaskQueue.step env) TaskQueue.Fresh .empty requests) :
    Along (TaskQueue.step env) (TaskQueue.SeverityLaw env) .empty requests ↔
      Along (TaskQueue.step env) (TaskQueue.NotLowered env) .empty requests := by
  have hempty : TaskQueue.Closed .empty := fun t ht => absurd ht Table.not_mem_empty
  exact Along.congr_of_along (I := fun q => q.Indexed ∧ q.Closed)
    (fun q r h hnew => ⟨h.1.step hnew, h.2.step h.1⟩)
    (fun q r h hnew => TaskQueue.severityLaw_iff h.1 h.2 hnew) ⟨.empty, hempty⟩ hfresh

/-! ## A task that loses its severity -/

/-- An event about an execution that is ready, high unless it says otherwise. -/
def readyEvent (severity : Option Severity) : IntakeEvent :=
  { sourceEvent with taskType := .executionReady, sourceStatus := none, severity }

/-- The event comes in, and comes in again asking for low. -/
def loweringRun : List TaskRequest :=
  [⟨0, operator, .intake 1 2 (readyEvent none)⟩, ⟨1, operator, .intake 3 4 (readyEvent (some .low))⟩]

/-- The task is high, and then medium. -/
theorem severity_law_broken_loweringRun :
    ¬Along (TaskQueue.step plainPrimitives) (TaskQueue.SeverityLaw plainPrimitives) .empty
      loweringRun := by
  rintro ⟨-, hlaw, -⟩
  have hlowered : ∃ t ∈ (TaskQueue.step plainPrimitives .empty
        ⟨0, operator, .intake 1 2 (readyEvent none)⟩).tasks.rows, t.isActive = true ∧
      ∃ t' ∈ (TaskQueue.step plainPrimitives (TaskQueue.step plainPrimitives .empty
        ⟨0, operator, .intake 1 2 (readyEvent none)⟩)
        ⟨1, operator, .intake 3 4 (readyEvent (some .low))⟩).tasks.rows,
        t'.taskId = t.taskId ∧ ¬t.severity ≤ t'.severity := by
    decide +kernel
  obtain ⟨t, ht, hactive, t', ht', hid, hlow⟩ := hlowered
  exact hlow (hlaw.monotone t ht hactive t' ht' hid)

theorem severity_law_iff_loweringRun :
    Along (TaskQueue.step plainPrimitives) (TaskQueue.SeverityLaw plainPrimitives) .empty
        loweringRun ↔
      Along (TaskQueue.step plainPrimitives) (TaskQueue.NotLowered plainPrimitives) .empty
        loweringRun := by
  refine severity_law_iff plainPrimitives loweringRun ⟨rfl, ?_, trivial⟩
  show Table.find? _ _ = none
  decide +kernel

end Operator

end Mpango
