import Mpango.Spec.OperatorTasks

/-!
# Tasks of another service

A service that keeps tasks in the queue sees whether they are there and whether they are over
(`TaskQueue.live`). It can end them as long as their gate is closed and nobody has set them to wait
(`TaskQueue.Endable`).
-/

namespace Mpango

namespace Operator

/-- The task can be completed and dismissed, unless it is over. -/
def StoredTask.Endable (t : StoredTask) : Prop :=
  t.linkedGateOpen = false ∧ (t.state.isTerminal = true ∨
    .completed ∈ t.state.allowed ∧ .dismissed ∈ t.state.allowed)

namespace TaskQueue

variable {env : Primitives} {now : Instant} {q q' : TaskQueue} {taskId : String}

/-! ## What is live -/

section Live
variable {taskType : TaskType} {x : Standing}

/-- Whether a task of a type is there, and not over. -/
def live (q : TaskQueue) (taskType : TaskType) (taskId : String) : Option Bool :=
  (q.standing taskId).bind fun x =>
    if x.taskType = taskType then some !x.state.isTerminal else none

theorem live_eq_some {b : Bool} : q.live taskType taskId = some b ↔
    ∃ x, q.standing taskId = some x ∧ x.taskType = taskType ∧ x.state.isTerminal = !b := by
  rw [live, Option.bind_eq_some_iff]
  constructor
  · rintro ⟨x, hx, hlive⟩
    split at hlive
    · next htype =>
      cases hlive
      exact ⟨x, hx, htype, (Bool.not_not _).symm⟩
    · cases hlive
  · rintro ⟨x, hx, htype, hterminal⟩
    refine ⟨x, hx, ?_⟩
    rw [if_pos htype, hterminal, Bool.not_not]

theorem live_of_standing_none (h : q.standing taskId = none) : q.live taskType taskId = none := by
  rw [live, h, Option.bind_none]

theorem live_congr (h : q'.standing = q.standing) : q'.live taskType = q.live taskType := by
  funext id
  rw [live, live, h]

/-- A standing that changes under one id. -/
theorem live_update (h : q'.standing = Function.update q.standing taskId (some x)) :
    q'.live taskType = Function.update (q.live taskType) taskId
      (if x.taskType = taskType then some !x.state.isTerminal else none) := by
  funext id
  by_cases hid : id = taskId
  · subst hid
    rw [live, h, Function.update_self, Function.update_self, Option.bind_some]
  · rw [live, h, Function.update_of_ne hid, Function.update_of_ne hid, live]

/-- A standing that changes under one id, of a task of another type. -/
theorem live_update_other (h : q'.standing = Function.update q.standing taskId (some x))
    (hx : x.taskType ≠ taskType) (hbefore : q.live taskType taskId = none) :
    q'.live taskType = q.live taskType := by
  rw [live_update h, if_neg hx, ← hbefore, Function.update_eq_self]

end Live

/-! ## What can be ended -/

/-- Every task can be ended, unless it is over. -/
def Endable (q : TaskQueue) : Prop := ∀ t ∈ q.tasks, t.Endable

theorem Endable.empty : Endable .empty := fun _ ht => absurd ht Table.not_mem_empty

/-- A rerank leaves gates and states. -/
theorem Endable.rerank (h : Endable q) {correlationId : String} {tenantId : Option String} :
    Endable (q.rerankCorrelation now correlationId tenantId) := by
  intro t' ht'
  obtain ⟨t, ht, rfl⟩ := mem_rerank.mp ht'
  obtain ⟨severity, updatedAt, hframe⟩ := reranked_frame q now correlationId tenantId t
  rw [hframe]
  exact h t ht

theorem Endable.put (h : Endable q) {t : StoredTask} (ht : t.Endable)
    (htasks : q'.tasks = q.tasks.put t) : Endable q' := by
  intro t' ht'
  rw [htasks] at ht'
  rcases Table.mem_put.mp ht' with ⟨ht', -⟩ | rfl
  · exact h t' ht'
  · exact ht

theorem Endable.congr (h : Endable q) (htasks : q'.tasks = q.tasks) : Endable q' := by
  intro t ht
  rw [htasks] at ht
  exact h t ht

/-- Events that leave the gate closed leave tasks that can be ended. -/
theorem Endable.upsert (h : Endable q) {newId notificationId : Uuid} {event : IntakeEvent}
    (hgate : event.linkedGateOpen = false) :
    Endable (q.upsertTaskFromEvent env now newId notificationId event).1 := by
  unfold upsertTaskFromEvent
  cases habsorbs : q.absorbing env event with
  | some task =>
    have htask : task ∈ q.tasks := (absorbing_eq_some.mp habsorbs).2
    have hreplayed : ∀ severity, (task.replayed env now severity event).Endable :=
      fun _ => ⟨hgate, (h task htask).2⟩
    refine Endable.congr (q := q.replay env now event task) ?_ notifyFor_tasks
    exact (h.put (hreplayed _) rfl).rerank
  | none =>
    have hopen : .completed ∈ TaskState.open.allowed ∧ .dismissed ∈ TaskState.open.allowed := by
      decide
    have hnew : (q.newTask env now newId event).Endable := ⟨hgate, .inr hopen⟩
    refine Endable.congr (q := q.materialize env now newId event) ?_ notifyFor_tasks
    rw [materialize_eq]
    exact ((h.put hnew rfl : Endable (q.entered (q.newTask env now newId event))).congr
      emitAudit_tasks).rerank

/-- Operators who do not set tasks to wait leave tasks that can be ended. -/
theorem Endable.applyTransition (h : Endable q) {actor : Actor} {action : String}
    {target : TaskState} {payload : Option TransitionRequest}
    (htarget : target.isTerminal = true ∨
      .completed ∈ target.allowed ∧ .dismissed ∈ target.allowed) :
    Endable (q.applyTransition env now actor action target taskId payload).1 := by
  have hattempt : Attempt env now actor action target taskId payload q
    (q.applyTransition env now actor action target taskId payload) := applyTransition_attempt
  cases hresult : q.applyTransition env now actor action target taskId payload with
  | mk q' response =>
    rw [hresult] at hattempt
    cases hattempt with
    | missing => exact h
    | denied task htask hid code transition hrefusal => exact h.congr emitAudit_tasks
    | moved task htask hid hrefusal =>
      have hmoved : (task.moved env now target payload).Endable := ⟨(h task htask).1, htarget⟩
      exact h.put hmoved afterMove_tasks

/-! ## Ending a task -/

section Ending
variable {actor : Actor} {action : String} {target : TaskState}
  {payload : Option TransitionRequest} {x : Standing}

/-- A transition of a task that is not refused. -/
theorem applyTransition_standing {t : StoredTask} (ht : t ∈ q.tasks)
    (hrefusal : t.refusal target action payload = none) :
    (q.applyTransition env now actor action target t.taskId payload).1.standing =
      Function.update q.standing t.taskId (some ⟨t.taskType, target, t.dedupKeyDigest⟩) := by
  have hfind : q.tasks.find? t.taskId = some t := Table.find?_key ht
  unfold applyTransition
  rw [hfind]
  dsimp only
  rw [hrefusal]
  exact afterMove_standing

/-- An attempt changes no standing, or moves a task that was not over. -/
theorem applyTransition_standing_cases (env : Primitives) (now : Instant) (actor : Actor)
    (action : String) (target : TaskState) (taskId : String)
    (payload : Option TransitionRequest) (q : TaskQueue) :
    (q.applyTransition env now actor action target taskId payload).1.standing = q.standing ∨
    ∃ x, q.standing taskId = some x ∧ x.state.isTerminal = false ∧ target ∈ x.state.allowed ∧
      (q.applyTransition env now actor action target taskId payload).1.standing =
        Function.update q.standing taskId (some ⟨x.taskType, target, x.digest⟩) := by
  have hattempt : Attempt env now actor action target taskId payload q
    (q.applyTransition env now actor action target taskId payload) := applyTransition_attempt
  cases hresult : q.applyTransition env now actor action target taskId payload with
  | mk q' response =>
    rw [hresult] at hattempt
    cases hattempt with
    | missing => exact .inl rfl
    | denied task htask hid code transition hrefusal => exact .inl emitAudit_standing
    | moved task htask hid hrefusal =>
      obtain ⟨hactive, hallowed, -⟩ := refusal_eq_none hrefusal
      refine .inr ⟨task.standing, hid ▸ standing_of_mem htask, hactive, hallowed, ?_⟩
      rw [← hid]
      exact afterMove_standing

/-- A task that can be ended and is not over is completed, given some evidence. -/
theorem completeTask_standing (h : Endable q) {reason evidence : Option String}
    (hgiven : isGiven evidence = true) (hx : q.standing taskId = some x)
    (hactive : x.state.isTerminal = false) :
    (q.completeTask env now actor taskId (some ⟨reason, evidence, none⟩)).1.standing =
      Function.update q.standing taskId (some ⟨x.taskType, .completed, x.digest⟩) := by
  obtain ⟨t, ht, rfl, rfl⟩ := standing_eq_some.mp hx
  obtain ⟨hgate, hends⟩ := h t ht
  have hactive' : t.state.isTerminal = false := hactive
  obtain ⟨hcompleted, -⟩ := hends.resolve_left (by simp [hactive'])
  refine applyTransition_standing ht ?_
  have hevidence : isGiven (TransitionRequest.evidenceOf (some ⟨reason, evidence, none⟩)) = true :=
    hgiven
  rw [StoredTask.refusal, if_neg (by simp [hactive']), if_neg (not_not.mpr hcompleted), if_pos rfl,
    if_neg (not_not.mpr (.inl hevidence)), if_neg (by simp [hgate])]

/-- A task that can be ended and is not over is dismissed. -/
theorem dismissTask_standing (h : Endable q) (hx : q.standing taskId = some x)
    (hactive : x.state.isTerminal = false) :
    (q.dismissTask env now actor taskId payload).1.standing =
      Function.update q.standing taskId (some ⟨x.taskType, .dismissed, x.digest⟩) := by
  obtain ⟨t, ht, rfl, rfl⟩ := standing_eq_some.mp hx
  have hactive' : t.state.isTerminal = false := hactive
  obtain ⟨-, hdismissed⟩ := (h t ht).2.resolve_left (by simp [hactive'])
  refine applyTransition_standing ht ?_
  rw [StoredTask.refusal, if_neg (by simp [hactive']), if_neg (not_not.mpr hdismissed),
    if_neg (by decide)]

end Ending

/-! ## Ids

The ids of tasks are generated, so none is the empty text, which the services read as no id.
-/

/-- No task has the empty id. -/
def Named (q : TaskQueue) : Prop := q.standing "" = none

theorem Named.upsert (h : Named q) {newId notificationId : Uuid} {event : IntakeEvent} :
    Named (q.upsertTaskFromEvent env now newId notificationId event).1 := by
  have hstanding : (q.upsertTaskFromEvent env now newId notificationId event).1.standing = _ :=
    upsert_standing
  unfold Named
  cases habsorbs : q.absorbing env event with
  | some task =>
    rw [hstanding, habsorbs]
    exact h
  | none =>
    rw [hstanding, habsorbs]
    exact (Function.update_of_ne newId.text_ne_empty.symm ..).trans h

theorem Named.applyTransition (h : Named q) {actor : Actor} {action : String} {target : TaskState}
    {payload : Option TransitionRequest} :
    Named (q.applyTransition env now actor action target taskId payload).1 := by
  unfold Named
  rcases applyTransition_standing_cases env now actor action target taskId payload q with
    hsame | ⟨x, hx, -, -, hmoved⟩
  · rw [hsame]
    exact h
  · rw [hmoved, Function.update_of_ne, h]
    rintro rfl
    rw [h] at hx
    cases hx

/-! ## What is over stays over -/

/-- The tasks are still there, and those that are over stand as they did. -/
def KeepsOver (q q' : TaskQueue) : Prop :=
  ∀ id x, q.standing id = some x →
    ∃ x', q'.standing id = some x' ∧ (x.state.isTerminal = true → x' = x)

theorem KeepsOver.refl (q : TaskQueue) : KeepsOver q q := fun _ x hx => ⟨x, hx, fun _ => rfl⟩

theorem KeepsOver.of_standing (h : q'.standing = q.standing) : KeepsOver q q' := by
  intro id x hx
  exact ⟨x, by rw [h, hx], fun _ => rfl⟩

/-- A standing that changes under one id, where no task was over. -/
theorem KeepsOver.of_update {y : Standing}
    (h : q'.standing = Function.update q.standing taskId (some y))
    (hbefore : ∀ x, q.standing taskId = some x → x.state.isTerminal = false) : KeepsOver q q' := by
  intro id x hx
  rw [h]
  by_cases hid : id = taskId
  · subst hid
    refine ⟨y, Function.update_self .., fun hterminal => ?_⟩
    rw [hbefore x hx] at hterminal
    cases hterminal
  · exact ⟨x, by rw [Function.update_of_ne hid, hx], fun _ => rfl⟩

theorem KeepsOver.upsert {newId notificationId : Uuid} {event : IntakeEvent}
    (hfresh : q.standing newId.text = none) :
    KeepsOver q (q.upsertTaskFromEvent env now newId notificationId event).1 := by
  have hstanding : (q.upsertTaskFromEvent env now newId notificationId event).1.standing = _ :=
    upsert_standing
  cases habsorbs : q.absorbing env event with
  | some task =>
    rw [habsorbs] at hstanding
    exact .of_standing hstanding
  | none =>
    rw [habsorbs] at hstanding
    refine .of_update hstanding fun x hx => ?_
    rw [hfresh] at hx
    cases hx

/-- The task an event is answered with is there. -/
theorem upsert_stored (env : Primitives) (now : Instant) (newId notificationId : Uuid)
    (event : IntakeEvent) (q : TaskQueue) :
    ∃ x, (q.upsertTaskFromEvent env now newId notificationId event).1.standing
      (q.upsertTaskFromEvent env now newId notificationId event).2.task.taskId = some x := by
  have hstanding : (q.upsertTaskFromEvent env now newId notificationId event).1.standing = _ :=
    upsert_standing
  rw [upsert_task, hstanding]
  cases habsorbs : q.absorbing env event with
  | some task => exact ⟨_, standing_of_mem (absorbing_eq_some.mp habsorbs).2⟩
  | none => exact ⟨_, Function.update_self ..⟩

theorem KeepsOver.applyTransition {actor : Actor} {action : String} {target : TaskState}
    {payload : Option TransitionRequest} :
    KeepsOver q (q.applyTransition env now actor action target taskId payload).1 := by
  rcases applyTransition_standing_cases env now actor action target taskId payload q with
    h | ⟨x, hx, hactive, -, h⟩
  · exact .of_standing h
  · refine .of_update h fun y hy => ?_
    rw [hx] at hy
    cases hy
    exact hactive

end TaskQueue

end Operator

end Mpango
