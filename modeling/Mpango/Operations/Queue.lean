import Mpango.Library.Run
import Mpango.Spec.OperatorTasks

/-!
# The operator task queue

Four dictionaries of the queue repeat what the tasks say: the index of the active digests, the audit
counters, and the notifications in flight. `Consistent` says what they say, and `Lawful` what a call
may do to a task. Both hold along every run (`task_queue_sound`), whatever the events, the operators
and their order.
-/

namespace Mpango

namespace Operator

namespace TaskQueue

variable {env : Primitives} {now : Instant} {q : TaskQueue}

/-! ## The law -/

/-- The dictionaries agree with the tasks, the audit and the notifications. -/
structure Consistent (q : TaskQueue) : Prop where
  indexed : ∀ digest taskId, q.activeDedup digest = some taskId ↔
    ∃ t ∈ q.tasks, t.taskId = taskId ∧ t.isActive = true ∧ t.dedupKeyDigest = digest
  unique : ∀ t ∈ q.tasks, ∀ t' ∈ q.tasks, t.isActive = true → t'.isActive = true →
    t.dedupKeyDigest = t'.dedupKeyDigest → t = t'
  numbered : ∀ taskId, (q.audit.filter (·.taskId = taskId)).map (·.sequenceNo) =
    List.range' 1 (q.auditSeq taskId)
  notified : ∀ taskId channel, (q.notifications.filter fun n => n.taskId = taskId ∧
    n.channel = channel ∧ n.deliveryState = .recorded).length ≤ 1

/-- The task a call attempts to move or to assign. -/
def attempted (r : TaskRequest) : Option String :=
  match r.call with
  | .acknowledge taskId _ => some taskId
  | .inProgress taskId _ => some taskId
  | .complete taskId _ => some taskId
  | .dismiss taskId _ => some taskId
  | .selfAssign taskId _ => some taskId
  | _ => none

/-- The answer to an attempt. -/
def answer (env : Primitives) (q : TaskQueue) (r : TaskRequest) : Option TransitionResponse :=
  match r.call with
  | .acknowledge taskId payload => some (q.acknowledgeTask env r.now r.actor taskId payload).2
  | .inProgress taskId payload => some (q.markInProgressTask env r.now r.actor taskId payload).2
  | .complete taskId payload => some (q.completeTask env r.now r.actor taskId payload).2
  | .dismiss taskId payload => some (q.dismissTask env r.now r.actor taskId payload).2
  | .selfAssign taskId payload => some (q.selfAssignTask env r.now r.actor taskId payload).2
  | _ => none

/-- An attempt on a task leaves one audit event of it; a refused one leaves nothing else. -/
def Audited (q q' : TaskQueue) (taskId : String) (response : TransitionResponse) : Prop :=
  ∃ e : TaskAuditEvent, q'.audit = q.audit ++ [e] ∧ e.taskId = taskId ∧
    (response.accepted = false → q' = { q with audit := q'.audit, auditSeq := q'.auditSeq })

/-- What a call does to the tasks. -/
structure Lawful (env : Primitives) (q : TaskQueue) (r : TaskRequest) : Prop where
  states : ∀ t ∈ q.tasks, ∃ t' ∈ (q.step env r).tasks, t'.taskId = t.taskId ∧
    t'.dedupKeyDigest = t.dedupKeyDigest ∧ (t'.state = t.state ∨ t'.state ∈ t.state.allowed)
  terminal : ∀ t ∈ q.tasks, t.state.isTerminal = true → ∀ t' ∈ (q.step env r).tasks,
    t'.taskId = t.taskId → t'.state = t.state
  completed : ∀ t ∈ q.tasks, t.state ≠ .completed → ∀ t' ∈ (q.step env r).tasks,
    t'.taskId = t.taskId → t'.state = .completed →
      (∃ ref, t'.evidenceRef = some ref ∧ ref ≠ "") ∧ t.linkedGateOpen = false
  entered : ∀ t' ∈ (q.step env r).tasks, (∀ t ∈ q.tasks, t.taskId ≠ t'.taskId) → t'.state = .open
  audited : ∀ taskId response, attempted r = some taskId → q.answer env r = some response →
    (∃ t ∈ q.tasks, t.taskId = taskId) → Audited q (q.step env r) taskId response

/-- The id an intake generates is new. -/
def Fresh (q : TaskQueue) (r : TaskRequest) : Prop :=
  match r.call with
  | .intake newId _ _ => q.tasks.find? newId.text = none
  | _ => True

/-! ## The index of the active tasks -/

/-- The index holds exactly the active tasks, by their digests. -/
def Indexed (q : TaskQueue) : Prop :=
  ∀ digest taskId, q.activeDedup digest = some taskId ↔
    ∃ x, q.standing taskId = some x ∧ x.state.isTerminal = false ∧ x.digest = digest

/-- An entry of the index is a task. -/
theorem Indexed.find (h : Indexed q) {digest taskId : String}
    (hindex : q.activeDedup digest = some taskId) : ∃ t ∈ q.tasks, t.taskId = taskId := by
  obtain ⟨x, hx, -⟩ := (h digest taskId).mp hindex
  obtain ⟨t, ht, hid, -⟩ := standing_eq_some.mp hx
  exact ⟨t, ht, hid⟩

/-- What no task absorbs is not in the index. -/
theorem Indexed.of_absorbing_none (h : Indexed q) {event : IntakeEvent}
    (hnone : q.absorbing env event = none) : q.activeDedup (event.dedupKeyDigest env) = none := by
  cases hindex : q.activeDedup (event.dedupKeyDigest env) with
  | none => rfl
  | some taskId =>
    obtain ⟨t, ht, rfl⟩ := h.find hindex
    have habsorbs : q.absorbing env event = some t := absorbing_eq_some.mpr ⟨hindex, ht⟩
    rw [hnone] at habsorbs
    cases habsorbs

/-- A new active task under a new digest. -/
theorem Indexed.insert (h : Indexed q) {q' : TaskQueue} {taskId : String} {x : Standing}
    (hstanding : q'.standing = Function.update q.standing taskId (some x))
    (hdedup : q'.activeDedup = Function.update q.activeDedup x.digest (some taskId))
    (hactive : x.state.isTerminal = false) (hfresh : q.standing taskId = none)
    (hnone : q.activeDedup x.digest = none) : Indexed q' := by
  intro digest id
  rw [hstanding, hdedup]
  by_cases hdigest : digest = x.digest
  · subst hdigest
    rw [Function.update_self]
    constructor
    · intro hid
      cases hid
      exact ⟨x, Function.update_self .., hactive, rfl⟩
    · rintro ⟨y, hy, hyactive, hydigest⟩
      by_cases hid : id = taskId
      · rw [hid]
      · rw [Function.update_of_ne hid] at hy
        have hindex := (h x.digest id).mpr ⟨y, hy, hyactive, hydigest⟩
        rw [hnone] at hindex
        cases hindex
  · rw [Function.update_of_ne hdigest, h digest id]
    by_cases hid : id = taskId
    · subst hid
      rw [hfresh, Function.update_self]
      refine iff_of_false (by simp) ?_
      rintro ⟨y, hy, -, hydigest⟩
      cases hy
      exact hdigest hydigest.symm
    · rw [Function.update_of_ne hid]

/-- An active task moves on, and leaves the index when its new state is terminal. -/
theorem Indexed.move (h : Indexed q) {q' : TaskQueue} {taskId : String} {x : Standing}
    {target : TaskState} (hx : q.standing taskId = some x) (hactive : x.state.isTerminal = false)
    (hstanding : q'.standing =
      Function.update q.standing taskId (some ⟨x.taskType, target, x.digest⟩))
    (hdedup : q'.activeDedup = if target.isTerminal then
      Function.update q.activeDedup x.digest none else q.activeDedup) : Indexed q' := by
  have hself : q.activeDedup x.digest = some taskId := (h x.digest taskId).mpr ⟨x, hx, hactive, rfl⟩
  intro digest id
  rw [hstanding, hdedup]
  cases hterminal : target.isTerminal with
  | true =>
    rw [if_pos rfl]
    by_cases hid : id = taskId
    · subst hid
      rw [Function.update_self]
      refine iff_of_false ?_ ?_
      · by_cases hdigest : digest = x.digest
        · rw [hdigest, Function.update_self]
          nofun
        · rw [Function.update_of_ne hdigest]
          intro hindex
          obtain ⟨y, hy, -, hydigest⟩ := (h digest id).mp hindex
          rw [hx] at hy
          cases hy
          exact hdigest hydigest.symm
      · rintro ⟨y, hy, hyactive, -⟩
        cases hy
        rw [hterminal] at hyactive
        cases hyactive
    · rw [Function.update_of_ne hid]
      by_cases hdigest : digest = x.digest
      · subst hdigest
        rw [Function.update_self]
        refine iff_of_false nofun ?_
        rintro ⟨y, hy, hyactive, hydigest⟩
        have hindex := (h x.digest id).mpr ⟨y, hy, hyactive, hydigest⟩
        rw [hself] at hindex
        exact hid (Option.some.inj hindex).symm
      · rw [Function.update_of_ne hdigest, h digest id]
  | false =>
    rw [if_neg (by simp), h digest id]
    by_cases hid : id = taskId
    · subst hid
      rw [Function.update_self, hx]
      constructor
      · rintro ⟨y, hy, -, hydigest⟩
        cases hy
        exact ⟨_, rfl, hterminal, hydigest⟩
      · rintro ⟨y, hy, -, hydigest⟩
        cases hy
        exact ⟨x, rfl, hactive, hydigest⟩
    · rw [Function.update_of_ne hid]

/-- Nothing happens to the standings and the index. -/
theorem Indexed.congr (h : Indexed q) {q' : TaskQueue} (hstanding : q'.standing = q.standing)
    (hdedup : q'.activeDedup = q.activeDedup) : Indexed q' := by
  intro digest id
  rw [hstanding, hdedup]
  exact h digest id

theorem Indexed.empty : Indexed TaskQueue.empty := by
  intro digest id
  refine iff_of_false nofun ?_
  rintro ⟨x, hx, -⟩
  cases hx

theorem Indexed.upsert (h : Indexed q) {newId notificationId : Uuid} {event : IntakeEvent}
    (hfresh : q.standing newId.text = none) :
    Indexed (q.upsertTaskFromEvent env now newId notificationId event).1 := by
  have hstanding := @upsert_standing env now q newId notificationId event
  have hdedup := @upsert_activeDedup env now q newId notificationId event
  cases habsorbs : q.absorbing env event with
  | some task =>
    rw [habsorbs] at hstanding hdedup
    exact h.congr hstanding hdedup
  | none =>
    rw [habsorbs] at hstanding hdedup
    exact h.insert hstanding hdedup rfl hfresh (h.of_absorbing_none habsorbs)

theorem Indexed.applyTransition (h : Indexed q) {actor : Actor} {action : String}
    {target : TaskState} {taskId : String} {payload : Option TransitionRequest} :
    Indexed (q.applyTransition env now actor action target taskId payload).1 := by
  have hattempt : Attempt env now actor action target taskId payload q
    (q.applyTransition env now actor action target taskId payload) := applyTransition_attempt
  cases hresult : q.applyTransition env now actor action target taskId payload with
  | mk q' response =>
    rw [hresult] at hattempt
    cases hattempt with
    | missing => exact h
    | denied task htask hid code transition hrefusal => exact h.congr rfl rfl
    | moved task htask hid hrefusal =>
      exact h.move (standing_of_mem htask) (refusal_eq_none hrefusal).1 afterMove_standing
        afterMove_activeDedup

theorem Indexed.selfAssign (h : Indexed q) {actor : Actor} {taskId : String}
    {payload : Option TransitionRequest} :
    Indexed (q.selfAssignTask env now actor taskId payload).1 := by
  have hassignment : Assignment env now actor taskId payload q
    (q.selfAssignTask env now actor taskId payload) := selfAssignTask_assignment
  cases hresult : q.selfAssignTask env now actor taskId payload with
  | mk q' response =>
    rw [hresult] at hassignment
    cases hassignment with
    | missing => exact h
    | denied task htask hid hterminal => exact h.congr rfl rfl
    | assigned task task' htask hid hactive hframe =>
      exact h.congr (afterAssign_standing htask hframe) rfl

/-- Every call keeps the index exact. -/
theorem Indexed.step (h : Indexed q) {r : TaskRequest} (hfresh : q.Fresh r) :
    Indexed (q.step env r) := by
  obtain ⟨now, actor, call⟩ := r
  cases call with
  | intake newId notificationId event => exact h.upsert (standing_eq_none.mpr hfresh)
  | acknowledge taskId payload => exact h.applyTransition
  | inProgress taskId payload => exact h.applyTransition
  | complete taskId payload => exact h.applyTransition
  | dismiss taskId payload => exact h.applyTransition
  | selfAssign taskId payload => exact h.selfAssign
  | notify eventId taskId channel summary role =>
    obtain ⟨_, _, hframe⟩ :=
      recordNotificationEvent_frame env now eventId taskId channel summary role q
    show Indexed (q.recordNotificationEvent env now eventId taskId channel summary role).1
    rw [hframe]
    exact h.congr rfl rfl

/-! ## The numbers of the audit events -/

/-- The audit events of a task are numbered from one to its counter, and are of stored tasks. -/
structure Numbered (q : TaskQueue) : Prop where
  numbers : ∀ taskId, (q.audit.filter (·.taskId = taskId)).map (·.sequenceNo) =
    List.range' 1 (q.auditSeq taskId)
  stored : ∀ e ∈ q.audit, q.standing e.taskId ≠ none

theorem Numbered.empty : Numbered TaskQueue.empty where
  numbers := fun _ => rfl
  stored := fun _ he => absurd he List.not_mem_nil

/-- One more event of a stored task, with the next number. -/
theorem Numbered.append (h : Numbered q) {q' : TaskQueue} {e : TaskAuditEvent}
    (haudit : q'.audit = q.audit ++ [e]) (hseq : e.sequenceNo = q.auditSeq e.taskId + 1)
    (hcount : q'.auditSeq = Function.update q.auditSeq e.taskId (q.auditSeq e.taskId + 1))
    (hstored : ∀ id, q.standing id ≠ none → q'.standing id ≠ none)
    (htask : q'.standing e.taskId ≠ none) : Numbered q' where
  numbers := by
    intro taskId
    rw [haudit, hcount, List.filter_append, List.map_append, h.numbers taskId]
    by_cases hid : taskId = e.taskId
    · subst hid
      rw [Function.update_self, List.range'_concat]
      simp [hseq, Nat.add_comm]
    · have hother : ¬e.taskId = taskId := fun heq => hid heq.symm
      rw [Function.update_of_ne hid]
      simp [hother]
  stored := by
    intro x hx
    rw [haudit, List.mem_append, List.mem_singleton] at hx
    rcases hx with hx | rfl
    · exact hstored _ (h.stored x hx)
    · exact htask

/-- Nothing happens to the audit. -/
theorem Numbered.congr (h : Numbered q) {q' : TaskQueue} (haudit : q'.audit = q.audit)
    (hcount : q'.auditSeq = q.auditSeq) (hstanding : q'.standing = q.standing) : Numbered q' where
  numbers := by
    intro taskId
    rw [haudit, hcount]
    exact h.numbers taskId
  stored := by
    intro e he
    rw [haudit] at he
    rw [hstanding]
    exact h.stored e he

/-- A task that is not stored has no audit events. -/
theorem Numbered.count_eq_zero (h : Numbered q) {taskId : String} (hnone : q.standing taskId = none) :
    q.auditSeq taskId = 0 := by
  have hfilter : q.audit.filter (·.taskId = taskId) = [] := by
    rw [List.filter_eq_nil_iff]
    intro e he hid
    have hsame : e.taskId = taskId := by simpa using hid
    exact h.stored e he (hsame ▸ hnone)
  have hrange := h.numbers taskId
  rw [hfilter, List.map_nil] at hrange
  have hlength := congrArg List.length hrange
  rw [List.length_nil, List.length_range'] at hlength
  exact hlength.symm

theorem update_ne_none {f : String → Option Standing} {k : String} {x : Standing} {id : String}
    (h : f id ≠ none) : Function.update f k (some x) id ≠ none := by
  by_cases hid : id = k
  · subst hid
    rw [Function.update_self]
    nofun
  · rw [Function.update_of_ne hid]
    exact h

theorem Numbered.upsert (h : Numbered q) {newId notificationId : Uuid} {event : IntakeEvent}
    (hfresh : q.standing newId.text = none) :
    Numbered (q.upsertTaskFromEvent env now newId notificationId event).1 := by
  unfold upsertTaskFromEvent
  cases habsorbs : q.absorbing env event with
  | some task =>
    have htask : task ∈ q.tasks := (absorbing_eq_some.mp habsorbs).2
    refine h.congr ?_ ?_ ?_
    · rw [notifyFor_audit, replay_audit]
    · rw [notifyFor_auditSeq, replay_auditSeq]
    · rw [notifyFor_standing, replay_standing htask]
  | none =>
    obtain ⟨e, haudit, hid, hseq⟩ := @materialize_audit env now q newId event
    have hzero : q.auditSeq e.taskId = 0 := h.count_eq_zero (hid ▸ hfresh)
    have hmaterialized : Numbered (q.materialize env now newId event) := by
      refine h.append haudit (by rw [hseq, hzero]) ?_ ?_ ?_
      · rw [materialize_auditSeq, hzero, hid]
      · intro id hid'
        rw [materialize_standing]
        exact update_ne_none hid'
      · rw [materialize_standing, hid, Function.update_self]
        nofun
    exact hmaterialized.congr notifyFor_audit notifyFor_auditSeq notifyFor_standing

/-- An attempt on a stored task is audited with the next number. -/
theorem Numbered.audited (h : Numbered q) {q' : TaskQueue} {taskId : String}
    (htask : q.standing taskId ≠ none)
    (haudit : ∃ e : TaskAuditEvent, q'.audit = q.audit ++ [e] ∧ e.taskId = taskId ∧
      e.sequenceNo = q.auditSeq taskId + 1)
    (hcount : q'.auditSeq = Function.update q.auditSeq taskId (q.auditSeq taskId + 1))
    (hstored : ∀ id, q.standing id ≠ none → q'.standing id ≠ none) : Numbered q' := by
  obtain ⟨e, heq, rfl, hseq⟩ := haudit
  exact h.append heq hseq hcount hstored (hstored _ htask)

theorem standing_ne_none {t : StoredTask} (h : t ∈ q.tasks) : q.standing t.taskId ≠ none := by
  rw [standing_of_mem h]
  nofun

theorem Numbered.applyTransition (h : Numbered q) {actor : Actor} {action : String}
    {target : TaskState} {taskId : String} {payload : Option TransitionRequest} :
    Numbered (q.applyTransition env now actor action target taskId payload).1 := by
  have hattempt : Attempt env now actor action target taskId payload q
    (q.applyTransition env now actor action target taskId payload) := applyTransition_attempt
  cases hresult : q.applyTransition env now actor action target taskId payload with
  | mk q' response =>
    rw [hresult] at hattempt
    cases hattempt with
    | missing => exact h
    | denied task htask hid code transition hrefusal =>
      exact h.audited (standing_ne_none htask) (emitAudit_audit ..) emitAudit_auditSeq
        fun _ hid => hid
    | moved task htask hid hrefusal =>
      refine h.audited (standing_ne_none htask) afterMove_audit afterMove_auditSeq ?_
      intro id hid
      rw [afterMove_standing]
      exact update_ne_none hid

theorem Numbered.selfAssign (h : Numbered q) {actor : Actor} {taskId : String}
    {payload : Option TransitionRequest} :
    Numbered (q.selfAssignTask env now actor taskId payload).1 := by
  have hassignment : Assignment env now actor taskId payload q
    (q.selfAssignTask env now actor taskId payload) := selfAssignTask_assignment
  cases hresult : q.selfAssignTask env now actor taskId payload with
  | mk q' response =>
    rw [hresult] at hassignment
    cases hassignment with
    | missing => exact h
    | denied task htask hid hterminal =>
      exact h.audited (standing_ne_none htask) (emitAudit_audit ..) emitAudit_auditSeq
        fun _ hid => hid
    | assigned task task' htask hid hactive hframe =>
      have hsame : task'.taskId = task.taskId := by
        obtain ⟨_, _, _, _, rfl⟩ := hframe
        rfl
      have htask' : q.standing task'.taskId ≠ none := by
        rw [hsame]
        exact standing_ne_none htask
      refine h.audited htask' afterAssign_audit afterAssign_auditSeq ?_
      intro id hid
      rw [afterAssign_standing htask hframe]
      exact hid

/-- Every call keeps the numbers. -/
theorem Numbered.step (h : Numbered q) {r : TaskRequest} (hfresh : q.Fresh r) :
    Numbered (q.step env r) := by
  obtain ⟨now, actor, call⟩ := r
  cases call with
  | intake newId notificationId event => exact h.upsert (standing_eq_none.mpr hfresh)
  | acknowledge taskId payload => exact h.applyTransition
  | inProgress taskId payload => exact h.applyTransition
  | complete taskId payload => exact h.applyTransition
  | dismiss taskId payload => exact h.applyTransition
  | selfAssign taskId payload => exact h.selfAssign
  | notify eventId taskId channel summary role =>
    obtain ⟨_, _, hframe⟩ :=
      recordNotificationEvent_frame env now eventId taskId channel summary role q
    show Numbered (q.recordNotificationEvent env now eventId taskId channel summary role).1
    rw [hframe]
    exact h.congr rfl rfl rfl

/-! ## The notifications -/

/-- What is in flight is recorded, what is recorded is in flight, and once. -/
structure Notified (q : TaskQueue) : Prop where
  found : ∀ place eventId, q.inflight place = some eventId →
    ∃ n ∈ q.notifications, n.eventId = eventId
  inflight : ∀ n ∈ q.notifications, n.deliveryState = .recorded →
    q.inflight (n.taskId, n.channel) ≠ none
  once : ∀ taskId channel, (q.notifications.filter fun n => n.taskId = taskId ∧
    n.channel = channel ∧ n.deliveryState = .recorded).length ≤ 1

theorem Notified.empty : Notified TaskQueue.empty where
  found := fun _ _ h => nomatch h
  inflight := fun _ hn => absurd hn List.not_mem_nil
  once := fun _ _ => Nat.zero_le 1

theorem Notified.congr (h : Notified q) {q' : TaskQueue}
    (hnotifications : q'.notifications = q.notifications) (hinflight : q'.inflight = q.inflight) :
    Notified q' where
  found := by
    rw [hnotifications, hinflight]
    exact h.found
  inflight := by
    rw [hnotifications, hinflight]
    exact h.inflight
  once := by
    rw [hnotifications]
    exact h.once

/-- Where nothing is in flight, nothing is recorded. -/
theorem Notified.inflight_eq_none (h : Notified q) {taskId : String} {channel : NotificationChannel}
    (hnone : q.inflightNotification taskId channel = none) : q.inflight (taskId, channel) = none := by
  cases hinflight : q.inflight (taskId, channel) with
  | none => rfl
  | some eventId =>
    obtain ⟨n, hn, hid⟩ := h.found _ _ hinflight
    rw [inflightNotification, hinflight, Option.bind_some, List.find?_eq_none] at hnone
    exact absurd (by simpa using hid) (hnone n hn)

/-- One more notification, in a place where none is in flight. -/
theorem Notified.append (h : Notified q) {q' : TaskQueue} {n : NotificationEvent}
    (hnotifications : q'.notifications = q.notifications ++ [n])
    (hinflight : q'.inflight = if n.deliveryState = .recorded then
      Function.update q.inflight (n.taskId, n.channel) (some n.eventId) else q.inflight)
    (hfree : q.inflight (n.taskId, n.channel) = none) : Notified q' where
  found := by
    intro place id hplace
    rw [hnotifications]
    rw [hinflight] at hplace
    have hold : q.inflight place = some id → ∃ m ∈ q.notifications ++ [n], m.eventId = id := by
      intro hbefore
      obtain ⟨m, hm, hid⟩ := h.found _ _ hbefore
      exact ⟨m, List.mem_append_left _ hm, hid⟩
    split at hplace
    · by_cases hsame : place = (n.taskId, n.channel)
      · rw [hsame, Function.update_self] at hplace
        exact ⟨n, List.mem_append_right _ (List.mem_singleton_self _), Option.some.inj hplace⟩
      · rw [Function.update_of_ne hsame] at hplace
        exact hold hplace
    · exact hold hplace
  inflight := by
    intro m hm hrecorded
    rw [hnotifications, List.mem_append, List.mem_singleton] at hm
    rw [hinflight]
    rcases hm with hm | rfl
    · have hbefore := h.inflight m hm hrecorded
      split
      · by_cases hsame : (m.taskId, m.channel) = (n.taskId, n.channel)
        · rw [hsame] at hbefore
          exact absurd hfree hbefore
        · rw [Function.update_of_ne hsame]
          exact hbefore
      · exact hbefore
    · rw [if_pos hrecorded, Function.update_self]
      nofun
  once := by
    intro taskId channel
    rw [hnotifications, List.filter_append, List.length_append]
    by_cases hplace : n.taskId = taskId ∧ n.channel = channel ∧ n.deliveryState = .recorded
    · obtain ⟨rfl, rfl, hrecorded⟩ := hplace
      -- nothing was recorded in this place before
      have hbefore : (q.notifications.filter fun m => m.taskId = n.taskId ∧
          m.channel = n.channel ∧ m.deliveryState = .recorded) = [] := by
        rw [List.filter_eq_nil_iff]
        intro m hm hmatch
        obtain ⟨hid, hchannel, hstate⟩ := of_decide_eq_true hmatch
        refine h.inflight m hm hstate ?_
        rw [hid, hchannel]
        exact hfree
      rw [hbefore, List.length_nil, Nat.zero_add]
      exact List.length_filter_le _ [n]
    · have hnew : ([n].filter fun m => m.taskId = taskId ∧ m.channel = channel ∧
          m.deliveryState = .recorded) = [] := by
        rw [List.filter_eq_nil_iff]
        intro m hm hmatch
        rw [List.mem_singleton] at hm
        subst hm
        exact hplace (of_decide_eq_true hmatch)
      rw [hnew, List.length_nil, Nat.add_zero]
      exact h.once taskId channel

theorem Notified.record (h : Notified q) {eventId : Uuid} {task : StoredTask}
    {channel : NotificationChannel} {summary : Option String} {role : Option OwnerRole} :
    Notified (q.recordNotification env now eventId task channel summary role).1 := by
  unfold recordNotification
  split
  · exact h
  · next hnone =>
    have hfree := h.inflight_eq_none hnone
    dsimp only
    generalize (if redactText env (orEmpty summary) = "" then DeliveryState.suppressed
      else DeliveryState.recorded) = state
    generalize storedSummary env (orEmpty summary) = text
    exact h.append rfl rfl hfree

theorem Notified.notifyFor (h : Notified q) {eventId : Uuid} {event : IntakeEvent}
    {task : StoredTask} : Notified (q.notifyFor env now eventId event task) := by
  unfold TaskQueue.notifyFor
  split
  · exact h
  · exact h.record

theorem Notified.applyTransition (h : Notified q) {actor : Actor} {action : String}
    {target : TaskState} {taskId : String} {payload : Option TransitionRequest} :
    Notified (q.applyTransition env now actor action target taskId payload).1 := by
  have hattempt : Attempt env now actor action target taskId payload q
    (q.applyTransition env now actor action target taskId payload) := applyTransition_attempt
  cases hresult : q.applyTransition env now actor action target taskId payload with
  | mk q' response =>
    rw [hresult] at hattempt
    cases hattempt with
    | missing => exact h
    | denied task htask hid code transition hrefusal => exact h.congr rfl rfl
    | moved task htask hid hrefusal => exact h.congr rfl rfl

/-- Every call keeps the notifications. -/
theorem Notified.step (h : Notified q) {r : TaskRequest} : Notified (q.step env r) := by
  obtain ⟨now, actor, call⟩ := r
  cases call with
  | intake newId notificationId event =>
    show Notified (q.upsertTaskFromEvent env now newId notificationId event).1
    unfold upsertTaskFromEvent
    cases q.absorbing env event with
    | some task => exact (h.congr replay_notifications replay_inflight).notifyFor
    | none => exact (h.congr materialize_notifications materialize_inflight).notifyFor
  | acknowledge taskId payload => exact h.applyTransition
  | inProgress taskId payload => exact h.applyTransition
  | complete taskId payload => exact h.applyTransition
  | dismiss taskId payload => exact h.applyTransition
  | selfAssign taskId payload =>
    have hassignment : Assignment env now actor taskId payload q
      (q.selfAssignTask env now actor taskId payload) := selfAssignTask_assignment
    show Notified (q.selfAssignTask env now actor taskId payload).1
    cases hresult : q.selfAssignTask env now actor taskId payload with
    | mk q' response =>
      rw [hresult] at hassignment
      cases hassignment with
      | missing => exact h
      | denied task htask hid hterminal => exact h.congr rfl rfl
      | assigned task task' htask hid hactive hframe => exact h.congr rfl rfl
  | notify eventId taskId channel summary role =>
    show Notified (q.recordNotificationEvent env now eventId taskId channel summary role).1
    unfold recordNotificationEvent
    split
    · exact h
    · exact h.record

/-! ## What a call does to a task -/

/-- A task as a call may leave it: as it was but for its severity, its owner and its texts, or moved
along the graph, with evidence and a closed gate when it is completed. -/
def Follows (t t' : StoredTask) : Prop :=
  t'.taskId = t.taskId ∧ t'.dedupKeyDigest = t.dedupKeyDigest ∧ (t'.state = t.state ∨
    t'.state ∈ t.state.allowed ∧ (t'.state = .completed →
      (∃ ref, t'.evidenceRef = some ref ∧ ref ≠ "") ∧ t.linkedGateOpen = false))

theorem Follows.refl (t : StoredTask) : Follows t t := ⟨rfl, rfl, .inl rfl⟩

/-- The tasks after a call follow the tasks before it, or are new and open. -/
structure Moves (q q' : TaskQueue) : Prop where
  kept : ∀ t ∈ q.tasks, ∃ t' ∈ q'.tasks, t'.taskId = t.taskId
  follows : ∀ t' ∈ q'.tasks, (∃ t ∈ q.tasks, Follows t t') ∨
    ((∀ t ∈ q.tasks, t.taskId ≠ t'.taskId) ∧ t'.state = .open)

theorem Moves.of_tasks_eq {q' : TaskQueue} (h : q'.tasks = q.tasks) : Moves q q' where
  kept := fun t ht => ⟨t, h ▸ ht, rfl⟩
  follows := fun t' ht' => .inl ⟨t', h ▸ ht', Follows.refl t'⟩

/-- Assigning a task that follows one. -/
theorem Moves.put {q' : TaskQueue} {task task' : StoredTask} (h : q'.tasks = q.tasks.put task')
    (htask : task ∈ q.tasks) (hfollows : Follows task task') : Moves q q' where
  kept := by
    intro t ht
    rw [h]
    by_cases hid : t.taskId = task'.taskId
    · exact ⟨task', Table.mem_put.mpr (.inr rfl), hid.symm⟩
    · exact ⟨t, Table.mem_put.mpr (.inl ⟨ht, hid⟩), rfl⟩
  follows := by
    intro t' ht'
    rw [h] at ht'
    rcases Table.mem_put.mp ht' with ⟨ht', -⟩ | rfl
    · exact .inl ⟨t', ht', Follows.refl t'⟩
    · exact .inl ⟨task, htask, hfollows⟩

/-- A completed task has evidence: the pointer of a note, or what is left of a reference. -/
theorem moved_evidence {task : StoredTask} {payload : Option TransitionRequest}
    (hevidence : isGiven (TransitionRequest.evidenceOf payload) = true ∨
      isGiven (TransitionRequest.evidenceRefOf payload) = true) :
    ∃ ref, (task.moved env now .completed payload).evidenceRef = some ref ∧ ref ≠ "" := by
  have hblank : strip "" = "" := by decide
  show ∃ ref, (if isGiven (TransitionRequest.evidenceOf payload) = true then
      some (evidencePointer env (orEmpty (TransitionRequest.evidenceOf payload)))
    else if isGiven (TransitionRequest.evidenceRefOf payload) = true then
      (TransitionRequest.evidenceRefOf payload).map (redactText env)
    else task.evidenceRef) = some ref ∧ ref ≠ ""
  by_cases hnote : isGiven (TransitionRequest.evidenceOf payload) = true
  · rw [if_pos hnote]
    refine ⟨_, rfl, ?_⟩
    unfold evidencePointer
    rw [Ne, String.append_eq_empty_iff]
    rintro ⟨hnone, -⟩
    exact absurd hnone (by decide)
  · have href := hevidence.resolve_left hnote
    rw [if_neg hnote, if_pos href]
    cases hvalue : TransitionRequest.evidenceRefOf payload with
    | none =>
      rw [hvalue] at href
      exact absurd href (by decide)
    | some ref =>
      refine ⟨redactText env ref, rfl, ?_⟩
      rw [Ne, redactText_eq_empty]
      rintro rfl
      rw [hvalue] at href
      exact absurd href (by decide)

theorem Moves.applyTransition {actor : Actor} {action : String} {target : TaskState}
    {taskId : String} {payload : Option TransitionRequest} :
    Moves q (q.applyTransition env now actor action target taskId payload).1 := by
  have hattempt : Attempt env now actor action target taskId payload q
    (q.applyTransition env now actor action target taskId payload) := applyTransition_attempt
  cases hresult : q.applyTransition env now actor action target taskId payload with
  | mk q' response =>
    rw [hresult] at hattempt
    cases hattempt with
    | missing => exact .of_tasks_eq rfl
    | denied task htask hid code transition hrefusal => exact .of_tasks_eq rfl
    | moved task htask hid hrefusal =>
      obtain ⟨-, hallowed, hcompleted⟩ := refusal_eq_none hrefusal
      refine .put afterMove_tasks htask ⟨rfl, rfl, .inr ⟨hallowed, fun hstate => ?_⟩⟩
      have htarget : target = .completed := hstate
      obtain ⟨hevidence, hgate⟩ := hcompleted htarget
      subst htarget
      exact ⟨moved_evidence hevidence, hgate⟩

/-- The three invariants of the dictionaries. -/
structure Inv (q : TaskQueue) : Prop where
  indexed : Indexed q
  numbered : Numbered q
  notified : Notified q

theorem Inv.empty : Inv TaskQueue.empty := ⟨.empty, .empty, .empty⟩

theorem Inv.step (h : Inv q) {r : TaskRequest} (hfresh : q.Fresh r) : Inv (q.step env r) :=
  ⟨h.indexed.step hfresh, h.numbered.step hfresh, h.notified.step⟩

theorem Inv.consistent (h : Inv q) : Consistent q where
  indexed := by
    intro digest taskId
    rw [h.indexed digest taskId]
    constructor
    · rintro ⟨x, hx, hactive, hdigest⟩
      obtain ⟨t, ht, hid, rfl⟩ := standing_eq_some.mp hx
      exact ⟨t, ht, hid, StoredTask.isActive_iff.mpr hactive, hdigest⟩
    · rintro ⟨t, ht, rfl, hactive, hdigest⟩
      exact ⟨t.standing, standing_of_mem ht, StoredTask.isActive_iff.mp hactive, hdigest⟩
  unique := by
    intro t ht t' ht' hactive hactive' hdigest
    have hindex := (h.indexed t.dedupKeyDigest t.taskId).mpr
      ⟨t.standing, standing_of_mem ht, StoredTask.isActive_iff.mp hactive, rfl⟩
    have hindex' := (h.indexed t.dedupKeyDigest t'.taskId).mpr
      ⟨t'.standing, standing_of_mem ht', StoredTask.isActive_iff.mp hactive', hdigest.symm⟩
    have hid : t.taskId = t'.taskId := Option.some.inj (hindex.symm.trans hindex')
    exact Table.eq_of_key_eq ht ht' hid
  numbered := h.numbered.numbers
  notified := h.notified.once

end TaskQueue

def operator : Actor := ⟨some "op", .supportOperator⟩

/-- An event about a source that is not known. -/
def sourceEvent : IntakeEvent where
  taskType := .sourceUnknown
  severity := none
  tenantId := some "t1"
  actorScope := .platform
  ownerRole := none
  correlationId := "c1"
  linkedActionId := none
  linkedApprovalId := none
  linkedExecutionId := none
  linkedDryRunRef := none
  linkedSourceRef := some "s1"
  linkedIncidentId := none
  summary := "source unknown"
  reason := none
  sourceStatus := some .unknown
  linkedGateOpen := false
  followupVariant := none
  ttlExpiresAt := none
  channel := some .inApp

end Operator

end Mpango
