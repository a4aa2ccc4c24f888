import Mpango.Model.IncidentCloseouts
import Mpango.Spec.LinkedTasks

/-!
# What the calls on closeouts and steps do

A call does one of a few things to the store: it notes something on a closeout or a step, opens one,
or moves one along its graph and settles its task. `CloseoutStore.step_effect` says which of these
every call comes to, with the guards it has passed.
-/

namespace Mpango

namespace Incident

open Operator

variable {env : Primitives} {now : Instant} {newId newTaskId : Uuid} {actor : Actor}
  {s : CloseoutStore} {q : TaskQueue}

/-! ## Records that stay themselves -/

/-- What no call changes of a closeout. -/
structure SameCloseout (c c' : StoredCloseout) : Prop where
  closeoutId : c'.closeoutId = c.closeoutId
  tenantId : c'.tenantId = c.tenantId
  correlationId : c'.correlationId = c.correlationId
  linkedIncidentId : c'.linkedIncidentId = c.linkedIncidentId
  dedupKeyDigest : c'.dedupKeyDigest = c.dedupKeyDigest
  sourceStatus : c'.sourceStatus = c.sourceStatus
  linkedExecutionWarning : c'.linkedExecutionWarning = c.linkedExecutionWarning
  createdAt : c'.createdAt = c.createdAt

/-- What no call changes of a step. -/
structure SameStep (st st' : StoredStep) : Prop where
  stepId : st'.stepId = st.stepId
  closeoutId : st'.closeoutId = st.closeoutId
  sequenceNo : st'.sequenceNo = st.sequenceNo
  stepKind : st'.stepKind = st.stepKind
  tenantId : st'.tenantId = st.tenantId
  correlationId : st'.correlationId = st.correlationId
  dedupKeyDigest : st'.dedupKeyDigest = st.dedupKeyDigest
  createdAt : st'.createdAt = st.createdAt

theorem SameCloseout.refl (c : StoredCloseout) : SameCloseout c c :=
  ⟨rfl, rfl, rfl, rfl, rfl, rfl, rfl, rfl⟩

theorem SameCloseout.trans {a b c : StoredCloseout} (h : SameCloseout a b) (h' : SameCloseout b c) :
    SameCloseout a c :=
  ⟨h'.1.trans h.1, h'.2.trans h.2, h'.3.trans h.3, h'.4.trans h.4, h'.5.trans h.5, h'.6.trans h.6,
    h'.7.trans h.7, h'.8.trans h.8⟩

theorem SameStep.refl (st : StoredStep) : SameStep st st :=
  ⟨rfl, rfl, rfl, rfl, rfl, rfl, rfl, rfl⟩

theorem SameStep.trans {a b c : StoredStep} (h : SameStep a b) (h' : SameStep b c) : SameStep a c :=
  ⟨h'.1.trans h.1, h'.2.trans h.2, h'.3.trans h.3, h'.4.trans h.4, h'.5.trans h.5, h'.6.trans h.6,
    h'.7.trans h.7, h'.8.trans h.8⟩

/-- A closeout with a note on it: it stands where it did, with the follow-up it had. -/
structure NotedCloseout (c c' : StoredCloseout) : Prop extends SameCloseout c c' where
  state : c'.state = c.state
  linkedFollowupTaskId : c'.linkedFollowupTaskId = c.linkedFollowupTaskId
  followupOwed : c'.followupOwed = c.followupOwed

/-- A step with a note on it: it stands where it did, with the task it had. -/
structure NotedStep (st st' : StoredStep) : Prop extends SameStep st st' where
  stepState : st'.stepState = st.stepState
  linkedTaskId : st'.linkedTaskId = st.linkedTaskId

theorem NotedCloseout.refl (c : StoredCloseout) : NotedCloseout c c :=
  ⟨.refl c, rfl, rfl, rfl⟩

theorem NotedStep.refl (st : StoredStep) : NotedStep st st := ⟨.refl st, rfl, rfl⟩

theorem StoredCloseout.mirroring_noted (c : StoredCloseout) (event : CloseoutIntakeEvent) :
    NotedCloseout c (c.mirroring event) :=
  ⟨⟨rfl, rfl, rfl, rfl, rfl, rfl, rfl, rfl⟩, rfl, rfl, rfl⟩

theorem StoredCloseout.reasoned_noted (env : Primitives) (c : StoredCloseout)
    (reason : Option String) : NotedCloseout c (c.reasoned env reason) :=
  ⟨⟨rfl, rfl, rfl, rfl, rfl, rfl, rfl, rfl⟩, rfl, rfl, rfl⟩

theorem StoredCloseout.entering_same (env : Primitives) (c : StoredCloseout) (now : Instant)
    (target : CloseoutState) (reason : Option String) :
    SameCloseout c (c.entering env now target reason) :=
  ⟨rfl, rfl, rfl, rfl, rfl, rfl, rfl, rfl⟩

theorem StoredStep.entering_same (env : Primitives) (st : StoredStep) (now : Instant)
    (target : StepState) (evidence reason : Option String) :
    SameStep st (st.entering env now target evidence reason) :=
  ⟨rfl, rfl, rfl, rfl, rfl, rfl, rfl, rfl⟩

theorem StoredStep.mirroring_noted (st : StoredStep) (event : CloseoutIntakeEvent) :
    NotedStep st (st.mirroring event) :=
  ⟨⟨rfl, rfl, rfl, rfl, rfl, rfl, rfl, rfl⟩, rfl, rfl⟩

/-! ## Given texts -/

theorem given_eq_some {value : Option String} {v : String} :
    given value = some v ↔ value = some v ∧ v ≠ "" := by
  rw [given, Option.filter_eq_some_iff, decide_eq_true_eq]

theorem given_of_ne {v : String} (h : v ≠ "") : given (some v) = some v :=
  given_eq_some.mpr ⟨rfl, h⟩

theorem idOr_ne_empty {supplied : Option String} : idOr supplied newId ≠ "" := by
  unfold idOr
  cases h : given supplied with
  | none => exact newId.text_ne_empty
  | some v => exact (given_eq_some.mp h).2

/-! ## Terminal tasks -/

theorem p23TaskIsTerminal_eq_false {taskId : String} : p23TaskIsTerminal q taskId = false ↔
    ∃ x, q.standing taskId = some x ∧ x.state.isTerminal = false := by
  unfold p23TaskIsTerminal TaskQueue.standing
  cases q.tasks.find? taskId with
  | none => simp
  | some t => simp [StoredTask.standing]

/-! ## Settling the follow-up -/

/-- Settling a follow-up changes its link, whether it is owed, and the time. -/
theorem settleFollowup_frame (env : Primitives) (now : Instant) (newTaskId : Uuid) (actor : Actor)
    (target : CloseoutState) (c : StoredCloseout) (q : TaskQueue) :
    ∃ linkedFollowupTaskId followupOwed updatedAt,
      (settleFollowup env now newTaskId actor target c q).2 =
        { c with linkedFollowupTaskId, followupOwed, updatedAt } := by
  have hresolve : ∀ evidence, ∃ linkedFollowupTaskId followupOwed updatedAt,
      (resolveFollowupTask env now actor evidence c q).2 =
        { c with linkedFollowupTaskId, followupOwed, updatedAt } := by
    intro evidence
    unfold resolveFollowupTask
    split
    · exact ⟨_, _, _, rfl⟩
    · split
      · exact ⟨_, _, _, rfl⟩
      · exact ⟨_, _, _, rfl⟩
  have hkeep : ∃ linkedFollowupTaskId followupOwed updatedAt,
      c = { c with linkedFollowupTaskId, followupOwed, updatedAt } :=
    ⟨c.linkedFollowupTaskId, c.followupOwed, c.updatedAt, rfl⟩
  unfold settleFollowup
  split
  · split
    · exact ⟨_, _, _, rfl⟩
    · exact hkeep
  · split
    · exact hresolve _
    · exact hkeep
  · split
    · exact hresolve _
    · exact hkeep
  · split
    · exact hresolve _
    · exact hkeep
  · split
    · exact hresolve _
    · exact hkeep
  · exact hkeep
  · exact hkeep
  · exact hkeep

theorem settleFollowup_same {target : CloseoutState} {c : StoredCloseout} :
    SameCloseout c (settleFollowup env now newTaskId actor target c q).2 := by
  obtain ⟨_, _, _, h⟩ := settleFollowup_frame env now newTaskId actor target c q
  rw [h]
  exact ⟨rfl, rfl, rfl, rfl, rfl, rfl, rfl, rfl⟩

theorem settleFollowup_state {target : CloseoutState} {c : StoredCloseout} :
    (settleFollowup env now newTaskId actor target c q).2.state = c.state := by
  obtain ⟨_, _, _, h⟩ := settleFollowup_frame env now newTaskId actor target c q
  rw [h]

/-- A transition leaves the follow-up, makes it owed, or resolves it. -/
inductive FollowupSettled (env : Primitives) (now : Instant) (newTaskId : Uuid) (actor : Actor)
    (target : CloseoutState) (c : StoredCloseout) (q : TaskQueue) :
    TaskQueue × StoredCloseout → Prop
  | kept : FollowupSettled env now newTaskId actor target c q (q, c)
  | owed (htarget : target = .flaggedActive) (howed : c.followupOwed = false) :
      FollowupSettled env now newTaskId actor target c q
        (materializeFollowupTask env now newTaskId c q)
  | resolved (evidence : String) (hgiven : isGiven (some evidence) = true)
      (howed : c.followupOwed = true) :
      FollowupSettled env now newTaskId actor target c q
        (resolveFollowupTask env now actor evidence c q)

theorem settleFollowup_settled {target : CloseoutState} {c : StoredCloseout} :
    FollowupSettled env now newTaskId actor target c q
      (settleFollowup env now newTaskId actor target c q) := by
  unfold settleFollowup
  split
  · split
    · next h => exact .owed rfl h.1
    · exact .kept
  · split
    · next h => exact .resolved _ (by decide) h
    · exact .kept
  · split
    · next h => exact .resolved _ (by decide) h
    · exact .kept
  · split
    · next h => exact .resolved _ (by decide) h
    · exact .kept
  · split
    · next h => exact .resolved _ (by decide) h
    · exact .kept
  · exact .kept
  · exact .kept
  · exact .kept

theorem resolveFollowup_followupOwed {evidence : String} {c : StoredCloseout} :
    (resolveFollowupTask env now actor evidence c q).2.followupOwed = false := by
  unfold resolveFollowupTask
  split
  · rfl
  · split
    · rfl
    · rfl

theorem resolveFollowup_link {evidence : String} {c : StoredCloseout} :
    (resolveFollowupTask env now actor evidence c q).2.linkedFollowupTaskId =
      c.linkedFollowupTaskId := by
  unfold resolveFollowupTask
  split
  · rfl
  · split
    · rfl
    · rfl

/-- In a terminal state no follow-up is owed. -/
theorem settleFollowup_terminal {target : CloseoutState} {c : StoredCloseout}
    (h : target.isTerminal = true) :
    (settleFollowup env now newTaskId actor target c q).2.followupOwed = false := by
  unfold settleFollowup
  split
  · cases h
  · cases h
  · split
    · exact resolveFollowup_followupOwed
    · next hnot => exact Bool.eq_false_iff.mpr hnot
  · split
    · exact resolveFollowup_followupOwed
    · next hnot => exact Bool.eq_false_iff.mpr hnot
  · split
    · exact resolveFollowup_followupOwed
    · next hnot => exact Bool.eq_false_iff.mpr hnot
  · cases h
  · cases h
  · cases h

/-- Resolving completes the linked task, unless it is over already. -/
theorem resolveFollowup_standing (h : q.Endable) {evidence : String}
    (hgiven : isGiven (some evidence) = true) {c : StoredCloseout} :
    ((resolveFollowupTask env now actor evidence c q).1.standing = q.standing ∧
      ∀ taskId, given c.linkedFollowupTaskId = some taskId → p23TaskIsTerminal q taskId = true) ∨
    ∃ taskId x, given c.linkedFollowupTaskId = some taskId ∧ q.standing taskId = some x ∧
      x.state.isTerminal = false ∧
      (resolveFollowupTask env now actor evidence c q).1.standing =
        Function.update q.standing taskId (some ⟨x.taskType, .completed, x.digest⟩) := by
  unfold resolveFollowupTask
  cases hlink : given c.linkedFollowupTaskId with
  | none => exact .inl ⟨rfl, nofun⟩
  | some taskId =>
    dsimp only
    cases hterminal : p23TaskIsTerminal q taskId with
    | true =>
      refine .inl ⟨rfl, ?_⟩
      intro id hid
      cases hid
      exact hterminal
    | false =>
      obtain ⟨x, hx, hactive⟩ := p23TaskIsTerminal_eq_false.mp hterminal
      exact .inr ⟨taskId, x, rfl, hx, hactive, TaskQueue.completeTask_standing h hgiven hx hactive⟩

/-! ## Settling the task of a step -/

theorem resolveStepTask_frame (env : Primitives) (now : Instant) (actor : Actor)
    (evidence : Option String) (dismiss : Bool) (st : StoredStep) (q : TaskQueue) :
    ∃ updatedAt, (resolveStepTask env now actor evidence dismiss st q).2 =
      { st with updatedAt } := by
  unfold resolveStepTask
  split
  · exact ⟨st.updatedAt, rfl⟩
  · split
    · exact ⟨st.updatedAt, rfl⟩
    · exact ⟨_, rfl⟩

theorem materializeStepTask_frame (env : Primitives) (now : Instant) (newTaskId : Uuid)
    (severity : Severity) (st : StoredStep) (q : TaskQueue) : ∃ linkedTaskId updatedAt,
      (materializeStepTask env now newTaskId severity st q).2 =
        { st with linkedTaskId, updatedAt } :=
  ⟨_, _, rfl⟩

theorem materializeStepTask_same {severity : Severity} {st : StoredStep} :
    SameStep st (materializeStepTask env now newTaskId severity st q).2 := by
  obtain ⟨_, _, h⟩ := materializeStepTask_frame env now newTaskId severity st q
  rw [h]
  exact ⟨rfl, rfl, rfl, rfl, rfl, rfl, rfl, rfl⟩

theorem materializeStepTask_stepState {severity : Severity} {st : StoredStep} :
    (materializeStepTask env now newTaskId severity st q).2.stepState = st.stepState := by
  obtain ⟨_, _, h⟩ := materializeStepTask_frame env now newTaskId severity st q
  rw [h]

/-- Settling the task of a step changes its link and the time. -/
theorem settleStepTask_frame (env : Primitives) (now : Instant) (newTaskId : Uuid) (actor : Actor)
    (target : StepState) (evidence : Option String) (severity : Severity) (st : StoredStep)
    (q : TaskQueue) : ∃ linkedTaskId updatedAt,
      (settleStepTask env now newTaskId actor target evidence severity st q).2 =
        { st with linkedTaskId, updatedAt } := by
  unfold settleStepTask
  split
  · obtain ⟨updatedAt, h⟩ := resolveStepTask_frame env now actor evidence (target = .notApplicable)
      st q
    exact ⟨st.linkedTaskId, updatedAt, h⟩
  · exact ⟨_, _, rfl⟩

theorem settleStepTask_same {target : StepState} {evidence : Option String} {severity : Severity}
    {st : StoredStep} :
    SameStep st (settleStepTask env now newTaskId actor target evidence severity st q).2 := by
  obtain ⟨_, _, h⟩ := settleStepTask_frame env now newTaskId actor target evidence severity st q
  rw [h]
  exact ⟨rfl, rfl, rfl, rfl, rfl, rfl, rfl, rfl⟩

theorem settleStepTask_stepState {target : StepState} {evidence : Option String}
    {severity : Severity} {st : StoredStep} :
    (settleStepTask env now newTaskId actor target evidence severity st q).2.stepState =
      st.stepState := by
  obtain ⟨_, _, h⟩ := settleStepTask_frame env now newTaskId actor target evidence severity st q
  rw [h]

/-- A note of the state says something. -/
theorem StoredStep.resolution_given {st : StoredStep} {evidence : Option String}
    (h : ∀ v, given evidence = some v → isGiven (some v) = true) :
    isGiven (some (st.resolution evidence)) = true := by
  unfold StoredStep.resolution
  cases hevidence : given evidence with
  | some v => exact h v hevidence
  | none =>
    rw [Option.getD_none]
    cases st.stepState <;> decide

/-- Resolving ends the linked task, unless it is over already. A completion needs evidence that is
missing, or not blank. -/
theorem resolveStepTask_standing (h : q.Endable) {evidence : Option String} {dismiss : Bool}
    {st : StoredStep}
    (hgiven : dismiss = false → ∀ v, given evidence = some v → isGiven (some v) = true) :
    ((resolveStepTask env now actor evidence dismiss st q).1.standing = q.standing ∧
      ∀ taskId, given st.linkedTaskId = some taskId → p23TaskIsTerminal q taskId = true) ∨
    ∃ taskId x state, given st.linkedTaskId = some taskId ∧ q.standing taskId = some x ∧
      x.state.isTerminal = false ∧ TaskState.isTerminal state = true ∧
      (resolveStepTask env now actor evidence dismiss st q).1.standing =
        Function.update q.standing taskId (some ⟨x.taskType, state, x.digest⟩) := by
  unfold resolveStepTask
  cases hlink : given st.linkedTaskId with
  | none => exact .inl ⟨rfl, nofun⟩
  | some taskId =>
    dsimp only
    cases hterminal : p23TaskIsTerminal q taskId with
    | true =>
      refine .inl ⟨rfl, ?_⟩
      intro id hid
      cases hid
      exact hterminal
    | false =>
      obtain ⟨x, hx, hactive⟩ := p23TaskIsTerminal_eq_false.mp hterminal
      cases dismiss with
      | true =>
        exact .inr ⟨taskId, x, .dismissed, rfl, hx, hactive, rfl,
          TaskQueue.dismissTask_standing h hx hactive⟩
      | false =>
        exact .inr ⟨taskId, x, .completed, rfl, hx, hactive, rfl,
          TaskQueue.completeTask_standing h (StoredStep.resolution_given (hgiven rfl)) hx hactive⟩

/-! ## Queues that can be worked -/

/-- Every task of the queue can be ended, and has an id. -/
structure Workable (q : TaskQueue) : Prop where
  endable : q.Endable
  named : q.Named

theorem Workable.empty : Workable .empty := ⟨.empty, rfl⟩

theorem Workable.upsert (h : Workable q) {notificationId : Uuid} {event : IntakeEvent}
    (hgate : event.linkedGateOpen = false) :
    Workable (q.upsertTaskFromEvent env now newId notificationId event).1 :=
  ⟨h.endable.upsert hgate, h.named.upsert⟩

theorem Workable.applyTransition (h : Workable q) {action taskId : String} {target : TaskState}
    {payload : Option TransitionRequest} (htarget : target.isTerminal = true ∨
      .completed ∈ target.allowed ∧ .dismissed ∈ target.allowed) :
    Workable (q.applyTransition env now actor action target taskId payload).1 :=
  ⟨h.endable.applyTransition htarget, h.named.applyTransition⟩

theorem Workable.settleFollowup (h : Workable q) {target : CloseoutState} {c : StoredCloseout} :
    Workable (settleFollowup env now newTaskId actor target c q).1 := by
  have hsettled : FollowupSettled env now newTaskId actor target c q
    (Incident.settleFollowup env now newTaskId actor target c q) := settleFollowup_settled
  generalize Incident.settleFollowup env now newTaskId actor target c q = result at hsettled
  cases hsettled with
  | kept => exact h
  | owed => exact h.upsert rfl
  | resolved evidence =>
    unfold resolveFollowupTask
    split
    · exact h
    · split
      · exact h
      · exact h.applyTransition (.inl rfl)

theorem Workable.resolveStepTask (h : Workable q) {evidence : Option String} {dismiss : Bool}
    {st : StoredStep} : Workable (resolveStepTask env now actor evidence dismiss st q).1 := by
  unfold Incident.resolveStepTask
  split
  · exact h
  · split
    · exact h
    · dsimp only
      split
      · exact h.applyTransition (.inl rfl)
      · exact h.applyTransition (.inl rfl)

theorem Workable.settleStepTask (h : Workable q) {target : StepState} {evidence : Option String}
    {severity : Severity} {st : StoredStep} :
    Workable (settleStepTask env now newTaskId actor target evidence severity st q).1 := by
  unfold Incident.settleStepTask
  split
  · exact h.resolveStepTask
  · exact h.upsert rfl

/-- Settling a follow-up leaves the tasks that are over. -/
theorem settleFollowup_keepsOver (hfresh : q.standing newTaskId.text = none)
    {target : CloseoutState} {c : StoredCloseout} :
    q.KeepsOver (settleFollowup env now newTaskId actor target c q).1 := by
  have hsettled : FollowupSettled env now newTaskId actor target c q
    (settleFollowup env now newTaskId actor target c q) := settleFollowup_settled
  generalize settleFollowup env now newTaskId actor target c q = result at hsettled
  cases hsettled with
  | kept => exact .refl q
  | owed => exact .upsert hfresh
  | resolved evidence =>
    unfold resolveFollowupTask
    split
    · exact .refl q
    · split
      · exact .refl q
      · exact .applyTransition

theorem settleStepTask_keepsOver (hfresh : q.standing newTaskId.text = none) {target : StepState}
    {evidence : Option String} {severity : Severity} {st : StoredStep} :
    q.KeepsOver (settleStepTask env now newTaskId actor target evidence severity st q).1 := by
  unfold settleStepTask
  split
  · unfold resolveStepTask
    split
    · exact .refl q
    · split
      · exact .refl q
      · dsimp only
        split
        · exact .applyTransition
        · exact .applyTransition
  · exact .upsert hfresh

/-! ## Accepted transitions -/

namespace CloseoutStore

/-- What a closeout has passed that closes. -/
theorem closeoutRefusal_closed {c : StoredCloseout} (h : s.closeoutRefusal c .closed = none) :
    (∀ st ∈ s.stepsFor c.closeoutId, st.stepState.isTerminal = true) ∧
      (c.flagEverSet = true → c.flagObserved = .observedFalse) ∧
      c.sourceStatus ≠ some .unknown ∧ c.linkedExecutionWarning = false := by
  unfold closeoutRefusal at h
  rw [if_neg (show ¬(CloseoutState.closed = .flaggedActive ∧ c.flagObserved ≠ .observedTrue) from
    nofun), if_neg (show ¬(CloseoutState.closed = .awaitingCloseout ∧ s.owedStepsOpen c = true) from
    nofun), if_pos rfl] at h
  split at h
  · cases h
  · split at h
    · cases h
    · split at h
      · cases h
      · next hopen =>
        split at h
        · cases h
        · next hflag =>
          split at h
          · cases h
          · split at h
            · cases h
            · next hsource =>
              split at h
              · cases h
              · next hwarning =>
                refine ⟨fun st hst => ?_, fun hset => ?_, hsource, by simpa using hwarning⟩
                · by_contra hactive
                  refine hopen (List.any_eq_true.mpr ⟨st, hst, ?_⟩)
                  simpa [StoredStep.isActive] using hactive
                · by_contra hobserved
                  exact hflag ⟨hset, hobserved⟩

theorem mem_stepsFor {st : StoredStep} {closeoutId : String} : st ∈ s.stepsFor closeoutId ↔
    st ∈ s.steps ∧ st.stepId ∈ s.closeoutStepOrder closeoutId := by
  rw [stepsFor, List.mem_filterMap]
  constructor
  · rintro ⟨stepId, hlisted, hfind⟩
    obtain ⟨hst, hid⟩ := Table.find?_eq_some.mp hfind
    have hsame : st.stepId = stepId := hid
    exact ⟨hst, hsame ▸ hlisted⟩
  · rintro ⟨hst, hlisted⟩
    exact ⟨st.stepId, hlisted, Table.find?_key hst⟩

theorem closeoutRefusal_active {c : StoredCloseout} {target : CloseoutState}
    (h : s.closeoutRefusal c target = none) : c.isActive = true := by
  unfold closeoutRefusal at h
  split at h
  · cases h
  · next hterminal => simpa [StoredCloseout.isActive] using hterminal

end CloseoutStore

theorem StoredStep.refusal_active {st : StoredStep} {target : StepState} {evidence : Option String}
    (h : st.refusal target evidence = none) : st.isActive = true := by
  unfold StoredStep.refusal at h
  split at h
  · cases h
  · next hterminal => simpa [StoredStep.isActive] using hterminal

/-! ## What a call asks for -/

namespace CloseoutStore

/-- The closeout an event addresses. -/
def addressed (s : CloseoutStore) (event : CloseoutIntakeEvent) : Option StoredCloseout :=
  (given event.closeoutId).bind s.closeouts.find?

/-- The closeout a call asks to move, with what the call notes on it before, the state it asks for
and the reason it gives. -/
def moving (s : CloseoutStore) (r : CloseoutRequest) :
    Option (StoredCloseout × CloseoutState × Option String) :=
  match r.call with
  | .closeoutTransition closeoutId target reason =>
    (s.closeouts.find? closeoutId).map fun c => (c, target, reason)
  | .ingest event =>
    match event.eventType with
    | .incidentClassified => (s.addressed event).map fun c =>
      ({ c with classification := event.classification.or c.classification }, .triaged,
        event.reason)
    | .incidentFlagObserved => (s.addressed event).bind fun c =>
      (c.mirroring event).flagTarget.map fun target => (c.mirroring event, target, event.reason)
    | .closeoutTransition => (s.addressed event).bind fun c =>
      event.targetState.map fun target => (c, target, event.reason)
    | _ => none
  | _ => none

/-- The step a call asks to move, with what the call notes on it before, the state it asks for, and
the evidence and the reason it gives. -/
def movingStep (s : CloseoutStore) (r : CloseoutRequest) :
    Option (StoredStep × StepState × Option String × Option String) :=
  match r.call with
  | .stepTransition closeoutId stepId target evidence reason =>
    (s.findStep closeoutId stepId).map fun st => (st, target, evidence, reason)
  | .ingest event =>
    match event.eventType with
    | .runbookStepProgress => (s.addressed event).bind fun c =>
      ((given event.stepId).bind (s.findStep c.closeoutId)).map fun st =>
        (st.mirroring event, .inProgress, none, event.reason)
    | .runbookStepTerminal => (s.addressed event).bind fun c =>
      ((given event.stepId).bind (s.findStep c.closeoutId)).map fun st =>
        (st.mirroring event, .done, event.evidence, event.reason)
    | _ => none
  | _ => none

/-! ## What a call comes to -/

/-- The store after a closeout has been opened. -/
def openCloseout (c : StoredCloseout) (s : CloseoutStore) : CloseoutStore :=
  { s with
    closeouts := s.closeouts.put c
    closeoutStepOrder := Function.update s.closeoutStepOrder c.closeoutId []
    activeCloseoutDedup := Function.update s.activeCloseoutDedup c.dedupKeyDigest
      (some c.closeoutId)
    closeoutAuditSeq := Function.update s.closeoutAuditSeq c.closeoutId 0 }

/-- The store after a closeout has moved to a state. -/
def moveCloseout (c : StoredCloseout) (target : CloseoutState) (q : TaskQueue)
    (c' : StoredCloseout) (s : CloseoutStore) : CloseoutStore :=
  { s with
    closeouts := s.closeouts.put c'
    activeCloseoutDedup := if target.isTerminal then
      Function.update s.activeCloseoutDedup c.dedupKeyDigest none else s.activeCloseoutDedup
    tasks := q }

/-- The store after a step has moved to a state. -/
def moveStep (st : StoredStep) (target : StepState) (q : TaskQueue) (st' : StoredStep)
    (s : CloseoutStore) : CloseoutStore :=
  { s with
    steps := s.steps.put st'
    activeStepDedup := if target.isTerminal then
      Function.update s.activeStepDedup st.dedupKeyDigest none else s.activeStepDedup
    tasks := q }

/-- The closeout a detected incident opens in a store. -/
def newCloseout (env : Primitives) (s : CloseoutStore) (r : CloseoutRequest)
    (event : CloseoutIntakeEvent) : StoredCloseout :=
  event.detected env r.now r.newId (s.severityFor event.severity event.sourceStatus
    (event.linkedExecutionWarning.getD false) event.correlationId event.tenantId)

/-- The step an event adds to a closeout of a store. -/
def newStep (env : Primitives) (s : CloseoutStore) (r : CloseoutRequest)
    (event : CloseoutIntakeEvent) (c : StoredCloseout) : StoredStep :=
  event.owedStep env r.now r.newId c (event.stepKind.getD .observation) (s.sequenceFor event c)
    (s.owedDigest env event c)

theorem newStep_stepId {r : CloseoutRequest} {event : CloseoutIntakeEvent} {c : StoredCloseout} :
    (s.newStep env r event c).stepId = idOr event.stepId r.newId := rfl

theorem newStep_closeoutId {r : CloseoutRequest} {event : CloseoutIntakeEvent} {c : StoredCloseout} :
    (s.newStep env r event c).closeoutId = c.closeoutId := rfl

theorem newStep_stepState {r : CloseoutRequest} {event : CloseoutIntakeEvent} {c : StoredCloseout} :
    (s.newStep env r event c).stepState = .owed := rfl

theorem newStep_dedupKeyDigest {r : CloseoutRequest} {event : CloseoutIntakeEvent}
    {c : StoredCloseout} : (s.newStep env r event c).dedupKeyDigest = s.owedDigest env event c := rfl

end CloseoutStore

/-- The flag of a closeout is left, or is what an event has observed of it. -/
def FlagFollows (s : CloseoutStore) (r : CloseoutRequest) (c c' : StoredCloseout) : Prop :=
  c'.flagObserved = c.flagObserved ∧ c'.flagEverSet = c.flagEverSet ∨
  ∃ event, r.call = .ingest event ∧ event.eventType = .incidentFlagObserved ∧
    s.addressed event = some c ∧ c'.flagObserved = (c.mirroring event).flagObserved ∧
    c'.flagEverSet = (c.mirroring event).flagEverSet

theorem FlagFollows.left {r : CloseoutRequest} {c c' : StoredCloseout}
    (h : c'.flagObserved = c.flagObserved) (h' : c'.flagEverSet = c.flagEverSet) :
    FlagFollows s r c c' := Or.inl ⟨h, h'⟩

/-- The closeout of a new step stays where it is, or goes into remediation. -/
inductive Remediated (env : Primitives) (r : CloseoutRequest) (s : CloseoutStore)
    (c : StoredCloseout) : CloseoutStore × StoredCloseout → Prop
  | stayed : Remediated env r s c (s, c)
  | moved (label : String) (hrefusal : s.closeoutRefusal c .inRemediation = none) :
      Remediated env r s c
        ((s.moveCloseout c .inRemediation s.tasks
            (c.entering env r.now .inRemediation none)).emitCloseoutAudit env r.now r.actor
          (c.entering env r.now .inRemediation none) label c.state .inRemediation none none,
        c.entering env r.now .inRemediation none)

/-- What a call comes to. -/
inductive Effect (env : Primitives) (r : CloseoutRequest) (s : CloseoutStore) :
    CloseoutStore → Prop
  | unchanged : Effect env r s s
  | worked (action : String) (target : TaskState) (taskId : String)
      (payload : Option TransitionRequest)
      (htarget : target = .acknowledged ∨ target = .inProgress) :
      Effect env r s
        { s with
          tasks := (s.tasks.applyTransition env r.now r.actor action target taskId payload).1 }
  | opened (event : CloseoutIntakeEvent) (label : String) (reason : Option String)
      (hcall : r.call = .ingest event) (htype : event.eventType = .incidentDetected)
      (hnone : s.absorbingCloseout env event = none) :
      Effect env r s
        ((s.openCloseout (s.newCloseout env r event)).emitCloseoutAudit env r.now r.actor
          (s.newCloseout env r event) label .detected .detected reason none)
  | noted (c c' : StoredCloseout) (label : String) (reason : Option String)
      (code : Option CloseoutDenialCode) (hc : c ∈ s.closeouts) (hnoted : NotedCloseout c c')
      (hflag : FlagFollows s r c c') :
      Effect env r s
        ((s.putCloseout c').emitCloseoutAudit env r.now r.actor c' label c.state c.state reason
          code)
  | moved (c c₁ c' : StoredCloseout) (target : CloseoutState) (reason : Option String)
      (label : String) (hc : c ∈ s.closeouts) (hnoted : NotedCloseout c c₁)
      (hmoving : s.moving r = some (c₁, target, reason)) (hclosed : target = .closed → c₁ = c)
      (hrefusal : s.closeoutRefusal c₁ target = none)
      (hafter : NotedCloseout (settleFollowup env r.now r.newTaskId r.actor target
        (c₁.entering env r.now target reason) s.tasks).2 c')
      (hflag : c'.flagObserved = c₁.flagObserved ∧ c'.flagEverSet = c₁.flagEverSet) :
      Effect env r s
        ((s.moveCloseout c₁ target (settleFollowup env r.now r.newTaskId r.actor target
            (c₁.entering env r.now target reason) s.tasks).1 c').emitCloseoutAudit env r.now r.actor
          c' label c.state target reason none)
  | stepOpened (event : CloseoutIntakeEvent) (c c₁ : StoredCloseout) (s₁ : CloseoutStore)
      (label : String) (hcall : r.call = .ingest event)
      (htype : event.eventType = .runbookStepOwed) (hc : s.addressed event = some c)
      (hnone : s.absorbingStep (s.owedDigest env event c) = none)
      (hremediated : Remediated env r s c (s₁, c₁)) :
      Effect env r s
        (({ s₁.addStep (materializeStepTask env r.now r.newTaskId c.severity
              (s.newStep env r event c) s.tasks).2 with
            tasks := (materializeStepTask env r.now r.newTaskId c.severity
              (s.newStep env r event c) s.tasks).1 } : CloseoutStore).emitStepAudit env r.now r.actor
          (materializeStepTask env r.now r.newTaskId c.severity (s.newStep env r event c) s.tasks).2
          label .owed .owed (some event.summary))
  | stepNoted (st st' : StoredStep) (label : String) (evidence : Option String)
      (hst : st ∈ s.steps) (hnoted : NotedStep st st')
      (hwarning : st'.linkedExecutionWarning = st.linkedExecutionWarning ∨
        ∃ target evidence reason, s.movingStep r = some (st', target, evidence, reason)) :
      Effect env r s
        ((s.putStep st').emitStepAudit env r.now r.actor st' label st.stepState st.stepState
          evidence)
  | stepMoved (st st₁ : StoredStep) (target : StepState) (evidence reason note : Option String)
      (label : String) (hst : st ∈ s.steps) (hnoted : NotedStep st st₁)
      (hmoving : s.movingStep r = some (st₁, target, evidence, reason))
      (hrefusal : st₁.refusal target evidence = none) :
      Effect env r s
        ((s.moveStep st₁ target
            (settleStepTask env r.now r.newTaskId r.actor target evidence (s.severityOf st.closeoutId)
              (st₁.entering env r.now target evidence reason) s.tasks).1
            (settleStepTask env r.now r.newTaskId r.actor target evidence (s.severityOf st.closeoutId)
              (st₁.entering env r.now target evidence reason) s.tasks).2).emitStepAudit env r.now
          r.actor (settleStepTask env r.now r.newTaskId r.actor target evidence
            (s.severityOf st.closeoutId) (st₁.entering env r.now target evidence reason)
            s.tasks).2 label st.stepState target note)

/-! ## Every call comes to one of these -/

namespace CloseoutStore

theorem mem_of_addressed {event : CloseoutIntakeEvent} {c : StoredCloseout}
    (h : s.addressed event = some c) : c ∈ s.closeouts := by
  obtain ⟨_, -, hfind⟩ := Option.bind_eq_some_iff.mp h
  exact Table.mem_of_find? hfind

/-- A note before a move is lost in it. -/
theorem putCloseout_moveCloseout {c c₁ c' : StoredCloseout} {target : CloseoutState}
    (h : c'.closeoutId = c₁.closeoutId) :
    (s.putCloseout c₁).moveCloseout c target q c' = s.moveCloseout c target q c' := by
  have hput : (s.closeouts.put c₁).put c' = s.closeouts.put c' := Table.put_put h
  rw [moveCloseout, moveCloseout, putCloseout, hput]

/-- A note after a move is made with it. -/
theorem moveCloseout_putCloseout {c c' c'' : StoredCloseout} {target : CloseoutState}
    (h : c''.closeoutId = c'.closeoutId) :
    (s.moveCloseout c target q c').putCloseout c'' = s.moveCloseout c target q c'' := by
  have hput : (s.closeouts.put c').put c'' = s.closeouts.put c'' := Table.put_put h
  rw [moveCloseout, moveCloseout, putCloseout, hput]

theorem putStep_moveStep {st st₁ st' : StoredStep} {target : StepState}
    (h : st'.stepId = st₁.stepId) :
    (s.putStep st₁).moveStep st target q st' = s.moveStep st target q st' := by
  have hput : (s.steps.put st₁).put st' = s.steps.put st' := Table.put_put h
  rw [moveStep, moveStep, putStep, hput]

theorem putCloseout_of_mem {c : StoredCloseout} (h : c ∈ s.closeouts) : s.putCloseout c = s := by
  rw [putCloseout, Table.put_of_mem h]

theorem putStep_of_mem {st : StoredStep} (h : st ∈ s.steps) : s.putStep st = s := by
  rw [putStep, Table.put_of_mem h]

theorem transitionCloseout_eq {target : CloseoutState} {reason : Option String}
    {c : StoredCloseout} : s.transitionCloseout env now newTaskId actor target reason c =
      match s.closeoutRefusal c target with
      | some code => .error code
      | none =>
        let settled :=
          settleFollowup env now newTaskId actor target (c.entering env now target reason) s.tasks
        .ok (s.moveCloseout c target settled.1 settled.2, settled.2) := rfl

theorem transitionStep_eq {target : StepState} {evidence reason : Option String}
    {severity : Severity} {st : StoredStep} :
    s.transitionStep env now newTaskId actor target evidence reason severity st =
      match st.refusal target evidence with
      | some code => .error code
      | none =>
        let settled := settleStepTask env now newTaskId actor target evidence severity
          (st.entering env now target evidence reason) s.tasks
        .ok (s.moveStep st target settled.1 settled.2, settled.2) := rfl

end CloseoutStore

section Effects
open CloseoutStore
variable {r : CloseoutRequest} {event : CloseoutIntakeEvent} {c : StoredCloseout}

/-- An audited attempt that changes nothing. -/
theorem Effect.audited {label : String} {reason : Option String}
    {code : Option CloseoutDenialCode} (hc : c ∈ s.closeouts) :
    Effect env r s
      (s.emitCloseoutAudit env r.now r.actor c label c.state c.state reason code) := by
  have heffect : Effect env r s ((s.putCloseout c).emitCloseoutAudit env r.now r.actor c label
    c.state c.state reason code) := .noted c c label reason code hc (.refl c) (.left rfl rfl)
  rwa [putCloseout_of_mem hc] at heffect

/-- An accepted transition after a note, and before one. -/
theorem Effect.transitioned {c c₁ c' : StoredCloseout} {target : CloseoutState}
    {reason : Option String} {label : String} (hc : c ∈ s.closeouts) (hnoted : NotedCloseout c c₁)
    (hmoving : s.moving r = some (c₁, target, reason)) (hclosed : target = .closed → c₁ = c)
    (hrefusal : s.closeoutRefusal c₁ target = none)
    (hafter : NotedCloseout (settleFollowup env r.now r.newTaskId r.actor target
      (c₁.entering env r.now target reason) s.tasks).2 c')
    (hflag : c'.flagObserved = c₁.flagObserved ∧ c'.flagEverSet = c₁.flagEverSet) :
    Effect env r s
      (((s.putCloseout c₁).moveCloseout c₁ target (settleFollowup env r.now r.newTaskId r.actor
          target (c₁.entering env r.now target reason) s.tasks).1 c').emitCloseoutAudit env r.now
        r.actor c' label c.state target reason none) := by
  have hid : c'.closeoutId = c₁.closeoutId :=
    hafter.closeoutId.trans (settleFollowup_same.closeoutId)
  rw [putCloseout_moveCloseout hid]
  exact .moved c c₁ c' target reason label hc hnoted hmoving hclosed hrefusal hafter hflag

theorem settleFollowup_flag {target : CloseoutState} :
    (settleFollowup env now newTaskId actor target c q).2.flagObserved = c.flagObserved ∧
      (settleFollowup env now newTaskId actor target c q).2.flagEverSet = c.flagEverSet := by
  obtain ⟨_, _, _, h⟩ := settleFollowup_frame env now newTaskId actor target c q
  rw [h]
  exact ⟨rfl, rfl⟩

theorem ingestIncidentDetected_effect (hcall : r.call = .ingest event)
    (htype : event.eventType = .incidentDetected) :
    Effect env r s (s.ingestIncidentDetected env r.now r.newId r.actor event).1 := by
  unfold ingestIncidentDetected
  cases hnone : s.absorbingCloseout env event with
  | some c =>
    obtain ⟨_, -, hfind⟩ := Option.bind_eq_some_iff.mp hnone
    exact .noted c _ _ _ _ (Table.mem_of_find? hfind) ⟨⟨rfl, rfl, rfl, rfl, rfl, rfl, rfl, rfl⟩,
      rfl, rfl, rfl⟩ (.left rfl rfl)
  | none => exact .opened event _ _ hcall htype hnone

theorem ingestIncidentClassified_effect (hcall : r.call = .ingest event)
    (htype : event.eventType = .incidentClassified) (hc : s.addressed event = some c) :
    Effect env r s (s.ingestIncidentClassified env r.now r.newTaskId r.actor event c).1 := by
  have hmem := mem_of_addressed hc
  have hmoving : s.moving r = some ({ c with
      classification := event.classification.or c.classification }, .triaged, event.reason) := by
    rw [moving, hcall]
    dsimp only
    rw [htype, hc]
    rfl
  unfold ingestIncidentClassified
  have hnoted : NotedCloseout c { c with
      classification := event.classification.or c.classification } :=
    ⟨⟨rfl, rfl, rfl, rfl, rfl, rfl, rfl, rfl⟩, rfl, rfl, rfl⟩
  have hflag : FlagFollows s r c { c with
      classification := event.classification.or c.classification } := .left rfl rfl
  dsimp only
  generalize { c with classification := event.classification.or c.classification } = c₁
    at hmoving hnoted hflag
  unfold transitionByIntake
  rw [transitionCloseout_eq]
  cases hrefusal : (s.putCloseout c₁).closeoutRefusal c₁ .triaged with
  | some code =>
    dsimp only
    rw [hnoted.state]
    exact .noted c c₁ _ _ _ hmem hnoted hflag
  | none =>
    dsimp only
    rw [settleFollowup_state, hnoted.state]
    exact .transitioned hmem hnoted hmoving nofun hrefusal (.refl _) settleFollowup_flag

theorem ingestIncidentFlagObserved_effect (hcall : r.call = .ingest event)
    (htype : event.eventType = .incidentFlagObserved) (hc : s.addressed event = some c) :
    Effect env r s (s.ingestIncidentFlagObserved env r.now r.newTaskId r.actor event c).1 := by
  have hmem := mem_of_addressed hc
  have hmoving : s.moving r = (c.mirroring event).flagTarget.map fun target =>
      (c.mirroring event, target, event.reason) := by
    rw [moving, hcall]
    dsimp only
    rw [htype, hc]
    rfl
  have hmirror : NotedCloseout c (c.mirroring event) := c.mirroring_noted event
  have hflag : ∀ c', c'.flagObserved = (c.mirroring event).flagObserved →
      c'.flagEverSet = (c.mirroring event).flagEverSet → FlagFollows s r c c' :=
    fun c' h h' => .inr ⟨event, hcall, htype, hc, h, h'⟩
  unfold ingestIncidentFlagObserved
  dsimp only
  generalize c.mirroring event = c₁ at hmoving hmirror hflag
  rw [hmirror.state]
  cases htarget : c₁.flagTarget with
  | none =>
    refine .noted c _ _ _ _ hmem ⟨?_, rfl, hmirror.linkedFollowupTaskId, hmirror.followupOwed⟩
      (hflag _ rfl rfl)
    exact hmirror.toSameCloseout.trans ⟨rfl, rfl, rfl, rfl, rfl, rfl, rfl, rfl⟩
  | some target =>
    dsimp only
    rw [transitionCloseout_eq]
    cases hrefusal : (s.putCloseout c₁).closeoutRefusal c₁ target with
    | some code =>
      refine .noted c _ _ _ _ hmem ⟨?_, hmirror.state, hmirror.linkedFollowupTaskId,
        hmirror.followupOwed⟩ (hflag _ rfl rfl)
      exact hmirror.toSameCloseout.trans ⟨rfl, rfl, rfl, rfl, rfl, rfl, rfl, rfl⟩
    | none =>
      dsimp only
      rw [settleFollowup_state,
        moveCloseout_putCloseout (StoredCloseout.reasoned_noted env _ event.reason).closeoutId]
      have hopen : target = .closed → c₁ = c := by
        rintro rfl
        exact absurd htarget (by unfold StoredCloseout.flagTarget; split <;> nofun)
      exact .transitioned hmem hmirror (by rw [hmoving, htarget]; rfl) hopen hrefusal
        (StoredCloseout.reasoned_noted env _ event.reason) settleFollowup_flag

theorem applyCloseoutTransition_effect {closeoutId : String} {target : CloseoutState}
    {reason : Option String}
    (hmoving : s.moving r = (s.closeouts.find? closeoutId).map fun c => (c, target, reason)) :
    Effect env r s (s.applyCloseoutTransition env r.now r.newTaskId r.actor closeoutId target
      reason).1 := by
  unfold applyCloseoutTransition
  cases hfind : s.closeouts.find? closeoutId with
  | none => exact .unchanged
  | some c =>
    have hmem : c ∈ s.closeouts := Table.mem_of_find? hfind
    rw [hfind] at hmoving
    dsimp only
    rw [transitionCloseout_eq]
    cases hrefusal : s.closeoutRefusal c target with
    | some code => exact .audited hmem
    | none =>
      dsimp only
      rw [settleFollowup_state]
      exact .moved c c _ target reason _ hmem (.refl c) hmoving (fun _ => rfl) hrefusal (.refl _)
        settleFollowup_flag

theorem ingestCloseoutTransition_effect (hcall : r.call = .ingest event)
    (htype : event.eventType = .closeoutTransition) (hc : s.addressed event = some c) :
    Effect env r s (s.ingestCloseoutTransition env r.now r.newTaskId r.actor event c).1 := by
  have hmem := mem_of_addressed hc
  have hmoving : s.moving r = event.targetState.map fun target => (c, target, event.reason) := by
    rw [moving, hcall]
    dsimp only
    rw [htype, hc]
    rfl
  unfold ingestCloseoutTransition
  cases htarget : event.targetState with
  | none => exact .audited hmem
  | some target =>
    refine applyCloseoutTransition_effect ?_
    have hfind : s.closeouts.find? c.closeoutId = some c := Table.find?_key hmem
    rw [hmoving, htarget, hfind]
    rfl

theorem selfAssignCloseout_effect {closeoutId : String} :
    Effect env r s (s.selfAssignCloseout env r.now r.actor closeoutId).1 := by
  unfold selfAssignCloseout
  cases hfind : s.closeouts.find? closeoutId with
  | none => exact .unchanged
  | some c =>
    have hmem : c ∈ s.closeouts := Table.mem_of_find? hfind
    dsimp only
    split
    · exact .audited hmem
    · exact .noted c _ _ _ _ hmem ⟨⟨rfl, rfl, rfl, rfl, rfl, rfl, rfl, rfl⟩, rfl, rfl, rfl⟩
        (.left rfl rfl)

/-- A new step is added next to a remediation, not before it. -/
theorem maybeEnterRemediation_addStep (st : StoredStep) (s : CloseoutStore) :
    ∃ s₁ c₁, Remediated env r s c (s₁, c₁) ∧
      (s.addStep st).maybeEnterRemediation env r.now r.newTaskId r.actor c = (s₁.addStep st, c₁) := by
  unfold maybeEnterRemediation
  split
  · rw [transitionCloseout_eq]
    have hsame : (s.addStep st).closeoutRefusal c .inRemediation =
        s.closeoutRefusal c .inRemediation := rfl
    rw [hsame]
    cases hrefusal : s.closeoutRefusal c .inRemediation with
    | some code => exact ⟨s, c, .stayed, rfl⟩
    | none => exact ⟨_, _, .moved (c.state.text ++ "->in_remediation") hrefusal, rfl⟩
  · exact ⟨s, c, .stayed, rfl⟩

theorem Remediated.severity {s₁ : CloseoutStore} {c₁ : StoredCloseout}
    (h : Remediated env r s c (s₁, c₁)) : c₁.severity = c.severity := by
  cases h with
  | stayed => rfl
  | moved => rfl

theorem Remediated.tasks {s₁ : CloseoutStore} {c₁ : StoredCloseout}
    (h : Remediated env r s c (s₁, c₁)) : s₁.tasks = s.tasks := by
  cases h with
  | stayed => rfl
  | moved => rfl

theorem Remediated.steps {s₁ : CloseoutStore} {c₁ : StoredCloseout}
    (h : Remediated env r s c (s₁, c₁)) : s₁.steps = s.steps := by
  cases h with
  | stayed => rfl
  | moved => rfl

/-- The record of a new step goes in once its task is known. -/
theorem addStep_put {st st' : StoredStep} (hid : st'.stepId = st.stepId)
    (hcloseout : st'.closeoutId = st.closeoutId) (hdigest : st'.dedupKeyDigest = st.dedupKeyDigest) :
    { s.addStep st with steps := (s.addStep st).steps.put st', tasks := q } =
      { s.addStep st' with tasks := q } := by
  have hput : (s.steps.put st).put st' = s.steps.put st' := Table.put_put hid
  unfold addStep
  dsimp only
  rw [hput, hid, hcloseout, hdigest]

/-- What an event about a new step does. -/
theorem ingestStepOwed_opened (env : Primitives) (r : CloseoutRequest)
    (hnone : s.absorbingStep (s.owedDigest env event c) = none) :
    ∃ s₁ c₁, Remediated env r s c (s₁, c₁) ∧
      (s.ingestStepOwed env r.now r.newId r.newTaskId r.actor event c).1 =
        ({ s₁.addStep (materializeStepTask env r.now r.newTaskId c.severity
              (s.newStep env r event c) s.tasks).2 with
            tasks := (materializeStepTask env r.now r.newTaskId c.severity
              (s.newStep env r event c) s.tasks).1 } : CloseoutStore).emitStepAudit env r.now r.actor
          (materializeStepTask env r.now r.newTaskId c.severity (s.newStep env r event c) s.tasks).2
          "materialized:owed" .owed .owed (some event.summary) := by
  obtain ⟨s₁, c₁, hremediated, heq⟩ : ∃ s₁ c₁, Remediated env r s c (s₁, c₁) ∧
      (s.addStep (s.newStep env r event c)).maybeEnterRemediation env r.now r.newTaskId r.actor c =
        (s₁.addStep (s.newStep env r event c), c₁) := maybeEnterRemediation_addStep _ s
  refine ⟨s₁, c₁, hremediated, ?_⟩
  have hadded : (s.addStep (event.owedStep env r.now r.newId c
      (event.stepKind.getD .observation) (s.sequenceFor event c)
      (s.owedDigest env event c))).maybeEnterRemediation env r.now r.newTaskId r.actor c =
      (s₁.addStep (s.newStep env r event c), c₁) := heq
  have htasks : (s₁.addStep (s.newStep env r event c)).tasks = s.tasks := hremediated.tasks
  unfold ingestStepOwed
  rw [hnone]
  dsimp only
  rw [hadded]
  dsimp only
  rw [htasks, hremediated.severity, addStep_put]
  · rfl
  · rfl
  · rfl
  · rfl

theorem ingestStepOwed_effect (hcall : r.call = .ingest event)
    (htype : event.eventType = .runbookStepOwed) (hc : s.addressed event = some c) :
    Effect env r s (s.ingestStepOwed env r.now r.newId r.newTaskId r.actor event c).1 := by
  cases hnone : s.absorbingStep (s.owedDigest env event c) with
  | some st =>
    obtain ⟨_, -, hfind⟩ := Option.bind_eq_some_iff.mp hnone
    unfold ingestStepOwed
    rw [hnone]
    exact .stepNoted st _ _ _ (Table.mem_of_find? hfind)
      ⟨⟨rfl, rfl, rfl, rfl, rfl, rfl, rfl, rfl⟩, rfl, rfl⟩ (.inl rfl)
  | none =>
    obtain ⟨s₁, c₁, hremediated, heq⟩ := ingestStepOwed_opened env r hnone
    rw [heq]
    exact .stepOpened event c c₁ s₁ _ hcall htype hc hnone hremediated

/-- A new incident opens a closeout. -/
theorem step_opened (hcall : r.call = .ingest event) (htype : event.eventType = .incidentDetected)
    (hnone : s.absorbingCloseout env event = none) :
    s.step env r = (s.openCloseout (s.newCloseout env r event)).emitCloseoutAudit env r.now r.actor
      (s.newCloseout env r event) "materialized:detected" .detected .detected (some event.summary)
      none := by
  unfold CloseoutStore.step
  rw [hcall]
  dsimp only
  rw [ingestEvent, if_pos htype, ingestIncidentDetected, hnone]
  rfl

/-- A new step is added to the runbook of a closeout. -/
theorem step_stepOpened (hcall : r.call = .ingest event)
    (htype : event.eventType = .runbookStepOwed) (hc : s.addressed event = some c) :
    s.step env r = (s.ingestStepOwed env r.now r.newId r.newTaskId r.actor event c).1 := by
  have haddressed : (given event.closeoutId).bind s.closeouts.find? = some c := hc
  unfold CloseoutStore.step
  rw [hcall]
  dsimp only
  rw [ingestEvent, if_neg (by rw [htype]; nofun), haddressed]
  dsimp only
  rw [htype]

theorem findStep_eq_some {closeoutId stepId : String} {st : StoredStep} :
    s.findStep closeoutId stepId = some st ↔
      st ∈ s.steps ∧ st.stepId = stepId ∧ st.closeoutId = closeoutId := by
  rw [findStep, Option.filter_eq_some_iff, Table.find?_eq_some, decide_eq_true_eq, and_assoc]
  rfl

/-- An attempt on a step, after a note on it. -/
theorem applyStepTransition_effect (env : Primitives) {st st₁ : StoredStep} {target : StepState}
    {evidence reason : Option String} (hst : st ∈ s.steps) (hnoted : NotedStep st st₁)
    (hmoving : s.movingStep r = some (st₁, target, evidence, reason)) :
    Effect env r s ((s.putStep st₁).applyStepTransition env r.now r.newTaskId r.actor st.closeoutId
      st.stepId target evidence reason).1 := by
  have hfind : (s.putStep st₁).findStep st.closeoutId st.stepId = some st₁ :=
    findStep_eq_some.mpr ⟨Table.mem_put.mpr (.inr rfl), hnoted.stepId, hnoted.closeoutId⟩
  unfold applyStepTransition
  rw [hfind]
  dsimp only
  rw [transitionStep_eq]
  cases hrefusal : st₁.refusal target evidence with
  | some code =>
    dsimp only
    rw [hnoted.stepState]
    exact .stepNoted st st₁ _ _ hst hnoted (.inr ⟨target, evidence, reason, hmoving⟩)
  | none =>
    dsimp only
    have hseverity : (s.putStep st₁).severityOf st.closeoutId = s.severityOf st.closeoutId := rfl
    have hstate : (st₁.entering env r.now target evidence reason).stepState = target := rfl
    have hid : (settleStepTask env r.now r.newTaskId r.actor target evidence
        (s.severityOf st.closeoutId) (st₁.entering env r.now target evidence reason)
        (s.putStep st₁).tasks).2.stepId = st₁.stepId :=
      settleStepTask_same.stepId.trans (st₁.entering_same env r.now target evidence reason).stepId
    rw [hseverity, settleStepTask_stepState, hstate, putStep_moveStep hid, hnoted.stepState]
    exact .stepMoved st st₁ target evidence reason _ _ hst hnoted hmoving hrefusal

theorem ingestStepChange_effect {target : StepState} {evidence : Option String}
    (hc : s.addressed event = some c)
    (hmoving : s.movingStep r = ((given event.stepId).bind (s.findStep c.closeoutId)).map
      fun st => (st.mirroring event, target, evidence, event.reason)) :
    Effect env r s (s.ingestStepChange env r.now r.newTaskId r.actor target evidence event c).1 := by
  unfold ingestStepChange
  cases hstep : (given event.stepId).bind (s.findStep c.closeoutId) with
  | none => exact .audited (mem_of_addressed hc)
  | some st =>
    obtain ⟨stepId, -, hfind⟩ := Option.bind_eq_some_iff.mp hstep
    obtain ⟨hst, -, hcloseout⟩ := findStep_eq_some.mp hfind
    rw [hstep] at hmoving
    dsimp only
    rw [← hcloseout]
    exact applyStepTransition_effect env hst (st.mirroring_noted event) hmoving

theorem ingestEvent_effect (hcall : r.call = .ingest event) :
    Effect env r s (s.ingestEvent env r.now r.newId r.newTaskId r.actor event).1 := by
  unfold ingestEvent
  split
  · next htype => exact ingestIncidentDetected_effect hcall htype
  · next hother =>
    cases hc : (given event.closeoutId).bind s.closeouts.find? with
    | none => exact .unchanged
    | some c =>
      have haddressed : s.addressed event = some c := hc
      dsimp only
      cases htype : event.eventType with
      | incidentDetected => exact absurd htype hother
      | incidentClassified => exact ingestIncidentClassified_effect hcall htype haddressed
      | incidentFlagObserved => exact ingestIncidentFlagObserved_effect hcall htype haddressed
      | closeoutTransition => exact ingestCloseoutTransition_effect hcall htype haddressed
      | runbookStepOwed => exact ingestStepOwed_effect hcall htype haddressed
      | runbookStepProgress =>
        refine ingestStepChange_effect haddressed ?_
        rw [movingStep, hcall]
        dsimp only
        rw [htype, haddressed]
        rfl
      | runbookStepTerminal =>
        refine ingestStepChange_effect haddressed ?_
        rw [movingStep, hcall]
        dsimp only
        rw [htype, haddressed]
        rfl

/-- Every call has one of the effects. -/
theorem step_effect (env : Primitives) (s : CloseoutStore) (r : CloseoutRequest) :
    Effect env r s (s.step env r) := by
  unfold CloseoutStore.step
  cases hcall : r.call with
  | ingest event => exact ingestEvent_effect hcall
  | closeoutTransition closeoutId target reason =>
    exact applyCloseoutTransition_effect (by rw [moving, hcall])
  | stepTransition closeoutId stepId target evidence reason =>
    dsimp only
    cases hfind : s.findStep closeoutId stepId with
    | none =>
      unfold applyStepTransition
      rw [hfind]
      exact .unchanged
    | some st =>
      obtain ⟨hst, rfl, rfl⟩ := findStep_eq_some.mp hfind
      have hmoving : s.movingStep r = some (st, target, evidence, reason) := by
        rw [movingStep, hcall]
        dsimp only
        rw [hfind]
        rfl
      have heffect := applyStepTransition_effect env hst (.refl st) hmoving
      rwa [putStep_of_mem hst] at heffect
  | selfAssign closeoutId => exact selfAssignCloseout_effect
  | acknowledgeTask taskId payload => exact .worked _ _ taskId payload (.inl rfl)
  | inProgressTask taskId payload => exact .worked _ _ taskId payload (.inr rfl)

end Effects

end Incident

end Mpango
