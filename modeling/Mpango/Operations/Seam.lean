import Mpango.Operations.Identity

/-!
# Steps and their tasks stay in step

Every step that is not over has its own task in the operator queue, and so has every closeout that
owes a follow-up; when they are over, so are the tasks (`InStep`). The task of a step is found again
by a digest that contains what was observed of its source, and a task is completed with whatever
evidence the step was given: `Seamless` says when the one finds the task and the other ends it.
-/

namespace Mpango

namespace Incident

open Operator

namespace CloseoutStore

variable {env : Primitives} {s s' : CloseoutStore} {r : CloseoutRequest}

/-! ## The law -/

/-- What a call does not do: open a step in the place of an active one, or a closeout in the place
of one that owes a follow-up; find the task of another under the digest of a new one; lose the task
of a step that moves on; end a step with blank evidence. -/
structure Seamless (env : Primitives) (s : CloseoutStore) (r : CloseoutRequest) : Prop where
  closeoutId : ∀ event c, r.call = .ingest event → event.eventType = .incidentDetected →
    s.absorbingCloseout env event = none →
    s.closeouts.find? (idOr event.closeoutId r.newId) = some c → c.followupOwed = false
  stepId : ∀ event c st, r.call = .ingest event → event.eventType = .runbookStepOwed →
    s.addressed event = some c → s.absorbingStep (s.owedDigest env event c) = none →
    s.steps.find? (idOr event.stepId r.newId) = some st → st.isActive = false
  newTask : ∀ event c, r.call = .ingest event → event.eventType = .runbookStepOwed →
    s.addressed event = some c → s.absorbingStep (s.owedDigest env event c) = none →
    s.tasks.absorbing env ((s.newStep env r event c).taskEvent c.severity) = none
  sameTask : ∀ st target evidence reason, s.movingStep r = some (st, target, evidence, reason) →
    st.refusal target evidence = none → target.isTerminal = false →
    (s.tasks.absorbing env ((st.entering env r.now target evidence reason).taskEvent
      (s.severityOf st.closeoutId))).map (·.taskId) = st.linkedTaskId
  evidence : ∀ st evidence reason, s.movingStep r = some (st, .done, evidence, reason) →
    st.refusal .done evidence = none → ∀ note, given evidence = some note →
    isGiven (some note) = true
  newFollowup : ∀ c reason, s.moving r = some (c, .flaggedActive, reason) →
    s.closeoutRefusal c .flaggedActive = none → c.followupOwed = false →
    s.tasks.absorbing env (c.entering env r.now .flaggedActive reason).followupEvent = none

/-- The id drawn for a task is new. -/
def FreshTask (s : CloseoutStore) (r : CloseoutRequest) : Prop :=
  s.tasks.tasks.find? r.newTaskId.text = none

/-! ## Owners -/

/-- What a step shows of its task. -/
def stepOwner (s : CloseoutStore) (stepId : String) : Option (Bool × Option String) :=
  (s.steps.find? stepId).map fun st => (st.isActive, st.linkedTaskId)

/-- What a closeout shows of its follow-up. -/
def followupOwner (s : CloseoutStore) (closeoutId : String) : Option (Bool × Option String) :=
  (s.closeouts.find? closeoutId).map fun c => (c.followupOwed, c.linkedFollowupTaskId)

/-- The steps and the closeouts with their tasks, in a queue that can be worked. -/
structure Joined (s : CloseoutStore) : Prop where
  workable : Workable s.tasks
  steps : Paired s.stepOwner (s.tasks.live .runbookStepRequired)
  followups : Paired s.followupOwner (s.tasks.live .incidentFollowupRequired)

theorem stepOwner_put {st : StoredStep} (h : s'.steps = s.steps.put st) :
    s'.stepOwner = Function.update s.stepOwner st.stepId (some (st.isActive, st.linkedTaskId)) := by
  have hfind : s'.steps.find? = Function.update s.steps.find? st.stepId (some st) :=
    h ▸ Table.find?_put
  funext id
  rw [stepOwner, hfind]
  by_cases hid : id = st.stepId
  · rw [hid, Function.update_self, Function.update_self, Option.map_some]
  · rw [Function.update_of_ne hid, Function.update_of_ne hid, stepOwner]

theorem followupOwner_put {c : StoredCloseout} (h : s'.closeouts = s.closeouts.put c) :
    s'.followupOwner = Function.update s.followupOwner c.closeoutId
      (some (c.followupOwed, c.linkedFollowupTaskId)) := by
  have hfind : s'.closeouts.find? = Function.update s.closeouts.find? c.closeoutId (some c) :=
    h ▸ Table.find?_put
  funext id
  rw [followupOwner, hfind]
  by_cases hid : id = c.closeoutId
  · rw [hid, Function.update_self, Function.update_self, Option.map_some]
  · rw [Function.update_of_ne hid, Function.update_of_ne hid, followupOwner]

theorem stepOwner_of_mem {st : StoredStep} (h : st ∈ s.steps) :
    s.stepOwner st.stepId = some (st.isActive, st.linkedTaskId) := by
  have hfind : s.steps.find? st.stepId = some st := Table.find?_key h
  rw [stepOwner, hfind, Option.map_some]

theorem followupOwner_of_mem {c : StoredCloseout} (h : c ∈ s.closeouts) :
    s.followupOwner c.closeoutId = some (c.followupOwed, c.linkedFollowupTaskId) := by
  have hfind : s.closeouts.find? c.closeoutId = some c := Table.find?_key h
  rw [followupOwner, hfind, Option.map_some]

theorem Joined.empty : Joined .empty := ⟨.empty, .empty, .empty⟩

section Tasks
variable {q q' : TaskQueue} {now : Instant} {newTaskId notificationId : Uuid} {event : IntakeEvent}
  {taskType other : TaskType} {taskId : String}

/-- An event that nothing takes becomes a live task of its type, under the new id. -/
theorem live_enter (env : Primitives) (now : Instant) (newTaskId notificationId : Uuid)
    (hnone : q.absorbing env event = none) (hfresh : q.standing newTaskId.text = none) :
    (q.upsertTaskFromEvent env now newTaskId notificationId event).2.task.taskId = newTaskId.text ∧
    (q.upsertTaskFromEvent env now newTaskId notificationId event).1.live event.taskType =
      Function.update (q.live event.taskType) newTaskId.text (some true) ∧
    ∀ other, event.taskType ≠ other →
      (q.upsertTaskFromEvent env now newTaskId notificationId event).1.live other = q.live other := by
  have hstanding : (q.upsertTaskFromEvent env now newTaskId notificationId event).1.standing = _ :=
    TaskQueue.upsert_standing
  rw [hnone] at hstanding
  refine ⟨?_, ?_, fun other hne => ?_⟩
  · rw [TaskQueue.upsert_task, hnone]
    rfl
  · rw [TaskQueue.live_update hstanding, if_pos rfl]
    rfl
  · exact TaskQueue.live_update_other hstanding hne (TaskQueue.live_of_standing_none hfresh)

/-- An event that a task takes changes what is live in nothing. -/
theorem live_replay (env : Primitives) (now : Instant) (newTaskId notificationId : Uuid)
    {task : StoredTask} (hsome : q.absorbing env event = some task) :
    (q.upsertTaskFromEvent env now newTaskId notificationId event).2.task.taskId = task.taskId ∧
    ∀ other,
      (q.upsertTaskFromEvent env now newTaskId notificationId event).1.live other = q.live other := by
  have hstanding : (q.upsertTaskFromEvent env now newTaskId notificationId event).1.standing = _ :=
    TaskQueue.upsert_standing
  rw [hsome] at hstanding
  refine ⟨?_, fun other => TaskQueue.live_congr hstanding⟩
  rw [TaskQueue.upsert_task, hsome]
  rfl

/-- A live task that ends is over. -/
theorem live_end {x : Standing} (state : TaskState) (hlive : q.live taskType taskId = some true)
    (hx : q.standing taskId = some x) (hstate : state.isTerminal = true)
    (hstanding : q'.standing =
      Function.update q.standing taskId (some ⟨x.taskType, state, x.digest⟩)) :
    q'.live taskType = Function.update (q.live taskType) taskId (some false) ∧
      ∀ other, taskType ≠ other → q'.live other = q.live other := by
  obtain ⟨y, hy, htype, -⟩ := TaskQueue.live_eq_some.mp hlive
  rw [hx] at hy
  cases hy
  refine ⟨?_, fun other hne => ?_⟩
  · rw [TaskQueue.live_update hstanding, if_pos htype, hstate]
    rfl
  · refine TaskQueue.live_update_other hstanding (htype ▸ hne) ?_
    rw [TaskQueue.live, hx, Option.bind_some, if_neg (htype ▸ hne)]

/-- An operator who takes up a task leaves it live. -/
theorem live_worked {actor : Actor} {action : String} {target : TaskState}
    {payload : Option TransitionRequest} (htarget : target.isTerminal = false) :
    (q.applyTransition env now actor action target taskId payload).1.live taskType =
      q.live taskType := by
  rcases TaskQueue.applyTransition_standing_cases env now actor action target taskId payload q with
    hsame | ⟨x, hx, hactive, -, hmoved⟩
  · exact TaskQueue.live_congr hsame
  · have hbefore : q.live taskType taskId =
        if x.taskType = taskType then some !x.state.isTerminal else none := by
      rw [TaskQueue.live, hx, Option.bind_some]
    rw [TaskQueue.live_update hmoved]
    show Function.update (q.live taskType) taskId
      (if x.taskType = taskType then some !target.isTerminal else none) = _
    rw [htarget, ← hactive, ← hbefore, Function.update_eq_self]

/-- A live task is not over for the services. -/
theorem not_terminal_of_live (hlive : q.live taskType taskId = some true) :
    p23TaskIsTerminal q taskId = false := by
  obtain ⟨x, hx, -, hactive⟩ := TaskQueue.live_eq_some.mp hlive
  exact p23TaskIsTerminal_eq_false.mpr ⟨x, hx, hactive⟩

/-- The id of a live task is given. -/
theorem given_of_live (h : Workable q) (hlive : q.live taskType taskId = some true) :
    given (some taskId) = some taskId := by
  refine given_of_ne ?_
  rintro rfl
  obtain ⟨x, hx, -⟩ := TaskQueue.live_eq_some.mp hlive
  rw [h.named] at hx
  cases hx

end Tasks

/-! ## Every call -/

/-- Nothing happens to the links. -/
theorem Joined.congr (h : Joined s) (hworkable : Workable s'.tasks)
    (hsteps : s'.stepOwner = s.stepOwner) (hfollowups : s'.followupOwner = s.followupOwner)
    (hlive : ∀ taskType, s'.tasks.live taskType = s.tasks.live taskType) : Joined s' where
  workable := hworkable
  steps := by
    rw [hsteps, hlive]
    exact h.steps
  followups := by
    rw [hfollowups, hlive]
    exact h.followups

/-- A closeout is written with the follow-up it had. -/
theorem followupOwner_same {c c' : StoredCloseout} (hc : c ∈ s.closeouts)
    (hcloseouts : s'.closeouts = s.closeouts.put c') (hid : c'.closeoutId = c.closeoutId)
    (howed : c'.followupOwed = c.followupOwed)
    (hlink : c'.linkedFollowupTaskId = c.linkedFollowupTaskId) :
    s'.followupOwner = s.followupOwner := by
  rw [followupOwner_put hcloseouts, hid, howed, hlink, ← followupOwner_of_mem hc,
    Function.update_eq_self]

theorem stepOwner_same {st st' : StoredStep} (hst : st ∈ s.steps)
    (hsteps : s'.steps = s.steps.put st') (hid : st'.stepId = st.stepId)
    (hactive : st'.isActive = st.isActive) (hlink : st'.linkedTaskId = st.linkedTaskId) :
    s'.stepOwner = s.stepOwner := by
  rw [stepOwner_put hsteps, hid, hactive, hlink, ← stepOwner_of_mem hst, Function.update_eq_self]

theorem runbook_ne_followup :
    TaskType.runbookStepRequired ≠ TaskType.incidentFollowupRequired := nofun

/-- A closeout moves, and its follow-up is settled. -/
theorem Joined.moved (h : Joined s) (hnew : s.tasks.standing r.newTaskId.text = none)
    (hseamless : Seamless env s r) {c c₁ c' : StoredCloseout} {target : CloseoutState}
    {reason : Option String} (hc : c ∈ s.closeouts) (hnoted : NotedCloseout c c₁)
    (hmoving : s.moving r = some (c₁, target, reason))
    (hrefusal : s.closeoutRefusal c₁ target = none)
    (hafter : NotedCloseout (settleFollowup env r.now r.newTaskId r.actor target
      (c₁.entering env r.now target reason) s.tasks).2 c') :
    Joined (s.moveCloseout c₁ target (settleFollowup env r.now r.newTaskId r.actor target
      (c₁.entering env r.now target reason) s.tasks).1 c') := by
  have hid : c'.closeoutId = c.closeoutId := (moved_same hnoted hafter).1.closeoutId
  have howner := followupOwner_of_mem hc
  have howed₁ : (c₁.entering env r.now target reason).followupOwed = c.followupOwed :=
    hnoted.followupOwed
  have hlink₁ : (c₁.entering env r.now target reason).linkedFollowupTaskId =
      c.linkedFollowupTaskId := hnoted.linkedFollowupTaskId
  have hevent : target = .flaggedActive → c₁.followupOwed = false →
      s.tasks.absorbing env (c₁.entering env r.now target reason).followupEvent = none := by
    rintro rfl hfree
    exact hseamless.newFollowup c₁ reason hmoving hrefusal hfree
  have hworkable : Workable (settleFollowup env r.now r.newTaskId r.actor target
    (c₁.entering env r.now target reason) s.tasks).1 := h.workable.settleFollowup
  have hsettled : FollowupSettled env r.now r.newTaskId r.actor target
      (c₁.entering env r.now target reason) s.tasks (settleFollowup env r.now r.newTaskId r.actor
        target (c₁.entering env r.now target reason) s.tasks) := settleFollowup_settled
  have howed' := hafter.followupOwed
  have hlink' := hafter.linkedFollowupTaskId
  generalize settleFollowup env r.now r.newTaskId r.actor target
    (c₁.entering env r.now target reason) s.tasks = settled at hsettled hworkable howed' hlink' ⊢
  generalize c₁.entering env r.now target reason = entered
    at hsettled howed₁ hlink₁ hevent
  have hput : ∀ q, (s.moveCloseout c₁ target q c').followupOwner =
      Function.update s.followupOwner c.closeoutId
        (some (c'.followupOwed, c'.linkedFollowupTaskId)) := by
    intro q
    rw [followupOwner_put rfl, hid]
  cases hsettled with
  | kept =>
    exact h.congr hworkable rfl (followupOwner_same hc rfl hid (howed'.trans howed₁)
      (hlink'.trans hlink₁)) fun _ => rfl
  | owed htarget hfree =>
    have hnone := hevent htarget (hnoted.followupOwed.trans (howed₁.symm.trans hfree))
    have hentered : (materializeFollowupTask env r.now r.newTaskId entered s.tasks).2.followupOwed =
      true := rfl
    obtain ⟨hanswer, hlive, hother⟩ :=
      live_enter env r.now r.newTaskId r.newTaskId hnone hnew
    have hlinked : (materializeFollowupTask env r.now r.newTaskId entered
      s.tasks).2.linkedFollowupTaskId = some r.newTaskId.text := congrArg some hanswer
    refine ⟨hworkable, ?_, ?_⟩
    · show Paired s.stepOwner
        ((s.tasks.upsertTaskFromEvent env r.now r.newTaskId r.newTaskId
          entered.followupEvent).1.live .runbookStepRequired)
      rw [hother .runbookStepRequired runbook_ne_followup.symm]
      exact h.steps
    · rw [hput, howed', hlink', hentered, hlinked]
      show Paired _ ((s.tasks.upsertTaskFromEvent env r.now r.newTaskId r.newTaskId
        entered.followupEvent).1.live entered.followupEvent.taskType)
      rw [hlive]
      refine h.followups.enter ?_ (TaskQueue.live_of_standing_none hnew)
      intro link hlink
      rw [howner, ← howed₁, hfree] at hlink
      cases hlink
  | resolved evidence hgiven howed =>
    rw [← howed₁, howed] at howner
    obtain ⟨taskId, hlink, htask⟩ := h.followups.owing _ _ howner
    have hlinked : entered.linkedFollowupTaskId = some taskId := hlink₁.trans hlink
    have hsettled : given entered.linkedFollowupTaskId = some taskId := by
      rw [hlinked]
      exact given_of_live h.workable htask
    rcases resolveFollowup_standing h.workable.endable hgiven with
      ⟨-, hover⟩ | ⟨taskId', x, hgiven', hx, -, hstanding⟩
    · have hterminal := hover taskId hsettled
      rw [not_terminal_of_live htask] at hterminal
      cases hterminal
    · rw [hsettled] at hgiven'
      cases hgiven'
      obtain ⟨hlive, hother⟩ := live_end .completed htask hx rfl hstanding
      refine ⟨hworkable, ?_, ?_⟩
      · show Paired s.stepOwner ((resolveFollowupTask env r.now r.actor evidence entered
          s.tasks).1.live .runbookStepRequired)
        rw [hother _ runbook_ne_followup.symm]
        exact h.steps
      · rw [hput, howed', hlink', resolveFollowup_followupOwed, resolveFollowup_link, hlinked]
        show Paired _ ((resolveFollowupTask env r.now r.actor evidence entered
          s.tasks).1.live .incidentFollowupRequired)
        rw [hlive]
        rw [hlink] at howner
        exact h.followups.settle howner

/-- A closeout goes into remediation, and its follow-up with it. -/
theorem followupOwner_remediated {c c₁ : StoredCloseout} {s₁ : CloseoutStore}
    (hc : c ∈ s.closeouts) (h : Remediated env r s c (s₁, c₁)) : s₁.followupOwner = s.followupOwner := by
  cases h with
  | stayed => rfl
  | moved =>
    have hsame := c.entering_same env r.now .inRemediation none
    have howed : (c.entering env r.now .inRemediation none).followupOwed = c.followupOwed := rfl
    have hlink : (c.entering env r.now .inRemediation none).linkedFollowupTaskId =
      c.linkedFollowupTaskId := rfl
    generalize c.entering env r.now .inRemediation none = c' at hsame howed hlink ⊢
    exact followupOwner_same hc rfl hsame.closeoutId howed hlink

/-- A step is added with its task. -/
theorem Joined.stepOpened (h : Joined s) (hnew : s.tasks.standing r.newTaskId.text = none)
    (hseamless : Seamless env s r) {event : CloseoutIntakeEvent} {c c₁ : StoredCloseout}
    {s₁ : CloseoutStore} (hcall : r.call = .ingest event)
    (htype : event.eventType = .runbookStepOwed) (hc : s.addressed event = some c)
    (hnone : s.absorbingStep (s.owedDigest env event c) = none)
    (hremediated : Remediated env r s c (s₁, c₁)) :
    Joined { s₁.addStep (materializeStepTask env r.now r.newTaskId c.severity
        (s.newStep env r event c) s.tasks).2 with
      tasks := (materializeStepTask env r.now r.newTaskId c.severity (s.newStep env r event c)
        s.tasks).1 } := by
  have hfree : ∀ link, s.stepOwner (s.newStep env r event c).stepId ≠ some (true, link) := by
    intro link hlink
    obtain ⟨st, hfind, heq⟩ := Option.map_eq_some_iff.mp hlink
    have hactive := hseamless.stepId event c st hcall htype hc hnone hfind
    rw [hactive] at heq
    cases heq
  have habsorbing := hseamless.newTask event c hcall htype hc hnone
  have howed : (s.newStep env r event c).isActive = true := rfl
  have hworkable : Workable (materializeStepTask env r.now r.newTaskId c.severity
    (s.newStep env r event c) s.tasks).1 := h.workable.upsert rfl
  generalize s.newStep env r event c = st at hfree habsorbing howed hworkable ⊢
  obtain ⟨hanswer, hlive, hother⟩ := live_enter env r.now r.newTaskId r.newTaskId habsorbing hnew
  refine ⟨hworkable, ?_, ?_⟩
  · have hsteps : s₁.steps = s.steps := hremediated.steps
    have hadded : (s₁.addStep (materializeStepTask env r.now r.newTaskId c.severity st
        s.tasks).2).steps = s.steps.put (materializeStepTask env r.now r.newTaskId c.severity st
        s.tasks).2 := by
      rw [addStep, hsteps]
    have hput : (s₁.addStep (materializeStepTask env r.now r.newTaskId c.severity st
        s.tasks).2).stepOwner = _ := stepOwner_put hadded
    show Paired (s₁.addStep _).stepOwner _
    rw [hput]
    show Paired (Function.update s.stepOwner st.stepId (some (st.isActive, some _)))
      ((s.tasks.upsertTaskFromEvent env r.now r.newTaskId r.newTaskId
        (st.taskEvent c.severity)).1.live (st.taskEvent c.severity).taskType)
    rw [hlive, howed, hanswer]
    exact h.steps.enter hfree (TaskQueue.live_of_standing_none hnew)
  · show Paired s₁.followupOwner ((s.tasks.upsertTaskFromEvent env r.now r.newTaskId r.newTaskId
      (st.taskEvent c.severity)).1.live .incidentFollowupRequired)
    rw [hother _ runbook_ne_followup, followupOwner_remediated (mem_of_addressed hc) hremediated]
    exact h.followups

/-- A step that moves on keeps its task. -/
theorem Joined.stepContinued (h : Joined s) (hseamless : Seamless env s r) {st st₁ : StoredStep}
    {target : StepState} {evidence reason : Option String} (hst : st ∈ s.steps)
    (hnoted : NotedStep st st₁) (hmoving : s.movingStep r = some (st₁, target, evidence, reason))
    (hrefusal : st₁.refusal target evidence = none) (htarget : target.isTerminal = false) :
    Joined (s.moveStep st₁ target
      (materializeStepTask env r.now r.newTaskId (s.severityOf st.closeoutId)
        (st₁.entering env r.now target evidence reason) s.tasks).1
      (materializeStepTask env r.now r.newTaskId (s.severityOf st.closeoutId)
        (st₁.entering env r.now target evidence reason) s.tasks).2) := by
  have hsame := hseamless.sameTask st₁ target evidence reason hmoving hrefusal htarget
  have hid : (st₁.entering env r.now target evidence reason).stepId = st.stepId := hnoted.stepId
  have hstate : (st₁.entering env r.now target evidence reason).stepState = target := rfl
  have hactive : st.isActive = true := by
    have hbefore := StoredStep.refusal_active hrefusal
    rwa [StoredStep.isActive, hnoted.stepState] at hbefore
  rw [hnoted.closeoutId, hnoted.linkedTaskId] at hsame
  have hworkable : Workable (materializeStepTask env r.now r.newTaskId (s.severityOf st.closeoutId)
    (st₁.entering env r.now target evidence reason) s.tasks).1 := h.workable.upsert rfl
  generalize st₁.entering env r.now target evidence reason = entered
    at hsame hid hstate hworkable ⊢
  generalize s.severityOf st.closeoutId = severity at hsame hworkable ⊢
  obtain ⟨task, habsorbing, hlink⟩ : ∃ task,
      s.tasks.absorbing env (entered.taskEvent severity) = some task ∧
        st.linkedTaskId = some task.taskId := by
    obtain ⟨taskId, hlink, -⟩ := h.steps.owing _ _ (hactive ▸ stepOwner_of_mem hst)
    rw [hlink] at hsame
    obtain ⟨task, habsorbing, rfl⟩ := Option.map_eq_some_iff.mp hsame
    exact ⟨task, habsorbing, hlink⟩
  obtain ⟨hanswer, hlive⟩ := live_replay env r.now r.newTaskId r.newTaskId habsorbing
  refine h.congr hworkable (stepOwner_same hst rfl hid ?_ ?_) rfl hlive
  · have hentered : entered.isActive = true := by
      rw [StoredStep.isActive, hstate, htarget]
      rfl
    exact hentered.trans hactive.symm
  · exact (congrArg some hanswer).trans hlink.symm

/-- A step that is over ends its task. -/
theorem Joined.stepEnded (h : Joined s) (hseamless : Seamless env s r) {st st₁ : StoredStep}
    {target : StepState} {evidence reason : Option String} (hst : st ∈ s.steps)
    (hnoted : NotedStep st st₁) (hmoving : s.movingStep r = some (st₁, target, evidence, reason))
    (hrefusal : st₁.refusal target evidence = none) (htarget : target.isTerminal = true) :
    Joined (s.moveStep st₁ target
      (resolveStepTask env r.now r.actor evidence (target = .notApplicable)
        (st₁.entering env r.now target evidence reason) s.tasks).1
      (resolveStepTask env r.now r.actor evidence (target = .notApplicable)
        (st₁.entering env r.now target evidence reason) s.tasks).2) := by
  have hid : (st₁.entering env r.now target evidence reason).stepId = st.stepId := hnoted.stepId
  have hstate : (st₁.entering env r.now target evidence reason).stepState = target := rfl
  have hlink₁ : (st₁.entering env r.now target evidence reason).linkedTaskId = st.linkedTaskId :=
    hnoted.linkedTaskId
  have hactive : st.isActive = true := by
    have hbefore := StoredStep.refusal_active hrefusal
    rwa [StoredStep.isActive, hnoted.stepState] at hbefore
  have hgiven : decide (target = .notApplicable) = false → ∀ note, given evidence = some note →
      isGiven (some note) = true := by
    intro hdone
    have hne : target ≠ .notApplicable := of_decide_eq_false hdone
    cases target with
    | done => exact hseamless.evidence st₁ evidence reason hmoving hrefusal
    | notApplicable => exact absurd rfl hne
    | owed => cases htarget
    | inProgress => cases htarget
    | blocked => cases htarget
  have howner := stepOwner_of_mem hst
  rw [hactive] at howner
  obtain ⟨taskId, hlink, htask⟩ := h.steps.owing _ _ howner
  rw [hlink] at howner hlink₁
  generalize st₁.entering env r.now target evidence reason = entered at hid hstate hlink₁ ⊢
  have hsettled : given entered.linkedTaskId = some taskId := by
    rw [hlink₁]
    exact given_of_live h.workable htask
  have hworkable : Workable (resolveStepTask env r.now r.actor evidence (target = .notApplicable)
    entered s.tasks).1 := h.workable.resolveStepTask
  obtain ⟨updatedAt, hframe⟩ := resolveStepTask_frame env r.now r.actor evidence
    (target = .notApplicable) entered s.tasks
  rw [hframe]
  rcases resolveStepTask_standing h.workable.endable hgiven with
    ⟨-, hover⟩ | ⟨taskId', x, state, hgiven', hx, -, hterminal, hstanding⟩
  · have hterminal := hover taskId hsettled
    rw [not_terminal_of_live htask] at hterminal
    cases hterminal
  · rw [hsettled] at hgiven'
    cases hgiven'
    obtain ⟨hlive, hother⟩ := live_end state htask hx hterminal hstanding
    refine ⟨hworkable, ?_, ?_⟩
    · have hover : entered.isActive = false := by
        rw [StoredStep.isActive, hstate, htarget]
        rfl
      rw [stepOwner_put (s := s) rfl]
      show Paired (Function.update s.stepOwner entered.stepId
        (some (entered.isActive, entered.linkedTaskId))) ((resolveStepTask env r.now r.actor evidence
          (target = .notApplicable) entered s.tasks).1.live .runbookStepRequired)
      rw [hlive, hid, hover, hlink₁]
      exact h.steps.settle howner
    · show Paired s.followupOwner ((resolveStepTask env r.now r.actor evidence
        (target = .notApplicable) entered s.tasks).1.live .incidentFollowupRequired)
      rw [hother _ runbook_ne_followup]
      exact h.followups

theorem Joined.step (h : Joined s) (hfresh : FreshTask s r) (hseamless : Seamless env s r) :
    Joined (s.step env r) := by
  have hnew : s.tasks.standing r.newTaskId.text = none := by
    rw [TaskQueue.standing, hfresh, Option.map_none]
  have heffect := step_effect env s r
  generalize s.step env r = s' at heffect
  cases heffect with
  | unchanged => exact h
  | worked action target taskId payload htarget =>
    have hactive : target.isTerminal = false := by
      rcases htarget with rfl | rfl
      · rfl
      · rfl
    have hends : .completed ∈ target.allowed ∧ .dismissed ∈ target.allowed := by
      rcases htarget with rfl | rfl
      · decide
      · decide
    exact h.congr (h.workable.applyTransition (.inr hends)) rfl rfl fun _ => live_worked hactive
  | opened event label reason hcall htype hnone =>
    have hfree : ∀ link, s.followupOwner (s.newCloseout env r event).closeoutId ≠
        some (true, link) := by
      intro link hlink
      obtain ⟨c, hfind, heq⟩ := Option.map_eq_some_iff.mp hlink
      have howed := hseamless.closeoutId event c hcall htype hnone hfind
      rw [howed] at heq
      cases heq
    have howed : (s.newCloseout env r event).followupOwed = false := rfl
    have hlink : (s.newCloseout env r event).linkedFollowupTaskId = none := rfl
    generalize s.newCloseout env r event = c at hfree howed hlink
    refine ⟨h.workable, h.steps, ?_⟩
    rw [followupOwner_put (s := s) rfl, howed, hlink]
    exact h.followups.join hfree
  | noted c c' label reason code hc hnoted hflag =>
    exact h.congr h.workable rfl (followupOwner_same hc rfl hnoted.closeoutId hnoted.followupOwed
      hnoted.linkedFollowupTaskId) fun _ => rfl
  | moved c c₁ c' target reason label hc hnoted hmoving hclosed hrefusal hafter hflag =>
    have hmoved := h.moved hnew hseamless hc hnoted hmoving hrefusal hafter
    exact hmoved.congr hmoved.workable rfl rfl fun _ => rfl
  | stepOpened event c c₁ s₁ label hcall htype hc hnone hremediated =>
    have hopened := h.stepOpened hnew hseamless hcall htype hc hnone hremediated
    exact hopened.congr hopened.workable rfl rfl fun _ => rfl
  | stepNoted st st' label evidence hst hnoted hwarning =>
    have hactive : st'.isActive = st.isActive := by
      rw [StoredStep.isActive, StoredStep.isActive, hnoted.stepState]
    exact h.congr h.workable (stepOwner_same hst rfl hnoted.stepId hactive hnoted.linkedTaskId) rfl
      fun _ => rfl
  | stepMoved st st₁ target evidence reason note label hst hnoted hmoving hrefusal =>
    unfold settleStepTask
    cases htarget : target.isTerminal with
    | true =>
      have hended := h.stepEnded hseamless hst hnoted hmoving hrefusal htarget
      exact hended.congr hended.workable rfl rfl fun _ => rfl
    | false =>
      have hcontinued := h.stepContinued hseamless hst hnoted hmoving hrefusal htarget
      exact hcontinued.congr hcontinued.workable rfl rfl fun _ => rfl

/-! ## Calls that are seamless -/

section Seams
variable {now : Instant} {actor : Actor} {newId newTaskId : Uuid} {event : CloseoutIntakeEvent}

/-- Detecting an incident is seamless while nothing owes a follow-up. -/
theorem Seamless.of_detected (htype : event.eventType = .incidentDetected)
    (howed : ∀ c ∈ s.closeouts, c.followupOwed = false) :
    Seamless env s ⟨now, actor, newId, newTaskId, .ingest event⟩ := by
  have hmoving : s.moving ⟨now, actor, newId, newTaskId, .ingest event⟩ = none := by
    rw [moving]
    dsimp only
    rw [htype]
  have hmovingStep : s.movingStep ⟨now, actor, newId, newTaskId, .ingest event⟩ = none := by
    rw [movingStep]
    dsimp only
    rw [htype]
  constructor
  · rintro event' c ⟨⟩ - - hfind
    exact howed c (Table.mem_of_find? hfind)
  · rintro event' c st ⟨⟩ hother
    rw [htype] at hother
    cases hother
  · rintro event' c ⟨⟩ hother
    rw [htype] at hother
    cases hother
  · intro st target evidence reason hst
    rw [hmovingStep] at hst
    cases hst
  · intro st evidence reason hst
    rw [hmovingStep] at hst
    cases hst
  · intro c reason hc
    rw [hmoving] at hc
    cases hc

end Seams

end CloseoutStore

end Incident

end Mpango
