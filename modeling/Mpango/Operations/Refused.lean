import Mpango.Operations.Identity

/-!
# Refused calls

A refused call leaves one denial in the audit of the closeout or the step it is about, and nothing
else (`Quiet`): its transition is judged before anything is moved. Three events of the intake are an
exception. They note what they have observed on the record, a classification, a flag with a reason or
the mirrors of a step, and the note stays where the transition is refused (`Unnoted`).
-/

namespace Mpango

namespace Incident

open Operator

/-! ## The law -/

/-- What a denial is about. -/
inductive Subject
  | closeout (closeoutId : String)
  | step (stepId : String)

def CloseoutAuditEvent.IsDenial (e : CloseoutAuditEvent) : Prop :=
  (∃ action, e.transition = "denied:" ++ action) ∧ e.denialCode ≠ none ∧
    e.previousState = e.nextState

def StepAuditEvent.IsDenial (e : StepAuditEvent) : Prop :=
  (∃ action, e.stepTransition = "denied:" ++ action) ∧ e.previousState = e.nextState

namespace CloseoutStore

/-- One denial more in the audit of what a call is about, and none where it was not found. -/
def DenialAdded (s s' : CloseoutStore) : Option Subject → Prop
  | none => s'.closeoutAudit = s.closeoutAudit ∧ s'.stepAudit = s.stepAudit
  | some (.closeout closeoutId) => s'.stepAudit = s.stepAudit ∧
    ∃ e, s'.closeoutAudit = s.closeoutAudit ++ [e] ∧ e.closeoutId = closeoutId ∧ e.IsDenial
  | some (.step stepId) => s'.closeoutAudit = s.closeoutAudit ∧
    ∃ e, s'.stepAudit = s.stepAudit ++ [e] ∧ e.stepId = stepId ∧ e.IsDenial

/-- Nothing has changed but the audit. -/
structure Quiet (s s' : CloseoutStore) (subject : Option Subject) : Prop where
  closeouts : s'.closeouts = s.closeouts
  steps : s'.steps = s.steps
  order : s'.closeoutStepOrder = s.closeoutStepOrder
  closeoutDedup : s'.activeCloseoutDedup = s.activeCloseoutDedup
  stepDedup : s'.activeStepDedup = s.activeStepDedup
  tasks : s'.tasks = s.tasks
  denial : s.DenialAdded s' subject

variable (env : Primitives) (s : CloseoutStore) (r : CloseoutRequest)

/-- `accepted` in the answer to a call; the calls of the task queue are answered there. -/
def accepted : Option Bool :=
  match r.call with
  | .ingest event => some (s.ingestEvent env r.now r.newId r.newTaskId r.actor event).2.accepted
  | .closeoutTransition closeoutId target reason =>
    some (s.applyCloseoutTransition env r.now r.newTaskId r.actor closeoutId target reason).2.accepted
  | .stepTransition closeoutId stepId target evidence reason =>
    some (s.applyStepTransition env r.now r.newTaskId r.actor closeoutId stepId target evidence
      reason).2.accepted
  | .selfAssign closeoutId =>
    some (s.selfAssignCloseout env r.now r.actor closeoutId).2.accepted
  | .acknowledgeTask _ _ => none
  | .inProgressTask _ _ => none

/-- The step an event names, in the closeout it names. -/
def addressedStep (event : CloseoutIntakeEvent) (c : StoredCloseout) : Option StoredStep :=
  (given event.stepId).bind (s.findStep c.closeoutId)

/-- The closeout or the step a call is about, if it is found. An event for a step that is not found is
about its closeout. -/
def subject : Option Subject :=
  match r.call with
  | .ingest event => (s.addressed event).map fun c =>
    match event.eventType with
    | .runbookStepProgress | .runbookStepTerminal =>
      ((s.addressedStep event c).map fun st => Subject.step st.stepId).getD (.closeout c.closeoutId)
    | _ => .closeout c.closeoutId
  | .closeoutTransition closeoutId _ _ | .selfAssign closeoutId =>
    (s.closeouts.find? closeoutId).map fun c => .closeout c.closeoutId
  | .stepTransition closeoutId stepId _ _ _ =>
    (s.findStep closeoutId stepId).map fun st => .step st.stepId
  | .acknowledgeTask _ _ | .inProgressTask _ _ => none

/-- A call that is refused is quiet. -/
def RefusedQuietly : Prop :=
  s.accepted env r = some false → s.Quiet (s.step env r) (s.subject r)

/-- An event whose transition is refused has noted nothing new. -/
def Unnoted : Prop :=
  ∀ event c, r.call = .ingest event → s.addressed event = some c →
    match event.eventType with
    | .incidentClassified => s.closeoutRefusal c .triaged ≠ none →
      event.classification.or c.classification = c.classification
    | .incidentFlagObserved => ∀ target, (c.mirroring event).flagTarget = some target →
      s.closeoutRefusal (c.mirroring event) target ≠ none →
        (c.mirroring event).reasoned env event.reason = c
    | .runbookStepProgress => ∀ st, s.addressedStep event c = some st →
      (st.mirroring event).refusal .inProgress none ≠ none → st.mirroring event = st
    | .runbookStepTerminal => ∀ st, s.addressedStep event c = some st →
      (st.mirroring event).refusal .done event.evidence ≠ none → st.mirroring event = st
    | _ => True

variable {env s r} {now : Instant} {newTaskId : Uuid} {actor : Actor} {c c' : StoredCloseout}
  {st st' : StoredStep}

/-! ## A denial after a note -/

theorem Quiet.unchanged : s.Quiet s none := ⟨rfl, rfl, rfl, rfl, rfl, rfl, rfl, rfl⟩

variable (env now newTaskId actor)

/-- A denial that is audited on a noted closeout is quiet exactly if the note says nothing new. -/
theorem quiet_emitCloseoutAudit_iff (action : String) (reason : Option String)
    (code : CloseoutDenialCode) (state : CloseoutState) (hc : c ∈ s.closeouts)
    (hid : c'.closeoutId = c.closeoutId) :
    s.Quiet ((s.putCloseout c').emitCloseoutAudit env now actor c' ("denied:" ++ action) state state
      reason (some code)) (some (.closeout c.closeoutId)) ↔ c' = c := by
  constructor
  · intro h
    have hfind : (s.closeouts.put c').find? (key c') = some c' := Table.find?_put_self
    have hsame : s.closeouts.put c' = s.closeouts := h.closeouts
    have hkey : key c' = key c := hid
    rw [hsame, hkey, Table.find?_key hc] at hfind
    exact (Option.some.inj hfind).symm
  · rintro rfl
    rw [putCloseout_of_mem hc]
    exact ⟨rfl, rfl, rfl, rfl, rfl, rfl, rfl, _, rfl, rfl, ⟨action, rfl⟩, nofun, rfl⟩

theorem quiet_emitStepAudit_iff (action : String) (evidence : Option String) (state : StepState)
    (hst : st ∈ s.steps) (hid : st'.stepId = st.stepId) :
    s.Quiet ((s.putStep st').emitStepAudit env now actor st' ("denied:" ++ action) state state
      evidence) (some (.step st.stepId)) ↔ st' = st := by
  constructor
  · intro h
    have hfind : (s.steps.put st').find? (key st') = some st' := Table.find?_put_self
    have hsame : s.steps.put st' = s.steps := h.steps
    have hkey : key st' = key st := hid
    rw [hsame, hkey, Table.find?_key hst] at hfind
    exact (Option.some.inj hfind).symm
  · rintro rfl
    rw [putStep_of_mem hst]
    exact ⟨rfl, rfl, rfl, rfl, rfl, rfl, rfl, _, rfl, rfl, ⟨action, rfl⟩, rfl⟩

theorem quiet_emitCloseoutAudit (action : String) (reason : Option String)
    (code : CloseoutDenialCode) (hc : c ∈ s.closeouts) :
    s.Quiet (s.emitCloseoutAudit env now actor c ("denied:" ++ action) c.state c.state reason
      (some code)) (some (.closeout c.closeoutId)) := by
  have h := (quiet_emitCloseoutAudit_iff env now actor action reason code c.state hc rfl).mpr rfl
  rwa [putCloseout_of_mem hc] at h

variable {env now newTaskId actor}

/-! ## The calls of an operator -/

theorem applyCloseoutTransition_quiet {closeoutId : String} {target : CloseoutState}
    {reason : Option String}
    (hrefused : (s.applyCloseoutTransition env now newTaskId actor closeoutId target reason).2.accepted
      = false) :
    s.Quiet (s.applyCloseoutTransition env now newTaskId actor closeoutId target reason).1
      ((s.closeouts.find? closeoutId).map fun c => .closeout c.closeoutId) := by
  unfold applyCloseoutTransition at hrefused ⊢
  cases hfind : s.closeouts.find? closeoutId with
  | none => exact Quiet.unchanged
  | some c =>
    simp only [hfind] at hrefused ⊢
    cases htransition : s.transitionCloseout env now newTaskId actor target reason c with
    | error code =>
      have haction : "denied:closeout:" ++ target.text = "denied:" ++ ("closeout:" ++ target.text) := by
        rw [← String.append_assoc]
        rfl
      simp only [haction]
      exact quiet_emitCloseoutAudit env now actor _ _ _ (Table.mem_of_find? hfind)
    | ok result =>
      simp only [htransition] at hrefused
      cases hrefused

theorem selfAssignCloseout_quiet {closeoutId : String}
    (hrefused : (s.selfAssignCloseout env now actor closeoutId).2.accepted = false) :
    s.Quiet (s.selfAssignCloseout env now actor closeoutId).1
      ((s.closeouts.find? closeoutId).map fun c => .closeout c.closeoutId) := by
  unfold selfAssignCloseout at hrefused ⊢
  cases hfind : s.closeouts.find? closeoutId with
  | none => exact Quiet.unchanged
  | some c =>
    simp only [hfind] at hrefused ⊢
    split at hrefused
    next hterminal =>
      rw [if_pos hterminal]
      exact quiet_emitCloseoutAudit env now actor "self_assign" _ _ (Table.mem_of_find? hfind)
    next => cases hrefused

/-- A step is moved as it is found, or as an event has just noted it. -/
theorem applyStepTransition_putStep {closeoutId : String} {target : StepState}
    {evidence reason : Option String} (hst' : st'.stepId = st.stepId)
    (hcloseout : st'.closeoutId = closeoutId) :
    (s.putStep st').applyStepTransition env now newTaskId actor closeoutId st.stepId target evidence
        reason =
      match (s.putStep st').transitionStep env now newTaskId actor target evidence reason
        (s.severityOf closeoutId) st' with
      | .error code =>
        ((s.putStep st').emitStepAudit env now actor st' ("denied:step:" ++ target.text) st'.stepState
          st'.stepState reason, ⟨some st', false, some code, some (st'.stepState, st'.stepState)⟩)
      | .ok (s', st'') =>
        (s'.emitStepAudit env now actor st'' (st'.stepState.text ++ "->" ++ st''.stepState.text)
          st'.stepState st''.stepState (if target = .done then evidence else reason),
          ⟨some st'', true, none, some (st'.stepState, st''.stepState)⟩) := by
  have hfind : (s.putStep st').findStep closeoutId st.stepId = some st' := by
    have hput : (s.steps.put st').find? (key st') = some st' := Table.find?_put_self
    have hkey : key st' = st.stepId := hst'
    rw [hkey] at hput
    rw [findStep, putStep, hput]
    exact Option.filter_some_pos (by simpa using hcloseout)
  unfold applyStepTransition
  rw [hfind]
  rfl

variable (env now newTaskId actor) in
/-- A step that is moved after a note: the refusal is quiet exactly if the note says nothing new. -/
theorem applyStepTransition_quiet_iff {closeoutId : String} (target : StepState)
    (evidence reason : Option String) (hst : st ∈ s.steps) (hid : st'.stepId = st.stepId)
    (hcloseout : st'.closeoutId = closeoutId) :
    (((s.putStep st').applyStepTransition env now newTaskId actor closeoutId st.stepId target evidence
          reason).2.accepted = false →
        s.Quiet ((s.putStep st').applyStepTransition env now newTaskId actor closeoutId st.stepId target
          evidence reason).1 (some (.step st.stepId))) ↔
      (st'.refusal target evidence ≠ none → st' = st) := by
  rw [applyStepTransition_putStep hid hcloseout, transitionStep_eq]
  cases hrefusal : st'.refusal target evidence with
  | none => simp
  | some code =>
    have haction : "denied:step:" ++ target.text = "denied:" ++ ("step:" ++ target.text) := by
      rw [← String.append_assoc]
      rfl
    simp only [haction, quiet_emitStepAudit_iff env now actor _ _ _ hst hid, ne_eq, reduceCtorEq, not_false_eq_true,
      true_imp_iff]

theorem applyStepTransition_quiet {closeoutId stepId : String} {target : StepState}
    {evidence reason : Option String}
    (hrefused : (s.applyStepTransition env now newTaskId actor closeoutId stepId target evidence
      reason).2.accepted = false) :
    s.Quiet (s.applyStepTransition env now newTaskId actor closeoutId stepId target evidence reason).1
      ((s.findStep closeoutId stepId).map fun st => .step st.stepId) := by
  cases hfind : s.findStep closeoutId stepId with
  | none =>
    unfold applyStepTransition
    rw [hfind]
    exact Quiet.unchanged
  | some st =>
    obtain ⟨hsome, hcloseout⟩ := Option.filter_eq_some_iff.mp hfind
    have hst : st ∈ s.steps := Table.mem_of_find? hsome
    obtain rfl : st.stepId = stepId := Table.key_of_find? hsome
    have hquiet := (applyStepTransition_quiet_iff env now newTaskId actor target evidence reason hst
      rfl (of_decide_eq_true hcloseout)).mpr fun _ => rfl
    rw [putStep_of_mem hst] at hquiet
    exact hquiet hrefused

/-! ## The events of the intake -/

theorem transitionCloseout_putCloseout_eq_error {c₁ : StoredCloseout} {target : CloseoutState}
    {reason : Option String} {code : CloseoutDenialCode} :
    (s.putCloseout c₁).transitionCloseout env now newTaskId actor target reason c₁ = .error code ↔
      s.closeoutRefusal c₁ target = some code := by
  have hsame : (s.putCloseout c₁).closeoutRefusal c₁ target = s.closeoutRefusal c₁ target := rfl
  rw [transitionCloseout_eq, hsame]
  cases s.closeoutRefusal c₁ target with
  | none => simp
  | some code' => simp

theorem ingestIncidentClassified_quiet_iff {event : CloseoutIntakeEvent} (hc : c ∈ s.closeouts) :
    ((s.ingestIncidentClassified env now newTaskId actor event c).2.accepted = false →
        s.Quiet (s.ingestIncidentClassified env now newTaskId actor event c).1
          (some (.closeout c.closeoutId))) ↔
      (s.closeoutRefusal c .triaged ≠ none →
        event.classification.or c.classification = c.classification) := by
  have hrefusal : s.closeoutRefusal { c with
      classification := event.classification.or c.classification } .triaged =
        s.closeoutRefusal c .triaged := rfl
  rw [← hrefusal]
  unfold ingestIncidentClassified transitionByIntake
  dsimp only
  generalize hc₁ : ({ c with
    classification := event.classification.or c.classification } : StoredCloseout) = c₁
  have hsame : c₁ = c ↔ event.classification.or c.classification = c.classification := by
    rw [← hc₁]
    exact ⟨fun h => congrArg StoredCloseout.classification h, fun h => by rw [h]⟩
  have hid : c₁.closeoutId = c.closeoutId := by rw [← hc₁]
  cases htransition : (s.putCloseout c₁).transitionCloseout env now newTaskId actor .triaged
      event.reason c₁ with
  | error code =>
    rw [transitionCloseout_putCloseout_eq_error.mp htransition, ← hsame]
    simp only [quiet_emitCloseoutAudit_iff env now actor _ _ _ _ hc hid, ne_eq, reduceCtorEq, not_false_eq_true,
      true_imp_iff]
  | ok result =>
    refine iff_of_true nofun fun hsome => ?_
    obtain ⟨code, hcode⟩ := Option.ne_none_iff_exists'.mp hsome
    rw [transitionCloseout_putCloseout_eq_error.mpr hcode] at htransition
    cases htransition

theorem ingestIncidentFlagObserved_quiet_iff {event : CloseoutIntakeEvent} (hc : c ∈ s.closeouts) :
    ((s.ingestIncidentFlagObserved env now newTaskId actor event c).2.accepted = false →
        s.Quiet (s.ingestIncidentFlagObserved env now newTaskId actor event c).1
          (some (.closeout c.closeoutId))) ↔
      ∀ target, (c.mirroring event).flagTarget = some target →
        s.closeoutRefusal (c.mirroring event) target ≠ none →
          (c.mirroring event).reasoned env event.reason = c := by
  unfold ingestIncidentFlagObserved
  dsimp only
  have hid : (c.mirroring event).closeoutId = c.closeoutId := rfl
  generalize c.mirroring event = c₁ at hid ⊢
  cases htarget : c₁.flagTarget with
  | none => exact iff_of_true nofun nofun
  | some target =>
    simp only [Option.some.injEq, forall_eq']
    cases htransition : (s.putCloseout c₁).transitionCloseout env now newTaskId actor target
        event.reason c₁ with
    | error code =>
      have haction : "denied:intake:flag_observed" = "denied:" ++ "intake:flag_observed" := rfl
      have hid' : (c₁.reasoned env event.reason).closeoutId = c.closeoutId := hid
      rw [transitionCloseout_putCloseout_eq_error.mp htransition]
      simp only [haction]
      have hquiet := quiet_emitCloseoutAudit_iff env now actor "intake:flag_observed" event.reason
        code c₁.state hc hid'
      simpa using hquiet
    | ok result =>
      refine iff_of_true nofun fun hsome => ?_
      obtain ⟨code, hcode⟩ := Option.ne_none_iff_exists'.mp hsome
      rw [transitionCloseout_putCloseout_eq_error.mpr hcode] at htransition
      cases htransition

theorem ingestCloseoutTransition_quiet {event : CloseoutIntakeEvent} (hc : c ∈ s.closeouts)
    (hrefused : (s.ingestCloseoutTransition env now newTaskId actor event c).2.accepted = false) :
    s.Quiet (s.ingestCloseoutTransition env now newTaskId actor event c).1
      (some (.closeout c.closeoutId)) := by
  unfold ingestCloseoutTransition at hrefused ⊢
  cases htarget : event.targetState with
  | none => exact quiet_emitCloseoutAudit env now actor "intake:closeout_transition" _ _ hc
  | some target =>
    simp only [htarget] at hrefused ⊢
    have hquiet := applyCloseoutTransition_quiet hrefused
    rwa [show s.closeouts.find? c.closeoutId = some c from Table.find?_key hc] at hquiet

theorem ingestStepChange_quiet_iff {event : CloseoutIntakeEvent} {target : StepState}
    {evidence : Option String} (hc : c ∈ s.closeouts) :
    ((s.ingestStepChange env now newTaskId actor target evidence event c).2.accepted = false →
        s.Quiet (s.ingestStepChange env now newTaskId actor target evidence event c).1
          (some (((s.addressedStep event c).map fun st => Subject.step st.stepId).getD
            (.closeout c.closeoutId)))) ↔
      ∀ st, s.addressedStep event c = some st →
        (st.mirroring event).refusal target evidence ≠ none → st.mirroring event = st := by
  have hnamed : s.addressedStep event c = (given event.stepId).bind (s.findStep c.closeoutId) := rfl
  unfold ingestStepChange
  rw [← hnamed]
  cases hfind : s.addressedStep event c with
  | none =>
    refine iff_of_true (fun _ => ?_) fun st hst => absurd hst (Option.some_ne_none st).symm
    exact quiet_emitCloseoutAudit env now actor ("intake:" ++ event.eventType.text) _ _ hc
  | some st =>
    obtain ⟨stepId, -, hstep⟩ := Option.bind_eq_some_iff.mp hfind
    obtain ⟨hsome, hcloseout⟩ := Option.filter_eq_some_iff.mp hstep
    simp only [Option.some.injEq, forall_eq']
    exact applyStepTransition_quiet_iff env now newTaskId actor target evidence event.reason
      (Table.mem_of_find? hsome) rfl (of_decide_eq_true hcloseout)

/-! ## Every call -/

variable (env s r) in
/-- What an event that names a closeout comes to. -/
theorem refusedQuietly_event_iff {event : CloseoutIntakeEvent} (hcall : r.call = .ingest event)
    (hfound : s.addressed event = some c) :
    s.RefusedQuietly env r ↔ s.Unnoted env r := by
  have hc : c ∈ s.closeouts := mem_of_addressed hfound
  have hbind : (given event.closeoutId).bind s.closeouts.find? = some c := hfound
  have hcond : s.Unnoted env r ↔
      match event.eventType with
      | .incidentClassified => s.closeoutRefusal c .triaged ≠ none →
        event.classification.or c.classification = c.classification
      | .incidentFlagObserved => ∀ target, (c.mirroring event).flagTarget = some target →
        s.closeoutRefusal (c.mirroring event) target ≠ none →
          (c.mirroring event).reasoned env event.reason = c
      | .runbookStepProgress => ∀ st, s.addressedStep event c = some st →
        (st.mirroring event).refusal .inProgress none ≠ none → st.mirroring event = st
      | .runbookStepTerminal => ∀ st, s.addressedStep event c = some st →
        (st.mirroring event).refusal .done event.evidence ≠ none → st.mirroring event = st
      | _ => True := by
    constructor
    · intro h
      exact h event c hcall hfound
    · intro h event' c' hcall' hfound'
      obtain rfl := CloseoutCall.ingest.inj (hcall.symm.trans hcall')
      obtain rfl := Option.some.inj (hfound.symm.trans hfound')
      exact h
  rw [hcond, RefusedQuietly, accepted, step, subject, hcall]
  simp only [Option.some.injEq, hfound, Option.map_some]
  cases htype : event.eventType with
  | incidentDetected =>
    refine iff_of_true (fun hrefused => ?_) trivial
    simp only [ingestEvent, htype, if_true, ingestIncidentDetected] at hrefused
    split at hrefused <;> cases hrefused
  | incidentClassified =>
    simpa only [ingestEvent, htype, hbind, reduceCtorEq, if_false] using
      ingestIncidentClassified_quiet_iff hc
  | incidentFlagObserved =>
    simpa only [ingestEvent, htype, hbind, reduceCtorEq, if_false] using
      ingestIncidentFlagObserved_quiet_iff hc
  | closeoutTransition =>
    refine iff_of_true (fun hrefused => ?_) trivial
    simp only [ingestEvent, htype, hbind, reduceCtorEq, if_false] at hrefused ⊢
    exact ingestCloseoutTransition_quiet hc hrefused
  | runbookStepOwed =>
    refine iff_of_true (fun hrefused => ?_) trivial
    simp only [ingestEvent, htype, hbind, reduceCtorEq, if_false, ingestStepOwed] at hrefused
    split at hrefused <;> cases hrefused
  | runbookStepProgress =>
    simpa only [ingestEvent, htype, hbind, reduceCtorEq, if_false] using
      ingestStepChange_quiet_iff hc
  | runbookStepTerminal =>
    simpa only [ingestEvent, htype, hbind, reduceCtorEq, if_false] using
      ingestStepChange_quiet_iff hc

/-- A refused call changes nothing but the audit, in whatever state it finds the store, exactly if it
is not one of the events that have noted something new before their transition is refused. -/
theorem refused_quietly (env : Primitives) (s : CloseoutStore) (r : CloseoutRequest) :
    s.RefusedQuietly env r ↔ s.Unnoted env r := by
  have hother : (∀ event, r.call ≠ .ingest event) → s.Unnoted env r :=
    fun h event _ hcall => absurd hcall (h event)
  cases hcall : r.call with
  | ingest event =>
    cases hfound : s.addressed event with
    | some c => exact refusedQuietly_event_iff env s r hcall hfound
    | none =>
      have hbind : (given event.closeoutId).bind s.closeouts.find? = none := hfound
      refine iff_of_true ?_ ?_
      · rw [RefusedQuietly, accepted, step, subject, hcall]
        simp only [Option.some.injEq, hfound, Option.map_none, ingestEvent]
        split
        next hdetected =>
          intro hrefused
          unfold ingestIncidentDetected at hrefused
          split at hrefused <;> cases hrefused
        next =>
          intro _
          rw [hbind]
          exact Quiet.unchanged
      · intro event' c hcall' hfound'
        obtain rfl := CloseoutCall.ingest.inj (hcall.symm.trans hcall')
        rw [hfound] at hfound'
        cases hfound'
  | closeoutTransition closeoutId target reason =>
    refine iff_of_true ?_ (hother fun event h => by cases hcall.symm.trans h)
    rw [RefusedQuietly, accepted, step, subject, hcall]
    exact fun hrefused => applyCloseoutTransition_quiet (Option.some.inj hrefused)
  | stepTransition closeoutId stepId target evidence reason =>
    refine iff_of_true ?_ (hother fun event h => by cases hcall.symm.trans h)
    rw [RefusedQuietly, accepted, step, subject, hcall]
    exact fun hrefused => applyStepTransition_quiet (Option.some.inj hrefused)
  | selfAssign closeoutId =>
    refine iff_of_true ?_ (hother fun event h => by cases hcall.symm.trans h)
    rw [RefusedQuietly, accepted, step, subject, hcall]
    exact fun hrefused => selfAssignCloseout_quiet (Option.some.inj hrefused)
  | acknowledgeTask taskId payload =>
    refine iff_of_true ?_ (hother fun event h => by cases hcall.symm.trans h)
    rw [RefusedQuietly, accepted, hcall]
    intro hrefused
    cases hrefused
  | inProgressTask taskId payload =>
    refine iff_of_true ?_ (hother fun event h => by cases hcall.symm.trans h)
    rw [RefusedQuietly, accepted, hcall]
    intro hrefused
    cases hrefused

end CloseoutStore

/-! ### A closeout that was withdrawn -/

/-- A closeout is opened and withdrawn. -/
def withdrawnStore : CloseoutStore :=
  [⟨0, engineer, 1, 2, .ingest (plainEvent .incidentDetected (some "c1") "a")⟩,
    ⟨1, engineer, 3, 4, .closeoutTransition "c1" .withdrawn none⟩].foldl
    (CloseoutStore.step plainPrimitives) .empty

/-- An event that classifies it. -/
def lateClassification : CloseoutRequest :=
  ⟨2, engineer, 5, 6, .ingest
    { plainEvent .incidentClassified (some "c1") "a" with classification := some .database }⟩

/-- The event is refused, and the closeout has its classification all the same. -/
theorem refused_quietly_broken_lateClassification :
    ¬withdrawnStore.RefusedQuietly plainPrimitives lateClassification := by
  intro h
  have hrefused : withdrawnStore.accepted plainPrimitives lateClassification = some false := by
    decide +kernel
  have hsame := (h hrefused).closeouts
  have hbefore : (withdrawnStore.closeouts.find? "c1").bind (·.classification) = none := by
    decide +kernel
  have hafter : ((withdrawnStore.step plainPrimitives lateClassification).closeouts.find? "c1").bind
      (·.classification) = some .database := by
    decide +kernel
  rw [hsame, hbefore] at hafter
  cases hafter

end Incident

end Mpango
