import Mpango.Library.Registry
import Mpango.Library.Run
import Mpango.Spec.IncidentCloseouts

/-!
# Closeouts and steps keep their identity

A closeout and a step are opened under an id that the event may supply. As long as the id is new and
an incident's digest is its own, the records stay what they are, the two indexes hold exactly the
active ones and the audit events are numbered from one (`closeout_identity_iff`). An id that is in
use is where it breaks: the code writes over the record.
-/

namespace Mpango

namespace Incident

open Operator

namespace CloseoutStore

variable {env : Primitives} {s s' : CloseoutStore} {r : CloseoutRequest}

/-! ## The law -/

/-- The indexes and the audit logs agree with the records, and a runbook shows its steps. -/
structure Consistent (s : CloseoutStore) : Prop where
  closeoutIndex : ∀ digest closeoutId, s.activeCloseoutDedup digest = some closeoutId ↔
    ∃ c ∈ s.closeouts, c.closeoutId = closeoutId ∧ c.isActive = true ∧ c.dedupKeyDigest = digest
  stepIndex : ∀ digest stepId, s.activeStepDedup digest = some stepId ↔
    ∃ st ∈ s.steps, st.stepId = stepId ∧ st.isActive = true ∧ st.dedupKeyDigest = digest
  closeoutAudit : ∀ closeoutId, (s.closeoutAudit.filter (·.closeoutId = closeoutId)).map
    (·.sequenceNo) = List.range' 1 (s.closeoutAuditSeq closeoutId)
  stepAudit : ∀ stepId, (s.stepAudit.filter (·.stepId = stepId)).map (·.sequenceNo) =
    List.range' 1 (s.stepAuditSeq stepId)
  readable : ∀ st ∈ s.steps, ∃ steps, s.readRunbook st.closeoutId = some steps ∧ st ∈ steps

/-- No record is lost or replaced by another one. -/
structure Keeps (s s' : CloseoutStore) : Prop where
  closeouts : ∀ c ∈ s.closeouts, ∃ c' ∈ s'.closeouts, SameCloseout c c'
  steps : ∀ st ∈ s.steps, ∃ st' ∈ s'.steps, SameStep st st'

/-- A repeated incident is answered with the closeout of that incident. -/
def Answered (env : Primitives) (s : CloseoutStore) (r : CloseoutRequest) : Prop :=
  ∀ event response, r.call = .ingest event → event.eventType = .incidentDetected →
    (s.ingestEvent env r.now r.newId r.newTaskId r.actor event).2 = response →
    response.deduped = true → response.closeout.correlationId = event.correlationId ∧
      response.closeout.tenantId = event.tenantId ∧
      response.closeout.linkedIncidentId = event.linkedIncidentId

/-- What a call does to the records, and leaves. -/
structure Lawful (env : Primitives) (s : CloseoutStore) (r : CloseoutRequest) : Prop where
  consistent : Consistent (s.step env r)
  keeps : Keeps s (s.step env r)
  answered : Answered env s r

/-- What is opened is opened under a new id, and no active closeout of another incident has the
digest of a detected one. -/
structure Distinct (env : Primitives) (s : CloseoutStore) (r : CloseoutRequest) : Prop where
  closeoutId : ∀ event, r.call = .ingest event → event.eventType = .incidentDetected →
    s.absorbingCloseout env event = none →
    s.closeouts.find? (idOr event.closeoutId r.newId) = none
  stepId : ∀ event c, r.call = .ingest event → event.eventType = .runbookStepOwed →
    s.addressed event = some c → s.absorbingStep (s.owedDigest env event c) = none →
    s.steps.find? (idOr event.stepId r.newId) = none
  separated : ∀ event, r.call = .ingest event → event.eventType = .incidentDetected →
    ∀ c ∈ s.closeouts, c.isActive = true → c.dedupKeyDigest =
        closeoutDedupDigest env event.correlationId event.tenantId event.linkedIncidentId →
      c.correlationId = event.correlationId ∧ c.tenantId = event.tenantId ∧
        c.linkedIncidentId = event.linkedIncidentId

/-! ## What is in order -/

/-- The closeouts with their index and their audit. -/
def CloseoutsInOrder (s : CloseoutStore) : Prop :=
  Registered StoredCloseout.isActive StoredCloseout.dedupKeyDigest CloseoutAuditEvent.closeoutId
    CloseoutAuditEvent.sequenceNo s.closeouts s.activeCloseoutDedup s.closeoutAudit
    s.closeoutAuditSeq

/-- The steps with their index and their audit. -/
def StepsInOrder (s : CloseoutStore) : Prop :=
  Registered StoredStep.isActive StoredStep.dedupKeyDigest StepAuditEvent.stepId
    StepAuditEvent.sequenceNo s.steps s.activeStepDedup s.stepAudit s.stepAuditSeq

/-- No id is empty, and every step is in the runbook of a closeout. -/
structure Filed (s : CloseoutStore) : Prop where
  closeoutNamed : ∀ c ∈ s.closeouts, c.closeoutId ≠ ""
  stepNamed : ∀ st ∈ s.steps, st.stepId ≠ ""
  closeout : ∀ st ∈ s.steps, s.closeouts.find? st.closeoutId ≠ none
  listed : ∀ st ∈ s.steps, st.stepId ∈ s.closeoutStepOrder st.closeoutId

structure InOrder (s : CloseoutStore) : Prop where
  closeouts : CloseoutsInOrder s
  steps : StepsInOrder s
  filed : Filed s

theorem InOrder.empty : InOrder .empty where
  closeouts := Registered.empty
  steps := Registered.empty
  filed := ⟨fun _ h => absurd h Table.not_mem_empty, fun _ h => absurd h Table.not_mem_empty,
    fun _ h => absurd h Table.not_mem_empty, fun _ h => absurd h Table.not_mem_empty⟩

theorem InOrder.consistent (h : InOrder s) : Consistent s where
  closeoutIndex := fun digest id => (h.closeouts.indexed digest id).trans shown_eq_some
  stepIndex := fun digest id => (h.steps.indexed digest id).trans shown_eq_some
  closeoutAudit := h.closeouts.numbered
  stepAudit := h.steps.numbered
  readable := by
    intro st hst
    have hfind : s.steps.find? st.stepId = some st := Table.find?_key hst
    obtain ⟨c, hc⟩ := Option.ne_none_iff_exists'.mp (h.filed.closeout st hst)
    refine ⟨s.stepsFor st.closeoutId, ?_, List.mem_filterMap.mpr
      ⟨st.stepId, h.filed.listed st hst, hfind⟩⟩
    rw [readRunbook, hc, Option.map_some]

/-! ## Closeouts -/

/-- A counter that starts over with an entry stands at one. -/
theorem reset_count (count : String → ℕ) (id : String) :
    Function.update (Function.update count id 0) id (Function.update count id 0 id + 1) =
      Function.update count id 1 := by
  rw [Function.update_self, Function.update_idem]

/-- What takes no incident is not in the index. -/
theorem closeoutIndex_eq_none (h : InOrder s) {event : CloseoutIntakeEvent}
    (hnone : s.absorbingCloseout env event = none) : s.activeCloseoutDedup
      (closeoutDedupDigest env event.correlationId event.tenantId event.linkedIncidentId) = none := by
  cases hindex : s.activeCloseoutDedup
    (closeoutDedupDigest env event.correlationId event.tenantId event.linkedIncidentId) with
  | none => rfl
  | some id =>
    obtain ⟨c, hc, rfl, -⟩ := h.closeouts.find hindex
    have hfind : s.closeouts.find? c.closeoutId = some c := Table.find?_key hc
    have habsorbs : s.absorbingCloseout env event = some c := by
      rw [absorbingCloseout, hindex]
      show (given (some c.closeoutId)).bind _ = _
      rw [given_of_ne (h.filed.closeoutNamed c hc), Option.bind_some, hfind]
    rw [hnone] at habsorbs
    cases habsorbs

theorem stepIndex_eq_none (h : InOrder s) {digest : String}
    (hnone : s.absorbingStep digest = none) : s.activeStepDedup digest = none := by
  cases hindex : s.activeStepDedup digest with
  | none => rfl
  | some id =>
    obtain ⟨st, hst, rfl, -⟩ := h.steps.find hindex
    have hfind : s.steps.find? st.stepId = some st := Table.find?_key hst
    have habsorbs : s.absorbingStep digest = some st := by
      rw [absorbingStep, hindex]
      show (given (some st.stepId)).bind _ = _
      rw [given_of_ne (h.filed.stepNamed st hst), Option.bind_some, hfind]
    rw [hnone] at habsorbs
    cases habsorbs

/-- A note on a closeout, with its audit event. -/
theorem CloseoutsInOrder.note (h : CloseoutsInOrder s) {c c' : StoredCloseout} {now : Instant}
    {actor : Actor} {label : String} {previous next : CloseoutState} {reason : Option String}
    {code : Option CloseoutDenialCode} (hc : c ∈ s.closeouts) (hnoted : NotedCloseout c c') :
    CloseoutsInOrder
      ((s.putCloseout c').emitCloseoutAudit env now actor c' label previous next reason code) := by
  have hactive : c'.isActive = c.isActive := by rw [StoredCloseout.isActive, hnoted.state]; rfl
  have hput : CloseoutsInOrder (s.putCloseout c') :=
    Registered.note h hc hnoted.closeoutId hnoted.dedupKeyDigest hactive
  exact Registered.append hput (Table.mem_put.mpr (.inr rfl)) rfl rfl

/-- A closeout moves on, with its audit event. -/
theorem CloseoutsInOrder.move (h : CloseoutsInOrder s) {c c₁ c' : StoredCloseout} {now : Instant}
    {actor : Actor} {label : String} {previous next : CloseoutState} {reason : Option String}
    {code : Option CloseoutDenialCode} {target : CloseoutState} {q : TaskQueue}
    (hc : c ∈ s.closeouts) (hactive : c.isActive = true)
    (hdigest : c₁.dedupKeyDigest = c.dedupKeyDigest) (hsame : SameCloseout c c')
    (hstate : c'.state = target) :
    CloseoutsInOrder ((s.moveCloseout c₁ target q c').emitCloseoutAudit env now actor c' label
      previous next reason code) := by
  have hmoved : CloseoutsInOrder (s.moveCloseout c₁ target q c') := by
    have hmove := Registered.move h hc hsame.closeoutId hsame.dedupKeyDigest hactive
    rw [StoredCloseout.isActive, hstate] at hmove
    show Registered _ _ _ _ _ (if target.isTerminal then
      Function.update s.activeCloseoutDedup c₁.dedupKeyDigest none else s.activeCloseoutDedup) _ _
    rw [hdigest]
    cases hterminal : target.isTerminal with
    | true =>
      rw [hterminal] at hmove
      exact hmove
    | false =>
      rw [hterminal] at hmove
      exact hmove
  exact Registered.append hmoved (Table.mem_put.mpr (.inr rfl)) rfl rfl

/-- A closeout is opened under a new id. -/
theorem InOrder.openedCloseout (h : InOrder s) {event : CloseoutIntakeEvent}
    {label : String} {reason : Option String} (hnone : s.absorbingCloseout env event = none)
    (hfresh : s.closeouts.find? (idOr event.closeoutId r.newId) = none) :
    CloseoutsInOrder ((s.openCloseout (s.newCloseout env r event)).emitCloseoutAudit env r.now r.actor
      (s.newCloseout env r event) label .detected .detected reason none) := by
  have hdigest : (s.newCloseout env r event).dedupKeyDigest = closeoutDedupDigest env
    event.correlationId event.tenantId event.linkedIncidentId := rfl
  have hindex := closeoutIndex_eq_none h hnone
  rw [← hdigest] at hindex
  have hid : s.closeouts.find? (key (s.newCloseout env r event)) = none := hfresh
  have hactive : (s.newCloseout env r event).isActive = true := rfl
  generalize s.newCloseout env r event = c at hid hactive hindex
  show Registered _ _ _ _ (s.closeouts.put c)
    (Function.update s.activeCloseoutDedup c.dedupKeyDigest (some c.closeoutId)) _
    (Function.update (Function.update s.closeoutAuditSeq c.closeoutId 0) c.closeoutId
      (Function.update s.closeoutAuditSeq c.closeoutId 0 c.closeoutId + 1))
  rw [reset_count]
  refine Registered.enter h.closeouts hid hactive hindex rfl ?_
  show Function.update s.closeoutAuditSeq c.closeoutId 0 c.closeoutId + 1 = 1
  rw [Function.update_self]

/-- The closeout of a new step. -/
theorem CloseoutsInOrder.remediated (h : CloseoutsInOrder s) {c c₁ : StoredCloseout}
    {s₁ : CloseoutStore} (hc : c ∈ s.closeouts) (hremediated : Remediated env r s c (s₁, c₁)) :
    CloseoutsInOrder s₁ := by
  cases hremediated with
  | stayed => exact h
  | moved label hrefusal =>
    exact h.move hc (closeoutRefusal_active hrefusal) rfl
      (c.entering_same env r.now .inRemediation none) rfl

/-! ## Steps -/

/-- A note on a step, with its audit event. -/
theorem StepsInOrder.note (h : StepsInOrder s) {st st' : StoredStep} {now : Instant}
    {actor : Actor} {label : String} {previous next : StepState} {evidence : Option String}
    (hst : st ∈ s.steps) (hnoted : NotedStep st st') :
    StepsInOrder ((s.putStep st').emitStepAudit env now actor st' label previous next evidence) := by
  have hactive : st'.isActive = st.isActive := by rw [StoredStep.isActive, hnoted.stepState]; rfl
  have hput : StepsInOrder (s.putStep st') :=
    Registered.note h hst hnoted.stepId hnoted.dedupKeyDigest hactive
  exact Registered.append hput (Table.mem_put.mpr (.inr rfl)) rfl rfl

/-- A step moves on, with its audit event. -/
theorem StepsInOrder.move (h : StepsInOrder s) {st st₁ st' : StoredStep} {now : Instant}
    {actor : Actor} {label : String} {previous next : StepState} {evidence : Option String}
    {target : StepState} {q : TaskQueue} (hst : st ∈ s.steps) (hactive : st.isActive = true)
    (hdigest : st₁.dedupKeyDigest = st.dedupKeyDigest) (hsame : SameStep st st')
    (hstate : st'.stepState = target) :
    StepsInOrder ((s.moveStep st₁ target q st').emitStepAudit env now actor st' label previous next
      evidence) := by
  have hmoved : StepsInOrder (s.moveStep st₁ target q st') := by
    have hmove := Registered.move h hst hsame.stepId hsame.dedupKeyDigest hactive
    rw [StoredStep.isActive, hstate] at hmove
    show Registered _ _ _ _ _ (if target.isTerminal then
      Function.update s.activeStepDedup st₁.dedupKeyDigest none else s.activeStepDedup) _ _
    rw [hdigest]
    cases hterminal : target.isTerminal with
    | true =>
      rw [hterminal] at hmove
      exact hmove
    | false =>
      rw [hterminal] at hmove
      exact hmove
  exact Registered.append hmoved (Table.mem_put.mpr (.inr rfl)) rfl rfl

/-- A step is added under a new id and a digest that is not in the index. -/
theorem StepsInOrder.add (h : StepsInOrder s) {st : StoredStep} {now : Instant} {actor : Actor}
    {label : String} {evidence : Option String} {q : TaskQueue}
    (hfresh : s.steps.find? st.stepId = none) (hstate : st.stepState = .owed)
    (hindex : s.activeStepDedup st.dedupKeyDigest = none) :
    StepsInOrder (({ s.addStep st with tasks := q } : CloseoutStore).emitStepAudit env now actor st
      label .owed .owed evidence) := by
  have hactive : st.isActive = true := by rw [StoredStep.isActive, hstate]; rfl
  show Registered _ _ _ _ (s.steps.put st)
    (Function.update s.activeStepDedup st.dedupKeyDigest (some st.stepId)) _
    (Function.update (Function.update s.stepAuditSeq st.stepId 0) st.stepId
      (Function.update s.stepAuditSeq st.stepId 0 st.stepId + 1))
  rw [reset_count]
  refine Registered.enter h hfresh hactive hindex rfl ?_
  show Function.update s.stepAuditSeq st.stepId 0 st.stepId + 1 = 1
  rw [Function.update_self]

/-! ## Runbooks -/

/-- Closeouts are written, and none of the runbooks changes. -/
theorem Filed.of_closeouts (h : Filed s) {c : StoredCloseout} (hc : c.closeoutId ≠ "")
    (hcloseouts : s'.closeouts = s.closeouts.put c) (hsteps : s'.steps = s.steps)
    (horder : s'.closeoutStepOrder = s.closeoutStepOrder) : Filed s' where
  closeoutNamed := by
    rw [hcloseouts]
    intro d hd
    rcases Table.mem_put.mp hd with ⟨hd, -⟩ | rfl
    · exact h.closeoutNamed d hd
    · exact hc
  stepNamed := by
    rw [hsteps]
    exact h.stepNamed
  closeout := by
    rw [hsteps, hcloseouts]
    exact fun st hst => find?_put_ne_none (h.closeout st hst)
  listed := by
    rw [hsteps, horder]
    exact h.listed

/-- A step is written again, and none of the runbooks changes. -/
theorem Filed.of_step (h : Filed s) {st st' : StoredStep} (hst : st ∈ s.steps)
    (hsame : SameStep st st') (hsteps : s'.steps = s.steps.put st')
    (hcloseouts : s'.closeouts = s.closeouts)
    (horder : s'.closeoutStepOrder = s.closeoutStepOrder) : Filed s' := by
  have hcases : ∀ x ∈ s'.steps, ∃ y ∈ s.steps, x.stepId = y.stepId ∧ x.closeoutId = y.closeoutId := by
    intro x hx
    rw [hsteps] at hx
    rcases Table.mem_put.mp hx with ⟨hx, -⟩ | rfl
    · exact ⟨x, hx, rfl, rfl⟩
    · exact ⟨st, hst, hsame.stepId, hsame.closeoutId⟩
  constructor
  · rw [hcloseouts]
    exact h.closeoutNamed
  · intro x hx
    obtain ⟨y, hy, hid, -⟩ := hcases x hx
    rw [hid]
    exact h.stepNamed y hy
  · intro x hx
    obtain ⟨y, hy, -, hcloseout⟩ := hcases x hx
    rw [hcloseout, hcloseouts]
    exact h.closeout y hy
  · intro x hx
    obtain ⟨y, hy, hid, hcloseout⟩ := hcases x hx
    rw [hid, hcloseout, horder]
    exact h.listed y hy

/-- A step is added at the end of the runbook of a closeout. -/
theorem Filed.add (h : Filed s) {st : StoredStep} (hnamed : st.stepId ≠ "")
    (hcloseout : s.closeouts.find? st.closeoutId ≠ none) : Filed (s.addStep st) where
  closeoutNamed := h.closeoutNamed
  stepNamed := by
    intro x hx
    rcases Table.mem_put.mp hx with ⟨hx, -⟩ | rfl
    · exact h.stepNamed x hx
    · exact hnamed
  closeout := by
    intro x hx
    rcases Table.mem_put.mp hx with ⟨hx, -⟩ | rfl
    · exact h.closeout x hx
    · exact hcloseout
  listed := by
    intro x hx
    show x.stepId ∈ Function.update s.closeoutStepOrder st.closeoutId _ x.closeoutId
    rcases Table.mem_put.mp hx with ⟨hx, -⟩ | rfl
    · by_cases hid : x.closeoutId = st.closeoutId
      · rw [hid, Function.update_self, ← hid]
        exact List.mem_append_left _ (h.listed x hx)
      · rw [Function.update_of_ne hid]
        exact h.listed x hx
    · rw [Function.update_self]
      exact List.mem_append_right _ (List.mem_singleton_self _)

/-- A closeout is opened under a new id: no step is in its runbook. -/
theorem Filed.opened (h : Filed s) {c : StoredCloseout} (hnamed : c.closeoutId ≠ "")
    (hfresh : s.closeouts.find? c.closeoutId = none) : Filed (s.openCloseout c) where
  closeoutNamed := by
    intro d hd
    rcases Table.mem_put.mp hd with ⟨hd, -⟩ | rfl
    · exact h.closeoutNamed d hd
    · exact hnamed
  stepNamed := h.stepNamed
  closeout := fun st hst => find?_put_ne_none (h.closeout st hst)
  listed := by
    intro st hst
    show st.stepId ∈ Function.update s.closeoutStepOrder c.closeoutId [] st.closeoutId
    rw [Function.update_of_ne]
    · exact h.listed st hst
    · intro hid
      exact h.closeout st hst (hid ▸ hfresh)

/-! ## Every call -/

theorem moved_same {c c₁ c' : StoredCloseout} {target : CloseoutState} {reason : Option String}
    {q : TaskQueue} (hnoted : NotedCloseout c c₁)
    (hafter : NotedCloseout (settleFollowup env r.now r.newTaskId r.actor target
      (c₁.entering env r.now target reason) q).2 c') : SameCloseout c c' ∧ c'.state = target := by
  have hentered : SameCloseout c (c₁.entering env r.now target reason) :=
    hnoted.toSameCloseout.trans (c₁.entering_same env r.now target reason)
  refine ⟨(hentered.trans settleFollowup_same).trans hafter.toSameCloseout, ?_⟩
  rw [hafter.state, settleFollowup_state]
  rfl

theorem movedStep_same {st st₁ : StoredStep} {target : StepState} {evidence reason : Option String}
    {severity : Severity} {q : TaskQueue} (hnoted : NotedStep st st₁) :
    SameStep st (settleStepTask env r.now r.newTaskId r.actor target evidence severity
      (st₁.entering env r.now target evidence reason) q).2 :=
  (hnoted.toSameStep.trans (st₁.entering_same env r.now target evidence reason)).trans
    settleStepTask_same

/-- Every call keeps the store in order, if what it opens has a new id. -/
theorem InOrder.step (h : InOrder s) (hdistinct : Distinct env s r) : InOrder (s.step env r) := by
  have heffect := step_effect env s r
  generalize s.step env r = s' at heffect
  cases heffect with
  | unchanged => exact h
  | worked => exact ⟨h.closeouts, h.steps, ⟨h.filed.1, h.filed.2, h.filed.3, h.filed.4⟩⟩
  | opened event label reason hcall htype hnone =>
    have hfresh := hdistinct.closeoutId event hcall htype hnone
    have hfiled : Filed (s.openCloseout (s.newCloseout env r event)) :=
      h.filed.opened (c := s.newCloseout env r event) idOr_ne_empty hfresh
    exact ⟨h.openedCloseout hnone hfresh, h.steps, ⟨hfiled.1, hfiled.2, hfiled.3, hfiled.4⟩⟩
  | noted c c' label reason code hc hnoted hflag =>
    refine ⟨h.closeouts.note hc hnoted, h.steps, h.filed.of_closeouts ?_ rfl rfl rfl⟩
    rw [hnoted.closeoutId]
    exact h.filed.closeoutNamed c hc
  | moved c c₁ c' target reason label hc hnoted hmoving hclosed hrefusal hafter hflag =>
    have hactive : c.isActive = true := by
      have hopen := closeoutRefusal_active hrefusal
      rwa [StoredCloseout.isActive, hnoted.state] at hopen
    obtain ⟨hsame, hstate⟩ := moved_same hnoted hafter
    refine ⟨h.closeouts.move hc hactive hnoted.dedupKeyDigest hsame hstate, h.steps,
      h.filed.of_closeouts ?_ rfl rfl rfl⟩
    rw [hsame.closeoutId]
    exact h.filed.closeoutNamed c hc
  | stepOpened event c c₁ s₁ label hcall htype hc hnone hremediated =>
    have hfresh := hdistinct.stepId event c hcall htype hc hnone
    have hindex := stepIndex_eq_none h hnone
    have hmem := mem_of_addressed hc
    have hsame : SameStep (s.newStep env r event c) (materializeStepTask env r.now r.newTaskId
      c.severity (s.newStep env r event c) s.tasks).2 := materializeStepTask_same
    have hstate : (materializeStepTask env r.now r.newTaskId c.severity (s.newStep env r event c)
      s.tasks).2.stepState = .owed := materializeStepTask_stepState
    have hid : (s.newStep env r event c).stepId = idOr event.stepId r.newId := newStep_stepId
    have hcloseout : (s.newStep env r event c).closeoutId = c.closeoutId := newStep_closeoutId
    have hdigest : (s.newStep env r event c).dedupKeyDigest = s.owedDigest env event c :=
      newStep_dedupKeyDigest
    generalize (materializeStepTask env r.now r.newTaskId c.severity (s.newStep env r event c)
      s.tasks).1 = q
    generalize (materializeStepTask env r.now r.newTaskId c.severity (s.newStep env r event c)
      s.tasks).2 = st at hsame hstate
    rw [← hid, ← hsame.stepId] at hfresh
    rw [← hdigest, ← hsame.dedupKeyDigest] at hindex
    have hstored : s.closeouts.find? st.closeoutId ≠ none := by
      have hfind : s.closeouts.find? c.closeoutId = some c := Table.find?_key hmem
      rw [hsame.closeoutId, hcloseout, hfind]
      exact Option.some_ne_none c
    have hnamed : st.stepId ≠ "" := by
      rw [hsame.stepId, hid]
      exact idOr_ne_empty
    have hsteps : StepsInOrder (({ s.addStep st with tasks := q } : CloseoutStore).emitStepAudit env
      r.now r.actor st label .owed .owed (some event.summary)) := h.steps.add hfresh hstate hindex
    have hcloseouts := h.closeouts.remediated hmem hremediated
    cases hremediated with
    | stayed =>
      have hfiled := h.filed.add hnamed hstored
      exact ⟨hcloseouts, hsteps, ⟨hfiled.1, hfiled.2, hfiled.3, hfiled.4⟩⟩
    | moved remediation hrefusal =>
      have hentered : (c.entering env r.now .inRemediation none).closeoutId ≠ "" :=
        h.filed.closeoutNamed c hmem
      have hwritten : Filed (s.moveCloseout c .inRemediation s.tasks
          (c.entering env r.now .inRemediation none)) := h.filed.of_closeouts hentered rfl rfl rfl
      have hfiled := hwritten.add hnamed (find?_put_ne_none hstored)
      exact ⟨hcloseouts, hsteps, ⟨hfiled.1, hfiled.2, hfiled.3, hfiled.4⟩⟩
  | stepNoted st st' label evidence hst hnoted hwarning =>
    exact ⟨h.closeouts, h.steps.note hst hnoted, h.filed.of_step hst hnoted.toSameStep rfl rfl rfl⟩
  | stepMoved st st₁ target evidence reason note label hst hnoted hmoving hrefusal =>
    have hactive : st.isActive = true := by
      have hopen := StoredStep.refusal_active hrefusal
      rwa [StoredStep.isActive, hnoted.stepState] at hopen
    exact ⟨h.closeouts, h.steps.move hst hactive hnoted.dedupKeyDigest (movedStep_same hnoted)
      settleStepTask_stepState, h.filed.of_step hst (movedStep_same hnoted) rfl rfl rfl⟩

/-! ## What a call keeps -/

theorem Keeps.refl (s : CloseoutStore) : Keeps s s :=
  ⟨fun c hc => ⟨c, hc, .refl c⟩, fun st hst => ⟨st, hst, .refl st⟩⟩

/-- A closeout is written: the one under its id, if there is one, stays what it is. -/
theorem kept_closeout {c' : StoredCloseout}
    (h : ∀ c ∈ s.closeouts, c.closeoutId = c'.closeoutId → SameCloseout c c') :
    ∀ c ∈ s.closeouts, ∃ d ∈ s.closeouts.put c', SameCloseout c d := by
  intro c hc
  by_cases hid : c.closeoutId = c'.closeoutId
  · exact ⟨c', Table.mem_put.mpr (.inr rfl), h c hc hid⟩
  · exact ⟨c, Table.mem_put.mpr (.inl ⟨hc, hid⟩), .refl c⟩

theorem kept_step {st' : StoredStep}
    (h : ∀ st ∈ s.steps, st.stepId = st'.stepId → SameStep st st') :
    ∀ st ∈ s.steps, ∃ x ∈ s.steps.put st', SameStep st x := by
  intro st hst
  by_cases hid : st.stepId = st'.stepId
  · exact ⟨st', Table.mem_put.mpr (.inr rfl), h st hst hid⟩
  · exact ⟨st, Table.mem_put.mpr (.inl ⟨hst, hid⟩), .refl st⟩

/-- A closeout is written over itself. -/
theorem Keeps.of_closeout {c c' : StoredCloseout} (hc : c ∈ s.closeouts) (hsame : SameCloseout c c')
    (hcloseouts : s'.closeouts = s.closeouts.put c') (hsteps : s'.steps = s.steps) :
    Keeps s s' where
  closeouts := by
    rw [hcloseouts]
    refine kept_closeout fun d hd hid => ?_
    have heq : d = c := Table.eq_of_key_eq hd hc (hid.trans hsame.closeoutId)
    rw [heq]
    exact hsame
  steps := by
    rw [hsteps]
    exact (Keeps.refl s).steps

theorem Keeps.of_step {st st' : StoredStep} (hst : st ∈ s.steps) (hsame : SameStep st st')
    (hsteps : s'.steps = s.steps.put st') (hcloseouts : s'.closeouts = s.closeouts) :
    Keeps s s' where
  closeouts := by
    rw [hcloseouts]
    exact (Keeps.refl s).closeouts
  steps := by
    rw [hsteps]
    refine kept_step fun x hx hid => ?_
    have heq : x = st := Table.eq_of_key_eq hx hst (hid.trans hsame.stepId)
    rw [heq]
    exact hsame

/-- Every call keeps the records, if what it opens has a new id. -/
theorem Distinct.keeps (hdistinct : Distinct env s r) : Keeps s (s.step env r) := by
  have heffect := step_effect env s r
  generalize s.step env r = s' at heffect
  cases heffect with
  | unchanged => exact .refl s
  | worked => exact ⟨(Keeps.refl s).closeouts, (Keeps.refl s).steps⟩
  | opened event label reason hcall htype hnone =>
    have hfresh := hdistinct.closeoutId event hcall htype hnone
    refine ⟨kept_closeout fun c hc hid => ?_, (Keeps.refl s).steps⟩
    exact absurd hid (Table.find?_eq_none.mp hfresh c hc)
  | noted c c' label reason code hc hnoted hflag =>
    exact .of_closeout hc hnoted.toSameCloseout rfl rfl
  | moved c c₁ c' target reason label hc hnoted hmoving hclosed hrefusal hafter hflag =>
    exact .of_closeout hc (moved_same hnoted hafter).1 rfl rfl
  | stepOpened event c c₁ s₁ label hcall htype hc hnone hremediated =>
    have hfresh := hdistinct.stepId event c hcall htype hc hnone
    have hid : (materializeStepTask env r.now r.newTaskId c.severity (s.newStep env r event c)
        s.tasks).2.stepId = idOr event.stepId r.newId := materializeStepTask_same.stepId
    constructor
    · cases hremediated with
      | stayed => exact (Keeps.refl s).closeouts
      | moved =>
        have hkeeps : Keeps s (s.moveCloseout c .inRemediation s.tasks
            (c.entering env r.now .inRemediation none)) := .of_closeout (mem_of_addressed hc)
          (c.entering_same env r.now .inRemediation none) rfl rfl
        exact hkeeps.closeouts
    · have hkept : ∀ st ∈ s.steps, ∃ x ∈ s.steps.put (materializeStepTask env r.now r.newTaskId
          c.severity (s.newStep env r event c) s.tasks).2, SameStep st x :=
        kept_step fun st hst heq => absurd (heq.trans hid) (Table.find?_eq_none.mp hfresh st hst)
      cases hremediated with
      | stayed => exact hkept
      | moved => exact hkept
  | stepNoted st st' label evidence hst hnoted hwarning =>
    exact .of_step hst hnoted.toSameStep rfl rfl
  | stepMoved st st₁ target evidence reason note label hst hnoted hmoving hrefusal =>
    exact .of_step hst (movedStep_same hnoted) rfl rfl

/-! ## Repeated incidents -/

/-- What takes an incident is the active closeout with its digest. -/
theorem absorbingCloseout_eq_some (h : InOrder s) {event : CloseoutIntakeEvent}
    {c : StoredCloseout} : s.absorbingCloseout env event = some c ↔
      c ∈ s.closeouts ∧ c.isActive = true ∧ c.dedupKeyDigest =
        closeoutDedupDigest env event.correlationId event.tenantId event.linkedIncidentId := by
  rw [absorbingCloseout, Option.bind_eq_some_iff]
  constructor
  · rintro ⟨id, hindex, hfind⟩
    obtain ⟨d, hd, hid, hactive, hdigest⟩ := h.closeouts.find (given_eq_some.mp hindex).1
    obtain ⟨hc, hkey⟩ := Table.find?_eq_some.mp hfind
    have heq : d = c := Table.eq_of_key_eq hd hc (hid.trans hkey.symm)
    subst heq
    exact ⟨hd, hactive, hdigest⟩
  · rintro ⟨hc, hactive, hdigest⟩
    have hindex : s.activeCloseoutDedup (closeoutDedupDigest env event.correlationId event.tenantId
        event.linkedIncidentId) = some c.closeoutId :=
      (h.closeouts.indexed _ _).mpr (shown_eq_some.mpr ⟨c, hc, rfl, hactive, hdigest⟩)
    refine ⟨c.closeoutId, given_eq_some.mpr ⟨hindex, h.filed.closeoutNamed c hc⟩, ?_⟩
    exact Table.find?_key hc

/-- An incident that nothing takes is not answered as a repeated one. -/
theorem deduped_of_none {event : CloseoutIntakeEvent} (htype : event.eventType = .incidentDetected)
    (hnone : s.absorbingCloseout env event = none) :
    (s.ingestEvent env r.now r.newId r.newTaskId r.actor event).2.deduped = false := by
  rw [ingestEvent, if_pos htype, ingestIncidentDetected, hnone]

/-- A repeated incident is answered with what takes it. -/
theorem deduped_of_some {event : CloseoutIntakeEvent} {c : StoredCloseout}
    (htype : event.eventType = .incidentDetected) (hc : s.absorbingCloseout env event = some c) :
    (s.ingestEvent env r.now r.newId r.newTaskId r.actor event).2.deduped = true ∧
      SameCloseout c (s.ingestEvent env r.now r.newId r.newTaskId r.actor event).2.closeout := by
  rw [ingestEvent, if_pos htype, ingestIncidentDetected, hc]
  generalize newReason env event.reason c.reasonRedacted = reasonRedacted
  exact ⟨rfl, ⟨rfl, rfl, rfl, rfl, rfl, rfl, rfl, rfl⟩⟩

theorem answered_iff_separated (h : InOrder s) : Answered env s r ↔
    ∀ event, r.call = .ingest event → event.eventType = .incidentDetected →
      ∀ c ∈ s.closeouts, c.isActive = true → c.dedupKeyDigest =
          closeoutDedupDigest env event.correlationId event.tenantId event.linkedIncidentId →
        c.correlationId = event.correlationId ∧ c.tenantId = event.tenantId ∧
          c.linkedIncidentId = event.linkedIncidentId := by
  constructor
  · intro hanswered event hcall htype c hc hactive hdigest
    obtain ⟨hdeduped, hsame⟩ := deduped_of_some (r := r) htype
      ((absorbingCloseout_eq_some h).mpr ⟨hc, hactive, hdigest⟩)
    have hanswer := hanswered event _ hcall htype rfl hdeduped
    rw [hsame.correlationId, hsame.tenantId, hsame.linkedIncidentId] at hanswer
    exact hanswer
  · intro hseparated event response hcall htype hresponse hdeduped
    rw [← hresponse] at hdeduped ⊢
    cases habsorbs : s.absorbingCloseout env event with
    | none =>
      rw [deduped_of_none htype habsorbs] at hdeduped
      cases hdeduped
    | some c =>
      obtain ⟨hc, hactive, hdigest⟩ := (absorbingCloseout_eq_some h).mp habsorbs
      have hsame := (deduped_of_some (r := r) htype habsorbs).2
      rw [hsame.correlationId, hsame.tenantId, hsame.linkedIncidentId]
      exact hseparated event hcall htype c hc hactive hdigest

/-! ## An id that is in use -/

/-- Entries of a record that starts over are not numbered. -/
theorem not_numbered_again {ε : Type} {about : ε → String} {number : ε → ℕ} {journal : List ε}
    {count count' : String → ℕ} {e : ε} {id : String} (h : Numbers about number journal count)
    (hcount : count id ≠ 0) (habout : about e = id) (hone : count' id = 1) :
    ¬((journal ++ [e]).filter fun x => about x = id).map number = List.range' 1 (count' id) := by
  intro heq
  have hlength := congrArg List.length heq
  have hbefore := congrArg List.length (h id)
  rw [List.length_map, List.length_range'] at hlength hbefore
  rw [List.filter_append, List.length_append, hbefore, hone] at hlength
  simp [habout] at hlength
  exact hcount hlength

/-- The law asks for new ids. -/
theorem Lawful.distinct (h : InOrder s) (hlawful : Lawful env s r) : Distinct env s r where
  closeoutId := by
    intro event hcall htype hnone
    by_contra hstored
    obtain ⟨c, hc⟩ := Option.ne_none_iff_exists'.mp hstored
    obtain ⟨hmem, hid⟩ := Table.find?_eq_some.mp hc
    have hcount : s.closeoutAuditSeq (idOr event.closeoutId r.newId) ≠ 0 :=
      hid ▸ h.closeouts.counted c hmem
    have hconsistent := hlawful.consistent
    rw [step_opened hcall htype hnone] at hconsistent
    refine not_numbered_again h.closeouts.numbered hcount rfl ?_
      (hconsistent.closeoutAudit (idOr event.closeoutId r.newId))
    exact (congrFun (reset_count s.closeoutAuditSeq _) _).trans (Function.update_self ..)
  stepId := by
    intro event c hcall htype hc hnone
    by_contra hstored
    obtain ⟨st, hst⟩ := Option.ne_none_iff_exists'.mp hstored
    obtain ⟨hmem, hid⟩ := Table.find?_eq_some.mp hst
    have hcount : s.stepAuditSeq (idOr event.stepId r.newId) ≠ 0 :=
      hid ▸ h.steps.counted st hmem
    obtain ⟨s₁, c₁, hremediated, heq⟩ := ingestStepOwed_opened env r hnone
    have hconsistent := hlawful.consistent
    rw [step_stepOpened hcall htype hc, heq] at hconsistent
    have hnumbered : Numbers StepAuditEvent.stepId StepAuditEvent.sequenceNo s₁.stepAudit
        s.stepAuditSeq ∧ s₁.stepAuditSeq = s.stepAuditSeq := by
      cases hremediated with
      | stayed => exact ⟨h.steps.numbered, rfl⟩
      | moved => exact ⟨h.steps.numbered, rfl⟩
    refine not_numbered_again hnumbered.1 hcount rfl ?_
      (hconsistent.stepAudit (idOr event.stepId r.newId))
    exact (congrFun (reset_count s₁.stepAuditSeq _) _).trans (Function.update_self ..)
  separated := (answered_iff_separated h).mp hlawful.answered

end CloseoutStore

def engineer : Actor := ⟨some "op", .engineeringOperator⟩

/-- An event of a type about a closeout, with nothing else in it. -/
def plainEvent (eventType : IntakeEventType) (closeoutId : Option String)
    (correlationId : String) : CloseoutIntakeEvent where
  eventType
  closeoutId
  classification := none
  severity := none
  tenantId := some "t1"
  actorScope := .platform
  ownerRole := none
  correlationId
  linkedIncidentId := none
  linkedTriageSnapshotRef := none
  linkedHandoffRef := none
  summary := "seen"
  reason := none
  flagObserved := none
  sourceStatus := none
  linkedActionId := none
  linkedApprovalId := none
  linkedExecutionId := none
  linkedSourceRef := none
  stepId := none
  stepKind := none
  sequenceNo := none
  linkedExecutionTerminal := none
  linkedApprovalResolved := none
  linkedExecutionWarning := none
  evidence := none
  targetState := none
  ttlExpiresAt := none

end Incident

end Mpango
