import Mpango.Operations.Identity

/-!
# Closed incidents are honestly closed

A closeout passes a gate once, when it closes: its steps are over, its flag is seen to be cleared,
nothing is owed and its source is known (`HonestlyClosed`). Events that come later can still change
the flag, the runbook and the steps, and the gate itself does not look at the warnings of the steps.
`Guarded` says what the calls of a run must not do, and `closed_honestly` that no call then undoes
what the gate has seen.
-/

namespace Mpango

namespace Incident

open Operator

/-! ## The law -/

/-- A done step of an action that ended with a warning. -/
def StoredStep.Warns (st : StoredStep) : Prop :=
  st.stepKind = .actionPointer ∧ st.stepState = .done ∧ st.linkedExecutionWarning = true

instance (st : StoredStep) : Decidable st.Warns := inferInstanceAs (Decidable (_ ∧ _))

/-- What a closed closeout says for itself. -/
structure StoredCloseout.Settled (c : StoredCloseout) : Prop where
  flag : c.flagEverSet = true → c.flagObserved = .observedFalse
  followup : c.followupOwed = false
  source : c.sourceStatus ≠ some .unknown
  warning : c.linkedExecutionWarning = false

namespace CloseoutStore

variable {env : Primitives} {s s' : CloseoutStore} {r : CloseoutRequest}

/-- A closed closeout is what it says, its steps are over and none of them warns, and its follow-up
task is over. -/
structure HonestlyClosed (s : CloseoutStore) (c : StoredCloseout) : Prop where
  settled : c.Settled
  steps : ∀ st ∈ s.stepsFor c.closeoutId, st.stepState.isTerminal = true
  warnings : ∀ st ∈ s.stepsFor c.closeoutId, ¬st.Warns
  followup : ∀ taskId, c.linkedFollowupTaskId = some taskId →
    ∃ t ∈ s.tasks.tasks, t.taskId = taskId ∧ t.state.isTerminal = true

/-- Every closed closeout is honestly closed. -/
def Honest (s : CloseoutStore) : Prop := ∀ c ∈ s.closeouts, c.state = .closed → HonestlyClosed s c

/-- The id drawn for a task is new. -/
def Fresh (s : CloseoutStore) (r : CloseoutRequest) : Prop :=
  s.tasks.tasks.find? r.newTaskId.text = none

/-- The runbook of a closed closeout lists the step. -/
def ListedClosed (s : CloseoutStore) (stepId : String) : Prop :=
  ∃ c ∈ s.closeouts, c.state = .closed ∧ stepId ∈ s.closeoutStepOrder c.closeoutId

/-- What a call does not do: close a closeout with a step that warns; observe the flag of a closed
closeout set, or not cleared after it was set; add a step to a closed closeout, or in the place of a
step of one; observe a warning for a done step of a closed closeout. -/
structure Guarded (env : Primitives) (s : CloseoutStore) (r : CloseoutRequest) : Prop where
  closing : ∀ c reason, s.moving r = some (c, .closed, reason) →
    s.closeoutRefusal c .closed = none → ∀ st ∈ s.stepsFor c.closeoutId, ¬st.Warns
  flag : ∀ event c, r.call = .ingest event → event.eventType = .incidentFlagObserved →
    s.addressed event = some c → c.state = .closed → ∀ f, event.flagObserved = some f →
      f ≠ .observedTrue ∧ (c.flagEverSet = true → f = .observedFalse)
  owed : ∀ event c, r.call = .ingest event → event.eventType = .runbookStepOwed →
    s.addressed event = some c → s.absorbingStep (s.owedDigest env event c) = none →
      c.state ≠ .closed ∧ ¬s.ListedClosed (idOr event.stepId r.newId)
  mirror : ∀ st target evidence reason, s.movingStep r = some (st, target, evidence, reason) →
    st.Warns → ¬s.ListedClosed st.stepId

/-! ## What carries it -/

/-- The follow-up task of a closeout is there, and over unless it is owed. -/
def FollowupStands (q : TaskQueue) (c : StoredCloseout) : Prop :=
  ∀ taskId, c.linkedFollowupTaskId = some taskId →
    ∃ x, q.standing taskId = some x ∧ (c.followupOwed = false → x.state.isTerminal = true)

/-- The runbook of a closed closeout. -/
def RunbookOver (s : CloseoutStore) (closeoutId : String) : Prop :=
  ∀ st ∈ s.stepsFor closeoutId, st.stepState.isTerminal = true ∧ ¬st.Warns

structure Held (s : CloseoutStore) : Prop where
  workable : Workable s.tasks
  followups : ∀ c ∈ s.closeouts, FollowupStands s.tasks c
  settled : ∀ c ∈ s.closeouts, c.state = .closed → c.Settled
  runbooks : ∀ c ∈ s.closeouts, c.state = .closed → RunbookOver s c.closeoutId

theorem Held.empty : Held .empty where
  workable := .empty
  followups := fun _ hc => absurd hc Table.not_mem_empty
  settled := fun _ hc => absurd hc Table.not_mem_empty
  runbooks := fun _ hc => absurd hc Table.not_mem_empty

theorem Held.honest (h : Held s) : Honest s := by
  intro c hc hclosed
  refine ⟨h.settled c hc hclosed, fun st hst => (h.runbooks c hc hclosed st hst).1,
    fun st hst => (h.runbooks c hc hclosed st hst).2, fun taskId hlink => ?_⟩
  obtain ⟨x, hx, hterminal⟩ := h.followups c hc taskId hlink
  obtain ⟨t, ht, hid, rfl⟩ := TaskQueue.standing_eq_some.mp hx
  exact ⟨t, ht, hid, hterminal (h.settled c hc hclosed).followup⟩

/-! ## Follow-ups -/

theorem FollowupStands.mono {q q' : TaskQueue} {c : StoredCloseout} (h : FollowupStands q c)
    (hkeeps : q.KeepsOver q') : FollowupStands q' c := by
  intro taskId hlink
  obtain ⟨x, hx, hterminal⟩ := h taskId hlink
  obtain ⟨x', hx', hsame⟩ := hkeeps taskId x hx
  exact ⟨x', hx', fun howed => (hsame (hterminal howed)).symm ▸ hterminal howed⟩

theorem FollowupStands.congr {q : TaskQueue} {c c' : StoredCloseout} (h : FollowupStands q c)
    (hlink : c'.linkedFollowupTaskId = c.linkedFollowupTaskId)
    (howed : c'.followupOwed = c.followupOwed) : FollowupStands q c' := by
  intro taskId
  rw [hlink, howed]
  exact h taskId

/-- However a transition settles the follow-up, its task is there, and over unless it is owed. -/
theorem FollowupStands.settle {q : TaskQueue} {c : StoredCloseout} {now : Instant}
    {newTaskId : Uuid} {actor : Actor} {target : CloseoutState} (h : FollowupStands q c)
    (hworkable : Workable q) :
    FollowupStands (settleFollowup env now newTaskId actor target c q).1
      (settleFollowup env now newTaskId actor target c q).2 := by
  have hsettled : FollowupSettled env now newTaskId actor target c q
    (settleFollowup env now newTaskId actor target c q) := settleFollowup_settled
  generalize settleFollowup env now newTaskId actor target c q = result at hsettled
  cases hsettled with
  | kept => exact h
  | owed =>
    intro taskId hlink
    cases hlink
    obtain ⟨x, hx⟩ := TaskQueue.upsert_stored env now newTaskId newTaskId c.followupEvent q
    exact ⟨x, hx, nofun⟩
  | resolved evidence hgiven =>
    intro taskId hlink
    rw [resolveFollowup_link] at hlink
    obtain ⟨x, hx, -⟩ := h taskId hlink
    have hnamed : taskId ≠ "" := by
      rintro rfl
      rw [hworkable.named] at hx
      cases hx
    have hlinked : given c.linkedFollowupTaskId = some taskId := hlink ▸ given_of_ne hnamed
    rcases resolveFollowup_standing hworkable.endable hgiven with
      ⟨hstanding, hover⟩ | ⟨id, y, hid, hy, -, hstanding⟩
    · rw [hstanding]
      refine ⟨x, hx, fun _ => ?_⟩
      by_contra hactive
      have hfalse := p23TaskIsTerminal_eq_false.mpr ⟨x, hx, by simpa using hactive⟩
      rw [hover taskId hlinked] at hfalse
      cases hfalse
    · rw [hlinked] at hid
      cases hid
      rw [hstanding]
      exact ⟨_, Function.update_self .., fun _ => rfl⟩

/-! ## Every call -/

theorem mem_put_closeout {c c' : StoredCloseout} (h : c' ∈ s.closeouts.put c) :
    c' = c ∨ c' ∈ s.closeouts ∧ c'.closeoutId ≠ c.closeoutId :=
  (Table.mem_put.mp h).symm

/-- A closeout is written, and the tasks may move. -/
theorem Held.of_closeout (h : Held s) {c' : StoredCloseout}
    (hcloseouts : s'.closeouts = s.closeouts.put c') (hsteps : s'.steps = s.steps)
    (horder : s'.closeoutStepOrder = s.closeoutStepOrder) (hworkable : Workable s'.tasks)
    (hkeeps : s.tasks.KeepsOver s'.tasks) (hfollowup : FollowupStands s'.tasks c')
    (hclosed : c'.state = .closed → c'.Settled ∧ RunbookOver s c'.closeoutId) : Held s' := by
  have hrunbook : ∀ id, RunbookOver s id → RunbookOver s' id := by
    intro id hover st hst
    rw [mem_stepsFor, hsteps, horder, ← mem_stepsFor] at hst
    exact hover st hst
  constructor
  · exact hworkable
  · intro d hd
    rw [hcloseouts] at hd
    rcases mem_put_closeout hd with rfl | ⟨hd, -⟩
    · exact hfollowup
    · exact (h.followups d hd).mono hkeeps
  · intro d hd hstate
    rw [hcloseouts] at hd
    rcases mem_put_closeout hd with rfl | ⟨hd, -⟩
    · exact (hclosed hstate).1
    · exact h.settled d hd hstate
  · intro d hd hstate
    rw [hcloseouts] at hd
    rcases mem_put_closeout hd with rfl | ⟨hd, -⟩
    · exact hrunbook _ (hclosed hstate).2
    · exact hrunbook _ (h.runbooks d hd hstate)

/-- A step is written that keeps the closed runbooks over, and the tasks may move. -/
theorem Held.of_step (h : Held s) {st' : StoredStep} (hcloseouts : s'.closeouts = s.closeouts)
    (hsteps : s'.steps = s.steps.put st') (horder : s'.closeoutStepOrder = s.closeoutStepOrder)
    (hworkable : Workable s'.tasks) (hkeeps : s.tasks.KeepsOver s'.tasks)
    (hover : s.ListedClosed st'.stepId → st'.stepState.isTerminal = true ∧ ¬st'.Warns) : Held s' := by
  constructor
  · exact hworkable
  · rw [hcloseouts]
    exact fun c hc => (h.followups c hc).mono hkeeps
  · rw [hcloseouts]
    exact h.settled
  · rw [hcloseouts]
    intro c hc hclosed st hst
    rw [mem_stepsFor, hsteps, horder] at hst
    rcases Table.mem_put.mp hst.1 with ⟨hmem, -⟩ | rfl
    · exact h.runbooks c hc hclosed st (mem_stepsFor.mpr ⟨hmem, hst.2⟩)
    · exact hover ⟨c, hc, hclosed, hst.2⟩

/-- A step in the runbook of a closed closeout is over, and does not warn. -/
theorem Held.listed (h : Held s) {st : StoredStep} (hst : st ∈ s.steps)
    (hlisted : s.ListedClosed st.stepId) : st.stepState.isTerminal = true ∧ ¬st.Warns := by
  obtain ⟨c, hc, hclosed, horder⟩ := hlisted
  exact h.runbooks c hc hclosed st (mem_stepsFor.mpr ⟨hst, horder⟩)

/-- A note on a closed closeout leaves it settled. -/
theorem Guarded.settled (hguarded : Guarded env s r) {c c' : StoredCloseout} (h : c.Settled)
    (hclosed : c.state = .closed) (hnoted : NotedCloseout c c') (hflag : FlagFollows s r c c') :
    c'.Settled where
  flag := by
    rcases hflag with ⟨hobserved, hset⟩ | ⟨event, hcall, htype, hc, hobserved, hset⟩
    · rw [hobserved, hset]
      exact h.flag
    · rw [hobserved, hset]
      cases hevent : event.flagObserved with
      | none =>
        simp only [StoredCloseout.mirroring, hevent]
        simpa using h.flag
      | some f =>
        obtain ⟨hne, hcleared⟩ := hguarded.flag event c hcall htype hc hclosed f hevent
        simp only [StoredCloseout.mirroring, hevent, Option.getD_some]
        simpa [hne] using hcleared
  followup := hnoted.followupOwed.trans h.followup
  source := hnoted.sourceStatus ▸ h.source
  warning := hnoted.linkedExecutionWarning.trans h.warning

/-- What closes is settled, and its runbook is over. -/
theorem Guarded.closed (hguarded : Guarded env s r) {c c' : StoredCloseout}
    {reason : Option String} {q : TaskQueue} (hmoving : s.moving r = some (c, .closed, reason))
    (hrefusal : s.closeoutRefusal c .closed = none)
    (hafter : NotedCloseout (settleFollowup env r.now r.newTaskId r.actor .closed
      (c.entering env r.now .closed reason) q).2 c')
    (hflag : c'.flagObserved = c.flagObserved ∧ c'.flagEverSet = c.flagEverSet) :
    c'.Settled ∧ RunbookOver s c'.closeoutId := by
  obtain ⟨hover, hcleared, hsource, hwarning⟩ := closeoutRefusal_closed hrefusal
  obtain ⟨hsame, -⟩ := moved_same (.refl c) hafter
  have hwarnings := hguarded.closing c reason hmoving hrefusal
  refine ⟨⟨?_, ?_, ?_, ?_⟩, ?_⟩
  · rw [hflag.1, hflag.2]
    exact hcleared
  · rw [hafter.followupOwed]
    exact settleFollowup_terminal rfl
  · rw [hsame.sourceStatus]
    exact hsource
  · rw [hsame.linkedExecutionWarning]
    exact hwarning
  · rw [hsame.closeoutId]
    exact fun st hst => ⟨hover st hst, hwarnings st hst⟩

/-- A closeout that is opened is not closed, and takes no runbook over. -/
theorem Held.opened (h : Held s) {c : StoredCloseout} (hstate : c.state ≠ .closed)
    (hlink : c.linkedFollowupTaskId = none) : Held (s.openCloseout c) := by
  have hother : ∀ d ∈ s.closeouts.put c, d.state = .closed →
      d ∈ s.closeouts ∧ d.closeoutId ≠ c.closeoutId := by
    intro d hd hclosed
    rcases mem_put_closeout hd with rfl | hd
    · exact absurd hclosed hstate
    · exact hd
  constructor
  · exact h.workable
  · intro d hd taskId hlinked
    rcases mem_put_closeout hd with rfl | ⟨hd, -⟩
    · rw [hlink] at hlinked
      cases hlinked
    · exact h.followups d hd taskId hlinked
  · exact fun d hd hclosed => h.settled d (hother d hd hclosed).1 hclosed
  · intro d hd hclosed st hst
    obtain ⟨hmem, hid⟩ := hother d hd hclosed
    rw [mem_stepsFor] at hst
    have horder : st.stepId ∈ Function.update s.closeoutStepOrder c.closeoutId [] d.closeoutId :=
      hst.2
    rw [Function.update_of_ne hid] at horder
    exact h.runbooks d hmem hclosed st (mem_stepsFor.mpr ⟨hst.1, horder⟩)

/-- A step is added to a closeout that is not closed. -/
theorem Held.add (h : Held s) {c : StoredCloseout} {st : StoredStep} {q : TaskQueue}
    (hc : c ∈ s.closeouts) (hstate : c.state ≠ .closed) (hcloseout : st.closeoutId = c.closeoutId)
    (hnew : ¬s.ListedClosed st.stepId) (hworkable : Workable q) (hkeeps : s.tasks.KeepsOver q) :
    Held { s.addStep st with tasks := q } := by
  constructor
  · exact hworkable
  · exact fun d hd => (h.followups d hd).mono hkeeps
  · exact h.settled
  · intro d hd hclosed x hx
    have hid : d.closeoutId ≠ st.closeoutId := by
      intro heq
      have hsame : d = c := Table.eq_of_key_eq hd hc (heq.trans hcloseout)
      exact hstate (hsame ▸ hclosed)
    rw [mem_stepsFor] at hx
    have horder : x.stepId ∈ Function.update s.closeoutStepOrder st.closeoutId
      (s.closeoutStepOrder st.closeoutId ++ [st.stepId]) d.closeoutId := hx.2
    rw [Function.update_of_ne hid] at horder
    have hmem : x ∈ s.steps.put st := hx.1
    rcases Table.mem_put.mp hmem with ⟨hmem, -⟩ | rfl
    · exact h.runbooks d hd hclosed x (mem_stepsFor.mpr ⟨hmem, horder⟩)
    · exact absurd ⟨d, hd, hclosed, horder⟩ hnew

/-- The closeout of a new step goes into remediation, if it moves at all. -/
theorem Held.remediated (h : Held s) {c c₁ : StoredCloseout} {s₁ : CloseoutStore}
    (hc : c ∈ s.closeouts) (hremediated : Remediated env r s c (s₁, c₁)) : Held s₁ := by
  cases hremediated with
  | stayed => exact h
  | moved label hrefusal =>
    have hmoved : Held (s.moveCloseout c .inRemediation s.tasks
        (c.entering env r.now .inRemediation none)) :=
      h.of_closeout rfl rfl rfl h.workable (.refl _) ((h.followups c hc).congr rfl rfl) nofun
    exact ⟨hmoved.1, hmoved.2, hmoved.3, hmoved.4⟩

/-- The closeout of a new step is open after it has gone into remediation, and no runbook is listed
anew. -/
theorem remediated_open {c c₁ : StoredCloseout} {s₁ : CloseoutStore}
    (hremediated : Remediated env r s c (s₁, c₁)) (hc : c ∈ s.closeouts) (hopen : c.state ≠ .closed) :
    c₁ ∈ s₁.closeouts ∧ c₁.closeoutId = c.closeoutId ∧ c₁.state ≠ .closed ∧
      ∀ stepId, s₁.ListedClosed stepId → s.ListedClosed stepId := by
  cases hremediated with
  | stayed => exact ⟨hc, rfl, hopen, fun _ h => h⟩
  | moved label hrefusal =>
    refine ⟨Table.mem_put.mpr (.inr rfl), rfl, nofun, ?_⟩
    rintro stepId ⟨d, hd, hclosed, hlisted⟩
    rcases mem_put_closeout hd with rfl | ⟨hd, -⟩
    · cases hclosed
    · exact ⟨d, hd, hclosed, hlisted⟩

/-- Every guarded call keeps what carries the law. -/
theorem Held.step (h : Held s) (hfresh : Fresh s r) (hguarded : Guarded env s r) :
    Held (s.step env r) := by
  have hnew : s.tasks.standing r.newTaskId.text = none := TaskQueue.standing_eq_none.mpr hfresh
  have heffect := step_effect env s r
  generalize s.step env r = s' at heffect
  cases heffect with
  | unchanged => exact h
  | worked action target taskId payload htarget =>
    have hends : target.isTerminal = true ∨ .completed ∈ target.allowed ∧
        .dismissed ∈ target.allowed := by
      rcases htarget with rfl | rfl
      · exact .inr (by decide)
      · exact .inr (by decide)
    exact ⟨h.workable.applyTransition hends, fun c hc => (h.followups c hc).mono .applyTransition,
      h.settled, h.runbooks⟩
  | opened event label reason hcall htype hnone =>
    have hopened : Held (s.openCloseout (s.newCloseout env r event)) := h.opened nofun rfl
    exact ⟨hopened.1, hopened.2, hopened.3, hopened.4⟩
  | noted c c' label reason code hc hnoted hflag =>
    have hput : Held (s.putCloseout c') := by
      refine h.of_closeout rfl rfl rfl h.workable (.refl _)
        ((h.followups c hc).congr hnoted.linkedFollowupTaskId hnoted.followupOwed) fun hstate => ?_
      have hclosed : c.state = .closed := hnoted.state ▸ hstate
      refine ⟨hguarded.settled (h.settled c hc hclosed) hclosed hnoted hflag, ?_⟩
      rw [hnoted.closeoutId]
      exact h.runbooks c hc hclosed
    exact ⟨hput.1, hput.2, hput.3, hput.4⟩
  | moved c c₁ c' target reason label hc hnoted hmoving hclosed hrefusal hafter hflag =>
    have hentered : FollowupStands s.tasks (c₁.entering env r.now target reason) :=
      (h.followups c hc).congr hnoted.linkedFollowupTaskId hnoted.followupOwed
    have hstands : FollowupStands (settleFollowup env r.now r.newTaskId r.actor target
        (c₁.entering env r.now target reason) s.tasks).1 c' :=
      (hentered.settle h.workable).congr hafter.linkedFollowupTaskId hafter.followupOwed
    have hput : Held (s.moveCloseout c₁ target (settleFollowup env r.now r.newTaskId r.actor target
        (c₁.entering env r.now target reason) s.tasks).1 c') := by
      refine h.of_closeout rfl rfl rfl h.workable.settleFollowup (settleFollowup_keepsOver hnew)
        hstands fun hstate => ?_
      rw [(moved_same hnoted hafter).2] at hstate
      subst hstate
      exact hguarded.closed hmoving hrefusal hafter hflag
    exact ⟨hput.1, hput.2, hput.3, hput.4⟩
  | stepOpened event c c₁ s₁ label hcall htype hc hnone hremediated =>
    obtain ⟨hopen, hlisted⟩ := hguarded.owed event c hcall htype hc hnone
    have hmem := mem_of_addressed hc
    have hheld := h.remediated hmem hremediated
    have hid : (materializeStepTask env r.now r.newTaskId c.severity (s.newStep env r event c)
        s.tasks).2.stepId = idOr event.stepId r.newId := materializeStepTask_same.stepId
    have hcloseout : (materializeStepTask env r.now r.newTaskId c.severity
        (s.newStep env r event c) s.tasks).2.closeoutId = c.closeoutId :=
      materializeStepTask_same.closeoutId
    have hworkable : Workable (materializeStepTask env r.now r.newTaskId c.severity
        (s.newStep env r event c) s.tasks).1 := h.workable.upsert rfl
    have hkeeps : s₁.tasks.KeepsOver (materializeStepTask env r.now r.newTaskId c.severity
        (s.newStep env r event c) s.tasks).1 := by
      rw [hremediated.tasks]
      exact .upsert hnew
    obtain ⟨hmem₁, hid₁, hopen₁, hlisted₁⟩ := remediated_open hremediated hmem hopen
    have hadded := hheld.add hmem₁ hopen₁ (hcloseout.trans hid₁.symm)
      (fun hin => hlisted (hid ▸ hlisted₁ _ hin)) hworkable hkeeps
    exact ⟨hadded.1, hadded.2, hadded.3, hadded.4⟩
  | stepNoted st st' label evidence hst hnoted hwarning =>
    have hput : Held (s.putStep st') := by
      refine h.of_step rfl rfl rfl h.workable (.refl _) fun hlisted => ?_
      have hlisted' : s.ListedClosed st.stepId := hnoted.stepId ▸ hlisted
      obtain ⟨hover, hquiet⟩ := h.listed hst hlisted'
      refine ⟨hnoted.stepState ▸ hover, fun hwarns => ?_⟩
      rcases hwarning with hsame | ⟨target, evidence, reason, hmoving⟩
      · refine hquiet ⟨?_, ?_, ?_⟩
        · exact hnoted.stepKind ▸ hwarns.1
        · exact hnoted.stepState ▸ hwarns.2.1
        · exact hsame ▸ hwarns.2.2
      · exact hguarded.mirror st' target evidence reason hmoving hwarns hlisted
    exact ⟨hput.1, hput.2, hput.3, hput.4⟩
  | stepMoved st st₁ target evidence reason note label hst hnoted hmoving hrefusal =>
    have hactive : st.stepState.isTerminal = false := by
      have hopen := StoredStep.refusal_active hrefusal
      rw [StoredStep.isActive, hnoted.stepState] at hopen
      simpa using hopen
    have hsame : SameStep st (settleStepTask env r.now r.newTaskId r.actor target evidence
        (s.severityOf st.closeoutId) (st₁.entering env r.now target evidence reason) s.tasks).2 :=
      movedStep_same hnoted
    have hmoved : Held (s.moveStep st₁ target
        (settleStepTask env r.now r.newTaskId r.actor target evidence (s.severityOf st.closeoutId)
          (st₁.entering env r.now target evidence reason) s.tasks).1
        (settleStepTask env r.now r.newTaskId r.actor target evidence (s.severityOf st.closeoutId)
          (st₁.entering env r.now target evidence reason) s.tasks).2) := by
      refine h.of_step rfl rfl rfl h.workable.settleStepTask (settleStepTask_keepsOver hnew) ?_
      -- a step that moves is in no closed runbook
      intro hlisted
      rw [hsame.stepId] at hlisted
      have hover := (h.listed hst hlisted).1
      rw [hactive] at hover
      cases hover
    exact ⟨hmoved.1, hmoved.2, hmoved.3, hmoved.4⟩

/-- Detecting an incident is guarded. -/
theorem Guarded.of_detected {event : CloseoutIntakeEvent} (hcall : r.call = .ingest event)
    (htype : event.eventType = .incidentDetected) : Guarded env s r := by
  obtain ⟨now, actor, newId, newTaskId, call⟩ := r
  cases hcall
  have hother : ∀ other event', CloseoutCall.ingest event = .ingest event' →
      event'.eventType = other → other = .incidentDetected := by
    rintro other event' ⟨⟩ rfl
    exact htype
  refine ⟨fun c reason hmoving => ?_, fun event' c hevent hflag => ?_,
    fun event' c hevent howed => ?_, fun st target evidence reason hmoving => ?_⟩
  · rw [moving] at hmoving
    dsimp only at hmoving
    rw [htype] at hmoving
    cases hmoving
  · cases hother _ event' hevent hflag
  · cases hother _ event' hevent howed
  · rw [movingStep] at hmoving
    dsimp only at hmoving
    rw [htype] at hmoving
    cases hmoving

/-- Classifying an incident is guarded. -/
theorem Guarded.of_classified {event : CloseoutIntakeEvent} (hcall : r.call = .ingest event)
    (htype : event.eventType = .incidentClassified) : Guarded env s r := by
  obtain ⟨now, actor, newId, newTaskId, call⟩ := r
  cases hcall
  have hother : ∀ other event', CloseoutCall.ingest event = .ingest event' →
      event'.eventType = other → other = .incidentClassified := by
    rintro other event' ⟨⟩ rfl
    exact htype
  refine ⟨fun c reason hmoving => ?_, fun event' c hevent hflag => ?_,
    fun event' c hevent howed => ?_, fun st target evidence reason hmoving => ?_⟩
  · rw [moving] at hmoving
    dsimp only at hmoving
    rw [htype] at hmoving
    obtain ⟨_, -, heq⟩ := Option.map_eq_some_iff.mp hmoving
    cases heq
  · cases hother _ event' hevent hflag
  · cases hother _ event' hevent howed
  · rw [movingStep] at hmoving
    dsimp only at hmoving
    rw [htype] at hmoving
    cases hmoving

/-- An operator who moves a closeout is guarded while no step warns. -/
theorem Guarded.of_closeoutTransition {closeoutId : String} {target : CloseoutState}
    {reason : Option String} (hcall : r.call = .closeoutTransition closeoutId target reason)
    (h : ∀ st ∈ s.steps, ¬st.Warns) : Guarded env s r := by
  obtain ⟨now, actor, newId, newTaskId, call⟩ := r
  cases hcall
  refine ⟨fun _ _ _ _ st hst => h st (mem_stepsFor.mp hst).1, fun _ _ hingest => ?_,
    fun _ _ hingest => ?_, fun _ _ _ _ hmoving => ?_⟩
  · cases hingest
  · cases hingest
  · cases hmoving

end CloseoutStore

/-- After every run of guarded calls the closed closeouts are honestly closed, whatever has happened
since they closed. -/
theorem closed_honestly (env : Primitives) (requests : List CloseoutRequest)
    (hfresh : Along (CloseoutStore.step env) CloseoutStore.Fresh .empty requests)
    (hguarded : Along (CloseoutStore.step env) (CloseoutStore.Guarded env) .empty requests) :
    (requests.foldl (CloseoutStore.step env) .empty).Honest :=
  ((hfresh.and hguarded).foldl_induction (fun _ _ h hcall => h.step hcall.1 hcall.2)
    CloseoutStore.Held.empty).honest

/-! ## A closeout that closes over a warning -/

/-- A step of an action whose execution ended, with a warning. -/
def warnedStep : CloseoutIntakeEvent :=
  { plainEvent .runbookStepOwed (some "c1") "a" with
    stepId := some "s1"
    stepKind := some .actionPointer
    linkedExecutionTerminal := some true
    linkedExecutionWarning := some true }

/-- The step is done, and its closeout closes. -/
def warnedRun : List CloseoutRequest :=
  [⟨0, engineer, 1, 2, .ingest (plainEvent .incidentDetected (some "c1") "a")⟩,
    ⟨1, engineer, 3, 4, .ingest (plainEvent .incidentClassified (some "c1") "a")⟩,
    ⟨2, engineer, 5, 6, .ingest warnedStep⟩,
    ⟨3, engineer, 7, 8, .stepTransition "c1" "s1" .done none none⟩,
    ⟨4, engineer, 9, 10, .closeoutTransition "c1" .awaitingCloseout none⟩,
    ⟨5, engineer, 11, 12, .closeoutTransition "c1" .closed none⟩]

/-- The gate does not ask the steps. -/
theorem closed_honestly_broken_warnedRun :
    ¬(warnedRun.foldl (CloseoutStore.step plainPrimitives) .empty).Honest := by
  intro hhonest
  have hclosed : ∃ c ∈ (warnedRun.foldl (CloseoutStore.step plainPrimitives) .empty).closeouts.rows,
      c.state = .closed ∧ ∃ st ∈ (warnedRun.foldl (CloseoutStore.step plainPrimitives)
        .empty).stepsFor c.closeoutId, st.Warns := by
    decide +kernel
  obtain ⟨c, hc, hstate, st, hst, hwarns⟩ := hclosed
  exact (hhonest c hc hstate).warnings st hst hwarns

/-- A closeout that has no steps is triaged, and closes. -/
def closingRun : List CloseoutRequest :=
  [⟨0, engineer, 1, 2, .ingest (plainEvent .incidentDetected (some "c1") "a")⟩,
    ⟨1, engineer, 3, 4, .ingest (plainEvent .incidentClassified (some "c1") "a")⟩,
    ⟨2, engineer, 5, 6, .closeoutTransition "c1" .closed none⟩]

/-- A run that closes a closeout is guarded. -/
theorem closed_honestly_closingRun :
    (closingRun.foldl (CloseoutStore.step plainPrimitives) .empty).Honest ∧
      ∃ c ∈ (closingRun.foldl (CloseoutStore.step plainPrimitives) .empty).closeouts.rows,
        c.state = .closed := by
  refine ⟨closed_honestly plainPrimitives closingRun ⟨?_, ?_, ?_, trivial⟩ ⟨?_, ?_, ?_, trivial⟩,
    by decide +kernel⟩
  · show Table.find? _ _ = none
    decide +kernel
  · show Table.find? _ _ = none
    decide +kernel
  · show Table.find? _ _ = none
    decide +kernel
  · exact CloseoutStore.Guarded.of_detected rfl rfl
  · exact CloseoutStore.Guarded.of_classified rfl rfl
  · refine CloseoutStore.Guarded.of_closeoutTransition rfl fun st hst => ?_
    have hnone : ∀ x ∈ ((closingRun.take 2).foldl (CloseoutStore.step plainPrimitives)
        .empty).steps.rows, ¬x.Warns := by
      decide +kernel
    exact hnone st hst

end Incident

end Mpango
