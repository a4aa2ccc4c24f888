import Mpango.Model.OperatorSources
import Mpango.Operations.Queue

/-!
# Approvals and their follow-ups

What a pass over the approvals does to the tasks: a task that was there keeps its type, its state and
its approval, and its gate is opened again when an event is absorbed by it; the other tasks are those
of the events that nothing absorbed. Nothing closes a gate, and nothing is read beyond the newest
hundred approvals, so the pass does what it is for on the queues and stores of `WithinReach` alone.
-/

namespace Mpango

namespace Operator

open Workflow (StoredApproval)

variable {env : Primitives} {now : Instant} {q : TaskQueue} {event : IntakeEvent}
  {newId notificationId : Uuid} {a : StoredApproval} {approvals : List StoredApproval}

/-! ## Mirrors -/

/-- What a task says about an approval. -/
structure Mirror where
  taskType : TaskType
  state : TaskState
  linkedApprovalId : Option String
  linkedGateOpen : Bool

def StoredTask.mirror (t : StoredTask) : Mirror :=
  ⟨t.taskType, t.state, t.linkedApprovalId, t.linkedGateOpen⟩

/-- The mirror of the task an event becomes. -/
def IntakeEvent.mirror (event : IntakeEvent) : Mirror :=
  ⟨event.taskType, .open, event.linkedApprovalId, event.linkedGateOpen⟩

namespace TaskQueue

def mirror (q : TaskQueue) (taskId : String) : Option Mirror :=
  (q.tasks.find? taskId).map (·.mirror)

theorem mirror_of_mem {t : StoredTask} (h : t ∈ q.tasks) : q.mirror t.taskId = some t.mirror := by
  have hfind : q.tasks.find? t.taskId = some t := Table.find?_key h
  rw [mirror, hfind, Option.map_some]

theorem mirror_eq_some {taskId : String} {m : Mirror} :
    q.mirror taskId = some m ↔ ∃ t ∈ q.tasks, t.taskId = taskId ∧ t.mirror = m := by
  rw [mirror, Option.map_eq_some_iff]
  constructor
  · rintro ⟨t, hfind, hm⟩
    obtain ⟨ht, hkey⟩ := Table.find?_eq_some.mp hfind
    exact ⟨t, ht, hkey, hm⟩
  · rintro ⟨t, ht, rfl, hm⟩
    exact ⟨t, Table.find?_key ht, hm⟩

theorem mirror_put {t : StoredTask} {q' : TaskQueue} (h : q'.tasks = q.tasks.put t) :
    q'.mirror = Function.update q.mirror t.taskId (some t.mirror) := by
  funext id
  unfold mirror
  rw [h]
  by_cases hid : id = t.taskId
  · subst hid
    have hself : (q.tasks.put t).find? t.taskId = some t := Table.find?_put_self (r := t)
    rw [Function.update_self, hself, Option.map_some]
  · have hother : (q.tasks.put t).find? id = q.tasks.find? id := Table.find?_put_of_ne (r := t) hid
    rw [Function.update_of_ne hid, hother]

@[simp] theorem rerank_mirror {correlationId : String} {tenantId : Option String} :
    (q.rerankCorrelation now correlationId tenantId).mirror = q.mirror := by
  funext id
  unfold mirror
  rw [find?_rerank, Option.map_map]
  congr 1
  funext t
  obtain ⟨_, _, h⟩ := reranked_frame q now correlationId tenantId t
  rw [Function.comp, h]
  rfl

@[simp] theorem notifyFor_mirror {task : StoredTask} :
    (q.notifyFor env now newId event task).mirror = q.mirror := by
  funext id
  unfold mirror
  rw [notifyFor_tasks]

/-! ## What takes an event -/

/-- The id of the task that absorbs an event. -/
def absorber (env : Primitives) (q : TaskQueue) (event : IntakeEvent) : Option String :=
  (q.absorbing env event).map (·.taskId)

theorem absorber_eq_some {taskId : String} : q.absorber env event = some taskId ↔
    q.activeDedup (event.dedupKeyDigest env) = some taskId ∧ ∃ m, q.mirror taskId = some m := by
  rw [absorber, Option.map_eq_some_iff]
  constructor
  · rintro ⟨t, habsorbs, rfl⟩
    obtain ⟨hindex, ht⟩ := absorbing_eq_some.mp habsorbs
    exact ⟨hindex, _, mirror_of_mem ht⟩
  · rintro ⟨hindex, m, hm⟩
    obtain ⟨t, ht, rfl, -⟩ := mirror_eq_some.mp hm
    exact ⟨t, absorbing_eq_some.mpr ⟨hindex, ht⟩, rfl⟩

theorem absorber_eq_none : q.absorber env event = none ↔ q.absorbing env event = none :=
  Option.map_eq_none_iff

theorem absorber_congr {event' : IntakeEvent}
    (h : event'.dedupKeyDigest env = event.dedupKeyDigest env) :
    q.absorber env event' = q.absorber env event := by
  unfold absorber absorbing
  rw [h]

@[simp] theorem emitAudit_mirror {actor : Actor} {task : StoredTask} {transition : String}
    {previous next : TaskState} {reason : Option String} {code : Option TransitionDenialCode} :
    (q.emitAudit env now actor task transition previous next reason code).mirror = q.mirror := rfl

theorem entered_mirror (q : TaskQueue) (task : StoredTask) :
    (q.entered task).mirror = Function.update q.mirror task.taskId (some task.mirror) :=
  mirror_put rfl

theorem newTask_mirror : (q.newTask env now newId event).mirror = event.mirror := rfl

theorem materialize_mirror : (q.materialize env now newId event).mirror =
    Function.update q.mirror newId.text (some event.mirror) := by
  rw [materialize_eq, rerank_mirror, emitAudit_mirror, entered_mirror, newTask_taskId,
    newTask_mirror]

theorem replay_mirror {t : StoredTask} : (q.replay env now event t).mirror =
    Function.update q.mirror t.taskId
      (some { t.mirror with linkedGateOpen := event.linkedGateOpen }) := by
  unfold replay
  rw [rerank_mirror]
  exact mirror_put (t := t.replayed env now _ event) rfl

/-- An event that is absorbed opens the gate of the task, or closes it, as it says. -/
theorem upsert_mirror_absorbed {taskId : String} {m : Mirror}
    (habsorbs : q.absorber env event = some taskId) (hm : q.mirror taskId = some m) :
    (q.upsertTaskFromEvent env now newId notificationId event).1.mirror =
      Function.update q.mirror taskId (some { m with linkedGateOpen := event.linkedGateOpen }) := by
  obtain ⟨t, habsorbing, rfl⟩ := Option.map_eq_some_iff.mp habsorbs
  have ht := (absorbing_eq_some.mp habsorbing).2
  obtain rfl := Option.some.inj ((mirror_of_mem ht).symm.trans hm)
  unfold upsertTaskFromEvent
  rw [habsorbing]
  simp only [notifyFor_mirror, replay_mirror]

/-- An event that is not absorbed becomes a task. -/
theorem upsert_mirror_new (habsorbs : q.absorber env event = none) :
    (q.upsertTaskFromEvent env now newId notificationId event).1.mirror =
      Function.update q.mirror newId.text (some event.mirror) := by
  unfold upsertTaskFromEvent
  rw [absorber_eq_none.mp habsorbs]
  simp only [notifyFor_mirror, materialize_mirror]

theorem upsert_created :
    (q.upsertTaskFromEvent env now newId notificationId event).2.created =
      (q.absorber env event).isNone := by
  unfold upsertTaskFromEvent absorber
  cases q.absorbing env event <;> rfl

/-- The id occurs nowhere in the queue. -/
structure NewTo (q : TaskQueue) (taskId : String) : Prop where
  task : q.mirror taskId = none
  index : ∀ digest, q.activeDedup digest ≠ some taskId

/-- What absorbs an event absorbs it still after an event that is absorbed. -/
theorem upsert_absorber_absorbed {taskId : String} (habsorbs : q.absorber env event = some taskId)
    (event' : IntakeEvent) :
    (q.upsertTaskFromEvent env now newId notificationId event).1.absorber env event' =
      q.absorber env event' := by
  obtain ⟨-, m, hm⟩ := absorber_eq_some.mp habsorbs
  obtain ⟨t, habsorbing, -⟩ := Option.map_eq_some_iff.mp habsorbs
  ext id
  rw [absorber_eq_some, absorber_eq_some, upsert_mirror_absorbed habsorbs hm, upsert_activeDedup,
    habsorbing]
  refine and_congr_right fun _ => ?_
  by_cases hid : id = taskId
  · subst hid
    rw [Function.update_self]
    exact iff_of_true ⟨_, rfl⟩ ⟨m, hm⟩
  · rw [Function.update_of_ne hid]

/-- After an event has become a task, the task absorbs the events with its digest. -/
theorem upsert_absorber_new (habsorbs : q.absorber env event = none) (hnew : q.NewTo newId.text)
    (event' : IntakeEvent) :
    (q.upsertTaskFromEvent env now newId notificationId event).1.absorber env event' =
      if event'.dedupKeyDigest env = event.dedupKeyDigest env then some newId.text
      else q.absorber env event' := by
  ext id
  rw [absorber_eq_some, upsert_mirror_new habsorbs, upsert_activeDedup,
    absorber_eq_none.mp habsorbs]
  by_cases hdigest : event'.dedupKeyDigest env = event.dedupKeyDigest env
  · rw [if_pos hdigest, hdigest]
    simp only [Function.update_self, Option.some.injEq]
    constructor
    · exact fun h => h.1
    · rintro rfl
      exact ⟨rfl, event.mirror, Function.update_self ..⟩
  · rw [if_neg hdigest, absorber_eq_some]
    simp only [Function.update_of_ne hdigest]
    refine and_congr_right fun hindex => ?_
    have hid : id ≠ newId.text := by
      rintro rfl
      exact hnew.index _ hindex
    rw [Function.update_of_ne hid]

theorem upsert_newTo {taskId : String} (h : q.NewTo taskId) (hne : taskId ≠ newId.text) :
    (q.upsertTaskFromEvent env now newId notificationId event).1.NewTo taskId := by
  cases habsorbs : q.absorber env event with
  | some id =>
    obtain ⟨-, m, hm⟩ := absorber_eq_some.mp habsorbs
    obtain ⟨t, habsorbing, -⟩ := Option.map_eq_some_iff.mp habsorbs
    have hid : taskId ≠ id := by
      rintro rfl
      cases h.task.symm.trans hm
    constructor
    · rw [upsert_mirror_absorbed habsorbs hm, Function.update_of_ne hid]
      exact h.task
    · intro digest
      rw [upsert_activeDedup, habsorbing]
      exact h.index digest
  | none =>
    constructor
    · rw [upsert_mirror_new habsorbs, Function.update_of_ne hne]
      exact h.task
    · intro digest
      rw [upsert_activeDedup, absorber_eq_none.mp habsorbs]
      by_cases hdigest : digest = event.dedupKeyDigest env
      · subst hdigest
        simp only [Function.update_self]
        exact fun heq => hne (Option.some.inj heq).symm
      · simp only [Function.update_of_ne hdigest]
        exact h.index digest

end TaskQueue

open TaskQueue

/-! ## The event of an approval -/

theorem approvalEvent_eq_some (h : approvalEvent now a = some event) :
    a.state = .pendingReview ∧ event.linkedGateOpen = true ∧
      event.linkedApprovalId = (if a.approvalId = "" then none else some a.approvalId) ∧
      (a.expiresAt ≤ now → event.taskType = .approvalDecisionRequired) := by
  unfold approvalEvent at h
  split at h
  · cases h
  next hstate =>
    obtain rfl := Option.some.inj h
    refine ⟨not_not.mp hstate, rfl, rfl, fun hdue => ?_⟩
    simp [hdue]

theorem approvalEvent_of_pending (h : a.state = .pendingReview) :
    ∃ event, approvalEvent now a = some event := by
  simp [approvalEvent, h]

/-- The event does not depend on the time but for the expiry. -/
theorem approvalEvent_later {later : Instant} (h : a.expiresAt ≤ later ↔ a.expiresAt ≤ now) :
    approvalEvent later a = approvalEvent now a := by
  simp [approvalEvent, h]

/-! ## The pass -/

section Pass
variable {newIds : ℕ → Uuid} {n count : ℕ} {s : TaskQueue × Counts} {taskId : String} {m : Mirror}

/-- What absorbs the event of an approval. -/
def taker (env : Primitives) (now : Instant) (q : TaskQueue) (a : StoredApproval) : Option String :=
  (approvalEvent now a).bind (q.absorber env)

theorem followUp_none (h : approvalEvent now a = none) :
    (followUp env now newId a s).1 = s.1 := by
  simp [followUp, h]

theorem followUp_some (h : approvalEvent now a = some event) : (followUp env now newId a s).1 =
    (s.1.upsertTaskFromEvent env now newId newId event).1 := by
  simp [followUp, h]

/-- The ids that are still to be used are new, and distinct. -/
structure Unused (newIds : ℕ → Uuid) (n count : ℕ) (q : TaskQueue) : Prop where
  new : ∀ k, n ≤ k → k < n + count → q.NewTo (newIds k).text
  distinct : ∀ j k, n ≤ j → j < k → k < n + count → newIds j ≠ newIds k

theorem Unused.head (h : Unused newIds n (count + 1) q) : q.NewTo (newIds n).text :=
  h.new n le_rfl (Nat.lt_add_of_pos_right (Nat.succ_pos count))

theorem Unused.followUp (h : Unused newIds n (count + 1) s.1) :
    Unused newIds (n + 1) count (followUp env now (newIds n) a s).1 := by
  constructor
  · intro k hk hlast
    have hold := h.new k (Nat.le_of_succ_le hk) (by omega)
    cases hevent : approvalEvent now a with
    | none =>
      rw [followUp_none hevent]
      exact hold
    | some event =>
      rw [followUp_some hevent]
      refine upsert_newTo hold fun heq => ?_
      exact h.distinct n k le_rfl hk (by omega) (Uuid.text_inj.mp heq).symm
  · intro j k hj hjk hlast
    exact h.distinct j k (Nat.le_of_succ_le hj) hjk (by omega)

/-- What absorbs the event of an approval after another was followed up: a task that was there
before absorbs what it did. -/
theorem taker_followUp (h : Unused newIds n (count + 1) s.1) (b : StoredApproval) (hm : s.1.mirror taskId = some m) :
    taker env now (followUp env now (newIds n) a s).1 b = some taskId ↔
      taker env now s.1 b = some taskId := by
  have hne : taskId ≠ (newIds n).text := by
    rintro rfl
    cases h.head.task.symm.trans hm
  cases hevent : approvalEvent now a with
  | none => rw [followUp_none hevent]
  | some event =>
    rw [followUp_some hevent]
    unfold taker
    cases hb : approvalEvent now b with
    | none => rfl
    | some event' =>
      simp only [Option.bind_some]
      cases habsorbs : s.1.absorber env event with
      | some id => rw [upsert_absorber_absorbed habsorbs]
      | none =>
        rw [upsert_absorber_new habsorbs h.head]
        split
        next hdigest =>
          rw [absorber_congr hdigest, habsorbs]
          exact iff_of_false (fun h => hne (Option.some.inj h).symm) nofun
        next => rfl

theorem followUp_mirror (h : Unused newIds n (count + 1) s.1) (hm : s.1.mirror taskId = some m) :
    (followUp env now (newIds n) a s).1.mirror taskId = some { m with
      linkedGateOpen := m.linkedGateOpen || decide (taker env now s.1 a = some taskId) } := by
  have hne : taskId ≠ (newIds n).text := by
    rintro rfl
    cases h.head.task.symm.trans hm
  cases hevent : approvalEvent now a with
  | none =>
    rw [followUp_none hevent, hm]
    simp [taker, hevent]
  | some event =>
    obtain ⟨-, hgate, -⟩ := approvalEvent_eq_some hevent
    rw [followUp_some hevent]
    cases habsorbs : s.1.absorber env event with
    | none =>
      rw [upsert_mirror_new habsorbs, Function.update_of_ne hne, hm]
      simp [taker, hevent, habsorbs]
    | some id =>
      obtain ⟨-, m', hm'⟩ := absorber_eq_some.mp habsorbs
      rw [upsert_mirror_absorbed habsorbs hm']
      by_cases hid : taskId = id
      · subst hid
        obtain rfl := Option.some.inj (hm.symm.trans hm')
        simp [taker, hevent, habsorbs, hgate]
      · rw [Function.update_of_ne hid, hm]
        simp [taker, hevent, habsorbs, Ne.symm hid]

/-- A task that was there before the pass: its gate is opened if it absorbs an event. -/
theorem followUps_mirror (h : Unused newIds n approvals.length s.1)
    (hm : s.1.mirror taskId = some m) :
    (followUps env now newIds n approvals s).1.mirror taskId = some { m with
      linkedGateOpen := m.linkedGateOpen ||
        approvals.any fun b => decide (taker env now s.1 b = some taskId) } := by
  induction approvals generalizing n s m with
  | nil => simp [followUps, hm]
  | cons a approvals ih =>
    have hfirst : (followUp env now (newIds n) a s).1.mirror taskId = some { m with
        linkedGateOpen := m.linkedGateOpen || decide (taker env now s.1 a = some taskId) } :=
      followUp_mirror h hm
    rw [followUps, ih h.followUp hfirst]
    simp only [taker_followUp h _ hm, List.any_cons, Bool.or_assoc]

/-- The event of the approval is the first among the records with its digest, and is not absorbed. -/
def Enters (env : Primitives) (now : Instant) (q : TaskQueue) (approvals : List StoredApproval)
    (a : StoredApproval) (event : IntakeEvent) : Prop :=
  ∃ before after, approvals = before ++ a :: after ∧ approvalEvent now a = some event ∧
    q.absorber env event = none ∧ ∀ b ∈ before, ∀ event', approvalEvent now b = some event' →
      event'.dedupKeyDigest env ≠ event.dedupKeyDigest env

theorem Enters.cons {b : StoredApproval} (h : Enters env now q approvals a event)
    (hb : ∀ event', approvalEvent now b = some event' →
      event'.dedupKeyDigest env ≠ event.dedupKeyDigest env) :
    Enters env now q (b :: approvals) a event := by
  obtain ⟨before, after, rfl, hevent, hnone, hfirst⟩ := h
  refine ⟨b :: before, after, rfl, hevent, hnone, fun c hc event' hevent' => ?_⟩
  rcases List.mem_cons.mp hc with rfl | hc
  · exact hb event' hevent'
  · exact hfirst c hc event' hevent'

/-- An event that is not absorbed after a record was not absorbed before, and has another digest. -/
theorem absorber_followUp_none (h : Unused newIds n (count + 1) s.1) :
    (followUp env now (newIds n) a s).1.absorber env event = none ↔
      s.1.absorber env event = none ∧ ∀ event', approvalEvent now a = some event' →
        event'.dedupKeyDigest env ≠ event.dedupKeyDigest env := by
  cases hevent : approvalEvent now a with
  | none =>
    rw [followUp_none hevent]
    exact (and_iff_left fun _ hsame => absurd hsame (Option.some_ne_none _).symm).symm
  | some event' =>
    rw [followUp_some hevent]
    cases habsorbs : s.1.absorber env event' with
    | some id =>
      rw [upsert_absorber_absorbed habsorbs]
      refine (and_iff_left_of_imp fun hnone _ hsame hdigest => ?_).symm
      obtain rfl := Option.some.inj hsame
      rw [absorber_congr hdigest, hnone] at habsorbs
      cases habsorbs
    | none =>
      rw [upsert_absorber_new habsorbs h.head]
      split
      next hdigest =>
        refine iff_of_false (Option.some_ne_none _) fun hand => ?_
        exact hand.2 event' rfl hdigest.symm
      next hdigest =>
        refine (and_iff_left_of_imp fun _ _ hsame hsame' => ?_).symm
        obtain rfl := Option.some.inj hsame
        exact hdigest hsame'.symm

/-- A task that is new after the pass is that of an event that was not absorbed. -/
theorem followUps_new (h : Unused newIds n approvals.length s.1)
    (hnone : s.1.mirror taskId = none)
    (hm : (followUps env now newIds n approvals s).1.mirror taskId = some m) :
    ∃ a event, Enters env now s.1 approvals a event ∧ m = event.mirror := by
  induction approvals generalizing n s with
  | nil => cases hnone.symm.trans hm
  | cons b approvals ih =>
    have hunused : Unused newIds (n + 1) approvals.length (followUp env now (newIds n) b s).1 := h.followUp
    cases hfirst : (followUp env now (newIds n) b s).1.mirror taskId with
    | none =>
      obtain ⟨a, event, ⟨before, after, happrovals, hevent, habsorbs, hbefore⟩, hmirror⟩ :=
        ih hunused hfirst hm
      obtain ⟨hold, hdigest⟩ := (absorber_followUp_none h).mp habsorbs
      have henters : Enters env now s.1 approvals a event :=
        ⟨before, after, happrovals, hevent, hold, hbefore⟩
      exact ⟨a, event, henters.cons hdigest, hmirror⟩
    | some m' =>
      cases hevent : approvalEvent now b with
      | none =>
        rw [followUp_none hevent] at hfirst
        cases hnone.symm.trans hfirst
      | some event =>
        have hlater := hfirst
        rw [followUp_some hevent] at hfirst
        cases habsorbs : s.1.absorber env event with
        | some id =>
          obtain ⟨-, m'', hm''⟩ := absorber_eq_some.mp habsorbs
          have hid : taskId ≠ id := by
            rintro rfl
            cases hnone.symm.trans hm''
          rw [upsert_mirror_absorbed habsorbs hm'', Function.update_of_ne hid] at hfirst
          cases hnone.symm.trans hfirst
        | none =>
          rw [upsert_mirror_new habsorbs] at hfirst
          have hid : taskId = (newIds n).text := by
            by_contra hne
            rw [Function.update_of_ne hne] at hfirst
            cases hnone.symm.trans hfirst
          subst hid
          rw [Function.update_self] at hfirst
          obtain rfl := Option.some.inj hfirst
          refine ⟨b, event, ⟨[], approvals, rfl, hevent, habsorbs, fun _ hc => absurd hc List.not_mem_nil⟩, ?_⟩
          rw [followUps, followUps_mirror hunused hlater] at hm
          obtain rfl := Option.some.inj hm
          simp [IntakeEvent.mirror, (approvalEvent_eq_some hevent).2.1]

/-- An event that enters is a task after the pass. -/
theorem followUps_enters (h : Unused newIds n approvals.length s.1)
    (henters : Enters env now s.1 approvals a event) :
    ∃ taskId, (followUps env now newIds n approvals s).1.mirror taskId = some event.mirror := by
  obtain ⟨before, after, rfl, hevent, hnone, hfirst⟩ := henters
  induction before generalizing n s with
  | nil =>
    have hself : (followUp env now (newIds n) a s).1.mirror (newIds n).text = some event.mirror := by
      rw [followUp_some hevent, upsert_mirror_new hnone, Function.update_self]
    refine ⟨(newIds n).text, ?_⟩
    rw [List.nil_append, followUps, followUps_mirror h.followUp hself]
    simp [IntakeEvent.mirror, (approvalEvent_eq_some hevent).2.1]
  | cons b before ih =>
    rw [List.cons_append, followUps]
    refine ih h.followUp ?_ fun c hc => hfirst c (List.mem_cons_of_mem b hc)
    exact (absorber_followUp_none h).mpr ⟨hnone, hfirst b List.mem_cons_self⟩

/-! ### A second pass -/

/-- What is absorbed stays absorbed. -/
theorem absorber_isSome_followUp (h : Unused newIds n (count + 1) s.1)
    (hsome : (s.1.absorber env event).isSome) :
    ((followUp env now (newIds n) a s).1.absorber env event).isSome := by
  rw [Option.isSome_iff_ne_none] at hsome ⊢
  exact fun hnone => hsome ((absorber_followUp_none h).mp hnone).1

theorem absorber_isSome_followUps (h : Unused newIds n approvals.length s.1)
    (hsome : (s.1.absorber env event).isSome) :
    ((followUps env now newIds n approvals s).1.absorber env event).isSome := by
  induction approvals generalizing n s with
  | nil => exact hsome
  | cons b approvals ih => exact ih h.followUp (absorber_isSome_followUp h hsome)

/-- After the pass every event of it is absorbed. -/
theorem absorbed_followUps (h : Unused newIds n approvals.length s.1)
    (hmem : a ∈ approvals) (hevent : approvalEvent now a = some event) :
    ((followUps env now newIds n approvals s).1.absorber env event).isSome := by
  induction approvals generalizing n s with
  | nil => cases hmem
  | cons b approvals ih =>
    have hunused : Unused newIds (n + 1) approvals.length (followUp env now (newIds n) b s).1 := h.followUp
    rw [followUps]
    rcases List.mem_cons.mp hmem with rfl | hmem
    · refine absorber_isSome_followUps hunused ?_
      rw [Option.isSome_iff_ne_none]
      intro hnone
      exact ((absorber_followUp_none h).mp hnone).2 event hevent rfl
    · exact ih hunused hmem

/-- A pass over records whose events are all absorbed creates nothing. -/
theorem created_followUps (h : ∀ a ∈ approvals, ∀ event, approvalEvent now a = some event →
    (s.1.absorber env event).isSome) :
    (followUps env now newIds n approvals s).2.created = s.2.created := by
  induction approvals generalizing n s with
  | nil => rfl
  | cons b approvals ih =>
    have hkept : ∀ event', (s.1.absorber env event').isSome →
        ((followUp env now (newIds n) b s).1.absorber env event').isSome := by
      intro event' hsome
      cases hevent : approvalEvent now b with
      | none =>
        rw [followUp_none hevent]
        exact hsome
      | some event =>
        obtain ⟨id, habsorbs⟩ := Option.isSome_iff_exists.mp (h b List.mem_cons_self event hevent)
        rw [followUp_some hevent, upsert_absorber_absorbed habsorbs]
        exact hsome
    have hfirst : (followUp env now (newIds n) b s).2.created = s.2.created := by
      cases hevent : approvalEvent now b with
      | none => simp [followUp, hevent]
      | some event =>
        obtain ⟨id, habsorbs⟩ := Option.isSome_iff_exists.mp (h b List.mem_cons_self event hevent)
        simp [followUp, hevent, upsert_created, habsorbs]
    rw [followUps, ih fun a ha event hevent =>
      hkept event (h a (List.mem_cons_of_mem b ha) event hevent)]
    exact hfirst

end Pass

/-! ## The law -/

theorem mem_listApprovals {limit offset : ℤ} {store : Workflow.Store}
    (h : a ∈ Workflow.listApprovals limit offset store) : a ∈ store := by
  have hsorted := List.mem_of_mem_drop (List.mem_of_mem_take h)
  exact List.mem_mergeSort.mp hsorted

/-- A mirror tells whether an approval has its task. -/
def Mirror.Covers (m : Mirror) (now : Instant) (a : StoredApproval) : Prop :=
  m.state.isTerminal = false ∧ m.linkedApprovalId = some a.approvalId ∧
    (a.expiresAt ≤ now → m.taskType = .approvalDecisionRequired)

theorem hasTask_iff : HasTask now q a ↔ ∃ taskId m, q.mirror taskId = some m ∧ m.Covers now a := by
  constructor
  · rintro ⟨t, ht, hactive, hlinked, htype⟩
    exact ⟨t.taskId, t.mirror, mirror_of_mem ht, StoredTask.isActive_iff.mp hactive, hlinked, htype⟩
  · rintro ⟨taskId, m, hm, hactive, hlinked, htype⟩
    obtain ⟨t, ht, -, rfl⟩ := mirror_eq_some.mp hm
    exact ⟨t, ht, StoredTask.isActive_iff.mpr hactive, hlinked, htype⟩

theorem becomesTask_iff {store : Workflow.Store} : BecomesTask env now store q a ↔
    a.approvalId ≠ "" ∧
      ∃ event, Enters env now q (Workflow.listApprovals 100 0 store) a event := by
  unfold BecomesTask Enters
  refine and_congr_right fun _ => ⟨?_, ?_⟩
  · rintro ⟨before, after, event, happrovals, hevent, hnone, hfirst⟩
    exact ⟨event, before, after, happrovals, hevent, absorber_eq_none.mpr hnone, hfirst⟩
  · rintro ⟨event, before, after, happrovals, hevent, hnone, hfirst⟩
    exact ⟨before, after, event, happrovals, hevent, absorber_eq_none.mp hnone, hfirst⟩

/-- The event of an approval in a list of the store, with its approval. -/
theorem Enters.approval {store : Workflow.Store} {b : StoredApproval}
    (h : Enters env now q (Workflow.listApprovals 100 0 store) b event)
    (ha : a ∈ store) (hlinked : event.mirror.linkedApprovalId = some a.approvalId) :
    b = a ∧ a.approvalId ≠ "" := by
  obtain ⟨before, after, happrovals, hevent, -⟩ := h
  have hb : b ∈ store := mem_listApprovals (happrovals ▸ List.mem_append_cons_self)
  have hid : (if b.approvalId = "" then none else some b.approvalId) = some a.approvalId :=
    (approvalEvent_eq_some hevent).2.2.1.symm.trans hlinked
  split at hid
  · cases hid
  next hne =>
    have hkey : b.approvalId = a.approvalId := Option.some.inj hid
    exact ⟨Table.eq_of_key_eq hb ha hkey, hkey ▸ hne⟩

/-- A pass does what it is for exactly on the stores and queues within its reach. -/
theorem approvals_followed_up (env : Primitives) (now : Instant) (newIds : ℕ → Uuid)
    (store : Workflow.Store) (q : TaskQueue)
    (hunused : Unused newIds 0 (Workflow.listApprovals 100 0 store).length q) :
    FollowedUp env now store (materializeApprovals env now newIds store q).1 ↔
      WithinReach env now store q := by
  have hkept : ∀ {taskId m}, q.mirror taskId = some m →
      (materializeApprovals env now newIds store q).1.mirror taskId = some { m with
        linkedGateOpen := m.linkedGateOpen || (Workflow.listApprovals 100 0 store).any
          fun b => decide (taker env now q b = some taskId) } :=
    fun hm => followUps_mirror hunused hm
  constructor
  · intro hlaw
    constructor
    · intro a ha hpending
      obtain ⟨taskId, m, hm, hcovers⟩ := hasTask_iff.mp (hlaw.complete a ha hpending)
      cases hold : q.mirror taskId with
      | some m' =>
        obtain rfl := Option.some.inj ((hkept hold).symm.trans hm)
        exact .inl (hasTask_iff.mpr ⟨taskId, m', hold, hcovers⟩)
      | none =>
        obtain ⟨b, event, henters, rfl⟩ := followUps_new hunused hold hm
        obtain ⟨rfl, hne⟩ := henters.approval ha hcovers.2.1
        exact .inr (becomesTask_iff.mpr ⟨hne, event, henters⟩)
    · intro a ha hdecided t ht hactive hlinked
      obtain ⟨t', ht', -, hmirror⟩ := mirror_eq_some.mp (hkept (mirror_of_mem ht))
      simp only [StoredTask.mirror, Mirror.mk.injEq] at hmirror
      obtain ⟨-, hstate, hlinked', hgate⟩ := hmirror
      have hactive' : t'.isActive = true := by
        rw [StoredTask.isActive_iff, hstate]
        exact StoredTask.isActive_iff.mp hactive
      have hclosed := hlaw.unblocked a ha hdecided t' ht' hactive' (hlinked'.trans hlinked)
      rw [hgate, Bool.or_eq_false_iff, List.any_eq_false] at hclosed
      refine ⟨hclosed.1, fun b hb event hevent habsorbs => hclosed.2 b hb ?_⟩
      simp [taker, hevent, absorber, habsorbs]
  · intro hreach
    constructor
    · intro a ha hpending
      rw [hasTask_iff]
      rcases hreach.pending a ha hpending with hhas | hbecomes
      · obtain ⟨taskId, m, hm, hcovers⟩ := hasTask_iff.mp hhas
        exact ⟨taskId, _, hkept hm, hcovers⟩
      · obtain ⟨hne, event, henters⟩ := becomesTask_iff.mp hbecomes
        have hentered : ∃ taskId, (materializeApprovals env now newIds store q).1.mirror taskId =
            some event.mirror := followUps_enters hunused henters
        obtain ⟨taskId, hm⟩ := hentered
        obtain ⟨before, after, -, hevent, -⟩ := henters
        obtain ⟨-, -, hlinked, htype⟩ := approvalEvent_eq_some hevent
        exact ⟨taskId, event.mirror, hm, rfl, hlinked.trans (if_neg hne), htype⟩
    · intro later newIds' hsame
      refine created_followUps fun a ha event hevent => ?_
      rw [approvalEvent_later (hsame a (mem_listApprovals ha))] at hevent
      exact absorbed_followUps hunused ha hevent
    · intro a ha hdecided t ht hactive hlinked
      cases hold : q.mirror t.taskId with
      | some m =>
        have hmirror := Option.some.inj ((mirror_of_mem ht).symm.trans (hkept hold))
        obtain ⟨t', ht', hid, rfl⟩ := mirror_eq_some.mp hold
        simp only [StoredTask.mirror, Mirror.mk.injEq] at hmirror
        obtain ⟨-, hstate, hlinked', hgate⟩ := hmirror
        have hactive' : t'.isActive = true := by
          rw [StoredTask.isActive_iff, ← hstate]
          exact StoredTask.isActive_iff.mp hactive
        obtain ⟨hclosed, htakes⟩ :=
          hreach.decided a ha hdecided t' ht' hactive' (hlinked'.symm.trans hlinked)
        rw [hgate, hclosed, Bool.false_or, List.any_eq_false]
        intro b hb
        simp only [decide_eq_true_eq, taker, Option.bind_eq_some_iff, absorber,
          Option.map_eq_some_iff]
        rintro ⟨event, hevent, x, habsorbs, hx⟩
        have hsame : x = t' :=
          Table.eq_of_key_eq (absorbing_eq_some.mp habsorbs).2 ht' (hx.trans hid.symm)
        exact htakes b hb event hevent (hsame ▸ habsorbs)
      | none =>
        obtain ⟨b, event, henters, hmirror⟩ := followUps_new hunused hold (mirror_of_mem ht)
        have hlinked' : event.mirror.linkedApprovalId = some a.approvalId := by
          rw [← hmirror]
          exact hlinked
        obtain ⟨rfl, -⟩ := henters.approval ha hlinked'
        obtain ⟨before, after, -, hevent, -⟩ := henters
        rw [(approvalEvent_eq_some hevent).1] at hdecided
        cases hdecided

/-! ### A task that stays blocked -/

def openApproval : StoredApproval where
  approvalId := "a1"
  actionId := none
  tenantId := some "t1"
  actionType := "backup_check"
  state := .pendingReview
  requestedBy := some "maker"
  requestedAt := 0
  reviewedBy := none
  reviewedAt := none
  decision := none
  reason := "check"
  expiresAt := 100
  idempotencyKey := "k1"
  sourceStatus := .available
  previousState := none
  correlationId := none
  createdAt := 0
  updatedAt := 0
  createKey := "k1"
  createFingerprint := "f1"
  decisionKey := none

def rejectedApproval : StoredApproval :=
  { openApproval with
    state := .rejected
    reviewedBy := some "checker"
    reviewedAt := some 1
    decision := some .reject
    previousState := some .pendingReview
    updatedAt := 1
    decisionKey := some "k2" }

/-- A store with one approval. -/
def singleStore (a : StoredApproval) : Workflow.Store := ⟨[a], List.nodup_singleton _⟩

theorem listApprovals_singleStore (a : StoredApproval) :
    Workflow.listApprovals 100 0 (singleStore a) = [a] := by
  simp [Workflow.listApprovals, singleStore]

theorem unused_empty : Unused (fun _ => 1) 0 1 .empty where
  new _ _ _ := ⟨rfl, fun _ => nofun⟩
  distinct j k _ hjk hlast := by omega

theorem approvals_followed_up_openApproval :
    FollowedUp plainPrimitives 0 (singleStore openApproval)
        (materializeApprovals plainPrimitives 0 (fun _ => 1) (singleStore openApproval) .empty).1 ↔
      WithinReach plainPrimitives 0 (singleStore openApproval) .empty :=
  approvals_followed_up plainPrimitives 0 (fun _ => 1) (singleStore openApproval) .empty
    (by rw [listApprovals_singleStore]; exact unused_empty)

/-- The queue after a pass over the open approval. -/
def openedQueue : TaskQueue :=
  (materializeApprovals plainPrimitives 0 (fun _ => 1) (singleStore openApproval) .empty).1

/-- The approval is rejected, and a later pass leaves its task with an open gate. -/
theorem approvals_followed_up_broken_rejectedApproval :
    ¬FollowedUp plainPrimitives 1 (singleStore rejectedApproval)
      (materializeApprovals plainPrimitives 1 (fun _ => 2) (singleStore rejectedApproval)
        openedQueue).1 := by
  intro hlaw
  have hsame : (materializeApprovals plainPrimitives 1 (fun _ => 2) (singleStore rejectedApproval)
      openedQueue).1 = openedQueue := by
    unfold materializeApprovals
    rw [listApprovals_singleStore]
    rfl
  rw [hsame] at hlaw
  obtain ⟨event, hevent⟩ : ∃ event, approvalEvent 0 openApproval = some event :=
    approvalEvent_of_pending rfl
  have hentered : ∃ taskId, openedQueue.mirror taskId = some event.mirror := by
    unfold openedQueue materializeApprovals
    rw [listApprovals_singleStore]
    exact followUps_enters unused_empty ⟨[], [], rfl, hevent, rfl, fun _ hc => nomatch hc⟩
  obtain ⟨taskId, hm⟩ := hentered
  obtain ⟨t, ht, -, hmirror⟩ := mirror_eq_some.mp hm
  obtain ⟨-, hgate, hlinked, -⟩ := approvalEvent_eq_some hevent
  simp only [StoredTask.mirror, IntakeEvent.mirror, Mirror.mk.injEq] at hmirror
  obtain ⟨-, hstate, hlinked', hgate'⟩ := hmirror
  have hactive : t.isActive = true := by
    rw [StoredTask.isActive_iff, hstate]
    rfl
  have hclosed := hlaw.unblocked rejectedApproval List.mem_cons_self rfl t ht hactive
    (hlinked'.trans hlinked)
  rw [hgate', hgate] at hclosed
  cases hclosed

end Operator

end Mpango
