import Mpango.Jobs.Accounting

/-!
# What a smooth run keeps

As long as every exception comes at a job's last attempt and every other update goes through, each
job has one place, the counters add up, and the puts that are not done are the jobs in the queue and
with the workers, so that a call of `stop()` that returns in time has left none of them. One step
that is not smooth breaks this at once.
-/

namespace Mpango.Jobs

open State

variable {s : State} {w j : ℕ} {old new : Phase} {f : Job → Job} {stats : Stats}

namespace Job

/-- The handler has not been called. -/
structure Fresh (job : Job) : Prop where
  runs : job.runs = 0
  successes : job.successes = 0

/-- What a worker has done to its job. -/
def Stage (job : Job) : Phase → Prop
  | .taken _ | .starting _ | .delaying _ => job.Fresh
  | _ => 1 ≤ job.runs

end Job

@[simp] theorem job_looping : Phase.looping.job = none := rfl

def Stats.Balanced (stats : Stats) : Prop :=
  stats.enqueued = stats.completed + stats.failed + stats.pending + stats.running

structure Tracked (s : State) : Prop where
  onePlace : ∀ j < s.accepted, places s j + (if (s.jobs j).done then 1 else 0) = 1
  final : ∀ j, (s.jobs j).late = 0
  balanced : s.stats.Balanced
  unfinished : s.unfinished = s.queue.length + busy Phase.job s.workers
  queued : ∀ j ∈ s.queue, (s.jobs j).Fresh
  workers : ∀ phase ∈ s.workers, ∀ j, phase.job = some j → (s.jobs j).Stage phase
  attempted : ∀ j, (s.jobs j).done → 1 ≤ (s.jobs j).runs

namespace Tracked

theorem initial (maxWorkers : ℕ) : Tracked (initial maxWorkers) where
  onePlace _ hj := absurd hj (Nat.not_lt_zero _)
  final _ := rfl
  balanced := rfl
  unfinished := rfl
  queued := nofun
  workers := nofun
  attempted _ := by simp [Jobs.initial, Job.done]

theorem accounted (ht : Tracked s) (hs : Sound s) : Accounted s where
  onePlace := ht.onePlace
  final j _ := ht.final j
  attempts j _ := by
    have hruns := (hs.bounded j).runs
    have := (hs.bounded j).attempts
    omega
  balanced := ht.balanced

/-- A job of a worker changes. -/
theorem forall_move {P : Job → Prop} (w : ℕ) (new : Phase) (h : ∀ i, P (s.jobs i))
    (hf : P (f (s.jobs j))) (i : ℕ) :
    P ((s.move w j f new).jobs i) := by
  rw [move_jobs]
  split
  · exact hf
  · exact h i

theorem queued_move (ht : Tracked s) (hs : Sound s) (hw : s.workers[w]? = some old)
    (hold : old.job = some j) (new : Phase) (i : ℕ) (hi : i ∈ s.queue) :
    ((s.move w j f new).jobs i).Fresh := by
  have hij : i ≠ j := by
    rintro rfl
    exact hs.not_mem_queue hw hold hi
  rw [move_jobs_ne hij]
  exact ht.queued i hi

/-- A worker moves on with its job. -/
theorem move (ht : Tracked s) (hs : Sound s) (hw : s.workers[w]? = some old)
    (hold : old.job = some j) (hnew : new.job = some j) (hstage : (f (s.jobs j)).Stage new)
    (hdone : ¬(f (s.jobs j)).done) (hlate : (f (s.jobs j)).late = 0) (hstats : stats.Balanced) :
    Tracked { s.move w j f new with stats := stats } where
  onePlace i hi := by
    have hplaces : places (s.move w j f new) i = places s i := by
      have := places_move (j := j) hw f new i
      rw [hold, hnew] at this
      omega
    have hsame : ((s.move w j f new).jobs i).done ↔ (s.jobs i).done := by
      by_cases hij : i = j
      · subst hij
        rw [move_jobs_self]
        exact iff_of_false hdone (hs.not_done (places_pos hw hold))
      · rw [move_jobs_ne hij]
    have := ht.onePlace i hi
    simp only [← hsame, ← hplaces] at this
    exact this
  final := forall_move (P := fun job => job.late = 0) w new ht.final hlate
  balanced := hstats
  unfinished := by
    have := busy_set Phase.job hw new
    simp only [hold, hnew, Option.isSome_some, if_true] at this
    have hbusy : busy Phase.job (s.workers.set w new) = busy Phase.job s.workers := by omega
    exact ht.unfinished.trans (congrArg (s.queue.length + ·) hbusy.symm)
  queued := ht.queued_move hs hw hold new
  workers := hs.workers_move (Q := fun phase job => job.Stage phase) ht.workers hw hold
    fun _ hi => ⟨Option.some.inj (hi.symm.trans hnew), hstage⟩
  attempted := forall_move (P := fun job => job.done → 1 ≤ job.runs) w new ht.attempted fun h => absurd h hdone

/-- A worker is done with its job. -/
theorem finish (ht : Tracked s) (hs : Sound s) (hw : s.workers[w]? = some old)
    (hold : old.job = some j) (hdone : (f (s.jobs j)).done) (hruns : 1 ≤ (f (s.jobs j)).runs)
    (hlate : (f (s.jobs j)).late = 0) (hstats : stats.Balanced) :
    Tracked { (s.move w j f .looping).taskDone with stats := stats } where
  onePlace i hi := by
    have hplaces := places_move (j := j) hw f .looping i
    simp only [hold, job_looping, reduceCtorEq, if_false, Option.some.injEq] at hplaces
    have hone := ht.onePlace i hi
    show places (s.move w j f .looping) i + (if ((s.move w j f .looping).jobs i).done then 1 else 0)
      = 1
    by_cases hij : i = j
    · subst hij
      rw [if_neg (hs.not_done (places_pos hw hold))] at hone
      rw [move_jobs_self, if_pos hdone]
      rw [if_pos rfl] at hplaces
      omega
    · rw [move_jobs_ne hij]
      rw [if_neg (Ne.symm hij)] at hplaces
      omega
  final := forall_move (P := fun job => job.late = 0) w .looping ht.final hlate
  balanced := hstats
  unfinished := by
    have := busy_set Phase.job hw .looping
    have hunfinished := ht.unfinished
    simp only [hold, job_looping, Option.isSome_some, Option.isSome_none, if_true,
      Bool.false_eq_true, if_false] at this
    show s.unfinished - 1 = s.queue.length + busy Phase.job (s.workers.set w .looping)
    omega
  queued := ht.queued_move hs hw hold .looping
  workers := hs.workers_move (Q := fun phase job => job.Stage phase) ht.workers hw hold nofun
  attempted := forall_move (P := fun job => job.done → 1 ≤ job.runs) w .looping ht.attempted fun _ => hruns

/-- A worker without a job changes. -/
theorem idle (ht : Tracked s) (hw : s.workers[w]? = some old) (hold : old.job = none)
    (hnew : new.job = none) : Tracked (s.setWorker w new) := by
  have hheld : ∀ i, held Phase.job (s.workers.set w new) i = held Phase.job s.workers i := by
    intro i
    have := held_set Phase.job hw new i
    simp only [hold, hnew, reduceCtorEq, if_false] at this
    exact this
  have hbusy : busy Phase.job (s.workers.set w new) = busy Phase.job s.workers := by
    have := busy_set Phase.job hw new
    simp only [hold, hnew, Option.isSome_none, Bool.false_eq_true, if_false] at this
    exact this
  refine ⟨fun i hi => ?_, ht.final, ht.balanced, ?_, ht.queued, fun phase hmem i hi => ?_,
    ht.attempted⟩
  · simp only [places, setWorker, hheld]
    exact ht.onePlace i hi
  · exact ht.unfinished.trans (congrArg (s.queue.length + ·) hbusy.symm)
  · rcases List.mem_or_eq_of_mem_set hmem with hother | rfl
    · exact ht.workers phase hother i hi
    · cases hnew.symm.trans hi

theorem take (ht : Tracked s) {queue : List ℕ} (hw : s.workers[w]? = some .getting)
    (hqueue : s.queue = j :: queue) :
    Tracked { s.setWorker w (.taken j) with queue := queue } := by
  have hplaces := places_take hw hqueue
  have hbusy : busy Phase.job (s.workers.set w (.taken j)) = busy Phase.job s.workers + 1 :=
    busy_set Phase.job hw (.taken j)
  have hunfinished := ht.unfinished
  refine ⟨fun i hi => ?_, ht.final, ht.balanced, ?_, fun i hi => ?_, fun phase hmem i hi => ?_,
    ht.attempted⟩
  · rw [hplaces]
    exact ht.onePlace i hi
  · show s.unfinished = queue.length + busy Phase.job (s.workers.set w (.taken j))
    rw [hqueue, List.length_cons] at hunfinished
    omega
  · exact ht.queued i (hqueue ▸ List.mem_cons_of_mem j hi)
  · rcases List.mem_or_eq_of_mem_set hmem with hother | rfl
    · exact ht.workers phase hother i hi
    · obtain rfl := Option.some.inj hi
      exact ht.queued j (hqueue ▸ List.mem_cons_self)

theorem enqueue (ht : Tracked s) (hs : Sound s) (jobName : String) (delaySeconds maxRetries : ℤ) :
    Tracked (s.enqueue jobName delaySeconds maxRetries) := by
  have hsame : ∀ i, i ≠ s.accepted →
      (s.enqueue jobName delaySeconds maxRetries).jobs i = s.jobs i := by
    intro i hi
    simp [State.enqueue, putQueue, setJob, hi]
  have hnew : (s.enqueue jobName delaySeconds maxRetries).jobs s.accepted =
      { jobName, delaySeconds, maxRetries } := by
    simp [State.enqueue, putQueue, setJob]
  refine ⟨fun i hi => ?_, fun i => ?_, ?_, ?_, fun i hi => ?_, fun phase hmem i hi => ?_,
    fun i => ?_⟩
  · rw [places_enqueue]
    by_cases hij : i = s.accepted
    · subst hij
      rw [hnew, hs.known _ le_rfl, if_pos rfl, if_neg (by simp [Job.done])]
    · have hlt : i < s.accepted := by
        have : i < s.accepted + 1 := hi
        omega
      rw [hsame i hij, if_neg (Ne.symm hij)]
      exact ht.onePlace i hlt
  · by_cases hij : i = s.accepted
    · subst hij
      rw [hnew]
    · rw [hsame i hij]
      exact ht.final i
  · have := ht.balanced
    simp only [Stats.Balanced, State.enqueue] at this ⊢
    omega
  · have := ht.unfinished
    simp only [State.enqueue, putQueue, setJob, List.length_append, List.length_singleton]
    omega
  · rcases List.mem_append.mp hi with hold | hlast
    · rw [hsame i (Nat.ne_of_lt (hs.lt_accepted (places_pos_of_mem hold)))]
      exact ht.queued i hold
    · obtain rfl := List.mem_singleton.mp hlast
      have hfresh : ((s.enqueue jobName delaySeconds maxRetries).jobs s.accepted).Fresh := by
        rw [hnew]
        exact ⟨rfl, rfl⟩
      exact hfresh
  · obtain ⟨v, hv⟩ := List.mem_iff_getElem?.mp hmem
    rw [hsame i (Nat.ne_of_lt (hs.lt_accepted (places_pos hv hi)))]
    exact ht.workers phase hmem i hi
  · by_cases hij : i = s.accepted
    · subst hij
      rw [hnew]
      simp [Job.done]
    · rw [hsame i hij]
      exact ht.attempted i

/-! ### The parts of `_execute_job` -/

theorem stage (ht : Tracked s) (hw : s.workers[w]? = some old) (hold : old.job = some j) :
    (s.jobs j).Stage old :=
  ht.workers old (List.mem_of_getElem? hw) j hold

theorem call_late (ht : Tracked s) (h : (s.jobs j).Fresh) : ((s.jobs j).call).late = 0 := by
  simp [Job.call, ht.final j, h.successes]

theorem begin (ht : Tracked s) (hs : Sound s) (hw : s.workers[w]? = some (.taken j)) :
    Tracked (s.begin w j) := by
  have hfresh : (s.jobs j).Fresh := ht.stage hw rfl
  refine ht.move (f := Job.begin) hs hw rfl rfl ⟨hfresh.runs, hfresh.successes⟩
    (hs.not_done (places_pos hw rfl)) (ht.final j) ?_
  have := ht.balanced
  simp only [Stats.Balanced] at this ⊢
  omega

theorem started (ht : Tracked s) (hs : Sound s) (hw : s.workers[w]? = some (.starting j)) :
    Tracked (s.started w j) := by
  have hfresh : (s.jobs j).Fresh := ht.stage hw rfl
  have hrunning : ¬(s.jobs j).attempt.done := by
    simp [Job.attempt, Job.done]
  simp only [State.started]
  split
  · exact ht.move (f := Job.attempt) hs hw rfl rfl ⟨hfresh.runs, hfresh.successes⟩ hrunning
      (ht.final j) ht.balanced
  · rw [callHandler_setJob]
    exact ht.move (f := fun job => job.attempt.call) hs hw rfl rfl (Nat.le_add_left 1 _) hrunning
      (ht.call_late hfresh) ht.balanced

theorem called (ht : Tracked s) (hs : Sound s) (hw : s.workers[w]? = some (.delaying j)) :
    Tracked (s.callHandler w j) :=
  ht.move (f := Job.call) hs hw rfl rfl (Nat.le_add_left 1 _) (hs.not_done (places_pos hw rfl))
    (ht.call_late (ht.stage hw rfl)) ht.balanced

theorem handled (ht : Tracked s) (hs : Sound s)
    (hold : old = .handling j ∨ old = .completing j) (hw : s.workers[w]? = some old)
    (hnew : new = .completing j ∧ f = Job.returned ∨ new = .failing j ∧ f = Job.raised) :
    Tracked (s.move w j f new) := by
  have hjob : old.job = some j := by rcases hold with rfl | rfl <;> rfl
  have hnot := hs.not_done (places_pos hw hjob)
  have hstage : 1 ≤ (s.jobs j).runs := by
    rcases hold with rfl | rfl <;> exact ht.stage hw hjob
  rcases hnew with ⟨rfl, rfl⟩ | ⟨rfl, rfl⟩ <;>
    exact ht.move hs hw hjob rfl hstage hnot (ht.final j) ht.balanced

theorem complete (ht : Tracked s) (hs : Sound s) (hw : s.workers[w]? = some (.completing j)) :
    Tracked (s.complete w j) := by
  refine ht.finish (f := Job.complete) hs hw rfl (.inl rfl) (ht.stage hw rfl) (ht.final j) ?_
  have := ht.balanced
  simp only [Stats.Balanced] at this ⊢
  omega

theorem giveUp (ht : Tracked s) (hs : Sound s) (hw : s.workers[w]? = some (.failing j)) :
    Tracked (s.giveUp w j) := by
  refine ht.finish (f := Job.giveUp) hs hw rfl (.inr rfl) (ht.stage hw rfl) (ht.final j) ?_
  have := ht.balanced
  simp only [Stats.Balanced] at this ⊢
  omega

theorem advance (ht : Tracked s) (hs : Sound s) {ok : Bool} (h : Smooth s (.advance w ok)) :
    Tracked (s.advance w ok) := by
  unfold State.advance
  simp only [Smooth] at h
  split
  next hw => exact ht.idle hw rfl (by split <;> rfl)
  next hw =>
    split
    · exact ht
    next hqueue => exact ht.take hw hqueue
  next hw => exact ht.idle hw rfl rfl
  next hw =>
    split
    · exact ht.begin hs hw
    · exact ht
  next hw => exact ht.started hs hw
  next hw =>
    rw [hw] at h
    cases h
  next hw => exact ht.called hs hw
  next hw => exact ht.handled hs (.inl rfl) hw (.inl ⟨rfl, rfl⟩)
  next hw => exact ht.handled hs (.inl rfl) hw (.inr ⟨rfl, rfl⟩)
  next hw => exact ht.complete hs hw
  next hw => exact ht.handled hs (.inr rfl) hw (.inr ⟨rfl, rfl⟩)
  next hw =>
    rw [hw] at h
    rw [if_neg (by rw [h.2]; nofun)]
    exact ht.giveUp hs hw
  next hw =>
    rw [hw] at h
    cases h.1
  · exact ht
  · exact ht

/-! ### The end of `stop` -/

/-- When nothing is left undone, the queue is empty and no worker has a job. -/
theorem idle_of_unfinished (ht : Tracked s) (h : s.unfinished = 0) (j : ℕ) :
    places s j = 0 := by
  have hunfinished := ht.unfinished
  rw [h] at hunfinished
  have hqueue : s.queue = [] := List.eq_nil_of_length_eq_zero (by omega)
  have hbusy : busy Phase.job s.workers = 0 := by omega
  have hheld : held Phase.job s.workers j = 0 := held_eq_zero (busy_eq_zero.mp hbusy)
  simp [places, hqueue, hheld]

theorem drained (ht : Tracked s) {e : Event} (h : Smooth s e) : Drained s e := by
  intro hstops j hj
  cases e with
  | joined =>
    have hone := ht.onePlace j hj
    rw [ht.idle_of_unfinished hstops.2 j] at hone
    refine ht.attempted j ?_
    by_contra hnot
    rw [if_neg hnot] at hone
    cases hone
  | joinTimeout => exact absurd hstops h
  | _ => exact hstops.elim

theorem cancel (ht : Tracked s) (h : s.unfinished = 0) : Tracked s.cancel := by
  have hempty := ht.idle_of_unfinished h
  have hunfinished := ht.unfinished
  refine ⟨fun i hi => ?_, ht.final, ht.balanced, ?_, ht.queued, nofun, ht.attempted⟩
  · have hone := ht.onePlace i hi
    have hcount : s.queue.count i = 0 := by
      have := hempty i
      unfold places at this
      omega
    rw [hempty i] at hone
    simp only [places, State.cancel, held, hcount, List.countP_nil]
    exact hone
  · show s.unfinished = s.queue.length + busy Phase.job []
    have hnil : busy Phase.job [] = 0 := rfl
    omega

theorem start (ht : Tracked s) : Tracked s.start := by
  unfold State.start
  split
  · exact ht
  have hnone : ∀ phase ∈ List.replicate s.maxWorkers Phase.looping, phase.job = none := by
    intro phase hmem
    rw [List.eq_of_mem_replicate hmem]
    rfl
  refine ⟨fun i hi => ?_, ht.final, ht.balanced, ?_, ht.queued, fun phase hmem i hi => ?_,
    ht.attempted⟩
  · simp only [places, held_append, held_eq_zero hnone, Nat.add_zero]
    exact ht.onePlace i hi
  · have hbusy : busy Phase.job (List.replicate s.maxWorkers Phase.looping) = 0 :=
      busy_eq_zero.mpr hnone
    simp only [busy_append, hbusy]
    exact ht.unfinished
  · rcases List.mem_append.mp hmem with hold | hnew
    · exact ht.workers phase hold i hi
    · cases (hnone phase hnew).symm.trans hi

theorem step (ht : Tracked s) (hs : Sound s) (registered : String → Bool) {e : Event}
    (h : Smooth s e) : Tracked (step registered s e) := by
  cases e with
  | enqueue jobName delaySeconds maxRetries =>
    simp only [Jobs.step]
    split
    · exact ht.enqueue hs jobName delaySeconds maxRetries
    · exact ht
  | advance w ok => exact ht.advance hs h
  | start => exact ht.start
  | stop =>
    simp only [Jobs.step, State.stop]
    split
    · exact ⟨ht.onePlace, ht.final, ht.balanced, ht.unfinished, ht.queued, ht.workers,
        ht.attempted⟩
    · exact ht
  | joined =>
    simp only [Jobs.step]
    split
    next hstops => exact ht.cancel hstops.2
    next => exact ht
  | joinTimeout =>
    simp only [Jobs.step]
    rw [if_neg h]
    exact ht

end Tracked

/-! ## A step that is not smooth -/

/-- A job whose worker drops it has no place. -/
theorem not_accounted_of_dropped (ht : Tracked s) (hs : Sound s)
    (hw : s.workers[w]? = some old) (hold : old.job = some j) (hlaw : Accounted (s.abandon w)) :
    False := by
  have hlt := hs.lt_accepted (places_pos hw hold)
  have hone := ht.onePlace j hlt
  have hplaces := places_move (j := j) hw id .looping j
  have hafter := hlaw.onePlace j hlt
  rw [abandon_eq_move w j, move_jobs_self] at hafter
  simp only [hold, job_looping, reduceCtorEq, if_false, if_true] at hplaces
  simp only [id_eq] at hafter
  omega

/-- A job that is tried again is counted twice. -/
theorem not_balanced_of_retry (ht : Tracked s) (hlaw : Accounted (s.retry w j)) : False := by
  have hbefore := ht.balanced
  have hafter := hlaw.balanced
  simp only [Stats.Balanced, State.retry] at hbefore hafter
  omega

/-- A call of `stop()` that runs out of its time leaves a job of the queue that was not attempted, or
one that a worker had. -/
theorem not_stopped (ht : Tracked s) (hs : Sound s) (hstops : Event.joinTimeout.stops s)
    (hlaw : Accounted s.cancel) (hdrained : Drained s .joinTimeout) : False := by
  have hattempted := hdrained hstops
  have hpos : 0 < s.queue.length + busy Phase.job s.workers := ht.unfinished ▸ hstops.2
  rcases Nat.eq_zero_or_pos s.queue.length with hqueue | hqueue
  · have hbusy : busy Phase.job s.workers ≠ 0 := by omega
    rw [Ne, busy_eq_zero] at hbusy
    push Not at hbusy
    obtain ⟨phase, hmem, hjob⟩ := hbusy
    obtain ⟨j, hj⟩ := Option.ne_none_iff_exists'.mp hjob
    obtain ⟨v, hv⟩ := List.mem_iff_getElem?.mp hmem
    have hplaces := places_pos hv hj
    have hone := hlaw.onePlace j (hs.lt_accepted hplaces)
    have hnot : ¬(s.cancel.jobs j).done := hs.not_done hplaces
    rw [if_neg hnot] at hone
    simp [places, cancel, held, List.eq_nil_of_length_eq_zero hqueue] at hone
  · obtain ⟨j, hj⟩ := List.exists_mem_of_length_pos hqueue
    have hruns := hattempted j (hs.lt_accepted (places_pos_of_mem hj))
    rw [(ht.queued j hj).runs] at hruns
    cases hruns

theorem smooth_of_accounted (ht : Tracked s) (hs : Sound s) (registered : String → Bool) {e : Event}
    (hlaw : Accounted (step registered s e)) (hdrained : Drained s e) : Smooth s e := by
  cases e with
  | advance w ok =>
    simp only [step, advance] at hlaw
    simp only [Smooth]
    split
    next hw =>
      cases ok with
      | true => rfl
      | false =>
        rw [hw] at hlaw
        exact (not_accounted_of_dropped ht hs hw rfl hlaw).elim
    next j hw =>
      rw [hw] at hlaw
      cases ok with
      | false => exact (not_accounted_of_dropped ht hs hw rfl hlaw).elim
      | true =>
        refine ⟨rfl, Bool.not_eq_true _ ▸ fun hretry => ?_⟩
        simp only [hretry, if_true] at hlaw
        exact not_balanced_of_retry ht hlaw
    next => trivial
  | joinTimeout =>
    intro hstops
    simp only [step, if_pos hstops] at hlaw
    exact not_stopped ht hs hstops hlaw hdrained
  | _ => trivial

/-- In every run, each job is pending or running, completed or failed for good, is called as often as
it may be and never after its handler has returned, the counters add up and `stop()` leaves no job
that was not attempted, exactly if every update to running and after an exception goes through,
every exception comes at the last attempt, and no call of `stop()` runs out of its time. -/
theorem jobs_accounted (registered : String → Bool) (maxWorkers : ℕ) (events : List Event) :
    Along (step registered) (fun s e => Accounted (step registered s e) ∧ Drained s e)
        (initial maxWorkers) events ↔
      Along (step registered) Smooth (initial maxWorkers) events := by
  refine Along.congr (I := fun s => Sound s ∧ Tracked s) ?_ ?_
    ⟨Sound.initial maxWorkers, Tracked.initial maxWorkers⟩
  · rintro s e ⟨hs, ht⟩ ⟨hlaw, hdrained⟩
    exact ⟨hs.step registered e,
      ht.step hs registered (smooth_of_accounted ht hs registered hlaw hdrained)⟩
  · rintro s e ⟨hs, ht⟩
    constructor
    · rintro ⟨hlaw, hdrained⟩
      exact smooth_of_accounted ht hs registered hlaw hdrained
    · intro hsmooth
      exact ⟨(ht.step hs registered hsmooth).accounted (hs.step registered e), ht.drained hsmooth⟩

/-! ### A handler that has returned is called again -/

/-- The one worker runs a job; the handler returns, the row cannot be completed, and the job is put
into the queue once more. -/
def completedTwice : List Event :=
  [.start, .enqueue "export" 0 3] ++
    ([true, true, true, true, true, false, true, true, true, true, true].map (.advance 0))

theorem jobs_accounted_broken_completedTwice :
    ¬Along (step fun _ => true)
      (fun s e => Accounted (step (fun _ => true) s e) ∧ Drained s e) (initial 1)
      completedTwice := by
  intro hlaw
  have hlast := (along_iff_forall.mp hlaw (completedTwice.take 12) (.advance 0 true) [] rfl).1
  exact absurd (hlast.final 0 (by decide)) (by decide)

end Mpango.Jobs
