import Mathlib.Data.List.Count
import Mathlib.Order.Basic
import Mathlib.Order.Nat
import Mpango.Library.Run
import Mpango.Model.JobQueue

/-!
# Every job is accounted for

A job is in the queue or with one worker until its row is completed or failed, and it is attempted
as often as it may be, in every run. The rest holds as long as no exception sends a job down a path
that forgets it or counts it twice.
-/

namespace Mpango.Jobs

open State

variable {s : State} {w j : ℕ} {old new : Phase} {f : Job → Job}

/-! ## A worker moves on with its job -/

namespace State

/-- What all parts of `_execute_job` do: the job changes, and the worker moves on. -/
def move (s : State) (w j : ℕ) (f : Job → Job) (new : Phase) : State :=
  (s.setJob j f).setWorker w new

theorem move_jobs (i : ℕ) : (s.move w j f new).jobs i = if i = j then f (s.jobs j) else s.jobs i := by
  simp [move, setWorker, setJob, Function.update_apply]

@[simp] theorem move_jobs_self : (s.move w j f new).jobs j = f (s.jobs j) := by
  rw [move_jobs, if_pos rfl]

theorem move_jobs_ne {i : ℕ} (h : i ≠ j) : (s.move w j f new).jobs i = s.jobs i := by
  rw [move_jobs, if_neg h]

theorem callHandler_setJob : (s.setJob j f).callHandler w j =
    s.move w j (fun job => (f job).call) (.handling j) := by
  simp [callHandler, move, setJob]

theorem abandon_eq_move (w j : ℕ) : s.abandon w = s.move w j id .looping := by
  simp [abandon, move, setJob]

@[simp] theorem move_workers : (s.move w j f new).workers = s.workers.set w new := rfl

@[simp] theorem move_queue : (s.move w j f new).queue = s.queue := rfl

@[simp] theorem move_accepted : (s.move w j f new).accepted = s.accepted := rfl

end State

theorem places_move (hw : s.workers[w]? = some old) (f : Job → Job) (new : Phase) (i : ℕ) :
    places (s.move w j f new) i + (if old.job = some i then 1 else 0) =
      places s i + if new.job = some i then 1 else 0 := by
  have := held_set Phase.job hw new i
  simp only [places, move_workers, move_queue]
  omega

/-- The job of a worker is in its place only. -/
theorem places_pos (hw : s.workers[w]? = some old) (hold : old.job = some j) : 0 < places s j := by
  have := held_pos (List.mem_of_getElem? hw) hold
  unfold places
  omega

theorem places_pos_of_mem (h : j ∈ s.queue) : 0 < places s j := by
  have : 0 < s.queue.count j := List.count_pos_iff.mpr h
  unfold places
  omega

theorem places_enqueue (jobName : String) (delaySeconds maxRetries : ℤ) (i : ℕ) :
    places (s.enqueue jobName delaySeconds maxRetries) i =
      places s i + if s.accepted = i then 1 else 0 := by
  simp only [places, State.enqueue, putQueue, setJob, List.count_append, List.count_singleton,
    beq_iff_eq]
  omega

theorem places_take {queue : List ℕ} (hw : s.workers[w]? = some .getting)
    (hqueue : s.queue = j :: queue) (i : ℕ) :
    places { s.setWorker w (.taken j) with queue := queue } i = places s i := by
  have := held_set Phase.job hw (.taken j) i
  simp only [Phase.job, reduceCtorEq, if_false, Option.some.injEq] at this
  simp only [places, setWorker, hqueue, List.count_cons, beq_iff_eq]
  omega

/-! ## The invariant of every run -/

namespace Job

/-- One more attempt is allowed. -/
def CanRun (job : Job) : Prop := (job.attempts : ℤ) < max 1 job.maxRetries

/-- What holds of the job of a worker. -/
def Fits (job : Job) : Phase → Prop
  | .taken _ | .starting _ => job.CanRun
  | .delaying _ => job.runs < job.attempts
  | _ => True

/-- The calls of the handler are attempts, and these are bounded. -/
structure Bounded (job : Job) : Prop where
  runs : job.runs ≤ job.attempts
  attempts : (job.attempts : ℤ) ≤ max 1 job.maxRetries

end Job

structure Sound (s : State) : Prop where
  known : ∀ j, s.accepted ≤ j → places s j = 0
  once : ∀ j, places s j + (if (s.jobs j).done then 1 else 0) ≤ 1
  queued : ∀ j ∈ s.queue, (s.jobs j).CanRun
  workers : ∀ phase ∈ s.workers, ∀ j, phase.job = some j → (s.jobs j).Fits phase
  bounded : ∀ j, (s.jobs j).Bounded

namespace Sound

theorem not_done (hs : Sound s) (h : 0 < places s j) : ¬(s.jobs j).done := by
  intro hdone
  have := hs.once j
  rw [if_pos hdone] at this
  omega

theorem lt_accepted (hs : Sound s) (h : 0 < places s j) : j < s.accepted := by
  by_contra hge
  have := hs.known j (Nat.not_lt.mp hge)
  omega

theorem places_eq_one (hs : Sound s) (h : 0 < places s j) : places s j = 1 := by
  have := hs.once j
  rw [if_neg (hs.not_done h)] at this
  omega

theorem not_mem_queue (hs : Sound s) (hw : s.workers[w]? = some old) (hold : old.job = some j) :
    j ∉ s.queue := by
  intro hmem
  have hqueue : 0 < s.queue.count j := List.count_pos_iff.mpr hmem
  have hheld := held_pos (List.mem_of_getElem? hw) hold
  have := hs.places_eq_one (places_pos hw hold)
  unfold places at this
  omega

theorem held_le_one (hs : Sound s) : held Phase.job s.workers j ≤ 1 := by
  have := hs.once j
  unfold places at this
  omega

/-- What holds of the jobs of the workers is kept if it holds of the one that moves on. -/
theorem workers_move {Q : Phase → Job → Prop} (hs : Sound s)
    (h : ∀ phase ∈ s.workers, ∀ i, phase.job = some i → Q phase (s.jobs i))
    (hw : s.workers[w]? = some old) (hold : old.job = some j)
    (hnew : ∀ i, new.job = some i → i = j ∧ Q new (f (s.jobs j))) :
    ∀ phase ∈ (s.move w j f new).workers, ∀ i, phase.job = some i →
      Q phase ((s.move w j f new).jobs i) := by
  intro phase hmem i hi
  rcases mem_set_of_held hw hold hs.held_le_one hmem with rfl | ⟨hother, hne⟩
  · obtain ⟨rfl, hQ⟩ := hnew i hi
    rw [move_jobs_self]
    exact hQ
  · have hij : i ≠ j := by
      rintro rfl
      exact hne hi
    rw [move_jobs_ne hij]
    exact h phase hother i hi

/-- A worker moves on with its job, or gives it back. -/
theorem move (hs : Sound s) (hw : s.workers[w]? = some old) (hold : old.job = some j)
    (hnew : new.job = some j ∧ (f (s.jobs j)).Fits new ∧ ((f (s.jobs j)).done → (s.jobs j).done) ∨
      new.job = none)
    (hbounded : (f (s.jobs j)).Bounded) : Sound (s.move w j f new) where
  known i hi := by
    have hplaces := places_move (j := j) hw f new i
    have hij : i ≠ j := by
      rintro rfl
      exact absurd (hs.lt_accepted (places_pos hw hold)) (Nat.not_lt.mpr hi)
    have hnewi : new.job ≠ some i := by
      rcases hnew with ⟨hjob, -⟩ | hjob
      · rw [hjob]
        exact fun h => hij (Option.some.inj h).symm
      · rw [hjob]
        nofun
    have := hs.known i hi
    rw [if_neg hnewi] at hplaces
    omega
  once i := by
    have hplaces := places_move (j := j) hw f new i
    have honce := hs.once i
    by_cases hij : i = j
    · subst hij
      rw [move_jobs_self]
      rw [if_pos hold] at hplaces
      rcases hnew with ⟨hjob, -, hdone⟩ | hjob
      · have hnot := hs.not_done (places_pos hw hold)
        rw [if_neg fun h => hnot (hdone h)]
        rw [if_pos hjob] at hplaces
        omega
      · rw [hjob, if_neg (nofun : ¬none = some i)] at hplaces
        split <;> omega
    · rw [move_jobs_ne hij]
      have hnewi : new.job ≠ some i := by
        rcases hnew with ⟨hjob, -⟩ | hjob
        · rw [hjob]
          exact fun h => hij (Option.some.inj h).symm
        · rw [hjob]
          nofun
      rw [if_neg hnewi] at hplaces
      omega
  queued i hi := by
    have hij : i ≠ j := by
      rintro rfl
      exact hs.not_mem_queue hw hold hi
    rw [move_jobs_ne hij]
    exact hs.queued i hi
  workers := hs.workers_move (Q := fun phase job => job.Fits phase) hs.workers hw hold (by
    intro i hi
    rcases hnew with ⟨hjob, hfits, -⟩ | hjob
    · exact ⟨Option.some.inj (hi.symm.trans hjob), hfits⟩
    · cases hjob.symm.trans hi)
  bounded i := by
    by_cases hij : i = j
    · subst hij
      rw [move_jobs_self]
      exact hbounded
    · rw [move_jobs_ne hij]
      exact hs.bounded i

/-- The counters, and the puts that are not done, are not read. -/
theorem congr (hs : Sound s) {s' : State} (hjobs : s'.jobs = s.jobs)
    (haccepted : s'.accepted = s.accepted) (hqueue : s'.queue = s.queue)
    (hworkers : s'.workers = s.workers) : Sound s' := by
  obtain ⟨_, _, _, _, _, _, _, _, _⟩ := s'
  subst hjobs haccepted hqueue hworkers
  exact ⟨hs.known, hs.once, hs.queued, hs.workers, hs.bounded⟩

/-- A worker without a job changes. -/
theorem idle (hs : Sound s) (hw : s.workers[w]? = some old) (hold : old.job = none)
    (hnew : new.job = none) : Sound (s.setWorker w new) := by
  have hplaces : ∀ i, places (s.setWorker w new) i = places s i := by
    intro i
    have := held_set Phase.job hw new i
    simp only [hold, hnew, reduceCtorEq, if_false] at this
    exact congrArg (s.queue.count i + ·) this
  refine ⟨fun i hi => (hplaces i).trans (hs.known i hi), fun i => ?_, hs.queued,
    fun phase hmem i hi => ?_, hs.bounded⟩
  · rw [hplaces]
    exact hs.once i
  · rcases List.mem_or_eq_of_mem_set hmem with hother | rfl
    · exact hs.workers phase hother i hi
    · cases hnew.symm.trans hi

/-- A job that is in no place goes into the queue. -/
theorem putQueue (hs : Sound s) (hj : j < s.accepted) (hplaces : places s j = 0)
    (hdone : ¬(s.jobs j).done) (hcan : (s.jobs j).CanRun) : Sound (s.putQueue j) := by
  have hput : ∀ i, places (s.putQueue j) i = places s i + if j = i then 1 else 0 := by
    intro i
    simp only [places, State.putQueue, List.count_append, List.count_singleton, beq_iff_eq]
    omega
  refine ⟨fun i hi => ?_, fun i => ?_, fun i hi => ?_, hs.workers, hs.bounded⟩
  · have hij : j ≠ i := by
      rintro rfl
      exact absurd hj (Nat.not_lt.mpr hi)
    rw [hput, if_neg hij]
    exact hs.known i hi
  · rw [hput]
    by_cases hij : j = i
    · subst hij
      rw [if_pos rfl, hplaces]
      exact (if_neg hdone).symm ▸ le_rfl
    · rw [if_neg hij]
      exact hs.once i
  · rcases List.mem_append.mp hi with hold | hnew
    · exact hs.queued i hold
    · obtain rfl := List.mem_singleton.mp hnew
      exact hcan

theorem enqueue (hs : Sound s) (jobName : String) (delaySeconds maxRetries : ℤ) :
    Sound (s.enqueue jobName delaySeconds maxRetries) := by
  have hnone : places s s.accepted = 0 := hs.known _ le_rfl
  have hjobs : ∀ i, 0 < places s i →
      (s.enqueue jobName delaySeconds maxRetries).jobs i = s.jobs i := by
    intro i hi
    have hne : i ≠ s.accepted := Nat.ne_of_lt (hs.lt_accepted hi)
    simp [State.enqueue, State.putQueue, setJob, hne]
  refine ⟨fun i hi => ?_, fun i => ?_, fun i hi => ?_, fun phase hmem i hi => ?_, fun i => ?_⟩
  · have hi : s.accepted < i := hi
    rw [places_enqueue, if_neg (Nat.ne_of_lt hi)]
    exact hs.known i (Nat.le_of_lt hi)
  · rw [places_enqueue]
    by_cases hij : s.accepted = i
    · subst hij
      simp [hnone, State.enqueue, State.putQueue, setJob, Job.done]
    · have hsame : (s.enqueue jobName delaySeconds maxRetries).jobs i = s.jobs i := by
        simp [State.enqueue, State.putQueue, setJob, Ne.symm hij]
      rw [if_neg hij, hsame]
      exact hs.once i
  · rcases List.mem_append.mp hi with hold | hnew
    · rw [hjobs i (places_pos_of_mem hold)]
      exact hs.queued i hold
    · obtain rfl := List.mem_singleton.mp hnew
      simp only [State.enqueue, State.putQueue, setJob, Function.update_self, Job.CanRun]
      omega
  · obtain ⟨v, hv⟩ := List.mem_iff_getElem?.mp hmem
    rw [hjobs i (places_pos hv hi)]
    exact hs.workers phase hmem i hi
  · by_cases hij : i = s.accepted
    · subst hij
      constructor
      · simp [State.enqueue, State.putQueue, setJob]
      · simp only [State.enqueue, State.putQueue, setJob, Function.update_self]
        omega
    · have hsame : (s.enqueue jobName delaySeconds maxRetries).jobs i = s.jobs i := by
        simp [State.enqueue, State.putQueue, setJob, hij]
      rw [hsame]
      exact hs.bounded i

/-- A worker takes the first job of the queue. -/
theorem take (hs : Sound s) {queue : List ℕ} (hw : s.workers[w]? = some .getting)
    (hqueue : s.queue = j :: queue) :
    Sound { s.setWorker w (.taken j) with queue := queue } := by
  have hplaces := places_take hw hqueue
  have hj : j ∈ s.queue := hqueue ▸ List.mem_cons_self
  refine ⟨fun i hi => (hplaces i).trans (hs.known i hi), fun i => ?_, fun i hi => ?_,
    fun phase hmem i hi => ?_, hs.bounded⟩
  · rw [hplaces]
    exact hs.once i
  · exact hs.queued i (hqueue ▸ List.mem_cons_of_mem j hi)
  · rcases List.mem_or_eq_of_mem_set hmem with hother | rfl
    · exact hs.workers phase hother i hi
    · obtain rfl := Option.some.inj hi
      exact hs.queued j hj

theorem begin (hs : Sound s) (hw : s.workers[w]? = some (.taken j)) : Sound (s.begin w j) := by
  have hfits : (s.jobs j).CanRun := hs.workers _ (List.mem_of_getElem? hw) j rfl
  have hmove : Sound (s.move w j Job.begin (.starting j)) :=
    hs.move hw rfl (.inl ⟨rfl, hfits, id⟩) ⟨(hs.bounded j).runs, (hs.bounded j).attempts⟩
  exact hmove.congr rfl rfl rfl rfl

theorem started (hs : Sound s) (hw : s.workers[w]? = some (.starting j)) :
    Sound (s.started w j) := by
  have hcan : (s.jobs j).CanRun := hs.workers _ (List.mem_of_getElem? hw) j rfl
  have hnot : ¬(s.jobs j).done := hs.not_done (places_pos hw rfl)
  have hruns := (hs.bounded j).runs
  have hattempts : ((s.jobs j).attempt.attempts : ℤ) ≤ max 1 (s.jobs j).maxRetries := by
    have : ((s.jobs j).attempts : ℤ) < max 1 (s.jobs j).maxRetries := hcan
    simp only [Job.attempt]
    omega
  have hrunning : ¬(s.jobs j).attempt.done := by
    simp [Job.attempt, Job.done]
  simp only [State.started]
  split
  · refine hs.move hw rfl (.inl ⟨rfl, ?_, fun h => absurd h hrunning⟩) ⟨?_, hattempts⟩
    · exact Nat.lt_succ_of_le hruns
    · exact Nat.le_succ_of_le hruns
  · rw [callHandler_setJob]
    refine hs.move hw rfl (.inl ⟨rfl, trivial, fun h => absurd h hrunning⟩) ⟨?_, hattempts⟩
    exact Nat.succ_le_succ hruns

theorem called (hs : Sound s) (hw : s.workers[w]? = some (.delaying j)) :
    Sound (s.callHandler w j) := by
  have hfits : (s.jobs j).runs < (s.jobs j).attempts :=
    hs.workers _ (List.mem_of_getElem? hw) j rfl
  exact hs.move hw rfl (.inl ⟨rfl, trivial, id⟩) ⟨hfits, (hs.bounded j).attempts⟩

/-- The handler has returned or raised, or the row could not be completed. -/
theorem handled (hs : Sound s) (hw : s.workers[w]? = some old) (hold : old.job = some j)
    (hnew : new = .completing j ∧ f = Job.returned ∨ new = .failing j ∧ f = Job.raised) :
    Sound (s.move w j f new) := by
  rcases hnew with ⟨rfl, rfl⟩ | ⟨rfl, rfl⟩ <;>
    exact hs.move hw hold (.inl ⟨rfl, trivial, id⟩) ⟨(hs.bounded j).runs, (hs.bounded j).attempts⟩

/-- The worker gives the job back. -/
theorem givenBack (hs : Sound s) (hw : s.workers[w]? = some old) (hold : old.job = some j)
    (hf : (f (s.jobs j)).Bounded) : Sound (s.move w j f .looping) :=
  hs.move hw hold (.inr rfl) hf

theorem retry (hs : Sound s) (hw : s.workers[w]? = some (.failing j))
    (hretry : (s.jobs j).shouldRetry = true) : Sound (s.retry w j) := by
  have hback : Sound (s.move w j Job.retry .looping) :=
    hs.givenBack hw rfl ⟨(hs.bounded j).runs, (hs.bounded j).attempts⟩
  have hplaces := places_move (j := j) hw Job.retry .looping j
  have hone := hs.places_eq_one (places_pos hw rfl)
  have hcan : (s.jobs j).CanRun := by
    have : ((s.jobs j).attempts : ℤ) < (s.jobs j).maxRetries := of_decide_eq_true hretry
    show ((s.jobs j).attempts : ℤ) < max 1 (s.jobs j).maxRetries
    omega
  simp only [Phase.job, reduceCtorEq, if_true, if_false, hone] at hplaces
  have hput : Sound ((s.move w j Job.retry .looping).putQueue j) := by
    refine hback.putQueue (hs.lt_accepted (places_pos hw rfl)) (by omega) ?_ ?_
    · rw [move_jobs_self]
      simp [Job.retry, Job.done]
    · rw [move_jobs_self]
      exact hcan
  exact hput.congr rfl rfl rfl rfl

theorem abandon (hs : Sound s) (hw : s.workers[w]? = some old) (hold : old.job = some j) :
    Sound (s.abandon w) := by
  rw [abandon_eq_move w j]
  exact hs.givenBack hw hold (hs.bounded j)

theorem advance (hs : Sound s) (w : ℕ) (ok : Bool) : Sound (s.advance w ok) := by
  unfold State.advance
  split
  next hw => exact hs.idle hw rfl (by split <;> rfl)
  next hw =>
    split
    · exact hs
    next hqueue => exact hs.take hw hqueue
  next hw => exact hs.idle hw rfl rfl
  next hw =>
    split
    · exact hs.begin hw
    · exact hs
  next hw => exact hs.started hw
  next hw => exact hs.abandon hw rfl
  next hw => exact hs.called hw
  next hw => exact hs.handled hw rfl (.inl ⟨rfl, rfl⟩)
  next hw => exact hs.handled hw rfl (.inr ⟨rfl, rfl⟩)
  next j hw =>
    have hback : Sound (s.move w j Job.complete .looping) :=
      hs.givenBack hw rfl ⟨(hs.bounded j).runs, (hs.bounded j).attempts⟩
    exact hback.congr rfl rfl rfl rfl
  next hw => exact hs.handled hw rfl (.inr ⟨rfl, rfl⟩)
  next j hw =>
    split
    next hretry => exact hs.retry hw hretry
    next =>
      have hback : Sound (s.move w j Job.giveUp .looping) :=
        hs.givenBack hw rfl ⟨(hs.bounded j).runs, (hs.bounded j).attempts⟩
      exact hback.congr rfl rfl rfl rfl
  next hw => exact hs.abandon hw rfl
  · exact hs
  · exact hs

theorem cancel (hs : Sound s) : Sound s.cancel := by
  have hplaces : ∀ i, places s.cancel i ≤ places s i := by
    intro i
    simp [places, State.cancel, held]
  refine ⟨fun i hi => ?_, fun i => ?_, hs.queued, nofun, hs.bounded⟩
  · exact Nat.le_zero.mp ((hplaces i).trans_eq (hs.known i hi))
  · exact (Nat.add_le_add_right (hplaces i) _).trans (hs.once i)

theorem start (hs : Sound s) : Sound s.start := by
  unfold State.start
  split
  · exact hs
  have hplaces : ∀ i, held Phase.job (s.workers ++ List.replicate s.maxWorkers .looping) i =
      held Phase.job s.workers i := by
    intro i
    have hidle : held Phase.job (List.replicate s.maxWorkers .looping) i = 0 := by
      refine held_eq_zero fun phase hmem => ?_
      rw [List.eq_of_mem_replicate hmem]
      rfl
    rw [held_append, hidle, Nat.add_zero]
  refine ⟨fun i hi => ?_, fun i => ?_, hs.queued, fun phase hmem i hi => ?_, hs.bounded⟩
  · exact (congrArg (s.queue.count i + ·) (hplaces i)).trans (hs.known i hi)
  · simp only [places, hplaces]
    exact hs.once i
  · rcases List.mem_append.mp hmem with hold | hnew
    · exact hs.workers phase hold i hi
    · obtain rfl := List.eq_of_mem_replicate hnew
      cases hi

theorem step (hs : Sound s) (registered : String → Bool) (e : Event) :
    Sound (step registered s e) := by
  cases e with
  | enqueue jobName delaySeconds maxRetries =>
    simp only [Jobs.step]
    split
    · exact hs.enqueue jobName delaySeconds maxRetries
    · exact hs
  | advance w ok => exact hs.advance w ok
  | start => exact hs.start
  | stop =>
    simp only [Jobs.step, State.stop]
    split
    · exact hs.congr rfl rfl rfl rfl
    · exact hs
  | joined | joinTimeout =>
    simp only [Jobs.step]
    split
    · exact hs.cancel
    · exact hs

theorem initial (maxWorkers : ℕ) : Sound (initial maxWorkers) where
  known _ _ := rfl
  once _ := by simp [places, Jobs.initial, held, Job.done]
  queued := nofun
  workers := nofun
  bounded _ := ⟨le_rfl, by simp only [Jobs.initial]; decide⟩

end Sound

/-- In every run, the handler of a job is called as often as it may be at most. -/
theorem runs_le_maxRetries (registered : String → Bool) (maxWorkers : ℕ) (events : List Event)
    (j : ℕ) :
    let job := (events.foldl (step registered) (initial maxWorkers)).jobs j
    (job.runs : ℤ) ≤ max 1 job.maxRetries := by
  have hs : Sound (events.foldl (step registered) (initial maxWorkers)) :=
    Along.foldl_induction (P := fun _ _ => True) (fun s e hs _ => hs.step registered e)
      (Sound.initial maxWorkers) (Along.of_forall fun _ _ => trivial)
  have hbounded := hs.bounded j
  have hruns : ((events.foldl (step registered) (initial maxWorkers)).jobs j).runs ≤ _ :=
    hbounded.runs
  have := hbounded.attempts
  omega

end Mpango.Jobs
