import Mathlib.Data.Int.Notation
import Mathlib.Logic.Function.Basic
import Mpango.Library.Slots

/-!
# The local job queue

`LocalJobQueue` of `core/jobs/local_queue.py`. A coroutine runs without another in between until it
awaits something that is not there yet, so a worker advances from one such point to the next: the
job it gets, the semaphore, the delay, the handler, and each update of the row in `sys_jobs`.
-/

namespace Mpango.Jobs

/-- `JobStatus` -/
inductive JobStatus
  | pending
  | running
  | completed
  | failed
deriving DecidableEq

/-! ## Jobs -/

/-- The record in memory and the row of a job. -/
structure Job where
  jobName : String := ""
  delaySeconds : ℤ := 0
  maxRetries : ℤ := 3
  /-- In memory. -/
  status : JobStatus := .pending
  /-- In the row. -/
  stored : JobStatus := .pending
  /-- In the row. -/
  attempts : ℕ := 0
  /-- How often the handler was called, -/
  runs : ℕ := 0
  /-- how often it returned, -/
  successes : ℕ := 0
  /-- and how often it was called after it had returned. -/
  late : ℕ := 0
deriving DecidableEq

namespace Job

variable (job : Job)

def begin : Job := { job with status := .running }

/-- The row of a job that runs. -/
def attempt : Job := { job with stored := .running, attempts := job.attempts + 1 }

/-- The handler is called. -/
def call : Job :=
  { job with runs := job.runs + 1, late := job.late + if job.successes = 0 then 0 else 1 }

def returned : Job := { job with status := .completed, successes := job.successes + 1 }

def complete : Job := { job with stored := .completed }

def raised : Job := { job with status := .failed }

def shouldRetry : Bool := job.attempts < job.maxRetries

def retry : Job := { job with status := .pending, stored := .pending }

def giveUp : Job := { job with stored := .failed }

def done : Prop := job.stored = .completed ∨ job.stored = .failed

instance : Decidable job.done := inferInstanceAs (Decidable (_ ∨ _))

end Job

/-! ## Workers -/

/-- What a worker is about to do, or awaits. -/
inductive Phase
  /-- `while self.running` -/
  | looping
  /-- `self.queue.get()` -/
  | getting
  /-- `self.semaphore` -/
  | taken (job : ℕ)
  /-- The update to running. -/
  | starting (job : ℕ)
  /-- `asyncio.sleep(delay_seconds)` -/
  | delaying (job : ℕ)
  | handling (job : ℕ)
  /-- The update to completed. -/
  | completing (job : ℕ)
  /-- What follows an exception: the attempts are read, and the row is updated. -/
  | failing (job : ℕ)
  | exited
deriving DecidableEq

namespace Phase

/-- The job a worker has. -/
def job : Phase → Option ℕ
  | taken j | starting j | delaying j | handling j | completing j | failing j => some j
  | looping | getting | exited => none

/-- Whether it holds the semaphore. -/
def executes : Phase → Bool
  | starting _ | delaying _ | handling _ | completing _ | failing _ => true
  | looping | getting | taken _ | exited => false

end Phase

/-! ## The queue -/

structure Stats where
  enqueued : ℤ := 0
  completed : ℤ := 0
  failed : ℤ := 0
  pending : ℤ := 0
  running : ℤ := 0
deriving DecidableEq

structure State where
  maxWorkers : ℕ
  running : Bool := false
  /-- Those with a number below `accepted` exist. -/
  jobs : ℕ → Job := fun _ => {}
  accepted : ℕ := 0
  queue : List ℕ := []
  /-- Puts without a `task_done()`. -/
  unfinished : ℕ := 0
  workers : List Phase := []
  stats : Stats := {}
  /-- The calls of `stop()` that wait for the queue. -/
  stopping : ℕ := 0

namespace State

variable (s : State) (w j : ℕ)

def setJob (f : Job → Job) : State := { s with jobs := Function.update s.jobs j (f (s.jobs j)) }

def setWorker (phase : Phase) : State := { s with workers := s.workers.set w phase }

def putQueue : State := { s with queue := s.queue ++ [j], unfinished := s.unfinished + 1 }

def taskDone : State := { s with unfinished := s.unfinished - 1 }

/-- `enqueue`, after the row was committed. -/
def enqueue (jobName : String) (delaySeconds maxRetries : ℤ) : State :=
  let job : Job := { jobName, delaySeconds, maxRetries }
  { (s.setJob s.accepted fun _ => job).putQueue s.accepted with
    accepted := s.accepted + 1
    stats :=
      { s.stats with enqueued := s.stats.enqueued + 1, pending := s.stats.pending + 1 } }

/-! ### `_execute_job` -/

def begin : State :=
  { (s.setJob j Job.begin).setWorker w (.starting j) with
    stats := { s.stats with pending := s.stats.pending - 1, running := s.stats.running + 1 } }

def callHandler : State := (s.setJob j Job.call).setWorker w (.handling j)

/-- The row is running; a delay comes before the handler. -/
def started : State :=
  let s := s.setJob j Job.attempt
  if 0 < (s.jobs j).delaySeconds then s.setWorker w (.delaying j) else s.callHandler w j

/-- The exception reaches `_worker`, which goes on without `task_done()`. -/
def abandon : State := s.setWorker w .looping

def complete : State :=
  { ((s.setJob j Job.complete).setWorker w .looping).taskDone with
    stats := { s.stats with completed := s.stats.completed + 1, running := s.stats.running - 1 } }

/-- The job is put into the queue once more, and counted as failed. -/
def retry : State :=
  { (((s.setJob j Job.retry).putQueue j).setWorker w .looping).taskDone with
    stats :=
      { s.stats with
        pending := s.stats.pending + 1
        failed := s.stats.failed + 1
        running := s.stats.running - 1 } }

def giveUp : State :=
  { ((s.setJob j Job.giveUp).setWorker w .looping).taskDone with
    stats := { s.stats with failed := s.stats.failed + 1, running := s.stats.running - 1 } }

/-! ### `_worker` -/

/-- What a worker awaits happens: `ok` tells whether it succeeds, and of `queue.get()` whether there
was a job before the time was over. -/
def advance (ok : Bool) : State :=
  match s.workers[w]?, ok with
  | some .looping, _ => s.setWorker w (if s.running then .getting else .exited)
  | some .getting, true =>
    match s.queue with
    | [] => s
    | j :: queue => { s.setWorker w (.taken j) with queue := queue }
  | some .getting, false => s.setWorker w .looping
  | some (.taken j), _ =>
    if s.workers.countP Phase.executes < s.maxWorkers then s.begin w j else s
  | some (.starting j), true => s.started w j
  | some (.starting _), false => s.abandon w
  | some (.delaying j), _ => s.callHandler w j
  | some (.handling j), true => (s.setJob j Job.returned).setWorker w (.completing j)
  | some (.handling j), false => (s.setJob j Job.raised).setWorker w (.failing j)
  | some (.completing j), true => s.complete w j
  | some (.completing j), false => (s.setJob j Job.raised).setWorker w (.failing j)
  | some (.failing j), true => if (s.jobs j).shouldRetry then s.retry w j else s.giveUp w j
  | some (.failing _), false => s.abandon w
  | some .exited, _ | none, _ => s

/-! ### `start` and `stop` -/

def start : State :=
  if s.running then s
  else
    { s with
      running := true
      workers := s.workers ++ List.replicate s.maxWorkers .looping }

def stop : State :=
  if s.running then { s with running := false, stopping := s.stopping + 1 } else s

/-- The end of `stop`: the workers are cancelled where they are. -/
def cancel : State := { s with stopping := s.stopping - 1, workers := [] }

end State

/-! ## Runs -/

inductive Event
  | enqueue (jobName : String) (delaySeconds maxRetries : ℤ)
  | advance (w : ℕ) (ok : Bool)
  | start
  | stop
  /-- `queue.join()` returns. -/
  | joined
  /-- It has not returned in 30 seconds. -/
  | joinTimeout
deriving DecidableEq

/-- Whether an event ends a call of `stop()`. -/
def Event.stops (s : State) : Event → Prop
  | .joined => 0 < s.stopping ∧ s.unfinished = 0
  | .joinTimeout => 0 < s.stopping ∧ 0 < s.unfinished
  | _ => False

instance (s : State) (e : Event) : Decidable (e.stops s) := by
  cases e <;> unfold Event.stops <;> infer_instance

/-- `registered` tells which names have a handler. -/
def step (registered : String → Bool) (s : State) (e : Event) : State :=
  match e with
  | .enqueue jobName delaySeconds maxRetries =>
    if registered jobName then s.enqueue jobName delaySeconds maxRetries else s
  | .advance w ok => s.advance w ok
  | .start => s.start
  | .stop => s.stop
  | .joined | .joinTimeout => if e.stops s then s.cancel else s

def initial (maxWorkers : ℕ) : State := { maxWorkers }

/-! ## What is asked of a run -/

/-- In how many places a job is that will still be executed. -/
def places (s : State) (j : ℕ) : ℕ := s.queue.count j + held Phase.job s.workers j

/-- Every job is pending or running, or it is completed or has failed for good; it was not called
more often than it may, nor after its handler had returned; and the counters add up. -/
structure Accounted (s : State) : Prop where
  onePlace : ∀ j < s.accepted, places s j + (if (s.jobs j).done then 1 else 0) = 1
  final : ∀ j < s.accepted, (s.jobs j).late = 0
  attempts : ∀ j < s.accepted, ((s.jobs j).runs : ℤ) ≤ max 1 (s.jobs j).maxRetries
  balanced : s.stats.enqueued =
    s.stats.completed + s.stats.failed + s.stats.pending + s.stats.running

/-- No call of `stop()` ends with a job that was not attempted. -/
def Drained (s : State) (e : Event) : Prop :=
  e.stops s → ∀ j < s.accepted, 1 ≤ (s.jobs j).runs

/-- No update of a row to running fails, and none after an exception; no exception is raised while
the job has attempts left; and no call of `stop()` runs out of its time. -/
def Smooth (s : State) : Event → Prop
  | .advance w ok =>
    match s.workers[w]? with
    | some (.starting _) => ok = true
    | some (.failing j) => ok = true ∧ (s.jobs j).shouldRetry = false
    | _ => True
  | .joinTimeout => ¬Event.joinTimeout.stops s
  | _ => True

end Mpango.Jobs
