import Mathlib.Data.Int.Notation
import Mpango.Library.Dict
import Mpango.Model.Worktree

/-!
# The batch runner

A batch takes the missions of its manifest in their order. A mission that the report it resumes
from counts as done is carried over; the others go through the executor, again and again while
retries are left. What the executor comes to at each attempt is given from outside (`Attempt`).
Beside its answer a batch leaves the list of its attempts, which the runner itself does not keep.
-/

namespace Mpango

namespace BatchRunner

open Worktree (normalizePath)

/-! ## Results -/

inductive Mode
  | dryRun
  | execute
  deriving DecidableEq

inductive Verdict
  | passed
  | retried
  | failed
  | skipped
  deriving DecidableEq

/-- `SUCCESS_STATUSES`. -/
def Verdict.success : Verdict → Bool
  | .passed | .retried => true
  | .failed | .skipped => false

structure Manifest where
  phase : String
  missions : List String
  report : String
  notes : Option String

structure MissionResult where
  mission : String
  mode : Mode
  verdict : Verdict
  report : Option String
  changedFiles : Option ℕ
  failure : Option String
  attempts : ℕ
  resumed : Bool

/-- `_skipped_result`. -/
def skippedResult (mission : String) (mode : Mode) : MissionResult :=
  { mission := normalizePath mission
    mode
    verdict := .skipped
    report := none
    changedFiles := none
    failure := some "skipped: earlier mission failed (stop-on-first-failure)"
    attempts := 0
    resumed := false }

/-- `_resumed_result`. -/
def resumedResult (mission : String) (mode : Mode) (priorVerdict : Verdict) : MissionResult :=
  { mission := normalizePath mission
    mode
    verdict := priorVerdict
    report := none
    changedFiles := none
    failure := none
    attempts := 0
    resumed := true }

/-! ## One mission -/

inductive ExecutorVerdict
  | passed
  | failed
  deriving DecidableEq

/-- What `exe.execute` comes to. -/
inductive Executed
  | returned (verdict : ExecutorVerdict) (changedFiles : ℕ) (failure : Option String)
  | raised (error : String)

/-- One attempt at a mission: what its file reads as, what its contract lacks, and what executing
it comes to. -/
inductive Attempt
  | read (issues failures : List String) (report : String) (executed : Executed)
  | raised (error : String)

/-- `run_mission`. -/
def runMission (mission : String) (mode : Mode) : Attempt → Except String MissionResult
  | .raised error => .error error
  | .read issues failures report executed =>
    let result : MissionResult :=
      { mission := normalizePath mission
        mode
        verdict := .failed
        report := none
        changedFiles := none
        failure := none
        attempts := 1
        resumed := false }
    if issues ≠ [] then .ok { result with failure := some ("; ".intercalate issues) }
    else if failures ≠ [] then .ok { result with failure := some ("; ".intercalate failures) }
    else
      let result := { result with
        report := if normalizePath report = "" then none else some (normalizePath report) }
      match mode, executed with
      | .dryRun, _ => .ok { result with verdict := .passed }
      | .execute, .raised error => .error error
      | .execute, .returned .passed changedFiles _ =>
        .ok { result with verdict := .passed, changedFiles := some changedFiles }
      | .execute, .returned .failed changedFiles failure =>
        .ok { result with
          verdict := .failed
          changedFiles := some changedFiles
          failure := some (failure.getD "failed") }

/-- An attempt that was made, at the mission that stands at this place of the manifest. -/
structure Run where
  position : ℕ
  mission : String
  mode : Mode
  attempt : Attempt

/-- The mission passed in this attempt. -/
def Run.Passed (r : Run) : Prop :=
  ∃ result, runMission r.mission r.mode r.attempt = .ok result ∧ result.verdict = .passed

/-- The executor ran the mission and found it passed. -/
def Run.ExecutorPassed (r : Run) : Prop :=
  r.mode = .execute ∧
    ∃ report changedFiles failure, r.attempt = .read [] [] report
      (.returned .passed changedFiles failure)

/-- `run_mission_with_retries`, after `attempts` attempts. -/
def runMissionWithRetries (position : ℕ) (mission : String) (mode : Mode) (maxRetries : ℤ)
    (outcome : ℕ → Attempt) (attempts : ℕ) : List Run × Except String MissionResult :=
  let run := ⟨position, mission, mode, outcome attempts⟩
  match runMission mission mode (outcome attempts) with
  | .error error => ([run], .error error)
  | .ok res =>
    let res := { res with attempts := attempts + 1 }
    if res.verdict = .passed then
      ([run], .ok { res with verdict := if 0 < attempts then .retried else .passed })
    else if maxRetries < attempts + 1 then ([run], .ok res)
    else
      let (runs, answer) :=
        runMissionWithRetries position mission mode maxRetries outcome (attempts + 1)
      (run :: runs, answer)
termination_by (maxRetries - attempts).toNat

/-! ## The batch -/

inductive BatchVerdict
  | passed
  | failed
  deriving DecidableEq

structure Entry extends MissionResult where
  order : ℕ

/-- The batch report. -/
structure Payload where
  phase : String
  mode : Mode
  continueOnFailure : Bool
  aggregateVerdict : BatchVerdict
  stoppedEarly : Bool
  totalMissions : ℕ
  passed : ℕ
  retried : ℕ
  failed : ℕ
  skipped : ℕ
  maxRetries : ℤ
  resumed : Bool
  report : String
  missions : List Entry
  notes : Option String

/-- `load_resume_state`, of the report that could be read, if any. -/
def loadResumeState : Option Payload → Dict String Verdict
  | none => []
  | some data => Dict.ofPairs ((data.missions.filter (·.verdict.success)).map fun m =>
      (normalizePath m.mission, m.verdict))

/-- What a batch is asked to do. -/
structure Plan where
  manifest : Manifest
  mode : Mode
  continueOnFailure : Bool
  maxRetries : ℤ

/-- What the loop over the missions has come to. -/
structure Loop where
  results : List MissionResult
  aggregate : BatchVerdict
  stoppedEarly : Bool

/-- The loop of `run_batch`, from the mission at `idx` on. -/
def runMissions (plan : Plan) (resumeDone : Dict String Verdict) (outcome : ℕ → ℕ → Attempt) :
    ℕ → List String → List Run × Except String Loop
  | _, [] => ([], .ok ⟨[], .passed, false⟩)
  | idx, mission :: rest =>
    match resumeDone.get (normalizePath mission) with
    | some verdict =>
      let (runs, answer) := runMissions plan resumeDone outcome (idx + 1) rest
      (runs, answer.map fun loop =>
        { loop with results := resumedResult mission plan.mode verdict :: loop.results })
    | none =>
      match runMissionWithRetries idx mission plan.mode plan.maxRetries (outcome idx) 0 with
      | (own, .error error) => (own, .error error)
      | (own, .ok res) =>
        if res.verdict.success then
          let (runs, answer) := runMissions plan resumeDone outcome (idx + 1) rest
          (own ++ runs, answer.map fun loop => { loop with results := res :: loop.results })
        else if plan.continueOnFailure then
          let (runs, answer) := runMissions plan resumeDone outcome (idx + 1) rest
          (own ++ runs, answer.map fun loop =>
            { loop with results := res :: loop.results, aggregate := .failed })
        else
          -- stop on the first failure: the rest is recorded as skipped
          (own, .ok ⟨res :: rest.map (skippedResult · plan.mode), .failed, true⟩)

/-- `build_batch_payload`. -/
def buildBatchPayload (plan : Plan) (loop : Loop) : Payload :=
  let count (verdict : Verdict) := loop.results.countP (·.verdict = verdict)
  { phase := plan.manifest.phase
    mode := plan.mode
    continueOnFailure := plan.continueOnFailure
    aggregateVerdict := loop.aggregate
    stoppedEarly := loop.stoppedEarly
    totalMissions := plan.manifest.missions.length
    passed := count .passed
    retried := count .retried
    failed := count .failed
    skipped := count .skipped
    maxRetries := plan.maxRetries
    resumed := loop.results.any (·.resumed)
    report := normalizePath plan.manifest.report
    missions := loop.results.zipIdx.map fun (res, order) => { res with order }
    notes := plan.manifest.notes }

/-- What cleaning up the reports and writing the batch report comes to. -/
inductive Filing
  | written
  | refused
  | raised (error : String)

/-- What happens to a batch from outside: every attempt at every mission, and the filing. -/
structure Happening where
  outcome : ℕ → ℕ → Attempt
  filing : Filing

structure Batch where
  runs : List Run
  answer : Except String (BatchVerdict × Payload)
  /-- The report found at its place afterwards. -/
  filed : Option Payload

/-- `run_batch`. -/
def runBatch (plan : Plan) (prior : Option Payload) (happening : Happening) : Batch :=
  match runMissions plan (loadResumeState prior) happening.outcome 0 plan.manifest.missions with
  | (runs, .error error) => ⟨runs, .error error, none⟩
  | (runs, .ok loop) =>
    let payload := buildBatchPayload plan loop
    match happening.filing with
    | .written => ⟨runs, .ok (loop.aggregate, payload), some payload⟩
    | .refused => ⟨runs, .ok (loop.aggregate, payload), none⟩
    | .raised error => ⟨runs, .error error, none⟩

/-! ## Chains -/

/-- Batches of which each resumes from the report of the next, the latest first, and what happens
to each, counted from the oldest. -/
abbrev Chain := List Plan

abbrev World := ℕ → Happening

def Chain.filed (world : World) : Chain → Option Payload
  | [] => none
  | plan :: older => (runBatch plan (filed world older) (world older.length)).filed

/-- The latest batch. -/
def latest (world : World) (plan : Plan) (older : Chain) : Batch :=
  runBatch plan (Chain.filed world older) (world older.length)

/-- The attempts of a chain: those of a batch that left no report are not resumed from. -/
def Chain.runs (world : World) : Chain → List Run
  | [] => []
  | plan :: older => (latest world plan older).runs ++
      match Chain.filed world older with
      | none => []
      | some _ => runs world older

end BatchRunner

end Mpango
