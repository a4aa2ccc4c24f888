import Mathlib.Data.List.Infix
import Mpango.Model.Baselines
import Mpango.Model.Intake

/-!
# The worktree executor

A mission runs in a git worktree at an immutable base commit. What its worker leaves behind is asked
of git by four queries (`collectChangedFiles`), of which those that fail are passed over, and
compared with the files the mission expects.

What git and the worker do is given from outside (`World`): how each command ends, what the worker
leaves in the commits, the index and the directory, and for each query that answers, the names of
exactly the files it selects. A mission whose JSON has missing, unknown or ill-typed entries is
rejected, and is not a `Mission` here.
-/

namespace Mpango

namespace Worktree

open Harness (quotePath splitLines)

/-! ## Paths -/

/-- `normalize_path`. -/
def normalizePath (p : String) : String :=
  String.ofList (p.toList.map fun c => if c = '\\' then '/' else c)

@[simp] theorem normalizePath_normalizePath (p : String) :
    normalizePath (normalizePath p) = normalizePath p := by
  unfold normalizePath
  rw [String.toList_ofList, List.map_map]
  congr 1
  apply List.map_congr_left
  intro c _
  by_cases hc : c = '\\'
  · simp [hc]
  · simp [hc]

/-- `normalize_path(path).split("/")`. -/
def pathParts (path : String) : List (List Char) := (normalizePath path).toList.splitOn '/'

/-- `is_absolute`. -/
def isAbsolute (path : String) : Bool :=
  (normalizePath path).toList.head? = some '/' || ':' ∈ (pathParts path).headD []

/-- `is_traversal`. -/
def isTraversal (path : String) : Bool := ['.', '.'] ∈ pathParts path

/-- `has_unsafe_path_part`. -/
def hasUnsafePathPart (path : String) : Bool := [] ∈ pathParts path || ['.'] ∈ pathParts path

/-- `FORBIDDEN_PREFIXES` of the diff auditor. -/
def forbiddenPrefixes : List String :=
  ["backend/", "frontend/", "product-dev-recovered/", ".github/", ".claude/", "docs/ai/"]

/-- `FORBIDDEN_KEYWORDS`. -/
def forbiddenKeywords : List String :=
  ["auth", "rbac", "tenancy", "migration", "payment", "session"]

/-- The words of a path: `/`, `-` and `_` divide them as blanks do. -/
def words (normalized : List Char) : List String :=
  ((normalized.splitOnP fun c => c = '/' || c = '-' || c = '_' || isBlank c).filter (· ≠ [])).map
    String.ofList

/-- `is_forbidden`: the reason, if there is one. -/
def isForbidden (path : String) : Option String :=
  let normalized := (normalizePath path).toList.flatMap Intake.lower
  match forbiddenPrefixes.find? (·.toList.isPrefixOf normalized) with
  | some start => some s!"forbidden prefix '{start}'"
  | none =>
    match forbiddenKeywords.find? (· ∈ words normalized) with
    | some keyword => some s!"forbidden keyword '{keyword}'"
    | none => none

/-! ## Missions -/

structure Mission where
  phase : String
  branch : String
  baseRef : String
  worktreeDir : String
  workerCommand : List String
  expectedFiles : List String
  report : String
  timeoutSeconds : ℤ
  forbiddenExtra : Option (List String)

/-- `LEDGER_PREFIX`. -/
def ledgerPrefix : String := "ai-ledger/platform/"

/-- `validate_report_path`. -/
def validateReportPath (path : String) : Option String :=
  if strip path = "" then some "report must be a non-empty string"
  else if isAbsolute path then
    some s!"report '{path}' must be relative, not absolute or drive-qualified"
  else if isTraversal path then some s!"report '{path}' contains directory traversal"
  else if hasUnsafePathPart path then some s!"report '{path}' contains unsafe path part"
  else if !ledgerPrefix.toList.isPrefixOf (normalizePath path).toList then
    some s!"report '{path}' must be under {ledgerPrefix}"
  else if !".json".toList.isSuffixOf (normalizePath path).toList then
    some s!"report '{path}' must end with .json"
  else none

structure Content where
  executable : Bool
  bytes : List UInt8
  deriving DecidableEq

/-- What a commit, the index or the directory has at each path. -/
abbrev Snapshot := String → Option Content

/-- What a worker leaves behind. -/
structure Left where
  /-- The commit the worktree's `HEAD` is at, and the one the mission's branch is at. -/
  head : Snapshot
  branch : Snapshot
  index : Snapshot
  directory : Snapshot
  ignored : String → Prop
  /-- Marked in the index as assumed unchanged, or to be skipped. -/
  unwatched : String → Prop

/-- The four queries of `collect_changed_files`. -/
inductive Query
  | committed
  | staged
  | unstaged
  | untracked
  deriving DecidableEq

def Query.all : List Query := [.committed, .staged, .unstaged, .untracked]

/-- The files a query names. -/
def Left.selects (left : Left) (base : Snapshot) : Query → String → Prop
  | .committed, f => base f ≠ left.head f
  | .staged, f => left.head f ≠ left.index f
  | .unstaged, f => left.index f ≠ none ∧ left.index f ≠ left.directory f ∧ ¬left.unwatched f
  | .untracked, f => left.index f = none ∧ left.directory f ≠ none ∧ ¬left.ignored f

/-- The directory or the mission's branch has something else there than the base. -/
def Left.Differs (left : Left) (base : Snapshot) (f : String) : Prop :=
  left.directory f ≠ base f ∨ left.branch f ≠ base f

/-! ## The commands -/

/-- How `run_git` ends: with what git answers, with another return code (a time-out and a missing
git or directory count as 1), or with an exception it does not catch. -/
inductive Git (α : Type)
  | answered (a : α)
  | failed
  | raised (error : String)

/-- How `run_worker` ends. -/
inductive Worker
  | exited (returncode : ℤ)
  | timedOut
  | notFound
  | raised (error : String)

/-- `rc`. -/
def Worker.returncode : Worker → ℤ
  | .exited returncode => returncode
  | .timedOut => 124
  | .notFound => 127
  | .raised _ => 0

structure World where
  /-- The commit the base resolves to, and its tree. -/
  base : Git String
  baseTree : Snapshot
  add : Git Unit
  /-- The worktree is there after `git worktree add`. -/
  created : Bool
  worker : Worker
  left : Left
  /-- The names a query answers with. -/
  answers : Query → Git (List String)
  remove : Git Unit
  /-- The worktree is gone after `git worktree remove`. -/
  removed : Bool
  /-- The parts of the repository's path. -/
  repo : List String
  /-- `Path.resolve`, on the parts of a path. -/
  resolve : List String → List String
  /-- Writing the report fails. -/
  writing : Option String
  added : ∀ u, add = .answered u → created = true
  selected : ∀ q names, answers q = .answered names →
    ∀ f, f ∈ names ↔ left.selects baseTree q f
  gone : ∀ u, remove = .answered u → removed = true

/-! ## The audit -/

/-- What git prints for the names. -/
def printNames (names : List String) : String :=
  String.ofList (names.flatMap fun name => (quotePath name).toList ++ ['\n'])

/-- The names that are read from it: `run_git` strips the whole, blank lines are dropped. -/
def readNames (stdout : String) : List String :=
  ((splitLines [] (strip stdout).toList).map String.ofList).filter (strip · ≠ "")

/-- The loop of `collect_changed_files`. -/
def collect (w : World) : List Query → Except String (List String)
  | [] => .ok []
  | q :: queries =>
    match w.answers q with
    | .answered names => (collect w queries).map (readNames (printNames names) ++ ·)
    | .failed => collect w queries
    | .raised error => .error error

/-- `collect_changed_files`. -/
def collectChangedFiles (w : World) : Except String (List String) :=
  (collect w Query.all).map List.eraseDups

structure Violation where
  file : String
  reason : String
  deriving DecidableEq

structure Audit where
  violations : List Violation
  unexpected : List String
  forbidden : List String
  missing : List String
  total : ℕ

def Audit.passed (audit : Audit) : Bool := audit.violations = []

/-- Why a changed file is forbidden for this mission. -/
def forbiddenReason (extra : List String) (path : String) : Option String :=
  match isForbidden path with
  | some reason => some reason
  | none => if path ∈ extra then some "forbidden_extra match" else none

/-- `audit_against_expected`. -/
def auditAgainstExpected (changedFiles expectedFiles : List String)
    (forbiddenExtra : Option (List String)) : Audit :=
  let expected := (expectedFiles.map normalizePath).dedup
  let changed := changedFiles.map normalizePath
  let extra := (forbiddenExtra.getD []).map normalizePath
  let outside (path : String) : Bool := forbiddenReason extra path = none && path ∉ expected
  let missing := (expected.filter (· ∉ changed)).mergeSort
  { violations :=
      (changed.filterMap fun path =>
        match forbiddenReason extra path with
        | some reason => some ⟨path, reason⟩
        | none => if path ∈ expected then none else some ⟨path, "outside expected_files"⟩) ++
      missing.map (⟨·, "missing expected file"⟩)
    unexpected := (changed.filter outside).mergeSort
    forbidden := (changed.filter fun path => (forbiddenReason extra path).isSome).mergeSort
    missing
    total := changed.length }

/-! ## Execution -/

inductive Verdict
  | passed
  | failed
  deriving DecidableEq

/-- The completion report. -/
structure Payload where
  phase : String
  branch : String
  baseRef : String
  baseSha : Option String
  worktreeDir : String
  verdict : Verdict
  expectedFiles : List String
  changedFiles : ℕ
  failure : Option String
  audit : Option Audit

/-- `build_report`. -/
def buildReport (mission : Mission) (verdict : Verdict) (baseSha failure : Option String)
    (audit : Option Audit) : Payload :=
  { phase := mission.phase
    branch := mission.branch
    baseRef := mission.baseRef
    baseSha
    worktreeDir := mission.worktreeDir
    verdict
    expectedFiles := mission.expectedFiles.map normalizePath
    changedFiles := (audit.map Audit.total).getD 0
    failure
    audit }

/-- The parts of the platform ledger's path. -/
def World.ledger (w : World) : List String := w.repo ++ ["ai-ledger", "platform"]

/-- `write_report`: where the report is written, and whether writing raises. -/
def writeReport (w : World) (reportPath : String) : Option (List String) × Option String :=
  if validateReportPath reportPath ≠ none then (none, none)
  else
    let target := w.resolve (w.repo ++ (pathParts reportPath).map String.ofList)
    if w.ledger.isPrefixOf target then (some target, w.writing) else (none, none)

structure Outcome where
  answer : Except String (Verdict × Payload)
  /-- The worktree is there in the end. -/
  worktree : Bool
  /-- Where a report has been written. -/
  report : Option (List String)

/-- The end of `execute`: the report. -/
def finish (w : World) (mission : Mission) (worktree : Bool) (payload : Payload) : Outcome :=
  match writeReport w mission.report with
  | (report, none) => ⟨.ok (payload.verdict, payload), worktree, report⟩
  | (report, some error) => ⟨.error error, worktree, report⟩

/-- The verdict on a worker that came to an end, and the failure. -/
def judge (worker : Worker) (audit : Audit) : Verdict × Option String :=
  match worker with
  | .timedOut => (.failed, some "worker timed out")
  | worker =>
    if worker.returncode ≠ 0 then (.failed, some s!"worker exited {worker.returncode}")
    else if !audit.passed then (.failed, some "scope_violation")
    else (.passed, none)

/-- The `try` block of `execute`: worker and audit. -/
def runAndAudit (w : World) (mission : Mission) (baseSha : String) : Except String Payload :=
  match w.worker with
  | .raised error => .error error
  | worker => do
    let changed ← collectChangedFiles w
    let audit := auditAgainstExpected changed mission.expectedFiles mission.forbiddenExtra
    let (verdict, failure) := judge worker audit
    return buildReport mission verdict (some baseSha) failure (some audit)

/-- `execute`. -/
def execute (w : World) (mission : Mission) : Outcome :=
  match w.base with
  | .raised error => ⟨.error error, false, none⟩
  | .failed =>
    finish w mission false (buildReport mission .failed none (some "unresolved base_ref") none)
  | .answered baseSha =>
    match w.add with
    | .raised error => ⟨.error error, w.created, none⟩
    | .failed =>
      finish w mission w.created (buildReport mission .failed (some baseSha) none none)
    | .answered _ =>
      match runAndAudit w mission baseSha, w.remove with
      | _, .raised error => ⟨.error error, !w.removed, none⟩
      | .error error, _ => ⟨.error error, !w.removed, none⟩
      | .ok payload, _ => finish w mission (!w.removed) payload

end Worktree

end Mpango
