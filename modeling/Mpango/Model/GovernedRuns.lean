import Mpango.Model.GovernedExecution

/-!
# Governed executions in turns

The three entry points of `p22` are coroutines of one process: each takes the time and looks up its
dry-run and its recorded request, waits for the approval it names to be read, and finishes with what
was read and the store as it is then. In between, other calls run, and the approvals change as they
like, also after the read.

An approval is stored with the redaction of the actors who authenticated. `GovernedApproval` keeps
the actors beside it: no code reads them, they are what the operator separation is about.
-/

namespace Mpango

namespace Execution

open Durable

/-- An approval as the approval services can hold it: for an action of the catalog, opened and
decided by authenticated actors. -/
structure GovernedApproval where
  approvalId : String
  state : ApprovalState
  quorumRequired : ℕ
  quorumMet : Bool
  makerActor : String
  checkerActors : List String
  sourceStatus : ExecutionSourceStatus
  actionType : ActionType
  tenantId : Option String
  expiresAt : Instant
  maker_ne : makerActor ≠ ""
  checkers_ne : "" ∉ checkerActors

inductive Call
  | dryRun (req : DryRunRequest)
  | request (req : ExecutionRequest)
  | complete (req : GovernedRequest) (read : BackupCheckSummary)

def Call.durableApprovalId : Call → Option String
  | dryRun req => req.durableApprovalId
  | request req => req.durableApprovalId
  | complete req _ => req.durableApprovalId

/-- A call that waits for its approval: when it began, the store it has seen, and what the read of
the approval found, once it is made. -/
structure Waiting where
  call : Call
  now : Instant
  store : ExecutionStore
  found : Option (Option GovernedApproval)

/-- The approvals, the store and the calls that wait. -/
structure Governed (ι : Type) where
  approvals : String → Option GovernedApproval
  store : ExecutionStore
  waiting : ι → Option Waiting

inductive Turn (ι : Type)
  | begin (i : ι) (now : Instant) (call : Call)
  | read (i : ι)
  | finish (i : ι) (newId : Uuid)
  | change (approvals : String → Option GovernedApproval)

variable (env : Primitives)

/-- What the approval services show of an approval. -/
def GovernedApproval.snapshot (approval : GovernedApproval) : ApprovalSnapshot where
  approvalId := approval.approvalId
  state := approval.state
  quorumRequired := approval.quorumRequired
  quorumMet := approval.quorumMet
  maker := env.redactReason approval.makerActor
  checkerIds := approval.checkerActors.map env.redactReason
  sourceStatus := approval.sourceStatus
  actionType := approval.actionType.text
  tenantId := approval.tenantId
  expiresAt := approval.expiresAt

/-- `record_execution_request`, which looks its dry-run up before it waits. -/
def recordAfterWait (now : Instant) (newId : Uuid) (approval? : Option ApprovalSnapshot)
    (before store : ExecutionStore) (req : ExecutionRequest) : ExecutionStore × RequestResponse :=
  let (after, answer) :=
    recordExecutionRequest env now newId approval? ⟨before.dryRuns, store.requests⟩ req
  ({ store with requests := after.requests }, answer)

/-- `governedReasons`, which finds its recorded request and its dry-run before it waits. -/
def reasonsAfterWait (now : Instant) (approval? : Option ApprovalSnapshot)
    (before store : ExecutionStore) (req : GovernedRequest) : List BlockReason :=
  match norm req.executionRequestId with
  | none => [.executionRequestRequired]
  | some _ =>
    match before.requests.find? (orEmpty req.executionRequestId) with
    | none => [.executionRequestNotFound]
    | some stored =>
      if req.matchesRecorded stored then
        preflightReasons now approval? ⟨before.dryRuns, store.requests⟩ req
      else [.executionRequestMismatch]

namespace Governed

variable {ι : Type} [DecidableEq ι]

def init : Governed ι := ⟨fun _ => none, .empty, fun _ => none⟩

/-- The approval an id names. -/
def approval (s : Governed ι) (approvalId : Option String) : Option GovernedApproval :=
  if isAbsent approvalId then none else s.approvals (orEmpty approvalId)

/-- The answer to an execution request that has waited. -/
def answer (s : Governed ι) (w : Waiting) (found : Option GovernedApproval) (newId : Uuid)
    (req : ExecutionRequest) : ExecutionStore × RequestResponse :=
  recordAfterWait env w.now newId (found.map (·.snapshot env)) w.store s.store req

/-- The reasons that block a governed completion that has waited; with none, it reads the source. -/
def reasons (s : Governed ι) (w : Waiting) (found : Option GovernedApproval)
    (req : GovernedRequest) : List BlockReason :=
  reasonsAfterWait w.now (found.map (·.snapshot env)) w.store s.store req

/-- The store a call leaves. A completion leaves it as it is. -/
def storeAfter (s : Governed ι) (w : Waiting) (found : Option GovernedApproval) (newId : Uuid) :
    ExecutionStore :=
  match w.call with
  | .dryRun req => (evaluateDryRun w.now newId (found.map (·.snapshot env)) s.store req).1
  | .request req => (s.answer env w found newId req).1
  | .complete _ _ => s.store

def step (s : Governed ι) : Turn ι → Governed ι
  | .begin i now call =>
    { s with waiting := Function.update s.waiting i (some ⟨call, now, s.store, none⟩) }
  | .read i =>
    match s.waiting i with
    | none => s
    | some w =>
      let found := w.found.or (some (s.approval w.call.durableApprovalId))
      { s with waiting := Function.update s.waiting i (some { w with found }) }
  | .finish i newId =>
    match s.waiting i with
    | some ⟨call, now, store, some found⟩ =>
      { s with
        store := s.storeAfter env ⟨call, now, store, some found⟩ found newId
        waiting := Function.update s.waiting i none }
    | _ => s
  | .change approvals => { s with approvals }

end Governed

end Execution

end Mpango
