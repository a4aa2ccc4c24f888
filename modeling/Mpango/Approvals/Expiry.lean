import Mpango.Library.Run
import Mpango.Spec.Approvals

/-!
# The expiry of approvals

Every approval carries an `expires_at`, checked to lie ahead when the approval is opened. After that
only the sweep of the workflow looks at it: no decision and no execution compares it with the clock.
So an operation at or after the expiry goes through exactly when it is in order otherwise, and the
expiry is respected along a run exactly when no operation of the run is late and in order
(`expiry_respected_iff`). The one protection there is comes from a sweep: what a sweep has marked is
never approved afterwards (`sweep_protects`).
-/

namespace Mpango

open Durable Execution

/-! ## Stores that approve nothing late -/

namespace Table

variable {ρ κ : Type} [Keyed ρ κ] [DecidableEq κ] {approved : ρ → Prop} {expiresAt : ρ → Instant}
  {now : Instant} {t t' : Table ρ}

/-- From one store to the next, no row that had expired became approved. -/
def NoneLate (approved : ρ → Prop) (expiresAt : ρ → Instant) (now : Instant) (t t' : Table ρ) :
    Prop :=
  ∀ x ∈ t, ∀ x' ∈ t', key x' = key x → expiresAt x ≤ now → approved x' → approved x

omit [DecidableEq κ] in
theorem NoneLate.refl : NoneLate approved expiresAt now t t := by
  intro x hx x' hx' hkey _ happroved
  rwa [eq_of_key_eq hx hx' hkey.symm]

/-- Assigning a row that is not approved approves nothing. -/
theorem NoneLate.put {r : ρ} (h : ¬approved r) : NoneLate approved expiresAt now t (t.put r) := by
  intro x hx x' hx' hkey _ happroved
  rcases mem_put.mp hx' with ⟨hx', -⟩ | rfl
  · rwa [eq_of_key_eq hx hx' hkey.symm]
  · exact absurd happroved h

/-- Assigning a row in the place of one that is not approved: late exactly when the old one had
expired and the new one is approved. -/
theorem noneLate_put_iff {old r : ρ} (hold : old ∈ t) (hkey : key r = key old)
    (hpending : ¬approved old) :
    NoneLate approved expiresAt now t (t.put r) ↔ (expiresAt old ≤ now → ¬approved r) := by
  constructor
  · intro h hlate happroved
    exact hpending (h old hold r (mem_put.mpr (.inr rfl)) hkey hlate happroved)
  · intro h x hx x' hx' hkey' hlate happroved
    rcases mem_put.mp hx' with ⟨hx', -⟩ | rfl
    · rwa [eq_of_key_eq hx hx' hkey'.symm]
    · have hxold : x = old := eq_of_key_eq hx hold (hkey'.symm.trans hkey)
      subst hxold
      exact absurd happroved (h hlate)

/-- Writing over the row with the same key is assigning it. -/
theorem put_eq_set {old r : ρ} (hold : old ∈ t) (hkey : key r = key old) : t.put r = t.set r :=
  put_of_find? (hkey ▸ find?_key hold)

end Table

/-! ## The workflow -/

namespace Workflow

variable {env : Primitives} {now : Instant} {store : Store}

def StoredApproval.IsApproved (approval : StoredApproval) : Prop :=
  approval.state = .executionBlocked

/-- The operation approves no approval of the workflow that has expired. -/
def RespectsExpiry (now : Instant) (store store' : Store) : Prop :=
  Table.NoneLate StoredApproval.IsApproved StoredApproval.expiresAt now store store'

/-- A well-formed approve finds the approval pending and its source available. -/
def StoredApproval.Approvable (approval : StoredApproval) (req : DecisionRequest) : Prop :=
  Decision.ofText? req.decision = some .approve ∧ req.WellFormed ∧
    approval.state = .pendingReview ∧ approval.sourceStatus = .available

theorem check_eq_approve {approval : StoredApproval} {req : DecisionRequest} :
    approval.check env req = .ok .approve ↔ approval.Approvable req := by
  rw [check_eq_ok]
  exact ⟨fun h => ⟨h.1, h.2.1, h.2.2.1, h.2.2.2 rfl⟩, fun h => ⟨h.1, h.2.1, h.2.2.1, fun _ => h.2.2.2⟩⟩

theorem createApproval_respects {ctx : ActionContext} {newId : Uuid} {req : ApprovalRequest} :
    RespectsExpiry now store (createApproval env now ctx newId store req).1 := by
  rcases createApproval_store env now ctx newId store req with h | ⟨x, hx, h⟩
  · rw [h]
    exact Table.NoneLate.refl
  · rw [h]
    refine Table.NoneLate.put ?_
    rw [StoredApproval.IsApproved, hx]
    decide

theorem cancelApproval_respects {approvalId : String} :
    RespectsExpiry now store (cancelApproval now store approvalId).1 := by
  rcases cancelApproval_store now store approvalId with h | ⟨x, hx, h⟩
  · rw [h]
    exact Table.NoneLate.refl
  · rw [h]
    refine Table.NoneLate.put ?_
    rw [StoredApproval.IsApproved, hx]
    decide

theorem sweepExpired_respects : RespectsExpiry now store (sweepExpired now store) := by
  intro x hx x' hx' hkey _ happroved
  obtain ⟨y, hy, hy'⟩ := Table.mem_updateWhere.mp hx'
  split at hy'
  · subst hy'
    exact absurd happroved (by simp [StoredApproval.IsApproved, StoredApproval.moved])
  · subst hy'
    rwa [Table.eq_of_key_eq hx hy hkey.symm]

/-- A decision respects the expiry exactly when it is no approve in order of an expired approval. -/
theorem submitDecision_respects_iff (env : Primitives) (now : Instant) (store : Store)
    (req : DecisionRequest) :
    RespectsExpiry now store (submitDecision env now store req).1 ↔
      ∀ a ∈ store, a.approvalId = req.approvalId → a.expiresAt ≤ now → ¬a.Approvable req := by
  constructor
  · intro h a ha hid hlate happrovable
    have hcheck : a.check env req = .ok .approve := check_eq_approve.mpr happrovable
    rw [submitDecision_of_check ha hid hcheck] at h
    have hpending : ¬a.IsApproved := by
      rw [StoredApproval.IsApproved, happrovable.2.2.1]
      decide
    exact (Table.noneLate_put_iff (r := a.decided env now req .approve) ha rfl hpending).mp h hlate
      rfl
  · intro h
    rcases submitDecision_store env now store req with
      hsame | ⟨a, ha, hid, decision, hcheck, hput⟩
    · rw [hsame]
      exact Table.NoneLate.refl
    · rw [hput]
      have hpending : ¬a.IsApproved := by
        rw [StoredApproval.IsApproved, (check_eq_ok.mp hcheck).2.2.1]
        decide
      refine (Table.noneLate_put_iff (r := a.decided env now req decision) ha rfl hpending).mpr
        fun hlate happroved => ?_
      cases decision with
      | reject => exact absurd happroved (by simp [StoredApproval.IsApproved,
          StoredApproval.decided, resolvedState])
      | approve => exact h a ha hid hlate (check_eq_approve.mp hcheck)

end Workflow

/-! ## The memory backend -/

namespace Durable

variable {env : Primitives} {now : Instant} {store : MemoryStore} {db : ApprovalDb}

def StoredApproval.IsApproved (approval : StoredApproval) : Prop :=
  approval.state = .approvedExecutionBlocked

def DurableApprovalRequest.IsApproved (row : DurableApprovalRequest) : Prop :=
  row.state = .approvedExecutionBlocked

/-- The fields of a request are in order, and it is this checker's approve. -/
def DecisionRequest.IsApproveBy (env : Primitives) (req : DecisionRequest) (checker : String) :
    Prop :=
  checkDecision env req = .ok (checker, .approve)

/-- A checker's approve would complete the quorum of a pending approval: the checker is not the
maker and has not decided, and the source is valid. -/
def CompletesQuorum (standing : Standing) (quorumRequired approvals : ℕ) (own : Option Decision)
    (checker : String) : Prop :=
  standing.state = .pendingReview ∧ checker ≠ standing.maker ∧ own = none ∧
    standing.validationStatus = .valid ∧ quorumRequired ≤ approvals + 1

/-- The policy records such an approve, and no other that reaches the quorum. -/
theorem completesQuorum_iff {standing : Standing} {quorumRequired approvals : ℕ}
    {own : Option Decision} {checker : String} :
    CompletesQuorum standing quorumRequired approvals own checker ↔
      standing.judge own checker .approve = .record ∧ quorumRequired ≤ approvals + 1 := by
  rw [Standing.judge_eq_record]
  constructor
  · rintro ⟨hstate, hmaker, hown, hvalid, hquorum⟩
    exact ⟨⟨hstate, hmaker, hown, fun _ => hvalid⟩, hquorum⟩
  · rintro ⟨⟨hstate, hmaker, hown, hvalid⟩, hquorum⟩
    exact ⟨hstate, hmaker, hown, hvalid rfl, hquorum⟩

/-- A request in order would approve an approval of the memory backend. -/
def StoredApproval.Approvable (env : Primitives) (approval : StoredApproval)
    (req : DecisionRequest) : Prop :=
  ∃ checker, req.IsApproveBy env checker ∧ CompletesQuorum approval.standing
    approval.quorumRequired approval.approveCount (approval.ownDecision checker) checker

theorem memoryCreate_respects {ctx : ActionContext} {newId : Uuid} {req : CreateRequest} :
    Table.NoneLate StoredApproval.IsApproved StoredApproval.expiresAt now store
      (memoryCreate env now ctx newId store req).1 := by
  rcases memoryCreate_store env now ctx newId store req with h | ⟨x, hx, h⟩
  · rw [h]
    exact Table.NoneLate.refl
  · rw [h]
    refine Table.NoneLate.put ?_
    rw [StoredApproval.IsApproved, hx]
    decide

/-- Recording a decision approves exactly when it is an approve that completes the quorum. -/
theorem recordDecision_isApproved {a : StoredApproval} {req : DecisionRequest} {checker : String}
    {decision : Decision} (hpending : a.state = .pendingReview) :
    (a.recordDecision env now req checker decision).1.IsApproved ↔
      decision = .approve ∧ a.quorumRequired ≤ a.approveCount + 1 := by
  unfold StoredApproval.recordDecision StoredApproval.IsApproved
  cases decision with
  | reject => simp
  | approve =>
    have hcount : (a.withChecker env now req checker .approve).approveCount = a.approveCount + 1 := by
      simp [StoredApproval.approveCount, StoredApproval.withChecker]
    dsimp only
    rw [hcount]
    split
    · next hquorum => simp [hquorum]
    · next hquorum => simp [hquorum, StoredApproval.withChecker, hpending]

/-- A decision on the memory backend respects the expiry exactly when it is no approve in order that
completes the quorum of an expired approval. -/
theorem memorySubmitDecision_respects_iff (env : Primitives) (now : Instant) (store : MemoryStore)
    (req : DecisionRequest) :
    Table.NoneLate StoredApproval.IsApproved StoredApproval.expiresAt now store
        (memorySubmitDecision env now store req).1 ↔
      ∀ a ∈ store, a.approvalId = req.approvalId → a.expiresAt ≤ now → ¬a.Approvable env req := by
  constructor
  · rintro h a ha hid hlate ⟨checker, hcheck, hcompletes⟩
    obtain ⟨hjudge, hquorum⟩ := completesQuorum_iff.mp hcompletes
    have hstate : a.state = .pendingReview := hcompletes.1
    rw [memorySubmitDecision_of_record ha hid hcheck hjudge] at h
    have hpending : ¬a.IsApproved := by
      rw [StoredApproval.IsApproved, hstate]
      decide
    have hkey : key (a.recordDecision env now req checker .approve).1 = key a := by
      unfold StoredApproval.recordDecision
      dsimp only
      split <;> rfl
    exact (Table.noneLate_put_iff ha hkey hpending).mp h hlate
      ((recordDecision_isApproved hstate).mpr ⟨rfl, hquorum⟩)
  · intro h
    rcases memorySubmitDecision_store env now store req with
      hsame | ⟨a, ha, hid, checker, decision, hcheck, hjudge, hput⟩
    · rw [hsame]
      exact Table.NoneLate.refl
    · rw [hput]
      have hstate : a.state = .pendingReview := (Standing.judge_eq_record.mp hjudge).1
      have hpending : ¬a.IsApproved := by
        rw [StoredApproval.IsApproved, hstate]
        decide
      have hkey : key (a.recordDecision env now req checker decision).1 = key a := by
        unfold StoredApproval.recordDecision
        cases decision
        · dsimp only
          split <;> rfl
        · rfl
      refine (Table.noneLate_put_iff ha hkey hpending).mpr fun hlate happroved => ?_
      obtain ⟨rfl, hquorum⟩ := (recordDecision_isApproved hstate).mp happroved
      exact h a ha hid hlate ⟨checker, hcheck, completesQuorum_iff.mpr ⟨hjudge, hquorum⟩⟩

/-! ## The durable backend -/

/-- A request in order would approve an approval of the durable backend, and the database takes what
it writes. -/
def DurableApprovalRequest.Approvable (env : Primitives) (now : Instant) (db : ApprovalDb)
    (row : DurableApprovalRequest) (req : DecisionRequest) : Prop :=
  (∃ checker, req.IsApproveBy env checker ∧ CompletesQuorum row.standing row.quorumRequired
    (approveCount (db.decisionsOf row.approvalId))
    (ownDecision (db.decisionsOf row.approvalId) checker) checker) ∧
  ∃ db', runScript db
    (decidePlan env now (some row) (db.decisionsOf row.approvalId) req).script = .ok db'

theorem durableCreate_respects {ctx : ActionContext} {newId newActionId : Uuid}
    {req : CreateRequest} :
    Table.NoneLate DurableApprovalRequest.IsApproved DurableApprovalRequest.expiresAt now
      db.requests (durableCreate env now ctx newId newActionId db req).1.requests := by
  unfold durableCreate
  split
  · exact Table.NoneLate.refl
  · next actionType sourceStatus _ =>
    split
    · next tenantId actionId _ _ =>
      rcases Plan.run_requests (openPlan env now newId (actionId.getD newActionId) tenantId db req
        actionType sourceStatus) db with ⟨db', -, hrun, hreq⟩ | ⟨-, hrun⟩
      · rw [hrun, hreq]
        rcases openPlan_onRequests env now newId (actionId.getD newActionId) tenantId db req
          actionType sourceStatus db.requests with h | ⟨x, hx, h⟩
        · rw [h]
          exact Table.NoneLate.refl
        · rw [h]
          refine Table.NoneLate.put ?_
          rw [DurableApprovalRequest.IsApproved, hx]
          decide
      · rw [hrun]
        exact Table.NoneLate.refl
    · exact Table.NoneLate.refl

/-- A decision on the durable backend respects the expiry exactly when it is no approve in order
that completes the quorum of an expired approval and commits. -/
theorem durableSubmitDecision_respects_iff (env : Primitives) (now : Instant) (db : ApprovalDb)
    (req : DecisionRequest) :
    Table.NoneLate DurableApprovalRequest.IsApproved DurableApprovalRequest.expiresAt now
        db.requests (durableSubmitDecision env now db req).1.requests ↔
      ∀ row ∈ db.requests, Uuid.parse req.approvalId = some row.approvalId →
        row.expiresAt ≤ now → ¬row.Approvable env now db req := by
  constructor
  · rintro h row hrow hid hlate ⟨⟨checker, hcheck, hcompletes⟩, db', hrun⟩
    obtain ⟨hjudge, hquorum⟩ := completesQuorum_iff.mp hcompletes
    have hstate : row.state = .pendingReview := hcompletes.1
    have hfind : db.requests.find? row.approvalId = some row := Table.find?_key hrow
    obtain ⟨audit, outcome, hplan⟩ := decidePlan_of_record now hcheck hjudge
    rw [if_pos (by omega : row.quorumRequired ≤ 1 + approveCount (db.decisionsOf row.approvalId))]
      at hplan
    have hreq : db'.requests =
        db.requests.put (row.advanced now .approvedExecutionBlocked .approve true) := by
      rw [(runScript_tables hrun).1, Plan.foldl_onRequests, hplan, Table.put_eq_set
        (r := row.advanced now .approvedExecutionBlocked .approve true) hrow rfl]
      rfl
    have hdb : (durableSubmitDecision env now db req).1 = db' := by
      simp only [durableSubmitDecision, hid, hfind, Plan.run, hrun]
    have hpending : ¬row.IsApproved := by
      rw [DurableApprovalRequest.IsApproved, hstate]
      decide
    rw [hdb, hreq] at h
    exact (Table.noneLate_put_iff (r := row.advanced now .approvedExecutionBlocked .approve true)
      hrow rfl hpending).mp h hlate rfl
  · intro h
    unfold durableSubmitDecision
    cases hid : Uuid.parse req.approvalId with
    | none => exact Table.NoneLate.refl
    | some id =>
      dsimp only
      rcases Plan.run_requests (decidePlan env now (db.requests.find? id) (db.decisionsOf id) req) db
        with ⟨db', hscript, hrun, hreq⟩ | ⟨-, hrun⟩
      · rw [hrun, hreq]
        rcases decidePlan_cases env now (db.requests.find? id) (db.decisionsOf id) req with
          ⟨refusal, audit, hplan⟩ | ⟨row, audit, -, hplan⟩ | ⟨row, checker, decision, hfind, hcheck,
            hjudge⟩
        · rw [hplan]
          exact Table.NoneLate.refl
        · rw [hplan]
          exact Table.NoneLate.refl
        · obtain ⟨hrow, hkey⟩ := Table.find?_eq_some.mp hfind
          have hid' : id = row.approvalId := hkey.symm
          subst hid'
          have hstate : row.state = .pendingReview := (Standing.judge_eq_record.mp hjudge).1
          have hpending : ¬row.IsApproved := by
            rw [DurableApprovalRequest.IsApproved, hstate]
            decide
          obtain ⟨audit, outcome, hplan⟩ := decidePlan_of_record now hcheck hjudge
          rw [hfind] at hscript ⊢
          rw [hplan]
          cases decision with
          | reject =>
            show Table.NoneLate _ _ _ _ (db.requests.set _)
            rw [← Table.put_eq_set (r := row.advanced now .rejected .reject false) hrow rfl]
            refine Table.NoneLate.put ?_
            simp [DurableApprovalRequest.IsApproved, DurableApprovalRequest.advanced]
          | approve =>
            dsimp only
            split
            · next hquorum =>
              show Table.NoneLate _ _ _ _ (db.requests.set _)
              rw [← Table.put_eq_set
                (r := row.advanced now .approvedExecutionBlocked .approve true) hrow rfl]
              refine (Table.noneLate_put_iff
                (r := row.advanced now .approvedExecutionBlocked .approve true) hrow rfl
                hpending).mpr fun hlate _ => ?_
              have hreached : row.quorumRequired ≤
                  approveCount (db.decisionsOf row.approvalId) + 1 := by omega
              have hcompletes := completesQuorum_iff.mpr ⟨hjudge, hreached⟩
              exact h row hrow hid hlate ⟨⟨checker, hcheck, hcompletes⟩, db', hscript⟩
            · exact Table.NoneLate.refl
      · rw [hrun]
        exact Table.NoneLate.refl

end Durable

/-! ## Executions -/

namespace Execution

variable {env : Primitives} {now : Instant} {store : ExecutionStore}

/-- The preconditions an approval imposes on an execution. None of them is about time. -/
def ApprovalSnapshot.Permits (approval : ApprovalSnapshot)
    (actionType executor tenantId : Option String) : Prop :=
  approval.state = .approvedExecutionBlocked ∧ approval.quorumMet = true ∧
  ¬(approval.actionType ≠ "" ∧ isAbsent actionType = false ∧ some approval.actionType ≠ actionType) ∧
  norm approval.tenantId = norm tenantId ∧
  ¬((namedAction actionType).any (fun a => isAllowed a ∧ a.classification ≠ .read) ∧
    approval.sourceStatus ≠ .known) ∧
  ¬(isAbsent executor = false ∧ approval.maker ≠ "" ∧ executor = some approval.maker) ∧
  ¬(isAbsent executor = false ∧ orEmpty executor ∈ approval.checkerIds)

theorem check_eq_nil {approval : ApprovalSnapshot} {actionType executor tenantId : Option String} :
    approval.check actionType executor tenantId = [] ↔
      approval.Permits actionType executor tenantId := by
  unfold ApprovalSnapshot.check ApprovalSnapshot.Permits
  simp only [List.append_eq_nil_iff, blockIf_eq_nil, not_not, Bool.not_eq_false, and_assoc]

theorem checkApprovalPreconditions_eq_nil {approval? : Option ApprovalSnapshot}
    {actionType executor tenantId : Option String} :
    checkApprovalPreconditions approval? actionType executor tenantId = [] ↔
      ∃ approval, approval? = some approval ∧ approval.Permits actionType executor tenantId := by
  cases approval? with
  | none => simp [checkApprovalPreconditions]
  | some approval => simp [checkApprovalPreconditions, check_eq_nil]

/-- The sender may execute. -/
def IsExecutor (sender : Sender) : Prop :=
  sender.actorRole = .superAdmin ∧ sender.identityContext = .identityOnly

theorem executorBlockReason_eq_nil {sender : Sender} :
    executorBlockReason sender = [] ↔ IsExecutor sender := by
  rw [executorBlockReason, blockIf_eq_nil, not_not, IsExecutor]

/-- A dry-run request is in order, for the approval it resolves to. -/
def DryRunRequest.InOrder (req : DryRunRequest) (approval : ApprovalSnapshot) : Prop :=
  IsExecutor req.sender ∧ stripped req.idempotencyKey ≠ "" ∧ stripped req.reason ≠ "" ∧
    isMode req.executionMode = true ∧ classifyAction req.actionType = [] ∧
    approval.Permits req.actionType req.sender.actor req.tenantId

theorem dryRunReasons_eq_nil {approval? : Option ApprovalSnapshot} {req : DryRunRequest} :
    dryRunReasons approval? req = [] ↔ ∃ approval, approval? = some approval ∧ req.InOrder approval := by
  unfold dryRunReasons DryRunRequest.InOrder
  simp only [List.append_eq_nil_iff, blockIf_eq_nil, executorBlockReason_eq_nil,
    checkApprovalPreconditions_eq_nil, Bool.not_eq_false, and_assoc]
  constructor
  · rintro ⟨hex, hkey, hreason, hmode, hclass, approval, hsome, hpermits⟩
    exact ⟨approval, hsome, hex, hkey, hreason, hmode, hclass, hpermits⟩
  · rintro ⟨approval, hsome, hex, hkey, hreason, hmode, hclass, hpermits⟩
    exact ⟨hex, hkey, hreason, hmode, hclass, approval, hsome, hpermits⟩

theorem evaluateDryRun_passes {newId : Uuid} {approval? : Option ApprovalSnapshot}
    {req : DryRunRequest} :
    (evaluateDryRun now newId approval? store req).2 = [] ↔
      ∃ approval, approval? = some approval ∧ req.InOrder approval := by
  rw [← dryRunReasons_eq_nil]
  unfold evaluateDryRun
  dsimp only
  split <;> exact Iff.rfl

/-- An execution request is in order, for the approval it resolves to. -/
def ExecutionRequest.InOrder (req : ExecutionRequest) (now : Instant) (store : ExecutionStore)
    (approval : ApprovalSnapshot) : Prop :=
  IsExecutor req.sender ∧ stripped req.idempotencyKey ≠ "" ∧ stripped req.reason ≠ "" ∧
    isMode req.executionMode = true ∧ req.executionAck = true ∧
    classifyAction req.actionType = [] ∧
    dryRunBlock store now req.dryRunRef req.durableApprovalId req.actionType req.tenantId
      req.requestedState req.sender.actor = [] ∧
    approval.Permits req.actionType req.sender.actor req.tenantId

/-- An execution request repeats a recorded one. -/
def ExecutionRequest.Replays (env : Primitives) (req : ExecutionRequest) (store : ExecutionStore) :
    Prop :=
  ∃ existing, req.existing env store = some existing ∧
    existing.payloadDigest = req.payload env ∧ existing.resultState = .dryRunPassed

theorem preconditions_eq_nil {approval? : Option ApprovalSnapshot} {req : ExecutionRequest} :
    req.preconditions now approval? store = [] ↔
      ∃ approval, approval? = some approval ∧ req.InOrder now store approval := by
  unfold ExecutionRequest.preconditions ExecutionRequest.InOrder
  simp only [List.append_eq_nil_iff, blockIf_eq_nil, executorBlockReason_eq_nil,
    checkApprovalPreconditions_eq_nil, Bool.not_eq_false, and_assoc]
  constructor
  · rintro ⟨hex, hkey, hreason, hmode, hack, hclass, hdry, approval, hsome, hpermits⟩
    exact ⟨approval, hsome, hex, hkey, hreason, hmode, hack, hclass, hdry, hpermits⟩
  · rintro ⟨approval, hsome, hex, hkey, hreason, hmode, hack, hclass, hdry, hpermits⟩
    exact ⟨hex, hkey, hreason, hmode, hack, hclass, hdry, approval, hsome, hpermits⟩

/-- A request passes when it repeats a recorded one, or is new and in order. -/
theorem recordExecutionRequest_passes {newId : Uuid} {approval? : Option ApprovalSnapshot}
    {req : ExecutionRequest} :
    (recordExecutionRequest env now newId approval? store req).2.resultState = .dryRunPassed ↔
      req.Replays env store ∨ (req.existing env store = none ∧
        ∃ approval, approval? = some approval ∧ req.InOrder now store approval) := by
  rw [← preconditions_eq_nil]
  unfold recordExecutionRequest ExecutionRequest.Replays
  dsimp only
  cases hexisting : req.existing env store with
  | none =>
    dsimp only
    split
    · next h => simp [h, RequestResponse.resultState, ExecutionRequest.recorded]
    · next h => simp [h, RequestResponse.resultState]
  | some existing =>
    dsimp only
    split
    · next h => simp [h, RequestResponse.resultState]
    · next h => simp [h, RequestResponse.resultState]

/-- A governed request is in order: it is for a recorded request, and its preflight finds the
approval it resolves to permitting. -/
def GovernedRequest.InOrder (req : GovernedRequest) (now : Instant) (store : ExecutionStore)
    (approval : ApprovalSnapshot) : Prop :=
  (∃ stored, norm req.executionRequestId ≠ none ∧
    store.requests.find? (orEmpty req.executionRequestId) = some stored ∧
    req.matchesRecorded stored = true) ∧
  IsExecutor req.sender ∧ isAbsent req.idempotencyKeyDigest = false ∧ req.executionAck = true ∧
    dryRunBlock store now req.dryRunRef req.durableApprovalId governedActionType req.tenantId
      req.requestedState req.sender.actor = [] ∧
    approval.Permits governedActionType req.sender.actor req.tenantId ∧
    isKeyConflict store req.idempotencyKeyDigest req.payloadDigest = false

theorem classifyAction_governed : classifyAction governedActionType = [] := by decide

theorem preflightReasons_eq_nil {approval? : Option ApprovalSnapshot} {req : GovernedRequest} :
    preflightReasons now approval? store req = [] ↔ IsExecutor req.sender ∧
      isAbsent req.idempotencyKeyDigest = false ∧ req.executionAck = true ∧
      dryRunBlock store now req.dryRunRef req.durableApprovalId governedActionType req.tenantId
        req.requestedState req.sender.actor = [] ∧
      (∃ approval, approval? = some approval ∧
        approval.Permits governedActionType req.sender.actor req.tenantId) ∧
      isKeyConflict store req.idempotencyKeyDigest req.payloadDigest = false := by
  unfold preflightReasons
  simp only [List.append_eq_nil_iff, blockIf_eq_nil, executorBlockReason_eq_nil,
    checkApprovalPreconditions_eq_nil, classifyAction_governed, true_and, Bool.not_eq_true,
    Bool.not_eq_false, and_assoc]

theorem governedReasons_eq_nil {approval? : Option ApprovalSnapshot} {req : GovernedRequest} :
    governedReasons now approval? store req = [] ↔
      ∃ approval, approval? = some approval ∧ req.InOrder now store approval := by
  unfold governedReasons GovernedRequest.InOrder
  cases hid : norm req.executionRequestId with
  | none => simp
  | some id =>
    cases hfind : store.requests.find? (orEmpty req.executionRequestId) with
    | none => simp
    | some stored =>
      dsimp only
      cases hmatch : req.matchesRecorded stored with
      | false => simp [hmatch]
      | true =>
        simp only [if_true, preflightReasons_eq_nil]
        constructor
        · rintro ⟨hex, hkey, hack, hdry, ⟨approval, hsome, hpermits⟩, hconflict⟩
          exact ⟨approval, hsome, ⟨stored, by simp, rfl, hmatch⟩, hex, hkey, hack, hdry, hpermits,
            hconflict⟩
        · rintro ⟨approval, hsome, -, hex, hkey, hack, hdry, hpermits, hconflict⟩
          exact ⟨hex, hkey, hack, hdry, ⟨approval, hsome, hpermits⟩, hconflict⟩

theorem completeGovernedBackupCheck_passes {approval? : Option ApprovalSnapshot}
    {req : GovernedRequest} {read : BackupCheckSummary} :
    (completeGovernedBackupCheck now approval? store req read).1 ≠ .blocked ↔
      ∃ approval, approval? = some approval ∧ req.InOrder now store approval := by
  rw [← governedReasons_eq_nil]
  unfold completeGovernedBackupCheck
  dsimp only
  split
  · next h => cases read <;> simp [h, mapReadToResult]
  · next h => simp [h]

end Execution

/-! ## The platform -/

namespace ApprovalSystem

variable {env : Primitives} {s : ApprovalSystem} {now : Instant}

/-- What resolves is the approval the id names. -/
theorem approvalOf_of_resolve {resolver : Resolver} {approvalId : Option String}
    {approval : ApprovalSnapshot}
    (h : (s.resolveApproval env resolver approvalId).2 = some approval) :
    s.approvalOf resolver.mode approvalId = some approval := by
  unfold resolveApproval at h
  split at h
  · cases h
  · split at h
    · next hmode =>
      rw [hmode]
      exact h
    · next hmode =>
      rw [hmode]
      split at h
      · next db row hget =>
        have hrow : (Uuid.parse (orEmpty approvalId)).bind s.durable.requests.find? = some row := by
          unfold getRequest at hget
          split at hget
          · cases hget
          · next row' hfind =>
            split at hget
            · obtain ⟨-, hrow⟩ := Prod.mk.inj hget
              rw [hfind, hrow]
            · cases hget
        rw [approvalOf, hrow]
        exact h
      · cases h

/-- Resolving an approval reads the stores. -/
theorem resolveApproval_frame (env : Primitives) (s : ApprovalSystem) (resolver : Resolver)
    (approvalId : Option String) :
    (s.resolveApproval env resolver approvalId).1.workflow = s.workflow ∧
      (s.resolveApproval env resolver approvalId).1.memory = s.memory ∧
      (s.resolveApproval env resolver approvalId).1.durable.requests = s.durable.requests := by
  unfold resolveApproval
  split
  · exact ⟨rfl, rfl, rfl⟩
  · split
    · exact ⟨rfl, rfl, rfl⟩
    · split
      · next db row hget =>
        have hdb := getRequest_requests env s.durable (orEmpty approvalId)
        rw [hget] at hdb
        exact ⟨rfl, rfl, hdb⟩
      · next db hget =>
        have hdb := getRequest_requests env s.durable (orEmpty approvalId)
        rw [hget] at hdb
        exact ⟨rfl, rfl, hdb⟩

/-- An expired approval authorises nothing in this step: none becomes approved in any of the three
stores, and no execution passes that relies on one. -/
def RespectsExpiry (env : Primitives) (s : ApprovalSystem) (event : Event) : Prop :=
  Workflow.RespectsExpiry event.1 s.workflow (s.step env event).workflow ∧
  Table.NoneLate StoredApproval.IsApproved StoredApproval.expiresAt event.1 s.memory
    (s.step env event).memory ∧
  Table.NoneLate DurableApprovalRequest.IsApproved DurableApprovalRequest.expiresAt event.1
    s.durable.requests (s.step env event).durable.requests ∧
  (s.passes env event.1 event.2 →
    ∀ approval, s.reliedOn event.2 = some approval → event.1 < approval.expiresAt)

/-- The operation is no late one that is in order otherwise. -/
def NotLate (env : Primitives) (s : ApprovalSystem) : Event → Prop
  | (now, .decideWorkflow req) => ∀ a ∈ s.workflow, a.approvalId = req.approvalId →
      a.expiresAt ≤ now → ¬a.Approvable req
  | (now, .decideApproval .memory req) => ∀ a ∈ s.memory, a.approvalId = req.approvalId →
      a.expiresAt ≤ now → ¬a.Approvable env req
  | (now, .decideApproval .durable req) => ∀ row ∈ s.durable.requests,
      Uuid.parse req.approvalId = some row.approvalId → row.expiresAt ≤ now →
      ¬row.Approvable env now s.durable req
  | (now, .dryRun resolver _ req) => ∀ approval,
      s.approvalOf resolver.mode req.durableApprovalId = some approval → approval.expiresAt ≤ now →
      ¬((s.resolveApproval env resolver req.durableApprovalId).2 = some approval ∧
        req.InOrder approval)
  | (now, .requestExecution resolver _ req) => ∀ approval,
      s.approvalOf resolver.mode req.durableApprovalId = some approval → approval.expiresAt ≤ now →
      ¬req.Replays env s.execution ∧ ¬(req.existing env s.execution = none ∧
        (s.resolveApproval env resolver req.durableApprovalId).2 = some approval ∧
        req.InOrder now s.execution approval)
  | (now, .completeBackupCheck resolver req _) => ∀ approval,
      s.approvalOf resolver.mode req.durableApprovalId = some approval → approval.expiresAt ≤ now →
      ¬((s.resolveApproval env resolver req.durableApprovalId).2 = some approval ∧
        req.InOrder now s.execution approval)
  | _ => True

/-- An execution that passes for what its id resolves to passes late exactly when what its id names
has expired. -/
theorem passes_late_iff {resolver : Resolver} {approvalId : Option String}
    {inOrder : ApprovalSnapshot → Prop} :
    ((∃ approval, (s.resolveApproval env resolver approvalId).2 = some approval ∧
        inOrder approval) →
      ∀ approval, s.approvalOf resolver.mode approvalId = some approval → now < approval.expiresAt) ↔
    ∀ approval, s.approvalOf resolver.mode approvalId = some approval → approval.expiresAt ≤ now →
      ¬((s.resolveApproval env resolver approvalId).2 = some approval ∧ inOrder approval) := by
  constructor
  · intro h approval hnamed hlate hpasses
    exact absurd (h ⟨approval, hpasses⟩ approval hnamed) (not_lt.mpr hlate)
  · rintro h ⟨approval, hresolved, hin⟩ approval' hnamed
    have hsame : approval' = approval := by
      rw [approvalOf_of_resolve hresolved] at hnamed
      exact (Option.some.inj hnamed).symm
    subst hsame
    by_contra hlate
    exact h approval' hnamed (not_lt.mp hlate) ⟨hresolved, hin⟩

theorem respectsExpiry_iff (env : Primitives) (s : ApprovalSystem) (event : Event) :
    RespectsExpiry env s event ↔ NotLate env s event := by
  obtain ⟨now, op⟩ := event
  unfold RespectsExpiry
  cases op with
  | openWorkflow ctx newId req =>
    simp only [step, execute]
    exact iff_of_true ⟨Workflow.createApproval_respects, Table.NoneLate.refl, Table.NoneLate.refl,
      False.elim⟩ trivial
  | decideWorkflow req =>
    refine Iff.trans ?_ (Workflow.submitDecision_respects_iff env now s.workflow req)
    exact ⟨fun h => h.1, fun h => ⟨h, Table.NoneLate.refl, Table.NoneLate.refl, False.elim⟩⟩
  | cancelWorkflow approvalId =>
    exact iff_of_true ⟨Workflow.cancelApproval_respects, Table.NoneLate.refl, Table.NoneLate.refl,
      False.elim⟩ trivial
  | sweepWorkflow =>
    exact iff_of_true ⟨Workflow.sweepExpired_respects, Table.NoneLate.refl, Table.NoneLate.refl,
      False.elim⟩ trivial
  | openApproval mode ctx newId newActionId req =>
    cases mode with
    | memory =>
      simp only [step, execute]
      exact iff_of_true ⟨Table.NoneLate.refl, memoryCreate_respects, Table.NoneLate.refl,
        False.elim⟩ trivial
    | durable =>
      simp only [step, execute]
      exact iff_of_true ⟨Table.NoneLate.refl, Table.NoneLate.refl, durableCreate_respects,
        False.elim⟩ trivial
  | decideApproval mode req =>
    cases mode with
    | memory =>
      simp only [step, execute]
      refine Iff.trans ?_ (memorySubmitDecision_respects_iff env now s.memory req)
      exact ⟨fun h => h.2.1, fun h => ⟨Table.NoneLate.refl, h, Table.NoneLate.refl, False.elim⟩⟩
    | durable =>
      simp only [step, execute]
      refine Iff.trans ?_ (durableSubmitDecision_respects_iff env now s.durable req)
      exact ⟨fun h => h.2.2.1, fun h => ⟨Table.NoneLate.refl, Table.NoneLate.refl, h, False.elim⟩⟩
  | dryRun resolver newId req =>
    obtain ⟨hworkflow, hmemory, hdurable⟩ :=
      resolveApproval_frame env s resolver req.durableApprovalId
    refine Iff.trans ?_ passes_late_iff
    simp only [step, execute, passes, reliedOn, evaluateDryRun_passes, hworkflow, hmemory, hdurable]
    exact ⟨fun h => h.2.2.2, fun h => ⟨Table.NoneLate.refl, Table.NoneLate.refl,
      Table.NoneLate.refl, h⟩⟩
  | requestExecution resolver newId req =>
    obtain ⟨hworkflow, hmemory, hdurable⟩ :=
      resolveApproval_frame env s resolver req.durableApprovalId
    simp only [step, execute, passes, reliedOn, recordExecutionRequest_passes, hworkflow, hmemory,
      hdurable, NotLate]
    constructor
    · rintro ⟨-, -, -, h⟩ approval hnamed hexpired
      have hnot : ¬now < approval.expiresAt := not_lt.mpr hexpired
      refine ⟨fun hreplay => hnot (h (.inl hreplay) approval hnamed), ?_⟩
      rintro ⟨hnew, hresolved, hin⟩
      exact hnot (h (.inr ⟨hnew, approval, hresolved, hin⟩) approval hnamed)
    · intro h
      refine ⟨Table.NoneLate.refl, Table.NoneLate.refl, Table.NoneLate.refl, ?_⟩
      rintro (hreplay | ⟨hnew, hpasses⟩) approval hnamed
      · by_contra hexpired
        exact (h approval hnamed (not_lt.mp hexpired)).1 hreplay
      · exact passes_late_iff.mpr
          (fun approval hnamed hexpired hpass => (h approval hnamed hexpired).2 ⟨hnew, hpass⟩)
          hpasses approval hnamed
  | completeBackupCheck resolver req read =>
    obtain ⟨hworkflow, hmemory, hdurable⟩ :=
      resolveApproval_frame env s resolver req.durableApprovalId
    refine Iff.trans ?_ passes_late_iff
    simp only [step, execute, passes, reliedOn, completeGovernedBackupCheck_passes, hworkflow,
      hmemory, hdurable]
    exact ⟨fun h => h.2.2.2, fun h => ⟨Table.NoneLate.refl, Table.NoneLate.refl,
      Table.NoneLate.refl, h⟩⟩

/-! ## What a sweep protects -/

/-- The approval is in the workflow and marked expired. -/
def MarkedExpired (s : ApprovalSystem) (approvalId : String) : Prop :=
  ∃ a, s.workflow.find? approvalId = some a ∧ a.state = .expired

/-- The operation opens no approval under this id. -/
def LeavesId (approvalId : String) : Operation → Prop
  | .openWorkflow _ newId _ => newId.text ≠ approvalId
  | _ => True

/-- A marked approval stays marked: no decision, cancellation or sweep touches it. -/
theorem MarkedExpired.step {approvalId : String} (h : MarkedExpired s approvalId) {event : Event}
    (hid : LeavesId approvalId event.2) : MarkedExpired (s.step env event) approvalId := by
  obtain ⟨a, hfind, hstate⟩ := h
  obtain ⟨hmem, hkey⟩ := Table.find?_eq_some.mp hfind
  obtain ⟨now, op⟩ := event
  -- an assignment under another id leaves the approval where it is
  have hput : ∀ x : Workflow.StoredApproval, x.approvalId ≠ approvalId →
      (s.workflow.put x).find? approvalId = some a := fun x hx => by
    rw [Table.find?_put_of_ne (Ne.symm hx), hfind]
  cases op with
  | openWorkflow ctx newId req =>
    simp only [MarkedExpired, ApprovalSystem.step, execute]
    unfold Workflow.createApproval
    split
    · exact ⟨a, hfind, hstate⟩
    · dsimp only
      split
      · split <;> exact ⟨a, hfind, hstate⟩
      · exact ⟨a, hput _ hid, hstate⟩
  | decideWorkflow req =>
    simp only [MarkedExpired, ApprovalSystem.step, execute]
    rcases Workflow.submitDecision_store env now s.workflow req with
      hsame | ⟨x, hx, hxid, decision, hcheck, hstore⟩
    · exact ⟨a, by rw [hsame, hfind], hstate⟩
    · have hne : x.approvalId ≠ approvalId := by
        intro heq
        have hxa : x = a := Table.eq_of_key_eq hx hmem (heq.trans hkey.symm)
        rw [hxa, Workflow.check_eq_ok, hstate] at hcheck
        exact absurd hcheck.2.2.1 (by decide)
      exact ⟨a, by rw [hstore, hput (x.decided env now req decision) hne], hstate⟩
  | cancelWorkflow id =>
    simp only [MarkedExpired, ApprovalSystem.step, execute]
    unfold Workflow.cancelApproval
    split
    · exact ⟨a, hfind, hstate⟩
    · next x hx =>
      obtain ⟨hxmem, -⟩ := Table.find?_eq_some.mp hx
      split
      · next hpending =>
        have hne : x.approvalId ≠ approvalId := by
          intro heq
          have hxa : x = a := Table.eq_of_key_eq hxmem hmem (heq.trans hkey.symm)
          rw [hxa, hstate] at hpending
          cases hpending
        exact ⟨a, hput (x.moved .cancelled now) hne, hstate⟩
      · exact ⟨a, hfind, hstate⟩
  | sweepWorkflow =>
    refine ⟨a, ?_, hstate⟩
    show (Workflow.sweepExpired now s.workflow).find? approvalId = some a
    have hdue : a.isDue now = false := by simp [Workflow.StoredApproval.isDue, hstate]
    rw [Workflow.sweepExpired, Table.find?_updateWhere, hfind, Option.map_some, hdue]
    rfl
  | openApproval mode ctx newId newActionId req => cases mode <;> exact ⟨a, hfind, hstate⟩
  | decideApproval mode req => cases mode <;> exact ⟨a, hfind, hstate⟩
  | dryRun resolver newId req =>
    refine ⟨a, ?_, hstate⟩
    show (s.resolveApproval env resolver req.durableApprovalId).1.workflow.find? approvalId = some a
    rw [(resolveApproval_frame env s resolver req.durableApprovalId).1, hfind]
  | requestExecution resolver newId req =>
    refine ⟨a, ?_, hstate⟩
    show (s.resolveApproval env resolver req.durableApprovalId).1.workflow.find? approvalId = some a
    rw [(resolveApproval_frame env s resolver req.durableApprovalId).1, hfind]
  | completeBackupCheck resolver req read =>
    refine ⟨a, ?_, hstate⟩
    show (s.resolveApproval env resolver req.durableApprovalId).1.workflow.find? approvalId = some a
    rw [(resolveApproval_frame env s resolver req.durableApprovalId).1, hfind]

/-- A pending approval that a sweep finds expired is marked then, and whatever comes afterwards it
is never approved. -/
theorem sweep_protects {a : Workflow.StoredApproval} (ha : a ∈ s.workflow)
    (hpending : a.state = .pendingReview) (hexpired : a.expiresAt ≤ now) (events : List Event)
    (hids : ∀ event ∈ events, LeavesId a.approvalId event.2) :
    MarkedExpired (events.foldl (step env) (s.step env (now, .sweepWorkflow))) a.approvalId := by
  have hswept : MarkedExpired (s.step env (now, .sweepWorkflow)) a.approvalId := by
    refine ⟨a.moved .expired now, ?_, rfl⟩
    show (Workflow.sweepExpired now s.workflow).find? a.approvalId = _
    have hfind : s.workflow.find? a.approvalId = some a := Table.find?_key ha
    have hdue : a.isDue now = true := by simp [Workflow.StoredApproval.isDue, hpending, hexpired]
    rw [Workflow.sweepExpired, Table.find?_updateWhere, hfind, Option.map_some, hdue]
    rfl
  generalize s.step env (now, .sweepWorkflow) = s' at hswept
  induction events generalizing s' with
  | nil => exact hswept
  | cons event events ih =>
    rw [List.foldl_cons]
    exact ih (fun e he => hids e (List.mem_cons_of_mem _ he)) _
      (hswept.step (hids event List.mem_cons_self))

end ApprovalSystem

/-- The expiry is respected along a run exactly when no operation of the run is late and in order
otherwise. -/
theorem expiry_respected_iff (env : Primitives) (events : List ApprovalSystem.Event) :
    Along (ApprovalSystem.step env) (ApprovalSystem.RespectsExpiry env) .empty events ↔
      Along (ApprovalSystem.step env) (ApprovalSystem.NotLate env) .empty events :=
  Along.congr (I := fun _ => True) (fun _ _ _ _ => trivial)
    (fun s event _ => ApprovalSystem.respectsExpiry_iff env s event) trivial

/-! ## A late approve -/

/-- Every source is available. -/
def openRegistry : ActionContext :=
  ⟨[], fun _ => some ⟨.available, .available, some .available, some .available⟩⟩

/-- An approval opened at 0, to expire at 10. -/
def earlyOpening : ApprovalSystem.Event :=
  (0, .openWorkflow openRegistry 1
    { actionId := none, tenantId := some "t1", actionType := some "backup.check"
      requestedBy := some "op", reason := some "check", idempotencyKey := some "k"
      expiresAt := some 10, confirm := true, correlationId := none })

/-- The approval is approved at 20; no sweep comes between. -/
def lateRun : List ApprovalSystem.Event :=
  [earlyOpening, (20, .decideWorkflow
    { approvalId := (1 : Uuid).text, decision := some "approve", reviewedBy := some "boss"
      reason := some "fine", idempotencyKey := some "d", confirm := true })]

/-- The late approve resolves the expired approval to `execution_blocked`. -/
theorem expiry_ignored_lateRun :
    ¬Along (ApprovalSystem.step plainPrimitives) (ApprovalSystem.RespectsExpiry plainPrimitives)
      .empty lateRun := by
  rintro ⟨-, hlate, -⟩
  rw [ApprovalSystem.respectsExpiry_iff] at hlate
  have hopened : ∃ a ∈ (ApprovalSystem.step plainPrimitives .empty earlyOpening).workflow.rows,
      a.approvalId = (1 : Uuid).text ∧ a.expiresAt ≤ 20 ∧ a.state = .pendingReview ∧
        a.sourceStatus = .available := by
    decide +kernel
  obtain ⟨a, ha, hid, hexpired, hstate, hsource⟩ := hopened
  refine hlate a ha hid hexpired ⟨rfl, ⟨?_, ?_, ?_, rfl⟩, hstate, hsource⟩ <;> decide +kernel

end Mpango
