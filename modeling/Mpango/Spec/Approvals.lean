import Mpango.Model.ApprovalSystem

/-!
# What the approval services do

One lemma a function: when the policy records a decision, what a committed script leaves in each
table, and when an execution finds no reason to block.
-/

namespace Mpango

open Durable Execution

/-! ## The workflow -/

namespace Workflow

variable {env : Primitives} {now : Instant} {store : Store} {approval : StoredApproval}

/-- The fields of a decision are in order. -/
def DecisionRequest.WellFormed (req : DecisionRequest) : Prop :=
  stripped req.reason ≠ "" ∧ stripped req.idempotencyKey ≠ "" ∧ stripped req.reviewedBy ≠ "" ∧
    req.confirm = true

/-- A decision is applied when it is well-formed and finds the approval pending, and an approve also
an available source. -/
theorem check_eq_ok {req : DecisionRequest} {decision : Decision} :
    approval.check env req = .ok decision ↔ Decision.ofText? req.decision = some decision ∧
      req.WellFormed ∧ approval.state = .pendingReview ∧
      (decision = .approve → approval.sourceStatus = .available) := by
  unfold StoredApproval.check
  simp only [bind_eq_ok, orRefuse_eq_ok, refuseIf_eq_ok, exists_const, pure_eq_ok]
  constructor
  · rintro ⟨d, hd, hreason, hkey, hreviewer, hconfirm, -, -, -, hpending, hsource, rfl⟩
    refine ⟨hd, ⟨hreason, hkey, hreviewer, ?_⟩, ?_, ?_⟩
    · simpa using hconfirm
    · simpa using hpending
    · simpa using hsource
  · rintro ⟨hd, ⟨hreason, hkey, hreviewer, hconfirm⟩, hpending, hsource⟩
    exact ⟨decision, hd, hreason, hkey, hreviewer, by simp [hconfirm], by simp [hpending],
      by simp [hpending], by simp [hpending], by simp [hpending], by simpa using hsource, rfl⟩

theorem createApproval_store (env : Primitives) (now : Instant) (ctx : ActionContext) (newId : Uuid)
    (store : Store) (req : ApprovalRequest) :
    (createApproval env now ctx newId store req).1 = store ∨
      ∃ x : StoredApproval, x.state = .pendingReview ∧
        (createApproval env now ctx newId store req).1 = store.put x := by
  unfold createApproval
  split
  · exact .inl rfl
  · dsimp only
    split
    · split <;> exact .inl rfl
    · exact .inr ⟨_, rfl, rfl⟩

theorem submitDecision_store (env : Primitives) (now : Instant) (store : Store)
    (req : DecisionRequest) :
    (submitDecision env now store req).1 = store ∨
      ∃ a ∈ store, a.approvalId = req.approvalId ∧ ∃ decision, a.check env req = .ok decision ∧
        (submitDecision env now store req).1 = store.put (a.decided env now req decision) := by
  unfold submitDecision
  split
  · exact .inl rfl
  · next a hfind =>
    obtain ⟨ha, hid⟩ := Table.find?_eq_some.mp hfind
    split
    · exact .inl rfl
    · next decision hcheck => exact .inr ⟨a, ha, hid, decision, hcheck, rfl⟩

/-- A decision that passes the checks of the approval it names is applied to it. -/
theorem submitDecision_of_check {req : DecisionRequest} {decision : Decision}
    (h : approval ∈ store) (hid : approval.approvalId = req.approvalId)
    (hcheck : approval.check env req = .ok decision) :
    (submitDecision env now store req).1 = store.put (approval.decided env now req decision) := by
  have hfind : store.find? req.approvalId = some approval := Table.find?_eq_some.mpr ⟨h, hid⟩
  simp only [submitDecision, hfind, hcheck]

theorem cancelApproval_store (now : Instant) (store : Store) (approvalId : String) :
    (cancelApproval now store approvalId).1 = store ∨
      ∃ x : StoredApproval, x.state = .cancelled ∧
        (cancelApproval now store approvalId).1 = store.put x := by
  unfold cancelApproval
  split
  · exact .inl rfl
  · split
    · exact .inr ⟨_, rfl, rfl⟩
    · exact .inl rfl

end Workflow

/-! ## The dual-control policy -/

namespace Durable

variable {env : Primitives} {now : Instant}

/-- A decision is recorded on a pending approval, by a checker who is not the maker and has not
decided, and an approve only with a valid source. -/
theorem Standing.judge_eq_record {standing : Standing} {own : Option Decision} {checker : String}
    {decision : Decision} :
    standing.judge own checker decision = .record ↔ standing.state = .pendingReview ∧
      checker ≠ standing.maker ∧ own = none ∧
      (decision = .approve → standing.validationStatus = .valid) := by
  obtain ⟨state, maker, validation⟩ := standing
  unfold Standing.judge
  cases state <;> cases own <;> cases decision <;> cases validation <;>
    by_cases hmaker : checker = maker <;> simp [ApprovalState.isUnimplemented, hmaker]
  all_goals
    rename_i recorded
    cases recorded <;> simp

/-! ## The memory backend -/

variable {store : MemoryStore}

theorem memoryCreate_store (env : Primitives) (now : Instant) (ctx : ActionContext) (newId : Uuid)
    (store : MemoryStore) (req : CreateRequest) :
    (memoryCreate env now ctx newId store req).1 = store ∨
      ∃ x : StoredApproval, x.state = .pendingReview ∧
        (memoryCreate env now ctx newId store req).1 = store.put x := by
  unfold memoryCreate
  split
  · exact .inl rfl
  · split
    · exact .inl rfl
    · dsimp only
      split
      · split <;> exact .inl rfl
      · exact .inr ⟨_, rfl, rfl⟩

/-- What a decision request does to the memory store. -/
theorem memorySubmitDecision_store (env : Primitives) (now : Instant) (store : MemoryStore)
    (req : DecisionRequest) :
    (memorySubmitDecision env now store req).1 = store ∨
      ∃ a ∈ store, a.approvalId = req.approvalId ∧ ∃ checker decision,
        checkDecision env req = .ok (checker, decision) ∧
        a.standing.judge (a.ownDecision checker) checker decision = .record ∧
        (memorySubmitDecision env now store req).1 =
          store.put (a.recordDecision env now req checker decision).1 := by
  unfold memorySubmitDecision
  split
  · exact .inl rfl
  · next a hfind =>
    obtain ⟨ha, hid⟩ := Table.find?_eq_some.mp hfind
    split
    · exact .inl rfl
    · next checker decision hcheck =>
      split
      · exact .inl rfl
      · exact .inl rfl
      · next hjudge => exact .inr ⟨a, ha, hid, checker, decision, hcheck, hjudge, rfl⟩

/-- A decision the policy records is recorded. -/
theorem memorySubmitDecision_of_record {req : DecisionRequest} {a : StoredApproval}
    {checker : String} {decision : Decision} (h : a ∈ store) (hid : a.approvalId = req.approvalId)
    (hcheck : checkDecision env req = .ok (checker, decision))
    (hjudge : a.standing.judge (a.ownDecision checker) checker decision = .record) :
    memorySubmitDecision env now store req =
      (store.put (a.recordDecision env now req checker decision).1,
        ⟨(a.recordDecision env now req checker decision).2,
          some (a.recordDecision env now req checker decision).1⟩) := by
  have hfind : store.find? req.approvalId = some a := Table.find?_eq_some.mpr ⟨h, hid⟩
  simp only [memorySubmitDecision, hfind, hcheck, hjudge]

/-! ## The durable backend -/

variable {db db' : ApprovalDb}

theorem ApprovalDb.write_eq_ok {w : Write} :
    db.write w = .ok db' ↔
      w.isStorable = true ∧ db.isUnique w = true ∧ db.isCurrent w = true ∧ db' = db.apply w := by
  unfold ApprovalDb.write
  simp only [bind_eq_ok, refuseIf_eq_ok, exists_const, pure_eq_ok, Bool.not_eq_false]
  constructor
  · rintro ⟨hs, hu, hc, rfl⟩
    exact ⟨hs, hu, hc, rfl⟩
  · rintro ⟨hs, hu, hc, rfl⟩
    exact ⟨hs, hu, hc, rfl⟩

/-- What a statement leaves of the requests. -/
def Statement.onRequests (t : Table DurableApprovalRequest) :
    Statement → Table DurableApprovalRequest
  | write (.request r) => t.put r
  | write (.update _ r) => t.set r
  | _ => t

/-- The decisions a statement adds. -/
def Statement.addedDecisions : Statement → List DurableApprovalDecision
  | write (.decision d) => [d]
  | _ => []

/-- The keys a statement adds. -/
def Statement.addedKeys : Statement → List IdempotencyKey
  | write (.key k) => [k]
  | _ => []

theorem Statement.run_tables {st : Statement} (h : st.run db = .ok db') :
    db'.requests = st.onRequests db.requests ∧
      db'.decisions = db.decisions ++ st.addedDecisions ∧
      db'.idempotencyKeys = db.idempotencyKeys ++ st.addedKeys := by
  cases st with
  | audit draft =>
    obtain ⟨-, -, -, rfl⟩ := ApprovalDb.write_eq_ok.mp h
    simp [AuditDraft.numbered, ApprovalDb.apply, onRequests, addedDecisions, addedKeys]
  | write w =>
    obtain ⟨-, -, -, rfl⟩ := ApprovalDb.write_eq_ok.mp h
    cases w <;> simp [ApprovalDb.apply, onRequests, addedDecisions, addedKeys]

/-- What a committed script leaves in the tables. -/
theorem runScript_tables {script : List Statement} (h : runScript db script = .ok db') :
    db'.requests = script.foldl Statement.onRequests db.requests ∧
      db'.decisions = db.decisions ++ script.flatMap Statement.addedDecisions ∧
      db'.idempotencyKeys = db.idempotencyKeys ++ script.flatMap Statement.addedKeys := by
  induction script generalizing db with
  | nil =>
    have hdb : db = db' := by simpa [runScript] using h
    subst hdb
    simp
  | cons st script ih =>
    rw [runScript, List.foldlM_cons, bind_eq_ok] at h
    obtain ⟨mid, hst, hrest⟩ := h
    obtain ⟨hreq, hdec, hkeys⟩ := Statement.run_tables hst
    obtain ⟨hreq', hdec', hkeys'⟩ := ih hrest
    refine ⟨?_, ?_, ?_⟩
    · rw [hreq', hreq, List.foldl_cons]
    · rw [hdec', hdec, List.flatMap_cons, List.append_assoc]
    · rw [hkeys', hkeys, List.flatMap_cons, List.append_assoc]

/-- What a plan leaves of the requests. -/
def Plan.onRequests (t : Table DurableApprovalRequest) : Plan → Table DurableApprovalRequest
  | opened row _ _ => t.put row
  | resolved _ _ _ next _ _ => t.set next
  | _ => t

theorem Plan.foldl_onRequests (plan : Plan) (t : Table DurableApprovalRequest) :
    plan.script.foldl Statement.onRequests t = plan.onRequests t := by
  cases plan with
  | replay row audit => cases audit <;> rfl
  | _ => rfl

/-- A plan that commits leaves what it is to leave, and one that does not leaves everything. -/
theorem Plan.run_requests (plan : Plan) (db : ApprovalDb) :
    (∃ db', runScript db plan.script = .ok db' ∧ (plan.run db).1 = db' ∧
        db'.requests = plan.onRequests db.requests) ∨
      (∃ failure, runScript db plan.script = .error failure) ∧ (plan.run db).1 = db := by
  unfold Plan.run
  cases h : runScript db plan.script with
  | ok db' =>
    refine .inl ⟨db', rfl, rfl, ?_⟩
    rw [(runScript_tables h).1, Plan.foldl_onRequests]
  | error failure => exact .inr ⟨⟨failure, rfl⟩, rfl⟩

theorem openPlan_onRequests (env : Primitives) (now : Instant) (newId actionId : Uuid)
    (tenantId : Option Uuid) (db : ApprovalDb) (req : CreateRequest) (actionType : ActionType)
    (sourceStatus : SourceStatus) (t : Table DurableApprovalRequest) :
    (openPlan env now newId actionId tenantId db req actionType sourceStatus).onRequests t = t ∨
      ∃ x : DurableApprovalRequest, x.state = .pendingReview ∧
        (openPlan env now newId actionId tenantId db req actionType sourceStatus).onRequests t =
          t.put x := by
  unfold openPlan
  dsimp only
  split
  · exact .inl rfl
  · split
    · split
      · split <;> exact .inl rfl
      · exact .inl rfl
    · exact .inr ⟨_, rfl, rfl⟩

/-- A decision that is recorded and does not resolve the approval, or resolves it. -/
theorem decidePlan_of_record (now : Instant) {row : DurableApprovalRequest} {req : DecisionRequest}
    {decisions : List DurableApprovalDecision} {checker : String} {decision : Decision}
    (hcheck : checkDecision env req = .ok (checker, decision))
    (hjudge : row.standing.judge (ownDecision decisions checker) checker decision = .record) :
    ∃ audit outcome, decidePlan env now (some row) decisions req =
      match decision with
      | .reject => .resolved (newDecisionRow env now row req checker .reject)
          (newDecideKey env row req checker .reject) row.storeVersion
          (row.advanced now .rejected .reject false) audit outcome
      | .approve =>
        if row.quorumRequired ≤ 1 + approveCount decisions then
          .resolved (newDecisionRow env now row req checker .approve)
            (newDecideKey env row req checker .approve) row.storeVersion
            (row.advanced now .approvedExecutionBlocked .approve true) audit outcome
        else .pending (newDecisionRow env now row req checker .approve)
          (newDecideKey env row req checker .approve) audit := by
  unfold decidePlan
  simp only [hcheck, hjudge]
  cases decision with
  | reject => exact ⟨_, _, rfl⟩
  | approve => exact ⟨_, _, rfl⟩

/-- A plan of a decision request that writes is for a decision the policy records. -/
theorem decidePlan_cases (env : Primitives) (now : Instant) (row? : Option DurableApprovalRequest)
    (decisions : List DurableApprovalDecision) (req : DecisionRequest) :
    (∃ refusal audit, decidePlan env now row? decisions req = .denied refusal audit) ∨
      (∃ row audit, row? = some row ∧ decidePlan env now row? decisions req = .replay row audit) ∨
      ∃ row checker decision, row? = some row ∧
        checkDecision env req = .ok (checker, decision) ∧
        row.standing.judge (ownDecision decisions checker) checker decision = .record := by
  cases row? with
  | none => exact .inl ⟨_, _, rfl⟩
  | some row =>
    unfold decidePlan
    dsimp only
    cases hcheck : checkDecision env req with
    | error refusal => exact .inl ⟨_, _, rfl⟩
    | ok pair =>
      obtain ⟨checker, decision⟩ := pair
      dsimp only
      cases hjudge : row.standing.judge (ownDecision decisions checker) checker decision with
      | refused refusal => exact .inl ⟨_, _, rfl⟩
      | duplicate => exact .inr (.inl ⟨row, _, rfl, rfl⟩)
      | record => exact .inr (.inr ⟨row, checker, decision, rfl, rfl, hjudge⟩)

/-- Every decision is on a committed approval. -/
def ApprovalDb.Referenced (db : ApprovalDb) : Prop :=
  ∀ d ∈ db.decisions, ∃ r ∈ db.requests, r.approvalId = d.approvalId

/-- The decisions of an approval after one more decision. -/
theorem decisionsOf_append {d : DurableApprovalDecision} (h : db'.decisions = db.decisions ++ [d])
    (id : Uuid) :
    db'.decisionsOf id = db.decisionsOf id ++ if d.approvalId = id then [d] else [] := by
  unfold ApprovalDb.decisionsOf
  rw [h, List.filter_append, List.filter_singleton]
  by_cases hd : d.approvalId = id <;> simp [hd]

theorem decisionsOf_eq_nil (href : db.Referenced) {id : Uuid}
    (hfresh : ∀ r ∈ db.requests, r.approvalId ≠ id) : db.decisionsOf id = [] := by
  unfold ApprovalDb.decisionsOf
  rw [List.filter_eq_nil_iff]
  intro d hd
  obtain ⟨r, hr, hid⟩ := href d hd
  rw [← hid]
  simpa using hfresh r hr

/-! ### When a script commits -/

/-- A number that is taken now is new. -/
theorem ApprovalDb.isUnique_numbered (db : ApprovalDb) (draft : AuditDraft) :
    db.isUnique (draft.numbered (db.nextSequenceNo draft.approvalId)) = true := by
  simp only [isUnique, AuditDraft.numbered, List.all_eq_true]
  intro x hx
  by_contra hclash
  simp only [AuditEvent.clashes, Bool.not_eq_true', Bool.not_eq_false, Bool.and_eq_true,
    decide_eq_true_eq] at hclash
  obtain ⟨⟨-, hid⟩, hno⟩ := hclash
  have hmem : x.sequenceNo ∈
      (db.auditEvents.filter (·.approvalId = draft.approvalId)).map (·.sequenceNo) :=
    List.mem_map_of_mem (List.mem_filter.mpr ⟨hx, by simpa using hid.symm⟩)
  have hle := List.le_max_of_le hmem le_rfl
  rw [bot_eq_zero, ← hno, nextSequenceNo] at hle
  omega

/-- Whether the columns can hold an audit event. -/
def AuditDraft.isStorable (draft : AuditDraft) : Bool := (draft.numbered 0).isStorable

section Passing
variable {draft : AuditDraft} {w : Write} {rest : List Statement}

/-- An audit event goes out when the columns hold it. -/
theorem runScript_audit : (∃ db', runScript db (.audit draft :: rest) = .ok db') ↔
    draft.isStorable = true ∧ ∃ db', runScript
      (db.apply (draft.numbered (db.nextSequenceNo draft.approvalId))) rest = .ok db' := by
  have hrun : ∀ mid, (Statement.audit draft).run db = .ok mid ↔ draft.isStorable = true ∧
      mid = db.apply (draft.numbered (db.nextSequenceNo draft.approvalId)) := by
    intro mid
    rw [Statement.run, ApprovalDb.write_eq_ok]
    constructor
    · rintro ⟨hstorable, -, -, rfl⟩
      exact ⟨hstorable, rfl⟩
    · rintro ⟨hstorable, rfl⟩
      exact ⟨hstorable, db.isUnique_numbered draft, rfl, rfl⟩
  simp only [runScript, List.foldlM_cons, bind_eq_ok, hrun]
  constructor
  · rintro ⟨db', mid, ⟨hstorable, rfl⟩, hrest⟩
    exact ⟨hstorable, db', hrest⟩
  · rintro ⟨hstorable, db', hrest⟩
    exact ⟨db', _, ⟨hstorable, rfl⟩, hrest⟩

theorem runScript_write : (∃ db', runScript db (.write w :: rest) = .ok db') ↔
    (w.isStorable = true ∧ db.isUnique w = true ∧ db.isCurrent w = true) ∧
      ∃ db', runScript (db.apply w) rest = .ok db' := by
  simp only [runScript, List.foldlM_cons, bind_eq_ok, Statement.run, ApprovalDb.write_eq_ok]
  constructor
  · rintro ⟨db', mid, ⟨hstorable, hunique, hcurrent, rfl⟩, hrest⟩
    exact ⟨⟨hstorable, hunique, hcurrent⟩, db', hrest⟩
  · rintro ⟨⟨hstorable, hunique, hcurrent⟩, db', hrest⟩
    exact ⟨db', _, ⟨hstorable, hunique, hcurrent, rfl⟩, hrest⟩

theorem runScript_nil : ∃ db', runScript db [] = .ok db' := ⟨db, rfl⟩

end Passing

/-- When the transaction of a plan commits. -/
def Plan.Passes (db : ApprovalDb) : Plan → Prop
  | .denied _ audit => audit.isStorable = true
  | .replay _ audit => ∀ draft ∈ audit, draft.isStorable = true
  | .missing => True
  | .opened row key audit => audit.isStorable = true ∧ (Write.request row).isStorable = true ∧
      db.isUnique (.request row) = true ∧ db.isUnique (.key key) = true
  | .pending d key audit => audit.isStorable = true ∧ (Write.decision d).isStorable = true ∧
      db.isUnique (.decision d) = true ∧ db.isUnique (.key key) = true
  | .resolved d key storeVersion next audit outcome => audit.isStorable = true ∧
      outcome.isStorable = true ∧ (Write.decision d).isStorable = true ∧
      db.isUnique (.decision d) = true ∧ db.isUnique (.key key) = true ∧
      db.isUnique (.update storeVersion next) = true ∧
      db.isCurrent (.update storeVersion next) = true

/-- The statements before a write leave alone what decides about it. -/
theorem Plan.passes_iff (plan : Plan) (db : ApprovalDb) :
    (∃ db', runScript db plan.script = .ok db') ↔ plan.Passes db := by
  cases plan with
  | denied refusal audit =>
    rw [Plan.script, runScript_audit, and_iff_left runScript_nil]
    rfl
  | replay row audit =>
    cases audit with
    | none => exact iff_of_true runScript_nil fun _ h => absurd h (Option.not_mem_none _)
    | some draft =>
      rw [Plan.script, Option.toList_some, List.map_singleton, runScript_audit,
        and_iff_left runScript_nil]
      simp [Passes]
  | missing => exact iff_of_true runScript_nil trivial
  | opened row key audit =>
    rw [Plan.script, runScript_audit, runScript_write, runScript_write, and_iff_left runScript_nil]
    constructor
    · rintro ⟨haudit, ⟨hrow, hrow', -⟩, -, hkey, -⟩
      exact ⟨haudit, hrow, hrow', hkey⟩
    · rintro ⟨haudit, hrow, hrow', hkey⟩
      exact ⟨haudit, ⟨hrow, hrow', rfl⟩, rfl, hkey, rfl⟩
  | pending d key audit =>
    rw [Plan.script, runScript_audit, runScript_write, runScript_write, and_iff_left runScript_nil]
    constructor
    · rintro ⟨haudit, ⟨hd, hd', -⟩, -, hkey, -⟩
      exact ⟨haudit, hd, hd', hkey⟩
    · rintro ⟨haudit, hd, hd', hkey⟩
      exact ⟨haudit, ⟨hd, hd', rfl⟩, rfl, hkey, rfl⟩
  | resolved d key storeVersion next audit outcome =>
    rw [Plan.script, runScript_audit, runScript_audit, runScript_write, runScript_write,
      runScript_write, and_iff_left runScript_nil]
    constructor
    · rintro ⟨haudit, houtcome, ⟨hd, hd', -⟩, ⟨-, hkey, -⟩, -, hunique, hcurrent⟩
      exact ⟨haudit, houtcome, hd, hd', hkey, hunique, hcurrent⟩
    · rintro ⟨haudit, houtcome, hd, hd', hkey, hunique, hcurrent⟩
      exact ⟨haudit, houtcome, ⟨hd, hd', rfl⟩, ⟨rfl, hkey, rfl⟩, rfl, hunique, hcurrent⟩

/-- A plan that passes leaves its tables and gives its answer. -/
theorem Plan.run_of_passes {plan : Plan} (h : plan.Passes db) :
    ∃ db', plan.run db = (db', plan.answer db') ∧ db'.requests = plan.onRequests db.requests ∧
      db'.decisions = db.decisions ++ plan.script.flatMap Statement.addedDecisions ∧
      db'.idempotencyKeys = db.idempotencyKeys ++ plan.script.flatMap Statement.addedKeys := by
  obtain ⟨db', hrun⟩ := (plan.passes_iff db).mpr h
  obtain ⟨hreq, hdec, hkeys⟩ := runScript_tables hrun
  rw [Plan.foldl_onRequests] at hreq
  refine ⟨db', ?_, hreq, hdec, hkeys⟩
  simp only [Plan.run, hrun]

/-- One that does not leaves everything and fails. -/
theorem Plan.run_of_not_passes {plan : Plan} (h : ¬plan.Passes db) :
    ∃ failure, plan.run db = (db, plan.failure failure) := by
  cases hrun : runScript db plan.script with
  | ok db' => exact absurd ((plan.passes_iff db).mp ⟨db', hrun⟩) h
  | error failure =>
    refine ⟨failure, ?_⟩
    simp only [Plan.run, hrun]

theorem getRequest_requests (env : Primitives) (db : ApprovalDb) (approvalId : String) :
    (getRequest env db approvalId).1.requests = db.requests := by
  unfold getRequest
  split
  · rfl
  · split
    · next h => exact (Statement.run_tables h).1
    · rfl

end Durable

end Mpango
