import Mpango.Model.ApprovalFlights
import Mpango.Approvals.Expiry

/-!
# Dual control under concurrency

Makers open approvals and checkers decide them, any number of them at a time, in sessions that
interleave as READ COMMITTED lets them. What the backend promises is `DualControl`: no maker decides,
no checker decides twice, and the state of an approval is what its decisions say.

The unique indexes and the compare-and-set on `store_version` keep it at every commit but one. The
approve that leaves its approval pending writes no version, so nothing at its commit compares what
it read with what is committed: it may come after the approve that makes it the last one missing, or
after a reject. `dual_control_iff` says that this is all: a run keeps dual control exactly when
every such commit is timely. `race` is a run of two checkers that is not.

The argument is an invariant of the calls in flight (`Flights.Inv`). What a call has read is a past
of the committed state (`Later`), what it has written carries out its plan (`Carries`), and a commit
does one of four things (`Commits`).
-/

namespace Mpango

namespace Durable

/-! ## What an approval and its decisions say of each other -/

/-- The approval is under dual control: its decisions, in the order of their commits, are by
different checkers other than the maker, none follows a reject, and they determine its state. -/
structure Controlled (r : DurableApprovalRequest) (ds : List DurableApprovalDecision) : Prop where
  maker : ∀ d ∈ ds, d.checkerActorId ≠ r.makerActorId
  distinct : (ds.map (·.checkerActorId)).Nodup
  approved : r.state = .approvedExecutionBlocked ∧ r.quorumMet = true ↔
    r.quorumRequired ≤ approveCount ds ∧ ∀ d ∈ ds, d.decision ≠ .reject
  rejected : r.state = .rejected ↔ ∃ d ∈ ds, d.decision = .reject
  final : ∀ before d after, ds = before ++ d :: after → d.decision = .reject → after = []
  pending : ¬(r.state = .approvedExecutionBlocked ∧ r.quorumMet = true) → r.state ≠ .rejected →
    r.state = .pendingReview ∧ approveCount ds < r.quorumRequired

/-- Every approval is under dual control. -/
def ApprovalDb.DualControl (db : ApprovalDb) : Prop :=
  ∀ r ∈ db.requests, Controlled r (db.decisionsOf r.approvalId)

section Controlled
variable {r : DurableApprovalRequest} {ds : List DurableApprovalDecision}
  {d : DurableApprovalDecision}

theorem approveCount_append :
    approveCount (ds ++ [d]) = approveCount ds + if d.decision = .approve then 1 else 0 := by
  simp [approveCount, List.countP_append, List.countP_singleton]

/-- An approval that was just opened. -/
theorem Controlled.opened (hstate : r.state = .pendingReview) (hquorum : 1 ≤ r.quorumRequired) :
    Controlled r [] where
  maker := by simp
  distinct := List.nodup_nil
  approved := by
    simp only [hstate, approveCount, List.countP_nil, reduceCtorEq, false_and, false_iff]
    omega
  rejected := by simp [hstate]
  final := by simp
  pending := fun _ _ => ⟨hstate, hquorum⟩

/-- A pending approval has no reject and lacks an approve. -/
theorem Controlled.of_pending (h : Controlled r ds) (hstate : r.state = .pendingReview) :
    (∀ d ∈ ds, d.decision ≠ .reject) ∧ approveCount ds < r.quorumRequired := by
  have hnot : ¬(r.state = .approvedExecutionBlocked ∧ r.quorumMet = true) := by simp [hstate]
  have hnr : r.state ≠ .rejected := by simp [hstate]
  refine ⟨fun d hd hreject => hnr (h.rejected.mpr ⟨d, hd, hreject⟩), (h.pending hnot hnr).2⟩

/-- One more decision, where there was no reject before, is the last one if it is a reject. -/
theorem final_append (hnone : ∀ d ∈ ds, d.decision ≠ .reject) :
    ∀ before x after, ds ++ [d] = before ++ x :: after → x.decision = .reject → after = [] := by
  intro before x after heq hreject
  rcases List.eq_nil_or_concat after with rfl | ⟨rest, y, rfl⟩
  · rfl
  · have hsplit : ds ++ [d] = (before ++ x :: rest) ++ [y] := by simpa using heq
    obtain ⟨rfl, -⟩ := List.append_inj' hsplit rfl
    exact absurd hreject (hnone x (by simp))

theorem distinct_append (h : Controlled r ds)
    (hnew : ∀ x ∈ ds, x.checkerActorId ≠ d.checkerActorId) :
    ((ds ++ [d]).map (·.checkerActorId)).Nodup := by
  rw [List.map_append, List.map_singleton, List.nodup_append']
  refine ⟨h.distinct, List.nodup_singleton _, ?_⟩
  rw [List.disjoint_singleton, List.mem_map]
  rintro ⟨x, hx, heq⟩
  exact hnew x hx heq

theorem maker_append {maker : String} (h : ∀ x ∈ ds, x.checkerActorId ≠ maker)
    (hmaker : d.checkerActorId ≠ maker) : ∀ x ∈ ds ++ [d], x.checkerActorId ≠ maker := by
  intro x hx
  rcases List.mem_append.mp hx with hx | hx
  · exact h x hx
  · rw [List.mem_singleton.mp hx]
    exact hmaker

/-- One more approve and the same state: dual control stays unless the approval is rejected, or the
approve was the last one missing. -/
theorem Controlled.append_approve (h : Controlled r ds) (hd : d.decision = .approve)
    (hmaker : d.checkerActorId ≠ r.makerActorId)
    (hnew : ∀ x ∈ ds, x.checkerActorId ≠ d.checkerActorId) :
    Controlled r (ds ++ [d]) ↔ r.state ≠ .rejected ∧
      (r.state = .pendingReview → approveCount ds + 1 < r.quorumRequired) := by
  have hcount : approveCount (ds ++ [d]) = approveCount ds + 1 := by
    rw [approveCount_append, if_pos hd]
  constructor
  · intro h'
    constructor
    · intro hrejected
      obtain ⟨x, hx, hreject⟩ := h.rejected.mp hrejected
      obtain ⟨before, after, rfl⟩ := List.append_of_mem hx
      have hafter : after ++ [d] = [] := h'.final before x (after ++ [d]) (by simp) hreject
      simp at hafter
    · intro hpending
      rw [← hcount]
      exact (h'.of_pending hpending).2
  · rintro ⟨hnr, hmissing⟩
    have hnone : ∀ x ∈ ds, x.decision ≠ .reject := fun x hx hreject =>
      hnr (h.rejected.mpr ⟨x, hx, hreject⟩)
    have hnone' : ∀ x ∈ ds ++ [d], x.decision ≠ .reject := by
      intro x hx
      rcases List.mem_append.mp hx with hx | hx
      · exact hnone x hx
      · rw [List.mem_singleton.mp hx, hd]
        exact Decision.noConfusion
    refine ⟨maker_append h.maker hmaker, distinct_append h hnew, ?_, ?_, final_append hnone, ?_⟩
    · rw [hcount]
      constructor
      · intro happroved
        have hq := (h.approved.mp happroved).1
        exact ⟨by omega, hnone'⟩
      · rintro ⟨hq, -⟩
        by_contra hnot
        have hp := h.pending hnot hnr
        have := hmissing hp.1
        omega
    · refine iff_of_false hnr ?_
      rintro ⟨x, hx, hreject⟩
      exact hnone' x hx hreject
    · intro hnot _
      have hp := h.pending hnot hnr
      rw [hcount]
      exact ⟨hp.1, hmissing hp.1⟩

/-- The approve that meets the quorum, with the state it brings. -/
theorem Controlled.resolve_approve (h : Controlled r ds) (hstate : r.state = .pendingReview)
    (hd : d.decision = .approve) (hmaker : d.checkerActorId ≠ r.makerActorId)
    (hnew : ∀ x ∈ ds, x.checkerActorId ≠ d.checkerActorId)
    (hquorum : r.quorumRequired ≤ 1 + approveCount ds) (now : Instant) :
    Controlled (r.advanced now .approvedExecutionBlocked .approve true) (ds ++ [d]) := by
  have hnone := (h.of_pending hstate).1
  have hnone' : ∀ x ∈ ds ++ [d], x.decision ≠ .reject := by
    intro x hx
    rcases List.mem_append.mp hx with hx | hx
    · exact hnone x hx
    · rw [List.mem_singleton.mp hx, hd]
      exact Decision.noConfusion
  refine ⟨maker_append h.maker hmaker, distinct_append h hnew, ?_, ?_, final_append hnone, ?_⟩
  · refine iff_of_true ⟨rfl, rfl⟩ ⟨?_, hnone'⟩
    rw [approveCount_append, if_pos hd]
    show r.quorumRequired ≤ _
    omega
  · refine iff_of_false ApprovalState.noConfusion ?_
    rintro ⟨x, hx, hreject⟩
    exact hnone' x hx hreject
  · exact fun hnot => absurd ⟨rfl, rfl⟩ hnot

/-- A reject, with the state it brings. -/
theorem Controlled.resolve_reject (h : Controlled r ds) (hstate : r.state = .pendingReview)
    (hd : d.decision = .reject) (hmaker : d.checkerActorId ≠ r.makerActorId)
    (hnew : ∀ x ∈ ds, x.checkerActorId ≠ d.checkerActorId) (now : Instant) :
    Controlled (r.advanced now .rejected .reject false) (ds ++ [d]) := by
  have hnone := (h.of_pending hstate).1
  have hmem : d ∈ ds ++ [d] := by simp
  refine ⟨maker_append h.maker hmaker, distinct_append h hnew, ?_, ?_, final_append hnone, ?_⟩
  · refine iff_of_false ?_ ?_
    · exact fun happroved => ApprovalState.noConfusion happroved.1
    · exact fun hno => hno.2 d hmem hd
  · exact iff_of_true rfl ⟨d, hmem, hd⟩
  · exact fun _ hnr => absurd rfl hnr

end Controlled

/-! ## What a call knows of the committed state -/

/-- A row as it was read, and the row it has become since: some columns never change, and none does
while the version stays. -/
structure Later (row r : DurableApprovalRequest) : Prop where
  id : r.approvalId = row.approvalId
  maker : r.makerActorId = row.makerActorId
  quorum : r.quorumRequired = row.quorumRequired
  version : row.storeVersion ≤ r.storeVersion
  same : row.storeVersion = r.storeVersion → r = row

theorem Later.refl (r : DurableApprovalRequest) : Later r r := ⟨rfl, rfl, rfl, le_rfl, fun _ => rfl⟩

theorem Later.trans {r₁ r₂ r₃ : DurableApprovalRequest} (h : Later r₁ r₂) (h' : Later r₂ r₃) :
    Later r₁ r₃ := by
  refine ⟨h'.id.trans h.id, h'.maker.trans h.maker, h'.quorum.trans h.quorum,
    h.version.trans h'.version, fun heq => ?_⟩
  have hv := h.version
  have hv' := h'.version
  have h₁ : r₂ = r₁ := h.same (by omega)
  have h₂ : r₃ = r₂ := h'.same (by omega)
  rw [h₂, h₁]

theorem later_advanced (r : DurableApprovalRequest) (now : Instant) (state : ApprovalState)
    (decision : Decision) (quorumMet : Bool) : Later r (r.advanced now state decision quorumMet) := by
  refine ⟨rfl, rfl, rfl, Nat.le_succ _, fun heq => ?_⟩
  have hversion : (r.advanced now state decision quorumMet).storeVersion = r.storeVersion + 1 := rfl
  omega

namespace ApprovalDb

variable {db db' : ApprovalDb} {row : DurableApprovalRequest}

/-- A row that was read is a past of a committed one. -/
def Knows (db : ApprovalDb) (row : DurableApprovalRequest) : Prop :=
  ∃ r ∈ db.requests, Later row r

/-- A committed state and a later one. -/
structure Extends (db db' : ApprovalDb) : Prop where
  requests : ∀ r ∈ db.requests, db'.Knows r
  decisions : ∃ ds, db'.decisions = db.decisions ++ ds

theorem knows_of_mem (h : row ∈ db.requests) : db.Knows row := ⟨row, h, Later.refl row⟩

theorem Knows.mono (hext : db.Extends db') (h : db.Knows row) : db'.Knows row := by
  obtain ⟨r, hr, hlater⟩ := h
  obtain ⟨r', hr', hlater'⟩ := hext.requests r hr
  exact ⟨r', hr', hlater.trans hlater'⟩

/-- Approves are never taken back. -/
theorem Extends.approveCount_le (hext : db.Extends db') (id : Uuid) :
    approveCount (db.decisionsOf id) ≤ approveCount (db'.decisionsOf id) := by
  obtain ⟨ds, hds⟩ := hext.decisions
  unfold approveCount decisionsOf
  rw [hds, List.filter_append, List.countP_append]
  exact Nat.le_add_right _ _

end ApprovalDb

/-! ## What a plan rests on -/

/-- What a plan took from the committed state still stands there. -/
def Plan.Backed (db : ApprovalDb) : Plan → Prop
  | .opened row _ _ => row.state = .pendingReview ∧ 1 ≤ row.quorumRequired
  | .pending d _ _ => d.decision = .approve ∧ ∃ row, db.Knows row ∧
      d.approvalId = row.approvalId ∧ d.checkerActorId ≠ row.makerActorId
  | .resolved d _ storeVersion next _ _ => ∃ row now, db.Knows row ∧
      d.approvalId = row.approvalId ∧ d.checkerActorId ≠ row.makerActorId ∧
      storeVersion = row.storeVersion ∧ row.state = .pendingReview ∧
      (d.decision = .reject ∧ next = row.advanced now .rejected .reject false ∨
        d.decision = .approve ∧ next = row.advanced now .approvedExecutionBlocked .approve true ∧
          row.quorumRequired ≤ 1 + approveCount (db.decisionsOf row.approvalId))
  | _ => True

section Backed
variable {db db' : ApprovalDb} {plan : Plan}

theorem Plan.Backed.mono (hext : db.Extends db') (h : plan.Backed db) : plan.Backed db' := by
  cases plan with
  | pending d key audit =>
    obtain ⟨hd, row, hrow, hid, hmaker⟩ := h
    exact ⟨hd, row, hrow.mono hext, hid, hmaker⟩
  | resolved d key storeVersion next audit outcome =>
    obtain ⟨row, now, hrow, hid, hmaker, hversion, hstate, hnext⟩ := h
    refine ⟨row, now, hrow.mono hext, hid, hmaker, hversion, hstate, hnext.imp_right ?_⟩
    rintro ⟨hd, hnext, hquorum⟩
    have hle := hext.approveCount_le row.approvalId
    exact ⟨hd, hnext, by omega⟩
  | _ => exact h

theorem openPlan_backed (env : Primitives) (now : Instant) (newId actionId : Uuid)
    (tenantId : Option Uuid) (req : CreateRequest) (actionType : ActionType)
    (sourceStatus : SourceStatus) :
    (openPlan env now newId actionId tenantId db req actionType sourceStatus).Backed db := by
  unfold openPlan
  dsimp only
  split
  · trivial
  · split
    · split
      · split <;> trivial
      · trivial
    · refine ⟨rfl, ?_⟩
      show 1 ≤ quorumRequiredFor actionType.classification
      cases actionType.classification <;> decide

theorem decidePlan_backed (env : Primitives) (now : Instant) (req : DecisionRequest)
    {row? : Option DurableApprovalRequest} (hrow : ∀ row ∈ row?, db.Knows row) :
    (decidePlan env now row? (row?.elim [] fun row => db.decisionsOf row.approvalId) req).Backed
      db := by
  rcases decidePlan_cases env now row? (row?.elim [] fun row => db.decisionsOf row.approvalId) req
    with ⟨refusal, audit, hplan⟩ | ⟨row, audit, -, hplan⟩ | ⟨row, checker, decision, rfl, hcheck, hjudge⟩
  · rw [hplan]
    trivial
  · rw [hplan]
    trivial
  · obtain ⟨hpending, hmaker, -, -⟩ := Standing.judge_eq_record.mp hjudge
    obtain ⟨audit, outcome, hplan⟩ := decidePlan_of_record now hcheck hjudge
    have hknows : db.Knows row := hrow row rfl
    rw [hplan]
    cases decision with
    | reject => exact ⟨row, now, hknows, rfl, hmaker, rfl, hpending, .inl ⟨rfl, rfl⟩⟩
    | approve =>
      dsimp only
      split
      · next hquorum =>
        exact ⟨row, now, hknows, rfl, hmaker, rfl, hpending, .inr ⟨rfl, rfl, hquorum⟩⟩
      · exact ⟨rfl, row, hknows, rfl, hmaker⟩

end Backed

/-! ## What a commit leaves -/

/-- The write that a statement has become. -/
def Carries : Statement → Write → Prop
  | .audit draft, w => ∃ sequenceNo, w = draft.numbered sequenceNo
  | .write w', w => w = w'

section Commit
variable {db db' : ApprovalDb} {script : List Statement} {ws : List Write}

/-- The writes of a script leave what its statements are to leave. -/
theorem carries_tables (h : List.Forall₂ Carries script ws) (db : ApprovalDb) :
    (ws.foldl ApprovalDb.apply db).requests = script.foldl Statement.onRequests db.requests ∧
      (ws.foldl ApprovalDb.apply db).decisions =
        db.decisions ++ script.flatMap Statement.addedDecisions := by
  induction h generalizing db with
  | nil => simp
  | @cons st w script ws hcarries _ ih =>
    have hstep : (db.apply w).requests = st.onRequests db.requests ∧
        (db.apply w).decisions = db.decisions ++ st.addedDecisions := by
      cases st with
      | audit draft =>
        obtain ⟨sequenceNo, rfl⟩ := hcarries
        simp [AuditDraft.numbered, ApprovalDb.apply, Statement.onRequests, Statement.addedDecisions]
      | write w' =>
        obtain rfl : w = w' := hcarries
        cases w <;> simp [ApprovalDb.apply, Statement.onRequests, Statement.addedDecisions]
    obtain ⟨hreq, hdec⟩ := ih (db.apply w)
    rw [List.foldl_cons, List.foldl_cons, List.flatMap_cons, hreq, hdec, hstep.1, hstep.2,
      List.append_assoc]
    exact ⟨rfl, rfl⟩

/-- A write of the script is among what went out. -/
theorem mem_of_carries (h : List.Forall₂ Carries script ws) {w : Write}
    (hw : Statement.write w ∈ script) : w ∈ ws := by
  induction h with
  | nil => exact absurd hw List.not_mem_nil
  | @cons st w' script ws hcarries _ ih =>
    rcases List.mem_cons.mp hw with rfl | hw
    · obtain rfl : w' = w := hcarries
      exact List.mem_cons_self
    · exact List.mem_cons_of_mem _ (ih hw)

/-- The checker of an admitted decision has no other on the approval. -/
theorem checker_new {d : DurableApprovalDecision} (h : db.admits (.decision d) = true) :
    ∀ x ∈ db.decisionsOf d.approvalId, x.checkerActorId ≠ d.checkerActorId := by
  obtain ⟨-, hunique, -⟩ := ApprovalDb.admits_eq_true.mp h
  intro x hx heq
  obtain ⟨hx, hid⟩ := List.mem_filter.mp hx
  have hclash := List.all_eq_true.mp hunique x hx
  have hid' : x.approvalId = d.approvalId := by simpa using hid
  simp [DurableApprovalDecision.clashes, hid', heq] at hclash

/-! A commit moves the state on, keeps the decisions on committed approvals, and keeps dual control:
one lemma for each kind of plan, the one of a pending approve with its condition. -/

/-- The commit of audit events alone. -/
theorem commit_unchanged (hcontrol : db.DualControl) (href : db.Referenced)
    (hreq : db'.requests = db.requests) (hdec : db'.decisions = db.decisions) :
    db.Extends db' ∧ db'.Referenced ∧ db'.DualControl := by
  refine ⟨⟨fun r hr => ApprovalDb.knows_of_mem (hreq ▸ hr), [], by simp [hdec]⟩, ?_, ?_⟩
  · intro d hd
    rw [hreq]
    exact href d (hdec ▸ hd)
  · intro r hr
    simp only [ApprovalDb.decisionsOf, hdec]
    exact hcontrol r (hreq ▸ hr)

/-- The commit of a create. -/
theorem commit_opened {row : DurableApprovalRequest} (hcontrol : db.DualControl)
    (href : db.Referenced) (hpending : row.state = .pendingReview) (hquorum : 1 ≤ row.quorumRequired)
    (hfresh : ∀ r ∈ db.requests, r.approvalId ≠ row.approvalId)
    (hreq : db'.requests = db.requests.put row) (hdec : db'.decisions = db.decisions) :
    db.Extends db' ∧ db'.Referenced ∧ db'.DualControl := by
  have hold : ∀ r ∈ db.requests, r ∈ db'.requests := by
    intro r hr
    rw [hreq]
    exact Table.mem_put.mpr (.inl ⟨hr, hfresh r hr⟩)
  have hof : ∀ id, db'.decisionsOf id = db.decisionsOf id := by
    intro id
    simp only [ApprovalDb.decisionsOf, hdec]
  refine ⟨⟨fun r hr => ApprovalDb.knows_of_mem (hold r hr), [], by simp [hdec]⟩, ?_, ?_⟩
  · intro d hd
    rw [hdec] at hd
    obtain ⟨r, hr, hid⟩ := href d hd
    exact ⟨r, hold r hr, hid⟩
  · intro r hr
    rw [hreq] at hr
    rw [hof]
    rcases Table.mem_put.mp hr with ⟨hr, -⟩ | rfl
    · exact hcontrol r hr
    · rw [decisionsOf_eq_nil href hfresh]
      exact Controlled.opened hpending hquorum

/-- The commit of an approve that leaves its approval pending. -/
theorem commit_pending {d : DurableApprovalDecision} {r : DurableApprovalRequest}
    (hcontrol : db.DualControl) (href : db.Referenced) (hr : r ∈ db.requests)
    (hid : d.approvalId = r.approvalId) (hd : d.decision = .approve)
    (hmaker : d.checkerActorId ≠ r.makerActorId) (hadmits : db.admits (.decision d) = true)
    (hreq : db'.requests = db.requests) (hdec : db'.decisions = db.decisions ++ [d]) :
    db.Extends db' ∧ db'.Referenced ∧ (db'.DualControl ↔ r.state ≠ .rejected ∧
      (r.state = .pendingReview →
        approveCount (db.decisionsOf r.approvalId) + 1 < r.quorumRequired)) := by
  have hnew := checker_new hadmits
  rw [hid] at hnew
  have hself : db'.decisionsOf r.approvalId = db.decisionsOf r.approvalId ++ [d] := by
    rw [decisionsOf_append hdec, if_pos hid]
  refine ⟨⟨fun x hx => ApprovalDb.knows_of_mem (hreq ▸ hx), [d], hdec⟩, ?_, ?_⟩
  · intro x hx
    rw [hdec, List.mem_append, List.mem_singleton] at hx
    rw [hreq]
    rcases hx with hx | rfl
    · exact href x hx
    · exact ⟨r, hr, hid.symm⟩
  · rw [← (hcontrol r hr).append_approve hd hmaker hnew, ← hself]
    constructor
    · intro h
      exact h r (hreq ▸ hr)
    · intro h x hx
      rw [hreq] at hx
      by_cases hx' : x.approvalId = r.approvalId
      · obtain rfl : x = r := Table.eq_of_key_eq hx hr hx'
        exact h
      · rw [decisionsOf_append hdec, if_neg fun he => hx' (he.symm.trans hid), List.append_nil]
        exact hcontrol x hx

/-- The commit of a decision that resolves its approval. -/
theorem commit_resolved {d : DurableApprovalDecision} {r next : DurableApprovalRequest}
    (hcontrol : db.DualControl) (href : db.Referenced) (hr : r ∈ db.requests)
    (hid : d.approvalId = r.approvalId) (hlater : Later r next)
    (hnext : Controlled next (db.decisionsOf r.approvalId ++ [d]))
    (hreq : db'.requests = db.requests.set next) (hdec : db'.decisions = db.decisions ++ [d]) :
    db.Extends db' ∧ db'.Referenced ∧ db'.DualControl := by
  have hmem : next ∈ db'.requests := by
    rw [hreq]
    exact Table.mem_set.mpr (.inr ⟨rfl, r, hr, hlater.id.symm⟩)
  have hold : ∀ x ∈ db.requests, db'.Knows x := by
    intro x hx
    by_cases hx' : x.approvalId = r.approvalId
    · obtain rfl : x = r := Table.eq_of_key_eq hx hr hx'
      exact ⟨next, hmem, hlater⟩
    · refine ApprovalDb.knows_of_mem ?_
      rw [hreq]
      exact Table.mem_set.mpr (.inl ⟨hx, fun he => hx' (he.trans hlater.id)⟩)
  refine ⟨⟨hold, [d], hdec⟩, ?_, ?_⟩
  · intro x hx
    rw [hdec, List.mem_append, List.mem_singleton] at hx
    rcases hx with hx | rfl
    · obtain ⟨y, hy, hyid⟩ := href x hx
      obtain ⟨y', hy', hylater⟩ := hold y hy
      exact ⟨y', hy', hylater.id.trans hyid⟩
    · exact ⟨next, hmem, hlater.id.trans hid.symm⟩
  · intro x hx
    rw [hreq] at hx
    rw [decisionsOf_append hdec]
    rcases Table.mem_set.mp hx with ⟨hx, hne⟩ | ⟨rfl, -⟩
    · have hne' : d.approvalId ≠ x.approvalId := fun he =>
        hne (he.symm.trans (hid.trans hlater.id.symm))
      rw [if_neg hne', List.append_nil]
      exact hcontrol x hx
    · rw [if_pos (hid.trans hlater.id.symm), hlater.id]
      exact hnext

end Commit

/-! ## The invariant of the calls in flight -/

/-- What holds of a call by how far it has come: it has written nothing before it has a plan and
after its end, and in between what its plan says. -/
def Phase.Holds (db : ApprovalDb) (flushed : List Write) : Phase → Prop
  | .ready | .committed | .aborted => flushed = []
  | .fetched _ _ row? => flushed = [] ∧ ∀ row ∈ row?, db.Knows row
  | .running plan todo => plan.Backed db ∧
      ∃ done, plan.script = done ++ todo ∧ List.Forall₂ Carries done flushed
  | .numbered plan event todo => plan.Backed db ∧
      ∃ done draft, plan.script = done ++ .audit draft :: todo ∧
        List.Forall₂ Carries done flushed ∧ ∃ sequenceNo, event = draft.numbered sequenceNo

theorem Phase.Holds.mono {db db' : ApprovalDb} (hext : db.Extends db') {flushed : List Write}
    {p : Phase} (h : p.Holds db flushed) : p.Holds db' flushed := by
  cases p with
  | fetched now req row? => exact ⟨h.1, fun row hrow => (h.2 row hrow).mono hext⟩
  | running plan todo => exact ⟨h.1.mono hext, h.2⟩
  | numbered plan event todo => exact ⟨h.1.mono hext, h.2⟩
  | _ => exact h

namespace Flights

variable {ι : Type} [DecidableEq ι] {s : Flights ι} {i : ι}

structure Inv (s : Flights ι) : Prop where
  sound : Sessions.Sound ApprovalDb.isolation s.sessions
  calls : ∀ j, (s.phase j).Holds s.db (s.sessions.flushed j)
  referenced : s.db.Referenced
  control : s.db.DualControl

omit [DecidableEq ι] in
theorem inv_init : Inv (init : Flights ι) where
  sound := Sessions.sound_init _
  calls := fun _ => rfl
  referenced := fun _ hd => absurd hd List.not_mem_nil
  control := fun _ hr => absurd hr Table.not_mem_empty

theorem Inv.moveTo (h : Inv s) {p : Phase} (hp : p.Holds s.db (s.sessions.flushed i)) :
    Inv (s.moveTo i p) := by
  refine ⟨h.sound, fun j => ?_, h.referenced, h.control⟩
  show (Function.update s.phase i p j).Holds s.db (s.sessions.flushed j)
  by_cases hj : j = i
  · subst hj
    rw [Function.update_self]
    exact hp
  · rw [Function.update_of_ne hj]
    exact h.calls j

theorem Inv.abort (h : Inv s) : Inv (s.abort i) := by
  unfold Flights.abort
  split
  · exact h
  · refine ⟨h.sound.rollback, fun j => ?_, h.referenced, h.control⟩
    show (Function.update s.phase i .aborted j).Holds s.db ((s.sessions.rollback i).flushed j)
    by_cases hj : j = i
    · subst hj
      rw [Function.update_self, Sessions.rollback_self]
      rfl
    · rw [Function.update_of_ne hj, Sessions.rollback_of_ne hj]
      exact h.calls j

theorem abort_db (s : Flights ι) (i : ι) : (s.abort i).db = s.db := by
  unfold Flights.abort
  split <;> rfl

/-- A call whose plan has gone out commits; dual control after the commit is all it needs. -/
theorem Inv.commit (h : Inv s) (hext : s.db.Extends (s.commit i).db)
    (href : (s.commit i).db.Referenced) (hcontrol : (s.commit i).db.DualControl) :
    Inv (s.commit i) := by
  refine ⟨h.sound.commit, fun j => ?_, href, hcontrol⟩
  show (Function.update s.phase i .committed j).Holds (s.commit i).db
    ((s.sessions.commit ApprovalDb.isolation i).flushed j)
  by_cases hj : j = i
  · subst hj
    rw [Function.update_self, Sessions.commit_self]
    rfl
  · rw [Function.update_of_ne hj, Sessions.commit_of_ne hj]
    exact (h.calls j).mono hext

variable [Fintype ι]

theorem send_db (s : Flights ι) (i : ι) (w : Write) (next : Phase) :
    (s.send i w next).db = s.db := by
  unfold send
  split
  · rfl
  · split
    · rfl
    · exact abort_db s i

/-- A write that goes out carries out the next statement. -/
theorem Inv.send (h : Inv s) {plan : Plan} {done todo : List Statement} {st : Statement} {w : Write}
    (hbacked : plan.Backed s.db) (hscript : plan.script = done ++ st :: todo)
    (hdone : List.Forall₂ Carries done (s.sessions.flushed i)) (hw : Carries st w) :
    Inv (s.send i w (.running plan todo)) := by
  unfold Flights.send
  split
  · exact h
  · next hwait =>
    split
    · next hgo =>
      obtain ⟨hadmits, hown⟩ := hgo
      refine ⟨h.sound.flush hadmits fun j w' hw' => ?_, fun j => ?_, h.referenced, h.control⟩
      · show ¬w'.contends w = true
        by_cases hj : j = i
        · subst hj
          simp [hown w' hw']
        · exact fun hc => hwait ⟨j, hj, w', hw', hc⟩
      · show (Function.update s.phase i (.running plan todo) j).Holds s.db
          ((s.sessions.flush i w).flushed j)
        by_cases hj : j = i
        · subst hj
          rw [Function.update_self, Sessions.flush_self]
          refine ⟨hbacked, done ++ [st], by simpa using hscript, ?_⟩
          exact List.rel_append hdone (.cons hw .nil)
        · rw [Function.update_of_ne hj, Sessions.flush_of_ne hj]
          exact h.calls j
    · exact h.abort

/-! ## Timely commits -/

/-- The commit of an approve that leaves its approval pending is timely: the approval is not
rejected, and pending it lacks one more approve. -/
def Timely (s : Flights ι) (turn : Turn ι) : Prop :=
  ∀ i d key audit, turn = .advance i → s.phase i = .running (.pending d key audit) [] →
    ∀ r ∈ s.db.requests, r.approvalId = d.approvalId → r.state ≠ .rejected ∧
      (r.state = .pendingReview →
        approveCount (s.db.decisionsOf r.approvalId) + 1 < r.quorumRequired)

variable {env : Primitives} {calls : ι → Call}

/-- A turn that is no commit changes nothing of the committed state. -/
theorem step_quiet (turn : Turn ι)
    (hturn : ∀ i plan, turn = .advance i → s.phase i ≠ .running plan []) :
    (s.step env calls turn).db = s.db ∧ (Inv s → Inv (s.step env calls turn)) := by
  cases turn with
  | abort i => exact ⟨abort_db s i, Inv.abort⟩
  | advance i =>
    simp only [step, advance]
    cases hphase : s.phase i with
    | ready =>
      dsimp only
      have hflushed (h : Inv s) : s.sessions.flushed i = [] := by
        have hcall : Phase.ready.Holds s.db (s.sessions.flushed i) := hphase ▸ h.calls i
        exact hcall
      split
      · refine ⟨rfl, fun h => h.moveTo ⟨openPlan_backed .., [], rfl, ?_⟩⟩
        rw [hflushed h]
        exact .nil
      · split
        · exact ⟨abort_db s i, Inv.abort⟩
        · refine ⟨rfl, fun h => h.moveTo ⟨hflushed h, fun row hrow => ?_⟩⟩
          exact ApprovalDb.knows_of_mem (Table.mem_of_find? hrow)
    | fetched now req row? =>
      refine ⟨rfl, fun h => ?_⟩
      have hcall : (Phase.fetched now req row?).Holds s.db (s.sessions.flushed i) :=
        hphase ▸ h.calls i
      refine h.moveTo ⟨decidePlan_backed env now req hcall.2, [], rfl, ?_⟩
      rw [hcall.1]
      exact .nil
    | numbered plan event todo =>
      refine ⟨send_db .., fun h => ?_⟩
      have hcall : (Phase.numbered plan event todo).Holds s.db (s.sessions.flushed i) :=
        hphase ▸ h.calls i
      obtain ⟨hbacked, done, draft, hscript, hdone, hevent⟩ := hcall
      exact h.send hbacked hscript hdone hevent
    | running plan todo =>
      have hcall (h : Inv s) : (Phase.running plan todo).Holds s.db (s.sessions.flushed i) :=
        hphase ▸ h.calls i
      cases todo with
      | nil => exact absurd hphase (hturn i plan rfl)
      | cons st todo =>
        cases st with
        | audit draft =>
          refine ⟨rfl, fun h => ?_⟩
          obtain ⟨hbacked, done, hscript, hdone⟩ := hcall h
          exact h.moveTo ⟨hbacked, done, draft, hscript, hdone, _, rfl⟩
        | write w =>
          refine ⟨send_db .., fun h => ?_⟩
          obtain ⟨hbacked, done, hscript, hdone⟩ := hcall h
          exact h.send hbacked hscript hdone rfl
    | committed => exact ⟨rfl, id⟩
    | aborted => exact ⟨rfl, id⟩

omit [Fintype ι] in
/-- A commit keeps dual control, that of an approve that leaves its approval pending exactly when it
is timely. -/
theorem Inv.commit_cases (h : Inv s) {plan : Plan} (hphase : s.phase i = .running plan []) :
    s.db.Extends (s.commit i).db ∧ (s.commit i).db.Referenced ∧
      ((s.commit i).db.DualControl ↔ s.Timely (.advance i)) := by
  have hcall : (Phase.running plan []).Holds s.db (s.sessions.flushed i) := hphase ▸ h.calls i
  obtain ⟨hbacked, done, hscript, hdone⟩ := hcall
  rw [List.append_nil] at hscript
  subst hscript
  have hadmits : ∀ w, Statement.write w ∈ plan.script → s.db.admits w = true := fun w hw =>
    h.sound.admitted i w (mem_of_carries hdone hw)
  obtain ⟨hreq, hdec⟩ := carries_tables hdone s.db
  rw [Plan.foldl_onRequests] at hreq
  have htimely (hplan : ∀ d key audit, plan ≠ .pending d key audit) : s.Timely (.advance i) := by
    intro j d key audit hturn hpending
    cases hturn
    rw [hphase, Phase.running.injEq] at hpending
    exact absurd hpending.1 (hplan d key audit)
  cases plan with
  | opened row key audit =>
    have hfresh : ∀ r ∈ s.db.requests, r.approvalId ≠ row.approvalId := by
      obtain ⟨-, hunique, -⟩ :=
        ApprovalDb.admits_eq_true.mp (hadmits (.request row) (by simp [Plan.script]))
      intro r hr
      have hr' := List.all_eq_true.mp hunique r hr
      simp only [Bool.and_eq_true, decide_eq_true_eq] at hr'
      exact hr'.1
    obtain ⟨hext, href, hcontrol⟩ := commit_opened h.control h.referenced
      hbacked.1 hbacked.2 hfresh hreq (hdec.trans (by simp [Plan.script, Statement.addedDecisions]))
    exact ⟨hext, href, iff_of_true hcontrol (htimely fun _ _ _ => Plan.noConfusion)⟩
  | pending d key audit =>
    obtain ⟨hd, row, ⟨r, hr, hlater⟩, hid, hmaker⟩ := hbacked
    rw [← hlater.id] at hid
    rw [← hlater.maker] at hmaker
    have hd' := hadmits (.decision d) (by simp [Plan.script])
    obtain ⟨hext, href, hcontrol⟩ := commit_pending h.control h.referenced
      hr hid hd hmaker hd' hreq (hdec.trans (by simp [Plan.script, Statement.addedDecisions]))
    refine ⟨hext, href, hcontrol.trans ⟨?_, ?_⟩⟩
    · rintro hr' j d' key' audit' hturn hpending x hx hxid
      cases hturn
      rw [hphase, Phase.running.injEq, Plan.pending.injEq] at hpending
      obtain ⟨⟨rfl, -, -⟩, -⟩ := hpending
      obtain rfl : x = r := Table.eq_of_key_eq hx hr (hxid.trans hid)
      exact hr'
    · exact fun ht => ht i d key audit rfl hphase r hr hid.symm
  | resolved d key storeVersion next audit outcome =>
    obtain ⟨row, now, ⟨r, hr, hlater⟩, hid, hmaker, hversion, hstate, hnext⟩ := hbacked
    -- the compare-and-set: the row that was read is the committed one
    have hsame : r = row := by
      obtain ⟨-, -, hcurrent⟩ := ApprovalDb.admits_eq_true.mp
        (hadmits (.update storeVersion next) (by simp [Plan.script]))
      have hnextid : next.approvalId = r.approvalId := by
        rcases hnext with ⟨-, rfl⟩ | ⟨-, rfl, -⟩ <;> exact hlater.id.symm
      have hfind : s.db.requests.find? next.approvalId = some r :=
        Table.find?_eq_some.mpr ⟨hr, hnextid.symm⟩
      simp only [ApprovalDb.isCurrent, hfind, Option.any_some, decide_eq_true_eq] at hcurrent
      exact hlater.same (by rw [hcurrent, hversion])
    subst hsame
    have hnew := checker_new (hadmits (.decision d) (by simp [Plan.script]))
    rw [hid] at hnew
    have hcontrolled := h.control r hr
    have hresolved : Later r next ∧ Controlled next (s.db.decisionsOf r.approvalId ++ [d]) := by
      rcases hnext with ⟨hd, rfl⟩ | ⟨hd, rfl, hquorum⟩
      · exact ⟨later_advanced .., hcontrolled.resolve_reject hstate hd hmaker hnew now⟩
      · exact ⟨later_advanced .., hcontrolled.resolve_approve hstate hd hmaker hnew hquorum now⟩
    obtain ⟨hext, href, hcontrol⟩ := commit_resolved h.control h.referenced
      hr hid hresolved.1 hresolved.2 hreq
      (hdec.trans (by simp [Plan.script, Statement.addedDecisions]))
    exact ⟨hext, href, iff_of_true hcontrol (htimely fun _ _ _ => Plan.noConfusion)⟩
  | denied refusal audit =>
    obtain ⟨hext, href, hcontrol⟩ := commit_unchanged h.control
      h.referenced hreq (hdec.trans (by simp [Plan.script, Statement.addedDecisions]))
    exact ⟨hext, href, iff_of_true hcontrol (htimely fun _ _ _ => Plan.noConfusion)⟩
  | replay row audit =>
    obtain ⟨hext, href, hcontrol⟩ := commit_unchanged h.control
      h.referenced hreq (hdec.trans (by cases audit <;> simp [Plan.script, Statement.addedDecisions]))
    exact ⟨hext, href, iff_of_true hcontrol (htimely fun _ _ _ => Plan.noConfusion)⟩
  | missing =>
    obtain ⟨hext, href, hcontrol⟩ := commit_unchanged h.control
      h.referenced hreq (hdec.trans (by simp [Plan.script]))
    exact ⟨hext, href, iff_of_true hcontrol (htimely fun _ _ _ => Plan.noConfusion)⟩

/-- A turn keeps dual control exactly when it is no untimely commit, and then keeps the
invariant. -/
theorem Inv.step_iff (h : Inv s) (turn : Turn ι) :
    ((s.step env calls turn).db.DualControl ↔ s.Timely turn) ∧
      ((s.step env calls turn).db.DualControl → Inv (s.step env calls turn)) := by
  by_cases hturn : ∀ i plan, turn = .advance i → s.phase i ≠ .running plan []
  · obtain ⟨hdb, hinv⟩ : (s.step env calls turn).db = s.db ∧ (Inv s → Inv (s.step env calls turn)) :=
      step_quiet turn hturn
    have htimely : s.Timely turn := fun i d key audit hi hphase =>
      absurd hphase (hturn i _ hi)
    rw [hdb]
    exact ⟨iff_of_true h.control htimely, fun _ => hinv h⟩
  · push Not at hturn
    obtain ⟨i, plan, rfl, hphase⟩ := hturn
    have hstep : s.step env calls (.advance i) = s.commit i := by
      simp only [step, advance, hphase]
    obtain ⟨hext, href, hcontrol⟩ := h.commit_cases hphase
    rw [hstep]
    exact ⟨hcontrol, h.commit hext href⟩

end Flights

/-- Dual control in every committed state of a run, whatever the calls and however they interleave:
exactly when every approve that leaves its approval pending commits in time. -/
theorem dual_control_iff {ι : Type} [Fintype ι] [DecidableEq ι] (env : Primitives) (calls : ι → Call)
    (turns : List (Turn ι)) :
    Along (Flights.step env calls)
        (fun s turn => (s.step env calls turn).db.DualControl) .init turns ↔
      Along (Flights.step env calls) Flights.Timely .init turns :=
  Along.congr (fun _ turn h => (h.step_iff turn).2) (fun _ turn h => (h.step_iff turn).1)
    Flights.inv_init

/-! ## Two checkers at once -/

/-- A maker opens an approval that needs two approves. -/
def opening : Call :=
  .create 0 1 2 none
    { actionId := none, tenantId := none, actionType := some "tenant.pause", maker := none
      reason := some "pause", idempotencyKey := some "k", expiresAt := some 10
      durableRetainUntil := none, confirm := true, correlationId := none
      sender := ⟨some "maker", .superAdmin, .identityOnly⟩ } .tenantPause .available

def approving (checker : String) : Call :=
  .decide 1
    { approvalId := (1 : Uuid).text, decision := some "approve", approverId := none
      reason := some "fine", idempotencyKey := some checker, confirm := true, correlationId := none
      sender := ⟨some checker, .superAdmin, .identityOnly⟩ }

def raceCalls : Fin 3 → Call := ![opening, approving "first", approving "second"]

/-- The approval is open; the second checker has read it, and that nobody has decided, before the
first commits, and takes the number of its audit event after. -/
def race : List (Turn (Fin 3)) :=
  List.replicate 6 (.advance 0) ++ [.advance 1, .advance 2, .advance 2] ++
    List.replicate 6 (.advance 1) ++ List.replicate 4 (.advance 2)

/-- Both approves are committed, and the approval is still pending. -/
theorem dual_control_broken_race :
    ¬Along (Flights.step plainPrimitives raceCalls)
      (fun s turn => (s.step plainPrimitives raceCalls turn).db.DualControl) .init
      (race ++ [.advance 2]) := by
  intro h
  have hcontrol := along_iff_forall.mp h race (.advance 2) [] rfl
  have hstuck : ∃ r ∈ (((race.foldl (Flights.step plainPrimitives raceCalls) .init).step
        plainPrimitives raceCalls (.advance 2)).db.requests).rows, r.state = .pendingReview ∧
      r.quorumRequired ≤ approveCount (((race.foldl (Flights.step plainPrimitives raceCalls)
        .init).step plainPrimitives raceCalls (.advance 2)).db.decisionsOf r.approvalId) := by
    decide +kernel
  obtain ⟨r, hr, hpending, hquorum⟩ := hstuck
  have hless := ((hcontrol r hr).of_pending hpending).2
  omega

end Durable

end Mpango
