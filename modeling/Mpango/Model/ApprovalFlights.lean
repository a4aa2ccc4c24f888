import Mpango.Model.ApprovalStore
import Mpango.Library.ReadCommitted

/-!
# Approval requests in flight

Any number of calls of `create_request` and `submit_decision`, each with a session of its own at
READ COMMITTED. In its turn a call makes one step: a read, the number of an audit event, a write or
the commit. A write that collides with one in flight elsewhere waits, which is a turn that changes
nothing; a write the committed state refuses ends its call, as an abort does at any moment.

A create reads in one step: the request it reads second has been committed with the idempotency row
it reads first, and is only shown.
-/

namespace Mpango

namespace Durable

/-! ## Writes that wait for each other -/

/-- Whether a write has to wait for another that is not committed: an entry of a unique index that
both claim, or a row that both write. -/
def Write.contends : Write → Write → Bool
  | .audit e, .audit e' => e.clashes e'
  | .request r, .request r' => r.approvalId = r'.approvalId || r.clashes r'
  | .request r, .update _ r' => r.approvalId = r'.approvalId || (r.state.isActive && r.sameTarget r')
  | .update _ r, .request r' => r.approvalId = r'.approvalId || (r'.state.isActive && r.sameTarget r')
  | .update _ r, .update _ r' => r.approvalId = r'.approvalId || r.clashes r'
  | .decision d, .decision d' => d.clashes d'
  | .key k, .key k' => k.clashes k'
  | _, _ => false

/-- Whether the database admits a write. -/
def ApprovalDb.admits (db : ApprovalDb) (w : Write) : Bool :=
  w.isStorable && db.isUnique w && db.isCurrent w

theorem Write.contends_comm (w w' : Write) : w.contends w' = w'.contends w := by
  cases w <;> cases w' <;> try rfl
  case audit.audit e e' =>
    simp only [contends, AuditEvent.clashes]
    rw [Bool.eq_iff_iff]
    simp only [Bool.and_eq_true, decide_eq_true_eq]
    constructor
    · rintro ⟨⟨hsome, hid⟩, hno⟩
      exact ⟨⟨hid ▸ hsome, hid.symm⟩, hno.symm⟩
    · rintro ⟨⟨hsome, hid⟩, hno⟩
      exact ⟨⟨hid ▸ hsome, hid.symm⟩, hno.symm⟩
  case request.request r r' =>
    simp only [contends, r.clashes_comm r', eq_comm (a := r.approvalId)]
  case request.update r _ r' =>
    simp only [contends, r.sameTarget_comm r', eq_comm (a := r.approvalId)]
  case update.request _ r r' =>
    simp only [contends, r.sameTarget_comm r', eq_comm (a := r.approvalId)]
  case update.update _ r _ r' =>
    simp only [contends, r.clashes_comm r', eq_comm (a := r.approvalId)]
  case decision.decision d d' =>
    simp only [contends, DurableApprovalDecision.clashes, eq_comm]
  case key.key k k' =>
    simp only [contends, IdempotencyKey.clashes, eq_comm]

namespace ApprovalDb

variable {db : ApprovalDb} {w w' : Write}

/-- A write that waits for none keeps the unique indexes open to the other. -/
theorem isUnique_apply (hfree : w.contends w' = false) (h : db.isUnique w = true) :
    (db.apply w').isUnique w = true := by
  cases w' with
  | audit e' =>
    cases w with
    | audit e =>
      simp only [isUnique, apply, List.all_append, Bool.and_eq_true]
      exact ⟨h, by simpa [Write.contends] using hfree⟩
    | _ => exact h
  | decision d' =>
    cases w with
    | decision d =>
      simp only [isUnique, apply, List.all_append, Bool.and_eq_true]
      exact ⟨h, by simpa [Write.contends] using hfree⟩
    | _ => exact h
  | key k' =>
    cases w with
    | key k =>
      simp only [isUnique, apply, List.all_append, Bool.and_eq_true]
      exact ⟨h, by simpa [Write.contends] using hfree⟩
    | _ => exact h
  | request r' =>
    cases w with
    | request r =>
      simp only [Write.contends, Bool.or_eq_false_iff, decide_eq_false_iff_not] at hfree
      simp only [isUnique, List.all_eq_true, Bool.and_eq_true, decide_eq_true_eq] at h ⊢
      intro x hx
      rcases Table.mem_put.mp hx with ⟨hx, -⟩ | rfl
      · exact h x hx
      · exact ⟨Ne.symm hfree.1, by simp [hfree.2]⟩
    | update v r =>
      simp only [Write.contends, Bool.or_eq_false_iff] at hfree
      simp only [isUnique, List.all_eq_true] at h ⊢
      intro x hx
      rcases Table.mem_put.mp hx with ⟨hx, -⟩ | rfl
      · exact h x hx
      · simp only [DurableApprovalRequest.clashes]
        grind
    | _ => exact h
  | update v r' =>
    cases w with
    | request r =>
      simp only [Write.contends, Bool.or_eq_false_iff, decide_eq_false_iff_not] at hfree
      simp only [isUnique, List.all_eq_true, Bool.and_eq_true, decide_eq_true_eq] at h ⊢
      intro x hx
      rcases Table.mem_set.mp hx with ⟨hx, -⟩ | ⟨rfl, -⟩
      · exact h x hx
      · refine ⟨Ne.symm hfree.1, ?_⟩
        simp only [DurableApprovalRequest.clashes]
        grind
    | update v r =>
      simp only [Write.contends, Bool.or_eq_false_iff] at hfree
      simp only [isUnique, List.all_eq_true] at h ⊢
      intro x hx
      rcases Table.mem_set.mp hx with ⟨hx, -⟩ | ⟨rfl, -⟩
      · exact h x hx
      · simp [hfree.2]
    | _ => exact h

/-- It leaves the row the other updates. -/
theorem isCurrent_apply (hfree : w.contends w' = false) (h : db.isCurrent w = true) :
    (db.apply w').isCurrent w = true := by
  cases w with
  | update v r =>
    cases w' with
    | request r' =>
      have hne : r.approvalId ≠ r'.approvalId := by
        intro he
        simp [Write.contends, he] at hfree
      simp only [isCurrent, apply]
      rw [Table.find?_put_of_ne (r := r') hne]
      exact h
    | update v' r' =>
      have hne : r.approvalId ≠ r'.approvalId := by
        intro he
        simp [Write.contends, he] at hfree
      simp only [isCurrent, apply]
      rw [Table.find?_set_of_ne (r := r') hne]
      exact h
    | _ => exact h
  | _ => rfl

theorem admits_eq_true : db.admits w = true ↔
    w.isStorable = true ∧ db.isUnique w = true ∧ db.isCurrent w = true := by
  simp [admits, and_assoc]

/-- The database at READ COMMITTED. -/
def isolation : Isolation ApprovalDb Write where
  apply := apply
  Admits db w := db.admits w = true
  Contends w w' := w.contends w' = true
  symm h := (Write.contends_comm _ _).trans h
  admits_apply := by
    intro db w w' hfree hw _
    rw [Bool.not_eq_true] at hfree
    obtain ⟨hstorable, hunique, hcurrent⟩ := admits_eq_true.mp hw
    exact admits_eq_true.mpr
      ⟨hstorable, isUnique_apply hfree hunique, isCurrent_apply hfree hcurrent⟩

end ApprovalDb

/-! ## Calls in flight -/

/-- A call of the adapter, with what it is given and the identifiers it generates. -/
inductive Call
  | create (now : Instant) (newId actionId : Uuid) (tenantId : Option Uuid) (req : CreateRequest)
      (actionType : ActionType) (sourceStatus : SourceStatus)
  | decide (now : Instant) (req : DecisionRequest)

/-- How far a call has come: with a plan, the statements it still has to run, the first of them with
its number where it is an audit event that has taken one. -/
inductive Phase
  | ready
  | fetched (now : Instant) (req : DecisionRequest) (row? : Option DurableApprovalRequest)
  | running (plan : Plan) (todo : List Statement)
  | numbered (plan : Plan) (event : Write) (todo : List Statement)
  | committed
  | aborted

/-- The database, what the calls have written to it, and how far they are. -/
structure Flights (ι : Type) where
  sessions : Sessions ι ApprovalDb Write
  phase : ι → Phase

inductive Turn (ι : Type)
  | advance (i : ι)
  | abort (i : ι)

namespace Flights

variable {ι : Type} [DecidableEq ι]

/-- No call has begun. -/
def init : Flights ι := ⟨⟨.empty, fun _ => []⟩, fun _ => .ready⟩

/-- What is committed. -/
def db (s : Flights ι) : ApprovalDb := s.sessions.committed

/-- What a call reads: the committed state, and on it what the call has written itself. -/
def view (s : Flights ι) (i : ι) : ApprovalDb := (s.sessions.flushed i).foldl ApprovalDb.apply s.db

def moveTo (s : Flights ι) (i : ι) (p : Phase) : Flights ι :=
  { s with phase := Function.update s.phase i p }

/-- The transaction of a call is rolled back, unless it has committed. -/
def abort (s : Flights ι) (i : ι) : Flights ι :=
  match s.phase i with
  | .committed => s
  | _ => ⟨s.sessions.rollback i, Function.update s.phase i .aborted⟩

def commit (s : Flights ι) (i : ι) : Flights ι :=
  ⟨s.sessions.commit ApprovalDb.isolation i, Function.update s.phase i .committed⟩

variable [Fintype ι]

/-- A write waits for another transaction, goes out, or ends its call. -/
def send (s : Flights ι) (i : ι) (w : Write) (next : Phase) : Flights ι :=
  if ∃ j, j ≠ i ∧ ∃ w' ∈ s.sessions.flushed j, w'.contends w = true then s
  else if s.db.admits w = true ∧ ∀ w' ∈ s.sessions.flushed i, w'.contends w = false then
    ⟨s.sessions.flush i w, Function.update s.phase i next⟩
  else s.abort i

/-- A call makes its next step. -/
def advance (env : Primitives) (calls : ι → Call) (s : Flights ι) (i : ι) : Flights ι :=
  match s.phase i with
  | .ready =>
    match calls i with
    | .create now newId actionId tenantId req actionType sourceStatus =>
      let plan := openPlan env now newId actionId tenantId s.db req actionType sourceStatus
      s.moveTo i (.running plan plan.script)
    | .decide now req =>
      match Uuid.parse req.approvalId with
      | none => s.abort i
      | some id => s.moveTo i (.fetched now req (s.db.requests.find? id))
  | .fetched now req row? =>
    let decisions := row?.elim [] fun row => s.db.decisionsOf row.approvalId
    let plan := decidePlan env now row? decisions req
    s.moveTo i (.running plan plan.script)
  | .running plan (.audit draft :: todo) =>
    let sequenceNo := (s.view i).nextSequenceNo draft.approvalId
    s.moveTo i (.numbered plan (draft.numbered sequenceNo) todo)
  | .running plan (.write w :: todo) => s.send i w (.running plan todo)
  | .numbered plan event todo => s.send i event (.running plan todo)
  | .running _ [] => s.commit i
  | .committed | .aborted => s

def step (env : Primitives) (calls : ι → Call) (s : Flights ι) : Turn ι → Flights ι
  | .advance i => s.advance env calls i
  | .abort i => s.abort i

end Flights

end Durable

end Mpango
