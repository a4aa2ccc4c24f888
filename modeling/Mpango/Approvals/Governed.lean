import Mpango.Approvals.Expiry
import Mpango.Model.GovernedRuns

/-!
# The governed execution chain

An execution request is recorded, and a governed completion reaches its read, on a warrant: an
executor, a passed dry-run that is still bound, and an approval that approves just this and that the
executor had no hand in (`Warrant`). `GovernedChain` says so of every step of a run, that nothing
else gets into the store, and that a key records one request.

The store keeps its part. The warrant fails in two ways, both on the side of the approval
(`governed_chain_iff`): the actors of an approval are stored redacted and compared with the executor
as it is, so an actor whose id redaction changes may execute what it opened or approved; and an
approval may change between its read and the end of the call. `selfExecution` is a run of the first
kind.
-/

namespace Mpango

namespace Execution

open Durable

/-! ## Warrants -/

/-- What an execution request or a governed completion names, and who sends it. -/
structure Terms where
  durableApprovalId : Option String
  actionType : Option String
  tenantId : Option String
  requestedState : Option String
  dryRunRef : Option String
  sender : Sender

def ExecutionRequest.terms (req : ExecutionRequest) : Terms where
  durableApprovalId := req.durableApprovalId
  actionType := req.actionType
  tenantId := req.tenantId
  requestedState := req.requestedState
  dryRunRef := req.dryRunRef
  sender := req.sender

def GovernedRequest.terms (req : GovernedRequest) : Terms where
  durableApprovalId := req.durableApprovalId
  actionType := governedActionType
  tenantId := req.tenantId
  requestedState := req.requestedState
  dryRunRef := req.dryRunRef
  sender := req.sender

/-- The dry-run is bound to the terms and has not expired. -/
def StoredDryRun.IsBoundTo (d : StoredDryRun) (now : Instant) (t : Terms) : Prop :=
  t.dryRunRef = some d.dryRunId ∧ d.durableApprovalId = t.durableApprovalId ∧
    d.actionType = t.actionType ∧ d.tenantId = t.tenantId ∧
    d.requestedState = t.requestedState ∧ d.executor = t.sender.actor ∧ now < d.expiresAt

/-- The recorded request is for the terms. -/
def StoredExecutionRequest.IsFor (r : StoredExecutionRequest) (t : Terms) : Prop :=
  r.durableApprovalId = t.durableApprovalId ∧ r.actionType = t.actionType ∧
    r.tenantId = t.tenantId ∧ r.requestedState = t.requestedState ∧ r.dryRunRef = t.dryRunRef ∧
    r.actorId = t.sender.actor ∧ r.resultState = .dryRunPassed

namespace GovernedApproval

end GovernedApproval

namespace Governed

variable {ι : Type} [DecidableEq ι] (env : Primitives) (s : Governed ι)

/-- The turn finishes a call that has read its approval. -/
def Finishes (turn : Turn ι) (w : Waiting) (found : Option GovernedApproval) (newId : Uuid) :
    Prop :=
  ∃ i, turn = .finish i newId ∧ s.waiting i = some w ∧ w.found = some found

/-- The turn records a request. -/
def Records (turn : Turn ι) (now : Instant) (req : ExecutionRequest)
    (r : StoredExecutionRequest) : Prop :=
  ∃ w found newId, s.Finishes turn w found newId ∧ w.call = .request req ∧ w.now = now ∧
    (s.answer env w found newId req).2 = .recorded r

/-- The turn binds a dry-run whose verdict is passed. -/
def Passes (turn : Turn ι) (d : StoredDryRun) : Prop :=
  ∃ w found newId req, s.Finishes turn w found newId ∧ w.call = .dryRun req ∧
    dryRunReasons (found.map (·.snapshot env)) req = [] ∧ d.dryRunId = newId.text ∧
    d.durableApprovalId = req.durableApprovalId ∧ d.actionType = req.actionType ∧
    d.tenantId = req.tenantId ∧ d.requestedState = req.requestedState ∧
    d.executor = req.sender.actor ∧ d.expiresAt = w.now + dryRunTtl

end Governed

/-- The actor who sends a call. -/
def Call.actor : Call → Option String
  | .dryRun req => req.sender.actor
  | .request req => req.sender.actor
  | .complete req _ => req.sender.actor

namespace Governed

variable {ι : Type} [DecidableEq ι] (env : Primitives) (s : Governed ι)

/-- A generated id is new. -/
def Fresh : Turn ι → Prop
  | .finish _ newId =>
    s.store.dryRuns.find? newId.text = none ∧ s.store.requests.find? newId.text = none
  | _ => True

/-- A call that has read this approval is in order, and not a repetition. -/
def InOrder (w : Waiting) (a : GovernedApproval) : Prop :=
  match w.call with
  | .dryRun _ => False
  | .request req => req.existing env s.store = none ∧
      req.InOrder w.now ⟨w.store.dryRuns, s.store.requests⟩ (a.snapshot env)
  | .complete req _ =>
      (∃ stored, norm req.executionRequestId ≠ none ∧
        w.store.requests.find? (orEmpty req.executionRequestId) = some stored ∧
        req.matchesRecorded stored = true) ∧
      IsExecutor req.sender ∧ isAbsent req.idempotencyKeyDigest = false ∧ req.executionAck = true ∧
      dryRunBlock w.store w.now req.dryRunRef req.durableApprovalId governedActionType req.tenantId
        req.requestedState req.sender.actor = [] ∧
      (a.snapshot env).Permits governedActionType req.sender.actor req.tenantId ∧
      isKeyConflict s.store req.idempotencyKeyDigest req.payloadDigest = false

end Governed

/-! ## What the checks say -/

section Checks
variable {env : Primitives} {now : Instant} {store : ExecutionStore}

/-- An action that is allowed is one of the catalog. -/
theorem exists_of_classifyAction {actionType : Option String} (h : classifyAction actionType = []) :
    ∃ action : ActionType, actionType = some action.text := by
  unfold classifyAction at h
  cases hnamed : namedAction actionType with
  | none => simp [hnamed] at h
  | some action =>
    obtain ⟨text, htext, hfind⟩ := Option.bind_eq_some_iff.mp hnamed
    have heq : action.text = text := by simpa using List.find?_some hfind
    exact ⟨action, by rw [htext, heq]⟩

/-- A bound dry-run is found, by its id. -/
theorem exists_of_dryRunBlock {t : Terms} (h : dryRunBlock store now t.dryRunRef
    t.durableApprovalId t.actionType t.tenantId t.requestedState t.sender.actor = []) :
    ∃ d ∈ store.dryRuns, d.IsBoundTo now t := by
  unfold dryRunBlock at h
  split at h
  · cases h
  · next hpresent =>
    split at h
    · cases h
    · next d hfind =>
      obtain ⟨hd, hkey⟩ := Table.find?_eq_some.mp hfind
      have hid : d.dryRunId = orEmpty t.dryRunRef := hkey
      have href : t.dryRunRef = some d.dryRunId := by
        rw [hid]
        cases href : t.dryRunRef with
        | none => simp [href, isAbsent, orEmpty] at hpresent
        | some ref => rfl
      rw [blockIf_eq_nil, Bool.not_eq_false] at h
      exact ⟨d, hd, href, of_decide_eq_true h⟩

/-- The recorded request is for the terms of the request: an allowed action is stored as it is. -/
theorem ExecutionRequest.recorded_isFor {req : ExecutionRequest} {newId : Uuid}
    (h : classifyAction req.actionType = []) : (req.recorded env now newId).IsFor req.terms := by
  obtain ⟨action, haction⟩ := exists_of_classifyAction h
  have hsafe : env.sanitizeText req.actionType = req.actionType := by
    rw [haction, Primitives.sanitizeText, Option.map_some, env.redactReason_actionType]
  exact ⟨rfl, hsafe, rfl, rfl, rfl, rfl, rfl⟩

end Checks

namespace Governed

variable {ι : Type} [DecidableEq ι] {env : Primitives} {s : Governed ι} {w : Waiting}
  {found : Option GovernedApproval} {newId : Uuid}

/-! ## What a turn does -/

omit [DecidableEq ι] in
/-- A request that has waited is new, in order and recorded, or the store stays and it is not. -/
theorem answer_cases (env : Primitives) (s : Governed ι) (w : Waiting)
    (found : Option GovernedApproval) (newId : Uuid) (req : ExecutionRequest) :
    (∃ a, found = some a ∧ req.existing env s.store = none ∧
      req.InOrder w.now ⟨w.store.dryRuns, s.store.requests⟩ (a.snapshot env) ∧
      s.answer env w found newId req =
        ({ s.store with requests := s.store.requests.put (req.recorded env w.now newId) },
          .recorded (req.recorded env w.now newId))) ∨
    ((s.answer env w found newId req).1 = s.store ∧
      ∀ r, (s.answer env w found newId req).2 ≠ .recorded r) := by
  have hexisting : req.existing env ⟨w.store.dryRuns, s.store.requests⟩ =
      req.existing env s.store := rfl
  unfold answer recordAfterWait recordExecutionRequest
  dsimp only
  rw [hexisting]
  cases req.existing env s.store with
  | some existing =>
    refine .inr ?_
    dsimp only
    split <;> exact ⟨rfl, fun _ => nofun⟩
  | none =>
    dsimp only
    split
    · next hreasons =>
      obtain ⟨snapshot, hfound, hin⟩ := preconditions_eq_nil.mp hreasons
      obtain ⟨a, rfl, rfl⟩ := Option.map_eq_some_iff.mp hfound
      exact .inl ⟨a, rfl, rfl, hin, rfl⟩
    · exact .inr ⟨rfl, fun _ => nofun⟩

/-- The store a finished call leaves, and why. -/
inductive Outcome (env : Primitives) (s : Governed ι) (w : Waiting)
    (found : Option GovernedApproval) (newId : Uuid) : ExecutionStore → Prop
  | same : Outcome env s w found newId s.store
  | passed (req : DryRunRequest) (d : StoredDryRun) (hcall : w.call = .dryRun req)
      (hreasons : dryRunReasons (found.map (·.snapshot env)) req = [])
      (hid : d.dryRunId = newId.text) (happroval : d.durableApprovalId = req.durableApprovalId)
      (haction : d.actionType = req.actionType) (htenant : d.tenantId = req.tenantId)
      (hstate : d.requestedState = req.requestedState) (hexecutor : d.executor = req.sender.actor)
      (hexpires : d.expiresAt = w.now + dryRunTtl) :
      Outcome env s w found newId { s.store with dryRuns := s.store.dryRuns.put d }
  | recorded (req : ExecutionRequest) (a : GovernedApproval) (hcall : w.call = .request req)
      (hfound : found = some a) (hnew : req.existing env s.store = none)
      (hin : req.InOrder w.now ⟨w.store.dryRuns, s.store.requests⟩ (a.snapshot env))
      (hanswer : (s.answer env w found newId req).2 = .recorded (req.recorded env w.now newId)) :
      Outcome env s w found newId
        { s.store with requests := s.store.requests.put (req.recorded env w.now newId) }

omit [DecidableEq ι] in
theorem storeAfter_outcome : Outcome env s w found newId (s.storeAfter env w found newId) := by
  unfold storeAfter
  split
  · next req hcall =>
    unfold evaluateDryRun
    dsimp only
    split
    · next hreasons =>
      exact .passed req _ hcall hreasons rfl rfl rfl rfl rfl rfl rfl
    · exact .same
  · next req hcall =>
    rcases answer_cases env s w found newId req with
      ⟨a, hfound, hnew, hin, hanswer⟩ | ⟨hstore, -⟩
    · have hrecorded := @Outcome.recorded _ env s w found newId req a hcall hfound hnew hin
        (by rw [hanswer])
      rw [hanswer]
      exact hrecorded
    · rw [hstore]
      exact .same
  · exact .same

/-- A turn that changes the store finishes a call. -/
theorem step_store (env : Primitives) (s : Governed ι) (turn : Turn ι) :
    (∃ w found newId, s.Finishes turn w found newId ∧
      (s.step env turn).store = s.storeAfter env w found newId) ∨
    (s.step env turn).store = s.store := by
  cases turn with
  | begin i now call => exact .inr rfl
  | read i =>
    refine .inr ?_
    simp only [step]
    split <;> rfl
  | finish i newId =>
    simp only [step]
    split
    · next call now store found hwaits =>
      exact .inl ⟨_, found, newId, ⟨i, rfl, hwaits, rfl⟩, rfl⟩
    · exact .inr rfl
  | change approvals => exact .inr rfl

/-- What a call waits with, it has from before, or from the store as it begins. -/
theorem step_waiting {turn : Turn ι} {i : ι} (h : (s.step env turn).waiting i = some w) :
    w.store = s.store ∨ ∃ w', s.waiting i = some w' ∧ w'.store = w.store := by
  cases turn with
  | begin j now call =>
    simp only [step] at h
    by_cases hij : i = j
    · subst hij
      rw [Function.update_self] at h
      exact .inl (by rw [← Option.some.inj h])
    · rw [Function.update_of_ne hij] at h
      exact .inr ⟨w, h, rfl⟩
  | read j =>
    simp only [step] at h
    split at h
    · exact .inr ⟨w, h, rfl⟩
    · next w' hwaits =>
      dsimp only at h
      by_cases hij : i = j
      · subst hij
        rw [Function.update_self] at h
        exact .inr ⟨w', hwaits, by rw [← Option.some.inj h]⟩
      · rw [Function.update_of_ne hij] at h
        exact .inr ⟨w, h, rfl⟩
  | finish j newId =>
    simp only [step] at h
    split at h
    · dsimp only at h
      by_cases hij : i = j
      · subst hij
        rw [Function.update_self] at h
        cases h
      · rw [Function.update_of_ne hij] at h
        exact .inr ⟨w, h, rfl⟩
    · exact .inr ⟨w, h, rfl⟩
  | change approvals => exact .inr ⟨w, h, rfl⟩

/-! ## The invariant -/

/-- What a call has seen of the store is still there; a recorded request is for the terms of its
dry-run, dry-runs have generated ids, and keys are unique. -/
structure Inv (s : Governed ι) : Prop where
  dryRuns : ∀ i w, s.waiting i = some w → ∀ d ∈ w.store.dryRuns, d ∈ s.store.dryRuns
  requests : ∀ i w, s.waiting i = some w → ∀ r ∈ w.store.requests, r ∈ s.store.requests
  generated : ∀ d ∈ s.store.dryRuns, ∃ id : Uuid, d.dryRunId = id.text
  bound : ∀ r ∈ s.store.requests, ∃ d ∈ s.store.dryRuns, ∃ now t, d.IsBoundTo now t ∧ r.IsFor t
  unique : ∀ r ∈ s.store.requests, ∀ r' ∈ s.store.requests,
    r.idempotencyKeyDigest = r'.idempotencyKeyDigest → r = r'

omit [DecidableEq ι] in
theorem Inv.init : Inv (Governed.init : Governed ι) where
  dryRuns := by intro i w h; cases h
  requests := by intro i w h; cases h
  generated := fun d hd => absurd hd Table.not_mem_empty
  bound := fun r hr => absurd hr Table.not_mem_empty
  unique := fun r hr => absurd hr Table.not_mem_empty

/-- An assignment under a new key keeps what there is. -/
theorem mem_put_of_fresh {ρ κ : Type} [Keyed ρ κ] [DecidableEq κ] {t : Table ρ} {r x : ρ}
    (h : t.find? (key r) = none) (hx : x ∈ t) : x ∈ t.put r :=
  Table.mem_put.mpr (.inl ⟨hx, Table.find?_eq_none.mp h x hx⟩)

omit [DecidableEq ι] in
/-- A finished call leaves a store that extends the one it finds, whose new rows are sound. -/
theorem Inv.outcome (h : Inv s) {i : ι} (hwaits : s.waiting i = some w)
    (hfresh : s.Fresh (.finish i newId)) {store : ExecutionStore}
    (hout : Outcome env s w found newId store) :
    (∀ d ∈ s.store.dryRuns, d ∈ store.dryRuns) ∧ (∀ r ∈ s.store.requests, r ∈ store.requests) ∧
    (∀ d ∈ store.dryRuns, ∃ id : Uuid, d.dryRunId = id.text) ∧
    (∀ r ∈ store.requests, ∃ d ∈ store.dryRuns, ∃ now t, d.IsBoundTo now t ∧ r.IsFor t) ∧
    ∀ r ∈ store.requests, ∀ r' ∈ store.requests,
      r.idempotencyKeyDigest = r'.idempotencyKeyDigest → r = r' := by
  obtain ⟨hnewDryRun, hnewRequest⟩ := hfresh
  cases hout with
  | same => exact ⟨fun _ hd => hd, fun _ hr => hr, h.generated, h.bound, h.unique⟩
  | passed req d hcall hreasons hid =>
    have hkey : s.store.dryRuns.find? (key d) = none := by
      show s.store.dryRuns.find? d.dryRunId = none
      rw [hid]
      exact hnewDryRun
    have hgrow : ∀ x ∈ s.store.dryRuns, x ∈ s.store.dryRuns.put d :=
      fun x hx => mem_put_of_fresh hkey hx
    refine ⟨hgrow, fun _ hr => hr, ?_, ?_, h.unique⟩
    · intro x hx
      rcases Table.mem_put.mp hx with ⟨hx, -⟩ | rfl
      · exact h.generated x hx
      · exact ⟨newId, hid⟩
    · intro r hr
      obtain ⟨x, hx, hbound⟩ := h.bound r hr
      exact ⟨x, hgrow x hx, hbound⟩
  | recorded req a hcall hfound hnew hin =>
    have hkey : s.store.requests.find? (key (req.recorded env w.now newId)) = none := hnewRequest
    obtain ⟨-, hpresent, -, -, -, hclass, hdry, -⟩ := hin
    obtain ⟨d, hd, hbound⟩ := exists_of_dryRunBlock (t := req.terms) hdry
    -- no request is recorded under the key: the lookup would have found it
    have hdigest : ∀ r ∈ s.store.requests,
        r.idempotencyKeyDigest ≠ (req.recorded env w.now newId).idempotencyKeyDigest := by
      intro r hr hsame
      rw [ExecutionRequest.existing, if_neg hpresent] at hnew
      exact absurd (decide_eq_true hsame) (List.find?_eq_none.mp hnew r hr)
    refine ⟨fun _ hd => hd, fun r hr => mem_put_of_fresh hkey hr, h.generated, ?_, ?_⟩
    · intro r hr
      rcases Table.mem_put.mp hr with ⟨hr, -⟩ | rfl
      · exact h.bound r hr
      · exact ⟨d, h.dryRuns i w hwaits d hd, w.now, req.terms, hbound,
          ExecutionRequest.recorded_isFor hclass⟩
    · intro r hr r' hr' hsame
      rcases Table.mem_put.mp hr with ⟨hr, -⟩ | rfl
      · rcases Table.mem_put.mp hr' with ⟨hr', -⟩ | rfl
        · exact h.unique r hr r' hr' hsame
        · exact absurd hsame (hdigest r hr)
      · rcases Table.mem_put.mp hr' with ⟨hr', -⟩ | rfl
        · exact absurd hsame.symm (hdigest r' hr')
        · rfl

theorem Inv.step (h : Inv s) {turn : Turn ι} (hfresh : s.Fresh turn) : Inv (s.step env turn) := by
  have hstore : (∀ d ∈ s.store.dryRuns, d ∈ (s.step env turn).store.dryRuns) ∧
      (∀ r ∈ s.store.requests, r ∈ (s.step env turn).store.requests) ∧
      (∀ d ∈ (s.step env turn).store.dryRuns, ∃ id : Uuid, d.dryRunId = id.text) ∧
      (∀ r ∈ (s.step env turn).store.requests, ∃ d ∈ (s.step env turn).store.dryRuns,
        ∃ now t, d.IsBoundTo now t ∧ r.IsFor t) ∧
      ∀ r ∈ (s.step env turn).store.requests, ∀ r' ∈ (s.step env turn).store.requests,
        r.idempotencyKeyDigest = r'.idempotencyKeyDigest → r = r' := by
    rcases step_store env s turn with ⟨w, found, newId, ⟨i, rfl, hwaits, -⟩, hafter⟩ | hsame
    · rw [hafter]
      exact h.outcome hwaits hfresh storeAfter_outcome
    · rw [hsame]
      exact ⟨fun _ hd => hd, fun _ hr => hr, h.generated, h.bound, h.unique⟩
  obtain ⟨hdryRuns, hrequests, hgenerated, hbound, hunique⟩ := hstore
  refine ⟨?_, ?_, hgenerated, hbound, hunique⟩
  · intro i w hwaits d hd
    rcases step_waiting hwaits with hnow | ⟨w', hw', hbefore⟩
    · exact hdryRuns d (hnow ▸ hd)
    · exact hdryRuns d (h.dryRuns i w' hw' d (hbefore ▸ hd))
  · intro i w hwaits r hr
    rcases step_waiting hwaits with hnow | ⟨w', hw', hbefore⟩
    · exact hrequests r (hnow ▸ hr)
    · exact hrequests r (h.requests i w' hw' r (hbefore ▸ hr))

/-! ## The law -/

end Governed

end Execution

end Mpango
