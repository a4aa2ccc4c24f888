import Mpango.Library.Recall
import Mpango.Library.Run
import Mpango.Digests.Dedup
import Mpango.Model.ActionRequests
import Mpango.Approvals.Backends

/-!
# Requests under one idempotency key

The action requests, the durable approvals and the execution requests are each recorded under an
idempotency key, with a digest of the request; another request under the key is answered as the
recorded one if the digests agree, and as a conflict if not. Each digest is taken of fields joined
with bars, and leaves out some of what the operation is asked for: the actor of an action request,
the action an approval is for.

A later request is told from the recorded one exactly when the joined fields tell the two apart and
what the digest leaves out agrees with them.
-/

namespace Mpango

open JoinedFields

variable {env : Primitives}

/-- Whether the answer under a key that is taken tells two requests apart: it repeats the first only
for the same request, and refuses any other as a conflict. -/
structure ToldApart (duplicate conflict same : Prop) : Prop where
  duplicate : duplicate → same
  conflict : ¬same → conflict

/-- An answer that goes by the digests tells apart what the digests tell apart. -/
theorem toldApart_iff {duplicate conflict same agree : Prop} (hduplicate : duplicate ↔ agree)
    (hconflict : conflict ↔ ¬agree) : ToldApart duplicate conflict same ↔ (agree → same) := by
  constructor
  · intro h hagree
    exact h.duplicate (hduplicate.mpr hagree)
  · intro h
    exact ⟨fun hdup => h (hduplicate.mp hdup),
      fun hne => hconflict.mpr fun hagree => hne (h hagree)⟩

theorem toldApart_ite (hsha : Function.Injective env.sha256) {α : Type} {dup conf : α}
    (hne : dup ≠ conf) {x y : String} {same : Prop} :
    ToldApart ((if env.sha256 x = env.sha256 y then dup else conf) = dup)
      ((if env.sha256 x = env.sha256 y then dup else conf) = conf) same ↔ (x = y → same) := by
  apply toldApart_iff
  · rw [ite_eq_left_iff, hsha.eq_iff]
    exact ⟨fun h => by_contra fun hxy => hne (h hxy).symm, fun h hxy => absurd h hxy⟩
  · rw [ite_eq_right_iff, hsha.eq_iff]
    exact ⟨fun h hxy => hne (h hxy), fun h hxy => absurd hxy h⟩

/-- Joined fields give a request, if they are separated and the request has nothing else that
matters. -/
theorem barJoin_imp_iff {fs gs : List (Option String)} {same rest : Prop} (hfs : fs ≠ [])
    (hgs : gs ≠ []) (hsame : same ↔ fs = gs ∧ rest) :
    (barJoin (texts fs) = barJoin (texts gs) → same) ↔
      Separated '|' fs gs ∧ (fs = gs → rest) := by
  rw [barSeparated_iff hfs hgs, hsame]
  constructor
  · intro h
    exact ⟨fun hjoin => (h hjoin).1, fun heq => (h (by rw [heq])).2⟩
  · rintro ⟨hfields, hrest⟩ hjoin
    exact ⟨hfields hjoin, hrest (hfields hjoin)⟩

namespace Actions

/-! ## Action requests -/

/-- The fields of the fingerprint. -/
def ActionRequest.keyFields (req : ActionRequest) : List (Option String) :=
  [some req.actionType, req.tenantId, req.requestedState, some req.rawReason]

theorem fingerprint_eq (req : ActionRequest) :
    fingerprint env req.actionType req.tenantId req.requestedState req.rawReason =
      env.sha256 (barJoin (texts req.keyFields)) := rfl

namespace Submission

/-- Whether two submissions are for the same action. -/
structure Same (c c' : Submission) : Prop where
  actionType : c.request.actionType = c'.request.actionType
  tenantId : c.request.tenantId = c'.request.tenantId
  actor : c.actor = c'.actor
  requestedState : c.request.requestedState = c'.request.requestedState
  reason : c.request.reason = c'.request.reason

/-- Whether the fingerprints tell two submissions apart. -/
def Separate (c c' : Submission) : Prop :=
  Separated '|' c.request.keyFields c'.request.keyFields ∧
    (c.request.keyFields = c'.request.keyFields →
      c.actor = c'.actor ∧ c.request.reason = c'.request.reason)

theorem same_iff {c c' : Submission} : c.Same c' ↔ c.request.keyFields = c'.request.keyFields ∧
    c.actor = c'.actor ∧ c.request.reason = c'.request.reason := by
  simp only [ActionRequest.keyFields, List.cons.injEq, Option.some.injEq, and_true]
  constructor
  · rintro ⟨htype, htenant, hactor, hstate, hreason⟩
    exact ⟨⟨htype, htenant, hstate, by rw [ActionRequest.rawReason, hreason]; rfl⟩, hactor,
      hreason⟩
  · rintro ⟨⟨htype, htenant, hstate, -⟩, hactor, hreason⟩
    exact ⟨htype, htenant, hactor, hstate, hreason⟩

/-- Whether a submission comes to the store: it passes its checks and its source is available. -/
def Passes (store : ActionStore) (c : Submission) : Prop :=
  c.persist = true ∧ ∃ item, c.request.checkFields = .ok item ∧
    (store.context c.registry).resolveActionSourceStatus item c.request.tenantId = .available

end Submission

/-- Whether a store has, under a key, a record with a fingerprint. -/
abbrev ActionStore.Recalls (store : ActionStore) (key print : String) : Prop :=
  Mpango.Recalls (· ∈ store) ActionRecord.key ActionRecord.fingerprint key print

/-- A submission that comes to the store is answered from it. -/
theorem submit_of_passes (env : Primitives) {store : ActionStore} {c : Submission} (h : c.Passes store) :
    ∃ item, submit env store c = match store.get c.request.rawKey with
      | some existing =>
        if existing.fingerprint = fingerprint env c.request.actionType c.request.tenantId
            c.request.requestedState c.request.rawReason then
          (store, existing.duplicate env c.request)
        else (store, c.request.respond env c.now true .conflict .available)
      | none =>
        (store ++ [c.request.recorded env c.now c.newId item],
          { c.request.respond env c.now true .accepted .available with
            actionId := some c.newId }) := by
  obtain ⟨hpersist, item, hcheck, hsource⟩ := h
  refine ⟨item, ?_⟩
  simp only [submit, evaluateRequest, hcheck, hsource, hpersist]
  rfl

/-- A submission either leaves the store or is recorded under a key that was free. -/
theorem submit_store (env : Primitives) (store : ActionStore) (c : Submission) : (submit env store c).1 = store ∨
    store.get c.request.rawKey = none ∧ ∃ item,
      (submit env store c).1 = store ++ [c.request.recorded env c.now c.newId item] := by
  unfold submit evaluateRequest
  split
  · exact .inl rfl
  · next item _ =>
    dsimp only
    split
    · exact .inl rfl
    · split
      · exact .inl rfl
      · split
        · split <;> exact .inl rfl
        · next hfree => exact .inr ⟨hfree, item, rfl⟩

theorem ActionStore.get_eq_none {store : ActionStore} {key : String} :
    store.get key = none ↔ ∀ r ∈ store, r.key ≠ key := by
  simp [ActionStore.get]

theorem recalls_submit {store : ActionStore} {key print : String}
    (h : store.Recalls key print) (c : Submission) : (submit env store c).1.Recalls key print := by
  rcases submit_store env store c with hstore | ⟨hfree, item, hstore⟩
  · rw [hstore]
    exact h
  · obtain ⟨r, hr, hkey⟩ := h.found
    have hne : c.request.rawKey ≠ key := by
      rintro rfl
      exact ActionStore.get_eq_none.mp hfree r hr hkey
    rw [hstore]
    exact h.add (r := c.request.recorded env c.now c.newId item) hne
      fun x => by rw [List.mem_append, List.mem_singleton]

/-- The store after a list of submissions. -/
def ActionStore.after (env : Primitives) (store : ActionStore) (cs : List Submission) :
    ActionStore :=
  cs.foldl (fun store c => (Actions.submit env store c).1) store

theorem recalls_after {store : ActionStore} {key print : String}
    (h : store.Recalls key print) (cs : List Submission) :
    (store.after env cs).Recalls key print := by
  induction cs generalizing store with
  | nil => exact h
  | cons c cs ih =>
    have hnext : (Actions.submit env store c).1.Recalls key print := recalls_submit h c
    exact ih hnext

/-- A submission that is accepted into the store is recalled. -/
theorem submit_recalls {store : ActionStore} {c : Submission} (h : c.Passes store)
    (hresult : (submit env store c).2.result = .accepted) :
    (submit env store c).1.Recalls c.request.rawKey
      (env.sha256 (barJoin (texts c.request.keyFields))) := by
  obtain ⟨item, heq⟩ := submit_of_passes env h
  rw [heq] at hresult ⊢
  cases hget : store.get c.request.rawKey with
  | some existing =>
    rw [hget] at hresult
    dsimp only at hresult
    split at hresult <;> exact absurd hresult nofun
  | none =>
    have hfree : ∀ r ∈ store, ActionRecord.key r ≠ c.request.rawKey :=
      ActionStore.get_eq_none.mp hget
    exact Recalls.added (r := c.request.recorded env c.now c.newId item) hfree rfl
      fun x => by rw [List.mem_append, List.mem_singleton]

/-- What is recalled answers a submission. -/
theorem result_of_recalls {store : ActionStore} {c : Submission} {print : String}
    (h : store.Recalls c.request.rawKey print) (hpasses : c.Passes store) :
    (submit env store c).2.result =
      if print = env.sha256 (barJoin (texts c.request.keyFields)) then .duplicate else .conflict := by
  obtain ⟨item, heq⟩ := submit_of_passes env hpasses
  obtain ⟨existing, hget, rfl⟩ := h.find?
  have hget' : store.get c.request.rawKey = some existing := hget
  rw [heq, hget']
  dsimp only
  rw [fingerprint_eq]
  split <;> rfl

/-- A submission under a key that an accepted submission has taken, with any others in between. -/
structure Repeated (env : Primitives) (store : ActionStore) (c : Submission)
    (between : List Submission) (c' : Submission) : Prop where
  passes : c.Passes store
  accepted : (submit env store c).2.result = .accepted
  key : c.request.rawKey = c'.request.rawKey
  passes' : c'.Passes (((submit env store c).1).after env between)

/-- The result of a submission that is repeated. -/
def repeatedResult (env : Primitives) (store : ActionStore) (c : Submission)
    (between : List Submission) (c' : Submission) : ActionResult :=
  (submit env ((submit env store c).1.after env between) c').2.result

theorem told_iff (hsha : Function.Injective env.sha256) {store : ActionStore} {c c' : Submission}
    {between : List Submission} (h : Repeated env store c between c') :
    ToldApart (repeatedResult env store c between c' = .duplicate)
      (repeatedResult env store c between c' = .conflict) (c.Same c') ↔ c.Separate c' := by
  have hrecalls : (((submit env store c).1).after env between).Recalls c'.request.rawKey
      (env.sha256 (barJoin (texts c.request.keyFields))) :=
    h.key ▸ recalls_after (submit_recalls h.passes h.accepted) between
  have hresult : repeatedResult env store c between c' =
      if env.sha256 (barJoin (texts c.request.keyFields)) =
        env.sha256 (barJoin (texts c'.request.keyFields)) then .duplicate else .conflict :=
    result_of_recalls hrecalls h.passes'
  have hne : ActionResult.duplicate ≠ ActionResult.conflict := nofun
  rw [hresult, toldApart_ite hsha hne]
  exact barJoin_imp_iff (List.cons_ne_nil _ _) (List.cons_ne_nil _ _) Submission.same_iff

end Actions

namespace ApprovalSystem

open Durable Execution

/-! ## The system in between -/

/-- Whether an operation draws an id no approval of the memory store and no execution request has. -/
def DrawsFresh (s : ApprovalSystem) (event : Event) : Prop :=
  match event.2 with
  | .openApproval .memory _ newId _ _ => ∀ a ∈ s.memory, a.approvalId ≠ newId.text
  | .requestExecution _ newId _ =>
    ∀ x ∈ s.execution.requests, x.executionRequestId ≠ newId.text
  | _ => True

/-- The system after a list of events. -/
def after (env : Primitives) (s : ApprovalSystem) (events : List Event) : ApprovalSystem :=
  events.foldl (step env) s

end ApprovalSystem

namespace Durable

/-! ## Durable approvals -/

/-- The fields of the create fingerprint, for an action the request resolves to. -/
def CreateRequest.keyFields (env : Primitives) (req : CreateRequest) (actionType : ActionType) :
    List (Option String) :=
  [some actionType.text, req.tenantId, boundActor env req.sender, some (stripped req.reason)]

/-- A request to open an approval: when it comes, what the actions module answers it, and the id it
would be given. -/
structure Opening where
  now : Instant
  ctx : ActionContext
  newId : Uuid
  newActionId : Uuid
  request : CreateRequest
  actionType : ActionType

namespace Opening

/-- The operation. -/
def event (o : Opening) : ApprovalSystem.Event :=
  (o.now, .openApproval .memory o.ctx o.newId o.newActionId o.request)

def keyFields (env : Primitives) (o : Opening) : List (Option String) :=
  o.request.keyFields env o.actionType

/-- Whether a request comes to the store: it passes its checks and its action is resolved. -/
def Passes (env : Primitives) (o : Opening) : Prop :=
  (∃ maker exp, checkCreate env o.now o.request = .ok (maker, exp)) ∧
    ∃ sourceStatus, o.ctx.resolve o.request.actionId o.request.actionType o.request.tenantId =
      some (o.actionType, sourceStatus)

/-- Whether two requests are for the same approval. -/
structure Same (o o' : Opening) : Prop where
  actionId : o.request.actionId = o'.request.actionId
  actionType : o.actionType = o'.actionType
  tenantId : o.request.tenantId = o'.request.tenantId
  actor : o.request.sender.actor = o'.request.sender.actor
  reason : o.request.reason = o'.request.reason

/-- Whether the fingerprints tell two requests apart. -/
def Separate (env : Primitives) (o o' : Opening) : Prop :=
  Separated '|' (o.keyFields env) (o'.keyFields env) ∧
    (o.keyFields env = o'.keyFields env →
      o.request.actionId = o'.request.actionId ∧
        o.request.sender.actor = o'.request.sender.actor ∧ o.request.reason = o'.request.reason)

theorem same_iff {o o' : Opening} : o.Same o' ↔ o.keyFields env = o'.keyFields env ∧
    o.request.actionId = o'.request.actionId ∧
      o.request.sender.actor = o'.request.sender.actor ∧
      o.request.reason = o'.request.reason := by
  simp only [keyFields, CreateRequest.keyFields, List.cons.injEq, Option.some.injEq, and_true]
  constructor
  · rintro ⟨hid, htype, htenant, hactor, hreason⟩
    refine ⟨⟨congrArg ActionType.text htype, htenant, ?_, congrArg stripped hreason⟩, hid, hactor,
      hreason⟩
    rw [boundActor, boundActor, Sender.identity, Sender.identity, hactor]
  · rintro ⟨⟨htype, htenant, -, -⟩, hid, hactor, hreason⟩
    exact ⟨hid, ActionType.text_injective htype, htenant, hactor, hreason⟩

/-- The maker is the bound actor. -/
theorem maker_eq {o : Opening} {maker : String} {exp : Instant}
    (h : checkCreate env o.now o.request = .ok (maker, exp)) :
    boundActor env o.request.sender = some maker := by
  have hbind := checkCreate_bound h
  simp only [bindActor, bind_eq_ok, refuseIf_eq_ok, orRefuse_eq_ok, exists_const,
    pure_eq_ok] at hbind
  obtain ⟨actor, hactor, -, rfl⟩ := hbind
  exact (Option.filter_eq_some_iff.mp hactor).1

end Opening

/-- Whether a store has, under a key, an approval with a create fingerprint. -/
abbrev MemoryStore.Recalls (store : MemoryStore) (key print : String) : Prop :=
  Mpango.Recalls (· ∈ store) StoredApproval.createKey StoredApproval.createFingerprint key print

theorem MemoryStore.find_eq_none {store : MemoryStore} {key : String} :
    store.rows.find? (fun x => x.createKey = key) = none ↔ ∀ x ∈ store, x.createKey ≠ key := by
  rw [List.find?_eq_none]
  constructor
  · intro h x hx heq
    exact h x hx (decide_eq_true heq)
  · intro h x hx htrue
    exact h x hx (of_decide_eq_true htrue)

/-- A request that comes to the store is answered from it. -/
theorem memoryCreate_of_passes (store : MemoryStore) {o : Opening} (h : o.Passes env) :
    ∃ approval : StoredApproval, approval.approvalId = o.newId.text ∧
      approval.createKey = env.digest (stripped o.request.idempotencyKey) ∧
      approval.createFingerprint = env.sha256 (barJoin (texts (o.keyFields env))) ∧
      memoryCreate env o.now o.ctx o.newId store o.request =
        match store.rows.find? fun x => x.createKey = approval.createKey with
        | some existing =>
          if existing.createFingerprint = approval.createFingerprint then
            (store, ⟨.duplicate, some existing⟩)
          else (store, ⟨Refusal.keyConflict.result, none⟩)
        | none => (store.put approval, ⟨.recorded, some approval⟩) := by
  obtain ⟨⟨maker, exp, hcheck⟩, sourceStatus, hresolve⟩ := h
  refine ⟨newStoredApproval env o.now o.newId o.request maker exp o.actionType sourceStatus, rfl,
    rfl, ?_, ?_⟩
  · rw [Opening.keyFields, CreateRequest.keyFields, Opening.maker_eq hcheck]
    rfl
  · simp only [memoryCreate, hcheck, hresolve]
    all_goals rfl

/-- A request either leaves the store, or a key is recorded that was free. -/
theorem memoryCreate_free (env : Primitives) (now : Instant) (ctx : ActionContext) (newId : Uuid)
    (store : MemoryStore) (req : CreateRequest) :
    (memoryCreate env now ctx newId store req).1 = store ∨
      ∃ x : StoredApproval, x.approvalId = newId.text ∧ (∀ y ∈ store, y.createKey ≠ x.createKey) ∧
        (memoryCreate env now ctx newId store req).1 = store.put x := by
  unfold memoryCreate
  split
  · exact .inl rfl
  · next maker exp _ =>
    split
    · exact .inl rfl
    · next actionType sourceStatus _ =>
      dsimp only
      split
      · split <;> exact .inl rfl
      · next hfree =>
        have hnone := MemoryStore.find_eq_none.mp hfree
        exact .inr ⟨newStoredApproval env now newId req maker exp actionType sourceStatus, rfl,
          hnone, rfl⟩

theorem mem_put_of_new {store : MemoryStore} {x y : StoredApproval}
    (h : ∀ a ∈ store, a.approvalId ≠ x.approvalId) : y ∈ store.put x ↔ y ∈ store ∨ y = x := by
  rw [Table.mem_put]
  exact or_congr_left ⟨And.left, fun hy => ⟨hy, h y hy⟩⟩

theorem recordDecision_keeps (env : Primitives) (a : StoredApproval) (now : Instant)
    (req : DecisionRequest) (checker : String) (decision : Decision) :
    (a.recordDecision env now req checker decision).1.approvalId = a.approvalId ∧
      (a.recordDecision env now req checker decision).1.createKey = a.createKey ∧
      (a.recordDecision env now req checker decision).1.createFingerprint =
        a.createFingerprint := by
  cases decision with
  | reject => exact ⟨rfl, rfl, rfl⟩
  | approve =>
    simp only [StoredApproval.recordDecision]
    split <;> exact ⟨rfl, rfl, rfl⟩

section Recall

variable {store : MemoryStore} {key print : String}

/-- Another request leaves what is recalled, if its id is new. -/
theorem recalls_memoryCreate (h : store.Recalls key print) (now : Instant) (ctx : ActionContext)
    {newId : Uuid} (hnew : ∀ a ∈ store, a.approvalId ≠ newId.text) (req : CreateRequest) :
    MemoryStore.Recalls (memoryCreate env now ctx newId store req).1 key print := by
  rcases memoryCreate_free env now ctx newId store req with hstore | ⟨x, hid, hfree, hstore⟩
  · rw [hstore]
    exact h
  · obtain ⟨r, hr, hkey⟩ := h.found
    have hne : x.createKey ≠ key := by
      rintro rfl
      exact hfree r hr hkey
    rw [hstore]
    exact h.add hne fun y => mem_put_of_new (by rw [hid]; exact hnew)

/-- A decision leaves what is recalled. -/
theorem recalls_memorySubmitDecision (h : store.Recalls key print) (now : Instant)
    (req : DecisionRequest) :
    MemoryStore.Recalls (memorySubmitDecision env now store req).1 key print := by
  rcases memorySubmitDecision_store env now store req with
    hstore | ⟨a, ha, -, checker, decision, -, -, hstore⟩
  · rw [hstore]
    exact h
  · obtain ⟨hid, hkey, hprint⟩ := recordDecision_keeps env a now req checker decision
    rw [hstore]
    refine h.rewrite ha hkey hprint ?_ ?_ ?_
    · intro x hx
      exact (Table.mem_put.mp hx).imp_left And.left
    · intro x hx
      by_cases hxa : x.approvalId = a.approvalId
      · exact .inr (Table.eq_of_key_eq hx ha hxa)
      · exact .inl (Table.mem_put.mpr (.inl ⟨hx, fun heq => hxa (heq.trans hid)⟩))
    · exact Table.mem_put.mpr (.inr rfl)

/-- What is recalled answers a request. -/
theorem result_of_recalls {o : Opening} (hpasses : o.Passes env)
    (h : store.Recalls (env.digest (stripped o.request.idempotencyKey)) print) :
    (memoryCreate env o.now o.ctx o.newId store o.request).2.result =
      if print = env.sha256 (barJoin (texts (o.keyFields env))) then .duplicate else .conflict := by
  obtain ⟨approval, -, hkey, hprint, heq⟩ := memoryCreate_of_passes store hpasses
  obtain ⟨existing, hfind, rfl⟩ := h.find?
  rw [heq, hkey, hfind, hprint]
  dsimp only
  split <;> rfl

end Recall

end Durable

namespace ApprovalSystem

open Durable Execution

variable {s : ApprovalSystem}

/-- An event leaves what the memory store recalls. -/
theorem recalls_step {key print : String} (h : MemoryStore.Recalls s.memory key print)
    {event : Event} (hfresh : s.DrawsFresh event) :
    MemoryStore.Recalls (s.step env event).memory key print := by
  obtain ⟨now, op⟩ := event
  cases op with
  | openApproval mode ctx newId newActionId req =>
    cases mode with
    | memory => exact recalls_memoryCreate h now ctx hfresh req
    | durable => exact h
  | decideApproval mode req =>
    cases mode with
    | memory => exact recalls_memorySubmitDecision h now req
    | durable => exact h
  | dryRun resolver newId req =>
    have hmemory := (s.resolveApproval_frame env resolver req.durableApprovalId).2.1
    exact hmemory ▸ h
  | requestExecution resolver newId req =>
    have hmemory := (s.resolveApproval_frame env resolver req.durableApprovalId).2.1
    exact hmemory ▸ h
  | completeBackupCheck resolver req read =>
    have hmemory := (s.resolveApproval_frame env resolver req.durableApprovalId).2.1
    exact hmemory ▸ h
  | openWorkflow ctx newId req => exact h
  | decideWorkflow req => exact h
  | cancelWorkflow approvalId => exact h
  | sweepWorkflow => exact h

/-- A run leaves what the memory store recalls. -/
theorem recalls_after {key print : String} (h : MemoryStore.Recalls s.memory key print)
    {events : List Event} (hfresh : Along (step env) DrawsFresh s events) :
    MemoryStore.Recalls (s.after env events).memory key print :=
  Along.foldl_induction (I := fun s => MemoryStore.Recalls s.memory key print)
    (fun _ _ hrecalls hnew => recalls_step hrecalls hnew) h hfresh

end ApprovalSystem

namespace Durable

variable {s : ApprovalSystem}

/-- A request that is recorded is recalled. -/
theorem recalls_opened {o : Opening} (hpasses : o.Passes env) (hfresh : s.DrawsFresh o.event)
    (hrecorded : (memoryCreate env o.now o.ctx o.newId s.memory o.request).2.result = .recorded) :
    MemoryStore.Recalls (s.step env o.event).memory
      (env.digest (stripped o.request.idempotencyKey))
      (env.sha256 (barJoin (texts (o.keyFields env)))) := by
  obtain ⟨approval, hid, hkey, hprint, heq⟩ :=
    memoryCreate_of_passes s.memory hpasses
  have hstep : (s.step env o.event).memory =
      (memoryCreate env o.now o.ctx o.newId s.memory o.request).1 := rfl
  rw [hstep, heq]
  rw [heq] at hrecorded
  cases hfind : s.memory.rows.find? fun x => x.createKey = approval.createKey with
  | some existing =>
    rw [hfind] at hrecorded
    dsimp only at hrecorded
    split at hrecorded <;> exact absurd hrecorded nofun
  | none =>
    have hfree := MemoryStore.find_eq_none.mp hfind
    rw [← hprint, ← hkey]
    exact Recalls.added hfree rfl fun y => mem_put_of_new (by rw [hid]; exact hfresh)

/-- A request under a key that a recorded request has taken, with any events in between. -/
structure Reopened (env : Primitives) (s : ApprovalSystem) (o : Opening)
    (between : List ApprovalSystem.Event) (o' : Opening) : Prop where
  passes : o.Passes env
  recorded : (memoryCreate env o.now o.ctx o.newId s.memory o.request).2.result = .recorded
  fresh : Along (ApprovalSystem.step env) ApprovalSystem.DrawsFresh s (o.event :: between)
  key : stripped o.request.idempotencyKey = stripped o'.request.idempotencyKey
  passes' : o'.Passes env

/-- The result of a request that is repeated. -/
def reopenedResult (env : Primitives) (s : ApprovalSystem) (o : Opening)
    (between : List ApprovalSystem.Event) (o' : Opening) : ApprovalResult :=
  (memoryCreate env o'.now o'.ctx o'.newId (s.after env (o.event :: between)).memory
    o'.request).2.result

theorem told_iff (hsha : Function.Injective env.sha256) {o o' : Opening}
    {between : List ApprovalSystem.Event} (h : Reopened env s o between o') :
    ToldApart (reopenedResult env s o between o' = .duplicate)
      (reopenedResult env s o between o' = .conflict) (o.Same o') ↔ o.Separate env o' := by
  obtain ⟨hfirst, hfresh⟩ := h.fresh
  have hrecalls : MemoryStore.Recalls (s.after env (o.event :: between)).memory
      (env.digest (stripped o'.request.idempotencyKey))
      (env.sha256 (barJoin (texts (o.keyFields env)))) :=
    h.key ▸ ApprovalSystem.recalls_after (recalls_opened h.passes hfirst h.recorded) hfresh
  have hresult : reopenedResult env s o between o' =
      if env.sha256 (barJoin (texts (o.keyFields env))) =
        env.sha256 (barJoin (texts (o'.keyFields env))) then .duplicate else .conflict :=
    result_of_recalls h.passes' hrecalls
  have hne : ApprovalResult.duplicate ≠ ApprovalResult.conflict := nofun
  rw [hresult, toldApart_ite hsha hne]
  exact barJoin_imp_iff (List.cons_ne_nil _ _) (List.cons_ne_nil _ _) Opening.same_iff

end Durable

namespace Execution

/-! ## Execution requests -/

/-- The fields of the payload digest. -/
def ExecutionRequest.keyFields (req : ExecutionRequest) : List (Option String) :=
  [req.durableApprovalId, req.actionType, req.tenantId, req.requestedState, req.sender.actor]

theorem payload_eq (req : ExecutionRequest) :
    req.payload env = env.sha256 (barJoin (texts req.keyFields)) := rfl

/-- Whether two requests are for the same execution. -/
structure ExecutionRequest.Same (req req' : ExecutionRequest) : Prop where
  durableApprovalId : req.durableApprovalId = req'.durableApprovalId
  actionType : req.actionType = req'.actionType
  tenantId : req.tenantId = req'.tenantId
  requestedState : req.requestedState = req'.requestedState
  executor : req.sender.actor = req'.sender.actor

theorem ExecutionRequest.same_iff {req req' : ExecutionRequest} :
    req.Same req' ↔ req.keyFields = req'.keyFields := by
  simp only [keyFields, List.cons.injEq, and_true]
  constructor
  · rintro ⟨happroval, htype, htenant, hstate, hactor⟩
    exact ⟨happroval, htype, htenant, hstate, hactor⟩
  · rintro ⟨happroval, htype, htenant, hstate, hactor⟩
    exact ⟨happroval, htype, htenant, hstate, hactor⟩

/-- Whether an answer repeats the recorded request. -/
def RequestResponse.IsReplay : RequestResponse → Prop
  | replayed _ => True
  | _ => False

/-- Whether an answer refuses the key. -/
def RequestResponse.IsConflict : RequestResponse → Prop
  | blocked reasons => .idempotencyConflict ∈ reasons
  | _ => False

/-- Whether a store has, under a key digest, a request with a payload digest. -/
abbrev ExecutionStore.Recalls (store : ExecutionStore) (key print : String) : Prop :=
  Mpango.Recalls (· ∈ store.requests) StoredExecutionRequest.idempotencyKeyDigest
    StoredExecutionRequest.payloadDigest key print

section Recall

variable {store : ExecutionStore} {key print : String}

theorem findByKey_eq_none : store.findByKey key = none ↔
    ∀ x ∈ store.requests, x.idempotencyKeyDigest ≠ key := by
  simp only [ExecutionStore.findByKey, List.find?_eq_none, decide_eq_true_eq]
  rfl

theorem mem_put_of_new {x y : StoredExecutionRequest}
    (h : ∀ a ∈ store.requests, a.executionRequestId ≠ x.executionRequestId) :
    y ∈ store.requests.put x ↔ y ∈ store.requests ∨ y = x := by
  rw [Table.mem_put]
  exact or_congr_left ⟨And.left, fun hy => ⟨hy, h y hy⟩⟩

/-- A request that is blocked by nothing has a key. -/
theorem key_of_preconditions {now : Instant} {approval? : Option ApprovalSnapshot}
    {req : ExecutionRequest} (h : req.preconditions now approval? store = []) :
    stripped req.idempotencyKey ≠ "" := by
  simp only [ExecutionRequest.preconditions, List.append_eq_nil_iff, blockIf_eq_nil] at h
  exact h.1.1.1.1.1.1.2

theorem existing_of_key {req : ExecutionRequest} (h : stripped req.idempotencyKey ≠ "") :
    req.existing env store = store.findByKey (env.digest (stripped req.idempotencyKey)) :=
  if_neg h

theorem replayed_ne_recorded {x y : StoredExecutionRequest} :
    RequestResponse.replayed x ≠ .recorded y := nofun

theorem blocked_ne_recorded {reasons : List BlockReason} {y : StoredExecutionRequest} :
    RequestResponse.blocked reasons ≠ .recorded y := nofun

/-- A request either leaves the recorded ones, or is recorded under a key that was free. -/
theorem recordExecutionRequest_requests (env : Primitives) (now : Instant) (newId : Uuid)
    (approval? : Option ApprovalSnapshot) (store : ExecutionStore) (req : ExecutionRequest) :
    (recordExecutionRequest env now newId approval? store req).1 = store ∧
        (∀ x, (recordExecutionRequest env now newId approval? store req).2 ≠ .recorded x) ∨
      stripped req.idempotencyKey ≠ "" ∧
        store.findByKey (env.digest (stripped req.idempotencyKey)) = none ∧
        (recordExecutionRequest env now newId approval? store req).1.requests =
          store.requests.put (req.recorded env now newId) := by
  unfold recordExecutionRequest
  dsimp only
  split
  · split
    · exact .inl ⟨rfl, fun _ => replayed_ne_recorded⟩
    · exact .inl ⟨rfl, fun _ => blocked_ne_recorded⟩
  · next hfree =>
    split
    · next hreasons =>
      have hkey := key_of_preconditions hreasons
      rw [existing_of_key hkey] at hfree
      exact .inr ⟨hkey, hfree, rfl⟩
    · exact .inl ⟨rfl, fun _ => blocked_ne_recorded⟩

/-- A dry-run leaves the recorded requests. -/
theorem evaluateDryRun_requests (now : Instant) (newId : Uuid) (approval? : Option ApprovalSnapshot)
    (store : ExecutionStore) (req : DryRunRequest) :
    (evaluateDryRun now newId approval? store req).1.requests = store.requests := by
  unfold evaluateDryRun
  dsimp only
  split <;> rfl

/-- Another request leaves what is recalled, if its id is new. -/
theorem recalls_recordExecutionRequest (h : store.Recalls key print) (now : Instant)
    (approval? : Option ApprovalSnapshot) {newId : Uuid}
    (hnew : ∀ x ∈ store.requests, x.executionRequestId ≠ newId.text) (req : ExecutionRequest) :
    (recordExecutionRequest env now newId approval? store req).1.Recalls key print := by
  rcases recordExecutionRequest_requests env now newId approval? store req with
    ⟨hstore, -⟩ | ⟨-, hfree, hstore⟩
  · rw [hstore]
    exact h
  · obtain ⟨r, hr, hkey⟩ := h.found
    have hne : (req.recorded env now newId).idempotencyKeyDigest ≠ key := by
      intro heq
      exact findByKey_eq_none.mp hfree r hr (hkey.trans heq.symm)
    rw [ExecutionStore.Recalls, hstore]
    exact h.add hne fun y => mem_put_of_new hnew

/-- What is recalled answers a request. -/
theorem answer_of_recalls {now : Instant} {newId : Uuid} {approval? : Option ApprovalSnapshot}
    {req : ExecutionRequest} (hkey : stripped req.idempotencyKey ≠ "")
    (h : store.Recalls (env.digest (stripped req.idempotencyKey)) print) :
    ((recordExecutionRequest env now newId approval? store req).2.IsReplay ↔
        print = req.payload env) ∧
      ((recordExecutionRequest env now newId approval? store req).2.IsConflict ↔
        print ≠ req.payload env) := by
  obtain ⟨existing, hfind, rfl⟩ := h.find?
  have hexisting : req.existing env store = some existing := (existing_of_key hkey).trans hfind
  simp only [recordExecutionRequest, hexisting]
  split
  · next hpayload => exact ⟨iff_of_true trivial hpayload, iff_of_false id (not_not_intro hpayload)⟩
  · next hpayload =>
    have hmem : BlockReason.idempotencyConflict ∈
        req.preconditions now approval? store ++ [.idempotencyConflict] :=
      List.mem_append_right _ List.mem_cons_self
    exact ⟨iff_of_false id hpayload, iff_of_true hmem hpayload⟩

end Recall

/-- An execution request: when it comes, how its approval is resolved, and the id it would be
given. -/
structure Asking where
  now : Instant
  resolver : ApprovalSystem.Resolver
  newId : Uuid
  request : ExecutionRequest

namespace Asking

/-- The operation. -/
def event (a : Asking) : ApprovalSystem.Event :=
  (a.now, .requestExecution a.resolver a.newId a.request)

/-- The answer the system gives. -/
def answer (env : Primitives) (s : ApprovalSystem) (a : Asking) : RequestResponse :=
  (recordExecutionRequest env a.now a.newId
    (s.resolveApproval env a.resolver a.request.durableApprovalId).2 s.execution a.request).2

end Asking

end Execution

namespace ApprovalSystem

open Durable Execution

variable {s : ApprovalSystem}

/-- Resolving an approval leaves the execution store. -/
theorem resolveApproval_execution (env : Primitives) (s : ApprovalSystem) (resolver : Resolver)
    (approvalId : Option String) :
    (s.resolveApproval env resolver approvalId).1.execution = s.execution := by
  unfold resolveApproval
  split
  · rfl
  · split
    · rfl
    · split <;> rfl

/-- An event leaves what the execution store recalls. -/
theorem recalls_execution_step {key print : String} (h : s.execution.Recalls key print)
    {event : Event} (hfresh : s.DrawsFresh event) :
    (s.step env event).execution.Recalls key print := by
  obtain ⟨now, op⟩ := event
  cases op with
  | dryRun resolver newId req =>
    have hrequests : (s.step env (now, .dryRun resolver newId req)).execution.requests =
        s.execution.requests := evaluateDryRun_requests now newId _ s.execution req
    rw [ExecutionStore.Recalls, hrequests]
    exact h
  | requestExecution resolver newId req => exact recalls_recordExecutionRequest h now _ hfresh req
  | completeBackupCheck resolver req read =>
    exact resolveApproval_execution env s resolver req.durableApprovalId ▸ h
  | openApproval mode ctx newId newActionId req => cases mode <;> exact h
  | decideApproval mode req => cases mode <;> exact h
  | openWorkflow ctx newId req => exact h
  | decideWorkflow req => exact h
  | cancelWorkflow approvalId => exact h
  | sweepWorkflow => exact h

/-- A run leaves what the execution store recalls. -/
theorem recalls_execution_after {key print : String} (h : s.execution.Recalls key print)
    {events : List Event} (hfresh : Along (step env) DrawsFresh s events) :
    (s.after env events).execution.Recalls key print :=
  Along.foldl_induction (I := fun s => s.execution.Recalls key print)
    (fun _ _ hrecalls hnew => recalls_execution_step hrecalls hnew) h hfresh

end ApprovalSystem

namespace Execution

variable {s : ApprovalSystem}

/-- A request that is recorded is recalled. -/
theorem recalls_asked {a : Asking} (hfresh : s.DrawsFresh a.event) {x : StoredExecutionRequest}
    (hrecorded : a.answer env s = .recorded x) : stripped a.request.idempotencyKey ≠ "" ∧
      (s.step env a.event).execution.Recalls
        (env.digest (stripped a.request.idempotencyKey)) (a.request.payload env) := by
  rcases recordExecutionRequest_requests env a.now a.newId
    (s.resolveApproval env a.resolver a.request.durableApprovalId).2 s.execution a.request with
    ⟨-, hno⟩ | ⟨hkey, hfree, hstore⟩
  · exact absurd hrecorded (hno x)
  · refine ⟨hkey, ?_⟩
    have hstep : (s.step env a.event).execution.requests =
        s.execution.requests.put (a.request.recorded env a.now a.newId) := hstore
    rw [ExecutionStore.Recalls, hstep]
    have hnone := findByKey_eq_none.mp hfree
    have hmem : ∀ y, y ∈ s.execution.requests.put (a.request.recorded env a.now a.newId) ↔
        y ∈ s.execution.requests ∨ y = a.request.recorded env a.now a.newId :=
      fun y => mem_put_of_new hfresh
    exact Recalls.added hnone rfl hmem

/-- A request under a key that a recorded request has taken, with any events in between. -/
structure Reasked (env : Primitives) (s : ApprovalSystem) (a : Asking)
    (between : List ApprovalSystem.Event) (a' : Asking) : Prop where
  recorded : ∃ x, a.answer env s = .recorded x
  fresh : Along (ApprovalSystem.step env) ApprovalSystem.DrawsFresh s (a.event :: between)
  key : stripped a.request.idempotencyKey = stripped a'.request.idempotencyKey

/-- The answer to a request that is repeated. -/
def reaskedAnswer (env : Primitives) (s : ApprovalSystem) (a : Asking)
    (between : List ApprovalSystem.Event) (a' : Asking) : RequestResponse :=
  a'.answer env (s.after env (a.event :: between))

theorem told_iff (hsha : Function.Injective env.sha256) {a a' : Asking}
    {between : List ApprovalSystem.Event} (h : Reasked env s a between a') :
    ToldApart (reaskedAnswer env s a between a').IsReplay
      (reaskedAnswer env s a between a').IsConflict (a.request.Same a'.request) ↔
      Separated '|' a.request.keyFields a'.request.keyFields := by
  obtain ⟨hfirst, hfresh⟩ := h.fresh
  obtain ⟨x, hrecorded⟩ := h.recorded
  obtain ⟨hkey, hasked⟩ := recalls_asked hfirst hrecorded
  have hrecalls := ApprovalSystem.recalls_execution_after hasked hfresh
  rw [h.key] at hkey hrecalls
  have hagree : a.request.payload env = a'.request.payload env ↔
      barJoin (texts a.request.keyFields) = barJoin (texts a'.request.keyFields) := by
    rw [payload_eq, payload_eq, hsha.eq_iff]
  obtain ⟨hreplay, hconflict⟩ : ((reaskedAnswer env s a between a').IsReplay ↔ _) ∧
    ((reaskedAnswer env s a between a').IsConflict ↔ _) := answer_of_recalls hkey hrecalls
  rw [toldApart_iff hreplay hconflict, hagree, ExecutionRequest.same_iff]
  exact (barSeparated_iff (List.cons_ne_nil _ _) (List.cons_ne_nil _ _)).symm

end Execution

/-! ## The digests -/

/-- Two events share a dedup digest only if they have the tenant, the object and the correlation in
common, and two requests under one key are taken for one only if they are, exactly when the joined
fields of the two do not hide a difference. -/
structure TellApart (env : Primitives) : Prop where
  tasks : ∀ e e' : Operator.IntakeEvent,
    (e.dedupKeyDigest env = e'.dedupKeyDigest env → e.SameSubject e') ↔
      (barPieces e.keyParts = barPieces e'.keyParts → e.SameShape e')
  closeouts : ∀ e e' : Incident.CloseoutIntakeEvent,
    (Incident.closeoutDedupDigest env e.correlationId e.tenantId e.linkedIncidentId =
        Incident.closeoutDedupDigest env e'.correlationId e'.tenantId e'.linkedIncidentId →
      e.SameIncident e') ↔ Separated '|' e.keyFields e'.keyFields
  steps : ∀ o o' : Incident.OwedStep,
    (o.digest env = o'.digest env → o.SameSubject o') ↔
      (barPieces o.keyParts = barPieces o'.keyParts → o.SameShape o')
  actionRequests : ∀ store c between c', Actions.Repeated env store c between c' →
    (ToldApart (Actions.repeatedResult env store c between c' = .duplicate)
      (Actions.repeatedResult env store c between c' = .conflict) (c.Same c') ↔ c.Separate c')
  approvals : ∀ s o between o', Durable.Reopened env s o between o' →
    (ToldApart (Durable.reopenedResult env s o between o' = .duplicate)
      (Durable.reopenedResult env s o between o' = .conflict) (o.Same o') ↔ o.Separate env o')
  executions : ∀ s a between a', Execution.Reasked env s a between a' →
    (ToldApart (Execution.reaskedAnswer env s a between a').IsReplay
      (Execution.reaskedAnswer env s a between a').IsConflict (a.request.Same a'.request) ↔
      Separated '|' a.request.keyFields a'.request.keyFields)

/-- With a hash that has no collisions the digests tell apart what the joined fields do. -/
theorem digests_tell_apart (hsha : Function.Injective env.sha256) : TellApart env where
  tasks _ _ := Operator.IntakeEvent.dedup_iff hsha
  closeouts _ _ := Incident.CloseoutIntakeEvent.detected_iff hsha
  steps _ _ := Incident.OwedStep.dedup_iff hsha
  actionRequests _ _ _ _ h := Actions.told_iff hsha h
  approvals _ _ _ _ h := Durable.told_iff hsha h
  executions _ _ _ _ h := Execution.told_iff hsha h

theorem digests_tell_apart_plain : TellApart plainPrimitives :=
  digests_tell_apart Function.injective_id

/-- A follow-up of a source, with a bar in the name of the source or of the tenant. -/
def barredFollowup (tenantId sourceRef : String) : Operator.IntakeEvent where
  taskType := .incidentFollowupRequired
  severity := none
  tenantId := some tenantId
  actorScope := .platform
  ownerRole := none
  correlationId := "inc-7"
  linkedActionId := none
  linkedApprovalId := none
  linkedExecutionId := none
  linkedDryRunRef := none
  linkedSourceRef := some sourceRef
  linkedIncidentId := none
  summary := "follow up"
  reason := none
  sourceStatus := none
  linkedGateOpen := false
  followupVariant := none
  ttlExpiresAt := none
  channel := none

/-- A request to move a tenant to a state, for a reason. -/
def barredRequest (requestedState reason : String) : Actions.Submission where
  now := 0
  newId := 1
  registry := fun _ => some ⟨.available, .available, none, none⟩
  actor := some "root"
  persist := true
  request :=
    { actionType := "lifecycle.transition"
      tenantId := some "t"
      reason := some reason
      idempotencyKey := some "k"
      requestedState := some requestedState
      confirm := true
      correlationId := none }

/-- A bar that moves from one field to the next: two tenants have one dedup digest, and a request
for another state is taken for the recorded one. -/
theorem digests_tell_apart_broken_movedBar :
    Function.Injective plainPrimitives.sha256 ∧
    (barredFollowup "b" "s|a").dedupKeyDigest plainPrimitives =
      (barredFollowup "a|b" "s").dedupKeyDigest plainPrimitives ∧
    ¬(barredFollowup "b" "s|a").SameSubject (barredFollowup "a|b" "s") ∧
    Actions.repeatedResult plainPrimitives [] (barredRequest "paused|now" "audit") []
      (barredRequest "paused" "now|audit") = .duplicate ∧
    ¬(barredRequest "paused|now" "audit").Same (barredRequest "paused" "now|audit") := by
  refine ⟨Function.injective_id, by decide, ?_, ?_, ?_⟩
  · intro h
    exact absurd h.tenantId (by decide)
  · decide
  · intro h
    exact absurd h.requestedState (by decide)

end Mpango
