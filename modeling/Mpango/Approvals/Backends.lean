import Mpango.Spec.Approvals
import Mpango.Approvals.Expiry

/-!
# The two storage backends

The same requests, one at a time, to the memory backend and to the durable one. The adapter claims to
mirror the memory backend exactly. `Mirrors` is the relation of the two stores that this would keep
them in, and `backends_agree_iff` says which requests keep it: along a run the two give the same
results and hold the same approvals exactly when every request is `Mirrorable`.

The requests that are not: a create whose fields and whose action are both in disorder (the two check
them in a different order); a tenant or an action that is no identifier; a text or a role that no
column takes; a create key used again with a reason that differs from the first one in what
redaction hides; a second active approval of the same target; an approval named in another spelling
of its identifier; a decision key that a different checker used on the same approval. `twoTargets`
is a run with one of them.

Both backends take the identifiers they generate from the run.
-/

namespace Mpango

namespace Durable

/-! ## Side by side -/

/-- A request to either backend, with the identifiers it generates. -/
inductive Request
  | create (ctx : ActionContext) (newId newActionId : Uuid) (req : CreateRequest)
  | decide (req : DecisionRequest)

/-- The two stores. -/
structure Backends where
  memory : MemoryStore
  durable : ApprovalDb

/-- The result string of an answer; a store that is not ready gives none. -/
def DurableResponse.result? : DurableResponse → Option ApprovalResult
  | answer result _ => some result
  | notReady => none

namespace Backends

def empty : Backends := ⟨Table.empty, .empty⟩

variable (env : Primitives)

def inMemory (s : Backends) (now : Instant) : Request → MemoryStore × MemoryResponse
  | .create ctx newId _ req => memoryCreate env now ctx newId s.memory req
  | .decide req => memorySubmitDecision env now s.memory req

def inDurable (s : Backends) (now : Instant) : Request → ApprovalDb × DurableResponse
  | .create ctx newId newActionId req => durableCreate env now ctx newId newActionId s.durable req
  | .decide req => durableSubmitDecision env now s.durable req

def step (s : Backends) (event : Instant × Request) : Backends :=
  ⟨(s.inMemory env event.1 event.2).1, (s.inDurable env event.1 event.2).1⟩

end Backends

/-! ## The same approvals -/

/-- A decision of the durable store, as the memory store keeps it. -/
def DurableApprovalDecision.toChecker (d : DurableApprovalDecision) : CheckerDecision where
  checkerId := d.checkerActorId
  decidedAt := d.createdAt
  decision := d.decision
  reasonRedacted := d.reasonRedacted
  decisionDigest := d.idempotencyKeyDigest

/-- An approval of the memory store and one of the durable store are the same: its state, its
checkers, its quorum, and what decides about it. -/
structure Alike (db : ApprovalDb) (a : StoredApproval) (r : DurableApprovalRequest) : Prop where
  id : a.approvalId = r.approvalId.text
  standing : a.standing = r.standing
  checkers : a.checkers = (db.decisionsOf r.approvalId).map (·.toChecker)
  quorumRequired : a.quorumRequired = r.quorumRequired
  quorumMet : a.quorumMet = r.quorumMet

/-- The two stores hold the same approvals. -/
def SameApprovals (store : MemoryStore) (db : ApprovalDb) : Prop :=
  (∀ a ∈ store, ∃ r ∈ db.requests, Alike db a r) ∧ ∀ r ∈ db.requests, ∃ a ∈ store, Alike db a r

/-- The two backends give the same result to a request and hold the same approvals after it. -/
def Backends.Agree (env : Primitives) (s : Backends) (event : Instant × Request) : Prop :=
  (s.inDurable env event.1 event.2).2.result? = some (s.inMemory env event.1 event.2).2.result ∧
    SameApprovals (s.step env event).memory (s.step env event).durable

/-! ## The requests that both backends take alike -/

section Conditions
variable (env : Primitives)

/-- The columns of an audit event take the sender. -/
def Sender.Recordable (sender : Sender) : Prop :=
  sender.actorRole ≠ .unknown ∧ fits 255 (orEmpty sender.actor) = true

/-- They take the texts of a request. -/
def Recordable (sender : Sender) (reason correlationId : Option String) : Prop :=
  sender.Recordable ∧ (env.redactReason (stripped reason)).toList.all (· ≠ '\x00') = true ∧
    (env.sanitizeText correlationId).all (fits 255) = true

/-- No active approval has the digest of a new request, nor its action and maker. -/
def Unclaimed (db : ApprovalDb) (requestDigest : String) (actionId : Uuid) (maker : String) : Prop :=
  ∀ r ∈ db.requests, r.state.isActive = true →
    r.requestDigest ≠ requestDigest ∧ ¬(r.actionId = actionId ∧ r.makerActorId = maker)

/-- A create whose fields are in order: a used key comes with the same request by either fingerprint,
and a new one is for a new target. -/
def CreateMirrorable (s : Backends) (newId actionId : Uuid) (req : CreateRequest) (maker : String)
    (actionType : ActionType) : Prop :=
  match s.durable.findOpenKey (env.digest (stripped req.idempotencyKey)) with
  | some key =>
    (∀ a ∈ s.memory, a.createKey = key.idempotencyKeyDigest →
      (a.createFingerprint =
          createFingerprint env actionType.text req.tenantId maker (stripped req.reason) ↔
        key.payloadDigest = payloadDigest env req maker actionType)) ∧
    if key.payloadDigest = payloadDigest env req maker actionType then req.sender.Recordable
    else Recordable env req.sender req.reason req.correlationId
  | none => Recordable env req.sender req.reason req.correlationId ∧
    (∀ r ∈ s.durable.requests, r.approvalId ≠ newId) ∧
    Unclaimed s.durable (env.requestDigest req.actionId actionType.text req.tenantId maker)
      actionId maker

/-- A decision on an approval: its audit event is recordable where it writes one, and its key is new
on the approval where it is recorded. -/
def DecisionMirrorable (s : Backends) (row : DurableApprovalRequest) (req : DecisionRequest) :
    Prop :=
  match checkDecision env req with
  | .error _ => Recordable env req.sender req.reason req.correlationId
  | .ok (checker, decision) =>
    match row.standing.judge (ownDecision (s.durable.decisionsOf row.approvalId) checker) checker
      decision with
    | .refused _ => Recordable env req.sender req.reason req.correlationId
    | .duplicate =>
      row.state = .rejected → Recordable env req.sender req.reason req.correlationId
    | .record => Recordable env req.sender req.reason req.correlationId ∧
      ∀ d ∈ s.durable.decisionsOf row.approvalId,
        d.idempotencyKeyDigest ≠ env.digest (stripped req.idempotencyKey)

/-- The requests both backends take alike. -/
def Backends.Mirrorable (s : Backends) : Instant × Request → Prop
  | (now, .create ctx newId newActionId req) =>
    match ctx.resolve req.actionId req.actionType req.tenantId with
    | none => ∃ fields, checkCreate env now req = .ok fields
    | some (actionType, _) =>
      match toUuid? req.tenantId, toUuid? req.actionId with
      | some _, some actionId =>
        match checkCreate env now req with
        | .error _ => Recordable env req.sender req.reason req.correlationId
        | .ok (maker, _) =>
          CreateMirrorable env s newId (actionId.getD newActionId) req maker actionType
      | _, _ => False
  | (_, .decide req) =>
    match Uuid.parse req.approvalId with
    | none => True
    | some id =>
      match s.durable.requests.find? id with
      | none => Recordable env req.sender req.reason req.correlationId
      | some row => req.approvalId = id.text ∧ DecisionMirrorable env s row req

end Conditions

/-! ## The relation of the two stores -/

/-- What the backends keep: the same approvals; the create keys of the memory store are the keys of
scope `open`; and what makes the durable store take the next request. -/
structure Mirrors (env : Primitives) (store : MemoryStore) (db : ApprovalDb) : Prop where
  image : ∀ a ∈ store, ∃ r ∈ db.requests, Alike db a r
  preimage : ∀ r ∈ db.requests, ∃ a ∈ store, Alike db a r
  keyed : ∀ a ∈ store, ∃ k ∈ db.idempotencyKeys, k.scopeKey = .open ∧ k.scopeId = "open" ∧
    k.idempotencyKeyDigest = a.createKey ∧ k.resultRef.text = a.approvalId
  opened : ∀ k ∈ db.idempotencyKeys, k.scopeKey = .open → k.scopeId = "open" ∧
    ∃ a ∈ store, a.createKey = k.idempotencyKeyDigest ∧ a.approvalId = k.resultRef.text
  keyDistinct : ∀ a ∈ store, ∀ a' ∈ store, a.createKey = a'.createKey → a = a'
  decides : ∀ k ∈ db.idempotencyKeys, k.scopeKey = .decide → ∃ d ∈ db.decisions,
    k.scopeId = d.approvalId.text ∧ k.idempotencyKeyDigest = d.idempotencyKeyDigest
  referenced : db.Referenced
  apart : ∀ r ∈ db.requests, ∀ r' ∈ db.requests, r.clashes r' = false
  storable : ∀ r ∈ db.requests,
    (env.redactReason r.reasonRedacted).toList.all (· ≠ '\x00') = true ∧
      r.correlationId.all (fits 255) = true
  unmet : ∀ r ∈ db.requests, r.state = .pendingReview → r.quorumMet = false

section Columns
variable {env : Primitives} {sender : Sender} {reason correlationId claimed : Option String}
  {actor : String} {approvalId : Option Uuid} {eventType : EventType}

theorem draftAudit_isStorable {text : String} :
    (draftAudit env sender approvalId eventType text correlationId).isStorable = true ↔
      sender.Recordable ∧ (env.redactReason text).toList.all (· ≠ '\x00') = true ∧
        correlationId.all (fits 255) = true := by
  simp only [AuditDraft.isStorable, AuditDraft.numbered, Write.isStorable, draftAudit,
    Bool.and_eq_true, decide_eq_true_eq, Sender.Recordable]
  tauto

/-- The audit event of a request that shows the request's own texts. -/
theorem draftAudit_recordable :
    (draftAudit env sender approvalId eventType (env.redactReason (stripped reason))
      (env.sanitizeText correlationId)).isStorable = true ↔
      Recordable env sender reason correlationId := by
  rw [draftAudit_isStorable, env.redactReason_idem]
  rfl

theorem fits_redactReason {text : String} (h : fits 255 text = true) :
    fits 255 (env.redactReason text) = true := by
  unfold Primitives.redactReason
  split
  · decide
  · exact h

/-- The bound actor fits where the actor does. -/
theorem bindActor_fits (h : bindActor env sender claimed = .ok actor) (hs : sender.Recordable) :
    fits 255 actor = true := by
  simp only [bindActor, bind_eq_ok, orRefuse_eq_ok, refuseIf_eq_ok, exists_const, pure_eq_ok] at h
  obtain ⟨a, ha, -, rfl⟩ := h
  obtain ⟨hbound, -⟩ := Option.filter_eq_some_iff.mp ha
  obtain ⟨text, htext, rfl⟩ := Option.map_eq_some_iff.mp hbound
  obtain ⟨hactor, -⟩ := Option.filter_eq_some_iff.mp htext
  have hfits := hs.2
  rw [hactor] at hfits
  exact fits_redactReason hfits

theorem checkCreate_bound {now : Instant} {req : CreateRequest} {fields : String × Instant}
    (h : checkCreate env now req = .ok fields) :
    bindActor env req.sender req.maker = .ok fields.1 := by
  simp only [checkCreate, bind_eq_ok, refuseIf_eq_ok, orRefuse_eq_ok, exists_const,
    pure_eq_ok] at h
  obtain ⟨maker, hmaker, -, -, -, exp, -, -, rfl⟩ := h
  exact hmaker

theorem checkDecision_bound {req : DecisionRequest} {fields : String × Decision}
    (h : checkDecision env req = .ok fields) :
    bindActor env req.sender req.approverId = .ok fields.1 := by
  simp only [checkDecision, bind_eq_ok, refuseIf_eq_ok, orRefuse_eq_ok, exists_const,
    pure_eq_ok] at h
  obtain ⟨checker, hchecker, decision, -, -, -, -, rfl⟩ := h
  exact hchecker

/-- Fields in disorder are denied. -/
theorem checkCreate_denied {now : Instant} {req : CreateRequest} {refusal : Refusal}
    (h : checkCreate env now req = .error refusal) : refusal.result = .denied := by
  have hall : RefusesOnly (fun r : Refusal => r.result = .denied) (checkCreate env now req) := by
    simp [checkCreate, bindActor, Refusal.result]
  exact hall refusal h

end Columns

/-! ## What keeps the relation -/

section Keeping
variable {env : Primitives} {store : MemoryStore} {db db' : ApprovalDb}

/-- Audit events are no part of it. -/
theorem Mirrors.of_tables (h : Mirrors env store db) (hreq : db'.requests = db.requests)
    (hdec : db'.decisions = db.decisions) (hkeys : db'.idempotencyKeys = db.idempotencyKeys) :
    Mirrors env store db' := by
  obtain ⟨requests, decisions, keys, events⟩ := db
  obtain ⟨requests', decisions', keys', events'⟩ := db'
  dsimp only at hreq hdec hkeys
  subst hreq hdec hkeys
  have halike : ∀ {a r}, Alike ⟨requests', decisions', keys', events⟩ a r →
      Alike ⟨requests', decisions', keys', events'⟩ a r := fun halike =>
    ⟨halike.id, halike.standing, halike.checkers, halike.quorumRequired, halike.quorumMet⟩
  refine ⟨fun a ha => ?_, fun r hr => ?_, h.keyed, h.opened, h.keyDistinct, h.decides,
    h.referenced, h.apart, h.storable, h.unmet⟩
  · obtain ⟨r, hr, hsame⟩ := h.image a ha
    exact ⟨r, hr, halike hsame⟩
  · obtain ⟨a, ha, hsame⟩ := h.preimage r hr
    exact ⟨a, ha, halike hsame⟩

/-- An approval keeps its image while no decision on it is added. -/
theorem Alike.mono {a : StoredApproval} {r : DurableApprovalRequest} (h : Alike db a r)
    (hof : db'.decisionsOf r.approvalId = db.decisionsOf r.approvalId) : Alike db' a r :=
  ⟨h.id, h.standing, by rw [hof]; exact h.checkers, h.quorumRequired, h.quorumMet⟩

/-- A new approval with its key. -/
theorem Mirrors.open (h : Mirrors env store db) {a : StoredApproval} {r : DurableApprovalRequest}
    {k : IdempotencyKey} (hfresh : ∀ x ∈ db.requests, x.approvalId ≠ r.approvalId)
    (hapart : ∀ x ∈ db.requests, r.clashes x = false)
    (hkey : ∀ x ∈ store, x.createKey ≠ a.createKey)
    (hstorable : (env.redactReason r.reasonRedacted).toList.all (· ≠ '\x00') = true ∧
      r.correlationId.all (fits 255) = true)
    (hunmet : r.state = .pendingReview → r.quorumMet = false) (hk : k.scopeKey = .open ∧
      k.scopeId = "open" ∧ k.idempotencyKeyDigest = a.createKey ∧
      k.resultRef.text = a.approvalId) (halike : Alike db' a r)
    (hreq : db'.requests = db.requests.put r) (hdec : db'.decisions = db.decisions)
    (hkeys : db'.idempotencyKeys = db.idempotencyKeys ++ [k]) : Mirrors env (store.put a) db' := by
  have hof : ∀ id, db'.decisionsOf id = db.decisionsOf id := by
    intro id
    simp only [ApprovalDb.decisionsOf, hdec]
  have hmem : ∀ {x}, x ∈ db'.requests ↔ (x ∈ db.requests ∨ x = r) := by
    intro x
    rw [hreq, Table.mem_put]
    exact or_congr_left ⟨And.left, fun hx => ⟨hx, hfresh x hx⟩⟩
  have hmem' : ∀ {x}, x ∈ store.put a ↔ (x ∈ store ∨ x = a) := by
    intro x
    rw [Table.mem_put]
    refine or_congr_left ⟨And.left, fun hx => ⟨hx, fun heq => ?_⟩⟩
    obtain ⟨y, hy, hsame⟩ := h.image x hx
    have hid : x.approvalId = a.approvalId := heq
    rw [hsame.id, halike.id, Uuid.text_inj] at hid
    exact hfresh y hy hid
  have hkmem : ∀ {x}, x ∈ db'.idempotencyKeys ↔ (x ∈ db.idempotencyKeys ∨ x = k) := by
    intro x
    rw [hkeys, List.mem_append, List.mem_singleton]
  refine ⟨?_, ?_, ?_, ?_, ?_, ?_, ?_, ?_, ?_, ?_⟩
  · intro x hx
    rcases hmem'.mp hx with hx | rfl
    · obtain ⟨y, hy, hsame⟩ := h.image x hx
      exact ⟨y, hmem.mpr (.inl hy), hsame.mono (hof _)⟩
    · exact ⟨r, hmem.mpr (.inr rfl), halike⟩
  · intro y hy
    rcases hmem.mp hy with hy | rfl
    · obtain ⟨x, hx, hsame⟩ := h.preimage y hy
      exact ⟨x, hmem'.mpr (.inl hx), hsame.mono (hof _)⟩
    · exact ⟨a, hmem'.mpr (.inr rfl), halike⟩
  · intro x hx
    rcases hmem'.mp hx with hx | rfl
    · obtain ⟨k', hk', hkeyed⟩ := h.keyed x hx
      exact ⟨k', hkmem.mpr (.inl hk'), hkeyed⟩
    · exact ⟨k, hkmem.mpr (.inr rfl), hk⟩
  · intro k' hk' hscope
    rcases hkmem.mp hk' with hk' | rfl
    · obtain ⟨hid, x, hx, hopened⟩ := h.opened k' hk' hscope
      exact ⟨hid, x, hmem'.mpr (.inl hx), hopened⟩
    · exact ⟨hk.2.1, a, hmem'.mpr (.inr rfl), hk.2.2.1.symm, hk.2.2.2.symm⟩
  · intro x hx y hy heq
    rcases hmem'.mp hx with hx' | hxa
    · rcases hmem'.mp hy with hy' | hya
      · exact h.keyDistinct x hx' y hy' heq
      · exact absurd (hya ▸ heq) (hkey x hx')
    · rcases hmem'.mp hy with hy' | hya
      · exact absurd (hxa ▸ heq.symm) (hkey y hy')
      · exact hxa.trans hya.symm
  · intro k' hk' hscope
    rw [hdec]
    rcases hkmem.mp hk' with hk' | rfl
    · exact h.decides k' hk' hscope
    · rw [hk.1] at hscope
      cases hscope
  · intro d hd
    obtain ⟨x, hx, hid⟩ := h.referenced d (hdec ▸ hd)
    exact ⟨x, hmem.mpr (.inl hx), hid⟩
  · intro x hx y hy
    rcases hmem.mp hx with hx | rfl
    · rcases hmem.mp hy with hy | rfl
      · exact h.apart x hx y hy
      · rw [DurableApprovalRequest.clashes_comm]
        exact hapart x hx
    · rcases hmem.mp hy with hy | rfl
      · exact hapart y hy
      · simp [DurableApprovalRequest.clashes]
  · intro x hx
    rcases hmem.mp hx with hx | rfl
    · exact h.storable x hx
    · exact hstorable
  · intro x hx
    rcases hmem.mp hx with hx | rfl
    · exact h.unmet x hx
    · exact hunmet

/-- A row that was updated: what never changes is the same, and it has not become active. -/
structure Updates (r r' : DurableApprovalRequest) : Prop where
  id : r'.approvalId = r.approvalId
  action : r'.actionId = r.actionId
  maker : r'.makerActorId = r.makerActorId
  requestDigest : r'.requestDigest = r.requestDigest
  reason : r'.reasonRedacted = r.reasonRedacted
  correlation : r'.correlationId = r.correlationId
  active : r'.state.isActive = true → r.state.isActive = true

theorem Updates.clashes {r r' x : DurableApprovalRequest} (h : Updates r r')
    (hx : r'.clashes x = true) : r.clashes x = true := by
  simp only [DurableApprovalRequest.clashes, DurableApprovalRequest.sameTarget, h.id, h.action,
    h.maker, h.requestDigest, Bool.and_eq_true] at hx ⊢
  exact ⟨⟨⟨hx.1.1.1, h.active hx.1.1.2⟩, hx.1.2⟩, hx.2⟩

/-- One more decision on an approval. -/
theorem Mirrors.decide (h : Mirrors env store db) {a a' : StoredApproval}
    {r r' : DurableApprovalRequest} {d : DurableApprovalDecision} {k : IdempotencyKey}
    (ha : a ∈ store) (hr : r ∈ db.requests) (hsame : Alike db a r)
    (hid : a'.approvalId = a.approvalId) (hkey : a'.createKey = a.createKey) (hupd : Updates r r')
    (hd : d.approvalId = r.approvalId) (hk : k.scopeKey = .decide ∧
      k.scopeId = d.approvalId.text ∧ k.idempotencyKeyDigest = d.idempotencyKeyDigest)
    (hunmet : r'.state = .pendingReview → r'.quorumMet = false)
    (halike : Alike db' a' r') (hreq : db'.requests = db.requests.set r')
    (hdec : db'.decisions = db.decisions ++ [d])
    (hkeys : db'.idempotencyKeys = db.idempotencyKeys ++ [k]) : Mirrors env (store.put a') db' := by
  have hmem : ∀ {x}, x ∈ db'.requests ↔
      (x ∈ db.requests ∧ x.approvalId ≠ r'.approvalId ∨ x = r') := by
    intro x
    rw [hreq, Table.mem_set]
    exact or_congr_right ⟨And.left, fun hx => ⟨hx, r, hr, hupd.id.symm⟩⟩
  have hmem' : ∀ {x}, x ∈ store.put a' ↔ (x ∈ store ∧ x.approvalId ≠ a'.approvalId ∨ x = a') :=
    Table.mem_put
  have hkmem : ∀ {x}, x ∈ db'.idempotencyKeys ↔ (x ∈ db.idempotencyKeys ∨ x = k) := by
    intro x
    rw [hkeys, List.mem_append, List.mem_singleton]
  have hof : ∀ {x : DurableApprovalRequest}, x.approvalId ≠ r'.approvalId →
      db'.decisionsOf x.approvalId = db.decisionsOf x.approvalId := by
    intro x hne
    rw [decisionsOf_append hdec, if_neg, List.append_nil]
    exact fun heq => hne (heq.symm.trans (hd.trans hupd.id.symm))
  -- an approval of one store is the decided one when its image is
  have hne : ∀ {x y}, Alike db x y → (x.approvalId ≠ a'.approvalId ↔
      y.approvalId ≠ r'.approvalId) := by
    intro x y hxy
    rw [hxy.id, hid, hsame.id, hupd.id, ne_eq, Uuid.text_inj]
  refine ⟨?_, ?_, ?_, ?_, ?_, ?_, ?_, ?_, ?_, ?_⟩
  · intro x hx
    rcases hmem'.mp hx with ⟨hx, hxid⟩ | rfl
    · obtain ⟨y, hy, hxy⟩ := h.image x hx
      have hyid := (hne hxy).mp hxid
      exact ⟨y, hmem.mpr (.inl ⟨hy, hyid⟩), hxy.mono (hof hyid)⟩
    · exact ⟨r', hmem.mpr (.inr rfl), halike⟩
  · intro y hy
    rcases hmem.mp hy with ⟨hy, hyid⟩ | rfl
    · obtain ⟨x, hx, hxy⟩ := h.preimage y hy
      exact ⟨x, hmem'.mpr (.inl ⟨hx, (hne hxy).mpr hyid⟩), hxy.mono (hof hyid)⟩
    · exact ⟨a', hmem'.mpr (.inr rfl), halike⟩
  · intro x hx
    rcases hmem'.mp hx with ⟨hx, -⟩ | rfl
    · obtain ⟨k', hk', hkeyed⟩ := h.keyed x hx
      exact ⟨k', hkmem.mpr (.inl hk'), hkeyed⟩
    · obtain ⟨k', hk', hkeyed⟩ := h.keyed a ha
      rw [← hkey, ← hid] at hkeyed
      exact ⟨k', hkmem.mpr (.inl hk'), hkeyed⟩
  · intro k' hk' hscope
    rcases hkmem.mp hk' with hk' | rfl
    · obtain ⟨hscopeId, x, hx, hxkey, hxid⟩ := h.opened k' hk' hscope
      refine ⟨hscopeId, ?_⟩
      by_cases hxa : x.approvalId = a'.approvalId
      · obtain rfl : x = a := Table.eq_of_key_eq hx ha (hxa.trans hid)
        exact ⟨a', hmem'.mpr (.inr rfl), hkey.trans hxkey, hid.trans hxid⟩
      · exact ⟨x, hmem'.mpr (.inl ⟨hx, hxa⟩), hxkey, hxid⟩
    · rw [hk.1] at hscope
      cases hscope
  · intro x hx y hy heq
    rcases hmem'.mp hx with ⟨hx', hxid⟩ | hxa
    · rcases hmem'.mp hy with ⟨hy', -⟩ | hya
      · exact h.keyDistinct x hx' y hy' heq
      · rw [hya, hkey] at heq
        rw [h.keyDistinct x hx' a ha heq] at hxid
        exact absurd hid.symm hxid
    · rcases hmem'.mp hy with ⟨hy', hyid⟩ | hya
      · rw [hxa, hkey] at heq
        rw [← h.keyDistinct a ha y hy' heq] at hyid
        exact absurd hid.symm hyid
      · exact hxa.trans hya.symm
  · intro k' hk' hscope
    rcases hkmem.mp hk' with hk' | rfl
    · obtain ⟨d', hd', hkd⟩ := h.decides k' hk' hscope
      exact ⟨d', by rw [hdec]; exact List.mem_append_left _ hd', hkd⟩
    · exact ⟨d, by rw [hdec]; simp, hk.2⟩
  · intro d' hd'
    rw [hdec, List.mem_append, List.mem_singleton] at hd'
    rcases hd' with hd' | rfl
    · obtain ⟨x, hx, hxid⟩ := h.referenced d' hd'
      by_cases hxr : x.approvalId = r'.approvalId
      · exact ⟨r', hmem.mpr (.inr rfl), hxr.symm.trans hxid⟩
      · exact ⟨x, hmem.mpr (.inl ⟨hx, hxr⟩), hxid⟩
    · exact ⟨r', hmem.mpr (.inr rfl), hupd.id.trans hd.symm⟩
  · have hclash : ∀ x ∈ db.requests, r'.clashes x = false := by
      intro x hx
      by_contra hne
      rw [Bool.not_eq_false] at hne
      exact absurd (hupd.clashes hne) (by simp [h.apart r hr x hx])
    intro x hx y hy
    rcases hmem.mp hx with ⟨hx, -⟩ | rfl
    · rcases hmem.mp hy with ⟨hy, -⟩ | rfl
      · exact h.apart x hx y hy
      · rw [DurableApprovalRequest.clashes_comm]
        exact hclash x hx
    · rcases hmem.mp hy with ⟨hy, -⟩ | rfl
      · exact hclash y hy
      · simp [DurableApprovalRequest.clashes]
  · intro x hx
    rcases hmem.mp hx with ⟨hx, -⟩ | rfl
    · exact h.storable x hx
    · rw [hupd.reason, hupd.correlation]
      exact h.storable r hr
  · intro x hx
    rcases hmem.mp hx with ⟨hx, -⟩ | rfl
    · exact h.unmet x hx
    · exact hunmet

end Keeping

/-! ## Opening -/

section Opening
variable {env : Primitives} {store : MemoryStore} {db : ApprovalDb} {plan : Plan}

/-- A plan gives the result of its answer exactly when it passes, where no failure gives it. -/
theorem Plan.result_iff (result : ApprovalResult)
    (hanswer : ∀ db', (plan.answer db').result? = some result)
    (hfailure : ∀ failure, (plan.failure failure).result? ≠ some result) :
    (plan.run db).2.result? = some result ↔ plan.Passes db := by
  by_cases hpass : plan.Passes db
  · obtain ⟨db', hrun, -⟩ := Plan.run_of_passes hpass
    rw [hrun]
    exact iff_of_true (hanswer db') hpass
  · obtain ⟨failure, hrun⟩ := Plan.run_of_not_passes hpass
    rw [hrun]
    exact iff_of_false (hfailure failure) hpass

/-- A plan does not give a result that neither its answer nor its failures give. -/
theorem Plan.result_ne (result : ApprovalResult)
    (hanswer : ∀ db', (plan.answer db').result? ≠ some result)
    (hfailure : ∀ failure, (plan.failure failure).result? ≠ some result) :
    (plan.run db).2.result? ≠ some result := by
  by_cases hpass : plan.Passes db
  · obtain ⟨db', hrun, -⟩ := Plan.run_of_passes hpass
    rw [hrun]
    exact hanswer db'
  · obtain ⟨failure, hrun⟩ := Plan.run_of_not_passes hpass
    rw [hrun]
    exact hfailure failure

/-- A plan that writes audit events alone keeps the relation. -/
theorem Mirrors.run_audit (h : Mirrors env store db) (hpass : plan.Passes db)
    (hreq : ∀ t, plan.onRequests t = t)
    (hdec : plan.script.flatMap Statement.addedDecisions = [])
    (hkeys : plan.script.flatMap Statement.addedKeys = []) :
    Mirrors env store (plan.run db).1 := by
  obtain ⟨db', hrun, hreq', hdec', hkeys'⟩ := Plan.run_of_passes hpass
  rw [hrun]
  rw [hdec, List.append_nil] at hdec'
  rw [hkeys, List.append_nil] at hkeys'
  exact h.of_tables (hreq'.trans (hreq _)) hdec' hkeys'

/-- A create key of the durable store is one of the memory store. -/
theorem Mirrors.found (h : Mirrors env store db) {digest : String} {key : IdempotencyKey}
    (hk : db.findOpenKey digest = some key) : key.idempotencyKeyDigest = digest ∧
      ∃ a row, a ∈ store ∧ (store.rows.find? fun x => x.createKey = digest) = some a ∧
        a.createKey = digest ∧ db.requests.find? key.resultRef = some row ∧ row ∈ db.requests := by
  have hmem := List.mem_of_find?_eq_some hk
  have hkey := List.find?_some hk
  simp only [Bool.decide_and, Bool.and_eq_true, decide_eq_true_eq] at hkey
  obtain ⟨hscope, -, hdigest⟩ := hkey
  obtain ⟨-, a, ha, hakey, haid⟩ := h.opened key hmem hscope
  rw [hdigest] at hakey
  obtain ⟨row, hrow, halike⟩ := h.image a ha
  have hid : row.approvalId = key.resultRef := by
    rw [halike.id, Uuid.text_inj] at haid
    exact haid
  refine ⟨hdigest, a, row, ha, ?_, hakey, Table.find?_eq_some.mpr ⟨hrow, hid⟩, hrow⟩
  cases hfind : store.rows.find? fun x => x.createKey = digest with
  | none =>
    have hnone := List.find?_eq_none.mp hfind a ha
    simp [hakey] at hnone
  | some x =>
    have hx : x ∈ store := List.mem_of_find?_eq_some hfind
    have hxkey := List.find?_some hfind
    rw [h.keyDistinct x hx a ha ((of_decide_eq_true hxkey).trans hakey.symm)]

theorem Mirrors.not_found (h : Mirrors env store db) {digest : String}
    (hk : db.findOpenKey digest = none) :
    (∀ x ∈ store, x.createKey ≠ digest) ∧
      ∀ k ∈ db.idempotencyKeys, k.scopeKey = .open → k.idempotencyKeyDigest ≠ digest := by
  have hkeys : ∀ k ∈ db.idempotencyKeys, k.scopeKey = .open → k.idempotencyKeyDigest ≠ digest := by
    intro k hk' hscope hdigest
    have hno := List.find?_eq_none.mp hk k hk'
    simp [hscope, (h.opened k hk' hscope).1, hdigest] at hno
  refine ⟨fun x hx heq => ?_, hkeys⟩
  obtain ⟨k, hk', hscope, -, hdigest, -⟩ := h.keyed x hx
  exact hkeys k hk' hscope (hdigest.trans heq)

variable {s : Backends} {now : Instant} {ctx : ActionContext} {newId actionId : Uuid}
  {tenantId : Option Uuid} {req : CreateRequest} {actionType : ActionType}
  {sourceStatus : SourceStatus} {maker : String} {exp : Instant}

/-- What the memory backend does with a create whose fields and action are in order. -/
def memoryOpen (env : Primitives) (now : Instant) (newId : Uuid) (store : MemoryStore)
    (req : CreateRequest) (maker : String) (exp : Instant) (actionType : ActionType)
    (sourceStatus : SourceStatus) : MemoryStore × MemoryResponse :=
  let approval := newStoredApproval env now newId req maker exp actionType sourceStatus
  match store.rows.find? fun x => x.createKey = approval.createKey with
  | some existing =>
    if existing.createFingerprint = approval.createFingerprint then
      (store, ⟨.duplicate, some existing⟩)
    else (store, ⟨Refusal.keyConflict.result, none⟩)
  | none => (store.put approval, ⟨.recorded, some approval⟩)

/-- A new key. -/
theorem open_new (h : Mirrors env s.memory s.durable)
    (hcheck : checkCreate env now req = .ok (maker, exp))
    (hkey : s.durable.findOpenKey (env.digest (stripped req.idempotencyKey)) = none) :
    let plan := openPlan env now newId actionId tenantId s.durable req actionType sourceStatus
    let memory := memoryOpen env now newId s.memory req maker exp actionType sourceStatus
    ((plan.run s.durable).2.result? = some memory.2.result ↔
        CreateMirrorable env s newId actionId req maker actionType) ∧
      (CreateMirrorable env s newId actionId req maker actionType →
        Mirrors env memory.1 (plan.run s.durable).1) := by
  obtain ⟨hnew, hkeys⟩ := h.not_found hkey
  have hmemory : memoryOpen env now newId s.memory req maker exp actionType sourceStatus =
      (s.memory.put (newStoredApproval env now newId req maker exp actionType sourceStatus),
        ⟨.recorded, some (newStoredApproval env now newId req maker exp actionType
          sourceStatus)⟩) := by
    have hfind : (s.memory.rows.find? fun x => x.createKey =
        (newStoredApproval env now newId req maker exp actionType sourceStatus).createKey) =
        none := by
      rw [List.find?_eq_none]
      exact fun x hx heq => hnew x hx (of_decide_eq_true heq)
    simp only [memoryOpen, hfind]
  dsimp only
  rw [hmemory]
  obtain ⟨row, hrow⟩ : ∃ row, row = newRequestRow env now newId actionId tenantId req maker exp
    actionType sourceStatus := ⟨_, rfl⟩
  obtain ⟨key, hkeyrow⟩ : ∃ key : IdempotencyKey, key =
    ⟨.open, "open", env.digest (stripped req.idempotencyKey), payloadDigest env req maker actionType,
      newId⟩ := ⟨_, rfl⟩
  have hplan : openPlan env now newId actionId tenantId s.durable req actionType sourceStatus =
      .opened row key (draftAudit env req.sender (some newId) .approvalOpened
        (env.redactReason (stripped req.reason)) (env.sanitizeText req.correlationId)) := by
    simp only [openPlan, hcheck, hkey, hrow, hkeyrow]
  have hunique : s.durable.isUnique (.request row) = true ↔
      (∀ r ∈ s.durable.requests, r.approvalId ≠ newId) ∧ Unclaimed s.durable
        (env.requestDigest req.actionId actionType.text req.tenantId maker) actionId maker := by
    have hrequest : row.requestDigest =
        env.requestDigest req.actionId actionType.text req.tenantId maker := by
      rw [hrow, newRequestRow, env.redactReason_actionType]
    simp only [ApprovalDb.isUnique, List.all_eq_true, Bool.and_eq_true, decide_eq_true_eq,
      Bool.not_eq_true', ← forall_and, Unclaimed, Table.mem_rows]
    refine forall₂_congr fun x _ => ?_
    have hid : row.approvalId = newId := by rw [hrow]; rfl
    have hactive : row.state.isActive = true := by rw [hrow]; rfl
    have haction : row.actionId = actionId := by rw [hrow]; rfl
    have hmaker : row.makerActorId = maker := by rw [hrow]; rfl
    simp only [DurableApprovalRequest.clashes, DurableApprovalRequest.sameTarget, hid, hactive,
      haction, hmaker, hrequest]
    grind
  have hkeyunique : s.durable.isUnique (.key key) = true := by
    simp only [ApprovalDb.isUnique, List.all_eq_true, hkeyrow]
    intro k hk
    have hne := hkeys k hk
    simp only [IdempotencyKey.clashes]
    grind
  have hpasses : (Plan.opened row key (draftAudit env req.sender (some newId) .approvalOpened
        (env.redactReason (stripped req.reason)) (env.sanitizeText req.correlationId))).Passes
        s.durable ↔ CreateMirrorable env s newId actionId req maker actionType := by
    simp only [Plan.Passes, CreateMirrorable, hkey]
    rw [draftAudit_recordable, hunique, hkeyunique]
    constructor
    · rintro ⟨hrec, -, hfree, -⟩
      exact ⟨hrec, hfree⟩
    · rintro ⟨hrec, hfree⟩
      refine ⟨hrec, ?_, hfree, rfl⟩
      have hfits := bindActor_fits (checkCreate_bound hcheck) hrec.1
      have haction : fits 255 (env.redactReason actionType.text) = true := by
        rw [env.redactReason_actionType]
        cases actionType <;> decide
      rw [hrow]
      simp only [Write.isStorable, newRequestRow, Bool.and_eq_true]
      exact ⟨⟨⟨hfits, haction⟩, hrec.2.1⟩, hrec.2.2⟩
  rw [hplan, Plan.result_iff .recorded (fun _ => rfl), hpasses]
  · refine ⟨Iff.rfl, fun hmirrorable => ?_⟩
    have hpass := hpasses.mpr hmirrorable
    obtain ⟨db', hrun, hreq, hdec, hkeys'⟩ := Plan.run_of_passes hpass
    obtain ⟨-, hstorable, hrowunique, -⟩ := hpass
    have hfree : ∀ x ∈ s.durable.requests, x.approvalId ≠ row.approvalId ∧ row.clashes x = false := by
      intro x hx
      have hx' := List.all_eq_true.mp hrowunique x hx
      simpa using hx'
    have hdec' : db'.decisions = s.durable.decisions := by
      simpa [Plan.script, Statement.addedDecisions] using hdec
    have halike : Alike db' (newStoredApproval env now newId req maker exp actionType sourceStatus)
        row := by
      have hnone : db'.decisionsOf row.approvalId = [] := by
        rw [ApprovalDb.decisionsOf, hdec']
        exact decisionsOf_eq_nil h.referenced fun x hx => (hfree x hx).1
      refine ⟨?_, ?_, ?_, ?_, ?_⟩
      · rw [hrow]
        rfl
      · rw [hrow]
        rfl
      · rw [hnone]
        rfl
      · rw [hrow]
        rfl
      · rw [hrow]
        rfl
    have htexts : (env.redactReason row.reasonRedacted).toList.all (· ≠ '\x00') = true ∧
        row.correlationId.all (fits 255) = true := by
      have hreason : env.redactReason row.reasonRedacted = row.reasonRedacted := by
        rw [hrow]
        exact env.redactReason_idem _
      simp only [Write.isStorable, Bool.and_eq_true] at hstorable
      rw [hreason]
      exact ⟨hstorable.1.2, hstorable.2⟩
    rw [hrun]
    refine h.open (fun x hx => (hfree x hx).1) (fun x hx => (hfree x hx).2) hnew htexts
      (fun _ => ?_) ?_ halike hreq hdec' (by simpa [Plan.script, Statement.addedKeys] using hkeys')
    · rw [hrow]
      rfl
    · rw [hkeyrow]
      exact ⟨rfl, rfl, rfl, rfl⟩
  · intro failure
    cases failure <;> simp [Plan.failure, DurableResponse.result?]

/-- A key that was used. -/
theorem open_found (h : Mirrors env s.memory s.durable)
    (hcheck : checkCreate env now req = .ok (maker, exp)) {key : IdempotencyKey}
    (hkey : s.durable.findOpenKey (env.digest (stripped req.idempotencyKey)) = some key) :
    let plan := openPlan env now newId actionId tenantId s.durable req actionType sourceStatus
    let memory := memoryOpen env now newId s.memory req maker exp actionType sourceStatus
    ((plan.run s.durable).2.result? = some memory.2.result ↔
        CreateMirrorable env s newId actionId req maker actionType) ∧
      (CreateMirrorable env s newId actionId req maker actionType →
        Mirrors env memory.1 (plan.run s.durable).1) := by
  obtain ⟨hdigest, a, row, ha, hfind, hakey, hrow, hmem⟩ := h.found hkey
  have honly : (∀ x ∈ s.memory, x.createKey = key.idempotencyKeyDigest →
      (x.createFingerprint =
          createFingerprint env actionType.text req.tenantId maker (stripped req.reason) ↔
        key.payloadDigest = payloadDigest env req maker actionType)) ↔
      (a.createFingerprint =
          createFingerprint env actionType.text req.tenantId maker (stripped req.reason) ↔
        key.payloadDigest = payloadDigest env req maker actionType) := by
    constructor
    · exact fun hall => hall a ha (hakey.trans hdigest.symm)
    · intro hthis x hx hxkey
      rw [h.keyDistinct x hx a ha (hxkey.trans (hdigest.trans hakey.symm))]
      exact hthis
  have hmemory : memoryOpen env now newId s.memory req maker exp actionType sourceStatus =
      if a.createFingerprint =
          createFingerprint env actionType.text req.tenantId maker (stripped req.reason) then
        (s.memory, ⟨.duplicate, some a⟩)
      else (s.memory, ⟨Refusal.keyConflict.result, none⟩) := by
    have hfind' : (s.memory.rows.find? fun x => x.createKey =
        (newStoredApproval env now newId req maker exp actionType sourceStatus).createKey) =
        some a := hfind
    simp only [memoryOpen, hfind']
    rfl
  dsimp only
  rw [hmemory]
  simp only [CreateMirrorable, hkey]
  rw [honly]
  by_cases hpayload : key.payloadDigest = payloadDigest env req maker actionType
  · -- the same payload: a replay
    have hplan : openPlan env now newId actionId tenantId s.durable req actionType sourceStatus =
        .replay row (some (draftAudit env req.sender (some row.approvalId) .approvalOpened
          row.reasonRedacted row.correlationId)) := by
      simp only [openPlan, hcheck, hkey, if_pos hpayload, hrow]
    have hpasses : (Plan.replay row (some (draftAudit env req.sender (some row.approvalId)
        .approvalOpened row.reasonRedacted row.correlationId))).Passes s.durable ↔
        req.sender.Recordable := by
      simp only [Plan.Passes, Option.mem_some_iff, forall_eq']
      rw [draftAudit_isStorable]
      exact and_iff_left (h.storable row hmem)
    rw [hplan, if_pos hpayload]
    by_cases hprint : a.createFingerprint =
        createFingerprint env actionType.text req.tenantId maker (stripped req.reason)
    · rw [if_pos hprint]
      refine ⟨Iff.trans (Plan.result_iff .duplicate (fun _ => rfl) (fun _ h => by cases h))
        (hpasses.trans (and_iff_right (iff_of_true hprint hpayload)).symm), fun hboth => ?_⟩
      exact h.run_audit (hpasses.mpr hboth.2) (fun _ => rfl) rfl rfl
    · rw [if_neg hprint]
      refine ⟨iff_of_false ?_ fun hboth => hprint (hboth.1.mpr hpayload),
        fun hboth => absurd (hboth.1.mpr hpayload) hprint⟩
      exact Plan.result_ne .conflict (fun _ => by simp [Plan.answer, DurableResponse.result?])
        (fun _ h => by cases h)
  · -- another payload: a conflict
    have hplan : openPlan env now newId actionId tenantId s.durable req actionType sourceStatus =
        .denied .keyConflict (draftAudit env req.sender none .approvalDenied
          (env.redactReason (stripped req.reason)) (env.sanitizeText req.correlationId)) := by
      simp only [openPlan, hcheck, hkey, if_neg hpayload]
    have hpasses : (Plan.denied .keyConflict (draftAudit env req.sender none .approvalDenied
        (env.redactReason (stripped req.reason)) (env.sanitizeText req.correlationId))).Passes
        s.durable ↔ Recordable env req.sender req.reason req.correlationId := draftAudit_recordable
    rw [hplan, if_neg hpayload]
    by_cases hprint : a.createFingerprint =
        createFingerprint env actionType.text req.tenantId maker (stripped req.reason)
    · rw [if_pos hprint]
      refine ⟨iff_of_false ?_ fun hboth => hpayload (hboth.1.mp hprint),
        fun hboth => absurd (hboth.1.mp hprint) hpayload⟩
      exact Plan.result_ne .duplicate
        (fun _ => by simp [Plan.answer, DurableResponse.result?, Refusal.result])
        (fun _ h => by cases h)
    · rw [if_neg hprint]
      refine ⟨Iff.trans (Plan.result_iff .conflict (fun _ => rfl) (fun _ h => by cases h))
        (hpasses.trans (and_iff_right (iff_of_false hprint hpayload)).symm), fun hboth => ?_⟩
      exact h.run_audit (hpasses.mpr hboth.2) (fun _ => rfl) rfl rfl

/-- A create comes to the same in both backends exactly when it is mirrorable. -/
theorem create_spec (h : Mirrors env s.memory s.durable) {newActionId : Uuid} :
    ((durableCreate env now ctx newId newActionId s.durable req).2.result? =
        some (memoryCreate env now ctx newId s.memory req).2.result ↔
        s.Mirrorable env (now, .create ctx newId newActionId req)) ∧
      (s.Mirrorable env (now, .create ctx newId newActionId req) →
        Mirrors env (memoryCreate env now ctx newId s.memory req).1
          (durableCreate env now ctx newId newActionId s.durable req).1) := by
  simp only [Backends.Mirrorable, durableCreate, memoryCreate]
  cases hresolve : ctx.resolve req.actionId req.actionType req.tenantId with
  | none =>
    cases hcheck : checkCreate env now req with
    | error refusal =>
      have hdenied := checkCreate_denied hcheck
      refine ⟨iff_of_false ?_ ?_, ?_⟩
      · show some Refusal.unresolvedAction.result ≠ some refusal.result
        rw [hdenied]
        decide
      · rintro ⟨fields, hfields⟩
        cases hfields
      · rintro ⟨fields, hfields⟩
        cases hfields
    | ok fields => exact ⟨iff_of_true rfl ⟨fields, rfl⟩, fun _ => h⟩
  | some reference =>
    obtain ⟨actionType, sourceStatus⟩ := reference
    dsimp only
    cases htenant : toUuid? req.tenantId with
    | none => exact ⟨iff_of_false (by simp [DurableResponse.result?]) id, False.elim⟩
    | some tenantId =>
      cases haction : toUuid? req.actionId with
      | none => exact ⟨iff_of_false (by simp [DurableResponse.result?]) id, False.elim⟩
      | some actionId =>
        dsimp only
        cases hcheck : checkCreate env now req with
        | error refusal =>
          have hplan : openPlan env now newId (actionId.getD newActionId) tenantId s.durable req
              actionType sourceStatus =
              .denied refusal (draftAudit env req.sender none .approvalDenied
                (env.redactReason (stripped req.reason)) (env.sanitizeText req.correlationId)) := by
            simp only [openPlan, hcheck]
          have hpasses : (Plan.denied refusal (draftAudit env req.sender none .approvalDenied
              (env.redactReason (stripped req.reason)) (env.sanitizeText req.correlationId))).Passes
              s.durable ↔ Recordable env req.sender req.reason req.correlationId :=
            draftAudit_recordable
          rw [hplan]
          refine ⟨Iff.trans (Plan.result_iff refusal.result (fun _ => rfl) (fun _ h => by cases h))
            hpasses, fun hrec => ?_⟩
          exact h.run_audit (hpasses.mpr hrec) (fun _ => rfl) rfl rfl
        | ok fields =>
          obtain ⟨maker, exp⟩ := fields
          cases hkey : s.durable.findOpenKey (env.digest (stripped req.idempotencyKey)) with
          | none => exact open_new h hcheck hkey
          | some key => exact open_found h hcheck hkey

end Opening

/-! ## Deciding -/

section Deciding
variable {env : Primitives} {s : Backends} {now : Instant} {req : DecisionRequest}
  {a : StoredApproval} {row : DurableApprovalRequest}

/-- Two standings that agree still do in another state. -/
theorem Alike.standing_with {db : ApprovalDb} (h : Alike db a row) (state : ApprovalState) :
    (⟨state, a.maker, a.validationStatus⟩ : Standing) =
      ⟨state, row.makerActorId, row.validationStatus⟩ := by
  have hmaker : a.maker = row.makerActorId := congrArg Standing.maker h.standing
  have hvalid : a.validationStatus = row.validationStatus :=
    congrArg Standing.validationStatus h.standing
  rw [hmaker, hvalid]

theorem Alike.ownDecision {db : ApprovalDb} (h : Alike db a row) (checker : String) :
    a.ownDecision checker = Durable.ownDecision (db.decisionsOf row.approvalId) checker := by
  unfold StoredApproval.ownDecision Durable.ownDecision
  rw [h.checkers, List.find?_map, Option.map_map]
  rfl

theorem Alike.approveCount {db : ApprovalDb} (h : Alike db a row) :
    a.approveCount = Durable.approveCount (db.decisionsOf row.approvalId) := by
  unfold StoredApproval.approveCount Durable.approveCount
  rw [h.checkers, List.countP_map]
  rfl

/-- The policy reads the same of an approval in both stores. -/
theorem Alike.judge {db : ApprovalDb} (h : Alike db a row) (checker : String) (decision : Decision) :
    a.standing.judge (a.ownDecision checker) checker decision =
      row.standing.judge (Durable.ownDecision (db.decisionsOf row.approvalId) checker) checker
        decision := by
  rw [h.standing, h.ownDecision]

/-- No decision on the approval carries the key of the request. -/
def KeyFresh (env : Primitives) (db : ApprovalDb) (row : DurableApprovalRequest)
    (req : DecisionRequest) : Prop :=
  ∀ d ∈ db.decisionsOf row.approvalId,
    d.idempotencyKeyDigest ≠ env.digest (stripped req.idempotencyKey)

variable {checker : String} {decision : Decision}

/-- The unique indexes take a decision of a new checker exactly when its key is new. -/
theorem decision_isUnique
    (hown : Durable.ownDecision (s.durable.decisionsOf row.approvalId) checker = none) :
    s.durable.isUnique (.decision (newDecisionRow env now row req checker decision)) = true ↔
      KeyFresh env s.durable row req := by
  have hchecker : ∀ d ∈ s.durable.decisionsOf row.approvalId, d.checkerActorId ≠ checker := by
    rw [Durable.ownDecision, Option.map_eq_none_iff, List.find?_eq_none] at hown
    simpa using hown
  simp only [ApprovalDb.isUnique, List.all_eq_true, KeyFresh, ApprovalDb.decisionsOf,
    List.mem_filter, decide_eq_true_eq, and_imp] at hchecker ⊢
  refine forall₂_congr fun d hd => ?_
  simp only [DurableApprovalDecision.clashes, newDecisionRow]
  have hne := hchecker d hd
  grind

theorem key_isUnique (h : Mirrors env s.memory s.durable) (hfresh : KeyFresh env s.durable row req) :
    s.durable.isUnique (.key (newDecideKey env row req checker decision)) = true := by
  simp only [ApprovalDb.isUnique, List.all_eq_true]
  intro k hk
  by_contra hclash
  simp only [IdempotencyKey.clashes, newDecideKey, Bool.not_eq_true', Bool.not_eq_false,
    Bool.and_eq_true] at hclash
  obtain ⟨⟨hscope, hid⟩, hdigest⟩ := hclash
  obtain ⟨d, hd, hdid, hddigest⟩ := h.decides k hk (of_decide_eq_true hscope).symm
  rw [← of_decide_eq_true hid, Uuid.text_inj] at hdid
  refine hfresh d ?_ (hddigest.symm.trans (of_decide_eq_true hdigest).symm)
  exact List.mem_filter.mpr ⟨hd, by simp [hdid]⟩

theorem decision_isStorable (hcheck : checkDecision env req = .ok (checker, decision))
    (hrec : Recordable env req.sender req.reason req.correlationId) :
    (Write.decision (newDecisionRow env now row req checker decision)).isStorable = true := by
  have hfits := bindActor_fits (checkDecision_bound hcheck) hrec.1
  simp only [Write.isStorable, newDecisionRow, Bool.and_eq_true]
  exact ⟨⟨hfits, hrec.2.1⟩, hrec.2.2⟩

theorem update_passes (h : Mirrors env s.memory s.durable) (hrow : row ∈ s.durable.requests)
    {next : DurableApprovalRequest} (hupd : Updates row next) :
    s.durable.isUnique (.update row.storeVersion next) = true ∧
      s.durable.isCurrent (.update row.storeVersion next) = true := by
  constructor
  · simp only [ApprovalDb.isUnique, List.all_eq_true]
    intro x hx
    by_contra hclash
    have hclash' := hupd.clashes (x := x) (by simpa using hclash)
    rw [h.apart row hrow x hx] at hclash'
    cases hclash'
  · have hfind : s.durable.requests.find? next.approvalId = some row :=
      Table.find?_eq_some.mpr ⟨hrow, hupd.id.symm⟩
    simp [ApprovalDb.isCurrent, hfind]

theorem updates_advanced (hpending : row.state = .pendingReview) (state : ApprovalState)
    (decision : Decision) (quorumMet : Bool) :
    Updates row (row.advanced now state decision quorumMet) :=
  ⟨rfl, rfl, rfl, rfl, rfl, rfl, fun _ => by rw [hpending]; rfl⟩

theorem updates_refl (r : DurableApprovalRequest) : Updates r r :=
  ⟨rfl, rfl, rfl, rfl, rfl, rfl, id⟩

/-- The approval of the memory store with the decision, beside the row with the decision. -/
theorem alike_decided {db' : ApprovalDb} {a' : StoredApproval} {next : DurableApprovalRequest}
    (halike : Alike s.durable a row)
    (hdec : db'.decisions = s.durable.decisions ++ [newDecisionRow env now row req checker decision])
    (hid : a'.approvalId = a.approvalId) (hnext : next.approvalId = row.approvalId)
    (hstanding : a'.standing = next.standing)
    (hcheckers : a'.checkers = (a.withChecker env now req checker decision).checkers)
    (hrequired : a'.quorumRequired = next.quorumRequired) (hmet : a'.quorumMet = next.quorumMet) :
    Alike db' a' next := by
  refine ⟨?_, hstanding, ?_, hrequired, hmet⟩
  · rw [hid, hnext, halike.id]
  · have hself : (newDecisionRow env now row req checker decision).approvalId = row.approvalId := rfl
    rw [hnext, decisionsOf_append hdec, if_pos hself, List.map_append, ← halike.checkers, hcheckers]
    rfl

/-- A decision that the policy records. -/
theorem decide_record (h : Mirrors env s.memory s.durable) (ha : a ∈ s.memory)
    (hrow : row ∈ s.durable.requests) (halike : Alike s.durable a row)
    (hcheck : checkDecision env req = .ok (checker, decision))
    (hjudge : row.standing.judge
      (Durable.ownDecision (s.durable.decisionsOf row.approvalId) checker) checker decision =
        .record) :
    let plan := decidePlan env now (some row) (s.durable.decisionsOf row.approvalId) req
    let memory := a.recordDecision env now req checker decision
    ((plan.run s.durable).2.result? = some memory.2 ↔
        Recordable env req.sender req.reason req.correlationId ∧ KeyFresh env s.durable row req) ∧
      (Recordable env req.sender req.reason req.correlationId ∧ KeyFresh env s.durable row req →
        Mirrors env (s.memory.put memory.1) (plan.run s.durable).1) := by
  obtain ⟨hpending, -, hown, -⟩ := Standing.judge_eq_record.mp hjudge
  have hpending' : row.state = .pendingReview := hpending
  -- whichever plan it comes to, it passes under the same condition
  have hparts : ∀ eventType outcome : EventType,
      ((draftAudit env req.sender (some row.approvalId) eventType
          (env.redactReason (stripped req.reason)) (env.sanitizeText req.correlationId)).isStorable =
          true ∧
        (draftAudit env req.sender (some row.approvalId) outcome
          (env.redactReason (stripped req.reason)) (env.sanitizeText req.correlationId)).isStorable =
          true ∧
        (Write.decision (newDecisionRow env now row req checker decision)).isStorable = true ∧
        s.durable.isUnique (.decision (newDecisionRow env now row req checker decision)) = true ∧
        s.durable.isUnique (.key (newDecideKey env row req checker decision)) = true) ↔
        Recordable env req.sender req.reason req.correlationId ∧ KeyFresh env s.durable row req := by
    intro eventType outcome
    rw [draftAudit_recordable, draftAudit_recordable, decision_isUnique hown]
    constructor
    · rintro ⟨hrec, -, -, hfresh, -⟩
      exact ⟨hrec, hfresh⟩
    · rintro ⟨hrec, hfresh⟩
      exact ⟨hrec, hrec, decision_isStorable hcheck hrec, hfresh, key_isUnique h hfresh⟩
  cases decision with
  | reject =>
    have hupd : Updates row (row.advanced now .rejected .reject false) :=
      updates_advanced hpending' _ _ _
    obtain ⟨plan, hplan⟩ : ∃ plan, plan =
      decidePlan env now (some row) (s.durable.decisionsOf row.approvalId) req := ⟨_, rfl⟩
    dsimp only
    rw [← hplan]
    simp only [decidePlan, hcheck, hjudge] at hplan
    have hpasses : plan.Passes s.durable ↔
        Recordable env req.sender req.reason req.correlationId ∧ KeyFresh env s.durable row req := by
      rw [← hparts .approvalDecisionRecorded .approvalRejected, hplan]
      have hupdate := update_passes h hrow hupd
      simp only [Plan.Passes, Option.map_some]
      tauto
    refine ⟨?_, fun hcond => ?_⟩
    · rw [← hpasses, hplan]
      refine Plan.result_iff .rejected (fun _ => rfl) fun failure => ?_
      cases failure <;> (intro heq; cases heq)
    · obtain ⟨db', hrun, hreq, hdec, hkeys⟩ := Plan.run_of_passes (hpasses.mpr hcond)
      rw [hrun]
      rw [hplan] at hreq hdec hkeys
      simp only [Plan.script, Statement.addedDecisions, Statement.addedKeys, List.flatMap_cons,
        List.flatMap_nil, List.nil_append, List.append_nil] at hdec hkeys
      have hnext : Alike db' (a.recordDecision env now req checker .reject).1
          (row.advanced now .rejected .reject false) := by
        refine alike_decided halike hdec rfl rfl ?_ rfl halike.quorumRequired ?_
        · exact halike.standing_with .rejected
        · exact halike.quorumMet.trans (h.unmet row hrow hpending')
      have hkey : (newDecideKey env row req checker .reject).scopeKey = .decide ∧
          (newDecideKey env row req checker .reject).scopeId =
            (newDecisionRow env now row req checker .reject).approvalId.text ∧
          (newDecideKey env row req checker .reject).idempotencyKeyDigest =
            (newDecisionRow env now row req checker .reject).idempotencyKeyDigest := ⟨rfl, rfl, rfl⟩
      exact h.decide ha hrow halike rfl rfl hupd rfl hkey (fun h => by cases h) hnext hreq hdec
        hkeys
  | approve =>
    have hcount : (a.withChecker env now req checker .approve).approveCount =
        1 + approveCount (s.durable.decisionsOf row.approvalId) := by
      rw [← halike.approveCount, StoredApproval.approveCount, StoredApproval.withChecker,
        List.countP_append, Nat.add_comm]
      rfl
    have hkey : (newDecideKey env row req checker .approve).scopeKey = .decide ∧
        (newDecideKey env row req checker .approve).scopeId =
          (newDecisionRow env now row req checker .approve).approvalId.text ∧
        (newDecideKey env row req checker .approve).idempotencyKeyDigest =
          (newDecisionRow env now row req checker .approve).idempotencyKeyDigest := ⟨rfl, rfl, rfl⟩
    obtain ⟨plan, hplan⟩ : ∃ plan, plan =
      decidePlan env now (some row) (s.durable.decisionsOf row.approvalId) req := ⟨_, rfl⟩
    dsimp only
    rw [← hplan]
    simp only [decidePlan, hcheck, hjudge] at hplan
    by_cases hquorum : row.quorumRequired ≤ 1 + approveCount (s.durable.decisionsOf row.approvalId)
    · have hupd : Updates row (row.advanced now .approvedExecutionBlocked .approve true) :=
        updates_advanced hpending' _ _ _
      have hmemory : a.recordDecision env now req checker .approve =
          ({ a.withChecker env now req checker .approve with
              previousState := some a.state
              state := .approvedExecutionBlocked
              decision := some .approve
              quorumMet := true }, .approved) := by
        have hmet : a.quorumRequired ≤ (a.withChecker env now req checker .approve).approveCount := by
          rw [hcount, halike.quorumRequired]
          exact hquorum
        simp only [StoredApproval.recordDecision, if_pos hmet]
      rw [if_pos hquorum] at hplan
      have hpasses : plan.Passes s.durable ↔
          Recordable env req.sender req.reason req.correlationId ∧
            KeyFresh env s.durable row req := by
        rw [← hparts .approvalDecisionRecorded .approvalQuorumMet, hplan]
        have hupdate := update_passes h hrow hupd
        simp only [Plan.Passes, Option.map_some]
        tauto
      rw [hmemory]
      refine ⟨?_, fun hcond => ?_⟩
      · rw [← hpasses, hplan]
        refine Plan.result_iff .approved (fun _ => rfl) fun failure => ?_
        cases failure <;> (intro heq; cases heq)
      · obtain ⟨db', hrun, hreq, hdec, hkeys⟩ := Plan.run_of_passes (hpasses.mpr hcond)
        rw [hrun]
        rw [hplan] at hreq hdec hkeys
        simp only [Plan.script, Statement.addedDecisions, Statement.addedKeys, List.flatMap_cons,
          List.flatMap_nil, List.nil_append, List.append_nil] at hdec hkeys
        have hnext : Alike db'
            { a.withChecker env now req checker .approve with
              previousState := some a.state
              state := .approvedExecutionBlocked
              decision := some .approve
              quorumMet := true }
            (row.advanced now .approvedExecutionBlocked .approve true) :=
          alike_decided halike hdec rfl rfl (halike.standing_with .approvedExecutionBlocked) rfl
            halike.quorumRequired rfl
        exact h.decide ha hrow halike rfl rfl hupd rfl hkey (fun h => by cases h) hnext hreq hdec
          hkeys
    · have hmemory : a.recordDecision env now req checker .approve =
          (a.withChecker env now req checker .approve, .quorumPending) := by
        have hmissing :
            ¬a.quorumRequired ≤ (a.withChecker env now req checker .approve).approveCount := by
          rw [hcount, halike.quorumRequired]
          exact hquorum
        simp only [StoredApproval.recordDecision, if_neg hmissing]
      rw [if_neg hquorum] at hplan
      have hpasses : plan.Passes s.durable ↔
          Recordable env req.sender req.reason req.correlationId ∧
            KeyFresh env s.durable row req := by
        rw [← hparts .approvalDecisionRecorded .approvalDecisionRecorded, hplan]
        simp only [Plan.Passes, Option.map_some]
        tauto
      rw [hmemory]
      refine ⟨?_, fun hcond => ?_⟩
      · rw [← hpasses, hplan]
        refine Plan.result_iff .quorumPending (fun _ => rfl) fun failure => ?_
        cases failure <;> (intro heq; cases heq)
      · obtain ⟨db', hrun, hreq, hdec, hkeys⟩ := Plan.run_of_passes (hpasses.mpr hcond)
        rw [hrun]
        rw [hplan] at hreq hdec hkeys
        simp only [Plan.script, Statement.addedDecisions, Statement.addedKeys, List.flatMap_cons,
          List.flatMap_nil, List.nil_append, List.append_nil] at hdec hkeys
        have hnext : Alike db' (a.withChecker env now req checker .approve) row :=
          alike_decided halike hdec rfl rfl halike.standing rfl halike.quorumRequired
            halike.quorumMet
        have hset : db'.requests = s.durable.requests.set row :=
          hreq.trans (Table.set_of_mem hrow).symm
        exact h.decide ha hrow halike rfl rfl (updates_refl row) rfl hkey (h.unmet row hrow) hnext
          hset hdec hkeys

/-- Every other decision request writes audit events at most. -/
theorem decide_audit (h : Mirrors env s.memory s.durable) (plan : Plan) {result : ApprovalResult}
    (hanswer : ∀ db', (plan.answer db').result? = some result)
    (hfailure : ∀ failure, (plan.failure failure).result? = none) (hreq : ∀ t, plan.onRequests t = t)
    (hdec : plan.script.flatMap Statement.addedDecisions = [])
    (hkeys : plan.script.flatMap Statement.addedKeys = []) :
    ((plan.run s.durable).2.result? = some result ↔ plan.Passes s.durable) ∧
      (plan.Passes s.durable → Mirrors env s.memory (plan.run s.durable).1) := by
  refine ⟨Plan.result_iff result hanswer fun failure => ?_, fun hpass =>
    h.run_audit hpass hreq hdec hkeys⟩
  rw [hfailure failure]
  exact nofun

/-- A denial of a decision request, in both backends. -/
theorem decide_denied (h : Mirrors env s.memory s.durable) (refusal : Refusal)
    (approvalId : Option Uuid) :
    let plan := Plan.denied refusal (draftAudit env req.sender approvalId .approvalDenied
      (env.redactReason (stripped req.reason)) (env.sanitizeText req.correlationId))
    ((plan.run s.durable).2.result? = some refusal.result ↔
        Recordable env req.sender req.reason req.correlationId) ∧
      (Recordable env req.sender req.reason req.correlationId →
        Mirrors env s.memory (plan.run s.durable).1) := by
  dsimp only
  rw [← draftAudit_recordable]
  exact decide_audit h _ (fun _ => rfl) (fun _ => rfl) (fun _ => rfl) rfl rfl

/-- The policy and the field checks never say that an approval is missing. -/
theorem checkDecision_denied {refusal : Refusal} (h : checkDecision env req = .error refusal) :
    refusal.result ≠ .notFound := by
  have hall : RefusesOnly (fun r : Refusal => r.result ≠ .notFound) (checkDecision env req) := by
    simp [checkDecision, bindActor, Refusal.result]
  exact hall refusal h

theorem judge_refused {standing : Standing} {own : Option Decision} {refusal : Refusal}
    (h : standing.judge own checker decision = .refused refusal) : refusal.result ≠ .notFound := by
  have hresult : refusal ∈ [Refusal.terminalState, .selfDecision, .rejectFinal, .quorumReached,
      .checkerFlip, .sourceUnavailable] := by
    unfold Standing.judge at h
    repeat' split at h
    all_goals cases h
    all_goals simp
  simp only [List.mem_cons, List.not_mem_nil, or_false] at hresult
  rcases hresult with rfl | rfl | rfl | rfl | rfl | rfl <;> decide

/-- So a request that finds a row never answers that there is none. -/
theorem decidePlan_result_ne (row : DurableApprovalRequest)
    (decisions : List DurableApprovalDecision) :
    ((decidePlan env now (some row) decisions req).run s.durable).2.result? ≠
      some Refusal.approvalNotFound.result := by
  unfold decidePlan
  dsimp only
  split
  · next refusal hcheck =>
    refine Plan.result_ne .notFound (fun _ heq => ?_) (fun _ => nofun)
    exact checkDecision_denied hcheck (Option.some.inj heq)
  · split
    · next refusal hjudge =>
      refine Plan.result_ne .notFound (fun _ heq => ?_) (fun _ => nofun)
      exact judge_refused hjudge (Option.some.inj heq)
    · exact Plan.result_ne .notFound (fun _ => nofun) (fun _ => nofun)
    · split
      · refine Plan.result_ne .notFound (fun _ => nofun) fun failure => ?_
        cases failure <;> nofun
      · split
        · refine Plan.result_ne .notFound (fun _ => nofun) fun failure => ?_
          cases failure <;> nofun
        · refine Plan.result_ne .notFound (fun _ => nofun) fun failure => ?_
          cases failure <;> nofun

/-- A request that names a row by its text. -/
theorem decide_named (h : Mirrors env s.memory s.durable) (hrow : row ∈ s.durable.requests)
    (hid : req.approvalId = row.approvalId.text) :
    let plan := decidePlan env now (some row) (s.durable.decisionsOf row.approvalId) req
    let memory := memorySubmitDecision env now s.memory req
    ((plan.run s.durable).2.result? = some memory.2.result ↔ DecisionMirrorable env s row req) ∧
      (DecisionMirrorable env s row req → Mirrors env memory.1 (plan.run s.durable).1) := by
  obtain ⟨a, ha, halike⟩ := h.preimage row hrow
  have hfind : s.memory.find? req.approvalId = some a :=
    Table.find?_eq_some.mpr ⟨ha, halike.id.trans hid.symm⟩
  dsimp only
  simp only [memorySubmitDecision, hfind, DecisionMirrorable]
  cases hcheck : checkDecision env req with
  | error refusal =>
    have hplan : decidePlan env now (some row) (s.durable.decisionsOf row.approvalId) req =
        .denied refusal (draftAudit env req.sender (some row.approvalId) .approvalDenied
          (env.redactReason (stripped req.reason)) (env.sanitizeText req.correlationId)) := by
      simp only [decidePlan, hcheck, Option.map_some]
    rw [hplan]
    exact decide_denied h refusal _
  | ok fields =>
    obtain ⟨checker, decision⟩ := fields
    dsimp only
    rw [halike.judge]
    cases hjudge : row.standing.judge
        (Durable.ownDecision (s.durable.decisionsOf row.approvalId) checker) checker decision with
    | refused refusal =>
      have hplan : decidePlan env now (some row) (s.durable.decisionsOf row.approvalId) req =
          .denied refusal (draftAudit env req.sender (some row.approvalId) .approvalDenied
            (env.redactReason (stripped req.reason)) (env.sanitizeText req.correlationId)) := by
        simp only [decidePlan, hcheck, hjudge, Option.map_some]
      rw [hplan]
      exact decide_denied h refusal _
    | duplicate =>
      have hplan : decidePlan env now (some row) (s.durable.decisionsOf row.approvalId) req =
          .replay row (if row.state = .rejected then
            some (draftAudit env req.sender (some row.approvalId) .approvalRejected
              (env.redactReason (stripped req.reason)) (env.sanitizeText req.correlationId))
            else none) := by
        simp only [decidePlan, hcheck, hjudge, Option.map_some]
      rw [hplan]
      by_cases hrejected : row.state = .rejected
      · rw [if_pos hrejected]
        have haudit := decide_audit h (.replay row (some (draftAudit env req.sender
          (some row.approvalId) .approvalRejected (env.redactReason (stripped req.reason))
          (env.sanitizeText req.correlationId)))) (fun _ => rfl) (fun _ => rfl) (fun _ => rfl) rfl rfl
        simp only [Plan.Passes, Option.mem_some_iff, forall_eq', draftAudit_recordable] at haudit
        simpa only [hrejected, forall_const] using haudit
      · rw [if_neg hrejected]
        have haudit := decide_audit h (.replay row none) (fun _ => rfl) (fun _ => rfl)
          (fun _ => rfl) rfl rfl
        refine ⟨haudit.1.trans (iff_of_true (fun _ hd => ?_) fun hr => absurd hr hrejected),
          fun _ => haudit.2 fun _ hd => ?_⟩
        · exact absurd hd (Option.not_mem_none _)
        · exact absurd hd (Option.not_mem_none _)
    | record => exact decide_record h ha hrow halike hcheck hjudge

/-- A decision request comes to the same in both backends exactly when it is mirrorable. -/
theorem decide_spec (h : Mirrors env s.memory s.durable) :
    ((durableSubmitDecision env now s.durable req).2.result? =
        some (memorySubmitDecision env now s.memory req).2.result ↔
        s.Mirrorable env (now, .decide req)) ∧
      (s.Mirrorable env (now, .decide req) →
        Mirrors env (memorySubmitDecision env now s.memory req).1
          (durableSubmitDecision env now s.durable req).1) := by
  -- the memory store names an approval by the canonical text alone
  have hmissing : (∀ r ∈ s.durable.requests, req.approvalId ≠ r.approvalId.text) →
      memorySubmitDecision env now s.memory req =
        (s.memory, ⟨Refusal.approvalNotFound.result, none⟩) := by
    intro hno
    have hfind : s.memory.find? req.approvalId = none := by
      rw [Table.find?_eq_none]
      intro x hx hid
      obtain ⟨r, hr, hxr⟩ := h.image x hx
      exact hno r hr (hid.symm.trans hxr.id)
    simp only [memorySubmitDecision, hfind]
  simp only [Backends.Mirrorable, durableSubmitDecision]
  cases hparse : Uuid.parse req.approvalId with
  | none =>
    rw [hmissing]
    · exact ⟨iff_of_true rfl trivial, fun _ => h⟩
    · intro r _ heq
      rw [heq, Uuid.parse_text] at hparse
      cases hparse
  | some id =>
    have hcanonical : ∀ r ∈ s.durable.requests, req.approvalId = r.approvalId.text →
        r.approvalId = id := by
      intro r _ heq
      rw [heq, Uuid.parse_text] at hparse
      exact Option.some.inj hparse
    dsimp only
    cases hfind : s.durable.requests.find? id with
    | none =>
      rw [hmissing]
      · exact decide_denied h .approvalNotFound none
      · intro r hr heq
        exact Table.find?_eq_none.mp hfind r hr (hcanonical r hr heq)
    | some row =>
      obtain ⟨hrow, hrowid⟩ := Table.find?_eq_some.mp hfind
      obtain rfl : row.approvalId = id := hrowid
      dsimp only
      by_cases hid : req.approvalId = row.approvalId.text
      · simp only [hid, true_and]
        exact decide_named h hrow hid
      · rw [hmissing]
        · refine ⟨iff_of_false (decidePlan_result_ne row _) fun hboth => hid hboth.1,
            fun hboth => absurd hboth.1 hid⟩
        · intro r hr heq
          exact hid (by rw [heq, hcanonical r hr heq])

end Deciding

/-! ## Along a run -/

theorem Mirrors.sameApprovals {env : Primitives} {store : MemoryStore} {db : ApprovalDb}
    (h : Mirrors env store db) : SameApprovals store db := ⟨h.image, h.preimage⟩

/-- One request, to both backends. -/
theorem Mirrors.step {env : Primitives} {s : Backends} (h : Mirrors env s.memory s.durable)
    (event : Instant × Request) :
    (s.Agree env event ↔ s.Mirrorable env event) ∧ (s.Mirrorable env event →
      Mirrors env (s.step env event).memory (s.step env event).durable) := by
  obtain ⟨now, request⟩ := event
  have hspec : ((s.inDurable env now request).2.result? =
        some (s.inMemory env now request).2.result ↔ s.Mirrorable env (now, request)) ∧
      (s.Mirrorable env (now, request) →
        Mirrors env (s.inMemory env now request).1 (s.inDurable env now request).1) := by
    cases request with
    | create ctx newId newActionId req => exact create_spec h
    | decide req => exact decide_spec h
  refine ⟨⟨fun hagree => hspec.1.mp hagree.1, fun hmirrorable => ?_⟩, hspec.2⟩
  exact ⟨hspec.1.mpr hmirrorable, (hspec.2 hmirrorable).sameApprovals⟩

end Durable

end Mpango
