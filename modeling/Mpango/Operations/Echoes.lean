import Mpango.Operations.Redaction

/-!
# Requests that are answered alike

Two requests that differ in one sensitive text are sanitized to the same echo (`Alike.echo`), and
requests with the same echo are answered alike at any store that does not tell them apart. The
store looks only at the raw key, and at the digest of the action, the tenant, the requested state
and the reason; so the correlation id, the metadata and a sensitive action never show, while the
other three fields do not on a dry run and before anything is recorded under their keys.
-/

namespace Mpango

namespace Actions

variable {env : Primitives}

/-! ## Pairs of requests -/

/-- Two values under a key that differ in one sensitive text, at some depth: in anything under a
sensitive key, or in a text with a keyword or a scheme. -/
inductive AlikeNode : Option String → Json → Json → Prop
  | keyed {key : Option String} {v v' : Json} :
    key.any sensitiveKey.occurs = true → AlikeNode key v v'
  | text {key : Option String} {s s' : String} :
    Primitives.sensitiveVal.occurs s = true → Primitives.sensitiveVal.occurs s' = true →
      AlikeNode key (.str s) (.str s')
  | item {key : Option String} {v v' : Json} (before after : List Json) :
    AlikeNode none v v' → AlikeNode key (.array (before ++ v :: after))
      (.array (before ++ v' :: after))
  | field {key : Option String} {k : String} {v v' : Json} (before after : Metadata) :
    AlikeNode (some k) v v' → AlikeNode key (.object (before ++ (k, v) :: after))
      (.object (before ++ (k, v') :: after))

/-- Requests that differ in one sensitive text the store does not look at. -/
inductive EchoAlike (env : Primitives) : FullRequest → FullRequest → Prop
  | actionType (full : FullRequest) {s s' : String} :
    env.reasonIsSensitive s = true → env.reasonIsSensitive s' = true →
      EchoAlike env { full with request := { full.request with actionType := s } }
        { full with request := { full.request with actionType := s' } }
  | correlationId (full : FullRequest) {s s' : String} :
    env.reasonIsSensitive s = true → env.reasonIsSensitive s' = true →
      EchoAlike env { full with request := { full.request with correlationId := some s } }
        { full with request := { full.request with correlationId := some s' } }
  | metadata (full : FullRequest) {k : String} {v v' : Json} (before after : Metadata) :
    AlikeNode (some k) v v' →
      EchoAlike env { full with metadata := some (before ++ (k, v) :: after) }
        { full with metadata := some (before ++ (k, v') :: after) }

/-- Requests that differ in one sensitive text the store looks at, raw or in its digest. -/
inductive StoreAlike (env : Primitives) : FullRequest → FullRequest → Prop
  | reason (full : FullRequest) {s s' : Option String} :
    env.reasonIsSensitive (stripped s) = true → env.reasonIsSensitive (stripped s') = true →
      StoreAlike env { full with request := { full.request with reason := s } }
        { full with request := { full.request with reason := s' } }
  | idempotencyKey (full : FullRequest) {s s' : Option String} :
    env.reasonIsSensitive (stripped s) = true → env.reasonIsSensitive (stripped s') = true →
      StoreAlike env { full with request := { full.request with idempotencyKey := s } }
        { full with request := { full.request with idempotencyKey := s' } }
  | requestedState (full : FullRequest) {s s' : String} :
    env.reasonIsSensitive s = true → env.reasonIsSensitive s' = true →
      StoreAlike env { full with request := { full.request with requestedState := some s } }
        { full with request := { full.request with requestedState := some s' } }

/-! ## One echo -/

/-- Requests that pass the same checks, and of which the same is echoed. -/
structure SameEcho (env : Primitives) (full full' : FullRequest) : Prop where
  checkFields : full.request.checkFields = full'.request.checkFields
  tenantId : full.request.tenantId = full'.request.tenantId
  actionType :
    sanitizeActionType env full.request.actionType = sanitizeActionType env full'.request.actionType
  reason : env.redactReason full.request.rawReason = env.redactReason full'.request.rawReason
  idempotencyKey : env.redactReason full.request.rawKey = env.redactReason full'.request.rawKey
  requestedState :
    env.sanitizeText full.request.requestedState = env.sanitizeText full'.request.requestedState
  correlationId :
    env.sanitizeText full.request.correlationId = env.sanitizeText full'.request.correlationId
  metadata : redactMetadata full.metadata = redactMetadata full'.metadata

theorem redactItems_append (xs ys : List Json) :
    redactItems (xs ++ ys) = redactItems xs ++ redactItems ys := by
  induction xs with
  | nil => rfl
  | cons v xs ih => rw [List.cons_append, redactItems, redactItems, ih, List.cons_append]

theorem redactFields_append (fields fields' : Metadata) :
    redactFields (fields ++ fields') = redactFields fields ++ redactFields fields' := by
  induction fields with
  | nil => rfl
  | cons e fields ih =>
    obtain ⟨k, v⟩ := e
    rw [List.cons_append, redactFields, redactFields, ih, List.cons_append]

/-- Values that differ in a sensitive text are redacted to the same value. -/
theorem AlikeNode.redactNode_eq {key : Option String} {v v' : Json} (h : AlikeNode key v v') :
    redactNode key v = redactNode key v' := by
  induction h with
  | keyed hkey => rw [redactNode_keyed hkey, redactNode_keyed hkey]
  | text hs hs' => simp only [redactNode, hs, hs', if_true]
  | item before after h ih =>
    simp only [redactNode, redactItems_append, redactItems, ih]
  | field before after h ih =>
    simp only [redactNode, redactFields_append, redactFields, ih]

theorem redactReason_sensitive {s : String} (h : env.reasonIsSensitive s = true) :
    env.redactReason s = "[redacted]" := if_pos h

theorem redactReason_alike {s s' : String} (h : env.reasonIsSensitive s = true)
    (h' : env.reasonIsSensitive s' = true) : env.redactReason s = env.redactReason s' := by
  rw [redactReason_sensitive h, redactReason_sensitive h']

theorem sanitizeText_alike {s s' : String} (h : env.reasonIsSensitive s = true)
    (h' : env.reasonIsSensitive s' = true) :
    env.sanitizeText (some s) = env.sanitizeText (some s') :=
  congrArg some (redactReason_alike h h')

theorem ne_empty_of_sensitive {s : String} (h : env.reasonIsSensitive s = true) : s ≠ "" := by
  intro hs
  subst hs
  cases h

/-- A sensitive action is not in the catalogue. -/
theorem ofText?_of_sensitive {s : String} (h : env.reasonIsSensitive s = true) :
    ActionType.ofText? s = none := by
  cases hfind : ActionType.ofText? s with
  | none => rfl
  | some a =>
    have hcatalog : ActionType.catalog.find? (fun a => a.text = s) = some a := hfind
    have htext : a.text = s := by simpa using List.find?_some hcatalog
    rw [← htext, actionType_clean a] at h
    cases h

/-- The checks read the reason and the key only for their presence. -/
theorem checkFields_congr {req req' : ActionRequest}
    (hreason : req.rawReason = "" ↔ req'.rawReason = "")
    (hkey : req.rawKey = "" ↔ req'.rawKey = "")
    (hitem : ActionType.ofText? req.actionType = ActionType.ofText? req'.actionType)
    (hconfirm : req.confirm = req'.confirm) : req.checkFields = req'.checkFields := by
  unfold ActionRequest.checkFields
  simp only [hreason, hkey, hitem, hconfirm]

theorem EchoAlike.echo {full full' : FullRequest} (h : EchoAlike env full full') :
    SameEcho env full full' := by
  cases h with
  | actionType full hs hs' =>
    have hunknown := ofText?_of_sensitive hs
    have hunknown' := ofText?_of_sensitive hs'
    refine ⟨checkFields_congr .rfl .rfl (hunknown.trans hunknown'.symm) rfl, rfl, ?_, rfl, rfl, rfl,
      rfl, rfl⟩
    simp only [sanitizeActionType, hunknown, hunknown', Option.isSome_none, Bool.false_eq_true,
      if_false]
    exact redactReason_alike hs hs'
  | correlationId full hs hs' =>
    exact ⟨rfl, rfl, rfl, rfl, rfl, rfl, sanitizeText_alike hs hs', rfl⟩
  | metadata full before after hnode =>
    refine ⟨rfl, rfl, rfl, rfl, rfl, rfl, rfl, ?_⟩
    cases before with
    | nil => simp only [List.nil_append, redactMetadata, redactFields, hnode.redactNode_eq]
    | cons e before =>
      obtain ⟨k, v⟩ := e
      simp only [List.cons_append, redactMetadata, redactFields, redactFields_append,
        hnode.redactNode_eq]

theorem StoreAlike.echo {full full' : FullRequest} (h : StoreAlike env full full') :
    SameEcho env full full' := by
  cases h with
  | reason full hs hs' =>
    have hboth := iff_of_false (ne_empty_of_sensitive hs) (ne_empty_of_sensitive hs')
    exact ⟨checkFields_congr hboth .rfl rfl rfl, rfl, rfl, redactReason_alike hs hs', rfl, rfl, rfl,
      rfl⟩
  | idempotencyKey full hs hs' =>
    have hboth := iff_of_false (ne_empty_of_sensitive hs) (ne_empty_of_sensitive hs')
    exact ⟨checkFields_congr .rfl hboth rfl rfl, rfl, rfl, rfl, redactReason_alike hs hs', rfl, rfl,
      rfl⟩
  | requestedState full hs hs' =>
    exact ⟨rfl, rfl, rfl, rfl, rfl, sanitizeText_alike hs hs', rfl, rfl⟩

/-! ## Answered alike -/

/-- An answer without its generated id, of which only whether there is one is kept, and its time. -/
def ActionAnswer.upToIds (a : ActionAnswer) : ActionAnswer :=
  { a with response :=
      { a.response with actionId := a.response.actionId.map fun _ => 0, createdAt := 0 } }

/-- Whatever ids and times they are given, and whatever the registry holds, two requests are
answered alike up to ids and times. -/
def AnsweredAlike (env : Primitives) (store : List RedactedRecord) (persist : Bool)
    (full full' : FullRequest) : Prop :=
  ∀ (now now' : Instant) (newId newId' : Uuid) (registry : String → Option TenantRegistry),
    (evaluateFullRequest env now newId registry persist store full).2.upToIds =
      (evaluateFullRequest env now' newId' registry persist store full').2.upToIds

/-- Nothing is recorded under the key of a request. -/
def Unrecorded (store : List RedactedRecord) (full : FullRequest) : Prop :=
  ∀ r ∈ store, r.record.key ≠ full.request.rawKey

/-- The digest a request is recorded with. -/
def FullRequest.digest (env : Primitives) (full : FullRequest) : String :=
  fingerprint env full.request.actionType full.request.tenantId full.request.requestedState
    full.request.rawReason

/-- The store does not tell two requests apart. -/
def SameStored (env : Primitives) (store : List RedactedRecord) (full full' : FullRequest) : Prop :=
  (full.request.rawKey = full'.request.rawKey ∧ full.digest env = full'.digest env) ∨
    (Unrecorded store full ∧ Unrecorded store full')

theorem Unrecorded.find_eq_none {store : List RedactedRecord} {full : FullRequest}
    (h : Unrecorded store full) :
    (store.find? fun r => r.record.key = full.request.rawKey) = none :=
  List.find?_eq_none.mpr fun r hr => by simpa using h r hr

namespace SameEcho

variable {store : List RedactedRecord} {full full' : FullRequest}

theorem respond (h : SameEcho env full full') (now now' : Instant) (persist recording : Bool)
    (result : ActionResult) (sourceStatus : SourceStatus) :
    (answer persist (redactMetadata full.metadata)
        (full.request.respond env now recording result sourceStatus)).upToIds =
      (answer persist (redactMetadata full'.metadata)
        (full'.request.respond env now' recording result sourceStatus)).upToIds := by
  simp only [answer, ActionAnswer.upToIds, ActionRequest.respond, h.actionType, h.reason,
    h.idempotencyKey, h.requestedState, h.correlationId, h.metadata]

theorem accepted (h : SameEcho env full full') (now now' : Instant) (newId newId' : Uuid)
    (persist : Bool) (sourceStatus : SourceStatus) :
    (answer persist (redactMetadata full.metadata)
        { full.request.respond env now true .accepted sourceStatus with
          actionId := some newId }).upToIds =
      (answer persist (redactMetadata full'.metadata)
        { full'.request.respond env now' true .accepted sourceStatus with
          actionId := some newId' }).upToIds := by
  simp only [answer, ActionAnswer.upToIds, ActionRequest.respond, h.actionType, h.reason,
    h.idempotencyKey, h.requestedState, h.correlationId, h.metadata, Option.map_some]

/-- A duplicate echoes the record, and the key of the request. -/
theorem duplicate (h : SameEcho env full full') (persist : Bool) (existing : RedactedRecord) :
    answer persist existing.metadataRedacted (existing.record.duplicate env full.request) =
      answer persist existing.metadataRedacted (existing.record.duplicate env full'.request) := by
  simp only [ActionRecord.duplicate, h.idempotencyKey]

/-- Requests of one echo are answered alike, unless they are told apart by the store. -/
theorem answered (h : SameEcho env full full') {persist : Bool}
    (hstored : ∀ item, full.request.checkFields = .ok item → persist = true →
      SameStored env store full full') :
    AnsweredAlike env store persist full full' := by
  intro now now' newId newId' registry
  unfold evaluateFullRequest
  dsimp only
  rw [← h.checkFields, ← h.tenantId]
  cases hcheck : full.request.checkFields with
  | error denial => exact h.respond now now' persist persist _ _
  | ok item =>
    dsimp only
    split
    · exact h.respond now now' persist persist _ _
    · split
      · exact h.respond now now' persist false _ _
      · next hpersist =>
        rcases hstored item hcheck (by simpa using hpersist) with ⟨hkey, hdigest⟩ | ⟨hfree, hfree'⟩
        · rw [← hkey]
          cases store.find? fun r => r.record.key = full.request.rawKey with
          | none => exact h.accepted now now' newId newId' persist _
          | some existing =>
            unfold FullRequest.digest at hdigest
            rw [← h.tenantId] at hdigest
            dsimp only
            rw [← hdigest]
            split
            · exact congrArg ActionAnswer.upToIds (h.duplicate persist existing)
            · exact h.respond now now' persist true _ _
        · rw [hfree.find_eq_none, hfree'.find_eq_none]
          exact h.accepted now now' newId newId' persist _

end SameEcho

/-- A difference the store does not look at never shows. -/
theorem EchoAlike.answered {full full' : FullRequest} (h : EchoAlike env full full')
    (store : List RedactedRecord) (persist : Bool) :
    AnsweredAlike env store persist full full' := by
  refine h.echo.answered fun item hcheck _ => ?_
  cases h with
  | actionType full hs hs' =>
    -- a sensitive action is refused before the store is asked
    exfalso
    simp only [ActionRequest.checkFields, ofText?_of_sensitive hs] at hcheck
    obtain ⟨_, -, hcheck⟩ := bind_eq_ok.mp hcheck
    obtain ⟨_, -, hcheck⟩ := bind_eq_ok.mp hcheck
    obtain ⟨_, hitem, -⟩ := bind_eq_ok.mp hcheck
    cases hitem
  | correlationId full hs hs' => exact .inl ⟨rfl, rfl⟩
  | metadata full before after hnode => exact .inl ⟨rfl, rfl⟩

/-- A difference the store looks at does not show before anything is recorded. -/
theorem StoreAlike.answered {full full' : FullRequest} (h : StoreAlike env full full')
    {store : List RedactedRecord} {persist : Bool}
    (hfree : persist = false ∨ Unrecorded store full ∧ Unrecorded store full') :
    AnsweredAlike env store persist full full' := by
  refine h.echo.answered fun _ _ hpersist => ?_
  rcases hfree with hdry | hfree
  · rw [hdry] at hpersist
    cases hpersist
  · exact .inr hfree

/-! ## Redaction -/

end Actions

end Mpango
