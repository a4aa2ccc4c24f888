import Mpango.Model.ActionRedaction

/-!
# What the action requests leak

A sanitized text is clean of both patterns, and redacted metadata is clean of the sensitive values,
at every depth; the messages are clean as they stand. So every answer and every record is clean, and
a run keeps the records clean (`CleanStore.serveAll`).
-/

namespace Mpango

namespace Actions

variable {env : Primitives}

/-! ## The texts of a value -/

mutual

/-- The texts in a value, at any depth. -/
def values : Json → List String
  | .str s => [s]
  | .array xs => itemValues xs
  | .object fields => fieldValues fields
  | _ => []

def itemValues : List Json → List String
  | [] => []
  | v :: xs => values v ++ itemValues xs

def fieldValues : Metadata → List String
  | [] => []
  | (_, v) :: fields => values v ++ fieldValues fields

end

mutual

/-- The entries of the dictionaries in a value, at any depth. -/
def entries : Json → Metadata
  | .array xs => itemEntries xs
  | .object fields => fieldEntries fields
  | _ => []

def itemEntries : List Json → Metadata
  | [] => []
  | v :: xs => entries v ++ itemEntries xs

def fieldEntries : Metadata → Metadata
  | [] => []
  | (k, v) :: fields => (k, v) :: (entries v ++ fieldEntries fields)

end

/-! ## Redacted metadata -/

theorem sensitiveVal_redacted : Primitives.sensitiveVal.occurs "[redacted]" = false := by
  decide +kernel

theorem redactNode_keyed {key : Option String} (h : key.any sensitiveKey.occurs = true) (v : Json) :
    redactNode key v = .str "[redacted]" := by
  rw [redactNode.eq_def, if_pos h]

mutual

/-- No text in redacted metadata is sensitive. -/
theorem values_redactNode (key : Option String) (v : Json) :
    ∀ s ∈ values (redactNode key v), Primitives.sensitiveVal.occurs s = false := by
  intro s hs
  rw [redactNode.eq_def] at hs
  split at hs
  · rw [values, List.mem_singleton] at hs
    exact hs ▸ sensitiveVal_redacted
  · cases v with
    | str text =>
      dsimp only at hs
      split at hs
      · rw [values, List.mem_singleton] at hs
        exact hs ▸ sensitiveVal_redacted
      · next hclean =>
        rw [values, List.mem_singleton] at hs
        exact hs ▸ Bool.eq_false_iff.mpr hclean
    | array xs => exact itemValues_redactItems xs s hs
    | object fields => exact fieldValues_redactFields fields s hs
    | null => exact absurd hs List.not_mem_nil
    | bool b => exact absurd hs List.not_mem_nil
    | int n => exact absurd hs List.not_mem_nil
    | float spelling => exact absurd hs List.not_mem_nil

theorem itemValues_redactItems (xs : List Json) :
    ∀ s ∈ itemValues (redactItems xs), Primitives.sensitiveVal.occurs s = false := by
  intro s hs
  cases xs with
  | nil => exact absurd hs List.not_mem_nil
  | cons v xs =>
    rw [redactItems, itemValues, List.mem_append] at hs
    exact hs.elim (values_redactNode none v s) (itemValues_redactItems xs s)

theorem fieldValues_redactFields (fields : Metadata) :
    ∀ s ∈ fieldValues (redactFields fields), Primitives.sensitiveVal.occurs s = false := by
  intro s hs
  match fields with
  | [] => exact absurd hs List.not_mem_nil
  | (k, v) :: fields =>
    rw [redactFields, fieldValues, List.mem_append] at hs
    exact hs.elim (values_redactNode (some k) v s) (fieldValues_redactFields fields s)

end

mutual

/-- Under a sensitive key there is nothing else. -/
theorem entries_redactNode (key : Option String) (v : Json) :
    ∀ e ∈ entries (redactNode key v), sensitiveKey.occurs e.1 = true → e.2 = .str "[redacted]" := by
  intro e he
  rw [redactNode.eq_def] at he
  split at he
  · exact absurd he List.not_mem_nil
  · cases v with
    | str text =>
      dsimp only at he
      split at he
      · exact absurd he List.not_mem_nil
      · exact absurd he List.not_mem_nil
    | array xs => exact itemEntries_redactItems xs e he
    | object fields => exact fieldEntries_redactFields fields e he
    | null => exact absurd he List.not_mem_nil
    | bool b => exact absurd he List.not_mem_nil
    | int n => exact absurd he List.not_mem_nil
    | float spelling => exact absurd he List.not_mem_nil

theorem itemEntries_redactItems (xs : List Json) :
    ∀ e ∈ itemEntries (redactItems xs),
      sensitiveKey.occurs e.1 = true → e.2 = .str "[redacted]" := by
  intro e he
  cases xs with
  | nil => exact absurd he List.not_mem_nil
  | cons v xs =>
    rw [redactItems, itemEntries, List.mem_append] at he
    exact he.elim (entries_redactNode none v e) (itemEntries_redactItems xs e)

theorem fieldEntries_redactFields (fields : Metadata) :
    ∀ e ∈ fieldEntries (redactFields fields),
      sensitiveKey.occurs e.1 = true → e.2 = .str "[redacted]" := by
  intro e he
  match fields with
  | [] => exact absurd he List.not_mem_nil
  | (k, v) :: fields =>
    rw [redactFields, fieldEntries, List.mem_cons, List.mem_append] at he
    rcases he with rfl | he | he
    · intro hkey
      have hsome : (some k).any sensitiveKey.occurs = true := hkey
      exact redactNode_keyed hsome v
    · exact entries_redactNode (some k) v e he
    · exact fieldEntries_redactFields fields e he

end

/-- Metadata as it is echoed: no text at any depth carries a keyword or a scheme, and a dictionary
holds nothing under a sensitive key. -/
structure CleanMetadata (fields : Metadata) : Prop where
  values : ∀ s ∈ fieldValues fields, Primitives.sensitiveVal.occurs s = false
  keyed : ∀ e ∈ fieldEntries fields, sensitiveKey.occurs e.1 = true → e.2 = .str "[redacted]"

theorem redactMetadata_clean (metadata : Option Metadata) :
    ∀ fields, redactMetadata metadata = some fields → CleanMetadata fields := by
  intro fields hfields
  unfold redactMetadata at hfields
  split at hfields
  · cases hfields
  · cases hfields
  · obtain rfl := Option.some.inj hfields
    exact ⟨fieldValues_redactFields _, fieldEntries_redactFields _⟩

/-! ## Texts that are clean as they stand -/

/-- An ASCII text is judged by the ASCII classes. -/
theorem reasonIsSensitive_of_ascii {s : String} (h : s.toList.all (·.toNat < 128) = true) :
    env.reasonIsSensitive s = plainPrimitives.reasonIsSensitive s := by
  have hascii : ∀ c ∈ s.toList, c.toNat < 128 := fun c hc => by
    simpa using List.all_eq_true.mp h c hc
  have hdecimal : ∀ c : Char, c.toNat < 128 →
      env.classes.decimal c = plainPrimitives.classes.decimal c := fun c hc =>
    (env.classes.decimal_ascii c hc).trans (plainPrimitives.classes.decimal_ascii c hc).symm
  have hword : ∀ c : Char, c.toNat < 128 →
      env.classes.word c = plainPrimitives.classes.word c := fun c hc =>
    (env.classes.word_ascii c hc).trans (plainPrimitives.classes.word_ascii c hc).symm
  have hdigits : ∀ least most, (Pattern.run env.classes.decimal least most).Agree
      (fun c => c.toNat < 128) (.run plainPrimitives.classes.decimal least most) :=
    fun _ _ => ⟨hdecimal, rfl, rfl⟩
  have hpattern : env.hostPort.Agree (fun c => c.toNat < 128) plainPrimitives.hostPort := by
    have hgroup := hdigits 1 (some 3)
    refine ⟨⟨hword, hgroup, ⟨.refl _, hgroup⟩, ⟨.refl _, hgroup⟩, ⟨.refl _, hgroup⟩,
      ⟨.refl _, hdigits 2 (some 5)⟩, hword⟩, ?_⟩
    exact ⟨hword, .refl _, .refl _, .refl _, .refl _, hdigits 2 (some 5), hword⟩
  unfold Primitives.reasonIsSensitive
  rw [Pattern.occurs_congr hpattern hascii]

/-- A text of the code without digits is judged by its words. -/
theorem words_clean {s : String} (h : (s.toList.all fun c => c.toNat < 128 ∧ !c.isDigit) = true)
    (hwords : Primitives.sensitiveVal.occurs s = false) : env.reasonIsSensitive s = false := by
  rw [env.reasonIsSensitive_of_no_digit (env.decimal_eq_false h), hwords, Bool.and_false]

theorem redacted_clean : env.reasonIsSensitive "[redacted]" = false :=
  words_clean (by decide +kernel) sensitiveVal_redacted

/-- A sanitized text is clean. -/
theorem redactReason_clean (s : String) : env.reasonIsSensitive (env.redactReason s) = false := by
  unfold Primitives.redactReason
  split
  · exact redacted_clean
  · next h => exact Bool.eq_false_iff.mpr h

theorem actionType_clean (a : ActionType) : env.reasonIsSensitive a.text = false := by
  rw [← env.redactReason_actionType a]
  exact redactReason_clean a.text

theorem sanitizeActionType_clean (s : String) :
    env.reasonIsSensitive (sanitizeActionType env s) = false := by
  unfold sanitizeActionType
  split
  · next h =>
    obtain ⟨a, ha⟩ := Option.isSome_iff_exists.mp h
    have hfind : ActionType.catalog.find? (fun a => a.text = s) = some a := ha
    have htext : a.text = s := by simpa using List.find?_some hfind
    exact htext ▸ actionType_clean a
  · exact redactReason_clean s

/-- The same, of a text that is spelt out. -/
theorem letters_clean {s : String} {cs : List Char} (hs : s.toList = cs)
    (h : ((cs.all fun c => c.toNat < 128 ∧ !c.isDigit) &&
      !Primitives.sensitiveVal.occursFrom none cs) = true) : env.reasonIsSensitive s = false := by
  subst hs
  rw [Bool.and_eq_true, Bool.not_eq_true'] at h
  exact words_clean h.1 h.2

theorem append_toList {s s' : String} {cs cs' : List Char} (hs : s.toList = cs)
    (hs' : s'.toList = cs') : (s ++ s').toList = cs ++ cs' := by
  rw [String.toList_append, hs, hs']

theorem message_clean (persist : Bool) (result : ActionResult) :
    env.reasonIsSensitive (result.message persist) = false := by
  cases result with
  | accepted =>
    cases persist with
    | true =>
      exact letters_clean (append_toList String.toList_ofList String.toList_ofList)
        (by decide +kernel)
    | false =>
      exact letters_clean (append_toList String.toList_ofList String.toList_ofList)
        (by decide +kernel)
  | denied denial =>
    cases denial with
    | unsupportedActionType =>
      -- the one message with digits: the name of the catalogue
      show env.reasonIsSensitive Denial.unsupportedActionType.message = false
      rw [reasonIsSensitive_of_ascii (by decide +kernel)]
      decide +kernel
    | unreadableSource =>
      exact letters_clean (append_toList String.toList_ofList String.toList_ofList)
        (by decide +kernel)
    | _ => exact letters_clean String.toList_ofList (by decide +kernel)
  | degraded =>
    exact letters_clean (append_toList String.toList_ofList String.toList_ofList)
      (by decide +kernel)
  | conflict =>
    exact letters_clean (append_toList String.toList_ofList String.toList_ofList)
      (by decide +kernel)
  | duplicate =>
    exact letters_clean (append_toList
      (append_toList String.toList_ofList String.toList_ofList) String.toList_ofList)
        (by decide +kernel)

/-- The names of the results and of the source statuses, and the sentences about the latter. -/
theorem names_clean (result : ActionResult) (sourceStatus : SourceStatus) :
    env.reasonIsSensitive result.text = false ∧
      env.reasonIsSensitive (sourceStatusText sourceStatus) = false ∧
      env.reasonIsSensitive
        s!"Source status is '{sourceStatusText sourceStatus}'; degraded read only." = false := by
  refine ⟨?_, ?_, ?_⟩
  · cases result with
    | denied _ =>
      show env.reasonIsSensitive "denied" = false
      exact letters_clean String.toList_ofList (by decide +kernel)
    | _ => exact letters_clean String.toList_ofList (by decide +kernel)
  · cases sourceStatus <;> exact letters_clean String.toList_ofList (by decide +kernel)
  · cases sourceStatus <;>
      exact letters_clean (append_toList
        (append_toList String.toList_ofList String.toList_ofList) String.toList_ofList)
          (by decide +kernel)

theorem degradedReason_clean {sourceStatus : SourceStatus} {result : ActionResult} {s : String}
    (h : degradedReason sourceStatus result = some s) : env.reasonIsSensitive s = false := by
  unfold degradedReason at h
  split at h
  · obtain rfl := Option.some.inj h
    exact (names_clean .degraded sourceStatus).2.2
  · cases h

theorem sanitizeText_clean {value : Option String} {s : String}
    (h : env.sanitizeText value = some s) : env.reasonIsSensitive s = false := by
  obtain ⟨raw, -, rfl⟩ := Option.map_eq_some_iff.mp h
  exact redactReason_clean raw

/-! ## Answers and records -/

-- from here on the patterns are never unfolded
attribute [local irreducible] Primitives.reasonIsSensitive

/-- The texts of an answer outside its metadata, but for the generated id and the time. -/
def ActionAnswer.texts (a : ActionAnswer) : List String :=
  [a.response.actionType, a.response.result.text, a.message, a.response.reason,
      a.response.idempotencyKey, sourceStatusText a.response.sourceStatus] ++
    a.response.requestedState.toList ++ a.degradedReason.toList ++ a.response.correlationId.toList

/-- The texts of a record outside its metadata, but for the tenant it is about, its digest, the
generated id and the time. -/
def RedactedRecord.texts (r : RedactedRecord) : List String :=
  [r.record.actionType.text, r.record.reason, r.record.idempotencyKey,
      sourceStatusText r.record.sourceStatus] ++
    r.record.requestedState.toList ++ r.record.correlationId.toList

/-- Texts and metadata that leak nothing. -/
structure Clean (env : Primitives) (texts : List String) (metadata : Option Metadata) : Prop where
  texts : ∀ s ∈ texts, env.reasonIsSensitive s = false
  metadata : ∀ fields, metadata = some fields → CleanMetadata fields

def CleanRecord (env : Primitives) (r : RedactedRecord) : Prop :=
  Clean env r.texts r.metadataRedacted

def CleanAnswer (env : Primitives) (a : ActionAnswer) : Prop :=
  Clean env a.texts a.metadataRedacted

/-- The texts of a response that are the client's. -/
structure CleanResponse (env : Primitives) (r : ActionResponse) : Prop where
  actionType : env.reasonIsSensitive r.actionType = false
  reason : env.reasonIsSensitive r.reason = false
  idempotencyKey : env.reasonIsSensitive r.idempotencyKey = false
  requestedState : ∀ s, r.requestedState = some s → env.reasonIsSensitive s = false
  correlationId : ∀ s, r.correlationId = some s → env.reasonIsSensitive s = false

/-- An answer is clean if what it says of the client is, and its message. -/
theorem CleanResponse.answer {a : ActionAnswer} (h : CleanResponse env a.response)
    (hmessage : env.reasonIsSensitive a.message = false)
    (hdegraded : ∀ s, a.degradedReason = some s → env.reasonIsSensitive s = false)
    (hmetadata : ∀ fields, a.metadataRedacted = some fields → CleanMetadata fields) :
    CleanAnswer env a := by
  refine ⟨fun s hs => ?_, hmetadata⟩
  simp only [ActionAnswer.texts, List.mem_append, List.mem_cons, List.not_mem_nil, or_false,
    Option.mem_toList] at hs
  rcases hs with ((((rfl | rfl | rfl | rfl | rfl | rfl) | hs) | hs) | hs)
  · exact h.actionType
  · exact (names_clean _ .available).1
  · exact hmessage
  · exact h.reason
  · exact h.idempotencyKey
  · exact (names_clean .accepted _).2.1
  · exact h.requestedState s hs
  · exact hdegraded s hs
  · exact h.correlationId s hs

theorem respond_clean (req : ActionRequest) (now : Instant) (persist : Bool) (result : ActionResult)
    (sourceStatus : SourceStatus) :
    CleanResponse env (req.respond env now persist result sourceStatus) where
  actionType := sanitizeActionType_clean req.actionType
  reason := redactReason_clean req.rawReason
  idempotencyKey := redactReason_clean req.rawKey
  requestedState _ h := sanitizeText_clean h
  correlationId _ h := sanitizeText_clean h

/-- The generated id is no text of the client. -/
theorem CleanResponse.withActionId {r : ActionResponse} (h : CleanResponse env r)
    (actionId : Option Uuid) : CleanResponse env { r with actionId := actionId } :=
  ⟨h.actionType, h.reason, h.idempotencyKey, h.requestedState, h.correlationId⟩

theorem answer_clean {response : ActionResponse} (h : CleanResponse env response) (persist : Bool)
    {metadata : Option Metadata}
    (hmetadata : ∀ fields, metadata = some fields → CleanMetadata fields) :
    CleanAnswer env (answer persist metadata response) :=
  h.answer (message_clean persist response.result) (fun _ hs => degradedReason_clean hs) hmetadata

/-- What a record says of the client. -/
theorem CleanRecord.texts {r : RedactedRecord} (h : CleanRecord env r) :
    env.reasonIsSensitive r.record.reason = false ∧
      env.reasonIsSensitive r.record.idempotencyKey = false ∧
      (∀ s, r.record.requestedState = some s → env.reasonIsSensitive s = false) ∧
      ∀ s, r.record.correlationId = some s → env.reasonIsSensitive s = false := by
  refine ⟨h.1 _ ?_, h.1 _ ?_, fun s hs => h.1 s ?_, fun s hs => h.1 s ?_⟩
  · simp [RedactedRecord.texts]
  · simp [RedactedRecord.texts]
  · simp [RedactedRecord.texts, hs]
  · simp [RedactedRecord.texts, hs]

theorem CleanRecord.duplicate {r : RedactedRecord} (h : CleanRecord env r) (req : ActionRequest) :
    CleanResponse env (r.record.duplicate env req) where
  actionType := actionType_clean r.record.actionType
  reason := h.texts.1
  idempotencyKey := redactReason_clean req.rawKey
  requestedState := h.texts.2.2.1
  correlationId := h.texts.2.2.2

theorem CleanRecord.readBack {r : RedactedRecord} (h : CleanRecord env r) {message : String}
    (hmessage : env.reasonIsSensitive message = false) : CleanAnswer env (r.readBack message) := by
  have hresponse : CleanResponse env (r.readBack message).response :=
    { actionType := actionType_clean r.record.actionType
      reason := h.texts.1
      idempotencyKey := h.texts.2.1
      requestedState := h.texts.2.2.1
      correlationId := h.texts.2.2.2 }
  exact hresponse.answer hmessage (fun _ hs => nomatch hs) h.2

theorem recorded_clean (req : ActionRequest) (now : Instant) (newId : Uuid) (item : ActionType)
    (metadata : Option Metadata) :
    CleanRecord env ⟨req.recorded env now newId item, redactMetadata metadata⟩ := by
  refine ⟨fun s hs => ?_, redactMetadata_clean metadata⟩
  simp only [RedactedRecord.texts, List.mem_append, List.mem_cons, List.not_mem_nil, or_false,
    Option.mem_toList] at hs
  rcases hs with ((rfl | rfl | rfl | rfl) | hs) | hs
  · exact actionType_clean item
  · exact redactReason_clean req.rawReason
  · exact redactReason_clean req.rawKey
  · exact (names_clean .accepted _).2.1
  · exact sanitizeText_clean hs
  · exact sanitizeText_clean hs

/-! ## The requests without their metadata -/

/-- Metadata and messages aside, a request is evaluated and recorded as it is without them. -/
theorem evaluateFullRequest_forget (now : Instant) (newId : Uuid)
    (registry : String → Option TenantRegistry) (persist : Bool) (store : List RedactedRecord)
    (full : FullRequest) :
    ((evaluateFullRequest env now newId registry persist store full).1.map (·.record),
        (evaluateFullRequest env now newId registry persist store full).2.response) =
      evaluateRequest env now newId registry persist (store.map (·.record)) full.request := by
  have hget : ActionStore.get (store.map (·.record)) full.request.rawKey =
      (store.find? fun r => r.record.key = full.request.rawKey).map (·.record) := List.find?_map ..
  unfold evaluateFullRequest evaluateRequest
  dsimp only
  cases full.request.checkFields with
  | error denial => rfl
  | ok item =>
    dsimp only
    split
    · rfl
    · split
      · rfl
      · rw [hget]
        cases store.find? fun r => r.record.key = full.request.rawKey with
        | none =>
          simp only [Option.map_none, List.map_append, List.map_cons, List.map_nil]
          rfl
        | some existing =>
          simp only [Option.map_some]
          split
          · rfl
          · rfl

/-! ## Runs -/

def CleanStore (env : Primitives) (store : List RedactedRecord) : Prop :=
  ∀ r ∈ store, CleanRecord env r

section Runs
variable {store : List RedactedRecord}

/-- An evaluated request is answered, and recorded, clean. -/
theorem CleanStore.evaluate (hstore : CleanStore env store) (now : Instant) (newId : Uuid)
    (registry : String → Option TenantRegistry) (persist : Bool) (full : FullRequest) :
    CleanStore env (evaluateFullRequest env now newId registry persist store full).1 ∧
      CleanAnswer env (evaluateFullRequest env now newId registry persist store full).2 := by
  have hmetadata := redactMetadata_clean full.metadata
  have hrespond : ∀ recording result sourceStatus, CleanAnswer env
      (answer persist (redactMetadata full.metadata)
        (full.request.respond env now recording result sourceStatus)) :=
    fun _ _ _ => answer_clean (respond_clean ..) persist hmetadata
  unfold evaluateFullRequest
  dsimp only
  split
  · exact ⟨hstore, hrespond ..⟩
  · split
    · exact ⟨hstore, hrespond ..⟩
    · split
      · exact ⟨hstore, hrespond ..⟩
      · split
        · next existing hfind =>
          have hexisting : CleanRecord env existing := hstore _ (List.mem_of_find?_eq_some hfind)
          split
          · exact ⟨hstore, answer_clean (hexisting.duplicate _) _ hexisting.metadata⟩
          · exact ⟨hstore, hrespond ..⟩
        · constructor
          · intro r hr
            rcases List.mem_append.mp hr with hr | hr
            · exact hstore r hr
            · exact List.mem_singleton.mp hr ▸ recorded_clean _ _ _ _ _
          · exact answer_clean ((respond_clean ..).withActionId _) persist hmetadata

/-- The messages of the two reads. -/
theorem readMessages_clean :
    env.reasonIsSensitive
      ("Recorded request (ephemeral in-memory store). The action was NOT " ++
        "executed; no registry / lifecycle / flag / provisioning / backup " ++
        "state was changed.") = false ∧
    env.reasonIsSensitive
      ("Recorded request (ephemeral in-memory queue). The action was NOT " ++
        "executed; no registry / lifecycle / flag / provisioning / backup " ++
        "state was changed.") = false := by
  constructor <;>
    exact letters_clean (append_toList (append_toList String.toList_ofList String.toList_ofList)
      String.toList_ofList) (by decide +kernel)

theorem stored_clean (store : List RedactedRecord) (hstore : CleanStore env store)
    {actionId : String} {a : ActionAnswer} (h : getStoredRequest store actionId = some a) :
    CleanAnswer env a := by
  obtain ⟨r, hr, rfl⟩ := Option.map_eq_some_iff.mp h
  exact (hstore r (List.mem_of_find?_eq_some hr)).readBack readMessages_clean.1

theorem listed_clean (store : List RedactedRecord) (hstore : CleanStore env store)
    {limit offset : ℤ} {a : ActionAnswer} (h : a ∈ listStoredRequests store limit offset) :
    CleanAnswer env a := by
  obtain ⟨r, hr, rfl⟩ := List.mem_map.mp h
  have hrecorded : r ∈ store :=
    (List.perm_insertionSort _ store).mem_iff.mp (List.mem_of_mem_drop (List.mem_of_mem_take hr))
  exact (hstore r hrecorded).readBack readMessages_clean.2

attribute [local irreducible] evaluateFullRequest

/-- A call keeps the records clean, and is answered so. -/
theorem CleanStore.serve (hstore : CleanStore env store) (c : Call) :
    CleanStore env (serve env store c).1 ∧ ∀ a ∈ (serve env store c).2, CleanAnswer env a := by
  cases c with
  | submit now newId registry persist full =>
    obtain ⟨hkept, hanswer⟩ := hstore.evaluate now newId registry persist full
    refine ⟨hkept, fun a ha => ?_⟩
    rw [List.mem_singleton.mp ha]
    exact hanswer
  | status actionId =>
    exact ⟨hstore, fun a ha => stored_clean store hstore (Option.mem_toList.mp ha)⟩
  | queue limit offset => exact ⟨hstore, fun a ha => listed_clean store hstore ha⟩

theorem CleanStore.serveAll (hstore : CleanStore env store) (calls : List Call) :
    CleanStore env (serveAll env store calls).1 ∧
      ∀ a ∈ (serveAll env store calls).2, CleanAnswer env a := by
  induction calls generalizing store with
  | nil => exact ⟨hstore, fun a ha => absurd ha List.not_mem_nil⟩
  | cons c calls ih =>
    obtain ⟨hkept, hanswers⟩ := hstore.serve c
    obtain ⟨hlast, hrest⟩ := ih hkept
    refine ⟨hlast, fun a ha => ?_⟩
    rcases List.mem_append.mp ha with ha | ha
    · exact hanswers a ha
    · exact hrest a ha

end Runs

end Actions

end Mpango
