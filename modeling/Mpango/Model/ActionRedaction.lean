import Mpango.Library.Json
import Mpango.Model.ActionRequests

/-!
# What an action request echoes

The rest of `p18/services.py`: the metadata of a request, the messages of the answers, and the two
reads of the recorded requests. Nothing of a request is echoed but through a sanitizer: texts are
replaced as a whole, and metadata is redacted node by node, by the key of a node and by its value.
-/

namespace Mpango

namespace Actions

/-- A dictionary of a request body. -/
abbrev Metadata := List (String × Json)

/-! ## Redacting metadata -/

/-- `_SENSITIVE_KEY`. -/
def sensitiveKey : Pattern :=
  let either := Pattern.opt (.one fun c => c = '_' ∨ c = '-')
  .any [.literal "password", .literal "passwd", .literal "secret", .literal "token",
    .all [.literal "api", either, .literal "key"],
    .all [.literal "access", either, .literal "key"],
    .literal "credential", .literal "dsn", .literal "host", .literal "port", .literal "url",
    .literal "uri", .literal "connection", .literal "string",
    .all [.literal "private", either, .literal "key"]]

mutual

/-- `_redact_node`. -/
def redactNode (key : Option String) (value : Json) : Json :=
  if key.any sensitiveKey.occurs then .str "[redacted]"
  else
    match value with
    | .str s => if Primitives.sensitiveVal.occurs s then .str "[redacted]" else .str s
    | .object fields => .object (redactFields fields)
    | .array xs => .array (redactItems xs)
    | value => value

def redactFields : Metadata → Metadata
  | [] => []
  | (k, v) :: fields => (k, redactNode (some k) v) :: redactFields fields

def redactItems : List Json → List Json
  | [] => []
  | v :: xs => redactNode none v :: redactItems xs

end

/-- `redact_metadata`. -/
def redactMetadata : Option Metadata → Option Metadata
  | none | some [] => none
  | some fields => some (redactFields fields)

/-! ## Messages -/

def Denial.message : Denial → String
  | .reasonRequired => "Denied: a non-empty reason is required for every controlled action."
  | .keyRequired => "Denied: an idempotency_key is required for every controlled action."
  | .unsupportedActionType =>
    "Denied: unsupported action_type; it is not in the P18-A catalog."
  | .confirmationRequired =>
    "Denied: this action requires explicit confirmation (confirm=true)."
  | .unreadableSource =>
    "Denied: registry source is unknown/unavailable; write and " ++
      "write_request actions are not accepted against an unreadable source."
  | .degradedNotPermitted =>
    "Denied: source unavailable for this action and degraded read is not permitted."

def ActionResult.message (persist : Bool) : ActionResult → String
  | .denied denial => denial.message
  | .degraded =>
    "Degraded: source unavailable; the request was accepted as a " ++
      "degraded read. No state changed and no execution was performed."
  | .duplicate =>
    "Duplicate: idempotency_key already recorded with an " ++
      "identical request; the original result is returned and the " ++
      "action was NOT re-executed."
  | .conflict =>
    "Conflict: idempotency_key already recorded with a different " ++
      "request payload; the request is rejected and NOT executed."
  | .accepted =>
    if persist then
      "Accepted: the request was recorded and audited, NOT executed. No " ++
        "registry, lifecycle, flag, provisioning, or backup state was changed."
    else
      "Accepted (dry run): the request is valid and would be recorded. Nothing " ++
        "was persisted and the action was NOT executed."

def ActionResult.text : ActionResult → String
  | .accepted => "accepted"
  | .denied _ => "denied"
  | .degraded => "degraded"
  | .duplicate => "duplicate"
  | .conflict => "conflict"

def sourceStatusText : SourceStatus → String
  | .available => "available"
  | .unavailable => "unavailable"
  | .unknown => "unknown"

/-- `degraded_reason`, which only a degraded answer has. -/
def degradedReason (sourceStatus : SourceStatus) : ActionResult → Option String
  | .degraded => some s!"Source status is '{sourceStatusText sourceStatus}'; degraded read only."
  | _ => none

/-! ## Requests with their metadata -/

structure FullRequest where
  request : ActionRequest
  metadata : Option Metadata

/-- `_StoredRequest`. -/
structure RedactedRecord where
  record : ActionRecord
  metadataRedacted : Option Metadata

/-- `ActionRequestResponse`. -/
structure ActionAnswer where
  response : ActionResponse
  message : String
  degradedReason : Option String
  metadataRedacted : Option Metadata

variable (env : Primitives)

/-- `_make_response`, from what `evaluate_request` passes on. -/
def answer (persist : Bool) (metadataRedacted : Option Metadata) (response : ActionResponse) :
    ActionAnswer where
  response
  message := response.result.message persist
  degradedReason := degradedReason response.sourceStatus response.result
  metadataRedacted

/-- `evaluate_request`, with the metadata and the messages. -/
def evaluateFullRequest (now : Instant) (newId : Uuid) (registry : String → Option TenantRegistry)
    (persist : Bool) (store : List RedactedRecord) (full : FullRequest) :
    List RedactedRecord × ActionAnswer :=
  let req := full.request
  let redactedMd := redactMetadata full.metadata
  match req.checkFields with
  | .error denial =>
    (store, answer persist redactedMd (req.respond env now persist (.denied denial) .unknown))
  | .ok item =>
    let context := ActionStore.context (store.map (·.record)) registry
    let sourceStatus := context.resolveActionSourceStatus item req.tenantId
    if sourceStatus ≠ .available then
      (store, answer persist redactedMd
        (req.respond env now persist (ActionRequest.unavailableResult item) sourceStatus))
    else if persist = false then
      (store, answer persist redactedMd (req.respond env now false .accepted sourceStatus))
    else match store.find? fun r => r.record.key = req.rawKey with
      | some existing =>
        if existing.record.fingerprint =
            fingerprint env req.actionType req.tenantId req.requestedState req.rawReason then
          (store, answer persist existing.metadataRedacted (existing.record.duplicate env req))
        else (store, answer persist redactedMd (req.respond env now true .conflict sourceStatus))
      | none =>
        (store ++ [⟨req.recorded env now newId item, redactedMd⟩],
          answer persist redactedMd
            { req.respond env now true .accepted sourceStatus with actionId := some newId })

/-! ## Reading the recorded requests -/

/-- The answer that is rebuilt from a record. -/
def RedactedRecord.readBack (message : String) (r : RedactedRecord) : ActionAnswer where
  response := {
    result := .accepted
    actionId := some r.record.actionId
    actionType := r.record.actionType.text
    reason := r.record.reason
    idempotencyKey := r.record.idempotencyKey
    requestedState := r.record.requestedState
    sourceStatus := r.record.sourceStatus
    dryRun := false
    correlationId := r.record.correlationId
    createdAt := r.record.createdAt }
  message
  degradedReason := none
  metadataRedacted := r.metadataRedacted

/-- `get_stored_request`. -/
def getStoredRequest (store : List RedactedRecord) (actionId : String) : Option ActionAnswer :=
  (store.find? fun r => r.record.actionId.text = actionId).map (RedactedRecord.readBack
    ("Recorded request (ephemeral in-memory store). The action was NOT " ++
      "executed; no registry / lifecycle / flag / provisioning / backup " ++
      "state was changed."))

/-- `list_stored_requests`: the latest first, of one time in the order they were recorded. -/
def listStoredRequests (store : List RedactedRecord) (limit offset : ℤ) : List ActionAnswer :=
  let safeLimit := max 1 (min limit 100)
  let safeOffset := max 0 offset
  let records := store.insertionSort fun r s => s.record.createdAt ≤ r.record.createdAt
  ((records.drop safeOffset.toNat).take safeLimit.toNat).map (RedactedRecord.readBack
    ("Recorded request (ephemeral in-memory queue). The action was NOT " ++
      "executed; no registry / lifecycle / flag / provisioning / backup " ++
      "state was changed."))

/-! ## Calls -/

/-- A call of the module. -/
inductive Call
  | submit (now : Instant) (newId : Uuid) (registry : String → Option TenantRegistry)
      (persist : Bool) (full : FullRequest)
  | status (actionId : String)
  | queue (limit offset : ℤ)

/-- The records a call leaves, and its answers. -/
def serve (store : List RedactedRecord) : Call → List RedactedRecord × List ActionAnswer
  | .submit now newId registry persist full =>
    match evaluateFullRequest env now newId registry persist store full with
    | (store', answered) => (store', [answered])
  | .status actionId => (store, (getStoredRequest store actionId).toList)
  | .queue limit offset => (store, listStoredRequests store limit offset)

/-- The records and the answers of the calls served one after the other. -/
def serveAll (store : List RedactedRecord) : List Call → List RedactedRecord × List ActionAnswer
  | [] => (store, [])
  | c :: calls =>
    match serve env store c with
    | (store', answers) =>
      match serveAll store' calls with
      | (store'', rest) => (store'', answers ++ rest)

end Actions

end Mpango
