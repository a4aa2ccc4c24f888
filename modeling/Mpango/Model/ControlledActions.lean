import Mpango.Library.Pattern
import Mpango.Library.Text

/-!
# Controlled actions

What the approval modules take from `p18/services.py`: the closed catalog of actions, the status of
the registry source an action is about, the recorded action requests, and the redaction of texts.

`Primitives` is what the code takes from the Python library: the character classes of its regular
expressions and SHA-256.
-/

namespace Mpango

/-- A moment, in microseconds of UTC (`_utc` reads a naive time as UTC). -/
abbrev Instant := ℤ

structure Primitives where
  classes : CharClasses
  sha256 : String → String

/-- ASCII texts, and digests that keep the text. -/
def plainPrimitives : Primitives := ⟨CharClasses.ascii, id⟩

/-- `"|".join([... or ""])`. -/
def barJoin (parts : List String) : String := "|".intercalate parts

/-- An optional text that counts as absent when empty, as in `value or ""`. -/
def orEmpty (value : Option String) : String := value.getD ""

/-- `if not value`, for an optional text. -/
def isAbsent (value : Option String) : Bool := orEmpty value = ""

inductive ActionType
  | supportModeOn
  | supportModeOff
  | tenantPause
  | tenantResume
  | incidentFlagSet
  | incidentFlagClear
  | provisioningRecheck
  | backupCheck
  | backupRestoreTestRequest
  | lifecycleTransition
  deriving DecidableEq

inductive ActionClassification
  | read
  | write
  | writeRequest
  deriving DecidableEq

namespace ActionType

def text : ActionType → String
  | supportModeOn => "support_mode.on"
  | supportModeOff => "support_mode.off"
  | tenantPause => "tenant.pause"
  | tenantResume => "tenant.resume"
  | incidentFlagSet => "incident.flag_set"
  | incidentFlagClear => "incident.flag_clear"
  | provisioningRecheck => "provisioning.recheck"
  | backupCheck => "backup.check"
  | backupRestoreTestRequest => "backup.restore_test_request"
  | lifecycleTransition => "lifecycle.transition"

/-- `_CATALOG`, in its order. -/
def catalog : List ActionType :=
  [supportModeOn, supportModeOff, tenantPause, tenantResume, incidentFlagSet, incidentFlagClear,
    provisioningRecheck, backupCheck, backupRestoreTestRequest, lifecycleTransition]

/-- `_CATALOG_BY_TYPE.get(action_type)`. -/
def ofText? (s : String) : Option ActionType := catalog.find? fun a => a.text = s

def classification : ActionType → ActionClassification
  | provisioningRecheck => .read
  | backupCheck => .read
  | backupRestoreTestRequest => .writeRequest
  | _ => .write

theorem ofText?_text (a : ActionType) : ofText? a.text = some a := by
  cases a <;> decide

theorem text_ne_empty (a : ActionType) : a.text ≠ "" := by
  cases a <;> decide

theorem text_injective {a b : ActionType} (h : a.text = b.text) : a = b := by
  have hb : ofText? a.text = some b := h ▸ ofText?_text b
  rw [ofText?_text] at hb
  exact Option.some.inj hb

end ActionType

/-! ## The registry source -/

inductive SourceStatus
  | available
  | unavailable
  | unknown
  deriving DecidableEq

/-- What `_action_source_status` reads of a tenant's registry. -/
structure TenantRegistry where
  stateSourceStatus : SourceStatus
  flagsSourceStatus : SourceStatus
  provisioningSourceStatus : Option SourceStatus
  backupSourceStatus : Option SourceStatus

def actionSourceStatus (actionType : ActionType) (registry : TenantRegistry) : SourceStatus :=
  match actionType with
  | .tenantPause | .tenantResume | .lifecycleTransition => registry.stateSourceStatus
  | .supportModeOn | .supportModeOff | .incidentFlagSet | .incidentFlagClear =>
    registry.flagsSourceStatus
  | .provisioningRecheck => registry.provisioningSourceStatus.getD .unavailable
  | .backupCheck | .backupRestoreTestRequest => registry.backupSourceStatus.getD .unavailable

/-- A recorded action request: its action and the source status it was accepted with. -/
structure StoredRequest where
  actionId : Uuid
  actionType : ActionType
  sourceStatus : SourceStatus
  deriving DecidableEq

/-- The state of the actions module while one approval request is served: its recorded requests,
and what a read of a tenant's registry gives (`none` when there is none or the read fails). -/
structure ActionContext where
  requests : List StoredRequest
  registry : String → Option TenantRegistry

namespace ActionContext

def resolveActionSourceStatus (ctx : ActionContext) (actionType : ActionType)
    (tenantId : Option String) : SourceStatus :=
  match tenantId with
  | none => .unknown
  | some tenantId =>
    if tenantId = "" then .unknown
    else ((ctx.registry tenantId).map (actionSourceStatus actionType)).getD .unknown

/-- `get_stored_request`: the store is keyed by the text of the generated id. -/
def getStoredRequest (ctx : ActionContext) (actionId : String) : Option StoredRequest :=
  ctx.requests.find? fun r => r.actionId.text = actionId

/-- `_resolve_p18_context`: the action and the status of its source. The class is the catalog's. -/
def resolve (ctx : ActionContext) (actionId actionType tenantId : Option String) :
    Option (ActionType × SourceStatus) :=
  if !isAbsent actionId then
    (ctx.getStoredRequest (orEmpty actionId)).map fun r => (r.actionType, r.sourceStatus)
  else do
    let item ← ActionType.ofText? (orEmpty actionType)
    some (item, ctx.resolveActionSourceStatus item tenantId)

/-- An action id that resolves is the text of a generated id. -/
theorem parse_of_resolve {ctx : ActionContext} {actionId actionType tenantId : Option String}
    {res : ActionType × SourceStatus} (h : ctx.resolve actionId actionType tenantId = some res)
    (hid : isAbsent actionId = false) : ∃ u : Uuid, orEmpty actionId = u.text := by
  rw [resolve, hid] at h
  obtain ⟨r, hr, -⟩ := Option.map_eq_some_iff.mp h
  have htext := List.find?_some hr
  exact ⟨r.actionId, (of_decide_eq_true htext).symm⟩

end ActionContext

/-! ## Redaction -/

namespace Primitives

variable (env : Primitives)

/-- The alternatives of `_SENSITIVE_VAL`. -/
def sensitiveVal : Pattern :=
  .any [.literal "password", .literal "passwd", .literal "secret", .literal "token",
    .all [.literal "api", .opt (.one fun c => c = '_' ∨ c = '-'), .literal "key"],
    .all [.literal "access", .opt (.one fun c => c = '_' ∨ c = '-'), .literal "key"],
    .literal "credential", .literal "dsn",
    .all [.literal "postgres", .opt (.literal "ql"), .literal "://"],
    .literal "mysql://",
    .all [.literal "mongodb", .opt (.literal "+srv"), .literal "://"],
    .literal "redis://", .literal "amqp://", .literal "://", .literal "@"]

/-- `[a-z]`, ignoring case. -/
def isLatin (c : Char) : Bool := 'a' ≤ Pattern.foldCase c ∧ Pattern.foldCase c ≤ 'z'

/-- `[a-z0-9]`, ignoring case. -/
def isLatinOrDigit (c : Char) : Bool := isLatin c || c.isDigit

/-- `_HOST_PORT`. -/
def hostPort : Pattern :=
  let digits (least most : ℕ) := Pattern.run env.classes.decimal least (some most)
  let group := Pattern.all [.literal ".", digits 1 3]
  .alt
    (.all [.edge env.classes.word, digits 1 3, group, group, group,
      .opt (.all [.literal ":", digits 2 5]), .edge env.classes.word])
    (.all [.edge env.classes.word, .one isLatin,
      .run (fun c => isLatinOrDigit c ∨ c = '.' ∨ c = '-') 0 none, .one isLatinOrDigit,
      .literal ":", digits 2 5, .edge env.classes.word])

/-- `_reason_is_sensitive`. -/
def reasonIsSensitive (reason : String) : Bool :=
  reason ≠ "" && (sensitiveVal.occurs reason || env.hostPort.occurs reason)

/-- `_redact_reason`. -/
def redactReason (reason : String) : String :=
  if env.reasonIsSensitive reason then "[redacted]" else reason

/-- `_sanitize_text`. -/
def sanitizeText (value : Option String) : Option String := value.map env.redactReason

/-- A host or an address takes a digit. -/
theorem hostPort_needs : env.hostPort.Needs env.classes.decimal := by
  refine ⟨?_, ?_⟩
  · exact .inr (.inl ⟨Nat.one_pos, fun _ h => h⟩)
  · exact .inr (.inr (.inr (.inr (.inr (.inl ⟨by decide, fun _ h => h⟩)))))

/-- A text without digits is judged by its words alone. -/
theorem reasonIsSensitive_of_no_digit {reason : String}
    (h : ∀ c ∈ reason.toList, env.classes.decimal c = false) :
    env.reasonIsSensitive reason = (reason ≠ "" && sensitiveVal.occurs reason) := by
  rw [reasonIsSensitive, Pattern.not_occurs_of_needs env.hostPort_needs h, Bool.or_false]

/-- The texts the code writes itself have no digits: all their characters are ASCII and none is
one. -/
theorem decimal_eq_false {s : String} (h : s.toList.all fun c => c.toNat < 128 ∧ !c.isDigit)
    (c : Char) (hc : c ∈ s.toList) : env.classes.decimal c = false := by
  have hc' := List.all_eq_true.mp h c hc
  simp only [Bool.decide_and, Bool.and_eq_true, decide_eq_true_eq,
    Bool.not_eq_true'] at hc'
  rw [env.classes.decimal_ascii c hc'.1]
  exact hc'.2

@[simp] theorem redactReason_redacted : env.redactReason "[redacted]" = "[redacted]" :=
  ite_self _

/-- Redacting twice is redacting once. -/
theorem redactReason_idem (reason : String) :
    env.redactReason (env.redactReason reason) = env.redactReason reason := by
  by_cases h : env.reasonIsSensitive reason
  · rw [redactReason, redactReason, if_pos h, ite_self]
  · have hr : env.redactReason reason = reason := if_neg h
    rw [hr, hr]

theorem redactReason_eq_empty {reason : String} : env.redactReason reason = "" ↔ reason = "" := by
  by_cases h : env.reasonIsSensitive reason
  · have hne : reason ≠ "" := by
      rintro rfl
      exact absurd h (by simp [reasonIsSensitive])
    simp [redactReason, if_pos h, hne]
  · rw [redactReason, if_neg h]

/-- The catalog's texts are echoed as they are. -/
theorem redactReason_actionType (a : ActionType) : env.redactReason a.text = a.text := by
  have hdigit : a.text.toList.all fun c => c.toNat < 128 ∧ !c.isDigit := by
    cases a <;> decide +kernel
  have hclean : sensitiveVal.occurs a.text = false := by cases a <;> decide +kernel
  have hsens : env.reasonIsSensitive a.text = false := by
    rw [env.reasonIsSensitive_of_no_digit (env.decimal_eq_false hdigit), hclean, Bool.and_false]
  rw [redactReason, hsens]
  rfl

/-! ## Digests -/

/-- `_digest`. -/
def digest (value : String) : String := env.sha256 value

/-- `_request_digest`. -/
def requestDigest (actionId : Option String) (actionType : String) (tenantId : Option String)
    (maker : String) : String :=
  env.sha256 (barJoin [orEmpty actionId, actionType, orEmpty tenantId, maker])

end Primitives

end Mpango
