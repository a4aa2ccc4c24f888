import Mpango.Library.Dict
import Mpango.Library.Latest
import Mpango.Library.Text
import Mpango.Model.ControlledActions

/-!
# The backup posture

`api/v1/platform/p17/services.py` and `api/v1/platform/p22/source_probe.py`: what the registry's two
views and the probe say about a tenant's backups and restore tests, from the outcome rows and the
policies. A query returns its rows in any order.
-/

namespace Mpango.Backups

/-! ## Rows -/

/-- `job_kind`. -/
inductive JobKind | backupJob | restoreTestJob
  deriving DecidableEq, Repr

/-- `status` of an outcome; `'partial'` is `partially`. -/
inductive OutcomeStatus | success | partially | failed | inProgress
  deriving DecidableEq, Repr

/-- `BACKUP_FAILURE_REASONS`. -/
def backupFailureReasons : List String :=
  ["backup_job_timeout", "restore_checksum_mismatch", "backup_source_unreachable",
    "restore_test_failed", "backup_incomplete", "unknown"]

/-- A row of `platform_backup_outcome`, with its check constraints. -/
structure Outcome where
  tenantId : Option Uuid
  jobKind : JobKind
  status : OutcomeStatus
  completedAt : Option Instant
  bytesWritten : Option ℤ
  failureReasonCode : Option String
  completed_iff : status = .inProgress ↔ completedAt = none
  reason_scope : failureReasonCode.isSome = true ↔ status = .failed ∨ status = .partially
  bytes_scope : bytesWritten = none ∨ status = .success ∨ status = .partially
  success_bytes : status = .success → ∃ n ∈ bytesWritten, 0 < n
  reason_listed : ∀ r ∈ failureReasonCode, r ∈ backupFailureReasons

/-- A row of `platform_backup_policy`. -/
structure Policy where
  tenantId : Option Uuid
  retentionPolicy : Option String
  restoreTestCadenceHours : Option ℤ

/-- The two tables. There is one policy for a tenant, and one for the platform. -/
structure Source where
  outcomes : List Outcome
  policies : List Policy
  unique : (policies.map Policy.tenantId).Nodup

/-- What a query for some tenants returns, in any order. -/
structure Rows (s : Source) (ids : List Uuid) where
  outcomes : List Outcome
  policies : List Policy
  outcomes_perm : outcomes.Perm (s.outcomes.filter fun o =>
    (o.tenantId.all fun u => ids.contains u) && o.completedAt.isSome)
  policies_perm : policies.Perm (s.policies.filter fun p => p.tenantId.all fun u => ids.contains u)

/-! ## Verdicts -/

def hour : Instant := 3600 * 1000000

/-- `BACKUP_FRESHNESS_WINDOW`. -/
def backupFreshnessWindow : Instant := 24 * hour

/-- `RESTORE_TEST_CADENCE_WINDOW`. -/
def restoreTestCadenceWindow : Instant := 168 * hour

/-- `LastBackupStatus`. -/
inductive BackupStatus | success | partially | failed | inProgress | stale | unknown
  deriving DecidableEq, Repr

/-- `RestoreTestStatus`. -/
inductive RestoreTestStatus | passed | failed | stale | unknown
  deriving DecidableEq, Repr

/-- The status of a row, as a verdict on backups. -/
def OutcomeStatus.raw : OutcomeStatus → BackupStatus
  | success => .success
  | partially => .partially
  | failed => .failed
  | inProgress => .inProgress

/-- `enforce_backup_freshness`. -/
def enforceBackupFreshness (lastBackupStatus : BackupStatus) (lastBackupAt : Option Instant)
    (now : Instant) : BackupStatus :=
  if lastBackupStatus ≠ .success then lastBackupStatus
  else match lastBackupAt with
    | none => .unknown
    | some t => if backupFreshnessWindow < now - t then .stale else .success

/-- `redact_failure_reason`. -/
def redactFailureReason (raw : Option String) : Option String :=
  raw.map fun r => if backupFailureReasons.contains r then r else "unknown"

/-- `_restore_test_cadence`. -/
def restoreTestCadence (policyRow : Option Policy) : Instant :=
  match policyRow.bind Policy.restoreTestCadenceHours with
  | some hours => hours * hour
  | none => restoreTestCadenceWindow

/-- `rt_base`. -/
def OutcomeStatus.restoreBase : OutcomeStatus → RestoreTestStatus
  | success => .passed
  | failed => .failed
  | _ => .unknown

/-- `_enforce_restore_test_freshness`. -/
def enforceRestoreTestFreshness (baseStatus : RestoreTestStatus) (t : Option Instant)
    (policyRow : Option Policy) (now : Instant) : RestoreTestStatus :=
  if baseStatus ≠ .passed ∧ baseStatus ≠ .failed then baseStatus
  else match t with
    | none => .unknown
    | some t => if restoreTestCadence policyRow < now - t then .stale else baseStatus

/-! ## Reading -/

/-- `RegistrySourceStatus`. -/
inductive SourceStatus | available | unavailable | unknown
  deriving DecidableEq, Repr

/-- `_BackupSourceRead`. -/
structure SourceRead where
  sourceStatus : SourceStatus
  backupRow : Option Outcome
  restoreRow : Option Outcome
  policyRow : Option Policy

/-- The key of `_latest`. -/
def Outcome.completedKey (o : Outcome) : WithBot ℤ := o.completedAt

/-- The latest row of a tenant, or of the platform. -/
def latestOf (outcomes : List Outcome) (tenantId : Option Uuid) (kind : JobKind) : Option Outcome :=
  Latest.latest Outcome.completedKey
    (outcomes.filter fun o => o.tenantId = tenantId && o.jobKind = kind)

/-- One tenant in `_load_backup_status_map`. -/
def resolve (outcomes : List Outcome) (policies : List Policy) (tid : String) : SourceRead :=
  let tidUuid := Uuid.parse tid
  let backupRow := (latestOf outcomes tidUuid .backupJob).or (latestOf outcomes none .backupJob)
  let restoreRow :=
    (latestOf outcomes tidUuid .restoreTestJob).or (latestOf outcomes none .restoreTestJob)
  let tenantPolicy := tidUuid.bind fun u => policies.find? fun p => p.tenantId = some u
  let policyRow := tenantPolicy.or (policies.find? fun p => p.tenantId = none)
  if backupRow.isSome || restoreRow.isSome then ⟨.available, backupRow, restoreRow, policyRow⟩
  else ⟨.unknown, none, none, none⟩

/-- `_load_backup_status_map`, of what its queries return. -/
def loadBackupStatusMap (outcomes : List Outcome) (policies : List Policy)
    (tenantIds : List String) : Dict String SourceRead :=
  Dict.ofPairs (tenantIds.map fun tid => (tid, resolve outcomes policies tid))

/-- `TenantBackupStatus`. -/
structure TenantBackupStatus where
  lastBackupAt : Option Instant
  lastBackupStatus : Option BackupStatus
  lastRestoreTestAt : Option Instant
  restoreTestStatus : Option RestoreTestStatus
  exportAvailable : Bool
  retentionPolicy : Option String
  failureReasonRedacted : Option String
  backupSourceStatus : SourceStatus
  lastStatusCheckAt : Instant
  deriving DecidableEq

/-- `failure_reason_redacted`. -/
def Outcome.reason (o : Outcome) : Option String :=
  if o.status = .failed ∨ o.status = .partially then redactFailureReason o.failureReasonCode
  else none

/-- `export_available`. -/
def Outcome.exportable (o : Outcome) : Bool :=
  o.status = .success && decide (0 < o.bytesWritten.getD 0)

/-- `_build_backup_status`. -/
def buildBackupStatus (read : Option SourceRead) (now : Instant) : Option TenantBackupStatus :=
  match read with
  | some ⟨.available, backupRow, restoreRow, policyRow⟩ => some
    { lastBackupAt := backupRow.bind Outcome.completedAt
      lastBackupStatus := backupRow.map fun o =>
        enforceBackupFreshness o.status.raw o.completedAt now
      lastRestoreTestAt := restoreRow.bind Outcome.completedAt
      restoreTestStatus := restoreRow.map fun o =>
        enforceRestoreTestFreshness o.status.restoreBase o.completedAt policyRow now
      exportAvailable := backupRow.any Outcome.exportable
      retentionPolicy := policyRow.bind Policy.retentionPolicy
      failureReasonRedacted := backupRow.bind Outcome.reason
      backupSourceStatus := .available
      lastStatusCheckAt := now }
  | _ => none

/-! ## Views -/

/-- The backup part of `list_tenant_registries`. -/
def listTenantRegistries (outcomes : List Outcome) (policies : List Policy)
    (tenantIds : List String) (now : Instant) : List (String × Option TenantBackupStatus) :=
  let backupMap := loadBackupStatusMap outcomes policies tenantIds
  tenantIds.map fun tid => (tid, buildBackupStatus (Dict.get backupMap tid) now)

/-- The backup part of `get_tenant_registry`. -/
def getTenantRegistry (outcomes : List Outcome) (policies : List Policy) (tenantId : String)
    (now : Instant) : Option TenantBackupStatus :=
  buildBackupStatus (Dict.get (loadBackupStatusMap outcomes policies [tenantId]) tenantId) now

/-- `BackupCheckSourceStatus`. -/
inductive CheckStatus | known | unknown | degraded
  deriving DecidableEq, Repr

/-- `BackupCheckSummary`, but `unavailable`: that is what a failed read says. -/
inductive CheckSummary | freshSuccess | stale | failed | partially | inProgress | unknown
  deriving DecidableEq, Repr

/-- `_classify_backup_status`. -/
def classifyBackupStatus (bs : Option TenantBackupStatus) :
    CheckSummary × CheckStatus × Option String :=
  match bs with
  | none => (.unknown, .unknown, some "No backup outcome has been recorded; status is unknown.")
  | some bs =>
    match bs.lastBackupStatus with
    | some .success => (.freshSuccess, .known, none)
    | some .stale => (.stale, .degraded,
        some "Latest successful backup is outside the 24h freshness window.")
    | some .failed => (.failed, .degraded, some "Latest backup failed; see failure_reason_redacted.")
    | some .partially => (.partially, .degraded,
        some "Latest backup completed partially; see failure_reason_redacted.")
    | some .inProgress => (.inProgress, .degraded,
        some "A backup is in progress; no completed verdict yet.")
    | _ => (.unknown, .degraded,
        some "Source readable but no completed backup verdict; status unknown.")

/-- `BackupCheckSourceRead`, but the markers that are the same for every read. -/
structure CheckRead where
  sourceStatus : CheckStatus
  sourceSummary : CheckSummary
  lastBackupStatus : Option BackupStatus
  lastBackupAt : Option Instant
  restoreTestStatus : Option RestoreTestStatus
  lastRestoreTestAt : Option Instant
  failureReasonRedacted : Option String
  exportAvailable : Option Bool
  retentionPolicy : Option String
  p17BackupSourceStatus : Option SourceStatus
  reason : Option String
  checkedAt : Instant
  deriving DecidableEq

/-- `_build_read`, of what `_classify_backup_status` makes of the status. -/
def buildRead (bs : Option TenantBackupStatus) (now : Instant) : CheckRead :=
  let (summary, sourceStatus, reason) := classifyBackupStatus bs
  { sourceStatus
    sourceSummary := summary
    lastBackupStatus := bs.bind TenantBackupStatus.lastBackupStatus
    lastBackupAt := bs.bind TenantBackupStatus.lastBackupAt
    restoreTestStatus := bs.bind TenantBackupStatus.restoreTestStatus
    lastRestoreTestAt := bs.bind TenantBackupStatus.lastRestoreTestAt
    failureReasonRedacted := redactFailureReason
      ((bs.bind TenantBackupStatus.failureReasonRedacted).filter (· ≠ ""))
    exportAvailable := bs.map TenantBackupStatus.exportAvailable
    retentionPolicy := bs.bind TenantBackupStatus.retentionPolicy
    p17BackupSourceStatus := bs.map TenantBackupStatus.backupSourceStatus
    reason
    checkedAt := now }

/-- `_PLATFORM_WIDE_SENTINEL`. -/
def platformWideSentinel : String := "00000000-0000-4000-8000-000000000000"

/-- The tenant that `read_backup_check_source` reads for. -/
def scopeId (tenantId : Option String) : String :=
  (tenantId.filter (· ≠ "")).getD platformWideSentinel

/-- `read_backup_check_source`, of what its queries return. -/
def readBackupCheckSource (outcomes : List Outcome) (policies : List Policy)
    (tenantId : Option String) (now : Instant) : CheckRead :=
  let scope := scopeId tenantId
  buildRead
    (buildBackupStatus (Dict.get (loadBackupStatusMap outcomes policies [scope]) scope) now) now

end Mpango.Backups
