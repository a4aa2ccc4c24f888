import Mpango.Library.Table
import Mpango.Model.Reporting

/-!
# Exports

A request for an export becomes a job in a queue. Its handler builds the query, writes the rows to a
file with a name of its own and then a metadata file beside it; the queue marks the job completed
afterwards, or puts it back when the handler raised. The status and the download of a job look for
its metadata in the directory, in whatever order the directory is listed.

The number that `float` and its printing make of a decimal is a parameter.
-/

namespace Mpango

namespace Reporting

/-! ## Requests and jobs -/

inductive ExportFormat
  | csv
  | xlsx
  deriving DecidableEq

/-- An export request that the schema admits. -/
structure ExportRequest where
  view : ViewScope
  metrics : List ReportMetric
  dimensions : Option (List ReportDimension)
  dateFrom : Option ℤ
  dateTo : Option ℤ
  format : ExportFormat
  limit : ℕ
  metrics_length : 1 ≤ metrics.length ∧ metrics.length ≤ 10
  dimensions_length : ∀ ds ∈ dimensions, ds.length ≤ 5
  limit_bounds : 1 ≤ limit ∧ limit ≤ 500000

/-- The tenant of a request, and its user. -/
structure ExportTenant where
  tenantId : Uuid
  userId : Uuid
  deriving DecidableEq

/-- `ExportJobPayload`. -/
structure ExportJobPayload extends ExportTenant where
  request : ExportRequest

inductive JobStatus
  | pending
  | running
  | completed
  | failed
  deriving DecidableEq

/-- A row of `sys_jobs`. The handler of a running job may have returned already. -/
structure ExportJob where
  id : Uuid
  payload : ExportJobPayload
  status : JobStatus
  returned : Bool
  attempts : ℕ
  maxRetries : ℕ

instance : Keyed ExportJob Uuid := ⟨ExportJob.id⟩

/-! ## Files -/

/-- A value in a file. -/
inductive Cell
  | number (d : Decimal)
  | integer (n : ℕ)
  | date (d : ℤ)
  | instant (t : ℤ)
  | text (s : String)
  | uuid (u : Uuid)
  deriving DecidableEq

/-- `_serialize_value`. -/
def serializeValue (asFloat : Decimal → Decimal) : Value → Cell
  | .decimal d => .number (asFloat d.toDecimal)
  | .count n => .integer n
  | .date d => .date d
  | .instant t => .instant t
  | .text s => .text s
  | .uuid u => .uuid u

structure ExportFile where
  fileId : Uuid
  rows : List (List Cell)

instance : Keyed ExportFile Uuid := ⟨ExportFile.fileId⟩

structure Metadata where
  fileId : Uuid
  rowCount : ℕ
  format : ExportFormat
  tenantId : Uuid
  userId : Uuid
  deriving DecidableEq

/-- Rows that have every registered column of their view. -/
structure ViewContents (scope : ViewScope) where
  rows : List Row
  complete : ∀ row ∈ rows, ∀ column ∈ (registration scope).dimensions.map (·.2) ++
    (registration scope).metrics.map (·.2), (row.lookup column).isSome = true

/-- The contents of all views. -/
abbrev Views := ∀ scope, ViewContents scope

/-- `MAX_EXPORT_ROWS`. -/
def maxExportRows : ℕ := 500000

/-- The rows that the handler writes. -/
def exportRows (asFloat : Decimal → Decimal) (request : ExportRequest) (views : Views) :
    Option (List (List Cell)) :=
  (buildQuery request.view request.metrics request.dimensions request.dateFrom request.dateTo
    (min request.limit maxExportRows) (views request.view).rows).map fun rows =>
      rows.map fun row => row.map (serializeValue asFloat)

/-! ## The system -/

/-- A handler that has returned: the job, the file, and the views it has read. -/
structure Execution where
  jobId : Uuid
  fileId : Uuid
  payload : ExportJobPayload
  views : Views
  rows : List (List Cell)

/-- The metadata that the handler writes. -/
def Execution.metadata (e : Execution) : Metadata :=
  ⟨e.fileId, e.rows.length, e.payload.request.format, e.payload.tenantId, e.payload.userId⟩

/-- The jobs, the files in the directory, the metadata among them, and which executions there were.
-/
structure ExportStore where
  jobs : Table ExportJob
  files : Table ExportFile
  metadata : List Metadata
  executions : List Execution

def ExportStore.empty : ExportStore := ⟨.empty, .empty, [], []⟩

inductive ExportEvent
  | create (jobId : Uuid) (tenant : ExportTenant) (request : ExportRequest)
  | start (jobId : Uuid)
  | handle (jobId fileId : Uuid) (views : Views)
  | complete (jobId : Uuid)
  | raise (jobId : Uuid) (leftover : Option ExportFile)

namespace ExportStore

/-- The metrics and the dimensions are those of the view. -/
def isAvailable (request : ExportRequest) : Bool :=
  request.metrics.all (fun m => m ∈ (registration request.view).metrics.map (·.1)) &&
    (request.dimensions.getD []).all fun d => d ∈ (registration request.view).dimensions.map (·.1)

/-- `create_export`, with `enqueue`. -/
def createExport (s : ExportStore) (jobId : Uuid) (tenant : ExportTenant)
    (request : ExportRequest) : ExportStore :=
  if isAvailable request then
    match s.jobs.insert? ⟨jobId, ⟨tenant, request⟩, .pending, false, 0, 2⟩ with
    | some jobs => { s with jobs }
    | none => s
  else s

/-- `_execute_job`, to the call of the handler. -/
def startJob (s : ExportStore) (jobId : Uuid) : ExportStore :=
  match s.jobs.find? jobId with
  | some job =>
    if job.status = .pending then
      let running := { job with status := .running, returned := false, attempts := job.attempts + 1 }
      { s with jobs := s.jobs.set running }
    else s
  | none => s

/-- `export_report_worker`: what it leaves when it returns. -/
def handleJob (asFloat : Decimal → Decimal) (s : ExportStore) (jobId fileId : Uuid)
    (views : Views) : ExportStore :=
  match s.jobs.find? jobId with
  | some job =>
    if job.status = .running ∧ job.returned = false then
      match exportRows asFloat job.payload.request views with
      | some rows =>
        match s.files.insert? ⟨fileId, rows⟩ with
        | some files =>
          let e : Execution := ⟨jobId, fileId, job.payload, views, rows⟩
          { jobs := s.jobs.set { job with returned := true }
            files
            metadata := s.metadata ++ [e.metadata]
            executions := s.executions ++ [e] }
        | none => s
      | none => s
    else s
  | none => s

/-- `_execute_job`, after the handler has returned. -/
def completeJob (s : ExportStore) (jobId : Uuid) : ExportStore :=
  match s.jobs.find? jobId with
  | some job =>
    if job.status = .running ∧ job.returned = true then
      { s with jobs := s.jobs.set { job with status := .completed } }
    else s
  | none => s

/-- `_execute_job`, after an exception. The handler may have left a file without metadata. -/
def raiseJob (s : ExportStore) (jobId : Uuid) (leftover : Option ExportFile) : ExportStore :=
  match s.jobs.find? jobId with
  | some job =>
    if job.status = .running then
      let status := if job.attempts < job.maxRetries then .pending else .failed
      { s with
        jobs := s.jobs.set { job with status }
        files := (leftover.bind s.files.insert?).getD s.files }
    else s
  | none => s

def step (asFloat : Decimal → Decimal) (s : ExportStore) : ExportEvent → ExportStore
  | .create jobId tenant request => s.createExport jobId tenant request
  | .start jobId => s.startJob jobId
  | .handle jobId fileId views => s.handleJob asFloat jobId fileId views
  | .complete jobId => s.completeJob jobId
  | .raise jobId leftover => s.raiseJob jobId leftover

/-! ## Status and download -/

/-- `_find_job_metadata`: the first metadata of the tenant whose file exists, as the directory is
listed. -/
def findJobMetadata (s : ExportStore) (listing : List Metadata) (tenantId : Uuid) :
    Option Metadata :=
  listing.find? fun m => m.tenantId = tenantId ∧ (s.files.find? m.fileId).isSome = true

inductive ExportAnswer
  | notFound
  | notReady
  | fileMissing
  | file (f : ExportFile)

/-- `download_export`. -/
def downloadExport (s : ExportStore) (listing : List Metadata) (tenantId jobId : Uuid) :
    ExportAnswer :=
  match s.jobs.find? jobId with
  | none => .notFound
  | some job =>
    if job.payload.tenantId ≠ tenantId then .notFound
    else if job.status ≠ .completed then .notReady
    else match s.findJobMetadata listing job.payload.tenantId with
      | none => .fileMissing
      | some m => match s.files.find? m.fileId with
        | none => .fileMissing
        | some f => .file f

structure ExportStatusData where
  status : JobStatus
  rowCount : Option ℕ
  deriving DecidableEq

/-- `get_export_status`. -/
def getExportStatus (s : ExportStore) (listing : List Metadata) (tenantId jobId : Uuid) :
    Option ExportStatusData :=
  match s.jobs.find? jobId with
  | none => none
  | some job =>
    if job.payload.tenantId ≠ tenantId then none
    else if job.status = .completed then
      some ⟨job.status, (s.findJobMetadata listing job.payload.tenantId).map (·.rowCount)⟩
    else some ⟨job.status, none⟩

end ExportStore

end Reporting

end Mpango
