import Mpango.Library.Jsonb
import Mpango.Library.Run
import Mpango.Model.Catalogue
import Mpango.Model.Intake

/-!
# The intake workspace

`services/intake_service.py` and `services/intake_apply_service.py`: uploads stage rows in a
workspace, a mapping copies their cells into fields, a validation judges them and says whether the
workspace is ready, and an apply creates a product, a unit and a stock row from each of them.

Uploads, mappings and validations lock nothing. Each loads the workspace, reads what it needs in
later statements, and writes when it commits; of what it has loaded, the session writes back only
the attributes that it set to another value. An apply locks the workspace with its first statement,
so that it is one step here.
-/

namespace Mpango.Intake

/-! ## Rows -/

/-- `status` of a workspace. -/
inductive WorkspaceStatus | opened | uploaded | mapped | needsReview | readyForExport
  deriving DecidableEq, Repr

/-- `apply_status` of a workspace. -/
inductive ApplyStatus | notApplied | applied
  deriving DecidableEq, Repr

/-- A row of `intake_uploads`. -/
structure Upload where
  id : ℕ
  headersNormalized : Dict String String
  deriving DecidableEq

/-- A row of `intake_product_rows`. -/
structure StagedRow where
  id : ℕ
  uploadId : ℕ
  rowIndex : ℕ
  rawValues : Dict String String
  normalizedValues : Dict String String
  mappingVersion : ℕ
  skuCode : Option String
  name : Option String
  unit : Option String
  category : Option String
  barcode : Option String
  deriving DecidableEq

/-- `severity` of an issue. -/
inductive Severity | error | warning
  deriving DecidableEq, Repr

/-- What a validation finds. -/
structure Finding where
  rowId : Option ℕ
  severity : Severity
  code : String
  field : Option String
  sourceHeader : Option String
  message : String
  isBlocking : Bool
  deriving DecidableEq

/-- A row of `intake_validation_issues`. -/
structure Issue where
  id : ℕ
  finding : Finding
  deriving DecidableEq

/-- A row of `intake_workspaces` and the rows that belong to it. -/
structure Workspace where
  status : WorkspaceStatus
  applyStatus : ApplyStatus
  columnMapping : Dict String String
  uploads : List Upload
  rows : List StagedRow
  issues : List Issue
  /-- The id of the next issue. -/
  nextIssue : ℕ
  deriving DecidableEq

/-! ## Fields -/

/-- `_string_or_none`. -/
def stringOrNone (value : Option String) : Option String :=
  if cellToString value = "" then none else some (cellToString value)

/-- `_bounded_string_or_none`. -/
def boundedStringOrNone (value : Option String) (maxLength : ℕ) : Option String :=
  (stringOrNone value).filter fun text => text.length ≤ maxLength

/-- `FIELD_LENGTHS`. -/
def fieldLengths : List (String × ℕ) :=
  [("sku_code", 64), ("name", 255), ("unit", 32), ("category", 64), ("barcode", 128)]

/-- `values.get(field)`, as a text. -/
def StagedRow.value (row : StagedRow) (field : String) : Option String :=
  stringOrNone (Dict.get row.normalizedValues field)

/-- `_copy_known_fields`, but the price. -/
def copyKnownFields (row : StagedRow) : StagedRow :=
  { row with
    skuCode := boundedStringOrNone (Dict.get row.normalizedValues "sku_code") 64
    name := boundedStringOrNone (Dict.get row.normalizedValues "name") 255
    unit := boundedStringOrNone (Dict.get row.normalizedValues "unit") 32
    category := boundedStringOrNone (Dict.get row.normalizedValues "category") 64
    barcode := boundedStringOrNone (Dict.get row.normalizedValues "barcode") 128 }

/-! ## Upload -/

/-- The rows that `create_upload_rows` adds. -/
def uploadRows (firstId uploadId : ℕ) (headers : List String) (values : List (List String)) :
    List StagedRow :=
  values.mapIdx fun index cells =>
    { id := firstId + index
      uploadId
      rowIndex := index
      rawValues := Jsonb.object (rowDict headers cells)
      normalizedValues := []
      mappingVersion := 1
      skuCode := none
      name := none
      unit := none
      category := none
      barcode := none }

/-! ## Mapping -/

/-- `_validate_mapping`. -/
def mappingAccepted (mapping : Dict String String) : Bool :=
  mapping ≠ [] && mapping.all fun p => targetFields.contains p.2

/-- A row under a mapping. -/
def mapRow (uploads : List Upload) (mapping : Dict String String) (version : ℕ) (row : StagedRow) :
    StagedRow :=
  let headerMap := ((uploads.find? fun u => u.id = row.uploadId).map Upload.headersNormalized).getD []
  copyKnownFields { row with
    normalizedValues := Jsonb.object (buildNormalizedValues row.rawValues headerMap mapping)
    mappingVersion := version }

/-- The version after the highest one. -/
def nextVersion (rows : List StagedRow) : ℕ :=
  (rows.map StagedRow.mappingVersion).foldl max 0 + 1

/-! ## Validation -/

section Validation
-- Whether `Decimal` reads a text.
variable (isDecimal : String → Bool)

def rowFinding (row : StagedRow) (code field message : String) : Finding :=
  ⟨some row.id, .error, code, some field, none, message, true⟩

/-- What `validate_workspace` finds in one row. -/
def rowFindings (row : StagedRow) : List Finding :=
  (if row.value "sku_code" = none then
    [rowFinding row "MISSING_SKU_CODE" "sku_code" "Missing sku_code"] else []) ++
  (if row.value "name" = none then [rowFinding row "MISSING_NAME" "name" "Missing name"] else []) ++
  (if (row.value "unit_price").any fun price => !isDecimal price then
    [rowFinding row "INVALID_UNIT_PRICE" "unit_price" "unit_price must be a valid decimal value"]
  else []) ++
  (fieldLengths.filter fun p => (row.value p.1).any fun text => p.2 < text.length).map (fun p =>
    rowFinding row "FIELD_TOO_LONG" p.1 s!"{p.1} exceeds {p.2} characters") ++
  (if row.value "unit" = none then
    [⟨some row.id, .warning, "UNIT_DEFAULT_AVAILABLE", some "unit", none,
      "Unit is optional; no default was written to staged data.", false⟩] else [])

/-- What it finds in rows of one code. -/
def duplicateFindings (rows : List StagedRow) : List Finding :=
  (rows.filterMap fun row => row.value "sku_code").eraseDups.flatMap fun code =>
    let duplicates := rows.filter fun row => row.value "sku_code" = some code
    if duplicates.length < 2 then []
    else duplicates.map fun row => rowFinding row "DUPLICATE_STAGED_SKU_CODE" "sku_code"
      s!"Duplicate staged sku_code '{code}' in this workspace"

/-- What it finds in the headers of the uploads. -/
def headerFindings (uploads : List Upload) (mapping : Dict String String) : List Finding :=
  uploads.flatMap fun upload =>
    (upload.headersNormalized.filter fun p =>
      !(mapping.map fun q => normalizeHeader q.1).contains p.2).map fun p =>
        ⟨none, .warning, "UNMAPPED_EXTRA_COLUMN", none, some p.1,
          s!"Column '{p.1}' is not mapped and will remain staged only.", false⟩

/-- All findings. -/
def findings (uploads : List Upload) (mapping : Dict String String) (rows : List StagedRow) :
    List Finding :=
  rows.flatMap (rowFindings isDecimal) ++ duplicateFindings rows ++ headerFindings uploads mapping

/-- The status that follows from them. -/
def validatedStatus (found : List Finding) : WorkspaceStatus :=
  if found.countP (fun f => f.severity = .error) = 0 then .readyForExport else .needsReview

end Validation

/-! ## Application -/

/-- Why `apply_workspace` refuses. -/
inductive ApplyError
  | alreadyApplied
  | workspaceNotReady
  | blockingIssues
  | noMappedRows
  | incompleteStagedRows (errors : List (ℕ × String × String))
  | duplicateStagedSkuCode (codes : List String)
  | skuCodeExists (codes : List String)
  | catalogue (e : CatalogueError)
  deriving DecidableEq

/-- A row that `_prepare_apply_rows` lets through. -/
structure PreparedRow where
  skuCode : String
  name : String
  unit : Option String
  category : Option String
  deriving DecidableEq

/-- One row in `_prepare_apply_rows`. -/
def prepareRow (row : StagedRow) : Option PreparedRow :=
  match stringOrNone row.skuCode, stringOrNone row.name with
  | some skuCode, some name =>
    some ⟨skuCode, name, stringOrNone row.unit, stringOrNone row.category⟩
  | _, _ => none

/-- Its errors. -/
def prepareErrors (row : StagedRow) : List (ℕ × String × String) :=
  (if stringOrNone row.skuCode = none then [(row.id, "sku_code", "Missing sku_code")] else []) ++
  (if stringOrNone row.name = none then [(row.id, "name", "Missing name")] else [])

/-- The product of a row. -/
def PreparedRow.product (p : PreparedRow) : ProductRow where
  name := p.name
  description := none
  category := p.category
  isActive := true

/-- The unit of a row. -/
def PreparedRow.sku (p : PreparedRow) (catalogProductId : ℕ) : SkuRow where
  catalogProductId
  skuCode := p.skuCode
  name := p.name
  description := none
  unit := p.unit.getD "unit"
  packageQuantity := 1
  category := p.category
  isActive := true
  isDeleted := false

/-- The loop of `apply_workspace`. -/
def createAll (c : Catalogue) : List PreparedRow → Except CatalogueError Catalogue
  | [] => .ok c
  | p :: ps => do
    let (c, _) ← c.createUnit p.product p.sku
    createAll c ps

/-- The values that occur more than once, or are taken. -/
def sortedSet (codes : List String) : List String := codes.dedup.mergeSort fun a b => decide (a ≤ b)

/-- `apply_workspace`. -/
def applyWorkspace (w : Workspace) (c : Catalogue) : Except ApplyError (Workspace × Catalogue) := do
  refuseIf (w.applyStatus = .applied) .alreadyApplied
  refuseIf (w.status ≠ .readyForExport) .workspaceNotReady
  refuseIf (0 < w.issues.countP fun issue => issue.finding.isBlocking) .blockingIssues
  refuseIf (w.rows = []) .noMappedRows
  let errors := w.rows.flatMap prepareErrors
  refuseIf (errors ≠ []) (.incompleteStagedRows errors)
  let prepared := w.rows.filterMap prepareRow
  let stagedCodes := prepared.map PreparedRow.skuCode
  let duplicateCodes := stagedCodes.filter fun code => 1 < stagedCodes.count code
  refuseIf (duplicateCodes ≠ []) (.duplicateStagedSkuCode (sortedSet duplicateCodes))
  let existingCodes := c.codes.filter fun code => stagedCodes.contains code
  refuseIf (existingCodes ≠ []) (.skuCodeExists (sortedSet existingCodes))
  let c ← (createAll c prepared).mapError .catalogue
  return ({ w with applyStatus := .applied }, c)

/-! ## Requests -/

/-- A request that is served in several statements. -/
inductive Request
  | upload (headers : List String) (values : List (List String))
  | mapping (mapping : Dict String String)
  | validation
  deriving DecidableEq

/-- Whether a request is served at all. -/
def Request.accepted : Request → Bool
  | .mapping m => mappingAccepted m
  | _ => true

/-- A request in flight, with what it has seen. -/
structure Session where
  request : Request
  status : WorkspaceStatus
  columnMapping : Dict String String
  /-- The issues that a validation has deleted. -/
  deleted : Option (List ℕ)
  /-- The uploads and rows that a mapping or a validation has read. -/
  read : Option (List Upload × List StagedRow)

/-- A workspace, the requests in flight, and the catalogue. -/
structure World where
  workspace : Workspace
  catalogue : Catalogue
  sessions : ℕ → Option Session
  /-- The rows that the last validation which found no error has read. -/
  covered : List StagedRow
  applications : ℕ

/-- What happens next. -/
inductive Event
  | start (i : ℕ) (request : Request)
  | delete (i : ℕ)
  | read (i : ℕ)
  | commit (i : ℕ)
  | abort (i : ℕ)
  | apply
  /-- Others change the catalogue. -/
  | change (catalogue : Catalogue)

/-- What a session leaves of an attribute that it set: it is written when it is not what was
loaded. -/
def written {α : Type} [DecidableEq α] (loaded new committed : α) : α :=
  if new = loaded then committed else new

/-- What a mapping leaves of a row. -/
def writtenRow (loaded new committed : StagedRow) : StagedRow :=
  { committed with
    normalizedValues :=
      written loaded.normalizedValues new.normalizedValues committed.normalizedValues
    mappingVersion := written loaded.mappingVersion new.mappingVersion committed.mappingVersion
    skuCode := written loaded.skuCode new.skuCode committed.skuCode
    name := written loaded.name new.name committed.name
    unit := written loaded.unit new.unit committed.unit
    category := written loaded.category new.category committed.category
    barcode := written loaded.barcode new.barcode committed.barcode }

namespace Workspace

/-- `create_upload_rows`, committed. -/
def commitUpload (w : Workspace) (s : Session) (headers : List String)
    (values : List (List String)) : Workspace :=
  { w with
    status := written s.status .uploaded w.status
    uploads := w.uploads ++ [⟨w.uploads.length, Jsonb.object (normalizeHeaders headers)⟩]
    rows := w.rows ++ uploadRows w.rows.length w.uploads.length headers values }

/-- `apply_mapping`, committed. -/
def commitMapping (w : Workspace) (s : Session) (mapping : Dict String String)
    (uploads : List Upload) (rows : List StagedRow) : Workspace :=
  { w with
    status := written s.status .mapped w.status
    columnMapping := written s.columnMapping (Jsonb.object mapping) w.columnMapping
    rows := w.rows.map fun row =>
      match rows.find? fun loaded => loaded.id = row.id with
      | some loaded => writtenRow loaded (mapRow uploads mapping (nextVersion rows) loaded) row
      | none => row }

/-- `validate_workspace`, committed. -/
def commitValidation (w : Workspace) (s : Session) (deleted : List ℕ) (found : List Finding) :
    Workspace :=
  { w with
    status := written s.status (validatedStatus found) w.status
    issues := (w.issues.filter fun issue => !deleted.contains issue.id) ++
      found.mapIdx fun index finding => ⟨w.nextIssue + index, finding⟩
    nextIssue := w.nextIssue + found.length }

end Workspace

namespace World

variable (isDecimal : String → Bool)

/-- A session comes to its end. -/
def finish (x : World) (i : ℕ) (workspace : Workspace) : World :=
  { x with workspace, sessions := Function.update x.sessions i none }

/-- One more event. What a session cannot do yet does nothing. -/
def step (x : World) : Event → World
  | .start i request =>
    if request.accepted then
      { x with
        sessions := Function.update x.sessions i (some
          ⟨request, x.workspace.status, x.workspace.columnMapping, none, none⟩) }
    else x
  | .delete i =>
    match x.sessions i with
    | some s =>
      { x with
        sessions := Function.update x.sessions i (some
          { s with deleted := some (x.workspace.issues.map Issue.id) }) }
    | none => x
  | .read i =>
    match x.sessions i with
    | some s =>
      { x with
        sessions := Function.update x.sessions i (some
          { s with read := some (x.workspace.uploads, x.workspace.rows) }) }
    | none => x
  | .commit i =>
    match x.sessions i with
    | some s =>
      match s.request, s.deleted, s.read with
      | .upload headers values, _, _ => x.finish i (x.workspace.commitUpload s headers values)
      | .mapping mapping, _, some (uploads, rows) =>
        x.finish i (x.workspace.commitMapping s mapping uploads rows)
      | .validation, some deleted, some (uploads, rows) =>
        let found := findings isDecimal uploads s.columnMapping rows
        { x.finish i (x.workspace.commitValidation s deleted found) with
          covered := if validatedStatus found = .readyForExport then rows else x.covered }
      | _, _, _ => x
    | none => x
  | .abort i => { x with sessions := Function.update x.sessions i none }
  | .apply =>
    match applyWorkspace x.workspace x.catalogue with
    | .ok (workspace, catalogue) =>
      { x with workspace, catalogue, applications := x.applications + 1 }
    | .error _ => x
  | .change catalogue => { x with catalogue }

/-- A new workspace. -/
def fresh (catalogue : Catalogue) : World where
  workspace := ⟨.opened, .notApplied, [], [], [], [], 0⟩
  catalogue
  sessions := fun _ => none
  covered := []
  applications := 0

end World

end Mpango.Intake
