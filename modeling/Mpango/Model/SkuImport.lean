import Mpango.Library.Jsonb
import Mpango.Model.Catalogue
import Mpango.Model.Intake

/-!
# The import of units

`services/import_service.py`: a preview stores the columns and the rows of a file, a validation
reads them through a mapping and stores that, an apply reads them through the stored mapping and
creates what they say. A file is taken as the records its reader yields.
-/

namespace Mpango.SkuImport

/-- A cell of a row; there is none where the record was short. -/
abbrev Cell := Option String

abbrev Row := Dict String Cell

/-! ## Rows -/

/-- A row of `csv.DictReader`, without what stands beyond the columns. -/
def dictReaderRow (fieldnames record : List String) : Row :=
  Dict.ofPairs (fieldnames.zip (record.map some) ++
    (fieldnames.drop record.length).map fun key => (key, none))

/-- The keys and values of a row trimmed, where the key is there. -/
def trimRow (row : Row) : Row :=
  Dict.ofPairs ((row.filter fun p => p.1 ≠ "").map fun p => (strip p.1, p.2.map strip))

/-- `_parse_csv`: the rows and the columns. -/
def parseCsv (records : List (List String)) : List Row × List String :=
  match records with
  | [] => ([], [])
  | fieldnames :: records =>
    ((records.filter (· ≠ [])).map fun record => trimRow (dictReaderRow fieldnames record),
      fieldnames)

/-! ## Mappings -/

/-- `CUSTOM_ATTR_PREFIX`. -/
def customAttrPrefix : String := "custom_attributes."

/-- `REQUIRED_FIELDS`. -/
def requiredFields : List String := ["sku_code", "name"]

/-- `ALL_VALID_FIELDS`. -/
def allValidFields : List String :=
  ["sku_code", "name", "description", "unit", "category", "is_active"]

/-- `target_field.startswith(CUSTOM_ATTR_PREFIX)`. -/
def isCustom (target : String) : Bool := customAttrPrefix.toList.isPrefixOf target.toList

/-- What `_validate_mapping` has against one entry. -/
def entryErrors (source target : String) : List String :=
  (if strip source = "" then ["Source column name cannot be empty"] else []) ++
  (if strip target = "" then [s!"Target field for '{source}' cannot be empty"] else []) ++
  (if isCustom target = false ∧ target ∉ allValidFields then
    ["Unknown target field '" ++ target ++ "'. Valid fields: " ++
      "['category', 'description', 'is_active', 'name', 'sku_code', 'unit']. " ++
      "Use 'custom_attributes.<key>' for custom attributes."]
  else [])

/-- `_validate_mapping`. -/
def validateMapping (mapping : Dict String String) : List String :=
  if mapping = [] then ["Mapping cannot be empty"]
  else mapping.flatMap fun p => entryErrors p.1 p.2

/-- A row under the fields of the catalogue. -/
structure MappedRow where
  fields : Row
  customAttributes : Row

/-- `_apply_mapping`. -/
def applyMapping (row : Row) (mapping : Dict String String) : MappedRow where
  fields := Dict.ofPairs ((mapping.filter fun p => !isCustom p.2).map fun p =>
    (p.2, (Dict.get row p.1).join))
  customAttributes := Dict.ofPairs ((mapping.filter fun p => isCustom p.2).map fun p =>
    (String.ofList (p.2.toList.drop customAttrPrefix.length), (Dict.get row p.1).join))

/-- `mapped_row.get(field)`. -/
def MappedRow.get (mapped : MappedRow) (field : String) : Cell := (Dict.get mapped.fields field).join

/-! ## Runs -/

/-- `status` of an import run. -/
inductive RunStatus | previewed | validated | needsReview | applied
  deriving DecidableEq, Repr

/-- A row of `import_runs`. -/
structure ImportRun where
  status : RunStatus
  columns : List String
  rows : List Row
  fieldMapping : Dict String String
  validRows : ℕ
  errorRows : ℕ
  warningRows : ℕ
  createdRows : ℕ
  skippedRows : ℕ
  deriving DecidableEq

/-- `ImportErrorDetail`. -/
structure ImportErrorDetail where
  row : ℕ
  field : String
  skuCode : Option String
  message : String
  deriving DecidableEq

/-- `ImportWarningDetail`. -/
structure ImportWarningDetail where
  row : ℕ
  field : String
  message : String
  deriving DecidableEq

/-- How a phase fails. -/
inductive ImportError
  | http (status : ℕ) (code : String)
  /-- 409 `CONFLICT_DETECTED`. -/
  | conflictDetected (conflicts : List ImportErrorDetail)
  /-- 422 `ROW_PROCESSING_ERRORS`. -/
  | rowProcessingErrors (errors : List ImportErrorDetail)
  | database (e : CatalogueError)
  deriving DecidableEq

/-- `MAX_CSV_ROWS`. -/
def maxCsvRows : ℕ := 50000

/-- `preview`. -/
def preview (records : List (List String)) : Except ImportError ImportRun := do
  let (rows, columns) := parseCsv records
  refuseIf (columns = []) (.http 400 "EMPTY_FILE")
  refuseIf (maxCsvRows < rows.length) (.http 400 "FILE_TOO_LARGE")
  return {
    status := .previewed
    columns
    rows
    fieldMapping := []
    validRows := 0
    errorRows := 0
    warningRows := 0
    createdRows := 0
    skippedRows := 0 }

/-! ## Validation -/

/-- `str.lower`, as far as it can spell one of the words below. -/
def lower (s : String) : String := String.ofList (s.toList.flatMap Intake.lower)

/-- A value that is not there or blank. -/
def isEmpty (value : Cell) : Bool := value.all fun text => strip text = ""

/-- The errors of one row. -/
def rowErrors (idx : ℕ) (mapped : MappedRow) : List ImportErrorDetail :=
  let skuCode := mapped.get "sku_code"
  (requiredFields.filter fun field => isEmpty (mapped.get field)).map (fun field =>
    ⟨idx, field, skuCode, s!"Required field '{field}' is empty"⟩) ++
  (if skuCode.any fun code => 64 < (strip code).length then
    [⟨idx, "sku_code", skuCode, "sku_code exceeds 64 characters"⟩] else []) ++
  (if (mapped.get "name").any fun name => 255 < name.length then
    [⟨idx, "name", skuCode, "name exceeds 255 characters"⟩] else [])

/-- The warnings of one row. -/
def rowWarnings (idx : ℕ) (columns : List String) (mapping : Dict String String)
    (mapped : MappedRow) : List ImportWarningDetail :=
  (match mapped.get "sku_code" with
    | some code =>
      if ' ' ∈ (strip code).toList then
        [⟨idx, "sku_code", s!"sku_code '{strip code}' contains spaces"⟩] else []
    | none => []) ++
  (match mapped.get "is_active" with
    | some text =>
      if lower text ∉ ["true", "false", "1", "0", "yes", "no"] then
        [⟨idx, "is_active", s!"is_active value '{text}' is not a standard boolean (true/false)"⟩]
      else []
    | none => []) ++
  (columns.filter fun col => col ∉ mapping.map Prod.fst ∧ col ∉ mapping.map Prod.snd).map
    fun col => ⟨idx, col, s!"Column '{col}' is not mapped"⟩

/-- The code of a row, where it has one. -/
def codeOf (mapped : MappedRow) : Option String :=
  ((mapped.get "sku_code").map strip).filter (· ≠ "")

/-- The errors of rows whose code an earlier row has, given where codes were first seen. -/
def duplicateErrors : Dict String ℕ → List (ℕ × MappedRow) → List ImportErrorDetail
  | _, [] => []
  | seen, (idx, mapped) :: rows =>
    match codeOf mapped with
    | none => duplicateErrors seen rows
    | some code =>
      match Dict.get seen code with
      | some first =>
        ⟨idx, "sku_code", some code,
          s!"Duplicate sku_code '{code}' in file (first seen at row {first})"⟩ ::
            duplicateErrors seen rows
      | none => duplicateErrors (Dict.set seen code idx) rows

/-- The warnings of rows whose code the catalogue has. -/
def existingWarnings (existing : List String) (rows : List (ℕ × MappedRow)) :
    List ImportWarningDetail :=
  rows.filterMap fun (idx, mapped) =>
    ((codeOf mapped).filter (· ∈ existing)).map fun code =>
      ⟨idx, "sku_code", s!"sku_code '{code}' already exists in catalog; " ++
        "apply with on_conflict='skip' or 'update' to handle"⟩

/-- `ImportValidateResponse`. -/
structure ImportValidateResponse where
  status : RunStatus
  validRows : ℕ
  errorRows : ℕ
  warningRows : ℕ
  errors : List ImportErrorDetail
  warnings : List ImportWarningDetail
  deriving DecidableEq

/-- The data rows of a run as a mapping reads them, numbered from 1. -/
def numbered (rows : List Row) (mapping : Dict String String) : List (ℕ × MappedRow) :=
  rows.zipIdx.map fun p => (p.2 + 1, applyMapping p.1 mapping)

/-- `validate`. -/
def validate (run : ImportRun) (mapping : Dict String String) (existingSkuCodes : List String) :
    Except ImportError (ImportRun × ImportValidateResponse) := do
  refuseIf (run.status ≠ .previewed ∧ run.status ≠ .needsReview) (.http 409 "INVALID_STATUS")
  refuseIf (validateMapping mapping ≠ []) (.http 400 "INVALID_MAPPING")
  refuseIf (run.rows = []) (.http 400 "NO_ROWS")
  refuseIf (∃ field ∈ requiredFields, field ∉ mapping.map Prod.snd)
    (.http 400 "MISSING_REQUIRED_FIELDS")
  let rows := numbered run.rows mapping
  let errors := (rows.flatMap fun p => rowErrors p.1 p.2) ++ duplicateErrors [] rows
  let warnings := (rows.flatMap fun p => rowWarnings p.1 run.columns mapping p.2) ++
    existingWarnings existingSkuCodes rows
  let errorRows := (errors.map ImportErrorDetail.row).dedup.length
  let validRows := run.rows.length - errorRows
  let status := if errorRows = 0 then RunStatus.validated else .needsReview
  let warningRows := warnings.length
  return (
    { run with status, fieldMapping := Jsonb.object mapping, validRows, errorRows, warningRows },
    { status, validRows, errorRows, warningRows, errors, warnings })

/-! ## Application -/

/-- `on_conflict`. -/
inductive OnConflict | skip | fail
  deriving DecidableEq, Repr

/-- `ImportApplyResponse`. -/
structure ImportApplyResponse where
  created : ℕ
  skipped : ℕ
  deriving DecidableEq

/-- Where the loop over the rows stands. -/
structure ApplyState where
  catalogue : Catalogue
  existing : List String
  created : ℕ
  skipped : ℕ
  errors : List ImportErrorDetail

/-- `is_active` of a row: as it is unless the row says otherwise. -/
def activeOf (mapped : MappedRow) : Bool :=
  (mapped.get "is_active").all fun text => lower text ∈ ["true", "1", "yes"]

/-- The product of a row. -/
def productOf (name : String) (mapped : MappedRow) : ProductRow where
  name
  description := mapped.get "description"
  category := mapped.get "category"
  isActive := activeOf mapped

/-- The unit of a row. A unit without a text for it is stored with the default of its column. -/
def skuOf (skuCode name : String) (mapped : MappedRow) (catalogProductId : ℕ) : SkuRow where
  catalogProductId
  skuCode
  name
  description := mapped.get "description"
  unit := (mapped.get "unit").getD "unit"
  packageQuantity := 1
  category := mapped.get "category"
  isActive := activeOf mapped
  isDeleted := false

/-- One row of the loop of `apply`. -/
def applyRow (s : ApplyState) (idx : ℕ) (mapped : MappedRow) : Except ImportError ApplyState :=
  match (mapped.get "sku_code").filter (· ≠ "") with
  | none =>
    let error : ImportErrorDetail :=
      ⟨idx, "sku_code", none, "Missing or invalid sku_code in mapped row"⟩
    .ok { s with errors := s.errors ++ [error] }
  | some text =>
    let skuCode := strip text
    if skuCode ∈ s.existing then .ok { s with skipped := s.skipped + 1 }
    else do
      let name ← orRefuse ((Dict.get mapped.fields "name").getD (some ""))
        (.database .notNullViolation)
      let (catalogue, _) ← (s.catalogue.createUnit (productOf name mapped)
        (skuOf skuCode name mapped)).mapError .database
      return { s with catalogue, existing := s.existing ++ [skuCode], created := s.created + 1 }

/-- The loop of `apply`. -/
def applyRows (s : ApplyState) : List (ℕ × MappedRow) → Except ImportError ApplyState
  | [] => .ok s
  | (idx, mapped) :: rows => do
    let s ← applyRow s idx mapped
    applyRows s rows

/-- The rows whose code the catalogue has, as conflicts. -/
def conflictErrors (existing : List String) (rows : List (ℕ × MappedRow)) :
    List ImportErrorDetail :=
  rows.filterMap fun (idx, mapped) =>
    (((mapped.get "sku_code").filter (· ≠ "")).map strip |>.filter (· ∈ existing)).map fun code =>
      ⟨idx, "sku_code", some code, s!"sku_code '{code}' already exists in catalog " ++
        "and on_conflict='fail' was specified"⟩

/-- `apply`. -/
def apply (run : ImportRun) (onConflict : OnConflict) (catalogue : Catalogue) :
    Except ImportError (Catalogue × ImportRun × ImportApplyResponse) := do
  refuseIf (run.status ≠ .validated) (.http 409 "INVALID_STATUS")
  refuseIf (run.rows = []) (.http 400 "NO_ROWS")
  refuseIf (run.fieldMapping.any fun p => isCustom p.2) (.http 422 "STOP_AND_REPORT_CTO")
  let rows := numbered run.rows run.fieldMapping
  let conflicts := conflictErrors catalogue.codes rows
  refuseIf (onConflict = .fail ∧ conflicts ≠ []) (.conflictDetected conflicts)
  let s ← applyRows ⟨catalogue, catalogue.codes, 0, 0, []⟩ rows
  refuseIf (s.errors ≠ []) (.rowProcessingErrors s.errors)
  return (s.catalogue,
    { run with status := .applied, createdRows := s.created, skippedRows := s.skipped },
    { created := s.created, skipped := s.skipped })

end Mpango.SkuImport
