import Mpango.Model.IntakeWorkspace

/-!
# Ready workspaces

Readiness is a flag. A validation that has read the rows before writes it, and uploads and mappings
that have loaded it before reset it, unless they loaded what they would write. As long as these
requests find what they have seen, and no workspace without rows is validated, the flag says what it
should: the rows are those that were validated, and an apply creates all of them.
-/

namespace Mpango.Intake

/-! ## Values and columns -/

@[simp] theorem stringOrNone_none : stringOrNone none = none := if_pos rfl

/-- A value is trimmed once. -/
theorem stringOrNone_stringOrNone (value : Option String) :
    stringOrNone (stringOrNone value) = stringOrNone value := by
  unfold stringOrNone
  by_cases h : cellToString value = ""
  · rw [if_pos h]
    exact if_pos rfl
  · have htwice : cellToString (some (cellToString value)) = cellToString value := by
      cases value with
      | none => exact absurd rfl h
      | some text => exact strip_strip text
    rw [if_neg h, htwice, if_neg h]

/-- The columns of a row are the fields of its values. -/
def StagedRow.Copied (row : StagedRow) : Prop := copyKnownFields row = row

theorem copied_copyKnownFields (row : StagedRow) : (copyKnownFields row).Copied := rfl

/-- Rows that a validation finds no error in. -/
structure Validated (rows : List StagedRow) : Prop where
  nonempty : rows ≠ []
  skuCode : ∀ row ∈ rows, row.value "sku_code" ≠ none
  name : ∀ row ∈ rows, row.value "name" ≠ none
  lengths : ∀ row ∈ rows, ∀ p ∈ fieldLengths, ∀ text ∈ row.value p.1, text.length ≤ p.2
  distinct : (rows.map fun row => row.value "sku_code").Nodup

variable {isDecimal : String → Bool}

theorem validated_of_findings {uploads : List Upload} {mapping : Dict String String}
    {rows : List StagedRow} (hrows : rows ≠ [])
    (h : validatedStatus (findings isDecimal uploads mapping rows) = .readyForExport) :
    Validated rows := by
  have hcount : (findings isDecimal uploads mapping rows).countP (fun f => f.severity = .error) =
      0 := by
    unfold validatedStatus at h
    by_contra hne
    rw [if_neg hne] at h
    cases h
  rw [List.countP_eq_zero] at hcount
  have hfound : ∀ f ∈ findings isDecimal uploads mapping rows, f.severity ≠ .error :=
    fun f hf herror => hcount f hf (decide_eq_true herror)
  have hrow : ∀ row ∈ rows, ∀ f ∈ rowFindings isDecimal row, f.severity ≠ .error := by
    intro row hmem f hf
    refine hfound f (List.mem_append_left _ (List.mem_append_left _ ?_))
    exact List.mem_flatMap.mpr ⟨row, hmem, hf⟩
  have hcodes : ∀ row ∈ rows, row.value "sku_code" ≠ none := by
    intro row hmem hnone
    refine hrow row hmem (rowFinding row "MISSING_SKU_CODE" "sku_code" "Missing sku_code") ?_ rfl
    simp [rowFindings, hnone]
  refine ⟨hrows, hcodes, ?_, ?_, ?_⟩
  · intro row hmem hnone
    refine hrow row hmem (rowFinding row "MISSING_NAME" "name" "Missing name") ?_ rfl
    simp [rowFindings, hnone]
  · intro row hmem p hp text htext
    by_contra hlong
    refine hrow row hmem (rowFinding row "FIELD_TOO_LONG" p.1
      s!"{p.1} exceeds {p.2} characters") ?_ rfl
    have hany : (row.value p.1).any (fun text => p.2 < text.length) = true := by
      rw [show row.value p.1 = some text from htext]
      simpa using hlong
    simp only [rowFindings, List.mem_append]
    exact .inl (.inr (List.mem_map.mpr ⟨p, List.mem_filter.mpr ⟨hp, hany⟩, rfl⟩))
  · rw [List.nodup_iff_count_le_one]
    intro value
    have hcount : (rows.map fun row => row.value "sku_code").count value =
        (rows.filter fun row => row.value "sku_code" = value).length := by
      rw [List.count_eq_countP, List.countP_map, List.countP_eq_length_filter]
      congr 1
      apply List.filter_congr
      intro row hmem
      exact beq_eq_decide _ _
    rw [hcount]
    by_contra hmany
    -- Two rows of one value have a code, and the first of them is reported.
    obtain ⟨row, hrest⟩ : ∃ row, row ∈ rows.filter fun row => row.value "sku_code" = value :=
      List.exists_mem_of_length_pos (by omega)
    obtain ⟨hmem, hvalue⟩ := List.mem_filter.mp hrest
    rw [decide_eq_true_eq] at hvalue
    obtain ⟨code, hcode⟩ := Option.ne_none_iff_exists'.mp (hcodes row hmem)
    obtain rfl : value = some code := hvalue.symm.trans hcode
    refine hfound (rowFinding row "DUPLICATE_STAGED_SKU_CODE" "sku_code"
      s!"Duplicate staged sku_code '{code}' in this workspace")
      (List.mem_append_left _ (List.mem_append_right _ ?_)) rfl
    refine List.mem_flatMap.mpr ⟨code, ?_, ?_⟩
    · exact List.mem_eraseDups.mpr (List.mem_filterMap.mpr ⟨row, hmem, hcode⟩)
    · dsimp only
      rw [if_neg (by omega)]
      exact List.mem_map.mpr ⟨row, hrest, rfl⟩

/-! ## What a commit leaves -/

theorem written_loaded {α : Type} [DecidableEq α] (loaded new : α) :
    written loaded new loaded = new := by
  unfold written
  by_cases h : new = loaded
  · rw [if_pos h, h]
  · exact if_neg h

/-- A mapping that has read a row as it still is leaves it mapped. -/
theorem writtenRow_mapRow (uploads : List Upload) (mapping : Dict String String) (version : ℕ)
    (row : StagedRow) :
    writtenRow row (mapRow uploads mapping version row) row = mapRow uploads mapping version row := by
  unfold writtenRow
  simp only [written_loaded]
  rfl

theorem eq_of_id {rows : List StagedRow} (hids : (rows.map StagedRow.id).Nodup)
    {row row' : StagedRow} (h : row ∈ rows) (h' : row' ∈ rows) (heq : row.id = row'.id) :
    row = row' :=
  List.inj_on_of_nodup_map hids h h' heq

/-- A mapping whose rows are still there leaves every row as it was or mapped. -/
theorem copied_commitMapping {w : Workspace} {s : Session} {mapping : Dict String String}
    {uploads : List Upload} {rows : List StagedRow} (hids : (w.rows.map StagedRow.id).Nodup)
    (hcopied : ∀ row ∈ w.rows, row.Copied) (hread : ∀ row ∈ rows, row ∈ w.rows) {row : StagedRow}
    (h : row ∈ (w.commitMapping s mapping uploads rows).rows) : row.Copied := by
  obtain ⟨old, hold, rfl⟩ := List.mem_map.mp h
  split
  · next loaded hfind =>
    have hid : loaded.id = old.id := by
      simpa using List.find?_some hfind
    obtain rfl : loaded = old := eq_of_id hids (hread loaded (List.mem_of_find?_eq_some hfind)) hold hid
    rw [writtenRow_mapRow]
    exact copied_copyKnownFields _
  · exact hcopied old hold

theorem ids_commitMapping (w : Workspace) (s : Session) (mapping : Dict String String)
    (uploads : List Upload) (rows : List StagedRow) :
    (w.commitMapping s mapping uploads rows).rows.map StagedRow.id = w.rows.map StagedRow.id := by
  show (w.rows.map _).map _ = _
  rw [List.map_map]
  apply List.map_congr_left
  intro row hrow
  rw [Function.comp_apply]
  split <;> rfl

theorem ids_uploadRows (firstId uploadId : ℕ) (headers : List String)
    (values : List (List String)) :
    (uploadRows firstId uploadId headers values).map StagedRow.id =
      (List.range values.length).map (firstId + ·) := by
  unfold uploadRows
  apply List.ext_getElem
  · simp
  · intro i hi hi'
    simp

theorem copied_of_mem_uploadRows {firstId uploadId : ℕ} {headers : List String}
    {values : List (List String)} {row : StagedRow}
    (h : row ∈ uploadRows firstId uploadId headers values) : row.Copied := by
  obtain ⟨i, hi, rfl⟩ := List.mem_mapIdx.mp h
  rfl

namespace World

/-! ## The invariant -/

/-- The flag says what it should. -/
structure Consistent (x : World) : Prop where
  ids : (x.workspace.rows.map StagedRow.id) = List.range x.workspace.rows.length
  copied : ∀ row ∈ x.workspace.rows, row.Copied
  ready : x.workspace.status = .readyForExport →
    Validated x.workspace.rows ∧ x.covered = x.workspace.rows
  applications : x.applications = if x.workspace.applyStatus = .applied then 1 else 0

/-- A commit finds what its session has seen: an upload or a mapping the status, if it loaded the one
that it would write and so does not write it, a mapping its rows, and a validation all rows, of
which there are some. -/
def Undisturbed (x : World) : Event → Prop
  | .commit i => ∀ s ∈ x.sessions i,
    match s.request, s.read with
    | .upload _ _, _ => s.status = .uploaded → x.workspace.status ≠ .readyForExport
    | .mapping _, some (_, rows) =>
      (s.status = .mapped → x.workspace.status ≠ .readyForExport) ∧
        ∀ row ∈ rows, row ∈ x.workspace.rows
    | .validation, some (_, rows) => rows = x.workspace.rows ∧ rows ≠ []
    | _, _ => True
  | _ => True

variable {x : World} {i : ℕ} {s : Session}

theorem Consistent.nodup (h : x.Consistent) : (x.workspace.rows.map StagedRow.id).Nodup := by
  rw [h.ids]
  exact List.nodup_range

theorem consistent_fresh (c : Catalogue) : (fresh c).Consistent where
  ids := rfl
  copied := fun _ h => absurd h List.not_mem_nil
  ready := nofun
  applications := rfl

theorem written_ne_ready {loaded new committed : WorkspaceStatus} (hnew : new ≠ .readyForExport)
    (h : loaded = new → committed ≠ .readyForExport) :
    written loaded new committed ≠ .readyForExport := by
  unfold written
  split
  · next heq => exact h heq.symm
  · exact hnew

theorem Consistent.commitUpload (h : x.Consistent)
    (hstatus : s.status = .uploaded → x.workspace.status ≠ .readyForExport) (headers : List String)
    (values : List (List String)) :
    (x.finish i (x.workspace.commitUpload s headers values)).Consistent := by
  refine ⟨?_, ?_, ?_, h.applications⟩
  · show (x.workspace.rows ++ uploadRows _ _ _ _).map _ = List.range (_ ++ uploadRows _ _ _ _).length
    rw [List.map_append, ids_uploadRows, h.ids, List.length_append, List.range_add]
    simp [uploadRows]
  · intro row hrow
    rcases List.mem_append.mp hrow with hrow | hrow
    · exact h.copied row hrow
    · exact copied_of_mem_uploadRows hrow
  · intro hready
    exact absurd hready (written_ne_ready nofun hstatus)

theorem Consistent.commitMapping (h : x.Consistent)
    (hstatus : s.status = .mapped → x.workspace.status ≠ .readyForExport)
    (mapping : Dict String String) (uploads : List Upload) {rows : List StagedRow}
    (hread : ∀ row ∈ rows, row ∈ x.workspace.rows) :
    (x.finish i (x.workspace.commitMapping s mapping uploads rows)).Consistent := by
  refine ⟨?_, ?_, ?_, h.applications⟩
  · show (x.workspace.commitMapping s mapping uploads rows).rows.map _ =
      List.range (x.workspace.rows.map _).length
    rw [ids_commitMapping, List.length_map]
    exact h.ids
  · intro row hrow
    exact copied_commitMapping h.nodup h.copied hread hrow
  · intro hready
    exact absurd hready (written_ne_ready nofun hstatus)

theorem Consistent.commitValidation (h : x.Consistent) (hrows : x.workspace.rows ≠ [])
    (deleted : List ℕ) (uploads : List Upload) (mapping : Dict String String) :
    ({ x.finish i (x.workspace.commitValidation s deleted
        (findings isDecimal uploads mapping x.workspace.rows)) with
      covered :=
        if validatedStatus (findings isDecimal uploads mapping x.workspace.rows) = .readyForExport
        then x.workspace.rows else x.covered } : World).Consistent := by
  refine ⟨h.ids, h.copied, ?_, h.applications⟩
  intro hready
  by_cases hfound : validatedStatus (findings isDecimal uploads mapping x.workspace.rows) =
      .readyForExport
  · exact ⟨validated_of_findings hrows hfound, if_pos hfound⟩
  · -- The flag is as before, and so is what it says.
    have hold : x.workspace.status = .readyForExport := by
      by_contra hne
      exact written_ne_ready hfound (fun _ => hne) hready
    rw [if_neg hfound]
    exact h.ready hold

end World

/-! ## What an apply creates -/

/-- A product, a unit and a stock row for each prepared row, in order. -/
def Creates (c : Catalogue) : List PreparedRow → Catalogue → Prop
  | [], c' => c' = c
  | p :: ps, c' => ∃ c₁, c.Adds p.product p.sku c₁ ∧ Creates c₁ ps c'

theorem Creates.grows {c c' : Catalogue} {ps : List PreparedRow} (h : Creates c ps c') :
    c.Grows c' ps.length := by
  induction ps generalizing c with
  | nil =>
    obtain rfl : c' = c := h
    exact Catalogue.grows_refl c'
  | cons p ps ih =>
    obtain ⟨c₁, hadds, hrest⟩ := h
    exact hadds.grows (ih hrest)

theorem creates_of_createAll {c c' : Catalogue} {ps : List PreparedRow}
    (h : createAll c ps = .ok c') : Creates c ps c' := by
  induction ps generalizing c with
  | nil => exact (Except.ok.inj h).symm
  | cons p ps ih =>
    obtain ⟨⟨c₁, id⟩, hcreate, hrest⟩ := bind_eq_ok.mp h
    obtain ⟨-, -, hadds, -⟩ := Catalogue.createUnit_eq_ok.mp hcreate
    exact ⟨c₁, hadds, ih hrest⟩

/-- The columns of the catalogue hold a prepared row. -/
structure PreparedRow.Bounded (p : PreparedRow) : Prop where
  skuCode : p.skuCode.length ≤ 64
  name : p.name.length ≤ 255
  unit : ∀ unit ∈ p.unit, unit.length ≤ 32
  category : ∀ category ∈ p.category, category.length ≤ 64

theorem PreparedRow.Bounded.fits {p : PreparedRow} (h : p.Bounded) (id : ℕ) :
    Catalogue.Fits p.product (p.sku id) := by
  have hunit : (p.unit.getD "unit").length ≤ 32 := by
    cases hget : p.unit with
    | none => decide
    | some unit => exact h.unit unit hget
  exact ⟨h.name, h.category, h.skuCode, h.name, hunit, h.category⟩

/-- New codes that differ are all created. -/
theorem exists_createAll {c : Catalogue} (ps : List PreparedRow) (hbounded : ∀ p ∈ ps, p.Bounded)
    (hnew : ∀ p ∈ ps, p.skuCode ∉ c.codes) (hnodup : (ps.map PreparedRow.skuCode).Nodup) :
    ∃ c', createAll c ps = .ok c' := by
  induction ps generalizing c with
  | nil => exact ⟨c, rfl⟩
  | cons p ps ih =>
    rw [List.forall_mem_cons] at hbounded hnew
    obtain ⟨hdiffers, hnodup⟩ := List.nodup_cons.mp hnodup
    obtain ⟨c₁, hadds⟩ : ∃ c₁, c.Adds p.product p.sku c₁ := Catalogue.exists_adds p.product hnew.1
    have hcreate : c.createUnit p.product p.sku = .ok (c₁, _) :=
      Catalogue.createUnit_eq_ok.mpr ⟨hbounded.1.fits _, hnew.1, hadds, rfl⟩
    have hnew₁ : ∀ q ∈ ps, q.skuCode ∉ c₁.codes := by
      intro q hq hcode
      rw [hadds.codes, List.mem_append, List.mem_singleton] at hcode
      rcases hcode with hcode | hcode
      · exact hnew.2 q hq hcode
      · exact hdiffers (List.mem_map.mpr ⟨q, hq, hcode⟩)
    obtain ⟨c', hrest⟩ := ih hbounded.2 hnew₁ hnodup
    exact ⟨c', bind_eq_ok.mpr ⟨_, hcreate, hrest⟩⟩

/-! ## Ready rows -/

/-- A row as it was validated. -/
def StagedRow.validated (row : StagedRow) : PreparedRow where
  skuCode := (row.value "sku_code").getD ""
  name := (row.value "name").getD ""
  unit := row.value "unit"
  category := row.value "category"

section Ready
variable {rows : List StagedRow} {row : StagedRow}

/-- A validated value is what its column says. -/
theorem Validated.column (h : Validated rows) (hrow : row ∈ rows) {field : String} {n : ℕ}
    (hfield : (field, n) ∈ fieldLengths) :
    stringOrNone (boundedStringOrNone (Dict.get row.normalizedValues field) n) =
      row.value field := by
  have hbounded : boundedStringOrNone (Dict.get row.normalizedValues field) n = row.value field := by
    have hlength := h.lengths row hrow (field, n) hfield
    unfold boundedStringOrNone
    show (row.value field).filter _ = _
    cases hvalue : row.value field with
    | none => rfl
    | some text => exact Option.filter_eq_some_iff.mpr ⟨rfl, decide_eq_true (hlength text hvalue)⟩
  rw [hbounded]
  exact stringOrNone_stringOrNone _

theorem Validated.columns (h : Validated rows) (hcopied : ∀ row ∈ rows, row.Copied)
    (hrow : row ∈ rows) :
    stringOrNone row.skuCode = row.value "sku_code" ∧ stringOrNone row.name = row.value "name" ∧
      stringOrNone row.unit = row.value "unit" ∧
      stringOrNone row.category = row.value "category" := by
  have hcopy : copyKnownFields row = row := hcopied row hrow
  refine ⟨?_, ?_, ?_, ?_⟩
  · rw [← congrArg StagedRow.skuCode hcopy]
    exact h.column hrow (by decide)
  · rw [← congrArg StagedRow.name hcopy]
    exact h.column hrow (by decide)
  · rw [← congrArg StagedRow.unit hcopy]
    exact h.column hrow (by decide)
  · rw [← congrArg StagedRow.category hcopy]
    exact h.column hrow (by decide)

theorem Validated.prepareRow (h : Validated rows) (hcopied : ∀ row ∈ rows, row.Copied)
    (hrow : row ∈ rows) : prepareRow row = some row.validated ∧ prepareErrors row = [] := by
  obtain ⟨hcode, hname, hunit, hcategory⟩ := h.columns hcopied hrow
  obtain ⟨code, hcode'⟩ := Option.ne_none_iff_exists'.mp (h.skuCode row hrow)
  obtain ⟨name, hname'⟩ := Option.ne_none_iff_exists'.mp (h.name row hrow)
  constructor
  · unfold Intake.prepareRow StagedRow.validated
    simp only [hcode, hname, hunit, hcategory, hcode', hname', Option.getD_some]
  · unfold prepareErrors
    rw [hcode, hname, hcode', hname']
    rfl

theorem Validated.filterMap_prepareRow (h : Validated rows) (hcopied : ∀ row ∈ rows, row.Copied) :
    rows.filterMap Intake.prepareRow = rows.map StagedRow.validated := by
  rw [← List.filterMap_eq_map]
  apply List.filterMap_congr
  intro row hrow
  exact (h.prepareRow hcopied hrow).1

theorem Validated.nodup_codes (h : Validated rows) :
    ((rows.map StagedRow.validated).map PreparedRow.skuCode).Nodup := by
  have hmap : (rows.map fun row => row.value "sku_code") =
      ((rows.map StagedRow.validated).map PreparedRow.skuCode).map some := by
    rw [List.map_map, List.map_map]
    apply List.map_congr_left
    intro row hrow
    obtain ⟨code, hcode⟩ := Option.ne_none_iff_exists'.mp (h.skuCode row hrow)
    simp only [Function.comp_apply, StagedRow.validated, hcode, Option.getD_some]
  have hdistinct := h.distinct
  rw [hmap] at hdistinct
  exact hdistinct.of_map _

theorem Validated.bounded (h : Validated rows) (hrow : row ∈ rows) : row.validated.Bounded := by
  obtain ⟨code, hcode⟩ := Option.ne_none_iff_exists'.mp (h.skuCode row hrow)
  obtain ⟨name, hname⟩ := Option.ne_none_iff_exists'.mp (h.name row hrow)
  refine ⟨?_, ?_, h.lengths row hrow ("unit", 32) (by decide),
    h.lengths row hrow ("category", 64) (by decide)⟩
  · rw [StagedRow.validated, hcode]
    exact h.lengths row hrow ("sku_code", 64) (by decide) code hcode
  · rw [StagedRow.validated, hname]
    exact h.lengths row hrow ("name", 255) (by decide) name hname

end Ready

/-- Past the checks that validated rows pass. -/
theorem applyWorkspace_of_validated {w : Workspace} (hstatus : w.status = .readyForExport)
    (h : Validated w.rows) (hcopied : ∀ row ∈ w.rows, row.Copied) (c : Catalogue) :
    applyWorkspace w c = do
      refuseIf (w.applyStatus = .applied) .alreadyApplied
      refuseIf (0 < w.issues.countP fun issue => issue.finding.isBlocking) .blockingIssues
      let prepared := w.rows.map StagedRow.validated
      let existingCodes := c.codes.filter fun code =>
        (prepared.map PreparedRow.skuCode).contains code
      refuseIf (existingCodes ≠ []) (.skuCodeExists (sortedSet existingCodes))
      let c ← (createAll c prepared).mapError .catalogue
      return ({ w with applyStatus := .applied }, c) := by
  have herrors : w.rows.flatMap prepareErrors = [] := by
    rw [List.flatMap_eq_nil_iff]
    intro row hrow
    exact (h.prepareRow hcopied hrow).2
  have hduplicates : (((w.rows.map StagedRow.validated).map PreparedRow.skuCode).filter fun code =>
      1 < ((w.rows.map StagedRow.validated).map PreparedRow.skuCode).count code) = [] := by
    rw [List.filter_eq_nil_iff]
    intro code hcode
    have hle := List.nodup_iff_count_le_one.mp h.nodup_codes code
    rw [decide_eq_true_eq]
    omega
  unfold applyWorkspace
  rw [h.filterMap_prepareRow hcopied, herrors]
  dsimp only
  rw [hduplicates, refuseIf_neg (c := w.status ≠ .readyForExport) (not_not.mpr hstatus),
    refuseIf_neg h.nonempty, refuseIf_neg (not_not.mpr rfl), refuseIf_neg (not_not.mpr rfl)]
  rfl

/-- Validated rows are applied as a whole, unless they were, issues stand against it, or a code is
taken. -/
theorem applyWorkspace_error {w : Workspace} (hstatus : w.status = .readyForExport)
    (h : Validated w.rows) (hcopied : ∀ row ∈ w.rows, row.Copied) {c : Catalogue} {e : ApplyError}
    (he : applyWorkspace w c = .error e) :
    e = .alreadyApplied ∨ e = .blockingIssues ∨ ∃ codes, e = .skuCodeExists codes := by
  rw [applyWorkspace_of_validated hstatus h hcopied] at he
  simp only [bind_eq_error, refuseIf_eq_error, refuseIf_eq_ok, mapError_eq_error, pure_ne_error,
    and_false, exists_false, or_false] at he
  rcases he with ⟨-, rfl⟩ | ⟨-, -, ⟨-, rfl⟩ | ⟨-, -, ⟨-, rfl⟩ | ⟨-, hfree, d, hcreate, -⟩⟩⟩
  · exact .inl rfl
  · exact .inr (.inl rfl)
  · exact .inr (.inr ⟨_, rfl⟩)
  · rw [not_not, List.filter_eq_nil_iff] at hfree
    obtain ⟨c', hok⟩ := exists_createAll (c := c) (w.rows.map StagedRow.validated)
      (List.forall_mem_map.mpr fun row hrow => h.bounded hrow)
      (fun p hp hcode => hfree _ hcode
        (List.contains_iff_mem.mpr (List.mem_map.mpr ⟨p, hp, rfl⟩))) h.nodup_codes
    rw [hok] at hcreate
    cases hcreate

theorem applyWorkspace_ok {w w' : Workspace} {c c' : Catalogue}
    (happly : applyWorkspace w c = .ok (w', c')) :
    w.applyStatus = .notApplied ∧ w' = { w with applyStatus := .applied } ∧
      Creates c (w.rows.filterMap Intake.prepareRow) c' := by
  unfold applyWorkspace at happly
  simp only [bind_eq_ok, refuseIf_eq_ok, mapError_eq_ok, pure_eq_ok] at happly
  obtain ⟨-, hstatus, -, -, -, -, -, -, -, -, -, -, -, -, c₁, hcreate, heq⟩ := happly
  obtain ⟨rfl, rfl⟩ := Prod.mk.inj heq
  refine ⟨?_, rfl, creates_of_createAll hcreate⟩
  cases hcase : w.applyStatus with
  | notApplied => rfl
  | applied => exact absurd hcase hstatus

namespace World

/-- What readiness promises: the rows are those that were validated, as they were, and an apply
creates all of them, unless it is refused for what lies outside the rows. -/
structure Complete (x : World) : Prop where
  covered : ∀ row ∈ x.workspace.rows, ∃ r ∈ x.covered,
    r.id = row.id ∧ r.normalizedValues = row.normalizedValues
  refuses : ∀ {c e}, applyWorkspace x.workspace c = .error e →
    e = .alreadyApplied ∨ e = .blockingIssues ∨ ∃ codes, e = .skuCodeExists codes
  creates : ∀ {c w' c'}, applyWorkspace x.workspace c = .ok (w', c') →
    Creates c (x.workspace.rows.map StagedRow.validated) c' ∧
      c.Grows c' x.workspace.rows.length

variable {x : World} {events : List Event}

theorem Consistent.complete (h : x.Consistent) (hready : x.workspace.status = .readyForExport) :
    x.Complete := by
  obtain ⟨hvalidated, hcovered⟩ := h.ready hready
  refine ⟨?_, ?_, ?_⟩
  · intro row hrow
    exact ⟨row, hcovered ▸ hrow, rfl, rfl⟩
  · intro c e he
    exact applyWorkspace_error hready hvalidated h.copied he
  · intro c w' c' happly
    have hcreates := (applyWorkspace_ok happly).2.2
    rw [hvalidated.filterMap_prepareRow h.copied] at hcreates
    have hgrows := hcreates.grows
    rw [List.length_map] at hgrows
    exact ⟨hcreates, hgrows⟩

/-- A refused apply leaves everything as it was. -/
theorem step_apply_of_error {e : ApplyError} (h : applyWorkspace x.workspace x.catalogue = .error e) :
    x.step isDecimal .apply = x := by
  rw [step, h]

/-- One undisturbed event. -/
theorem Consistent.step (h : x.Consistent) {event : Event} (hevent : x.Undisturbed event) :
    (x.step isDecimal event).Consistent := by
  cases event with
  | start i request =>
    simp only [World.step]
    split
    · exact ⟨h.ids, h.copied, h.ready, h.applications⟩
    · exact h
  | delete i =>
    simp only [World.step]
    split
    · exact ⟨h.ids, h.copied, h.ready, h.applications⟩
    · exact h
  | read i =>
    simp only [World.step]
    split
    · exact ⟨h.ids, h.copied, h.ready, h.applications⟩
    · exact h
  | commit i =>
    simp only [World.step]
    cases hs : x.sessions i with
    | none => exact h
    | some s =>
      have hseen := hevent s hs
      dsimp only
      split
      · next hrequest =>
        rw [hrequest] at hseen
        exact h.commitUpload hseen _ _
      · next hrequest hread =>
        rw [hrequest, hread] at hseen
        exact h.commitMapping hseen.1 _ _ hseen.2
      · next hrequest hdeleted hread =>
        rw [hrequest, hread] at hseen
        obtain ⟨rfl, hrows⟩ := hseen
        exact h.commitValidation hrows _ _ _
      · exact h
  | abort i => exact ⟨h.ids, h.copied, h.ready, h.applications⟩
  | apply =>
    cases happly : applyWorkspace x.workspace x.catalogue with
    | error e =>
      rw [step_apply_of_error happly]
      exact h
    | ok result =>
      obtain ⟨w', c'⟩ := result
      obtain ⟨hstatus, rfl, -⟩ := applyWorkspace_ok happly
      simp only [World.step, happly]
      refine ⟨h.ids, h.copied, h.ready, ?_⟩
      show x.applications + 1 = _
      rw [h.applications, hstatus]
      rfl
  | change c => exact ⟨h.ids, h.copied, h.ready, h.applications⟩

/-- **Readiness.** In every run in which the commits find what they have seen, and no validation has
read no row: a workspace that is ready applies completely, it is applied at most once, and an apply
that is refused changes nothing. -/
theorem ready_completes {c : Catalogue}
    (h : Along (step isDecimal) Undisturbed (fresh c) events) :
    ((events.foldl (step isDecimal) (fresh c)).workspace.status = .readyForExport →
      (events.foldl (step isDecimal) (fresh c)).Complete) ∧
    (events.foldl (step isDecimal) (fresh c)).applications ≤ 1 ∧
    ∀ e, applyWorkspace (events.foldl (step isDecimal) (fresh c)).workspace
        (events.foldl (step isDecimal) (fresh c)).catalogue = .error e →
      (events.foldl (step isDecimal) (fresh c)).step isDecimal .apply =
        events.foldl (step isDecimal) (fresh c) := by
  have hconsistent : (events.foldl (step isDecimal) (fresh c)).Consistent :=
    Along.foldl_induction (fun _ _ hx hevent => hx.step hevent) (consistent_fresh c) h
  refine ⟨hconsistent.complete, ?_, fun e he => step_apply_of_error he⟩
  rw [hconsistent.applications]
  split
  · exact le_rfl
  · exact Nat.zero_le 1

/-- A catalogue without a product. -/
def bare : Catalogue := ⟨[], [], [], List.nodup_nil, fun _ h => absurd h List.not_mem_nil⟩

def uploads (i : ℕ) (code : String) : List Event :=
  [.start i (.upload ["sku_code", "name"] [[code, "Rice"]]), .commit i]

def maps (i : ℕ) : List Event :=
  [.start i (.mapping [("sku_code", "sku_code"), ("name", "name")]), .read i, .commit i]

/-- One request after another. -/
def orderly : List Event :=
  uploads 0 "A-1" ++ maps 1 ++ [.start 2 .validation, .delete 2, .read 2, .commit 2]

theorem ready_completes_orderly :
    ((orderly.foldl (step fun _ => true) (fresh bare)).workspace.status = .readyForExport →
      (orderly.foldl (step fun _ => true) (fresh bare)).Complete) ∧
    (orderly.foldl (step fun _ => true) (fresh bare)).applications ≤ 1 ∧
    ∀ e, applyWorkspace (orderly.foldl (step fun _ => true) (fresh bare)).workspace
        (orderly.foldl (step fun _ => true) (fresh bare)).catalogue = .error e →
      (orderly.foldl (step fun _ => true) (fresh bare)).step (fun _ => true) .apply =
        orderly.foldl (step fun _ => true) (fresh bare) := by
  refine ready_completes ⟨trivial, ?_, trivial, trivial, ?_, trivial, trivial, trivial, ?_, trivial⟩
  · intro s hs
    obtain rfl := Option.some.inj hs
    exact nofun
  · intro s hs
    obtain rfl := Option.some.inj hs
    exact ⟨nofun, fun _ hrow => hrow⟩
  · intro s hs
    obtain rfl := Option.some.inj hs
    exact ⟨rfl, nofun⟩

/-- A workspace is validated before it has a row. -/
def emptyValidation : List Event :=
  [.start 0 .validation, .delete 0, .read 0, .commit 0]

/-- A row is uploaded while a validation that has not read it is in flight. -/
def lateUpload : List Event :=
  uploads 0 "A-1" ++ maps 1 ++ [.start 2 .validation, .delete 2, .read 2] ++ uploads 3 "B-2" ++
    [.commit 2]

theorem refused_of_ready (refused : ApplyError → Bool) {w : Workspace} {c : Catalogue}
    (h : (match applyWorkspace w c with | .ok _ => false | .error e => refused e) = true) :
    ∃ e, applyWorkspace w c = .error e ∧ refused e = true := by
  cases happly : applyWorkspace w c with
  | ok result =>
    rw [happly] at h
    cases h
  | error e =>
    rw [happly] at h
    exact ⟨e, rfl, h⟩

/-- Both are ready, and the apply finds no row, or one that was never mapped. -/
theorem ready_incomplete :
    ((emptyValidation.foldl (step fun _ => true) (fresh bare)).workspace.status =
        .readyForExport ∧
      applyWorkspace (emptyValidation.foldl (step fun _ => true) (fresh bare)).workspace bare =
        .error .noMappedRows ∧
      ¬(emptyValidation.foldl (step fun _ => true) (fresh bare)).Complete) ∧
    (lateUpload.foldl (step fun _ => true) (fresh bare)).workspace.status = .readyForExport ∧
    (∃ errors, applyWorkspace (lateUpload.foldl (step fun _ => true) (fresh bare)).workspace bare =
      .error (.incompleteStagedRows errors)) ∧
    ¬(lateUpload.foldl (step fun _ => true) (fresh bare)).Complete := by
  have hempty : applyWorkspace (emptyValidation.foldl (step fun _ => true) (fresh bare)).workspace
      bare = .error .noMappedRows := rfl
  have hlate : ∃ errors, applyWorkspace
      (lateUpload.foldl (step fun _ => true) (fresh bare)).workspace bare =
        .error (.incompleteStagedRows errors) := by
    obtain ⟨e, he, hkind⟩ := refused_of_ready
      (fun e => match e with | .incompleteStagedRows _ => true | _ => false)
      (w := (lateUpload.foldl (step fun _ => true) (fresh bare)).workspace) (c := bare)
      (by decide +kernel)
    cases e with
    | incompleteStagedRows errors => exact ⟨errors, he⟩
    | _ => cases hkind
  refine ⟨⟨rfl, hempty, fun hcomplete => ?_⟩, by decide +kernel, hlate, fun hcomplete => ?_⟩
  · rcases hcomplete.refuses hempty with h | h | ⟨codes, h⟩ <;> cases h
  · obtain ⟨errors, he⟩ := hlate
    rcases hcomplete.refuses he with h | h | ⟨codes, h⟩ <;> cases h

end World

end Mpango.Intake
