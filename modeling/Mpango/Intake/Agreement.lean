import Mpango.Model.SkuImport

/-!
# Validation and application of an import

A validation and an application read the same rows, but not through the same mapping: between the
two it was stored, and its keys came back in another order. Where two columns are mapped to one
field, the last of them is read, and that may be another one. The preview, moreover, lists columns
as the file spells them, while rows are keyed by the trimmed spelling.
-/

namespace Mpango.SkuImport

variable {records : List (List String)} {run run' : ImportRun} {mapping : Dict String String}
  {existing : List String} {response : ImportValidateResponse} {row : Row} {key : String}

/-! ## Columns -/

theorem map_fst_zip_take (names : List String) (cells : List Cell) :
    (names.zip cells).map Prod.fst = names.take cells.length := by
  induction names generalizing cells with
  | nil => simp
  | cons name names ih =>
    cases cells with
    | nil => simp
    | cons cell cells => simp [ih]

theorem mem_keys_dictReaderRow {fieldnames record : List String} :
    key ∈ (dictReaderRow fieldnames record).map Prod.fst ↔ key ∈ fieldnames := by
  unfold dictReaderRow
  rw [Dict.mem_keys_ofPairs, List.map_append, map_fst_zip_take, List.length_map, List.map_map]
  show key ∈ fieldnames.take record.length ++ (fieldnames.drop record.length).map id ↔ _
  rw [List.map_id, List.take_append_drop]

theorem mem_keys_trimRow :
    key ∈ (trimRow row).map Prod.fst ↔ ∃ k ∈ row.map Prod.fst, k ≠ "" ∧ strip k = key := by
  unfold trimRow
  rw [Dict.mem_keys_ofPairs, List.map_map]
  simp only [List.mem_map, List.mem_filter, Function.comp_apply, decide_eq_true_eq]
  constructor
  · rintro ⟨p, ⟨hp, hne⟩, rfl⟩
    exact ⟨p.1, ⟨p, hp, rfl⟩, hne, rfl⟩
  · rintro ⟨_, ⟨p, hp, rfl⟩, hne, rfl⟩
    exact ⟨p, ⟨hp, hne⟩, rfl⟩

/-- A row has the trimmed columns, but one without a name. -/
theorem mem_keys_of_preview (h : preview records = .ok run) (hrow : row ∈ run.rows) :
    key ∈ row.map Prod.fst ↔ ∃ k ∈ run.columns, k ≠ "" ∧ strip k = key := by
  unfold preview at h
  simp only [bind_eq_ok, refuseIf_eq_ok, pure_eq_ok] at h
  obtain ⟨-, -, -, -, rfl⟩ := h
  unfold parseCsv at hrow ⊢
  cases records with
  | nil => exact absurd hrow List.not_mem_nil
  | cons fieldnames records =>
    obtain ⟨record, -, rfl⟩ := List.mem_map.mp hrow
    simp only [mem_keys_trimRow, mem_keys_dictReaderRow]

/-- A listed column that is not blank is found exactly when it is trimmed. -/
theorem found_iff (h : preview records = .ok run) (hrow : row ∈ run.rows)
    (hlisted : key ∈ run.columns) (hblank : strip key ≠ "") :
    key ∈ row.map Prod.fst ↔ strip key = key := by
  rw [mem_keys_of_preview h hrow]
  constructor
  · rintro ⟨k, -, -, rfl⟩
    exact strip_strip k
  · intro htrimmed
    exact ⟨key, hlisted, fun hempty => hblank (by rw [htrimmed, hempty]), htrimmed⟩

/-! ## A clean validation -/

/-- A row without errors. -/
structure Checked (m : MappedRow) : Prop where
  skuCode : ∃ code, m.get "sku_code" = some code ∧ strip code ≠ "" ∧ (strip code).length ≤ 64
  name : ∃ name, m.get "name" = some name ∧ strip name ≠ "" ∧ name.length ≤ 255

theorem checked_of_rowErrors {idx : ℕ} {m : MappedRow} (h : rowErrors idx m = []) : Checked m := by
  unfold rowErrors at h
  simp only [List.append_eq_nil_iff, List.map_eq_nil_iff, List.filter_eq_nil_iff, requiredFields,
    List.forall_mem_cons] at h
  obtain ⟨⟨⟨hcode, hname, -⟩, hcodeLength⟩, hnameLength⟩ := h
  constructor
  · cases hget : m.get "sku_code" with
    | none => simp [hget, isEmpty] at hcode
    | some code =>
      refine ⟨code, rfl, ?_, ?_⟩
      · simpa [hget, isEmpty] using hcode
      · simpa [hget] using hcodeLength
  · cases hget : m.get "name" with
    | none => simp [hget, isEmpty] at hname
    | some name =>
      refine ⟨name, rfl, ?_, ?_⟩
      · simpa [hget, isEmpty] using hname
      · simpa [hget] using hnameLength

/-- A run that a validation found nothing against. -/
structure Clean (run : ImportRun) (mapping : Dict String String) (run' : ImportRun) : Prop where
  accepted : validateMapping mapping = []
  rows : run.rows ≠ []
  checked : ∀ row ∈ run.rows, Checked (applyMapping row mapping)
  status : run'.status = .validated
  rows_eq : run'.rows = run.rows
  columns_eq : run'.columns = run.columns
  fieldMapping : run'.fieldMapping = Jsonb.object mapping

theorem clean_of_validate (h : validate run mapping existing = .ok (run', response))
    (hclean : response.errorRows = 0) : Clean run mapping run' := by
  unfold validate at h
  simp only [bind_eq_ok, refuseIf_eq_ok, pure_eq_ok] at h
  obtain ⟨-, -, -, hmapping, -, hrows, -, -, heq⟩ := h
  obtain ⟨rfl, rfl⟩ := Prod.mk.inj heq
  simp only at hclean
  have herrors : (numbered run.rows mapping).flatMap (fun p => rowErrors p.1 p.2) = [] := by
    have hnil := List.eq_nil_of_length_eq_zero hclean
    rw [List.dedup_eq_nil, List.map_eq_nil_iff] at hnil
    exact (List.append_eq_nil_iff.mp hnil).1
  refine ⟨not_not.mp hmapping, hrows, ?_, ?_, rfl, rfl, rfl⟩
  · intro row hrow
    obtain ⟨i, hi, rfl⟩ := List.mem_iff_getElem.mp hrow
    have hmem : (i + 1, applyMapping run.rows[i] mapping) ∈ numbered run.rows mapping :=
      List.mem_map.mpr ⟨(run.rows[i], i), List.mem_zipIdx_iff_getElem?.mpr (by simp), rfl⟩
    exact checked_of_rowErrors (List.flatMap_eq_nil_iff.mp herrors _ hmem)
  · exact if_pos hclean

/-! ## The loop over the rows -/

/-- The product that a row is checked to say. -/
def MappedRow.product (m : MappedRow) : ProductRow := productOf ((m.get "name").getD "") m

/-- The unit that a row is checked to say. -/
def MappedRow.sku (m : MappedRow) : ℕ → SkuRow :=
  skuOf (strip ((m.get "sku_code").getD "")) ((m.get "name").getD "") m

variable {s s' : ApplyState} {idx : ℕ} {m : MappedRow}

/-- A unit is created from a row. -/
structure Creates (s : ApplyState) (m : MappedRow) (code : String) (s' : ApplyState) : Prop where
  new : code ∉ s.existing
  created : ∃ id, s.catalogue.createUnit m.product m.sku = .ok (s'.catalogue, id)
  existing : s'.existing = s.existing ++ [code]
  counts : s'.created = s.created + 1 ∧ s'.skipped = s.skipped
  errors : s'.errors = s.errors

/-- What can become of a row. -/
theorem applyRow_cases (h : applyRow s idx m = .ok s') :
    ((m.get "sku_code").filter (· ≠ "") = none ∧ ∃ e, s' = { s with errors := s.errors ++ [e] }) ∨
    ∃ text, m.get "sku_code" = some text ∧ text ≠ "" ∧
      ((strip text ∈ s.existing ∧ s' = { s with skipped := s.skipped + 1 }) ∨
        Creates s m (strip text) s') := by
  unfold applyRow at h
  split at h
  · next hnone => exact .inl ⟨hnone, _, (Except.ok.inj h).symm⟩
  · next text hsome =>
    obtain ⟨hget, hne⟩ := Option.filter_eq_some_iff.mp hsome
    refine .inr ⟨text, hget, of_decide_eq_true hne, ?_⟩
    dsimp only at h
    split at h
    · next hin => exact .inl ⟨hin, (Except.ok.inj h).symm⟩
    · next hnew =>
      simp only [bind_eq_ok, pure_eq_ok, orRefuse_eq_ok, mapError_eq_ok] at h
      obtain ⟨name, hname, ⟨catalogue, id⟩, hcreate, rfl⟩ := h
      have hread : (m.get "name").getD "" = name := by
        unfold MappedRow.get
        cases hfield : Dict.get m.fields "name" with
        | none =>
          rw [hfield] at hname
          exact Option.some.inj hname
        | some cell =>
          rw [hfield] at hname
          obtain rfl : cell = some name := hname
          rfl
      refine .inr ⟨hnew, ⟨id, ?_⟩, rfl, ⟨rfl, rfl⟩, rfl⟩
      rw [MappedRow.product, MappedRow.sku, hread, hget]
      exact hcreate

theorem applyRow_skips (idx : ℕ) {text : String} (hget : m.get "sku_code" = some text) (hne : text ≠ "")
    (hin : strip text ∈ s.existing) :
    applyRow s idx m = .ok { s with skipped := s.skipped + 1 } := by
  have hfilter : (some text : Option String).filter (· ≠ "") = some text :=
    Option.filter_eq_some_iff.mpr ⟨rfl, decide_eq_true hne⟩
  unfold applyRow
  rw [hget, hfilter]
  exact if_pos hin

theorem applyRow_creates (idx : ℕ) {text name : String} {c : Catalogue} {id : ℕ}
    (hget : m.get "sku_code" = some text) (hne : text ≠ "") (hnew : strip text ∉ s.existing)
    (hname : m.get "name" = some name)
    (hcreate : s.catalogue.createUnit m.product m.sku = .ok (c, id)) :
    applyRow s idx m = .ok { s with
      catalogue := c, existing := s.existing ++ [strip text], created := s.created + 1 } := by
  have hfilter : (some text : Option String).filter (· ≠ "") = some text :=
    Option.filter_eq_some_iff.mpr ⟨rfl, decide_eq_true hne⟩
  have hread : (Dict.get m.fields "name").getD (some "") = some name := by
    unfold MappedRow.get at hname
    cases hfield : Dict.get m.fields "name" with
    | none => simp [hfield] at hname
    | some cell => simpa [hfield] using hname
  rw [MappedRow.product, MappedRow.sku, hname, hget] at hcreate
  unfold applyRow
  rw [hget, hfilter]
  dsimp only
  rw [if_neg hnew, hread, orRefuse_some, ok_bind]
  have hcreate' : s.catalogue.createUnit (productOf name m) (skuOf (strip text) name m) =
      .ok (c, id) := hcreate
  rw [hcreate']
  rfl

/-- The rows that the loop still has to process are all accounted for. -/
theorem counts_of_applyRows {rows : List (ℕ × MappedRow)} (h : applyRows s rows = .ok s') :
    s'.created + s'.skipped + s'.errors.length =
      s.created + s.skipped + s.errors.length + rows.length := by
  induction rows generalizing s with
  | nil =>
    obtain rfl := Except.ok.inj h
    rfl
  | cons row rows ih =>
    obtain ⟨s₁, hrow, hrows⟩ := bind_eq_ok.mp h
    rw [ih hrows, List.length_cons]
    rcases applyRow_cases hrow with ⟨-, e, rfl⟩ | ⟨text, -, -, ⟨-, rfl⟩ | hcreates⟩
    · simp only [List.length_append, List.length_singleton]
      omega
    · simp only
      omega
    · rw [hcreates.counts.1, hcreates.counts.2, hcreates.errors]
      omega

theorem errors_of_applyRows {rows : List (ℕ × MappedRow)} (h : applyRows s rows = .ok s')
    (herrors : s'.errors = []) : s.errors = [] := by
  induction rows generalizing s with
  | nil =>
    obtain rfl := Except.ok.inj h
    exact herrors
  | cons row rows ih =>
    obtain ⟨s₁, hrow, hrows⟩ := bind_eq_ok.mp h
    have herrors₁ := ih hrows
    rcases applyRow_cases hrow with ⟨-, e, rfl⟩ | ⟨text, -, -, ⟨-, rfl⟩ | hcreates⟩
    · simp at herrors₁
    · exact herrors₁
    · rw [← hcreates.errors]
      exact herrors₁

theorem grows_of_applyRows {rows : List (ℕ × MappedRow)} (h : applyRows s rows = .ok s') :
    ∃ n, s'.created = s.created + n ∧ s.catalogue.Grows s'.catalogue n := by
  induction rows generalizing s with
  | nil =>
    obtain rfl := Except.ok.inj h
    exact ⟨0, rfl, Catalogue.grows_refl _⟩
  | cons row rows ih =>
    obtain ⟨s₁, hrow, hrows⟩ := bind_eq_ok.mp h
    obtain ⟨n, hn, hgrows⟩ := ih hrows
    rcases applyRow_cases hrow with ⟨-, e, rfl⟩ | ⟨text, -, -, ⟨-, rfl⟩ | hcreates⟩
    · exact ⟨n, hn, hgrows⟩
    · exact ⟨n, hn, hgrows⟩
    · obtain ⟨id, hcreate⟩ := hcreates.created
      obtain ⟨-, -, hadds, -⟩ := Catalogue.createUnit_eq_ok.mp hcreate
      exact ⟨n + 1, by rw [hn, hcreates.counts.1]; omega, hadds.grows hgrows⟩

/-! ## Agreement -/

/-- A row as the stored mapping reads it, and as it was checked. -/
structure Reading where
  idx : ℕ
  stored : MappedRow
  checked : MappedRow

/-- The readings of data rows, numbered from 1. -/
def readings (rows : List Row) (mapping : Dict String String) : List Reading :=
  rows.zipIdx.map fun p =>
    ⟨p.2 + 1, applyMapping p.1 (Jsonb.object mapping), applyMapping p.1 mapping⟩

/-- Every unit that the loop creates has exactly the values that were checked. -/
def CreatesChecked (s : ApplyState) : List Reading → Prop
  | [] => True
  | r :: rows => ∀ s', applyRow s r.idx r.stored = .ok s' →
      (s'.created ≠ s.created →
        s.catalogue.Adds r.checked.product r.checked.sku s'.catalogue) ∧ CreatesChecked s' rows

/-- Two readings that say the same, of texts that their columns hold. -/
structure Reading.Same (r : Reading) : Prop where
  product : r.stored.product = r.checked.product
  sku : ∀ id, r.stored.sku id = r.checked.sku id
  unit : ∀ unit ∈ r.stored.get "unit", unit.length ≤ 32
  category : ∀ category ∈ r.stored.get "category", category.length ≤ 64

/-- The row has a code as it is stored, and is either skipped or read as it was checked. -/
def Reading.Agrees (r : Reading) (codes : Set String) : Prop :=
  ∃ text, r.stored.get "sku_code" = some text ∧ text ≠ "" ∧ (strip text ∈ codes ∨ r.Same)

/-- The codes in use after a row. -/
def Reading.codesAfter (r : Reading) (codes : Set String) : Set String :=
  codes ∪ {code | (r.stored.get "sku_code").map strip = some code}

/-- All rows agree, given the codes that are in use. -/
def AllAgree (codes : Set String) : List Reading → Prop
  | [] => True
  | r :: rows => r.Agrees codes ∧ AllAgree (r.codesAfter codes) rows

theorem mem_codesAfter {r : Reading} {codes : Set String} {text code : String}
    (hget : r.stored.get "sku_code" = some text) :
    code ∈ r.codesAfter codes ↔ code ∈ codes ∨ code = strip text := by
  rw [Reading.codesAfter, hget, Set.mem_union, Set.mem_ofPred_eq, Option.map_some, Option.some_inj,
    eq_comm (b := code)]

theorem sku_congr {m m' : MappedRow} {i j : ℕ} (h : m.sku i = m'.sku i) : m.sku j = m'.sku j := by
  unfold MappedRow.sku skuOf at h ⊢
  simp only [SkuRow.mk.injEq, true_and] at h ⊢
  exact h

/-- The columns hold a checked row whose unit and category they hold. -/
theorem Reading.Same.fits {r : Reading} (h : r.Same) (hchecked : Checked r.checked) (id : ℕ) :
    Catalogue.Fits r.stored.product (r.stored.sku id) := by
  obtain ⟨code, hcode, -, hcodeLength⟩ := hchecked.skuCode
  obtain ⟨name, hname, -, hnameLength⟩ := hchecked.name
  have hunit : ((r.stored.get "unit").getD "unit").length ≤ 32 := by
    cases hget : r.stored.get "unit" with
    | none => decide
    | some unit => exact h.unit unit hget
  refine ⟨?_, h.category, ?_, ?_, hunit, h.category⟩
  · rw [h.product, MappedRow.product, hname]
    exact hnameLength
  · rw [h.sku, MappedRow.sku, hcode]
    exact hcodeLength
  · rw [h.sku, MappedRow.sku, hname]
    exact hnameLength

/-- The loop creates what was checked, without an error, exactly when all rows agree. -/
theorem applyRows_iff {rows : List Reading} {codes : Set String}
    (hcodes : ∀ code, code ∈ s.existing ↔ code ∈ codes)
    (hinUse : ∀ code ∈ s.catalogue.codes, code ∈ s.existing) (herrors : s.errors = [])
    (hchecked : ∀ r ∈ rows, Checked r.checked) :
    ((∃ s', applyRows s (rows.map fun r => (r.idx, r.stored)) = .ok s' ∧ s'.errors = []) ∧
        CreatesChecked s rows) ↔ AllAgree codes rows := by
  induction rows generalizing s codes with
  | nil => exact iff_of_true ⟨⟨s, rfl, herrors⟩, trivial⟩ trivial
  | cons r rows ih =>
    rw [List.forall_mem_cons] at hchecked
    obtain ⟨hrow, hrows⟩ := hchecked
    -- A row that does not stop the loop leaves the codes in use as the specification does.
    have hskip : ∀ {text}, r.stored.get "sku_code" = some text → strip text ∈ s.existing →
        ∀ code, code ∈ s.existing ↔ code ∈ r.codesAfter codes := by
      intro text hget hin code
      rw [mem_codesAfter hget, ← hcodes]
      exact ⟨.inl, fun h => h.elim (fun hcode => hcode) fun heq => heq ▸ hin⟩
    have hadd : ∀ {text}, r.stored.get "sku_code" = some text →
        ∀ code, code ∈ s.existing ++ [strip text] ↔ code ∈ r.codesAfter codes := by
      intro text hget code
      rw [mem_codesAfter hget, ← hcodes, List.mem_append, List.mem_singleton]
    constructor
    · rintro ⟨⟨s', hrun, herrors'⟩, hcreates⟩
      obtain ⟨s₁, hstep, hrest⟩ := bind_eq_ok.mp hrun
      obtain ⟨hadds, hcreates₁⟩ := hcreates s₁ hstep
      have herrors₁ := errors_of_applyRows hrest herrors'
      rcases applyRow_cases hstep with ⟨-, e, rfl⟩ | ⟨text, hget, hne, ⟨hin, rfl⟩ | hcreated⟩
      · simp at herrors₁
      · refine ⟨⟨text, hget, hne, .inl ((hcodes _).mp hin)⟩, ?_⟩
        exact (ih (s := { s with skipped := s.skipped + 1 }) (hskip hget hin) hinUse herrors₁
          hrows).mp ⟨⟨s', hrest, herrors'⟩, hcreates₁⟩
      · obtain ⟨id, hcreate⟩ := hcreated.created
        obtain ⟨hfits, -, hadds', -⟩ := Catalogue.createUnit_eq_ok.mp hcreate
        have hadds'' := hadds (by rw [hcreated.counts.1]; exact Nat.succ_ne_self _)
        have hsame : r.Same := by
          refine ⟨?_, fun j => ?_, ?_, hfits.productCategory⟩
          · exact List.singleton_inj.mp
              (List.append_cancel_left (hadds'.products.symm.trans hadds''.products))
          · exact sku_congr (List.singleton_inj.mp
              (List.append_cancel_left (hadds'.skus.symm.trans hadds''.skus)))
          · intro unit hunit
            have hlength := hfits.unit
            rw [MappedRow.sku, skuOf, show r.stored.get "unit" = some unit from hunit] at hlength
            exact hlength
        refine ⟨⟨text, hget, hne, .inr hsame⟩, ?_⟩
        have hinUse₁ : ∀ code ∈ s₁.catalogue.codes, code ∈ s₁.existing := by
          intro code hcode
          rw [hadds'.codes] at hcode
          rw [hcreated.existing]
          rcases List.mem_append.mp hcode with hcode | hcode
          · exact List.mem_append_left _ (hinUse code hcode)
          · refine List.mem_append_right _ ?_
            rw [MappedRow.sku, hget] at hcode
            exact hcode
        refine (ih ?_ hinUse₁ herrors₁ hrows).mp ⟨⟨s', hrest, herrors'⟩, hcreates₁⟩
        rw [hcreated.existing]
        exact hadd hget
    · rintro ⟨⟨text, hget, hne, hagrees⟩, hrest⟩
      by_cases hin : strip text ∈ s.existing
      · have hstep := applyRow_skips r.idx hget hne hin
        obtain ⟨⟨s', hrun, herrors'⟩, hcreates⟩ :=
          (ih (s := { s with skipped := s.skipped + 1 }) (hskip hget hin) hinUse herrors
            hrows).mpr hrest
        refine ⟨⟨s', bind_eq_ok.mpr ⟨_, hstep, hrun⟩, herrors'⟩, ?_⟩
        intro s₁ hstep₁
        obtain rfl := Except.ok.inj (hstep.symm.trans hstep₁)
        exact ⟨fun hcreated => absurd rfl hcreated, hcreates⟩
      · have hsame := hagrees.resolve_left fun hcode => hin ((hcodes _).mpr hcode)
        have hname : ∃ name, r.stored.get "name" = some name := by
          obtain ⟨name, hname, hnameNe, -⟩ := hrow.name
          have heq := congrArg ProductRow.name hsame.product
          simp only [MappedRow.product, productOf, hname, Option.getD_some] at heq
          cases hcell : r.stored.get "name" with
          | none =>
            rw [hcell] at heq
            refine absurd ?_ hnameNe
            rw [← show "" = name from heq]
            decide
          | some cell => exact ⟨cell, rfl⟩
        obtain ⟨name, hname⟩ := hname
        have hnew : (r.stored.sku s.catalogue.products.length).skuCode ∉ s.catalogue.codes := by
          rw [MappedRow.sku, hget]
          exact fun hcode => hin (hinUse _ hcode)
        obtain ⟨c, hadds⟩ := Catalogue.exists_adds r.stored.product hnew
        have hcreate : s.catalogue.createUnit r.stored.product r.stored.sku = .ok (c, _) :=
          Catalogue.createUnit_eq_ok.mpr ⟨hsame.fits hrow _, hnew, hadds, rfl⟩
        have hstep := applyRow_creates r.idx hget hne hin hname hcreate
        have hinUse₁ : ∀ code ∈ c.codes, code ∈ s.existing ++ [strip text] := by
          intro code hcode
          rw [hadds.codes] at hcode
          rcases List.mem_append.mp hcode with hcode | hcode
          · exact List.mem_append_left _ (hinUse code hcode)
          · refine List.mem_append_right _ ?_
            rw [MappedRow.sku, hget] at hcode
            exact hcode
        obtain ⟨⟨s', hrun, herrors'⟩, hcreates⟩ :=
          (ih (s := { s with
            catalogue := c, existing := s.existing ++ [strip text], created := s.created + 1 })
            (hadd hget) hinUse₁ herrors hrows).mpr hrest
        refine ⟨⟨s', bind_eq_ok.mpr ⟨_, hstep, hrun⟩, herrors'⟩, ?_⟩
        intro s₁ hstep₁
        obtain rfl := Except.ok.inj (hstep.symm.trans hstep₁)
        refine ⟨fun _ => ⟨?_, ?_, hadds.stocks⟩, hcreates⟩
        · rw [← hsame.product]
          exact hadds.products
        · rw [← hsame.sku]
          exact hadds.skus

/-! ## Refusals -/

variable {catalogue : Catalogue} {onConflict : OnConflict}

theorem applyRow_error {e : ImportError} (h : applyRow s idx m = .error e) :
    ∃ d, e = .database d := by
  unfold applyRow at h
  split at h
  · cases h
  · dsimp only at h
    split at h
    · cases h
    · simp only [bind_eq_error, orRefuse_eq_error, mapError_eq_error, pure_ne_error, and_false,
        exists_false, or_false] at h
      rcases h with ⟨-, rfl⟩ | ⟨name, -, d, -, rfl⟩
      · exact ⟨_, rfl⟩
      · exact ⟨d, rfl⟩

theorem applyRows_error {rows : List (ℕ × MappedRow)} {e : ImportError}
    (h : applyRows s rows = .error e) : ∃ d, e = .database d := by
  induction rows generalizing s with
  | nil => cases h
  | cons row rows ih =>
    rcases bind_eq_error.mp h with hrow | ⟨s₁, -, hrows⟩
    · exact applyRow_error hrow
    · exact ih hrows

theorem numbered_eq_readings (rows : List Row) (mapping : Dict String String) :
    numbered rows (Jsonb.object mapping) =
      (readings rows mapping).map fun r => (r.idx, r.stored) := by
  rw [readings, List.map_map]
  rfl

theorem any_object (p : String × String → Bool) :
    (Jsonb.object mapping).any p = mapping.any p :=
  (Jsonb.perm_object mapping).any_eq

/-- Some row of the stored reading has a code of the catalogue. -/
def Conflicts (catalogue : Catalogue) (rows : List Reading) : Prop :=
  ∃ r ∈ rows, ∃ text, r.stored.get "sku_code" = some text ∧ text ≠ "" ∧
    strip text ∈ catalogue.codes

theorem conflictErrors_ne_nil {rows : List Reading} :
    conflictErrors catalogue.codes (rows.map fun r => (r.idx, r.stored)) ≠ [] ↔
      Conflicts catalogue rows := by
  unfold conflictErrors Conflicts
  rw [ne_eq, List.filterMap_eq_nil_iff]
  simp only [List.forall_mem_map, not_forall]
  constructor
  · rintro ⟨r, hr, hsome⟩
    obtain ⟨detail, hdetail⟩ := Option.ne_none_iff_exists'.mp hsome
    obtain ⟨code, hcode, -⟩ := Option.map_eq_some_iff.mp hdetail
    obtain ⟨hstrip, hin⟩ := Option.filter_eq_some_iff.mp hcode
    obtain ⟨text, htext, rfl⟩ := Option.map_eq_some_iff.mp hstrip
    obtain ⟨hget, hne⟩ := Option.filter_eq_some_iff.mp htext
    exact ⟨r, hr, text, hget, of_decide_eq_true hne, of_decide_eq_true hin⟩
  · rintro ⟨r, hr, text, hget, hne, hin⟩
    refine ⟨r, hr, ?_⟩
    simp [hget, hne, hin]

/-- What an application of a clean run does, past the two refusals that stop it beforehand. -/
theorem apply_of_clean (h : Clean run mapping run')
    (hcustom : (mapping.any fun p => isCustom p.2) = false)
    (hconflict : ¬(onConflict = .fail ∧ Conflicts catalogue (readings run.rows mapping))) :
    apply run' onConflict catalogue = do
      let s ← applyRows ⟨catalogue, catalogue.codes, 0, 0, []⟩
        ((readings run.rows mapping).map fun r => (r.idx, r.stored))
      refuseIf (s.errors ≠ []) (.rowProcessingErrors s.errors)
      return (s.catalogue,
        { run' with status := .applied, createdRows := s.created, skippedRows := s.skipped },
        { created := s.created, skipped := s.skipped }) := by
  unfold apply
  rw [h.status, h.rows_eq, h.fieldMapping, any_object, hcustom, numbered_eq_readings]
  dsimp only
  rw [refuseIf_neg (by simp), refuseIf_neg h.rows, refuseIf_neg (by simp),
    refuseIf_neg (by rw [conflictErrors_ne_nil]; exact hconflict)]
  rfl

theorem apply_of_custom (h : Clean run mapping run')
    (hcustom : (mapping.any fun p => isCustom p.2) = true) :
    apply run' onConflict catalogue = .error (.http 422 "STOP_AND_REPORT_CTO") := by
  unfold apply
  rw [h.status, h.rows_eq, h.fieldMapping, any_object, hcustom, refuseIf_neg (by simp),
    refuseIf_neg h.rows]
  rfl

theorem apply_of_conflicts (h : Clean run mapping run')
    (hcustom : (mapping.any fun p => isCustom p.2) = false)
    (hconflict : onConflict = .fail ∧ Conflicts catalogue (readings run.rows mapping)) :
    ∃ conflicts, apply run' onConflict catalogue = .error (.conflictDetected conflicts) := by
  have hrefuse : onConflict = .fail ∧ conflictErrors catalogue.codes
      ((readings run.rows mapping).map fun r => (r.idx, r.stored)) ≠ [] :=
    ⟨hconflict.1, conflictErrors_ne_nil.mpr hconflict.2⟩
  refine ⟨conflictErrors catalogue.codes
    ((readings run.rows mapping).map fun r => (r.idx, r.stored)), ?_⟩
  unfold apply
  rw [h.status, h.rows_eq, h.fieldMapping, any_object, hcustom, numbered_eq_readings]
  dsimp only
  rw [refuseIf_neg (by simp), refuseIf_neg h.rows, refuseIf_neg (by simp), refuseIf,
    if_pos hrefuse]
  rfl

/-- Past them, it completes when the loop does without an error. -/
theorem apply_eq_ok_iff (h : Clean run mapping run')
    (hcustom : (mapping.any fun p => isCustom p.2) = false)
    (hconflict : ¬(onConflict = .fail ∧ Conflicts catalogue (readings run.rows mapping)))
    {result : Catalogue × ImportRun × ImportApplyResponse} :
    apply run' onConflict catalogue = .ok result ↔
      ∃ s, applyRows ⟨catalogue, catalogue.codes, 0, 0, []⟩
        ((readings run.rows mapping).map fun r => (r.idx, r.stored)) = .ok s ∧ s.errors = [] ∧
        result = (s.catalogue,
          { run' with status := .applied, createdRows := s.created, skippedRows := s.skipped },
          { created := s.created, skipped := s.skipped }) := by
  rw [apply_of_clean h hcustom hconflict]
  simp only [bind_eq_ok, refuseIf_eq_ok, pure_eq_ok, not_not]
  constructor
  · rintro ⟨s, hrun, -, herrors, heq⟩
    exact ⟨s, hrun, herrors, heq.symm⟩
  · rintro ⟨s, hrun, herrors, heq⟩
    exact ⟨s, hrun, (), herrors, heq.symm⟩

theorem apply_error_of_clean {e : ImportError} (h : Clean run mapping run')
    (hcustom : (mapping.any fun p => isCustom p.2) = false)
    (hconflict : ¬(onConflict = .fail ∧ Conflicts catalogue (readings run.rows mapping)))
    (he : apply run' onConflict catalogue = .error e) :
    (∃ d, e = .database d) ∨ ∃ errors, e = .rowProcessingErrors errors := by
  rw [apply_of_clean h hcustom hconflict] at he
  simp only [bind_eq_error, refuseIf_eq_error, pure_ne_error, and_false, exists_false,
    or_false] at he
  rcases he with hrows | ⟨s, -, -, rfl⟩
  · exact .inl (applyRows_error hrows)
  · exact .inr ⟨_, rfl⟩

/-- A mapping without two columns for one field is read the same from storage. -/
theorem get_applyMapping_object (hfields : (mapping.map Prod.snd).Nodup) (row : Row)
    (field : String) :
    (applyMapping row (Jsonb.object mapping)).get field = (applyMapping row mapping).get field := by
  have hperm := (((Jsonb.perm_object mapping).filter fun p => !isCustom p.2).map
    fun p : String × String => (p.2, (Dict.get row p.1).join)).symm
  have hnodup : (((mapping.filter fun p => !isCustom p.2).map
      fun p : String × String => (p.2, (Dict.get row p.1).join)).map Prod.fst).Nodup := by
    rw [List.map_map]
    exact hfields.sublist (List.filter_sublist.map Prod.snd)
  unfold MappedRow.get applyMapping
  rw [Dict.ofPairs_of_nodup hnodup,
    Dict.ofPairs_of_nodup ((hperm.map Prod.fst).nodup_iff.mp hnodup),
    Dict.get_of_perm hperm hnodup]

/-! ## The law -/

/-- What a clean validation promises of an application, where the two refusals that stop one before
its first row are not errors of rows. -/
structure Agree (run run' : ImportRun) (mapping : Dict String String) (catalogue : Catalogue)
    (onConflict : OnConflict) : Prop where
  finishes : (∃ result, apply run' onConflict catalogue = .ok result) ∨
    apply run' onConflict catalogue = .error (.http 422 "STOP_AND_REPORT_CTO") ∨
    ∃ conflicts, apply run' onConflict catalogue = .error (.conflictDetected conflicts)
  accounts : ∀ {catalogue' run'' response},
    apply run' onConflict catalogue = .ok (catalogue', run'', response) →
    response.created + response.skipped = run.rows.length ∧
      catalogue.Grows catalogue' response.created ∧ catalogue'.codes.Nodup
  creates : ∀ {result}, apply run' onConflict catalogue = .ok result →
    CreatesChecked ⟨catalogue, catalogue.codes, 0, 0, []⟩ (readings run.rows mapping)
  finds : (∀ p ∈ mapping, p.1 ∈ run.columns) →
    ∀ p ∈ mapping, ∀ row ∈ run.rows, p.1 ∈ row.map Prod.fst

theorem finds_iff (hpreview : preview records = .ok run) (h : Clean run mapping run') :
    ((∀ p ∈ mapping, p.1 ∈ run.columns) →
        ∀ p ∈ mapping, ∀ row ∈ run.rows, p.1 ∈ row.map Prod.fst) ↔
      ((∀ p ∈ mapping, p.1 ∈ run.columns) → ∀ p ∈ mapping, strip p.1 = p.1) := by
  have hblank : ∀ p ∈ mapping, strip p.1 ≠ "" := by
    intro p hp hempty
    have hentries := h.accepted
    unfold validateMapping at hentries
    rw [if_neg (List.ne_nil_of_mem hp)] at hentries
    have hentry := List.flatMap_eq_nil_iff.mp hentries p hp
    simp [entryErrors, hempty] at hentry
  apply forall_congr'
  intro hlisted
  apply forall₂_congr
  intro p hp
  obtain ⟨row, hrow⟩ := List.exists_mem_of_ne_nil _ h.rows
  constructor
  · intro hfound
    exact (found_iff hpreview hrow (hlisted p hp) (hblank p hp)).mp (hfound row hrow)
  · intro htrimmed row hrow
    exact (found_iff hpreview hrow (hlisted p hp) (hblank p hp)).mpr htrimmed

/-- **Validation and application.** After a validation that found nothing, an application agrees with
it exactly when it is stopped beforehand or every row is read from the stored mapping as it was
checked, with a unit and a category that their columns hold, and when no mapped column of the
preview's list has blanks around it. -/
theorem agree_iff (hpreview : preview records = .ok run)
    (hvalidate : validate run mapping existing = .ok (run', response))
    (hclean : response.errorRows = 0) :
    Agree run run' mapping catalogue onConflict ↔
      ((mapping.any fun p => isCustom p.2) = true ∨
        (onConflict = .fail ∧ Conflicts catalogue (readings run.rows mapping)) ∨
        AllAgree {code | code ∈ catalogue.codes} (readings run.rows mapping)) ∧
      ((∀ p ∈ mapping, p.1 ∈ run.columns) → ∀ p ∈ mapping, strip p.1 = p.1) := by
  have h := clean_of_validate hvalidate hclean
  have hfinds := finds_iff hpreview h
  by_cases hcustom : (mapping.any fun p => isCustom p.2) = true
  · have happly : apply run' onConflict catalogue = _ := apply_of_custom h hcustom
    constructor
    · intro hagree
      exact ⟨.inl hcustom, hfinds.mp hagree.finds⟩
    · intro hcond
      refine ⟨.inr (.inl happly), ?_, ?_, hfinds.mpr hcond.2⟩
      · intro _ _ _ hok
        rw [happly] at hok
        cases hok
      · intro _ hok
        rw [happly] at hok
        cases hok
  rw [Bool.not_eq_true] at hcustom
  by_cases hconflict : onConflict = .fail ∧ Conflicts catalogue (readings run.rows mapping)
  · obtain ⟨conflicts, happly⟩ := apply_of_conflicts h hcustom hconflict
    constructor
    · intro hagree
      exact ⟨.inr (.inl hconflict), hfinds.mp hagree.finds⟩
    · intro hcond
      refine ⟨.inr (.inr ⟨conflicts, happly⟩), ?_, ?_, hfinds.mpr hcond.2⟩
      · intro _ _ _ hok
        rw [happly] at hok
        cases hok
      · intro _ hok
        rw [happly] at hok
        cases hok
  have hok : ∀ {result}, apply run' onConflict catalogue = .ok result ↔ _ := fun {_} =>
    apply_eq_ok_iff h hcustom hconflict
  have hchecked : ∀ r ∈ readings run.rows mapping, Checked r.checked := by
    intro r hr
    obtain ⟨p, hp, rfl⟩ := List.mem_map.mp hr
    exact h.checked _ (List.fst_mem_of_mem_zipIdx hp)
  have hcodes : ∀ code, code ∈ catalogue.codes ↔ code ∈ {code | code ∈ catalogue.codes} :=
    fun _ => Iff.rfl
  have hloop := applyRows_iff (s := ⟨catalogue, catalogue.codes, 0, 0, []⟩) hcodes
    (fun _ hcode => hcode) rfl hchecked
  constructor
  · intro hagree
    have hresult : ∃ result, apply run' onConflict catalogue = .ok result := by
      rcases hagree.finishes with hresult | hstop | ⟨conflicts, hstop⟩
      · exact hresult
      · rcases apply_error_of_clean h hcustom hconflict hstop with ⟨d, hd⟩ | ⟨errors, herrors⟩
        · cases hd
        · cases herrors
      · rcases apply_error_of_clean h hcustom hconflict hstop with ⟨d, hd⟩ | ⟨errors, herrors⟩
        · cases hd
        · cases herrors
    obtain ⟨result, hresult⟩ := hresult
    obtain ⟨s, hrun, herrors, -⟩ := hok.mp hresult
    exact ⟨.inr (.inr (hloop.mp ⟨⟨s, hrun, herrors⟩, hagree.creates hresult⟩)),
      hfinds.mp hagree.finds⟩
  · rintro ⟨hcond, htrimmed⟩
    have hall := (hcond.resolve_left (by simp [hcustom])).resolve_left hconflict
    obtain ⟨⟨s, hrun, herrors⟩, hcreates⟩ := hloop.mpr hall
    refine ⟨.inl ⟨_, hok.mpr ⟨s, hrun, herrors, rfl⟩⟩, ?_, fun _ => hcreates, hfinds.mpr htrimmed⟩
    intro catalogue' run'' response' hresult
    obtain ⟨s', hrun', herrors', heq⟩ := hok.mp hresult
    obtain ⟨rfl, -, rfl⟩ : catalogue' = s'.catalogue ∧ _ ∧ response' = _ := by
      simpa only [Prod.mk.injEq] using heq
    obtain ⟨n, hn, hgrows⟩ := grows_of_applyRows hrun'
    have hcounts := counts_of_applyRows hrun'
    rw [herrors', List.length_map, readings, List.length_map, List.length_zipIdx] at hcounts
    refine ⟨by simpa using hcounts, ?_, s'.catalogue.skuCode_nodup⟩
    show catalogue.Grows s'.catalogue s'.created
    rw [hn, Nat.zero_add]
    exact hgrows

/-- A file of one unit. -/
def plainFile : List (List String) := [["sku", "name"], ["A-1", "Rice"]]

def plainMapping : Dict String String := [("sku", "sku_code"), ("name", "name")]

/-- What a preview stores of a file. -/
def previewed (columns : List String) (rows : List Row) : ImportRun where
  status := .previewed
  columns
  rows
  fieldMapping := []
  validRows := 0
  errorRows := 0
  warningRows := 0
  createdRows := 0
  skippedRows := 0

/-- What a validation without a finding or a warning stores of a run of one row. -/
def validated (run : ImportRun) (mapping : Dict String String) : ImportRun :=
  { run with status := .validated, fieldMapping := mapping, validRows := 1 }

def cleanResponse : ImportValidateResponse where
  status := .validated
  validRows := 1
  errorRows := 0
  warningRows := 0
  errors := []
  warnings := []

theorem emptyCatalogue_stocks : ∀ id ∈ ([] : List ℕ), id < ([] : List SkuRow).length :=
  List.forall_mem_nil _

def emptyCatalogue : Catalogue := ⟨[], [], [], List.nodup_nil, emptyCatalogue_stocks⟩

def plainRun : ImportRun := previewed ["sku", "name"] [[("sku", some "A-1"), ("name", some "Rice")]]

theorem agree_plainFile :
    Agree plainRun (validated plainRun plainMapping) plainMapping emptyCatalogue .fail ↔
      ((plainMapping.any fun p => isCustom p.2) = true ∨
        (OnConflict.fail = .fail ∧ Conflicts emptyCatalogue (readings plainRun.rows plainMapping)) ∨
        AllAgree {code | code ∈ emptyCatalogue.codes} (readings plainRun.rows plainMapping)) ∧
      ((∀ p ∈ plainMapping, p.1 ∈ plainRun.columns) → ∀ p ∈ plainMapping, strip p.1 = p.1) := by
  have hpreview : preview plainFile = .ok plainRun := by decide +kernel
  have hvalidate : validate plainRun plainMapping [] =
      .ok (validated plainRun plainMapping, cleanResponse) := by decide +kernel
  exact agree_iff hpreview hvalidate rfl

/-- A file with two columns for the code, of which the row fills the second. -/
def alternativeFile : List (List String) := [["code", "alt", "name"], ["", "A-1", "Rice"]]

/-- The second column is read when the mapping is validated, the first when it is applied. -/
def alternativeMapping : Dict String String :=
  [("code", "sku_code"), ("alt", "sku_code"), ("name", "name")]

def alternativeRun : ImportRun :=
  previewed ["code", "alt", "name"] [[("code", some ""), ("alt", some "A-1"), ("name", some "Rice")]]

def alternativeStored : ImportRun :=
  validated alternativeRun [("alt", "sku_code"), ("code", "sku_code"), ("name", "name")]

/-- Nothing is found, and every row fails. -/
theorem disagree_alternativeFile :
    preview alternativeFile = .ok alternativeRun ∧
      validate alternativeRun alternativeMapping [] = .ok (alternativeStored, cleanResponse) ∧
      cleanResponse.errorRows = 0 ∧
      apply alternativeStored .skip emptyCatalogue = .error (.rowProcessingErrors
        [⟨1, "sku_code", none, "Missing or invalid sku_code in mapped row"⟩]) ∧
      ¬Agree alternativeRun alternativeStored alternativeMapping emptyCatalogue .skip := by
  have happly : apply alternativeStored .skip emptyCatalogue = .error (.rowProcessingErrors
      [⟨1, "sku_code", none, "Missing or invalid sku_code in mapped row"⟩]) := by
    have hfails : ∀ {x : Except ImportError (Catalogue × ImportRun × ImportApplyResponse)} {e},
        (match x with | .ok _ => none | .error e => some e) = some e → x = .error e := by
      intro x e hx
      cases x with
      | ok result => cases hx
      | error e' => rw [Option.some.inj hx]
    apply hfails
    decide +kernel
  refine ⟨by decide +kernel, by decide +kernel, rfl, happly, fun hagree => ?_⟩
  rcases hagree.finishes with ⟨result, hresult⟩ | hstop | ⟨conflicts, hstop⟩
  · rw [happly] at hresult
    cases hresult
  · rw [happly] at hstop
    cases hstop
  · rw [happly] at hstop
    cases hstop

end Mpango.SkuImport
