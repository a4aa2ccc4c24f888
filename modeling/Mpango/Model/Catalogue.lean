import Mathlib.Data.List.Nodup
import Mpango.Library.Command

/-!
# The catalogue

The products, sellable units and stock rows that an import or an intake writes. Rows are only added
here, and a row's id is its place. Every text that is written has been trimmed, so a column
refuses whatever is longer than it.
-/

namespace Mpango

/-- A row of `catalog_products`. -/
structure ProductRow where
  name : String
  description : Option String
  category : Option String
  isActive : Bool
  deriving DecidableEq

/-- A row of `skus`. -/
structure SkuRow where
  catalogProductId : ℕ
  skuCode : String
  name : String
  description : Option String
  unit : String
  packageQuantity : ℕ
  category : Option String
  isActive : Bool
  isDeleted : Bool
  deriving DecidableEq

/-- The tables of the catalogue. `ux_skus_sku_code` spans deleted units too. -/
@[ext] structure Catalogue where
  products : List ProductRow
  skus : List SkuRow
  /-- The units that have a row of `inventory_stocks`. -/
  stocks : List ℕ
  skuCode_nodup : (skus.map SkuRow.skuCode).Nodup
  stocks_lt : ∀ id ∈ stocks, id < skus.length

/-- Why a row is not written. -/
inductive CatalogueError
  | stringDataRightTruncation
  | skuExists (code : String)
  | foreignKeyViolation
  | notNullViolation
  deriving DecidableEq, Repr

namespace Catalogue

variable {c c' : Catalogue}

/-- The codes in use, those of deleted units among them. -/
def codes (c : Catalogue) : List String := c.skus.map SkuRow.skuCode

/-- Insert a product: its id. -/
def createProduct (c : Catalogue) (row : ProductRow) : Except CatalogueError (Catalogue × ℕ) := do
  refuseIf (255 < row.name.length) .stringDataRightTruncation
  refuseIf (row.category.any fun category => 64 < category.length) .stringDataRightTruncation
  return ({ c with products := c.products ++ [row] }, c.products.length)

theorem nodup_append_code {row : SkuRow} (h : row.skuCode ∉ c.codes) :
    ((c.skus ++ [row]).map SkuRow.skuCode).Nodup := by
  rw [List.map_append]
  apply List.Nodup.append c.skuCode_nodup (List.nodup_singleton _)
  intro code hcode hrow
  have hcode' : code = row.skuCode := by simpa using hrow
  rw [hcode'] at hcode
  exact h hcode

/-- Insert a unit, where `flush_skus_or_409` answers a code in use with a conflict. -/
def createSku (c : Catalogue) (row : SkuRow) : Except CatalogueError (Catalogue × ℕ) := do
  refuseIf (64 < row.skuCode.length) .stringDataRightTruncation
  refuseIf (255 < row.name.length) .stringDataRightTruncation
  refuseIf (32 < row.unit.length) .stringDataRightTruncation
  refuseIf (row.category.any fun category => 64 < category.length) .stringDataRightTruncation
  if h : row.skuCode ∉ c.codes then
    return (
      { c with
        skus := c.skus ++ [row]
        skuCode_nodup := nodup_append_code h
        stocks_lt := fun id hid => by
          rw [List.length_append]
          exact Nat.lt_add_right _ (c.stocks_lt id hid) },
      c.skus.length)
  else .error (.skuExists row.skuCode)

/-- `ensure_stock_row`. -/
def ensureStockRow (c : Catalogue) (id : ℕ) : Except CatalogueError Catalogue :=
  if id ∈ c.stocks then .ok c
  else if hid : id < c.skus.length then
    .ok
      { c with
        stocks := c.stocks ++ [id]
        stocks_lt := fun id' h => by
          rcases List.mem_append.mp h with h | h
          · exact c.stocks_lt id' h
          · rw [List.mem_singleton.mp h]
            exact hid }
  else .error .foreignKeyViolation

/-- A product, its unit and the unit's stock row: the unit's id. -/
def createUnit (c : Catalogue) (product : ProductRow) (sku : ℕ → SkuRow) :
    Except CatalogueError (Catalogue × ℕ) := do
  let (c, productId) ← c.createProduct product
  let (c, skuId) ← c.createSku (sku productId)
  let c ← c.ensureStockRow skuId
  return (c, skuId)

/-- The columns hold a product and its unit. -/
structure Fits (product : ProductRow) (sku : SkuRow) : Prop where
  productName : product.name.length ≤ 255
  productCategory : ∀ category ∈ product.category, category.length ≤ 64
  skuCode : sku.skuCode.length ≤ 64
  name : sku.name.length ≤ 255
  unit : sku.unit.length ≤ 32
  category : ∀ category ∈ sku.category, category.length ≤ 64

/-- One product, one unit and one stock row more. -/
structure Adds (c : Catalogue) (product : ProductRow) (sku : ℕ → SkuRow) (c' : Catalogue) :
    Prop where
  products : c'.products = c.products ++ [product]
  skus : c'.skus = c.skus ++ [sku c.products.length]
  stocks : c'.stocks = c.stocks ++ [c.skus.length]

theorem Adds.codes {product : ProductRow} {sku : ℕ → SkuRow} (h : c.Adds product sku c') :
    c'.codes = c.codes ++ [(sku c.products.length).skuCode] := by
  rw [Catalogue.codes, h.skus, List.map_append, List.map_singleton]
  rfl

theorem any_longer_iff {o : Option String} {n : ℕ} :
    ¬(o.any fun text => n < text.length) = true ↔ ∀ text ∈ o, text.length ≤ n := by
  cases o <;> simp

theorem createProduct_eq_ok {row : ProductRow} {id : ℕ} :
    c.createProduct row = .ok (c', id) ↔
      (row.name.length ≤ 255 ∧ ∀ category ∈ row.category, category.length ≤ 64) ∧
      (c'.products = c.products ++ [row] ∧ c'.skus = c.skus ∧ c'.stocks = c.stocks) ∧
      id = c.products.length := by
  unfold createProduct
  simp only [bind_eq_ok, refuseIf_eq_ok, pure_eq_ok, any_longer_iff, not_lt]
  constructor
  · rintro ⟨-, hname, -, hcategory, heq⟩
    obtain ⟨rfl, rfl⟩ := Prod.mk.inj heq
    exact ⟨⟨hname, hcategory⟩, ⟨rfl, rfl, rfl⟩, rfl⟩
  · rintro ⟨⟨hname, hcategory⟩, ⟨hproducts, hskus, hstocks⟩, rfl⟩
    exact ⟨(), hname, (), hcategory,
      Prod.ext (Catalogue.ext hproducts.symm hskus.symm hstocks.symm) rfl⟩

theorem createSku_eq_ok {row : SkuRow} {id : ℕ} :
    c.createSku row = .ok (c', id) ↔
      (row.skuCode.length ≤ 64 ∧ row.name.length ≤ 255 ∧ row.unit.length ≤ 32 ∧
        ∀ category ∈ row.category, category.length ≤ 64) ∧ row.skuCode ∉ c.codes ∧
      (c'.products = c.products ∧ c'.skus = c.skus ++ [row] ∧ c'.stocks = c.stocks) ∧
      id = c.skus.length := by
  unfold createSku
  simp only [bind_eq_ok, refuseIf_eq_ok, any_longer_iff, not_lt]
  constructor
  · rintro ⟨-, hcode, -, hname, -, hunit, -, hcategory, h⟩
    split at h
    · next hfree =>
      obtain ⟨rfl, rfl⟩ := Prod.mk.inj (pure_eq_ok.mp h)
      exact ⟨⟨hcode, hname, hunit, hcategory⟩, hfree, ⟨rfl, rfl, rfl⟩, rfl⟩
    · cases h
  · rintro ⟨⟨hcode, hname, hunit, hcategory⟩, hfree, ⟨hproducts, hskus, hstocks⟩, rfl⟩
    refine ⟨(), hcode, (), hname, (), hunit, (), hcategory, ?_⟩
    rw [dif_pos hfree]
    exact congrArg Except.ok
      (Prod.ext (Catalogue.ext hproducts.symm hskus.symm hstocks.symm) rfl)

theorem ensureStockRow_eq_ok {id : ℕ} (hfree : id ∉ c.stocks) (hlt : id < c.skus.length) :
    c.ensureStockRow id = .ok c' ↔
      c'.products = c.products ∧ c'.skus = c.skus ∧ c'.stocks = c.stocks ++ [id] := by
  unfold ensureStockRow
  rw [if_neg hfree, dif_pos hlt]
  constructor
  · intro h
    obtain rfl := Except.ok.inj h
    exact ⟨rfl, rfl, rfl⟩
  · rintro ⟨hproducts, hskus, hstocks⟩
    exact congrArg Except.ok (Catalogue.ext hproducts.symm hskus.symm hstocks.symm)

/-- The three rows are written together, or none of them. -/
theorem createUnit_eq_ok {product : ProductRow} {sku : ℕ → SkuRow} {id : ℕ} :
    c.createUnit product sku = .ok (c', id) ↔
      Fits product (sku c.products.length) ∧ (sku c.products.length).skuCode ∉ c.codes ∧
        c.Adds product sku c' ∧ id = c.skus.length := by
  have hfree : c.skus.length ∉ c.stocks := fun h => lt_irrefl _ (c.stocks_lt _ h)
  unfold createUnit
  simp only [bind_eq_ok, pure_eq_ok]
  constructor
  · rintro ⟨⟨c₁, productId⟩, hproduct, ⟨c₂, skuId⟩, hsku, c₃, hstock, heq⟩
    obtain ⟨⟨hname, hcategory⟩, ⟨hproducts₁, hskus₁, hstocks₁⟩, rfl⟩ :=
      createProduct_eq_ok.mp hproduct
    obtain ⟨⟨hcode, hskuName, hunit, hskuCategory⟩, hnew, ⟨hproducts₂, hskus₂, hstocks₂⟩, rfl⟩ :=
      createSku_eq_ok.mp hsku
    obtain ⟨rfl, rfl⟩ := Prod.mk.inj heq
    rw [hskus₁] at hskus₂
    rw [hstocks₁] at hstocks₂
    have hlt : c₁.skus.length < c₂.skus.length := by
      rw [hskus₁, hskus₂]
      simp
    obtain ⟨hproducts, hskus, hstocks⟩ :=
      (ensureStockRow_eq_ok (by rw [hstocks₂, hskus₁]; exact hfree) hlt).mp hstock
    refine ⟨⟨hname, hcategory, hcode, hskuName, hunit, hskuCategory⟩, ?_, ⟨?_, ?_, ?_⟩, ?_⟩
    · rw [codes, ← hskus₁]
      exact hnew
    · rw [hproducts, hproducts₂, hproducts₁]
    · rw [hskus, hskus₂]
    · rw [hstocks, hstocks₂, hskus₁]
    · rw [hskus₁]
  · rintro ⟨hfits, hnew, hadds, rfl⟩
    have hlt : ∀ id ∈ c.stocks, id < c'.skus.length := by
      intro id hid
      rw [hadds.skus, List.length_append]
      exact Nat.lt_add_right _ (c.stocks_lt id hid)
    let c₂ : Catalogue := { c' with stocks := c.stocks, stocks_lt := hlt }
    have hstock : c₂.ensureStockRow c.skus.length = .ok c' := by
      have hfree₂ : c.skus.length ∉ c₂.stocks := hfree
      have hlt₂ : c.skus.length < c₂.skus.length := by
        show _ < c'.skus.length
        rw [hadds.skus]
        simp
      exact (ensureStockRow_eq_ok hfree₂ hlt₂).mpr ⟨rfl, rfl, hadds.stocks⟩
    exact ⟨({ c with products := c'.products }, c.products.length),
      createProduct_eq_ok.mpr ⟨⟨hfits.productName, hfits.productCategory⟩,
        ⟨hadds.products, rfl, rfl⟩, rfl⟩,
      (c₂, c.skus.length),
      createSku_eq_ok.mpr ⟨⟨hfits.skuCode, hfits.name, hfits.unit, hfits.category⟩, hnew,
        ⟨rfl, hadds.skus, rfl⟩, rfl⟩, c', hstock, rfl⟩

/-- A code that is not in use can be added. -/
theorem exists_adds (product : ProductRow) {sku : ℕ → SkuRow}
    (h : (sku c.products.length).skuCode ∉ c.codes) : ∃ c', c.Adds product sku c' := by
  have hlt : ∀ id ∈ c.stocks ++ [c.skus.length],
      id < (c.skus ++ [sku c.products.length]).length := by
    intro id hid
    rw [List.length_append, List.length_singleton]
    rcases List.mem_append.mp hid with hid | hid
    · exact Nat.lt_add_right _ (c.stocks_lt id hid)
    · rw [List.mem_singleton.mp hid]
      exact Nat.lt_succ_self _
  exact ⟨⟨c.products ++ [product], c.skus ++ [sku c.products.length], c.stocks ++ [c.skus.length],
    nodup_append_code h, hlt⟩, rfl, rfl, rfl⟩

/-- So many products, units and stock rows more. -/
def Grows (c c' : Catalogue) (n : ℕ) : Prop :=
  ∃ products skus stocks, c'.products = c.products ++ products ∧ c'.skus = c.skus ++ skus ∧
    c'.stocks = c.stocks ++ stocks ∧
    products.length = n ∧ skus.length = n ∧ stocks.length = n

theorem grows_refl (c : Catalogue) : c.Grows c 0 := ⟨[], [], [], by simp⟩

theorem Adds.grows {product : ProductRow} {sku : ℕ → SkuRow} {c₁ : Catalogue} {n : ℕ}
    (hadds : c.Adds product sku c₁) (h : c₁.Grows c' n) : c.Grows c' (n + 1) := by
  obtain ⟨products, skus, stocks, hproducts, hskus, hstocks, hn, hn', hn''⟩ := h
  refine ⟨product :: products, sku c.products.length :: skus, c.skus.length :: stocks, ?_, ?_, ?_,
    congrArg (· + 1) hn, congrArg (· + 1) hn', congrArg (· + 1) hn''⟩
  · rw [hproducts, hadds.products, List.append_assoc]
    rfl
  · rw [hskus, hadds.skus, List.append_assoc]
    rfl
  · rw [hstocks, hadds.stocks, List.append_assoc]
    rfl

end Catalogue

end Mpango
