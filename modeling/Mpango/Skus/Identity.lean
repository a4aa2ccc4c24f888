import Mpango.Model.CatalogIdentity

/-!
# Migration 038 preserves identities

No statement of the upgrade violates a constraint: the products and the stock rows it inserts have
keys of their own, and a linked item names a SKU that is there (`exists_upgrade`). What the upgraded
tables hold is read off its effects.
-/

namespace Mpango

namespace CatalogIdentity

variable {t : Tenant} {u : Upgraded}

/-! ## The proof of an item's SKU -/

theorem mem_liveReservations {orderItemId : Uuid} {r : InventoryReservation} :
    r ∈ t.liveReservations orderItemId ↔
      r ∈ t.reservations ∧ r.orderItemId = orderItemId ∧ r.isDeleted = false := by
  simp [Tenant.liveReservations]

/-- The proof names the SKU that every live reservation of the item names. -/
theorem reservationProof_eq_some {orderItemId skuId : Uuid} :
    t.reservationProof orderItemId = some skuId ↔
      t.liveReservations orderItemId ≠ [] ∧
        ∀ r ∈ t.liveReservations orderItemId, r.skuId = skuId := by
  unfold Tenant.reservationProof
  set named := (t.liveReservations orderItemId).map (·.skuId) with hnamed
  have hnil : t.liveReservations orderItemId = [] ↔ named = [] := by
    rw [hnamed, List.map_eq_nil_iff]
  have hall : (∀ r ∈ t.liveReservations orderItemId, r.skuId = skuId) ↔ ∀ k ∈ named, k = skuId := by
    simp [hnamed]
  rw [Ne, hnil, hall]
  constructor
  · intro hproof
    split at hproof
    · next k hone =>
      obtain rfl := Option.some.inj hproof
      have hmem : ∀ k', k' ∈ named ↔ k' = k := by
        intro k'
        rw [← List.mem_dedup, hone, List.mem_singleton]
      refine ⟨fun hempty => ?_, fun k' hk' => (hmem k').mp hk'⟩
      have hk := (hmem k).mpr rfl
      rw [hempty] at hk
      exact List.not_mem_nil hk
    · cases hproof
  · intro ⟨hne, honly⟩
    obtain ⟨k, hk⟩ := List.exists_mem_of_ne_nil named hne
    have hskuId : skuId ∈ named := honly k hk ▸ hk
    have hperm : named.dedup.Perm [skuId] := by
      apply (List.perm_ext_iff_of_nodup (List.nodup_dedup named) (List.nodup_singleton skuId)).mpr
      intro k'
      rw [List.mem_dedup, List.mem_singleton]
      exact ⟨honly k', fun hk' => hk' ▸ hskuId⟩
    rw [List.perm_singleton.mp hperm]

/-- The SKU of a proof is there, as the reservations reference it. -/
theorem exists_sku_of_proof {orderItemId skuId : Uuid}
    (h : t.reservationProof orderItemId = some skuId) : ∃ k ∈ t.skus, k.id = skuId := by
  obtain ⟨hne, honly⟩ := reservationProof_eq_some.mp h
  obtain ⟨r, hr⟩ := List.exists_mem_of_ne_nil _ hne
  rw [← honly r hr]
  exact t.reservation_sku r (mem_liveReservations.mp hr).1

/-! ## The effects of the upgrade -/

/-- What the upgraded tables hold. -/
structure Effects (t : Tenant) (u : Upgraded) : Prop where
  products : u.products.rows = t.skus.rows.map LegacySku.product
  skus : ∀ skuId, u.skus.find? skuId = (t.skus.find? skuId).map LegacySku.row
  stocks : u.stocks.rows = t.stocks.rows ++ t.missingStocks.map LegacySku.stock
  items : ∀ itemId, u.items.find? itemId = (t.items.find? itemId).map fun i =>
    { i.row with
      sellableUnitId := t.reservationProof i.id
      identityStatus := if (t.reservationProof i.id).isSome then .linkedLegacy else .legacy }
  reservations : u.reservations = t.reservations

theorem find?_skuRows (skuId : Uuid) :
    t.skuRows.find? skuId = (t.skus.find? skuId).map LegacySku.row := Table.find?_map skuId

/-- An item is linked whenever there is a proof. -/
theorem linkItem_row (i : LegacyItem) :
    t.linkItem t.skuRows i.row =
      { i.row with
        sellableUnitId := t.reservationProof i.id
        identityStatus :=
          if (t.reservationProof i.id).isSome then .linkedLegacy else .legacy } := by
  unfold Tenant.linkItem
  have hid : i.row.legacy.id = i.id := rfl
  rw [hid]
  cases hproof : t.reservationProof i.id with
  | none => rfl
  | some skuId =>
    obtain ⟨k, hk, rfl⟩ := exists_sku_of_proof hproof
    have hfound : (t.skuRows.find? k.id).isSome = true := by
      rw [find?_skuRows, show t.skus.find? k.id = some k from Table.find?_key hk]
      rfl
    simp only [hfound, if_true, Option.isSome_some]

/-- The product of every SKU is inserted. -/
theorem exists_products : ∃ products : Table ProductRow,
    Table.empty.insertAll? (t.skus.rows.map LegacySku.product) = some products ∧
      products.rows = t.skus.rows.map LegacySku.product := by
  have hnodup : ((t.skus.rows.map LegacySku.product).map key).Nodup := by
    rw [List.map_map]
    exact t.skus.nodup
  obtain ⟨products, hinserted, hrows⟩ :=
    Table.exists_insertAll? (t := Table.empty) hnodup fun _ _ => Table.find?_empty _
  exact ⟨products, hinserted, hrows⟩

/-- The missing stock rows are inserted. -/
theorem exists_stocks : ∃ stocks : Table InventoryStock,
    t.stocks.insertAll? (t.missingStocks.map LegacySku.stock) = some stocks ∧
      stocks.rows = t.stocks.rows ++ t.missingStocks.map LegacySku.stock := by
  apply Table.exists_insertAll?
  · rw [List.map_map]
    exact t.skus.nodup.sublist (List.filter_sublist.map _)
  · intro stock hstock
    obtain ⟨s, hs, rfl⟩ := List.mem_map.mp hstock
    have hmissing := (Table.mem_select.mp hs).2
    simp only [Bool.and_eq_true, Option.isNone_iff_eq_none] at hmissing
    exact hmissing.2

/-- The upgrade violates none of the constraints it adds. -/
theorem exists_upgrade (t : Tenant) : ∃ u, upgradeTenant t = .ok u ∧ Effects t u := by
  obtain ⟨products, hproducts, hproductRows⟩ := exists_products (t := t)
  obtain ⟨stocks, hstocks, hstockRows⟩ := exists_stocks (t := t)
  have hproduct : ∀ s ∈ t.skus, (products.find? s.id).isSome := by
    intro s hs
    have hmem : s.product ∈ products := by
      rw [← Table.mem_rows, hproductRows]
      exact List.mem_map_of_mem hs
    rw [show products.find? s.id = some s.product from Table.find?_key hmem]
    rfl
  unfold upgradeTenant
  rw [hproducts, orRefuse_some, ok_bind]
  dsimp only
  rw [refuseIf_neg, ok_bind, refuseIf_neg, ok_bind, hstocks, orRefuse_some, ok_bind, refuseIf_neg,
    ok_bind, refuseIf_neg, ok_bind]
  · refine ⟨_, rfl, ⟨hproductRows, find?_skuRows, hstockRows, ?_, rfl⟩⟩
    intro itemId
    rw [Table.find?_map]
    exact congrArg (Option.map · _) (funext linkItem_row)
  · -- the identity shape
    simp only [List.any_eq_true, Table.mem_rows, Table.mem_map, not_exists, not_and]
    rintro row ⟨i, -, rfl⟩
    rw [linkItem_row]
    cases t.reservationProof i.id <;> simp [ItemRow.identityShape]
  · -- the sellable unit of an item
    simp only [List.any_eq_true, Table.mem_rows, Table.mem_map, not_exists, not_and]
    rintro row ⟨i, -, rfl⟩
    rw [linkItem_row]
    cases hproof : t.reservationProof i.id with
    | none => simp
    | some skuId =>
      obtain ⟨k, hk, rfl⟩ := exists_sku_of_proof hproof
      simp [find?_skuRows, show t.skus.find? k.id = some k from Table.find?_key hk]
  · -- the package quantity
    simp only [List.any_eq_true, Table.mem_rows, not_exists, not_and]
    intro row hrow
    obtain ⟨s, -, rfl⟩ := Table.mem_map.mp hrow
    simp [LegacySku.row, onePackage]
  · -- the product of a SKU
    simp only [List.any_eq_true, Table.mem_rows, not_exists, not_and]
    intro row hrow
    obtain ⟨s, hs, rfl⟩ := Table.mem_map.mp hrow
    have hsome := hproduct s hs
    simp only [LegacySku.row, Option.isNone_iff_eq_none]
    intro hnone
    rw [hnone] at hsome
    cases hsome

/-! ## What the upgrade preserves -/

/-- The stock rows of the preflight: a live SKU has none that is deleted. -/
theorem stock_live_of_preflight (h : preflightTenant t = .ok ()) {s : LegacySku} (hs : s ∈ t.skus)
    (hlive : s.isDeleted = false) {stock : InventoryStock}
    (hstock : t.stocks.find? s.id = some stock) :
    stock.isDeleted = false := by
  simp only [preflightTenant, bind_eq_ok, refuseIf_eq_ok, exists_const, List.any_eq_true,
    Table.mem_rows, not_exists, not_and] at h
  have hnone := h.2 s hs
  simp only [hlive, hstock] at hnone
  simpa using hnone

/-- The identities the upgrade preserves. -/
structure IdentitiesPreserved (t : Tenant) (u : Upgraded) : Prop where
  /-- Every SKU is what it was, and has its own product, with its identifier and its texts. -/
  product : ∀ s ∈ t.skus, (∃ row ∈ u.skus, row.legacy = s ∧ row.catalogProductId = s.id) ∧
    ∃ p ∈ u.products, p.id = s.id ∧ p.name = s.name ∧ p.description = s.description ∧
      p.category = s.category ∧ p.isActive = s.isActive ∧ p.isDeleted = s.isDeleted
  /-- There are no other products. -/
  onlyProducts : ∀ p ∈ u.products, ∃ s ∈ t.skus, p.id = s.id
  /-- Every live SKU has exactly one live stock row, with the quantities it had. -/
  stock : ∀ s ∈ t.skus, s.isDeleted = false → ∃ stock,
    (u.stocks.select fun x => x.skuId = s.id && !x.isDeleted) = [stock] ∧
      stock.quantityOnHand = ((t.stocks.find? s.id).map (·.quantityOnHand)).getD .zero ∧
      stock.quantityReserved = ((t.stocks.find? s.id).map (·.quantityReserved)).getD .zero
  /-- An item is linked exactly when its live reservations name exactly one SKU, and to that. -/
  linked : ∀ i ∈ t.items, ∃ row ∈ u.items, row.legacy = i ∧ ∀ skuId,
    row.sellableUnitId = some skuId ↔
      t.liveReservations i.id ≠ [] ∧ ∀ r ∈ t.liveReservations i.id, r.skuId = skuId

/-- The rows under one key are at most one. -/
theorem select_key {stocks : Table InventoryStock} {stock : InventoryStock} (hmem : stock ∈ stocks)
    (hlive : stock.isDeleted = false) :
    (stocks.select fun x => x.skuId = stock.skuId && !x.isDeleted) = [stock] := by
  have hnodup : (stocks.select fun x => x.skuId = stock.skuId && !x.isDeleted).Nodup :=
    stocks.nodup.of_map.filter _
  apply List.perm_singleton.mp
  apply (List.perm_ext_iff_of_nodup hnodup (List.nodup_singleton stock)).mpr
  intro x
  rw [Table.mem_select, List.mem_singleton]
  constructor
  · intro ⟨hx, hkey⟩
    simp only [Bool.and_eq_true, decide_eq_true_eq] at hkey
    exact Table.eq_of_key_eq hx hmem hkey.1
  · intro hx
    subst hx
    exact ⟨hmem, by simp [hlive]⟩

theorem Effects.find?_product (h : Effects t u) {s : LegacySku} (hs : s ∈ t.skus) :
    u.products.find? s.id = some s.product := by
  have hmem : s.product ∈ u.products := by
    rw [← Table.mem_rows, h.products]
    exact List.mem_map_of_mem hs
  exact Table.find?_key hmem

/-- A stock row that was there is still there. -/
theorem Effects.find?_stock (h : Effects t u) {skuId : Uuid} {stock : InventoryStock}
    (hstock : t.stocks.find? skuId = some stock) : u.stocks.find? skuId = some stock := by
  obtain ⟨hmem, hkey⟩ := Table.find?_eq_some.mp hstock
  refine Table.find?_eq_some.mpr ⟨?_, hkey⟩
  rw [← Table.mem_rows, h.stocks]
  exact List.mem_append_left _ hmem

theorem Effects.identitiesPreserved (h : Effects t u) (hpreflight : preflightTenant t = .ok ()) :
    IdentitiesPreserved t u where
  product s hs := by
    have hrow : u.skus.find? s.id = some s.row := by
      rw [h.skus, show t.skus.find? s.id = some s from Table.find?_key hs]
      rfl
    exact ⟨⟨s.row, Table.mem_of_find? hrow, rfl, rfl⟩,
      ⟨s.product, Table.mem_of_find? (h.find?_product hs), rfl, rfl, rfl, rfl, rfl, rfl⟩⟩
  onlyProducts p hp := by
    rw [← Table.mem_rows, h.products] at hp
    obtain ⟨s, hs, rfl⟩ := List.mem_map.mp hp
    exact ⟨s, hs, rfl⟩
  stock s hs hlive := by
    cases hstock : t.stocks.find? s.id with
    | some stock =>
      have hkey : stock.skuId = s.id := Table.key_of_find? hstock
      refine ⟨stock, ?_, rfl, rfl⟩
      rw [← hkey]
      exact select_key (Table.mem_of_find? (h.find?_stock hstock))
        (stock_live_of_preflight hpreflight hs hlive hstock)
    | none =>
      have hmissing : s ∈ t.missingStocks := by
        refine Table.mem_select.mpr ⟨hs, ?_⟩
        simp [hlive, hstock]
      have hmem : s.stock ∈ u.stocks := by
        rw [← Table.mem_rows, h.stocks]
        exact List.mem_append_right _ (List.mem_map_of_mem hmissing)
      exact ⟨s.stock, select_key hmem rfl, rfl, rfl⟩
  linked i hi := by
    have hrow := h.items i.id
    rw [show t.items.find? i.id = some i from Table.find?_key hi, Option.map_some] at hrow
    exact ⟨_, Table.mem_of_find? hrow, rfl, fun skuId => reservationProof_eq_some⟩

end CatalogIdentity

end Mpango
