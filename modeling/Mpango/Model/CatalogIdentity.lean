import Mpango.Model.OrderCommands

/-!
# Migration 038

The migration gives every SKU of a tenant a catalogue product, every live SKU a stock row, and every
order item the SKU its reservations name. A `Tenant` is what the preflight finds: the tables before
the migration, with the keys they are under. The upgrade is its statements in order, each with the
constraint it can violate.
-/

namespace Mpango

namespace CatalogIdentity

/-! ## Before the migration -/

/-- A row of `skus`. -/
structure LegacySku where
  id : Uuid
  skuCode : String
  name : String
  description : Option String
  category : Option String
  isActive : Bool
  isDeleted : Bool
  deriving DecidableEq

/-- A row of `order_items`. -/
structure LegacyItem where
  id : Uuid
  orderId : Uuid
  skuCode : String
  quantity : ℤ
  unitPrice : Money
  subtotal : Money
  deriving DecidableEq

/-- A row of `inventory_movements`. -/
structure MovementRow where
  movement : InventoryMovement
  isDeleted : Bool

instance : Keyed LegacySku Uuid := ⟨LegacySku.id⟩
instance : Keyed LegacyItem Uuid := ⟨LegacyItem.id⟩

@[simp] theorem key_legacySku (s : LegacySku) : key s = s.id := rfl
@[simp] theorem key_legacyItem (i : LegacyItem) : key i = i.id := rfl

/-- The tables the migration reads. -/
structure Tenant where
  skus : Table LegacySku
  stocks : Table InventoryStock
  movements : List MovementRow
  items : Table LegacyItem
  reservations : List InventoryReservation
  /-- `inventory_stocks.sku_id` references `skus`. -/
  stock_sku : ∀ s ∈ stocks, ∃ k ∈ skus, k.id = s.skuId
  /-- `inventory_reservations.sku_id` references `skus`. -/
  reservation_sku : ∀ r ∈ reservations, ∃ k ∈ skus, k.id = r.skuId
  /-- `ck_inventory_reservations_quantity_positive`. -/
  reservation_pos : ∀ r ∈ reservations, 0 < r.quantity.unscaled
  /-- `ux_inventory_reservations_active_order_item`. -/
  reservation_unique :
    ((reservations.filter (·.status = .reserved)).map (·.orderItemId)).Nodup
  /-- A reservation carries the code of its item. -/
  reservation_code : ∀ r ∈ reservations, ∀ i ∈ items, i.id = r.orderItemId → i.skuCode = r.skuCode

/-- The reservations of an item that are not deleted, in any status. -/
def Tenant.liveReservations (t : Tenant) (orderItemId : Uuid) : List InventoryReservation :=
  t.reservations.filter fun r => r.orderItemId = orderItemId && !r.isDeleted

/-- The active reservations of an order. -/
def Tenant.activeReservations (t : Tenant) (orderId : Uuid) : List InventoryReservation :=
  t.reservations.filter fun r => r.orderId = orderId && r.status = .reserved && !r.isDeleted

/-! ## The preflight -/

inductive PreflightFailure
  /-- Active SKU has inventory evidence but no stock row. -/
  | evidenceWithoutStock
  /-- Active SKU has only a soft-deleted stock row. -/
  | softDeletedStock
  deriving DecidableEq

/-- There are movements or reservations of a SKU. -/
def Tenant.hasEvidence (t : Tenant) (skuId : Uuid) : Bool :=
  (t.movements.any fun m => m.movement.skuId = skuId && !m.isDeleted) ||
    t.reservations.any fun r => r.skuId = skuId && !r.isDeleted

/-- `_preflight_tenant`, where the tables exist and the new columns do not. -/
def preflightTenant (t : Tenant) : Except PreflightFailure Unit := do
  refuseIf (t.skus.rows.any fun s =>
    !s.isDeleted && (t.stocks.find? s.id).isNone && t.hasEvidence s.id) .evidenceWithoutStock
  refuseIf (t.skus.rows.any fun s =>
    !s.isDeleted && (t.stocks.find? s.id).any (·.isDeleted)) .softDeletedStock

/-! ## After the migration -/

/-- A row of `catalog_products`. -/
structure ProductRow where
  id : Uuid
  name : String
  description : Option String
  category : Option String
  isActive : Bool
  isDeleted : Bool
  deriving DecidableEq

/-- A row of `skus` with the new columns. -/
structure SkuRow where
  legacy : LegacySku
  catalogProductId : Uuid
  packageQuantity : Numeric 12 3
  deriving DecidableEq

/-- A row of `order_items` with the new columns; `ck_order_items_identity_status` is the type of the
status. -/
structure ItemRow where
  legacy : LegacyItem
  sellableUnitId : Option Uuid
  identityStatus : IdentityStatus
  unitSnapshot : Option String
  deriving DecidableEq

instance : Keyed ProductRow Uuid := ⟨ProductRow.id⟩
instance : Keyed SkuRow Uuid := ⟨fun s => s.legacy.id⟩
instance : Keyed ItemRow Uuid := ⟨fun i => i.legacy.id⟩

@[simp] theorem key_productRow (p : ProductRow) : key p = p.id := rfl
@[simp] theorem key_skuRow (s : SkuRow) : key s = s.legacy.id := rfl
@[simp] theorem key_itemRow (i : ItemRow) : key i = i.legacy.id := rfl

structure Upgraded where
  products : Table ProductRow
  skus : Table SkuRow
  stocks : Table InventoryStock
  movements : List MovementRow
  items : Table ItemRow
  reservations : List InventoryReservation

/-- The constraints the statements can violate. -/
inductive Violation
  | catalogProductsPkey
  | fkSkusCatalogProduct
  | ckSkusPackageQuantityPositive
  | uxInventoryStocksSkuId
  | fkOrderItemsSellableUnit
  | ckOrderItemsIdentityShape
  deriving DecidableEq

/-! ## The statements -/

/-- The product of a SKU, with its identifier and its texts. -/
def LegacySku.product (s : LegacySku) : ProductRow :=
  { id := s.id, name := s.name, description := s.description, category := s.category
    isActive := s.isActive, isDeleted := s.isDeleted }

/-- The column default `1.000`. -/
def onePackage : Numeric 12 3 := ⟨1000, by decide⟩

/-- The SKU after `SET catalog_product_id = id`, which leaves no `NULL` behind. -/
def LegacySku.row (s : LegacySku) : SkuRow :=
  { legacy := s, catalogProductId := s.id, packageQuantity := onePackage }

/-- `skus` with the new columns filled. -/
def Tenant.skuRows (t : Tenant) : Table SkuRow := t.skus.map LegacySku.row fun _ => rfl

/-- The stock row inserted for a SKU, with the column defaults. -/
def LegacySku.stock (s : LegacySku) : InventoryStock :=
  { skuId := s.id, quantityOnHand := .zero, quantityReserved := .zero, isDeleted := false }

/-- The live SKUs without any stock row. -/
def Tenant.missingStocks (t : Tenant) : List LegacySku :=
  t.skus.select fun s => !s.isDeleted && (t.stocks.find? s.id).isNone

/-- The item with the new columns and their defaults. -/
def LegacyItem.row (i : LegacyItem) : ItemRow :=
  { legacy := i, sellableUnitId := none, identityStatus := .legacy, unitSnapshot := none }

/-- `reservation_proof`: the only SKU the live reservations of an item name. -/
def Tenant.reservationProof (t : Tenant) (orderItemId : Uuid) : Option Uuid :=
  match ((t.liveReservations orderItemId).map (·.skuId)).dedup with
  | [skuId] => some skuId
  | _ => none

/-- The `UPDATE` of an item from the proof, joined with the SKUs. -/
def Tenant.linkItem (t : Tenant) (skus : Table SkuRow) (i : ItemRow) : ItemRow :=
  match t.reservationProof i.legacy.id with
  | none => i
  | some skuId =>
    if (skus.find? skuId).isSome then
      { i with sellableUnitId := some skuId, identityStatus := .linkedLegacy }
    else i

/-- `ck_order_items_identity_shape`. -/
def ItemRow.identityShape (i : ItemRow) : Bool :=
  i.identityStatus = .legacy && i.sellableUnitId.isNone ||
  i.identityStatus = .linkedLegacy && i.sellableUnitId.isSome ||
  i.identityStatus = .stable && i.sellableUnitId.isSome && i.unitSnapshot.isSome

/-- `_upgrade_tenant`. -/
def upgradeTenant (t : Tenant) : Except Violation Upgraded := do
  let products ← orRefuse (Table.empty.insertAll? (t.skus.rows.map LegacySku.product))
    .catalogProductsPkey
  let skus := t.skuRows
  refuseIf (skus.rows.any fun s => (products.find? s.catalogProductId).isNone)
    .fkSkusCatalogProduct
  refuseIf (skus.rows.any fun s => s.packageQuantity.unscaled ≤ 0) .ckSkusPackageQuantityPositive
  let stocks ← orRefuse (t.stocks.insertAll? (t.missingStocks.map LegacySku.stock))
    .uxInventoryStocksSkuId
  let items : Table ItemRow := t.items.map (fun i => t.linkItem skus i.row) fun i => by
    unfold Tenant.linkItem
    split
    · rfl
    · split <;> rfl
  refuseIf (items.rows.any fun i => i.sellableUnitId.any fun skuId => (skus.find? skuId).isNone)
    .fkOrderItemsSellableUnit
  refuseIf (items.rows.any fun i => !i.identityShape) .ckOrderItemsIdentityShape
  return { products, skus, stocks, movements := t.movements, items, reservations := t.reservations }

/-! ## What the commands read of it -/

def ProductRow.catalogProduct (p : ProductRow) : CatalogProduct :=
  { id := p.id, isActive := p.isActive, isDeleted := p.isDeleted }

def SkuRow.sku (s : SkuRow) : Sku :=
  { id := s.legacy.id, skuCode := s.legacy.skuCode, catalogProductId := s.catalogProductId
    isActive := s.legacy.isActive, isDeleted := s.legacy.isDeleted }

def ItemRow.orderItem (i : ItemRow) : OrderItem :=
  { id := i.legacy.id, sellableUnitId := i.sellableUnitId, identityStatus := i.identityStatus
    skuCode := i.legacy.skuCode, quantity := i.legacy.quantity, unitPrice := i.legacy.unitPrice
    subtotal := i.legacy.subtotal }

def Upgraded.warehouse (u : Upgraded) : Warehouse :=
  { skus := u.skus.map SkuRow.sku fun _ => rfl
    catalogProducts := u.products.map ProductRow.catalogProduct fun _ => rfl
    stocks := u.stocks
    reservations := u.reservations
    movements := u.movements.map (·.movement) }

/-- The items of an order. -/
def Upgraded.itemsOf (u : Upgraded) (orderId : Uuid) : List OrderItem :=
  (u.items.select fun i => i.legacy.orderId = orderId).map ItemRow.orderItem

end CatalogIdentity

end Mpango
