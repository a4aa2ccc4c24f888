import Mpango.Model.Tables
import Mathlib.Data.List.Sort

/-!
# The inventory service

Stock is written by five functions: confirming an order reserves, cancelling releases, fulfilling
deducts and consumes the reservation, returning restocks, and a manual adjustment changes the
quantity on hand. Every one of them first reads the stock row of one SKU under a lock. Each
change of the quantity on hand appends one row to the movement journal.

Each function comes with the lemma that says what its success means, in cents: a whole item
quantity `n` is `n * 100`, and two stored quantities are added and subtracted exactly.
-/

namespace Mpango

open Decimal

/-! ## Items with a known unit -/

/-- An order item whose sellable unit is known. -/
structure SellableItem where
  item : OrderItem
  sellableUnitId : Uuid
  linked : item.sellableUnitId = some sellableUnitId

/-- The text of an optional identifier, as `str` gives it. -/
def optionalIdText : Option Uuid → String
  | some u => u.text
  | none => "None"

/-- The items in the order of a sort key; the sort is stable. -/
def sortItems (sortKey : OrderItem → String) (items : List OrderItem) : List OrderItem :=
  items.insertionSort fun i j => sortKey i ≤ sortKey j

/-- Every item must have a sellable unit; the first one without is refused. -/
def requireSellable (items : List OrderItem) (refusal : OrderItem → CommandError) :
    Except CommandError (List SellableItem) :=
  items.mapM fun item =>
    match h : item.sellableUnitId with
    | some u => .ok ⟨item, u, h⟩
    | none => .error (refusal item)

/-- An item's quantity as a decimal. -/
def OrderItem.quantityDecimal (i : OrderItem) : Decimal := (i.quantity : ℚ)

theorem OrderItem.quantityDecimal_eq (i : OrderItem) :
    i.quantityDecimal = scaled 2 (i.quantity * 100) := intCast_eq_scaled 2 i.quantity

namespace Warehouse

/-! ## Locking a stock row -/

/-- `_locked_stock_by_sku_id`: the live stock row of a SKU, joined with the SKU under its code
and with its product. -/
def lockedStockBySkuId (w : Warehouse) (skuId : Uuid) (skuCode : String) (requireActive : Bool) :
    Except CommandError InventoryStock :=
  let row := do
    let stock ← w.stocks.find? skuId
    let sku ← w.skus.find? skuId
    let product ← w.catalogProducts.find? sku.catalogProductId
    if !stock.isDeleted && sku.skuCode = skuCode && (!requireActive ||
        sku.isActive && !sku.isDeleted && product.isActive && !product.isDeleted) then
      some stock
    else none
  orRefuse row (.conflict .sellableUnitUnavailable
    s!"Active sellable unit '{skuCode}' with matching identity was not found")

/-- A locked row is the stock row of the SKU. -/
theorem lockedStockBySkuId_eq_ok {w : Warehouse} {skuId : Uuid} {skuCode : String}
    {requireActive : Bool} {stock : InventoryStock}
    (h : w.lockedStockBySkuId skuId skuCode requireActive = .ok stock) :
    w.stocks.find? skuId = some stock := by
  simp only [lockedStockBySkuId, orRefuse_eq_ok, Option.bind_eq_bind, Option.bind_eq_some_iff]
    at h
  obtain ⟨s, hs, _, _, _, _, h⟩ := h
  split at h
  · exact Option.some.inj h ▸ hs
  · simp at h

/-- Locking again after the stock quantities changed finds the changed row. -/
theorem lockedStockBySkuId_congr {w w' : Warehouse} {skuId : Uuid} {skuCode : String}
    {requireActive : Bool} {stock stock' : InventoryStock}
    (h : w.lockedStockBySkuId skuId skuCode requireActive = .ok stock)
    (hs : w'.stocks.find? skuId = some stock') (hd : stock'.isDeleted = stock.isDeleted)
    (hskus : w'.skus = w.skus) (hprod : w'.catalogProducts = w.catalogProducts) :
    w'.lockedStockBySkuId skuId skuCode requireActive = .ok stock' := by
  simp only [lockedStockBySkuId, orRefuse_eq_ok, Option.bind_eq_bind, Option.bind_eq_some_iff,
    hskus, hprod] at h ⊢
  obtain ⟨s, hs₀, sku, hsku, prod, hpr, h⟩ := h
  refine ⟨stock', hs, sku, hsku, prod, hpr, ?_⟩
  split at h
  · next hc =>
    cases h
    rw [if_pos (by rw [hd]; exact hc)]
  · simp at h

/-- `_prelock_stocks`: lock every distinct stock row in the global order of `str(sku_id)`; the
code is the one of the first item with that SKU. -/
def prelockStocks (w : Warehouse) (items : List SellableItem) (requireActive : Bool) :
    Except CommandError Unit :=
  let ids := (items.map SellableItem.sellableUnitId).dedup
  (ids.insertionSort fun u v => u.text ≤ v.text).forM fun skuId =>
    match items.find? fun i => i.sellableUnitId = skuId with
    | some i => (w.lockedStockBySkuId skuId i.item.skuCode requireActive).map fun _ => ()
    | none => .ok ()

/-! ## Reserving -/

/-- One turn of the loop of `_reserve_inventory`: check what is available, add the owned
reservation, raise the aggregate. -/
def reserveItem (orderId : Uuid) (w : Warehouse) (i : SellableItem) :
    Except CommandError Warehouse := do
  let stock ← orRefuse (w.stocks.find? i.sellableUnitId) .keyError
  let quantity := i.item.quantityDecimal
  let available := Decimal.sub stock.quantityOnHand.toDecimal stock.quantityReserved.toDecimal
  refuseIf (available < quantity) (.conflict .insufficientAvailableStock
    (s!"Insufficient available stock for '{i.item.skuCode}': " ++
      s!"requested {i.item.quantity}, available {available.text}"))
  let reserved ← dbError (storeMoney quantity)
  refuseIf (reserved.unscaled ≤ 0)
    (.database (.checkViolation .ckInventoryReservationsQuantityPositive))
  refuseIf (w.reservations.any fun r => r.status = .reserved && r.orderItemId = i.item.id)
    (.database (.uniqueViolation .uxInventoryReservationsActiveOrderItem))
  let quantityReserved ←
    dbError (storeMoney (Decimal.add stock.quantityReserved.toDecimal quantity))
  return { w with
    stocks := w.stocks.set { stock with quantityReserved }
    reservations := w.reservations ++ [
      { orderId, orderItemId := i.item.id, skuId := i.sellableUnitId, skuCode := i.item.skuCode
        quantity := reserved, status := .reserved, isDeleted := false }] }

/-- `_reserve_inventory`. -/
def reserveInventory (w : Warehouse) (orderId : Uuid) (items : List SellableItem) :
    Except CommandError Warehouse :=
  items.foldlM (reserveItem orderId) w

/-! ## Releasing -/

/-- The active reservations of an order. -/
def activeReservations (w : Warehouse) (orderId : Uuid) : List InventoryReservation :=
  w.reservations.filter fun r => r.orderId = orderId && r.status = .reserved && !r.isDeleted

/-- `_prelock_reservation_stocks`: lock the stock rows the active reservations name, in the order
of the SKU; of several codes for one SKU the last one counts. -/
def prelockReservationStocks (w : Warehouse) (orderId : Uuid) : Except CommandError Unit :=
  let rows := w.activeReservations orderId
  let ids := (rows.map InventoryReservation.skuId).dedup
  (ids.insertionSort fun u v => u ≤ v).forM fun skuId =>
    match rows.reverse.find? fun r => r.skuId = skuId with
    | some r => (w.lockedStockBySkuId skuId r.skuCode false).map fun _ => ()
    | none => .ok ()

/-- One turn of the loop of `_release_reservations`: take the quantity off the aggregate. -/
def releaseStock (w : Warehouse) (r : InventoryReservation) : Except CommandError Warehouse := do
  let stock ← orRefuse (w.stocks.find? r.skuId) .keyError
  refuseIf (stock.quantityReserved.toDecimal < r.quantity.toDecimal)
    (.conflict .reservationAggregateMismatch
      (s!"Aggregate reserved stock for '{r.skuCode}' " ++
        "is lower than owned reservation quantity"))
  let quantityReserved ← dbError (storeMoney
    (Decimal.sub stock.quantityReserved.toDecimal r.quantity.toDecimal))
  return { w with stocks := w.stocks.set { stock with quantityReserved } }

/-- The rows `_release_reservations` locks, in the order of the SKU code. -/
def ownedReservations (w : Warehouse) (orderId : Uuid) : List InventoryReservation :=
  (w.activeReservations orderId).insertionSort fun r s => r.skuCode ≤ s.skuCode

/-- `_release_reservations`. -/
def releaseReservations (w : Warehouse) (orderId : Uuid) : Except CommandError Warehouse := do
  let w' ← (w.ownedReservations orderId).foldlM releaseStock w
  return { w' with
    reservations := w'.reservations.map fun r =>
      if r.orderId = orderId && r.status = .reserved && !r.isDeleted then
        { r with status := .released }
      else r }

/-! ## Fulfilling and returning -/

/-- The active reservations of one order item. -/
def itemReservations (w : Warehouse) (orderId orderItemId : Uuid) : List InventoryReservation :=
  w.reservations.filter fun r =>
    r.orderId = orderId && r.orderItemId = orderItemId && r.status = .reserved && !r.isDeleted

/-- `deduct_on_fulfillment` for one item. -/
def deductOnFulfillment (orderId : Uuid) (w : Warehouse) (i : SellableItem) :
    Except CommandError Warehouse := do
  let stock ← w.lockedStockBySkuId i.sellableUnitId i.item.skuCode false
  let quantity := i.item.quantityDecimal
  let quantityBefore := stock.quantityOnHand.toDecimal
  let quantityAfter := Decimal.sub quantityBefore quantity
  refuseIf (quantityAfter < 0) (.conflict .insufficientStock
    (s!"Insufficient stock for '{i.item.skuCode}': " ++
      s!"requested {i.item.quantity}, available {quantityBefore.text}"))
  let reservations := w.itemReservations orderId i.item.id
  let reservedQuantity :=
    (reservations.map fun r => r.quantity.toDecimal).foldl Decimal.add 0
  refuseIf (reservations ≠ [] ∧ reservedQuantity ≠ quantity)
    (.conflict .reservationQuantityMismatch
      (s!"Reservation quantity for order item '{i.item.id.text}' " ++
        s!"is {reservedQuantity.text}, expected {i.item.quantity}"))
  refuseIf (reservations.any fun r => r.skuId ≠ i.sellableUnitId)
    (.conflict .reservationSellableIdMismatch
      s!"Reservation identity does not match order item '{i.item.id.text}'")
  refuseIf (reservations ≠ [] ∧ stock.quantityReserved.toDecimal < reservedQuantity)
    (.conflict .reservationAggregateMismatch
      (s!"Aggregate reserved stock for '{i.item.skuCode}' " ++
        "is lower than owned reservation quantity"))
  let quantityOnHand ← dbError (storeMoney quantityAfter)
  let quantityReserved ← if reservations = [] then pure stock.quantityReserved else
    dbError (storeMoney (Decimal.sub stock.quantityReserved.toDecimal reservedQuantity))
  let moved ← dbError (storeMoney (Decimal.neg quantity))
  return { w with
    stocks := w.stocks.set { stock with quantityOnHand, quantityReserved }
    reservations := w.reservations.map fun r =>
      if r.orderId = orderId && r.orderItemId = i.item.id && r.status = .reserved &&
          !r.isDeleted then
        { r with status := .consumed }
      else r
    movements := w.movements ++ [
      { skuId := i.sellableUnitId, movementType := .deduction, quantity := moved
        quantityBefore := stock.quantityOnHand, quantityAfter := quantityOnHand
        referenceId := some orderId }] }

/-- `restock_on_return` for one item. -/
def restockOnReturn (orderId : Uuid) (w : Warehouse) (i : SellableItem) :
    Except CommandError Warehouse := do
  let stock ← w.lockedStockBySkuId i.sellableUnitId i.item.skuCode false
  let quantity := i.item.quantityDecimal
  refuseIf (quantity ≤ 0) (.conflict .invalidRestockQuantity
    s!"Return quantity for SKU '{i.item.skuCode}' must be positive")
  let quantityOnHand ←
    dbError (storeMoney (Decimal.add stock.quantityOnHand.toDecimal quantity))
  let moved ← dbError (storeMoney quantity)
  return { w with
    stocks := w.stocks.set { stock with quantityOnHand }
    movements := w.movements ++ [
      { skuId := i.sellableUnitId, movementType := .restock, quantity := moved
        quantityBefore := stock.quantityOnHand, quantityAfter := quantityOnHand
        referenceId := some orderId }] }

/-! ## Adjusting -/

/-- `ensure_stock_row`: the live stock row of a SKU, inserted with zero quantities if there is
none. -/
def ensureStockRow (w : Warehouse) (skuId : Uuid) :
    Except CommandError (Warehouse × InventoryStock) :=
  match (w.stocks.find? skuId).filter fun s => !s.isDeleted with
  | some stock => .ok (w, stock)
  | none => do
    let stock : InventoryStock := ⟨skuId, .zero, .zero, false⟩
    let stocks ← orRefuse (w.stocks.insert? stock)
      (.database (.uniqueViolation .uxInventoryStocksSkuId))
    return ({ w with stocks }, stock)

/-- `adjust_stock`: add a signed quantity to what is on hand. -/
def adjustStock (w : Warehouse) (skuCode : String) (quantity : Decimal) :
    Except CommandError Warehouse := do
  let sku ← orRefuse (w.skus.select fun s => s.skuCode = skuCode && !s.isDeleted).head?
    (.http 404 .skuNotFound s!"SKU '{skuCode}' not found")
  let (w, stock) ← w.ensureStockRow sku.id
  let quantityBefore := stock.quantityOnHand
  let quantityAfter := Decimal.add quantityBefore.toDecimal quantity
  refuseIf (quantityAfter < 0) (.conflict .negativeStock
    s!"Adjustment would result in negative stock ({quantityAfter.text})")
  let quantityOnHand ← dbError (storeMoney quantityAfter)
  let moved ← dbError (storeMoney quantity)
  return { w with
    stocks := w.stocks.set { stock with quantityOnHand }
    movements := w.movements ++ [
      { skuId := sku.id, movementType := .adjustment, quantity := moved, quantityBefore
        quantityAfter := quantityOnHand, referenceId := none }] }

end Warehouse

end Mpango
