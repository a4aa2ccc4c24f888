import Mpango.Library.Journal
import Mpango.Skus.Lines

/-!
# What an accepted stock function did

The stock side seen as numbers: `onHand` and `reserved` give the cents of every SKU, zero where
there is no row. A stock function shifts these numbers (`Shift`): it never touches the catalogue,
a row stays live, and the movements it appends lead from the old quantity on hand to the new one.
Shifts compose, so that a loop over the items of an order shifts the stock by what its items ask for.
-/

namespace Mpango

open Decimal CatalogIdentity

namespace Warehouse

/-! ## The stock as numbers -/

/-- The quantity of a SKU on hand, in cents. -/
def onHand (w : Warehouse) (skuId : Uuid) : ℤ :=
  (w.stocks.find? skuId).elim 0 fun s => s.quantityOnHand.unscaled

/-- The quantity of a SKU that is reserved, in cents. -/
def reserved (w : Warehouse) (skuId : Uuid) : ℤ :=
  (w.stocks.find? skuId).elim 0 fun s => s.quantityReserved.unscaled

/-- The active reservations of all orders. -/
def active (w : Warehouse) : List InventoryReservation :=
  w.reservations.filter fun r => r.status = .reserved && !r.isDeleted

/-- A movement as an entry of the journal of its SKU, in cents. -/
def entry (m : InventoryMovement) : Entry ℤ :=
  ⟨m.quantityBefore.unscaled, m.quantity.unscaled, m.quantityAfter.unscaled⟩

/-- The entries of a SKU among the movements, in the order they were written. -/
def journalOf (skuId : Uuid) (movements : List InventoryMovement) : List (Entry ℤ) :=
  (movements.filter fun m => m.skuId = skuId).map entry

section Numbers
variable {w w' : Warehouse} {skuId : Uuid} {stock : InventoryStock}

theorem onHand_of_find? (h : w.stocks.find? skuId = some stock) :
    w.onHand skuId = stock.quantityOnHand.unscaled := by rw [onHand, h]; rfl

theorem reserved_of_find? (h : w.stocks.find? skuId = some stock) :
    w.reserved skuId = stock.quantityReserved.unscaled := by rw [reserved, h]; rfl

theorem onHand_congr (h : w'.stocks = w.stocks) : w'.onHand = w.onHand := by
  funext k
  rw [onHand, onHand, h]

theorem reserved_congr (h : w'.stocks = w.stocks) : w'.reserved = w.reserved := by
  funext k
  rw [reserved, reserved, h]

theorem journalOf_append (k : Uuid) (ms ns : List InventoryMovement) :
    journalOf k (ms ++ ns) = journalOf k ms ++ journalOf k ns := by
  rw [journalOf, List.filter_append, List.map_append]
  rfl

theorem mem_active {r : InventoryReservation} :
    r ∈ w.active ↔ r ∈ w.reservations ∧ r.status = .reserved ∧ r.isDeleted = false := by
  simp [active]

end Numbers

/-! ## Shifts -/

/-- The stock was shifted: the reserved quantities by a number for each SKU, the quantities on hand
as the appended movements say. -/
structure Shift (w w' : Warehouse) (held : Uuid → ℤ) (moved : List InventoryMovement) : Prop where
  skus : w'.skus = w.skus
  catalogProducts : w'.catalogProducts = w.catalogProducts
  reserved : ∀ k, w'.reserved k = w.reserved k + held k
  movements : w'.movements = w.movements ++ moved
  chained : ∀ k, Chained (w.onHand k) (journalOf k moved) (w'.onHand k)
  live : ∀ k stock, w.stocks.find? k = some stock → ∃ stock', w'.stocks.find? k = some stock' ∧
    stock'.isDeleted = stock.isDeleted

section Shift
variable {w w' w'' : Warehouse} {held held' : Uuid → ℤ} {moved moved' : List InventoryMovement}

theorem Shift.refl (hstocks : w'.stocks = w.stocks) (hskus : w'.skus = w.skus)
    (hproducts : w'.catalogProducts = w.catalogProducts) (hmovements : w'.movements = w.movements) :
    Shift w w' (fun _ => 0) [] where
  skus := hskus
  catalogProducts := hproducts
  reserved k := by rw [reserved_congr hstocks, add_zero]
  movements := by rw [hmovements, List.append_nil]
  chained k := by rw [onHand_congr hstocks]; exact rfl
  live k stock h := ⟨stock, hstocks ▸ h, rfl⟩

theorem Shift.trans (h : Shift w w' held moved) (h' : Shift w' w'' held' moved') :
    Shift w w'' (fun k => held k + held' k) (moved ++ moved') where
  skus := h'.skus.trans h.skus
  catalogProducts := h'.catalogProducts.trans h.catalogProducts
  reserved k := by rw [h'.reserved, h.reserved, add_assoc]
  movements := by rw [h'.movements, h.movements, List.append_assoc]
  chained k := by
    rw [journalOf_append]
    exact (h.chained k).append (h'.chained k)
  live k stock hstock := by
    obtain ⟨stock₁, hstock₁, hlive₁⟩ := h.live k stock hstock
    obtain ⟨stock₂, hstock₂, hlive₂⟩ := h'.live k stock₁ hstock₁
    exact ⟨stock₂, hstock₂, hlive₂.trans hlive₁⟩

theorem Shift.congr (h : Shift w w' held moved) (hheld : ∀ k, held k = held' k) :
    Shift w w' held' moved := by
  rwa [← funext hheld]

/-- Where every movement adds up, the quantity on hand moved by their sum. -/
theorem Shift.onHand (h : Shift w w' held moved) (hb : ∀ m ∈ moved, (entry m).Balanced) (k : Uuid) :
    w'.onHand k = w.onHand k + ((journalOf k moved).map Entry.change).sum := by
  apply (h.chained k).replay
  intro e he
  obtain ⟨m, hm, rfl⟩ := List.mem_map.mp he
  exact hb m (List.mem_filter.mp hm).1

/-- A SKU stays identified. -/
theorem Shift.identified (h : Shift w w' held moved) {skuId : Uuid} {skuCode : String}
    (hi : Identified w skuId skuCode) : Identified w' skuId skuCode := by
  unfold Identified at hi ⊢
  rwa [h.skus, h.catalogProducts]

/-- One row was changed: its reserved quantity by a number, its quantity on hand by an entry of its
journal, or not at all. -/
theorem Shift.of_set {skuId : Uuid} {stock : InventoryStock} {z : ℤ} (stock' : InventoryStock)
    (hfind : w.stocks.find? skuId = some stock) (hkey : stock'.skuId = stock.skuId)
    (hlive : stock'.isDeleted = stock.isDeleted) (hskus : w'.skus = w.skus)
    (hproducts : w'.catalogProducts = w.catalogProducts)
    (hmovements : w'.movements = w.movements ++ moved) (hstocks : w'.stocks = w.stocks.set stock')
    (hheld : stock'.quantityReserved.unscaled = stock.quantityReserved.unscaled + z)
    (hchained : Chained stock.quantityOnHand.unscaled (moved.map entry)
      stock'.quantityOnHand.unscaled) (hmoved : ∀ m ∈ moved, m.skuId = skuId) :
    Shift w w' (fun k => if skuId = k then z else 0) moved := by
  have hsku : key stock' = skuId := hkey.trans (Table.key_of_find? hfind)
  have hself : w'.stocks.find? skuId = some stock' := by
    rw [hstocks, ← hsku]
    exact Table.find?_set_self (hsku.symm ▸ hfind)
  have hother : ∀ k, skuId ≠ k → w'.stocks.find? k = w.stocks.find? k := by
    intro k hk
    rw [hstocks]
    exact Table.find?_set_of_ne (hsku.symm ▸ hk.symm)
  refine
    { skus := hskus, catalogProducts := hproducts, movements := hmovements
      reserved := fun k => ?_, chained := fun k => ?_, live := fun k s hs => ?_ }
  · by_cases hk : skuId = k
    · subst hk
      rw [if_pos rfl, reserved_of_find? hself, reserved_of_find? hfind, hheld]
    · rw [if_neg hk, add_zero, Warehouse.reserved, Warehouse.reserved, hother k hk]
  · by_cases hk : skuId = k
    · subst hk
      have hall : journalOf skuId moved = moved.map entry := by
        rw [journalOf, List.filter_eq_self.mpr fun m hm => decide_eq_true (hmoved m hm)]
      rw [hall, onHand_of_find? hself, onHand_of_find? hfind]
      exact hchained
    · have hnone : journalOf k moved = [] := by
        rw [journalOf, List.map_eq_nil_iff, List.filter_eq_nil_iff]
        intro m hm
        rw [hmoved m hm]
        simpa using hk
      rw [hnone, Warehouse.onHand, Warehouse.onHand, hother k hk]
      exact rfl
  · by_cases hk : skuId = k
    · subst hk
      obtain rfl : stock = s := Option.some.inj (hfind.symm.trans hs)
      exact ⟨stock', hself, hlive⟩
    · exact ⟨s, (hother k hk).trans hs, rfl⟩

end Shift

/-! ## One item -/

section Item
variable {w w' : Warehouse} {orderId : Uuid} {i : SellableItem}

/-- The reservation an item gets. -/
def reservationOf (orderId : Uuid) (i : SellableItem) (quantity : Money) : InventoryReservation :=
  { orderId, orderItemId := i.item.id, skuId := i.sellableUnitId, skuCode := i.item.skuCode
    quantity, status := .reserved, isDeleted := false }

/-- Reserving an item: that much was available, and it is held by a reservation of its own. -/
theorem reserveItem_eq_ok (h : reserveItem orderId w i = .ok w') : ∃ quantity : Money,
    quantity.unscaled = i.item.quantity * 100 ∧ 0 < quantity.unscaled ∧
      quantity.unscaled ≤ w.onHand i.sellableUnitId - w.reserved i.sellableUnitId ∧
      w'.reservations = w.reservations ++ [reservationOf orderId i quantity] ∧
      Shift w w' (fun k => if i.sellableUnitId = k then quantity.unscaled else 0) [] := by
  unfold reserveItem at h
  simp only [bind_eq_ok, orRefuse_eq_ok, refuseIf_eq_ok, exists_const, dbError_eq_ok, pure_eq_ok,
    not_lt, not_le] at h
  obtain ⟨stock, hstock, havailable, quantity, hquantity, hpos, -, quantityReserved, hreserved,
    rfl⟩ := h
  rw [OrderItem.quantityDecimal_eq] at hquantity havailable hreserved
  rw [storeMoney_scaled] at hquantity
  rw [Money.sub_toDecimal, scaled_le_scaled] at havailable
  have hsum : Decimal.add stock.quantityReserved.toDecimal (scaled 2 (i.item.quantity * 100)) =
      scaled 2 (stock.quantityReserved.unscaled + quantity.unscaled) := by
    rw [← hquantity]
    exact Money.add_toDecimal stock.quantityReserved quantity
  rw [hsum, storeMoney_scaled] at hreserved
  refine ⟨quantity, hquantity, hpos, ?_, rfl, ?_⟩
  · rw [onHand_of_find? hstock, reserved_of_find? hstock, hquantity]
    exact havailable
  · exact Shift.of_set { stock with quantityReserved } hstock rfl rfl rfl rfl
      (List.append_nil _).symm rfl hreserved rfl (List.forall_mem_nil _)

/-- Releasing a reservation: its quantity was reserved, and is not any more. -/
theorem releaseStock_eq_ok {r : InventoryReservation} (h : w.releaseStock r = .ok w') :
    r.quantity.unscaled ≤ w.reserved r.skuId ∧ w'.reservations = w.reservations ∧
      Shift w w' (fun k => if r.skuId = k then -r.quantity.unscaled else 0) [] := by
  unfold releaseStock at h
  simp only [bind_eq_ok, orRefuse_eq_ok, refuseIf_eq_ok, exists_const, dbError_eq_ok, pure_eq_ok,
    not_lt] at h
  obtain ⟨stock, hstock, hle, quantityReserved, hreserved, rfl⟩ := h
  rw [Money.sub_toDecimal, storeMoney_scaled] at hreserved
  rw [Numeric.toDecimal, Numeric.toDecimal, scaled_le_scaled] at hle
  refine ⟨by rwa [reserved_of_find? hstock], rfl, ?_⟩
  exact Shift.of_set { stock with quantityReserved } hstock rfl rfl rfl rfl
    (List.append_nil _).symm rfl (by rw [hreserved, sub_eq_add_neg]) rfl (List.forall_mem_nil _)

/-- An item of at most ten thousand units fits a stored quantity. -/
theorem exists_money_of_le {z : ℤ} (h : 1 ≤ z) (h' : z ≤ 10000) :
    ∃ m : Money, m.unscaled = z * 100 := by
  refine ⟨⟨z * 100, ?_⟩, rfl⟩
  omega

/-- A movement of an order. -/
def movementOf (type : MovementType) (orderId : Uuid) (i : SellableItem) (z : ℤ)
    (m : InventoryMovement) : Prop :=
  m.skuId = i.sellableUnitId ∧ m.movementType = type ∧ m.referenceId = some orderId ∧
    m.quantity.unscaled = z ∧ (entry m).Balanced

/-- Deducting an item: that much was on hand; the reservations of the item, if there are any, hold
exactly its quantity of its SKU, and are consumed. -/
theorem deductOnFulfillment_eq_ok (hlow : 1 ≤ i.item.quantity) (hhigh : i.item.quantity ≤ 10000)
    (h : deductOnFulfillment orderId w i = .ok w') : ∃ m z,
    movementOf .deduction orderId i (-(i.item.quantity * 100)) m ∧
      0 ≤ w'.onHand i.sellableUnitId ∧
      w'.reservations = consume orderId i.item.id w.reservations ∧
      (w.itemReservations orderId i.item.id = [] ∧ z = 0 ∨
        w.itemReservations orderId i.item.id ≠ [] ∧ z = i.item.quantity * 100) ∧
      Shift w w' (fun k => if i.sellableUnitId = k then -z else 0) [m] := by
  obtain ⟨q, hq⟩ := exists_money_of_le hlow hhigh
  have hdecimal : i.item.quantityDecimal = q.toDecimal := by
    rw [OrderItem.quantityDecimal_eq, Numeric.toDecimal, hq]
  have hneg : Decimal.neg q.toDecimal = scaled 2 (-q.unscaled) := by
    refine neg_scaled_eq ?_
    have := q.bound
    unfold contextPrecision
    omega
  unfold deductOnFulfillment at h
  simp only [bind_eq_ok, refuseIf_eq_ok, exists_const, dbError_eq_ok, hdecimal, hneg,
    Money.sub_toDecimal, storeMoney_scaled, scaled_neg_iff, not_lt] at h
  obtain ⟨stock, hlock, hnn, hmatch, -, -, onHand, honHand, h⟩ := h
  have hstock := lockedStockBySkuId_eq_ok hlock
  -- what the row holds afterwards depends on whether the item has reservations
  obtain ⟨z, hcase, quantityReserved, hvalue, moved, hmoved, rfl⟩ : ∃ z,
      (w.itemReservations orderId i.item.id = [] ∧ z = 0 ∨
        w.itemReservations orderId i.item.id ≠ [] ∧ z = i.item.quantity * 100) ∧
      ∃ quantityReserved : Money,
        quantityReserved.unscaled = stock.quantityReserved.unscaled + -z ∧
      ∃ moved : Money, moved.unscaled = -q.unscaled ∧
        { w with
          stocks := w.stocks.set { stock with quantityOnHand := onHand, quantityReserved }
          reservations := consume orderId i.item.id w.reservations
          movements := w.movements ++ [
            { skuId := i.sellableUnitId, movementType := .deduction, quantity := moved
              quantityBefore := stock.quantityOnHand, quantityAfter := onHand
              referenceId := some orderId }] } = w' := by
    split at h
    · next hnil =>
      simp only [bind_eq_ok, dbError_eq_ok, storeMoney_scaled, pure_eq_ok] at h
      obtain ⟨_, rfl, moved, hmoved, hw⟩ := h
      exact ⟨0, .inl ⟨hnil, rfl⟩, stock.quantityReserved, by omega, moved, hmoved, hw⟩
    · next hne =>
      have hsum := not_not.mp fun hne' => hmatch ⟨hne, hne'⟩
      simp only [hsum, bind_eq_ok, dbError_eq_ok, Money.sub_toDecimal, storeMoney_scaled,
        pure_eq_ok] at h
      obtain ⟨quantityReserved, hreserved, moved, hmoved, hw⟩ := h
      exact ⟨_, .inr ⟨hne, rfl⟩, quantityReserved, by omega, moved, hmoved, hw⟩
  let m : InventoryMovement :=
    { skuId := i.sellableUnitId, movementType := .deduction, quantity := moved
      quantityBefore := stock.quantityOnHand, quantityAfter := onHand
      referenceId := some orderId }
  have hbalanced : (entry m).Balanced := by
    show stock.quantityOnHand.unscaled + moved.unscaled = onHand.unscaled
    rw [hmoved, honHand, sub_eq_add_neg]
  let after : Warehouse := { w with
    stocks := w.stocks.set { stock with quantityOnHand := onHand, quantityReserved }
    reservations := consume orderId i.item.id w.reservations
    movements := w.movements ++ [m] }
  have hshift : Shift w after (fun k => if i.sellableUnitId = k then -z else 0) [m] :=
    Shift.of_set { stock with quantityOnHand := onHand, quantityReserved } hstock rfl rfl rfl rfl
      rfl rfl hvalue ⟨rfl, rfl⟩ (by simp [m])
  refine ⟨m, z, ⟨rfl, rfl, rfl, ?_, hbalanced⟩, ?_, rfl, hcase, hshift⟩
  · rw [← hq]
    exact hmoved
  · have hentry := hshift.chained i.sellableUnitId
    simp only [journalOf, m, List.filter_cons_of_pos, decide_true, List.filter_nil, List.map_cons,
      List.map_nil, chained_singleton] at hentry
    rw [← hentry.2]
    show 0 ≤ onHand.unscaled
    rw [honHand]
    exact hnn

/-- Restocking an item. -/
theorem restockOnReturn_eq_ok (hlow : 1 ≤ i.item.quantity) (hhigh : i.item.quantity ≤ 10000)
    (h : restockOnReturn orderId w i = .ok w') : ∃ m,
    movementOf .restock orderId i (i.item.quantity * 100) m ∧
      w'.reservations = w.reservations ∧ Shift w w' (fun _ => 0) [m] := by
  obtain ⟨q, hq⟩ := exists_money_of_le hlow hhigh
  have hdecimal : i.item.quantityDecimal = q.toDecimal := by
    rw [OrderItem.quantityDecimal_eq, Numeric.toDecimal, hq]
  unfold restockOnReturn at h
  simp only [bind_eq_ok, refuseIf_eq_ok, exists_const, dbError_eq_ok, pure_eq_ok, hdecimal,
    Money.add_toDecimal, storeMoney_scaled] at h
  obtain ⟨stock, hlock, -, onHand, honHand, moved, hmoved, rfl⟩ := h
  have hstock := lockedStockBySkuId_eq_ok hlock
  rw [Numeric.toDecimal, storeMoney_scaled] at hmoved
  let m : InventoryMovement :=
    { skuId := i.sellableUnitId, movementType := .restock, quantity := moved
      quantityBefore := stock.quantityOnHand, quantityAfter := onHand
      referenceId := some orderId }
  have hbalanced : (entry m).Balanced := by
    show stock.quantityOnHand.unscaled + moved.unscaled = onHand.unscaled
    rw [hmoved, honHand]
  let after : Warehouse := { w with
    stocks := w.stocks.set { stock with quantityOnHand := onHand }
    movements := w.movements ++ [m] }
  have hshift : Shift w after (fun k => if i.sellableUnitId = k then 0 else 0) [m] :=
    Shift.of_set { stock with quantityOnHand := onHand } hstock rfl rfl rfl rfl rfl rfl
      (add_zero _).symm ⟨rfl, rfl⟩ (by simp [m])
  refine ⟨m, ⟨rfl, rfl, rfl, ?_, hbalanced⟩, rfl, hshift.congr fun k => ite_self 0⟩
  rw [← hq]
  exact hmoved

end Item

/-! ## Adjusting -/

section Adjust
variable {w w' : Warehouse} {skuId : Uuid} {skuCode : String} {quantity : Decimal}

/-- The row of a SKU, inserted if there is none, is the row found afterwards; nothing else moved. -/
theorem ensureStockRow_eq_ok {stock : InventoryStock}
    (h : w.ensureStockRow skuId = .ok (w', stock)) : w'.stocks.find? skuId = some stock ∧
      w'.reservations = w.reservations ∧ Shift w w' (fun _ => 0) [] := by
  unfold ensureStockRow at h
  split at h
  · next s hs =>
    rw [Option.filter_eq_some_iff] at hs
    obtain ⟨rfl, rfl⟩ := Prod.mk.inj (Except.ok.inj h)
    exact ⟨hs.1, rfl, .refl rfl rfl rfl rfl⟩
  · next hnone =>
    simp only [bind_eq_ok, orRefuse_eq_ok, pure_eq_ok, Prod.mk.injEq] at h
    obtain ⟨stocks, hins, rfl, rfl⟩ := h
    have hfree := (Table.insert?_eq_some.mp hins).1
    have hfind : ∀ k, stocks.find? k = if k = skuId then some ⟨skuId, .zero, .zero, false⟩
        else w.stocks.find? k := Table.find?_insert? hins
    have honHand : ∀ k, ({ w with stocks } : Warehouse).onHand k = w.onHand k := by
      intro k
      rw [Warehouse.onHand, Warehouse.onHand, hfind]
      split
      · next hk =>
        subst hk
        rw [show w.stocks.find? k = none from hfree]
        rfl
      · rfl
    refine ⟨by rw [hfind, if_pos rfl], rfl, ?_⟩
    refine
      { skus := rfl, catalogProducts := rfl, movements := (List.append_nil _).symm
        chained := fun k => (honHand k).symm, reserved := fun k => ?_, live := fun k s hs => ?_ }
    · rw [add_zero, Warehouse.reserved, Warehouse.reserved, hfind]
      split
      · next hk =>
        subst hk
        rw [show w.stocks.find? k = none from hfree]
        rfl
      · rfl
    · refine ⟨s, ?_, rfl⟩
      rw [hfind, if_neg ?_]
      · exact hs
      · rintro rfl
        rw [show w.stocks.find? k = none from hfree] at hs
        cases hs

/-- The unit a manual adjustment is for. -/
def adjusted? (w : Warehouse) (skuCode : String) : Option Uuid :=
  ((w.skus.select fun s => s.skuCode = skuCode && !s.isDeleted).head?).map Sku.id

/-- What an adjustment by a quantity leaves on hand, in cents. -/
def adjustedOnHand (w : Warehouse) (skuId : Uuid) (quantity : Decimal) : ℤ :=
  roundHalfAway (Decimal.add (scaled 2 (w.onHand skuId)) quantity * 10 ^ 2)

/-- An adjustment: one movement, with the stored quantity, from the quantity on hand to the stored
sum, which is not negative. -/
theorem adjustStock_eq_ok (h : w.adjustStock skuCode quantity = .ok w') : ∃ skuId m,
    w.adjusted? skuCode = some skuId ∧ m.skuId = skuId ∧ m.movementType = .adjustment ∧
      m.referenceId = none ∧ m.quantity.unscaled = roundHalfAway (quantity * 10 ^ 2) ∧
      m.quantityBefore.unscaled = w.onHand skuId ∧
      m.quantityAfter.unscaled = w.adjustedOnHand skuId quantity ∧
      w'.onHand skuId = w.adjustedOnHand skuId quantity ∧ 0 ≤ w'.onHand skuId ∧
      w'.reservations = w.reservations ∧ Shift w w' (fun _ => 0) [m] := by
  unfold adjustStock at h
  simp only [bind_eq_ok, orRefuse_eq_ok, refuseIf_eq_ok, exists_const, dbError_eq_ok, pure_eq_ok,
    Prod.exists, not_lt] at h
  obtain ⟨sku, hsku, w₁, stock, hensure, hnn, onHand, honHand, moved, hmoved, rfl⟩ := h
  obtain ⟨hstock, hreservations, hshift₁⟩ := ensureStockRow_eq_ok hensure
  have hbefore : stock.quantityOnHand.unscaled = w.onHand sku.id := by
    rw [← onHand_of_find? hstock]
    exact (chained_nil.mp (hshift₁.chained sku.id)).symm
  rw [storeMoney_eq_ok] at honHand hmoved
  rw [Numeric.toDecimal, hbefore] at honHand hnn
  let m : InventoryMovement :=
    { skuId := sku.id, movementType := .adjustment, quantity := moved
      quantityBefore := stock.quantityOnHand, quantityAfter := onHand, referenceId := none }
  let after : Warehouse := { w₁ with
    stocks := w₁.stocks.set { stock with quantityOnHand := onHand }
    movements := w₁.movements ++ [m] }
  have hshift₂ : Shift w₁ after (fun k => if sku.id = k then 0 else 0) [m] :=
    Shift.of_set { stock with quantityOnHand := onHand } hstock rfl rfl rfl rfl rfl rfl
      (add_zero _).symm ⟨rfl, rfl⟩ (by simp [m])
  have hafter : after.onHand sku.id = onHand.unscaled := by
    have hkey : key stock = sku.id := Table.key_of_find? hstock
    have hfound : after.stocks.find? sku.id = some { stock with quantityOnHand := onHand } := by
      rw [← hkey]
      exact Table.find?_set_self (hkey.symm ▸ hstock)
    exact onHand_of_find? hfound
  refine ⟨sku.id, m, by rw [adjusted?, hsku]; rfl, rfl, rfl, rfl, hmoved, hbefore, honHand,
    hafter.trans honHand, ?_, hreservations, ?_⟩
  · rw [hafter, honHand]
    exact roundHalfAway_nonneg (mul_nonneg hnn (by positivity))
  · exact (hshift₁.trans hshift₂).congr fun k => by rw [ite_self, add_zero]

end Adjust

end Warehouse

end Mpango
