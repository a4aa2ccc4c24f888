import Mpango.Spec.OrderCommands

/-!
# Taking lines off the stock

What an order has reserved is a list of lines: a SKU and a quantity in cents. The loops of
cancelling and fulfilling take one line after the other off a stock row, and complete where the rows
cover the lines still to come (`Covers`).
-/

namespace Mpango

open Decimal

namespace CatalogIdentity

/-! ## Lines -/

/-- A SKU and a quantity of it, in cents. -/
abbrev Line := Uuid × ℤ

def reservationLine (r : InventoryReservation) : Line := (r.skuId, r.quantity.unscaled)

def itemLine (i : SellableItem) : Line := (i.sellableUnitId, i.item.quantity * 100)

/-- What a movement took from a stock row. -/
def movementLine (m : InventoryMovement) : Line := (m.skuId, -m.quantity.unscaled)

/-- The quantity of a SKU on the lines. -/
def demand (lines : List Line) (skuId : Uuid) : ℤ :=
  (lines.map fun line => if line.1 = skuId then line.2 else 0).sum

theorem demand_cons (line : Line) (lines : List Line) (skuId : Uuid) :
    demand (line :: lines) skuId = (if line.1 = skuId then line.2 else 0) + demand lines skuId := by
  unfold demand
  rw [List.map_cons, List.sum_cons]

theorem demand_perm {lines lines' : List Line} (h : lines.Perm lines') (skuId : Uuid) :
    demand lines skuId = demand lines' skuId := (h.map _).sum_eq

/-- The stock rows cover the lines with a quantity they hold. -/
def Covers (held : InventoryStock → Money) (stocks : Table InventoryStock) (lines : List Line) :
    Prop :=
  ∀ line ∈ lines, ∃ stock, stocks.find? line.1 = some stock ∧ stock.isDeleted = false ∧
    demand lines line.1 ≤ (held stock).unscaled

section Covers
variable {held : InventoryStock → Money} {stocks : Table InventoryStock} {line : Line}
  {lines : List Line} {stock stock' : InventoryStock}

theorem Covers.perm {lines' : List Line} (h : Covers held stocks lines)
    (hperm : lines.Perm lines') : Covers held stocks lines' := by
  intro line hline
  obtain ⟨stock, hstock, hlive, hle⟩ := h line (hperm.mem_iff.mpr hline)
  exact ⟨stock, hstock, hlive, demand_perm hperm line.1 ▸ hle⟩

/-- The first line is covered. -/
theorem Covers.head (h : Covers held stocks (line :: lines)) (hpos : ∀ l ∈ lines, 0 ≤ l.2) :
    ∃ stock, stocks.find? line.1 = some stock ∧ stock.isDeleted = false ∧
      line.2 ≤ (held stock).unscaled := by
  obtain ⟨stock, hstock, hlive, hle⟩ := h line List.mem_cons_self
  refine ⟨stock, hstock, hlive, ?_⟩
  rw [demand_cons, if_pos rfl] at hle
  have hrest : 0 ≤ demand lines line.1 := by
    unfold demand
    apply List.sum_nonneg
    intro quantity hquantity
    obtain ⟨l, hl, rfl⟩ := List.mem_map.mp hquantity
    split
    · exact hpos l hl
    · exact le_rfl
  omega

/-- A line taken off its row leaves the other lines covered. -/
theorem Covers.set (h : Covers held stocks (line :: lines))
    (hstock : stocks.find? line.1 = some stock) (hkey : stock'.skuId = stock.skuId)
    (hlive : stock'.isDeleted = stock.isDeleted)
    (hheld : (held stock').unscaled = (held stock).unscaled - line.2) :
    Covers held (stocks.set stock') lines := by
  have hskuId : key stock' = line.1 := hkey.trans (Table.key_of_find? hstock)
  intro l hl
  obtain ⟨old, hold, holdLive, hle⟩ := h l (List.mem_cons_of_mem line hl)
  rw [demand_cons] at hle
  by_cases hsame : l.1 = line.1
  · rw [hsame] at hold hle ⊢
    obtain rfl : old = stock := Option.some.inj (hold.symm.trans hstock)
    refine ⟨stock', ?_, hlive.trans holdLive, ?_⟩
    · rw [← hskuId]
      exact Table.find?_set_self (hskuId.symm ▸ hstock)
    · rw [if_pos rfl] at hle
      omega
  · refine ⟨old, ?_, holdLive, ?_⟩
    · rw [Table.find?_set_of_ne (hskuId.symm ▸ hsame), hold]
    · rw [if_neg (Ne.symm hsame)] at hle
      omega

/-- A quantity that does not move keeps the rows covering. -/
theorem Covers.of_find? {stocks' : Table InventoryStock} (h : Covers held stocks lines)
    (hstocks : ∀ skuId stock, stocks.find? skuId = some stock → ∃ stock',
      stocks'.find? skuId = some stock' ∧ stock'.isDeleted = stock.isDeleted ∧
        held stock' = held stock) : Covers held stocks' lines := by
  intro line hline
  obtain ⟨stock, hstock, hlive, hle⟩ := h line hline
  obtain ⟨stock', hstock', hlive', hheld⟩ := hstocks line.1 stock hstock
  exact ⟨stock', hstock', hlive'.trans hlive, hheld ▸ hle⟩

end Covers

/-! ## Stored quantities -/

theorem storeMoney_sub {m n : Money} (hn : 0 ≤ n.unscaled) (hle : n.unscaled ≤ m.unscaled) :
    ∃ d : Money, storeMoney (Decimal.sub m.toDecimal n.toDecimal) = .ok d ∧
      d.unscaled = m.unscaled - n.unscaled := by
  have hbound : (m.unscaled - n.unscaled).natAbs < 10 ^ 12 := by
    have := m.bound
    omega
  refine ⟨⟨_, hbound⟩, ?_, rfl⟩
  rw [Money.sub_toDecimal, storeMoney_scaled]

theorem storeMoney_neg (n : Money) :
    ∃ d : Money, storeMoney (Decimal.neg n.toDecimal) = .ok d ∧ d.unscaled = -n.unscaled := by
  have hn := n.bound
  have hbound : (-n.unscaled).natAbs < 10 ^ 12 := by omega
  refine ⟨⟨_, hbound⟩, ?_, rfl⟩
  have hcontext : n.unscaled.natAbs < 10 ^ contextPrecision := by
    unfold contextPrecision
    omega
  rw [Numeric.toDecimal, neg_scaled_eq hcontext, storeMoney_scaled]

/-! ## Cancelling -/

section Release
variable {w : Warehouse} {r : InventoryReservation} {stock : InventoryStock}

theorem releaseStock_ok (hstock : w.stocks.find? r.skuId = some stock)
    (hpos : 0 < r.quantity.unscaled)
    (hle : r.quantity.unscaled ≤ stock.quantityReserved.unscaled) :
    ∃ quantityReserved : Money, w.releaseStock r =
      .ok { w with stocks := w.stocks.set { stock with quantityReserved } } ∧
        quantityReserved.unscaled = stock.quantityReserved.unscaled - r.quantity.unscaled := by
  obtain ⟨quantityReserved, hstored, hvalue⟩ := storeMoney_sub hpos.le hle
  refine ⟨quantityReserved, ?_, hvalue⟩
  have hcovered : ¬stock.quantityReserved.toDecimal < r.quantity.toDecimal := by
    rw [Numeric.toDecimal, Numeric.toDecimal, scaled_lt_scaled]
    omega
  unfold Warehouse.releaseStock
  rw [hstock, orRefuse_some, ok_bind, refuseIf_neg hcovered, ok_bind, hstored]
  rfl

/-- Reservations that are covered are released. -/
theorem releaseStock_foldlM {rs : List InventoryReservation}
    (hpos : ∀ r ∈ rs, 0 < r.quantity.unscaled)
    (hcovers : Covers (·.quantityReserved) w.stocks (rs.map reservationLine)) :
    ∃ w', rs.foldlM Warehouse.releaseStock w = .ok w' ∧ w'.reservations = w.reservations := by
  have htotal := foldlM_total (f := Warehouse.releaseStock)
    (I := fun rest w' => (∀ r ∈ rest, 0 < r.quantity.unscaled) ∧
      Covers (·.quantityReserved) w'.stocks (rest.map reservationLine) ∧
        w'.reservations = w.reservations) ?_ (l := rs) (b := w) ⟨hpos, hcovers, rfl⟩
  · obtain ⟨w', hfold, -, -, hsame⟩ := htotal
    exact ⟨w', hfold, hsame⟩
  · intro r rest b ⟨hpos, hcovers, hsame⟩
    rw [List.map_cons] at hcovers
    have hrest : ∀ l ∈ rest.map reservationLine, 0 ≤ l.2 := by
      intro l hl
      obtain ⟨r', hr', rfl⟩ := List.mem_map.mp hl
      exact (hpos r' (List.mem_cons_of_mem r hr')).le
    obtain ⟨stock, hstock, -, hle⟩ := hcovers.head hrest
    obtain ⟨quantityReserved, hreleased, hvalue⟩ :=
      releaseStock_ok (w := b) hstock (hpos r List.mem_cons_self) hle
    refine ⟨_, hreleased, fun r' hr' => hpos r' (List.mem_cons_of_mem r hr'), ?_, hsame⟩
    exact hcovers.set hstock rfl rfl hvalue

end Release

/-! ## Fulfilling -/

section Deduct
variable {w : Warehouse} {orderId : Uuid} {i : SellableItem} {r : InventoryReservation}
  {stock : InventoryStock}

/-- The reservations with those of an item consumed. -/
def consume (orderId orderItemId : Uuid) (rs : List InventoryReservation) :
    List InventoryReservation :=
  rs.map fun r =>
    if r.orderId = orderId && r.orderItemId = orderItemId && r.status = .reserved &&
        !r.isDeleted then
      { r with status := .consumed }
    else r

/-- The one reservation of an item covers it. -/
structure Matches (i : SellableItem) (r : InventoryReservation) : Prop where
  sku : r.skuId = i.sellableUnitId
  quantity : r.quantity.unscaled = i.item.quantity * 100
  pos : 0 < r.quantity.unscaled

theorem Matches.line (h : Matches i r) : reservationLine r = itemLine i :=
  Prod.ext h.sku h.quantity

theorem Matches.quantityDecimal (h : Matches i r) :
    i.item.quantityDecimal = r.quantity.toDecimal := by
  rw [OrderItem.quantityDecimal_eq, Numeric.toDecimal, h.quantity]

/-- A single quantity is its sum. -/
theorem foldl_add_singleton (m : Money) :
    [m.toDecimal].foldl Decimal.add 0 = m.toDecimal := by
  have hbound : (0 + m.unscaled).natAbs < 10 ^ contextPrecision := by
    have := m.bound
    unfold contextPrecision
    omega
  show Decimal.add 0 (scaled 2 m.unscaled) = scaled 2 m.unscaled
  rw [← scaled_zero (s := 2), add_scaled hbound, zero_add]

/-- A covered item is deducted. -/
theorem deductOnFulfillment_ok
    (hlock : w.lockedStockBySkuId i.sellableUnitId i.item.skuCode false = .ok stock)
    (hreserved : w.itemReservations orderId i.item.id = [r]) (hmatches : Matches i r)
    (honHand : r.quantity.unscaled ≤ stock.quantityOnHand.unscaled)
    (hheld : r.quantity.unscaled ≤ stock.quantityReserved.unscaled) :
    ∃ w' stock' movement, Warehouse.deductOnFulfillment orderId w i = .ok w' ∧
      w'.skus = w.skus ∧ w'.catalogProducts = w.catalogProducts ∧
      w'.stocks = w.stocks.set stock' ∧ stock'.skuId = stock.skuId ∧
      stock'.isDeleted = stock.isDeleted ∧
      stock'.quantityOnHand.unscaled = stock.quantityOnHand.unscaled - (itemLine i).2 ∧
      stock'.quantityReserved.unscaled = stock.quantityReserved.unscaled - (itemLine i).2 ∧
      w'.reservations = consume orderId i.item.id w.reservations ∧
      w'.movements = w.movements ++ [movement] ∧ movementLine movement = itemLine i := by
  obtain ⟨quantityOnHand, hstoredOnHand, hvalueOnHand⟩ := storeMoney_sub hmatches.pos.le honHand
  obtain ⟨quantityReserved, hstoredReserved, hvalueReserved⟩ :=
    storeMoney_sub hmatches.pos.le hheld
  obtain ⟨moved, hstoredMoved, hvalueMoved⟩ := storeMoney_neg r.quantity
  have hline : (itemLine i).2 = r.quantity.unscaled := hmatches.quantity.symm
  have hsum : ([r].map fun r => r.quantity.toDecimal).foldl Decimal.add 0 = r.quantity.toDecimal :=
    foldl_add_singleton r.quantity
  have hafter : ¬Decimal.sub stock.quantityOnHand.toDecimal r.quantity.toDecimal < 0 := by
    rw [Money.sub_toDecimal, scaled_neg_iff]
    omega
  have hcovered : ¬([r] ≠ [] ∧ stock.quantityReserved.toDecimal < r.quantity.toDecimal) := by
    rw [Numeric.toDecimal, Numeric.toDecimal, scaled_lt_scaled]
    omega
  have hidentity : ¬([r].any fun r => r.skuId ≠ i.sellableUnitId) = true := by
    simp [hmatches.sku]
  let movement : InventoryMovement :=
    { skuId := i.sellableUnitId, movementType := .deduction, quantity := moved
      quantityBefore := stock.quantityOnHand, quantityAfter := quantityOnHand
      referenceId := some orderId }
  refine ⟨{ w with
    stocks := w.stocks.set { stock with quantityOnHand, quantityReserved }
    reservations := consume orderId i.item.id w.reservations
    movements := w.movements ++ [movement] },
    { stock with quantityOnHand, quantityReserved }, movement, ?_, rfl, rfl, rfl, rfl, rfl, ?_, ?_,
    rfl, rfl, ?_⟩
  · unfold Warehouse.deductOnFulfillment
    rw [hlock, ok_bind]
    dsimp only
    rw [hreserved, hsum, hmatches.quantityDecimal, refuseIf_neg hafter, ok_bind,
      refuseIf_neg (fun h => h.2 rfl), ok_bind, refuseIf_neg hidentity, ok_bind,
      refuseIf_neg hcovered, ok_bind, hstoredOnHand]
    have hdone (m : Money) : dbError (.ok m) = .ok m := rfl
    rw [hdone, ok_bind, if_neg (List.cons_ne_nil r []), hstoredReserved, hdone, ok_bind,
      hstoredMoved, hdone, ok_bind]
    rfl
  · rw [hline]
    exact hvalueOnHand
  · rw [hline]
    exact hvalueReserved
  · show (i.sellableUnitId, -moved.unscaled) = itemLine i
    rw [hvalueMoved, neg_neg, ← hline]
    rfl

/-- Consuming the reservations of an item leaves those of another item alone. -/
theorem itemReservations_consume {w' : Warehouse} {orderItemId other : Uuid}
    (hw' : w'.reservations = consume orderId orderItemId w.reservations)
    (hne : other ≠ orderItemId) :
    w'.itemReservations orderId other = w.itemReservations orderId other := by
  unfold Warehouse.itemReservations
  rw [hw', consume, List.filter_map]
  have hsame : ∀ r : InventoryReservation, r.orderItemId = other →
      (if r.orderId = orderId && r.orderItemId = orderItemId && r.status = .reserved &&
          !r.isDeleted then
        { r with status := .consumed }
      else r) = r := by
    intro r hr
    apply if_neg
    simp only [Bool.and_eq_true, decide_eq_true_eq]
    intro hitem
    exact hne (hr.symm.trans hitem.1.1.2)
  have hfilter : w.reservations.filter ((fun r => r.orderId = orderId && r.orderItemId = other &&
      r.status = .reserved && !r.isDeleted) ∘ fun r =>
        if r.orderId = orderId && r.orderItemId = orderItemId && r.status = .reserved &&
            !r.isDeleted then
          { r with status := .consumed }
        else r) = w.reservations.filter fun r => r.orderId = orderId && r.orderItemId = other &&
          r.status = .reserved && !r.isDeleted := by
    refine List.filter_congr fun r _ => ?_
    rw [Function.comp_apply]
    by_cases hr : r.orderItemId = other
    · rw [hsame r hr]
    · split <;> simp [hr]
  rw [hfilter]
  refine (List.map_congr_left fun r hr => ?_).trans (List.map_id _)
  have hitem := (List.mem_filter.mp hr).2
  simp only [Bool.and_eq_true, decide_eq_true_eq] at hitem
  exact hsame r hitem.1.1.2

theorem mem_activeReservations :
    r ∈ w.activeReservations orderId ↔
      r ∈ w.reservations ∧ r.orderId = orderId ∧ r.status = .reserved ∧ r.isDeleted = false := by
  simp [Warehouse.activeReservations, and_assoc]

/-- What is still active was so before, and belongs to another item. -/
theorem mem_active_consume {w' : Warehouse} {orderItemId : Uuid}
    (hw' : w'.reservations = consume orderId orderItemId w.reservations)
    (hr : r ∈ w'.activeReservations orderId) :
    r ∈ w.activeReservations orderId ∧ r.orderItemId ≠ orderItemId := by
  rw [mem_activeReservations, hw', consume, List.mem_map] at hr
  obtain ⟨⟨old, hold, hrow⟩, horder, hstatus, hlive⟩ := hr
  split at hrow
  · rw [← hrow] at hstatus
    cases hstatus
  · next hother =>
    obtain rfl := hrow
    refine ⟨mem_activeReservations.mpr ⟨hold, horder, hstatus, hlive⟩, fun hitem => hother ?_⟩
    simp [horder, hitem, hstatus, hlive]

/-- The SKU of an item carries its code and has a product. -/
def Identified (w : Warehouse) (skuId : Uuid) (skuCode : String) : Prop :=
  ∃ sku product, w.skus.find? skuId = some sku ∧ sku.skuCode = skuCode ∧
    w.catalogProducts.find? sku.catalogProductId = some product

theorem Identified.locked {skuId : Uuid} {skuCode : String} (h : Identified w skuId skuCode)
    (hstock : w.stocks.find? skuId = some stock) (hlive : stock.isDeleted = false) :
    w.lockedStockBySkuId skuId skuCode false = .ok stock := by
  obtain ⟨sku, product, hsku, hcode, hproduct⟩ := h
  unfold Warehouse.lockedStockBySkuId
  rw [orRefuse_eq_ok]
  simp [hstock, hsku, hproduct, hcode, hlive]

/-- What a fulfilment that is under way keeps: `rest` are the items still to come. -/
structure Underway (start : Warehouse) (orderId : Uuid) (items rest : List SellableItem)
    (w : Warehouse) : Prop where
  skus : w.skus = start.skus
  catalogProducts : w.catalogProducts = start.catalogProducts
  identified : ∀ i ∈ rest, Identified start i.sellableUnitId i.item.skuCode
  onHand : Covers (·.quantityOnHand) w.stocks (rest.map itemLine)
  held : Covers (·.quantityReserved) w.stocks (rest.map itemLine)
  nodup : (rest.map (·.item.id)).Nodup
  reserved : ∀ i ∈ rest, ∃ r, w.itemReservations orderId i.item.id = [r] ∧ Matches i r
  active : ∀ r ∈ w.activeReservations orderId, ∃ i ∈ rest, i.item.id = r.orderItemId
  moved : ∃ added, w.movements = start.movements ++ added ∧
    added.map movementLine ++ rest.map itemLine = items.map itemLine

theorem Underway.deduct {start : Warehouse} {items rest : List SellableItem}
    (h : Underway start orderId items (i :: rest) w) :
    ∃ w', Warehouse.deductOnFulfillment orderId w i = .ok w' ∧
      Underway start orderId items rest w' := by
  have hpos : ∀ line ∈ rest.map itemLine, 0 ≤ line.2 := by
    intro line hline
    obtain ⟨j, hj, rfl⟩ := List.mem_map.mp hline
    obtain ⟨r, -, hmatches⟩ := h.reserved j (List.mem_cons_of_mem i hj)
    exact hmatches.line ▸ hmatches.pos.le
  obtain ⟨r, hreserved, hmatches⟩ := h.reserved i List.mem_cons_self
  obtain ⟨stock, hstock, hlive, honHand⟩ := h.onHand.head hpos
  obtain ⟨stock', hstock', -, hheld⟩ := h.held.head hpos
  obtain rfl : stock = stock' := Option.some.inj (hstock.symm.trans hstock')
  have hidentified : Identified w i.sellableUnitId i.item.skuCode := by
    have hstart := h.identified i List.mem_cons_self
    unfold Identified at hstart ⊢
    rwa [h.skus, h.catalogProducts]
  have hquantity : (itemLine i).2 = r.quantity.unscaled := hmatches.quantity.symm
  rw [hquantity] at honHand hheld
  obtain ⟨w', stock', movement, hdeducted, hskus, hproducts, hstocks, hkey, hlive', honHand',
    hheld', hconsumed, hmovements, hmoved⟩ := deductOnFulfillment_ok
      (hidentified.locked hstock hlive) hreserved hmatches honHand hheld
  have hnodup := List.nodup_cons.mp h.nodup
  refine ⟨w', hdeducted, ?_⟩
  obtain ⟨added, hadded, hlines⟩ := h.moved
  exact {
    skus := hskus.trans h.skus
    catalogProducts := hproducts.trans h.catalogProducts
    identified := fun j hj => h.identified j (List.mem_cons_of_mem i hj)
    onHand := hstocks ▸ h.onHand.set hstock hkey hlive' honHand'
    held := hstocks ▸ h.held.set hstock hkey hlive' hheld'
    nodup := hnodup.2
    reserved := by
      intro j hj
      have hne : j.item.id ≠ i.item.id := by
        intro hid
        exact hnodup.1 (List.mem_map.mpr ⟨j, hj, hid⟩)
      rw [itemReservations_consume hconsumed hne]
      exact h.reserved j (List.mem_cons_of_mem i hj)
    active := by
      intro r' hr'
      obtain ⟨hbefore, hne⟩ := mem_active_consume hconsumed hr'
      obtain ⟨j, hj, hid⟩ := h.active r' hbefore
      rcases List.mem_cons.mp hj with rfl | hrest
      · exact absurd hid.symm hne
      · exact ⟨j, hrest, hid⟩
    moved := by
      refine ⟨added ++ [movement], ?_, ?_⟩
      · rw [hmovements, hadded, List.append_assoc]
      · rw [← hlines, List.map_append, List.map_singleton, hmoved, List.map_cons, List.append_assoc]
        rfl }

/-- A fulfilment that can begin completes, and moves every line. -/
theorem Underway.fulfil {start : Warehouse} {items : List SellableItem}
    (h : Underway start orderId items items start) :
    ∃ w', items.foldlM (Warehouse.deductOnFulfillment orderId) start = .ok w' ∧
      w'.activeReservations orderId = [] ∧
      ∃ added, w'.movements = start.movements ++ added ∧
        added.map movementLine = items.map itemLine := by
  obtain ⟨w', hfold, hend⟩ := foldlM_total
    (I := fun rest w => Underway start orderId items rest w)
    (fun i rest w hunderway => hunderway.deduct) h
  obtain ⟨added, hadded, hlines⟩ := hend.moved
  refine ⟨w', hfold, ?_, added, hadded, ?_⟩
  · apply List.eq_nil_iff_forall_not_mem.mpr
    intro r hr
    obtain ⟨i, hi, -⟩ := hend.active r hr
    exact List.not_mem_nil hi
  · rw [← hlines, List.map_nil, List.append_nil]

end Deduct

end CatalogIdentity

end Mpango
