import Mpango.Skus.Identity
import Mpango.Skus.Lines

/-!
# Orders after migration 038

The upgrade leaves the reserved quantities and the codes alone, and its link of an item is the SKU
of the item's line. So the loop of a cancellation takes off what the order had reserved, and that of
a fulfilment begins with one reservation for each item, and moves the lines that were reserved.
-/

namespace Mpango

open Decimal

namespace CatalogIdentity

/-! ## Later states of an upgraded tenant -/

variable {t : Tenant} {u : Upgraded} {orderId : Uuid} {o : Order} {db : Db}

/-- A later state in which an order is live and its items are the upgraded ones. The books may have
changed, and what is on hand. -/
structure Later (u : Upgraded) (orderId : Uuid) (o : Order) (db : Db) : Prop where
  order : o ∈ db.books.orders
  id : o.id = orderId
  live : o.isDeleted = false
  items : o.items = u.itemsOf orderId
  skus : db.warehouse.skus = u.warehouse.skus
  catalogProducts : db.warehouse.catalogProducts = u.warehouse.catalogProducts
  reservations : db.warehouse.reservations = u.reservations
  stocks : ∀ skuId stock, u.stocks.find? skuId = some stock → ∃ stock',
    db.warehouse.stocks.find? skuId = some stock' ∧ stock'.isDeleted = stock.isDeleted ∧
      stock'.quantityReserved = stock.quantityReserved

/-- An order that may still be cancelled, and whose hold the money side releases, is cancelled, and
none of its reservations stays active. -/
def Cancellable (u : Upgraded) (orderId : Uuid) : Prop :=
  ∀ db o, Later u orderId o db → o.status = .draft ∨ o.status = .confirmed →
    (∃ settled, db.books.settleCancelHold o = .ok settled) →
    ∃ db' result, cancelOrder db orderId = .ok (db', result) ∧
      db'.warehouse.activeReservations orderId = []

/-- A paid order is fulfilled, given stock, with exactly the quantities and SKUs it had reserved. -/
def FulfilledAsReserved (u : Upgraded) (orderId : Uuid) : Prop :=
  ∀ db o, Later u orderId o db → o.status = .paid →
    Covers (·.quantityOnHand) db.warehouse.stocks
      ((db.warehouse.activeReservations orderId).map reservationLine) →
    ∃ db' result added, fulfillOrder db orderId = .ok (db', result) ∧
      db'.warehouse.movements = db.warehouse.movements ++ added ∧
      (added.map movementLine).Perm
        ((db.warehouse.activeReservations orderId).map reservationLine) ∧
      db'.warehouse.activeReservations orderId = []

/-- The SKUs an order has reserved carry their codes and have live stock rows, whose reserved
quantities cover the order. -/
structure Stocked (t : Tenant) (orderId : Uuid) : Prop where
  code : ∀ r ∈ t.activeReservations orderId, ∃ s ∈ t.skus, s.id = r.skuId ∧ s.skuCode = r.skuCode
  held : Covers (·.quantityReserved) t.stocks
    ((t.activeReservations orderId).map reservationLine)

/-- The active reservations of an order are those of its items, one for each, with its quantity and
the only SKU that its live reservations name. -/
structure FullyReserved (t : Tenant) (orderId : Uuid) : Prop where
  own : ∀ r ∈ t.activeReservations orderId, ∃ i ∈ t.items,
    i.id = r.orderItemId ∧ i.orderId = orderId
  item : ∀ i ∈ t.items, i.orderId = orderId → ∃ r ∈ t.activeReservations orderId,
    r.orderItemId = i.id ∧ r.quantity.unscaled = i.quantity * 100 ∧
      ∀ r' ∈ t.liveReservations i.id, r'.skuId = r.skuId

theorem Tenant.mem_activeReservations {r : InventoryReservation} :
    r ∈ t.activeReservations orderId ↔
      r ∈ t.reservations ∧ r.orderId = orderId ∧ r.status = .reserved ∧ r.isDeleted = false := by
  simp [Tenant.activeReservations, and_assoc]

theorem Upgraded.find?_sku (skuId : Uuid) :
    u.warehouse.skus.find? skuId = (u.skus.find? skuId).map SkuRow.sku := by
  show (u.skus.map SkuRow.sku fun _ => rfl).find? skuId = _
  exact Table.find?_map skuId

theorem Upgraded.find?_catalogProduct (productId : Uuid) :
    u.warehouse.catalogProducts.find? productId =
      (u.products.find? productId).map ProductRow.catalogProduct := by
  show (u.products.map ProductRow.catalogProduct fun _ => rfl).find? productId = _
  exact Table.find?_map productId

theorem Later.activeReservations (h : Later u orderId o db) (hu : Effects t u) :
    db.warehouse.activeReservations orderId = t.activeReservations orderId := by
  unfold Warehouse.activeReservations
  rw [h.reservations, hu.reservations]
  rfl

theorem Later.held (h : Later u orderId o db) (hu : Effects t u) (hstocked : Stocked t orderId) :
    Covers (·.quantityReserved) db.warehouse.stocks
      ((t.activeReservations orderId).map reservationLine) :=
  hstocked.held.of_find? fun skuId stock hstock => h.stocks skuId stock (hu.find?_stock hstock)

theorem Later.identified (h : Later u orderId o db) (hu : Effects t u)
    (hstocked : Stocked t orderId) {r : InventoryReservation} (hr : r ∈ t.activeReservations orderId) :
    Identified db.warehouse r.skuId r.skuCode := by
  obtain ⟨s, hs, hid, hcode⟩ := hstocked.code r hr
  refine ⟨s.row.sku, s.product.catalogProduct, ?_, hcode, ?_⟩
  · rw [h.skus, ← hid, Upgraded.find?_sku, hu.skus,
      show t.skus.find? s.id = some s from Table.find?_key hs]
    rfl
  · rw [h.catalogProducts, Upgraded.find?_catalogProduct]
    exact congrArg _ (hu.find?_product hs)

/-- A traversal none of whose steps refuses. -/
theorem forM_ok {α ε : Type} {f : α → Except ε Unit} {l : List α} (h : ∀ x ∈ l, f x = .ok ()) :
    l.forM f = .ok () := by
  induction l with
  | nil => rfl
  | cons x l ih =>
    show (f x >>= fun _ => l.forM f) = .ok ()
    rw [h x List.mem_cons_self, ok_bind]
    exact ih fun y hy => h y (List.mem_cons_of_mem x hy)

/-! ## Cancelling -/

theorem Later.prelockReservationStocks (h : Later u orderId o db) (hu : Effects t u)
    (hstocked : Stocked t orderId) : db.warehouse.prelockReservationStocks orderId = .ok () := by
  unfold Warehouse.prelockReservationStocks
  rw [h.activeReservations hu]
  apply forM_ok
  intro skuId _
  split
  · next r hr =>
    have hmem : r ∈ t.activeReservations orderId :=
      List.mem_reverse.mp (List.mem_of_find?_eq_some hr)
    have hsku : r.skuId = skuId := by simpa using List.find?_some hr
    obtain ⟨stock, hstock, hlive, -⟩ := h.held hu hstocked _ (List.mem_map_of_mem hmem)
    have hlocked := (h.identified hu hstocked hmem).locked hstock hlive
    rw [← hsku, hlocked]
    rfl
  · rfl

theorem Later.releaseReservations (h : Later u orderId o db) (hu : Effects t u)
    (hstocked : Stocked t orderId) : ∃ w', db.warehouse.releaseReservations orderId = .ok w' ∧
      w'.activeReservations orderId = [] := by
  have hperm : (db.warehouse.ownedReservations orderId).Perm (t.activeReservations orderId) := by
    unfold Warehouse.ownedReservations
    rw [h.activeReservations hu]
    exact List.perm_insertionSort _ _
  have hpos : ∀ r ∈ db.warehouse.ownedReservations orderId, 0 < r.quantity.unscaled := by
    intro r hr
    exact t.reservation_pos r (Tenant.mem_activeReservations.mp (hperm.mem_iff.mp hr)).1
  obtain ⟨w', hfold, -⟩ := releaseStock_foldlM hpos
    ((h.held hu hstocked).perm (hperm.map reservationLine).symm)
  unfold Warehouse.releaseReservations
  rw [hfold]
  refine ⟨_, rfl, ?_⟩
  apply List.eq_nil_iff_forall_not_mem.mpr
  intro r hr
  rw [CatalogIdentity.mem_activeReservations] at hr
  obtain ⟨hmem, horder, hstatus, hlive⟩ := hr
  obtain ⟨old, -, hrow⟩ := List.mem_map.mp hmem
  split at hrow
  · rw [← hrow] at hstatus
    cases hstatus
  · next hother =>
    rw [hrow] at hother
    exact hother (by simp [horder, hstatus, hlive])

theorem cancellable (hu : Effects t u) (hstocked : Stocked t orderId) : Cancellable u orderId := by
  intro db o hlater hstatus hsettled
  obtain ⟨⟨books, released⟩, hsettled⟩ := hsettled
  obtain ⟨w', hreleased, hnone⟩ := hlater.releaseReservations hu hstocked
  have hload : loadLocked db.books orderId = .ok o :=
    loadLocked_eq_ok.mpr ⟨hlater.order, hlater.id, hlater.live⟩
  have hvalid : validateTransition o .cancelled = .ok () := by
    refine validateTransition_eq_ok.mpr ⟨?_, fun h => nomatch h⟩
    rcases hstatus with h | h <;> rw [h] <;> rfl
  have hunpaid : ¬(o.status = .paid ∨ o.status = .partiallyPaid) := by
    rcases hstatus with h | h <;> rw [h] <;> decide
  unfold cancelOrder
  rw [hload, ok_bind, hvalid, ok_bind, refuseIf_neg hunpaid, ok_bind, hlater.id,
    hlater.prelockReservationStocks hu hstocked, ok_bind, hreleased, ok_bind, hsettled, ok_bind]
  exact ⟨_, _, rfl, hnone⟩

/-! ## Fulfilling -/

/-- The upgraded item of a legacy one. -/
structure Upgrades (t : Tenant) (j : LegacyItem) (i : OrderItem) : Prop where
  id : i.id = j.id
  skuCode : i.skuCode = j.skuCode
  quantity : i.quantity = j.quantity
  sellableUnitId : i.sellableUnitId = t.reservationProof j.id

theorem Effects.legacy_of_mem_itemsOf (hu : Effects t u) {i : OrderItem}
    (hi : i ∈ u.itemsOf orderId) : ∃ j ∈ t.items, j.orderId = orderId ∧ Upgrades t j i := by
  obtain ⟨row, hrow, rfl⟩ := List.mem_map.mp hi
  obtain ⟨hmem, horder⟩ := Table.mem_select.mp hrow
  have hfind := hu.items row.legacy.id
  rw [show u.items.find? row.legacy.id = some row from Table.find?_key hmem, eq_comm,
    Option.map_eq_some_iff] at hfind
  obtain ⟨j, hj, rfl⟩ := hfind
  exact ⟨j, Table.mem_of_find? hj, of_decide_eq_true horder, ⟨rfl, rfl, rfl, rfl⟩⟩

theorem Effects.mem_itemsOf_of_legacy (hu : Effects t u) {j : LegacyItem} (hj : j ∈ t.items)
    (horder : j.orderId = orderId) : ∃ i ∈ u.itemsOf orderId, Upgrades t j i := by
  have hfind := hu.items j.id
  rw [show t.items.find? j.id = some j from Table.find?_key hj, Option.map_some] at hfind
  refine ⟨_, List.mem_map_of_mem (Table.mem_select.mpr ⟨Table.mem_of_find? hfind, ?_⟩),
    ⟨rfl, rfl, rfl, rfl⟩⟩
  exact decide_eq_true horder

theorem nodup_itemsOf : ((u.itemsOf orderId).map (·.id)).Nodup := by
  unfold Upgraded.itemsOf
  rw [List.map_map]
  exact u.items.nodup.sublist (List.filter_sublist.map _)

/-- The active reservations of a tenant are of different items. -/
theorem nodup_active : ((t.activeReservations orderId).map (·.orderItemId)).Nodup := by
  have hsub : (t.activeReservations orderId).Sublist
      (t.reservations.filter (·.status = .reserved)) := by
    have hfilter : t.activeReservations orderId =
        (t.reservations.filter (·.status = .reserved)).filter fun r =>
          r.orderId = orderId && !r.isDeleted := by
      unfold Tenant.activeReservations
      rw [List.filter_filter]
      refine List.filter_congr fun r _ => ?_
      cases decide (r.orderId = orderId) <;> cases decide (r.status = .reserved) <;>
        cases r.isDeleted <;> rfl
    rw [hfilter]
    exact List.filter_sublist
  exact t.reservation_unique.sublist (hsub.map _)

/-- The reservation of an upgraded item of a fully reserved order, and its link. -/
theorem FullyReserved.exists_reservation (h : FullyReserved t orderId) (hu : Effects t u)
    {i : OrderItem} (hi : i ∈ u.itemsOf orderId) : ∃ r ∈ t.activeReservations orderId,
      r.orderItemId = i.id ∧ r.quantity.unscaled = i.quantity * 100 ∧
        i.sellableUnitId = some r.skuId ∧ i.skuCode = r.skuCode := by
  obtain ⟨j, hj, horder, hupgrades⟩ := hu.legacy_of_mem_itemsOf hi
  obtain ⟨r, hr, hitem, hquantity, honly⟩ := h.item j hj horder
  obtain ⟨hmem, -, -, hlive⟩ := Tenant.mem_activeReservations.mp hr
  refine ⟨r, hr, hitem.trans hupgrades.id.symm, hupgrades.quantity ▸ hquantity, ?_, ?_⟩
  · rw [hupgrades.sellableUnitId, reservationProof_eq_some]
    exact ⟨List.ne_nil_of_mem (mem_liveReservations.mpr ⟨hmem, hitem, hlive⟩), honly⟩
  · rw [hupgrades.skuCode]
    exact t.reservation_code r hmem j hj hitem.symm

/-- The items of a fully reserved order with their units, one reservation for each. -/
theorem FullyReserved.matches (h : FullyReserved t orderId) (hu : Effects t u)
    {items : List SellableItem} (hitems : (items.map SellableItem.item).Perm (u.itemsOf orderId))
    {i : SellableItem} (hi : i ∈ items) : ∃ r ∈ t.activeReservations orderId,
      r.orderItemId = i.item.id ∧ i.item.skuCode = r.skuCode ∧ Matches i r := by
  have hmem : i.item ∈ u.itemsOf orderId := hitems.mem_iff.mp (List.mem_map_of_mem hi)
  obtain ⟨r, hr, hitem, hquantity, hlinked, hcode⟩ := h.exists_reservation hu hmem
  have hsku : r.skuId = i.sellableUnitId := Option.some.inj (hlinked.symm.trans i.linked)
  have hpos := t.reservation_pos r (Tenant.mem_activeReservations.mp hr).1
  exact ⟨r, hr, hitem, hcode, ⟨hsku, hquantity, hpos⟩⟩

/-- The lines of the items are the lines of the reservations. -/
theorem FullyReserved.lines_perm (h : FullyReserved t orderId) (hu : Effects t u)
    {items : List SellableItem} (hitems : (items.map SellableItem.item).Perm (u.itemsOf orderId)) :
    (items.map itemLine).Perm ((t.activeReservations orderId).map reservationLine) := by
  -- a line is read off the reservation of its item
  let lineOf : Uuid → Line := fun itemId =>
    (((t.activeReservations orderId).find? (·.orderItemId = itemId)).map
      reservationLine).getD (0, 0)
  have hline : ∀ r ∈ t.activeReservations orderId, lineOf r.orderItemId = reservationLine r := by
    intro r hr
    show (((t.activeReservations orderId).find? (·.orderItemId = r.orderItemId)).map
      reservationLine).getD (0, 0) = _
    cases hfind : (t.activeReservations orderId).find? (·.orderItemId = r.orderItemId) with
    | none =>
      have hnone := List.find?_eq_none.mp hfind r hr
      simp at hnone
    | some r' =>
      have hr' := List.mem_of_find?_eq_some hfind
      have hsame : r'.orderItemId = r.orderItemId := by simpa using List.find?_some hfind
      rw [List.inj_on_of_nodup_map nodup_active hr' hr hsame]
      rfl
  have hitemLines : items.map itemLine = (items.map (·.item.id)).map lineOf := by
    rw [List.map_map]
    refine List.map_congr_left fun i hi => ?_
    obtain ⟨r, hr, hitem, -, hmatches⟩ := h.matches hu hitems hi
    rw [← hmatches.line, ← hline r hr, hitem]
    rfl
  have hreservationLines : (t.activeReservations orderId).map reservationLine =
      ((t.activeReservations orderId).map (·.orderItemId)).map lineOf := by
    rw [List.map_map]
    exact List.map_congr_left fun r hr => (hline r hr).symm
  have hids : (items.map (·.item.id)).Perm ((u.itemsOf orderId).map (·.id)) := by
    have hmapped := hitems.map (·.id)
    rwa [List.map_map] at hmapped
  rw [hitemLines, hreservationLines]
  refine (hids.trans ?_).map lineOf
  apply (List.perm_ext_iff_of_nodup nodup_itemsOf nodup_active).mpr
  intro itemId
  simp only [List.mem_map]
  constructor
  · intro ⟨i, hi, hid⟩
    obtain ⟨r, hr, hitem, -⟩ := h.exists_reservation hu hi
    exact ⟨r, hr, hitem.trans hid⟩
  · intro ⟨r, hr, hid⟩
    obtain ⟨j, hj, hitem, horder⟩ := h.own r hr
    obtain ⟨i, hi, hupgrades⟩ := hu.mem_itemsOf_of_legacy hj horder
    exact ⟨i, hi, hupgrades.id.trans (hitem.trans hid)⟩

/-- Every item of a fully reserved order has its unit. -/
theorem FullyReserved.requireSellable (h : FullyReserved t orderId) (hu : Effects t u)
    {listed : List OrderItem} (hlisted : listed.Perm (u.itemsOf orderId))
    (refusal : OrderItem → CommandError) :
    ∃ items, requireSellable listed refusal = .ok items ∧
      (items.map SellableItem.item).Perm (u.itemsOf orderId) := by
  have hok : ∃ items, Mpango.requireSellable listed refusal = .ok items := by
    apply mapM_total
    intro i hi
    obtain ⟨r, -, -, -, hlinked, -⟩ := h.exists_reservation hu (hlisted.mem_iff.mp hi)
    split
    · exact ⟨_, rfl⟩
    · next hnone =>
      rw [hlinked] at hnone
      cases hnone
  obtain ⟨items, hitems⟩ := hok
  exact ⟨items, hitems, requireSellable_eq_ok hitems ▸ hlisted⟩

/-- The one active reservation of an item. -/
theorem Later.itemReservations (h : Later u orderId o db) (hu : Effects t u)
    {r : InventoryReservation} (hr : r ∈ t.activeReservations orderId) :
    db.warehouse.itemReservations orderId r.orderItemId = [r] := by
  have hfilter : db.warehouse.itemReservations orderId r.orderItemId =
      (t.activeReservations orderId).filter (·.orderItemId = r.orderItemId) := by
    rw [← h.activeReservations hu]
    unfold Warehouse.itemReservations Warehouse.activeReservations
    rw [List.filter_filter]
    refine List.filter_congr fun x _ => ?_
    cases decide (x.orderId = orderId) <;> cases decide (x.orderItemId = r.orderItemId) <;>
      cases decide (x.status = .reserved) <;> rfl
  rw [hfilter]
  apply List.perm_singleton.mp
  apply (List.perm_ext_iff_of_nodup (nodup_active.of_map.filter _) (List.nodup_singleton r)).mpr
  intro x
  rw [List.mem_filter, List.mem_singleton, decide_eq_true_eq]
  constructor
  · intro ⟨hx, hsame⟩
    exact List.inj_on_of_nodup_map nodup_active hx hr hsame
  · intro hx
    subst hx
    exact ⟨hr, rfl⟩

/-- The fulfilment of a fully reserved order can begin. -/
theorem Later.underway (h : Later u orderId o db) (hu : Effects t u)
    (hstocked : Stocked t orderId) (hreserved : FullyReserved t orderId)
    (honHand : Covers (·.quantityOnHand) db.warehouse.stocks
      ((t.activeReservations orderId).map reservationLine))
    {items : List SellableItem} (hitems : (items.map SellableItem.item).Perm (u.itemsOf orderId)) :
    Underway db.warehouse orderId items items db.warehouse where
  skus := rfl
  catalogProducts := rfl
  identified i hi := by
    obtain ⟨r, hr, -, hcode, hmatches⟩ := hreserved.matches hu hitems hi
    rw [hcode, ← hmatches.sku]
    exact h.identified hu hstocked hr
  onHand := honHand.perm (hreserved.lines_perm hu hitems).symm
  held := (h.held hu hstocked).perm (hreserved.lines_perm hu hitems).symm
  nodup := by
    have hids := hitems.map (·.id)
    rw [List.map_map] at hids
    exact hids.nodup_iff.mpr nodup_itemsOf
  reserved i hi := by
    obtain ⟨r, hr, hitem, -, hmatches⟩ := hreserved.matches hu hitems hi
    exact ⟨r, hitem ▸ h.itemReservations hu hr, hmatches⟩
  active r hr := by
    rw [h.activeReservations hu] at hr
    obtain ⟨j, hj, hitem, horder⟩ := hreserved.own r hr
    obtain ⟨i, hi, hupgrades⟩ := hu.mem_itemsOf_of_legacy hj horder
    obtain ⟨s, hs, rfl⟩ := List.mem_map.mp (hitems.mem_iff.mpr hi)
    exact ⟨s, hs, hupgrades.id.trans hitem⟩
  moved := ⟨[], (List.append_nil _).symm, rfl⟩

/-- Every SKU of a fulfilment that can begin is locked. -/
theorem Underway.prelockStocks {w : Warehouse} {items : List SellableItem}
    (h : Underway w orderId items items w) : w.prelockStocks items false = .ok () := by
  unfold Warehouse.prelockStocks
  apply forM_ok
  intro skuId _
  split
  · next i hi =>
    have hmem : i ∈ items := List.mem_of_find?_eq_some hi
    have hsku : i.sellableUnitId = skuId := by simpa using List.find?_some hi
    obtain ⟨stock, hstock, hlive, -⟩ := h.held _ (List.mem_map_of_mem hmem)
    have hlocked := (h.identified i hmem).locked hstock hlive
    rw [← hsku, hlocked]
    rfl
  · rfl

theorem fulfilledAsReserved (hu : Effects t u) (hstocked : Stocked t orderId)
    (hreserved : FullyReserved t orderId) : FulfilledAsReserved u orderId := by
  intro db o hlater hpaid honHand
  rw [hlater.activeReservations hu] at honHand ⊢
  have hlisted : (sortItems fulfillSortKey o.items).Perm (u.itemsOf orderId) :=
    hlater.items ▸ sortItems_perm _ _
  obtain ⟨items, hsellable, hitems⟩ := hreserved.requireSellable hu hlisted fun i =>
    .conflict .orderItemSellableIdRequired
      (s!"Order item '{i.id.text}' requires explicit legacy " ++ "mapping before fulfillment")
  have hunderway := hlater.underway hu hstocked hreserved honHand hitems
  obtain ⟨w', hfold, hnone, added, hadded, hlines⟩ := hunderway.fulfil
  have hload : loadLocked db.books orderId = .ok o :=
    loadLocked_eq_ok.mpr ⟨hlater.order, hlater.id, hlater.live⟩
  have hvalid : validateTransition o .fulfilled = .ok () := by
    refine validateTransition_eq_ok.mpr ⟨?_, fun h => nomatch h⟩
    rw [hpaid]
    rfl
  have hinvariants : checkInvariants o o.status .fulfilled = .ok () := by
    unfold checkInvariants
    rw [hpaid]
    rfl
  unfold fulfillOrder
  rw [hload, ok_bind, hvalid, ok_bind, hinvariants, ok_bind, hsellable, ok_bind,
    hunderway.prelockStocks, ok_bind, hlater.id, hfold, ok_bind]
  exact ⟨_, _, added, rfl, hadded, hlines ▸ hreserved.lines_perm hu hitems, hnone⟩

/-! ## The migration -/

/-- A tenant that the preflight accepts is upgraded, with its identities; an order is cancelled
where the stock rows hold what it had reserved, and fulfilled where all its items had reserved. -/
theorem migration_preserves_identities (h : preflightTenant t = .ok ()) :
    ∃ u, upgradeTenant t = .ok u ∧ IdentitiesPreserved t u ∧ ∀ orderId, Stocked t orderId →
      Cancellable u orderId ∧ (FullyReserved t orderId → FulfilledAsReserved u orderId) := by
  obtain ⟨u, hupgraded, hu⟩ := exists_upgrade t
  refine ⟨u, hupgraded, hu.identitiesPreserved h, fun orderId hstocked => ?_⟩
  exact ⟨cancellable hu hstocked, fulfilledAsReserved hu hstocked⟩

/-- A tenant with one SKU, of which ten units are on hand, and an order that has reserved two of
them for its item 21, and nothing for its item 22 if it has one. -/
def sampleBefore (partly : Bool) : Tenant where
  skus := .ofRows [⟨7, "RICE-1KG", "Rice", none, some "food", true, false⟩]
  stocks := .ofRows [⟨7, .ofCents 1000, .ofCents 200, false⟩]
  movements := []
  items := .ofRows (⟨21, 1, "RICE-1KG", 2, .ofCents 500, .ofCents 1000⟩ ::
    if partly then [⟨22, 1, "RICE-1KG", 3, .ofCents 500, .ofCents 1500⟩] else [])
  reservations := [⟨1, 21, 7, "RICE-1KG", .ofCents 200, .reserved, false⟩]
  stock_sku := by decide +kernel
  reservation_sku := by decide +kernel
  reservation_pos := by decide +kernel
  reservation_unique := by decide +kernel
  reservation_code := by cases partly <;> decide +kernel

theorem sampleBefore_stocked : Stocked (sampleBefore false) 1 where
  code := by decide +kernel
  held line hline := by
    have hone : ((sampleBefore false).activeReservations 1).map reservationLine = [(7, 200)] := by
      decide +kernel
    rw [hone] at hline ⊢
    obtain rfl := List.mem_singleton.mp hline
    exact ⟨⟨7, .ofCents 1000, .ofCents 200, false⟩, by decide +kernel, rfl, by decide +kernel⟩

theorem migration_preserves_identities_sample :
    ∃ u, upgradeTenant (sampleBefore false) = .ok u ∧ IdentitiesPreserved (sampleBefore false) u ∧
      Cancellable u 1 ∧ FulfilledAsReserved u 1 := by
  obtain ⟨u, hupgraded, hpreserved, hcommands⟩ :=
    migration_preserves_identities (t := sampleBefore false) (by decide +kernel)
  obtain ⟨hcancellable, hfulfilled⟩ := hcommands 1 sampleBefore_stocked
  exact ⟨u, hupgraded, hpreserved, hcancellable,
    hfulfilled ⟨by decide +kernel, by decide +kernel⟩⟩

/-- The tenant with the item that reserved nothing, upgraded. -/
def partlyReserved : Upgraded :=
  (upgradeTenant (sampleBefore true)).toOption.getD
    ⟨.empty, .empty, .empty, [], .empty, []⟩

/-- Its order, once it is paid. -/
def paidLater : Db :=
  { sampleTenant 0 with
    books := { (sampleTenant 0).books with
      orders := .ofRows [⟨1, 1, 2, .paid, .ofCents 2500, partlyReserved.itemsOf 1, false⟩] }
    warehouse := partlyReserved.warehouse }

theorem migration_preserves_identities_broken_partly :
    ¬∀ t, preflightTenant t = .ok () → ∃ u, upgradeTenant t = .ok u ∧ IdentitiesPreserved t u ∧
      ∀ orderId, t.activeReservations orderId ≠ [] →
        Cancellable u orderId ∧ FulfilledAsReserved u orderId := by
  intro hclaim
  obtain ⟨u, hupgraded, -, hcommands⟩ := hclaim (sampleBefore true) (by decide +kernel)
  have hu : partlyReserved = u := by
    unfold partlyReserved
    rw [hupgraded]
    rfl
  subst hu
  have hlater : Later partlyReserved 1
      ⟨1, 1, 2, .paid, .ofCents 2500, partlyReserved.itemsOf 1, false⟩ paidLater :=
    { order := List.mem_singleton.mpr rfl, id := rfl, live := rfl, items := rfl, skus := rfl
      catalogProducts := rfl, reservations := rfl
      stocks := fun _ stock hstock => ⟨stock, hstock, rfl, rfl⟩ }
  have hcovers : Covers (·.quantityOnHand) paidLater.warehouse.stocks
      ((paidLater.warehouse.activeReservations 1).map reservationLine) := by
    have hone : (paidLater.warehouse.activeReservations 1).map reservationLine = [(7, 200)] := by
      decide +kernel
    intro line hline
    rw [hone] at hline ⊢
    obtain rfl := List.mem_singleton.mp hline
    exact ⟨⟨7, .ofCents 1000, .ofCents 200, false⟩, by decide +kernel, rfl, by decide +kernel⟩
  obtain ⟨db', result, -, hfulfilled, -⟩ :=
    (hcommands 1 (by decide +kernel)).2 paidLater _ hlater rfl hcovers
  have hrefused : (fulfillOrder paidLater 1).toOption.isNone = true := by decide +kernel
  rw [hfulfilled] at hrefused
  cases hrefused

end CatalogIdentity

end Mpango
