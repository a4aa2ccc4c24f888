import Mpango.Stock.Step

/-!
# Every reservation is accounted for

In every reachable state the reserved quantity of a SKU is the sum of its active reservations, and
what has become of the reservations of an order follows from the order's status alone: none for a
draft, one active reservation for each item from the confirmation on, all of them consumed by the
fulfilment or released by the cancellation (`accounted_of_reachable`). `Accounted` is kept by every
step on the stock side; the rest is induction over the run.
-/

namespace Mpango

open Decimal CatalogIdentity

namespace Warehouse

/-! ## What an order holds -/

/-- The reservations of an order are one for each of its items, and all in one status. -/
structure Holds (w : Warehouse) (orderId : Uuid) (items : List OrderItem)
    (status : ReservationStatus) : Prop where
  tickets : ((w.reservationsOf orderId).map InventoryReservation.ticket).Perm
    (items.map OrderItem.ticket)
  status : ∀ r ∈ w.reservationsOf orderId, r.status = status

/-- What has become of the reservations of an order, by the order's status. -/
def Backed (w : Warehouse) (o : Order) : Prop :=
  match o.status with
  | .draft | .voided => w.reservationsOf o.id = []
  | .confirmed | .partiallyPaid | .paid => w.Holds o.id o.items .reserved
  | .fulfilled | .returned => w.Holds o.id o.items .consumed
  | .cancelled => w.reservationsOf o.id = [] ∨ w.Holds o.id o.items .released

/-- Every reservation belongs to an order that accounts for it, and the reserved quantities are the
sums of the active reservations. -/
structure Accounted (orders : Table Order) (w : Warehouse) : Prop where
  wellFormed : ∀ o ∈ orders, o.WellFormed
  backed : ∀ o ∈ orders, w.Backed o
  owner : ∀ r ∈ w.reservations, ∃ o ∈ orders, o.id = r.orderId
  live : ∀ r ∈ w.reservations, r.isDeleted = false
  pos : ∀ r ∈ w.reservations, 0 < r.quantity.unscaled
  tally : ∀ k, w.reserved k = demand (w.active.map reservationLine) k

section Holds
variable {w w' : Warehouse} {o : Order} {status : ReservationStatus} {items : List SellableItem}

theorem Holds.congr (h : w.Holds o.id o.items status)
    (hsame : w'.reservationsOf o.id = w.reservationsOf o.id) :
    w'.Holds o.id o.items status := ⟨hsame ▸ h.tickets, hsame ▸ h.status⟩

theorem Backed.congr (h : w.Backed o) (hsame : w'.reservationsOf o.id = w.reservationsOf o.id) :
    w'.Backed o := by
  unfold Backed at h ⊢
  cases hstatus : o.status <;> simp only [hstatus] at h ⊢
  case draft | voided => exact hsame.trans h
  case cancelled => exact h.imp hsame.trans fun hheld => hheld.congr hsame
  all_goals exact h.congr hsame

/-- The reservations of an order with the status of all of them changed. -/
theorem Holds.settle {p : InventoryReservation → Bool} {status' : ReservationStatus}
    (h : w.Holds o.id o.items status) (hw : w'.reservations = settle p status' w.reservations)
    (hp : ∀ r ∈ w.reservationsOf o.id, p r = true) : w'.Holds o.id o.items status' := by
  have hrows : w'.reservationsOf o.id = Warehouse.settle p status' (w.reservationsOf o.id) := by
    unfold reservationsOf
    rw [hw, filter_settle fun r => rfl]
  refine ⟨?_, fun r hr => ?_⟩
  · rw [hrows, map_ticket_settle]
    exact h.tickets
  · rw [hrows] at hr
    obtain ⟨s, hs, rfl⟩ := mem_settle.mp hr
    rw [if_pos (hp s hs)]

/-- The lines an order holds are those of its items. -/
theorem Holds.demand (h : w.Holds o.id o.items status) (k : Uuid) :
    demand ((w.reservationsOf o.id).map reservationLine) k =
      CatalogIdentity.demand (o.items.map fun i => i.ticket.line) k := by
  have hlines := h.tickets.map Ticket.line
  rw [List.map_map, List.map_map] at hlines
  exact demand_perm hlines k

/-- Every item of an order that holds its reservations has one. -/
theorem Holds.exists_reservation (h : w.Holds o.id o.items status) (hitems : Itemized o items)
    {i : SellableItem} (hi : i ∈ items) :
    ∃ r ∈ w.reservationsOf o.id, r.ticket = i.item.ticket := by
  have hmem : i.item.ticket ∈ o.items.map OrderItem.ticket :=
    hitems.tickets.mem_iff.mp (List.mem_map_of_mem hi)
  exact List.mem_map.mp (h.tickets.mem_iff.mpr hmem)

/-- Every reservation of an order is one of its items'. -/
theorem Holds.exists_item (h : w.Holds o.id o.items status) (hitems : Itemized o items)
    {r : InventoryReservation} (hr : r ∈ w.reservationsOf o.id) :
    ∃ i ∈ items, i.item.ticket = r.ticket := by
  have hmem : r.ticket ∈ o.items.map OrderItem.ticket :=
    h.tickets.mem_iff.mp (List.mem_map_of_mem hr)
  exact List.mem_map.mp (hitems.tickets.mem_iff.mpr hmem)

end Holds

/-! ## One order at a time -/

section Assign
variable {orders : Table Order} {w w' : Warehouse} {o : Order} {target : OrderState}

/-- A step on one order: the other orders keep their reservations, and the order accounts for its
own in its new status. -/
theorem Accounted.assign (h : Accounted orders w) (ho : o ∈ orders)
    (hothers : ∀ id, id ≠ o.id → w'.reservationsOf id = w.reservationsOf id)
    (hbacked : w'.Backed { o with status := target })
    (hlive : ∀ r ∈ w'.reservationsOf o.id, r.isDeleted = false ∧ 0 < r.quantity.unscaled)
    (htally : ∀ k, w'.reserved k = demand (w'.active.map reservationLine) k) :
    Accounted (orders.set { o with status := target }) w' := by
  have hmem : ∀ x ∈ orders.set { o with status := target },
      x ∈ orders ∧ x.id ≠ o.id ∨ x = { o with status := target } := by
    intro x hx
    exact (Table.mem_set.mp hx).imp id And.left
  -- a reservation of another order was there before
  have hkept : ∀ r ∈ w'.reservations, r.orderId = o.id ∨ r ∈ w.reservations := by
    intro r hr
    by_cases hid : r.orderId = o.id
    · exact .inl hid
    · have hrow : r ∈ w'.reservationsOf r.orderId := mem_reservationsOf.mpr ⟨hr, rfl⟩
      rw [hothers r.orderId hid] at hrow
      exact .inr (mem_reservationsOf.mp hrow).1
  refine
    { wellFormed := fun x hx => ?_, backed := fun x hx => ?_, owner := fun r hr => ?_
      live := fun r hr => ?_, pos := fun r hr => ?_, tally := htally }
  · rcases hmem x hx with ⟨hx, -⟩ | rfl
    · exact h.wellFormed x hx
    · exact (h.wellFormed o ho).withStatus target
  · rcases hmem x hx with ⟨hx, hne⟩ | rfl
    · exact (h.backed x hx).congr (hothers x.id hne)
    · exact hbacked
  · have hself : { o with status := target } ∈ orders.set { o with status := target } :=
      Table.mem_set.mpr (.inr ⟨rfl, o, ho, rfl⟩)
    rcases hkept r hr with hid | hold
    · exact ⟨_, hself, hid.symm⟩
    · obtain ⟨x, hx, hid⟩ := h.owner r hold
      by_cases hsame : x.id = o.id
      · exact ⟨_, hself, hsame.symm.trans hid⟩
      · exact ⟨x, Table.mem_set.mpr (.inl ⟨hx, hsame⟩), hid⟩
  · rcases hkept r hr with hid | hold
    · exact (hlive r (mem_reservationsOf.mpr ⟨hr, hid⟩)).1
    · exact h.live r hold
  · rcases hkept r hr with hid | hold
    · exact (hlive r (mem_reservationsOf.mpr ⟨hr, hid⟩)).2
    · exact h.pos r hold

theorem Accounted.of_mem (h : Accounted orders w) {r : InventoryReservation}
    (hr : r ∈ w.reservationsOf o.id) : r.isDeleted = false ∧ 0 < r.quantity.unscaled :=
  ⟨h.live r (mem_reservationsOf.mp hr).1, h.pos r (mem_reservationsOf.mp hr).1⟩

/-- While they are reserved, the reservations of an order are the active ones. -/
theorem Accounted.activeReservations (h : Accounted orders w)
    (hheld : w.Holds o.id o.items .reserved) :
    w.activeReservations o.id = w.reservationsOf o.id := by
  refine List.filter_congr fun r hr => ?_
  by_cases hid : r.orderId = o.id
  · simp [hid, hheld.status r (mem_reservationsOf.mpr ⟨hr, hid⟩), h.live r hr]
  · simp [hid]

/-- The active reservations of an order are part of what is reserved. -/
theorem Accounted.demand_le (h : Accounted orders w) (orderId k : Uuid) :
    demand ((w.activeReservations orderId).map reservationLine) k ≤ w.reserved k := by
  rw [h.tally, activeReservations_eq_owns]
  exact demand_filter_le (fun r hr => (h.pos r (mem_active.mp hr).1).le) k

/-- A status that asks for the same reservations. -/
theorem Accounted.move (h : Accounted orders w) (ho : o ∈ orders)
    (hbacked : w.Backed { o with status := target }) :
    Accounted (orders.set { o with status := target }) w :=
  h.assign ho (fun _ _ => rfl) hbacked (fun _ hr => h.of_mem hr) h.tally

/-- The reservations that meet a condition are closed, and their quantities are not reserved any
more. -/
theorem Accounted.close {p : InventoryReservation → Bool} {status : ReservationStatus}
    (h : Accounted orders w) (ho : o ∈ orders) (hstatus : status ≠ .reserved)
    (hp : ∀ r, p r = true → r.orderId = o.id)
    (hw : w'.reservations = settle p status w.reservations)
    (hreserved : ∀ k, w'.reserved k =
      w.reserved k - demand ((w.active.filter p).map reservationLine) k)
    (hbacked : w'.Backed { o with status := target }) :
    Accounted (orders.set { o with status := target }) w' := by
  refine h.assign ho (fun id hid => reservationsOf_settle hw hp hid) hbacked (fun r hr => ?_)
    fun k => ?_
  · have hrow := (mem_reservationsOf.mp hr).1
    rw [hw] at hrow
    obtain ⟨s, hs, rfl⟩ := mem_settle.mp hrow
    split
    · exact ⟨h.live s hs, h.pos s hs⟩
    · exact ⟨h.live s hs, h.pos s hs⟩
  · rw [active_settle hstatus hw, hreserved, h.tally, demand_filter reservationLine p w.active]
    omega

end Assign

/-! ## The steps -/

section Steps
variable {orders orders' : Table Order} {w w' : Warehouse} {o : Order}
  {items : List SellableItem}

theorem Accounted.create (h : Accounted orders w) (hins : orders.insert? o = some orders')
    (hst : o.status = .draft) (hformed : o.WellFormed) : Accounted orders' w := by
  have hnew : orders.find? o.id = none := (Table.insert?_eq_some.mp hins).1
  have hnone : w.reservationsOf o.id = [] := by
    apply List.eq_nil_iff_forall_not_mem.mpr
    intro r hr
    obtain ⟨hmem, hid⟩ := mem_reservationsOf.mp hr
    obtain ⟨x, hx, hxid⟩ := h.owner r hmem
    exact Table.find?_eq_none.mp hnew x hx (hxid.trans hid)
  refine
    { wellFormed := fun x hx => ?_, backed := fun x hx => ?_, owner := fun r hr => ?_
      live := h.live, pos := h.pos, tally := h.tally }
  · rcases (Table.mem_insert? hins).mp hx with hx | rfl
    · exact h.wellFormed x hx
    · exact hformed
  · rcases (Table.mem_insert? hins).mp hx with hx | rfl
    · exact h.backed x hx
    · simp only [Backed, hst]
      exact hnone
  · obtain ⟨x, hx, hid⟩ := h.owner r hr
    exact ⟨x, (Table.mem_insert? hins).mpr (.inl hx), hid⟩

theorem Accounted.reserve (h : Accounted orders w) (ho : o ∈ orders) (hst : o.status = .draft)
    (hitems : Itemized o items) (hreserve : w.reserveInventory o.id items = .ok w') :
    Accounted (orders.set { o with status := .confirmed }) w' := by
  obtain ⟨rs, hrows, hopened, htickets, hshift, -⟩ := reserveInventory_eq_ok hreserve
  have hnone : w.reservationsOf o.id = [] := by
    have hbacked := h.backed o ho
    simp only [Backed, hst] at hbacked
    exact hbacked
  have hof : ∀ id, w'.reservationsOf id =
      w.reservationsOf id ++ rs.filter fun r => r.orderId = id := by
    intro id
    unfold reservationsOf
    rw [hrows, List.filter_append]
  have hown : w'.reservationsOf o.id = rs := by
    rw [hof, hnone, List.nil_append, List.filter_eq_self]
    intro r hr
    exact decide_eq_true (hopened r hr).orderId
  refine h.assign ho (fun id hid => ?_) ?_ (fun r hr => ?_) fun k => ?_
  · rw [hof, List.filter_eq_nil_iff.mpr, List.append_nil]
    intro r hr
    rw [(hopened r hr).orderId]
    simpa using Ne.symm hid
  · show w'.Holds o.id o.items .reserved
    refine ⟨?_, fun r hr => ?_⟩
    · rw [hown, htickets]
      exact hitems.tickets
    · rw [hown] at hr
      exact (hopened r hr).status
  · rw [hown] at hr
    exact ⟨(hopened r hr).live, (hopened r hr).pos⟩
  · have hactive : w'.active = w.active ++ rs := by
      unfold active
      rw [hrows, List.filter_append]
      congr 1
      rw [List.filter_eq_self]
      intro r hr
      simp [(hopened r hr).status, (hopened r hr).live]
    rw [hshift.reserved, hactive, List.map_append, demand_append, h.tally]

theorem Accounted.release (h : Accounted orders w) (ho : o ∈ orders)
    (hst : o.status = .draft ∨ o.status = .confirmed)
    (hrelease : w.releaseReservations o.id = .ok w') :
    Accounted (orders.set { o with status := .cancelled }) w' := by
  obtain ⟨hrows, hshift⟩ := releaseReservations_eq_ok hrelease
  have hbacked := h.backed o ho
  refine h.close ho (by decide) (fun r hr => ?_) hrows (fun k => ?_) ?_
  · simp only [owns, Bool.and_eq_true, decide_eq_true_eq] at hr
    exact hr.1.1
  · rw [hshift.reserved, activeReservations_eq_owns, sub_eq_add_neg]
  · show w'.reservationsOf o.id = [] ∨ w'.Holds o.id o.items .released
    rcases hst with hst | hst <;> simp only [Backed, hst] at hbacked
    · left
      unfold reservationsOf at hbacked ⊢
      rw [hrows, filter_settle fun r => rfl, hbacked]
      rfl
    · right
      refine hbacked.settle hrows fun r hr => ?_
      simp [owns, (mem_reservationsOf.mp hr).2, hbacked.status r hr, (h.of_mem hr).1]

/-- A paid order holds an active reservation for each of its items. -/
theorem Accounted.holds_paid (h : Accounted orders w) (ho : o ∈ orders) (hst : o.status = .paid) :
    w.Holds o.id o.items .reserved := by
  have hbacked := h.backed o ho
  simp only [Backed, hst] at hbacked
  exact hbacked

/-- The loop of a fulfilment finds a reservation for each item. -/
theorem Accounted.deducted (h : Accounted orders w) (ho : o ∈ orders) (hst : o.status = .paid)
    (hitems : Itemized o items)
    (hdeduct : items.foldlM (deductOnFulfillment o.id) w = .ok w') : ∃ moved,
      Moved .deduction o.id (-1) items moved ∧
      w'.reservations =
        settle (ownsOne o.id (items.map (·.item.id))) .consumed w.reservations ∧
      Shift w w' (fun k => -demand (items.map itemLine) k) moved := by
  have hheld := h.holds_paid ho hst
  have hformed := h.wellFormed o ho
  have hreserved : ∀ i ∈ items, w.itemReservations o.id i.item.id ≠ [] := by
    intro i hi
    obtain ⟨r, hr, hticket⟩ := hheld.exists_reservation hitems hi
    obtain ⟨hmem, hid⟩ := mem_reservationsOf.mp hr
    have hitem : r.orderItemId = i.item.id := congrArg Prod.fst hticket
    refine List.ne_nil_of_mem (a := r) (List.mem_filter.mpr ⟨hmem, ?_⟩)
    simp [hid, hitem, hheld.status r hr, (h.of_mem hr).1]
  exact deductItems_eq_ok (hitems.bounded hformed) (hitems.nodup hformed) hreserved hdeduct

theorem Accounted.fulfil (h : Accounted orders w) (ho : o ∈ orders) (hst : o.status = .paid)
    (hitems : Itemized o items)
    (hdeduct : items.foldlM (deductOnFulfillment o.id) w = .ok w') :
    Accounted (orders.set { o with status := .fulfilled }) w' := by
  have hheld := h.holds_paid ho hst
  obtain ⟨moved, -, hrows, hshift⟩ := h.deducted ho hst hitems hdeduct
  have howns : ∀ r ∈ w.reservationsOf o.id,
      ownsOne o.id (items.map (·.item.id)) r = true := by
    intro r hr
    obtain ⟨i, hi, hticket⟩ := hheld.exists_item hitems hr
    have hitem : r.orderItemId = i.item.id := (congrArg Prod.fst hticket).symm
    have hmem : r.orderItemId ∈ items.map (·.item.id) :=
      List.mem_map.mpr ⟨i, hi, hitem.symm⟩
    simp only [ownsOne, (mem_reservationsOf.mp hr).2, List.contains_eq_mem, hmem,
      hheld.status r hr, (h.of_mem hr).1, decide_true, Bool.not_false, Bool.and_true]
  have hactive : w.active.filter (ownsOne o.id (items.map (·.item.id))) =
      w.reservationsOf o.id := by
    unfold active reservationsOf
    rw [List.filter_filter]
    refine List.filter_congr fun r hr => ?_
    by_cases hid : r.orderId = o.id
    · have hrow : r ∈ w.reservationsOf o.id := mem_reservationsOf.mpr ⟨hr, hid⟩
      rw [howns r hrow, hheld.status r hrow, h.live r hr]
      simp [hid]
    · simp [ownsOne, hid]
  refine h.close ho (by decide) (fun r hr => ?_) hrows (fun k => ?_) ?_
  · simp only [ownsOne, Bool.and_eq_true, decide_eq_true_eq] at hr
    exact hr.1.1.1
  · rw [hshift.reserved, hactive, hheld.demand, hitems.demand, sub_eq_add_neg]
  · exact hheld.settle hrows howns

/-- What neither opens nor closes a reservation, nor moves a reserved quantity. -/
theorem Accounted.of_shift {moved : List InventoryMovement} (h : Accounted orders w)
    (hrows : w'.reservations = w.reservations) (hshift : Shift w w' (fun _ => 0) moved) :
    Accounted orders w' := by
  have hof : ∀ id, w'.reservationsOf id = w.reservationsOf id := by
    intro id
    unfold reservationsOf
    rw [hrows]
  refine
    { wellFormed := h.wellFormed, backed := fun o ho => (h.backed o ho).congr (hof o.id)
      owner := hrows ▸ h.owner, live := hrows ▸ h.live, pos := hrows ▸ h.pos, tally := fun k => ?_ }
  have hactive : w'.active = w.active := by
    unfold active
    rw [hrows]
  rw [hshift.reserved, add_zero, hactive, h.tally]

theorem Accounted.step {c : Command} (h : Accounted orders w)
    (hstep : Stock.Step c orders w orders' w') : Accounted orders' w' := by
  cases hstep with
  | create o hins hst hformed => exact h.create hins hst hformed
  | move o target ho hcase =>
    -- a draft and a voided order hold nothing, a confirmed and a paid one the same
    have hbacked := h.backed o ho
    refine h.move ho ?_
    unfold Backed at hbacked ⊢
    rcases hcase with ⟨hst, rfl⟩ | ⟨hst | hst, rfl | rfl⟩ <;> rw [hst] at hbacked <;>
      exact hbacked
  | reserve o items ho hst hitems hreserve => exact h.reserve ho hst hitems hreserve
  | release o ho hst hrelease => exact h.release ho hst hrelease
  | fulfil o items ho hst hitems hdeduct => exact h.fulfil ho hst hitems hdeduct
  | restock o items ho hst hitems hrestock =>
    obtain ⟨moved, -, hrows, hshift⟩ :=
      restockItems_eq_ok (hitems.bounded (h.wellFormed o ho)) hrestock
    -- a return restocks the goods; the reservations of the order stay consumed
    refine (h.of_shift hrows hshift).move ho ?_
    have hbacked := (h.of_shift hrows hshift).backed o ho
    unfold Backed at hbacked ⊢
    rw [hst] at hbacked
    exact hbacked
  | adjust skuCode quantity _ hadjust =>
    obtain ⟨_, m, -, -, -, -, -, -, -, -, -, hrows, hshift⟩ := adjustStock_eq_ok hadjust
    exact h.of_shift hrows hshift

end Steps

/-- A tenant without orders. -/
theorem accounted_of_fresh {db : Db} (h : db.Fresh) : Accounted db.books.orders db.warehouse where
  wellFormed o ho := absurd (h.orders ▸ ho) Table.not_mem_empty
  backed o ho := absurd (h.orders ▸ ho) Table.not_mem_empty
  owner r hr := absurd (h.reservations ▸ hr) List.not_mem_nil
  live r hr := absurd (h.reservations ▸ hr) List.not_mem_nil
  pos r hr := absurd (h.reservations ▸ hr) List.not_mem_nil
  tally k := by
    have hactive : db.warehouse.active = [] := by
      unfold active
      rw [h.reservations]
      rfl
    rw [hactive]
    show db.warehouse.reserved k = 0
    cases hfind : db.warehouse.stocks.find? k with
    | none =>
      rw [reserved, hfind]
      rfl
    | some stock =>
      rw [reserved_of_find? hfind]
      exact h.quantityReserved stock (Table.mem_of_find? hfind)

end Warehouse

theorem Warehouse.Accounted.execute {db db' : Db} {c : Command} {r : Outcome}
    (h : Accounted db.books.orders db.warehouse) (hexec : Mpango.execute db c = .ok (db', r)) :
    Accounted db'.books.orders db'.warehouse := by
  rcases execute_stock hexec with ⟨horders, hstock⟩ | hstep
  · rw [horders, hstock]
    exact h
  · exact h.step hstep

/-- **Every reservation is accounted for.** Whatever commands were run, and whichever of them were
refused: the reserved quantity of a SKU is the sum of its active reservations, every reservation
belongs to an order, and those of an order are what its status says. -/
theorem accounted_of_reachable {db : Db} (h : Reachable execute Db.Fresh (fun _ => True) db) :
    Warehouse.Accounted db.books.orders db.warehouse :=
  h.induction (P := fun db => Warehouse.Accounted db.books.orders db.warehouse)
    (fun _ hfresh => Warehouse.accounted_of_fresh hfresh)
    fun _ _ _ _ hs _ hexec => hs.execute hexec

/-- An order created and confirmed, and an adjustment of the stock that no order has reserved. -/
def stockRun : List Command :=
  [.createOrder 1 2 [sampleItem 11 2], .confirmOrder 1 (some 9), .adjustStock "RICE-1KG" 5]

theorem accounted_of_reachable_stockRun :
    Warehouse.Accounted (run execute (sampleTenant 1000) stockRun).books.orders
      (run execute (sampleTenant 1000) stockRun).warehouse :=
  accounted_of_reachable ⟨_, stockRun, sampleTenant_fresh (by decide), fun _ _ => trivial, rfl⟩

end Mpango
