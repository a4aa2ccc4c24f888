import Mpango.Money.Step
import Mpango.Stock.Loops

/-!
# What a command writes on the stock side

Every accepted command creates a draft, moves an order without touching the stock, runs one of the
four loops over an order's items, adjusts a SKU by hand, or changes neither orders nor stock.
`Stock.Step` lists these with what their checks established; `execute_stock` is the only place that
goes through the commands.
-/

namespace Mpango

open Decimal

/-- An order as `create_order` writes it: its items have ids of their own, units, and quantities
within the request's bounds. -/
structure Order.WellFormed (o : Order) : Prop where
  live : o.isDeleted = false
  nodup : (o.items.map OrderItem.id).Nodup
  linked : ∀ i ∈ o.items, i.sellableUnitId.isSome
  quantity : ∀ i ∈ o.items, 1 ≤ i.quantity ∧ i.quantity ≤ 10000

/-- The status does not matter. -/
theorem Order.WellFormed.withStatus {o : Order} (h : o.WellFormed) (status : OrderState) :
    ({ o with status } : Order).WellFormed := ⟨h.live, h.nodup, h.linked, h.quantity⟩

/-- The items of an order, with their units. -/
def Itemized (o : Order) (items : List SellableItem) : Prop :=
  (items.map SellableItem.item).Perm o.items

section Itemized
variable {o : Order} {items : List SellableItem}

theorem Itemized.bounded (h : Itemized o items) (ho : o.WellFormed) :
    Warehouse.Bounded items := by
  intro i hi
  exact ho.quantity i.item (h.mem_iff.mp (List.mem_map_of_mem hi))

theorem Itemized.nodup (h : Itemized o items) (ho : o.WellFormed) :
    (items.map (·.item.id)).Nodup := by
  have hids := h.map OrderItem.id
  rw [List.map_map] at hids
  exact hids.nodup_iff.mpr ho.nodup

theorem Itemized.tickets (h : Itemized o items) :
    (items.map fun i => i.item.ticket).Perm (o.items.map OrderItem.ticket) := by
  have htickets := h.map OrderItem.ticket
  rwa [List.map_map] at htickets

/-- What the items of an order ask for does not depend on their order. -/
theorem Itemized.demand (h : Itemized o items) (k : Uuid) :
    CatalogIdentity.demand (items.map CatalogIdentity.itemLine) k =
      CatalogIdentity.demand (o.items.map fun i => i.ticket.line) k := by
  rw [← map_line_of_items]
  have hlines := h.map fun i => i.ticket.line
  rw [List.map_map] at hlines
  exact CatalogIdentity.demand_perm hlines k

end Itemized

/-- What a command does to the orders and the stock. -/
inductive Stock.Step (c : Command) : Table Order → Warehouse → Table Order → Warehouse → Prop
  | create {orders orders' : Table Order} {w : Warehouse} (o : Order) :
      orders.insert? o = some orders' → o.status = .draft → o.WellFormed →
      Step c orders w orders' w
  | move {orders : Table Order} {w : Warehouse} (o : Order) (target : OrderState) :
      o ∈ orders →
      o.status = .draft ∧ target = .voided ∨ (o.status = .confirmed ∨ o.status = .partiallyPaid) ∧
        (target = .paid ∨ target = .partiallyPaid) →
      Step c orders w (orders.set { o with status := target }) w
  | reserve {orders : Table Order} {w w' : Warehouse} (o : Order) (items : List SellableItem) :
      o ∈ orders → o.status = .draft → Itemized o items →
      w.reserveInventory o.id items = .ok w' →
      Step c orders w (orders.set { o with status := .confirmed }) w'
  | release {orders : Table Order} {w w' : Warehouse} (o : Order) :
      o ∈ orders → o.status = .draft ∨ o.status = .confirmed →
      w.releaseReservations o.id = .ok w' →
      Step c orders w (orders.set { o with status := .cancelled }) w'
  | fulfil {orders : Table Order} {w w' : Warehouse} (o : Order) (items : List SellableItem) :
      o ∈ orders → o.status = .paid → Itemized o items →
      items.foldlM (Warehouse.deductOnFulfillment o.id) w = .ok w' →
      Step c orders w (orders.set { o with status := .fulfilled }) w'
  | restock {orders : Table Order} {w w' : Warehouse} (o : Order) (items : List SellableItem) :
      o ∈ orders → o.status = .fulfilled → Itemized o items →
      items.foldlM (Warehouse.restockOnReturn o.id) w = .ok w' →
      Step c orders w (orders.set { o with status := .returned }) w'
  | adjust {orders : Table Order} {w w' : Warehouse} (skuCode : String) (quantity : Decimal) :
      c = .adjustStock skuCode quantity → w.adjustStock skuCode quantity = .ok w' →
      Step c orders w orders w'

section Inversion
variable {b b' : Books} {db db' : Db} {c : Command} {r : Outcome}

/-- The rows of a created order. -/
theorem wellFormed_of_rows {items : List OrderItemCreate} {o : Order}
    (hlive : o.isDeleted = false) (hrows : items.mapM OrderItemCreate.row = .ok o.items)
    (hnodup : (items.map OrderItemCreate.id).Nodup) : o.WellFormed := by
  have hrow : ∀ x ∈ items, ∀ i, x.row = .ok i →
      i.id = x.id ∧ i.sellableUnitId = some x.sellableUnitId ∧ i.quantity = x.quantity := by
    intro x _ i hi
    simp only [OrderItemCreate.row, bind_eq_ok, pure_eq_ok] at hi
    obtain ⟨_, -, rfl⟩ := hi
    exact ⟨rfl, rfl, rfl⟩
  refine
    { live := hlive, nodup := ?_, linked := fun i hi => ?_, quantity := fun i hi => ?_ }
  · rwa [map_of_mapM (fun x hx i hi => (hrow x hx i hi).1) hrows]
  · obtain ⟨x, hx, hi⟩ := (mem_mapM hrows).mp hi
    rw [(hrow x hx i hi).2.1]
    rfl
  · obtain ⟨x, hx, hi⟩ := (mem_mapM hrows).mp hi
    rw [(hrow x hx i hi).2.2]
    exact ⟨x.quantity_pos, x.quantity_le⟩

/-- A payment moves its order on, or leaves the orders alone. -/
theorem Books.Executed.orders {ctx : InsertContext} {o : Order} {req : PaymentRequest}
    {plan : PaymentPlan} {row : Payment} {inserted : Books} {res : CanonicalPaymentResult}
    (h : b.Executed ctx o req plan row inserted b' res) : b'.orders = b.orders ∨
      ∃ target, (o.status = .confirmed ∨ o.status = .partiallyPaid) ∧
        (target = .paid ∨ target = .partiallyPaid) ∧
        b'.orders = b.orders.set { o with status := target } := by
  have hinserted : inserted.orders = b.orders := by rw [h.insert.frame]
  rcases h.cases with ⟨hs, -, ⟨hold, htender⟩, -⟩ | ⟨hs, -, hsold, -⟩ | ⟨-, hcollected, -⟩
  · refine .inr ⟨plan.targetState, hs.status, htender.target, ?_⟩
    rw [htender.frame, hinserted]
  · refine .inr ⟨plan.targetState, hs.status, hsold.target, ?_⟩
    rw [hsold.frame, hinserted]
  · refine .inl ?_
    rw [hcollected.frame, hinserted]

/-- An executed payment is a step that leaves the stock alone, or changes no order. -/
theorem stock_of_executed {ctx : InsertContext} {o : Order} {req : PaymentRequest}
    {plan : Books.PaymentPlan} {row : Payment} {inserted : Books} {res : CanonicalPaymentResult}
    {w : Warehouse} (ho : o ∈ b.orders) (h : b.Executed ctx o req plan row inserted b' res) :
    (b'.orders = b.orders ∧ w = w) ∨ Stock.Step c b.orders w b'.orders w := by
  rcases h.orders with hsame | ⟨target, hstatus, htarget, horders⟩
  · exact .inl ⟨hsame, rfl⟩
  · rw [horders]
    exact .inr (.move o target ho (.inr ⟨hstatus, htarget⟩))

/-- An accepted command took one step on the stock side, or none. -/
theorem execute_stock (h : execute db c = .ok (db', r)) :
    (db'.books.orders = db.books.orders ∧ db'.warehouse = db.warehouse) ∨
      Stock.Step c db.books.orders db.warehouse db'.books.orders db'.warehouse := by
  cases c with
  | createOrder orderId retailerId items =>
    simp only [execute, bind_eq_ok, pure_eq_ok, Prod.mk.injEq, Prod.exists] at h
    obtain ⟨_, _, h, rfl, -⟩ := h
    obtain ⟨o, orders, rows, hins, -, -, -, hst, hlive, hrows, rfl, -, hnodup, -, rfl, -⟩ :=
      createOrder_eq_ok h
    exact .inr (.create o hins hst (wellFormed_of_rows hlive hrows hnodup))
  | confirmOrder orderId updatedBy =>
    simp only [execute, bind_eq_ok, pure_eq_ok, Prod.mk.injEq, Prod.exists] at h
    obtain ⟨_, _, h, rfl, -⟩ := h
    obtain ⟨o, items, w, holds, bindings, ho, -, -, hst, -, hitems, -, hreserve, -, -, -, rfl,
      -⟩ := confirmOrder_eq_ok h
    exact .inr (.reserve o items ho hst hitems hreserve)
  | cancelOrder orderId =>
    simp only [execute, bind_eq_ok, pure_eq_ok, Prod.mk.injEq, Prod.exists] at h
    obtain ⟨_, _, h, rfl, -⟩ := h
    obtain ⟨o, w, ho, -, -, hrelease, -, ⟨hst, -, rfl⟩ | ⟨hst, hold, bindings, -, -, -, -, -,
      rfl⟩⟩ := cancelOrder_eq_ok h
    · exact .inr (.release o ho (.inl hst) hrelease)
    · exact .inr (.release o ho (.inr hst) hrelease)
  | applyTransition orderId target paymentMethod =>
    simp only [execute, bind_eq_ok, pure_eq_ok, Prod.mk.injEq, Prod.exists] at h
    obtain ⟨_, _, h, rfl, -⟩ := h
    obtain ⟨o, ho, -, -, hst, -, rfl, -⟩ := applyTransition_eq_ok h
    exact .inr (.move o .voided ho (.inl ⟨hst, rfl⟩))
  | confirmPayment ctx orderId request =>
    simp only [execute, bind_eq_ok, pure_eq_ok, Prod.mk.injEq, Prod.exists] at h
    obtain ⟨_, _, h, rfl, -⟩ := h
    rcases Books.confirmPayment_eq_ok h with ⟨rfl, -⟩ | ⟨o, plan, row, inserted, -, ho, -, -, hx⟩
    · exact .inl ⟨rfl, rfl⟩
    · exact stock_of_executed ho hx
  | submitDeclaration newId orderId retailerId wholesalerId amount method reference key =>
    simp only [execute, bind_eq_ok, pure_eq_ok, Prod.mk.injEq, Prod.exists] at h
    obtain ⟨_, _, _, h, rfl, -⟩ := h
    rcases submitDeclaration_eq_ok h with rfl | ⟨o, declarations, -, -, -, -, -, -, -, -, -, rfl⟩
    · exact .inl ⟨rfl, rfl⟩
    · exact .inl ⟨rfl, rfl⟩
  | confirmDeclaration ctx declarationId wholesalerId =>
    simp only [execute, bind_eq_ok, pure_eq_ok, Prod.mk.injEq, Prod.exists] at h
    obtain ⟨_, _, h, rfl, -⟩ := h
    obtain ⟨o, d, ho, hdel, -, -, -, -, hcase⟩ := confirmDeclaration_cases h
    rcases hcase with ⟨-, -, rfl⟩ | ⟨-, -, -, books, hpay, rfl⟩
    · exact .inl ⟨rfl, rfl⟩
    · rcases Books.confirmPaymentForLockedOrder_eq_ok ho hdel hpay with ⟨rfl, -⟩ | ⟨plan, row,
        inserted, -, hx⟩
      · exact .inl ⟨rfl, rfl⟩
      · exact stock_of_executed ho hx
  | rejectDeclaration declarationId wholesalerId =>
    simp only [execute, bind_eq_ok, pure_eq_ok, Prod.mk.injEq] at h
    obtain ⟨_, h, rfl, -⟩ := h
    obtain ⟨d, -, -, rfl⟩ := rejectDeclaration_eq_ok h
    exact .inl ⟨rfl, rfl⟩
  | fulfillOrder orderId =>
    simp only [execute, bind_eq_ok, pure_eq_ok, Prod.mk.injEq, Prod.exists] at h
    obtain ⟨_, _, h, rfl, -⟩ := h
    obtain ⟨o, items, w, ho, -, -, hst, hitems, hdeduct, rfl, -⟩ := fulfillOrder_eq_ok h
    exact .inr (.fulfil o items ho hst hitems hdeduct)
  | returnOrder orderId =>
    simp only [execute, bind_eq_ok, pure_eq_ok, Prod.mk.injEq, Prod.exists] at h
    obtain ⟨_, _, h, rfl, -⟩ := h
    obtain ⟨o, items, w, m, n, ho, -, -, hst, hitems, hrestock, -, -, rfl, -⟩ :=
      returnOrder_eq_ok h
    exact .inr (.restock o items ho hst hitems hrestock)
  | adjustStock skuCode quantity =>
    simp only [execute, bind_eq_ok, pure_eq_ok, Prod.mk.injEq] at h
    obtain ⟨w, hadjust, rfl, -⟩ := h
    exact .inr (.adjust skuCode quantity rfl hadjust)

end Inversion

end Mpango
