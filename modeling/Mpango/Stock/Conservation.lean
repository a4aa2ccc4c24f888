import Mpango.Stock.Reservations

/-!
# Where the stock went

The movements of a SKU lead from the quantity that was on hand at first to the one on hand now
(`Journaled`), so what is on hand is what was there at first, with what manual adjustments changed,
less what the fulfilled orders took: a returned order is restocked as it was deducted
(`stock_conserved`). Confirmed orders keep what they reserved: more is reserved than is on hand
exactly after an adjustment that takes away what was reserved (`covered_iff_spares`).
-/

namespace Mpango

open Decimal CatalogIdentity

namespace Warehouse

/-! ## Movements as numbers -/

/-- What the movements changed the quantity of a SKU by, in cents. -/
def changed (k : Uuid) (moved : List InventoryMovement) : ℤ :=
  ((journalOf k moved).map Entry.change).sum

/-- What the manual adjustments among the movements changed the quantity of a SKU by. -/
def adjusted (k : Uuid) (moved : List InventoryMovement) : ℤ :=
  ((journalOf k (moved.filter fun m => m.movementType = .adjustment)).map
    fun e => e.after - e.before).sum

/-- What the fulfilled orders took of a SKU. -/
def shipped (orders : Table Order) (k : Uuid) : ℤ :=
  orders.total fun o => if o.status = .fulfilled then demand (o.items.map fun i => i.ticket.line) k
    else 0

section Numbers
variable {moved moved' : List InventoryMovement} {items : List SellableItem} {orderId k : Uuid}
  {type : MovementType} {sign : ℤ}

theorem adjusted_append :
    adjusted k (moved ++ moved') = adjusted k moved + adjusted k moved' := by
  unfold adjusted
  rw [List.filter_append, journalOf_append, List.map_append, List.sum_append]

/-- Movements of another type are no adjustments. -/
theorem adjusted_eq_zero (h : ∀ m ∈ moved, m.movementType ≠ .adjustment) :
    adjusted k moved = 0 := by
  have hnone : (moved.filter fun m => m.movementType = .adjustment) = [] := by
    rw [List.filter_eq_nil_iff]
    intro m hm
    simpa using h m hm
  unfold adjusted
  rw [hnone]
  rfl

theorem Moved.of_mem (h : Moved type orderId sign items moved) {m : InventoryMovement}
    (hm : m ∈ moved) : ∃ i, ∃ z, movementOf type orderId i z m := by
  unfold Moved at h
  induction h with
  | nil => exact absurd hm List.not_mem_nil
  | cons hhead _ ih =>
    rcases List.mem_cons.mp hm with rfl | hm
    · exact ⟨_, _, hhead⟩
    · exact ih hm

theorem Moved.balanced (h : Moved type orderId sign items moved) :
    ∀ m ∈ moved, (entry m).Balanced := by
  intro m hm
  obtain ⟨_, _, -, -, -, -, hbalanced⟩ := h.of_mem hm
  exact hbalanced

theorem Moved.movementType (h : Moved type orderId sign items moved) :
    ∀ m ∈ moved, m.movementType = type := by
  intro m hm
  obtain ⟨_, _, -, htype, -⟩ := h.of_mem hm
  exact htype

/-- The movements of some items change a quantity by what the items ask for. -/
theorem Moved.changed (h : Moved type orderId sign items moved) :
    changed k moved = sign * demand (items.map itemLine) k := by
  unfold Moved at h
  induction h with
  | nil => exact (mul_zero sign).symm
  | @cons i m items moved hhead _ ih =>
    obtain ⟨hsku, -, -, hquantity, -⟩ := hhead
    have hone : Warehouse.changed k (m :: moved) =
        (if i.sellableUnitId = k then sign * (i.item.quantity * 100) else 0) +
          Warehouse.changed k moved := by
      unfold Warehouse.changed journalOf
      by_cases hk : i.sellableUnitId = k
      · rw [if_pos hk, List.filter_cons_of_pos (by simp [hsku, hk]), List.map_cons, List.map_cons,
          List.sum_cons, show (entry m).change = sign * (i.item.quantity * 100) from hquantity]
      · rw [if_neg hk, zero_add, List.filter_cons_of_neg (by simp [hsku, hk])]
    rw [hone, ih, demand_itemLine_cons, mul_add]
    congr 1
    split
    · rfl
    · exact (mul_zero sign).symm

end Numbers

/-- The quantity on hand after movements that add up. -/
theorem Shift.onHand_changed {w w' : Warehouse} {held : Uuid → ℤ} {moved : List InventoryMovement}
    (h : Shift w w' held moved) (hb : ∀ m ∈ moved, (entry m).Balanced) (k : Uuid) :
    w'.onHand k = w.onHand k + changed k moved := h.onHand hb k

/-! ## The journal -/

/-- The journal is without gaps and its sums are right, but for adjustments, and what is on hand
is what was there at first, the adjustments, and what has not been shipped. -/
structure Journaled (first : Warehouse) (orders : Table Order) (w : Warehouse) : Prop where
  chained : ∀ k, Chained (first.onHand k) (journalOf k w.movements) (w.onHand k)
  balanced : ∀ m ∈ w.movements, m.movementType ≠ .adjustment → (entry m).Balanced
  conserved : ∀ k, w.onHand k = first.onHand k + adjusted k w.movements - shipped orders k

section Journaled
variable {first w w' : Warehouse} {orders orders' : Table Order} {o : Order} {c : Command}
  {held : Uuid → ℤ} {moved : List InventoryMovement} {items : List SellableItem}

/-- The shipped quantity when the status of an order changes. -/
theorem shipped_set {target : OrderState} (ho : o ∈ orders) (k : Uuid) :
    shipped (orders.set { o with status := target }) k = shipped orders k -
      (if o.status = .fulfilled then demand (o.items.map fun i => i.ticket.line) k else 0) +
      (if target = .fulfilled then demand (o.items.map fun i => i.ticket.line) k else 0) := by
  have hfind : orders.find? (key { o with status := target }) = some o := Table.find?_key ho
  exact Table.total_set hfind _

theorem Journaled.shift (h : Journaled first orders w) (hshift : Shift w w' held moved)
    (hbalanced : ∀ m ∈ moved, m.movementType ≠ .adjustment → (entry m).Balanced)
    (hconserved : ∀ k, w'.onHand k - w.onHand k =
      adjusted k moved - (shipped orders' k - shipped orders k)) : Journaled first orders' w' := by
  refine { chained := fun k => ?_, balanced := fun m hm => ?_, conserved := fun k => ?_ }
  · rw [hshift.movements, journalOf_append]
    exact (h.chained k).append (hshift.chained k)
  · rw [hshift.movements] at hm
    rcases List.mem_append.mp hm with hm | hm
    · exact h.balanced m hm
    · exact hbalanced m hm
  · have hbefore := h.conserved k
    have hstep := hconserved k
    rw [hshift.movements, adjusted_append]
    omega

/-- Without movements nothing is shipped. -/
theorem Journaled.unmoved (h : Journaled first orders w) (hshift : Shift w w' held [])
    (hshipped : ∀ k, shipped orders' k = shipped orders k) : Journaled first orders' w' := by
  refine h.shift hshift (List.forall_mem_nil _) fun k => ?_
  have hsame : w.onHand k = w'.onHand k := chained_nil.mp (hshift.chained k)
  rw [hshipped, hsame, adjusted_eq_zero (List.forall_mem_nil _)]
  omega

/-- The movements of an order's items. -/
theorem Journaled.of_moved {type : MovementType} {sign : ℤ} (h : Journaled first orders w)
    (hshift : Shift w w' held moved) (hmoved : Moved type o.id sign items moved)
    (htype : type ≠ .adjustment)
    (hshipped : ∀ k, shipped orders' k =
      shipped orders k - sign * demand (items.map itemLine) k) : Journaled first orders' w' := by
  refine h.shift hshift (fun m hm _ => hmoved.balanced m hm) fun k => ?_
  rw [hshift.onHand_changed hmoved.balanced k, hmoved.changed, hshipped, adjusted_eq_zero]
  · omega
  · intro m hm
    rw [hmoved.movementType m hm]
    exact htype

theorem Journaled.step (h : Journaled first orders w) (ha : Accounted orders w)
    (hstep : Stock.Step c orders w orders' w') : Journaled first orders' w' := by
  -- an order that is not fulfilled, before and after, ships nothing
  have hopen : ∀ {o : Order} {target : OrderState}, o ∈ orders → o.status ≠ .fulfilled →
      target ≠ .fulfilled → ∀ k, shipped (orders.set { o with status := target }) k =
        shipped orders k := by
    intro o target ho hst htarget k
    rw [shipped_set ho, if_neg hst, if_neg htarget]
    omega
  have hstill : Shift w w (fun _ => 0) [] := Shift.refl rfl rfl rfl rfl
  cases hstep with
  | create o hins hst _ =>
    refine h.unmoved hstill fun k => ?_
    unfold shipped
    rw [Table.total_insert? hins, hst]
    simp
  | move o target ho hcase =>
    refine h.unmoved hstill (hopen ho ?_ ?_)
    · rcases hcase with ⟨hst, -⟩ | ⟨hst | hst, -⟩ <;> rw [hst] <;> decide
    · rcases hcase with ⟨-, rfl⟩ | ⟨-, rfl | rfl⟩ <;> decide
  | reserve o items ho hst hitems hreserve =>
    obtain ⟨rs, -, -, -, hshift, -⟩ := reserveInventory_eq_ok hreserve
    exact h.unmoved hshift (hopen ho (by rw [hst]; decide) (by decide))
  | release o ho hst hrelease =>
    refine h.unmoved (releaseReservations_eq_ok hrelease).2 (hopen ho ?_ (by decide))
    rcases hst with hst | hst <;> rw [hst] <;> decide
  | fulfil o items ho hst hitems hdeduct =>
    obtain ⟨moved, hmoved, -, hshift⟩ := ha.deducted ho hst hitems hdeduct
    refine h.of_moved hshift hmoved (by decide) fun k => ?_
    rw [shipped_set ho, hst, if_neg (by decide), if_pos rfl, hitems.demand]
    omega
  | restock o items ho hst hitems hrestock =>
    obtain ⟨moved, hmoved, -, hshift⟩ :=
      restockItems_eq_ok (hitems.bounded (ha.wellFormed o ho)) hrestock
    refine h.of_moved hshift hmoved (by decide) fun k => ?_
    rw [shipped_set ho, hst, if_pos rfl, if_neg (by decide), hitems.demand]
    omega
  | adjust skuCode quantity _ hadjust =>
    obtain ⟨skuId, m, -, hsku, htype, -, -, -, -, -, -, -, hshift⟩ := adjustStock_eq_ok hadjust
    refine h.shift hshift (fun x hx hne => ?_) fun k => ?_
    · rw [List.mem_singleton.mp hx] at hne
      exact absurd htype hne
    · have hchain := hshift.chained k
      rw [sub_self, sub_zero]
      unfold adjusted
      rw [List.filter_cons_of_pos (by simp [htype]), List.filter_nil]
      by_cases hk : m.skuId = k
      · simp only [journalOf, hk, List.filter_cons_of_pos, decide_true, List.filter_nil,
          List.map_cons, List.map_nil, chained_singleton] at hchain ⊢
        rw [List.sum_singleton, ← hchain.1, ← hchain.2]
      · have hnone : journalOf k [m] = [] := by simp [journalOf, hk]
        rw [hnone] at hchain ⊢
        rw [chained_nil.mp hchain]
        simp

end Journaled

/-! ## What is reserved is on hand -/

/-- Nothing is reserved that is not on hand. -/
def Covered (w : Warehouse) : Prop := ∀ k, w.reserved k ≤ w.onHand k

/-- An adjustment leaves on hand what is reserved; other commands always do. -/
def Spares (w : Warehouse) : Command → Prop
  | .adjustStock skuCode quantity =>
    ∀ k, w.adjusted? skuCode = some k → w.reserved k ≤ w.adjustedOnHand k quantity
  | _ => True

section Covered
variable {w w' : Warehouse} {orders orders' : Table Order} {c : Command}

theorem Covered.step (h : w.Covered) (ha : Accounted orders w)
    (hstep : Stock.Step c orders w orders' w')
    (hother : ∀ skuCode quantity, c ≠ .adjustStock skuCode quantity) : w'.Covered := by
  cases hstep with
  | create o hins hst hformed => exact h
  | move o target ho hcase => exact h
  | reserve o items ho hst hitems hreserve =>
    obtain ⟨rs, -, -, -, -, hkept⟩ := reserveInventory_eq_ok hreserve
    exact fun k => hkept k (h k)
  | release o ho hst hrelease =>
    obtain ⟨-, hshift⟩ := releaseReservations_eq_ok hrelease
    intro k
    have hnonneg : 0 ≤ demand ((w.activeReservations o.id).map reservationLine) k :=
      demand_map_nonneg (fun r hr => (ha.pos r (mem_activeReservations.mp hr).1).le) k
    have hsame : w.onHand k = w'.onHand k := chained_nil.mp (hshift.chained k)
    rw [hshift.reserved, ← hsame]
    have := h k
    omega
  | fulfil o items ho hst hitems hdeduct =>
    obtain ⟨moved, hmoved, -, hshift⟩ := ha.deducted ho hst hitems hdeduct
    intro k
    -- both quantities fall by what the items ask for
    rw [hshift.reserved, hshift.onHand_changed hmoved.balanced, hmoved.changed]
    have := h k
    omega
  | restock o items ho hst hitems hrestock =>
    have hbounded := hitems.bounded (ha.wellFormed o ho)
    obtain ⟨moved, hmoved, -, hshift⟩ := restockItems_eq_ok hbounded hrestock
    intro k
    have hnonneg := hbounded.demand_nonneg k
    rw [hshift.reserved, hshift.onHand_changed hmoved.balanced, hmoved.changed]
    have := h k
    omega
  | adjust skuCode quantity hc _ => exact absurd hc (hother skuCode quantity)

/-- An adjustment of covered stock leaves it covered exactly if it spares what is reserved. -/
theorem covered_adjustStock_iff {skuCode : String} {quantity : Decimal} (h : w.Covered)
    (hadjust : w.adjustStock skuCode quantity = .ok w') :
    w'.Covered ↔ w.Spares (.adjustStock skuCode quantity) := by
  obtain ⟨skuId, m, hfound, hsku, -, -, -, -, -, hafter, -, -, hshift⟩ := adjustStock_eq_ok hadjust
  constructor
  · intro hcovered k hk
    obtain rfl : skuId = k := Option.some.inj (hfound.symm.trans hk)
    have hself := hcovered skuId
    rwa [hshift.reserved, add_zero, hafter] at hself
  · intro hspares k
    rw [hshift.reserved, add_zero]
    by_cases hk : skuId = k
    · subst hk
      rw [hafter]
      exact hspares skuId hfound
    · have hnone : journalOf k [m] = [] := by simp [journalOf, hsku, hk]
      have hchain := hshift.chained k
      rw [hnone, chained_nil] at hchain
      rw [← hchain]
      exact h k

end Covered

end Warehouse

/-! ## Runs -/

section Runs
variable {db db' : Db} {c : Command} {r : Outcome}

theorem Warehouse.covered_execute_iff (ha : Warehouse.Accounted db.books.orders db.warehouse)
    (h : db.warehouse.Covered) (hexec : execute db c = .ok (db', r)) :
    db'.warehouse.Covered ↔ db.warehouse.Spares c := by
  by_cases hc : ∃ skuCode quantity, c = .adjustStock skuCode quantity
  · obtain ⟨skuCode, quantity, rfl⟩ := hc
    simp only [execute, bind_eq_ok, pure_eq_ok, Prod.mk.injEq] at hexec
    obtain ⟨w, hadjust, rfl, -⟩ := hexec
    exact covered_adjustStock_iff h hadjust
  · have hother : ∀ skuCode quantity, c ≠ .adjustStock skuCode quantity :=
      fun skuCode quantity hsame => hc ⟨skuCode, quantity, hsame⟩
    refine iff_of_true ?_ ?_
    · rcases execute_stock hexec with ⟨-, hstock⟩ | hstep
      · rwa [hstock]
      · exact h.step ha hstep hother
    · cases c <;> first | trivial | exact absurd rfl (hother _ _)

theorem Warehouse.covered_of_fresh (h : db.Fresh) : db.warehouse.Covered := by
  intro k
  cases hfind : db.warehouse.stocks.find? k with
  | none =>
    rw [Warehouse.reserved, Warehouse.onHand, hfind]
    rfl
  | some stock =>
    have hmem := Table.mem_of_find? hfind
    rw [reserved_of_find? hfind, onHand_of_find? hfind, h.quantityReserved stock hmem]
    exact h.quantityOnHand stock hmem

/-- **What is reserved is on hand**, after every accepted command of a run, exactly if every
accepted adjustment leaves on hand what is reserved when it is made. -/
theorem covered_iff_spares {cs : List Command} (h : db.Fresh) :
    (∀ t ∈ trace execute db cs, t.after.warehouse.Covered) ↔
      ∀ t ∈ trace execute db cs, t.before.warehouse.Spares t.command := by
  let Good (db : Db) : Prop :=
    Warehouse.Accounted db.books.orders db.warehouse ∧ db.warehouse.Covered
  -- along the run `Accounted` is kept anyway, and each step decides on `Covered`
  have hstart : Good db := ⟨Warehouse.accounted_of_fresh h, Warehouse.covered_of_fresh h⟩
  constructor
  · intro hcovered t ht
    have hgood := trace_induction_of (P := Good) (fun t hs hexec hafter =>
      ⟨hs.1.execute hexec, hafter⟩) hstart hcovered t ht
    obtain ⟨hexec, -⟩ := execute_of_mem_trace ht
    exact (Warehouse.covered_execute_iff hgood.1.1 hgood.1.2 hexec).mp (hcovered t ht)
  · intro hspares t ht
    exact (trace_induction_of (P := Good) (fun t hs hexec hspared =>
      ⟨hs.1.execute hexec, (Warehouse.covered_execute_iff hs.1 hs.2 hexec).mpr hspared⟩)
      hstart hspares t ht).2.2

theorem covered_iff_spares_stockRun :
    (∀ t ∈ trace execute (sampleTenant 1000) stockRun, t.after.warehouse.Covered) ↔
      ∀ t ∈ trace execute (sampleTenant 1000) stockRun, t.before.warehouse.Spares t.command :=
  covered_iff_spares (sampleTenant_fresh (by decide))

/-- **The stock is conserved.** After any run, the movements of every SKU lead without a gap from
what was on hand at first to what is on hand now, all of them but adjustments add up, and what is on
hand is what was there at first, with what adjustments changed, less what the orders that are
fulfilled took. -/
theorem stock_conserved {cs : List Command} (h : db.Fresh) :
    Warehouse.Journaled db.warehouse (run execute db cs).books.orders
      (run execute db cs).warehouse := by
  let Good (s : Db) : Prop := Warehouse.Accounted s.books.orders s.warehouse ∧
    Warehouse.Journaled db.warehouse s.books.orders s.warehouse
  have hstart : Warehouse.Journaled db.warehouse db.books.orders db.warehouse := by
    refine { chained := fun k => ?_, balanced := fun m hm => ?_, conserved := fun k => ?_ }
    · rw [h.movements]
      exact chained_nil.mpr rfl
    · rw [h.movements] at hm
      exact absurd hm List.not_mem_nil
    · rw [h.movements, h.orders]
      simp [Warehouse.adjusted, Warehouse.journalOf, Warehouse.shipped]
  refine (run_induction (P := Good) (fun s c s' r hs _ hexec => ?_) cs db
    ⟨Warehouse.accounted_of_fresh h, hstart⟩ fun _ _ => (trivial : True)).2
  refine ⟨hs.1.execute hexec, ?_⟩
  rcases execute_stock hexec with ⟨horders, hstock⟩ | hstep
  · rw [horders, hstock]
    exact hs.2
  · exact hs.2.step hs.1 hstep

theorem stock_conserved_stockRun :
    Warehouse.Journaled (sampleTenant 1000).warehouse
      (run execute (sampleTenant 1000) stockRun).books.orders
      (run execute (sampleTenant 1000) stockRun).warehouse :=
  stock_conserved (sampleTenant_fresh (by decide))

end Runs

end Mpango
