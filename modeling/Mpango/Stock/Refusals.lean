import Mpango.Spec.Refusals
import Mpango.Stock.Conservation

/-!
# What the stock side refuses, and what its journal adds up to

The service checks that a reservation matches its item, that the quantities agree and that the
aggregate covers them. None of these checks can fail: in every reachable state a fulfilment is
refused only for a unit that is not there or for stock that is missing, and a cancellation never for
a reservation (`mismatch_unreachable`). What can go wrong is the journal: an adjustment stores its
quantity and the new quantity on hand rounded apart, and where these roundings disagree its row does
not add up (`journal_balanced_iff`).
-/

namespace Mpango

open Decimal CatalogIdentity

/-- Fewer codes. -/
theorem RefusesOnly.codeIn {α : Type} {codes codes' : List ErrorCode} {x : Except CommandError α}
    (h : RefusesOnly (CommandError.CodeIn codes) x) (hsub : ∀ code ∈ codes, code ∈ codes') :
    RefusesOnly (CommandError.CodeIn codes') x :=
  h.mono fun _ he code hcode => hsub code (he code hcode)

namespace Warehouse

/-- The codes a fulfilment is refused with. -/
def fulfilCodes : List ErrorCode := [.orderNotFound, .sellableUnitUnavailable, .insufficientStock]

/-- The codes a cancellation is refused with. -/
def cancelCodes : List ErrorCode :=
  [.orderNotFound, .refundWorkflowNotImplemented, .sellableUnitUnavailable, .creditHoldMismatch,
    .bindingNotFound]

/-! ## Fulfilling -/

section Fulfil
variable {orders : Table Order} {w w' : Warehouse} {o : Order} {items rest : List SellableItem}
  {i : SellableItem} {orderId : Uuid}

/-- The one reservation of an item of a paid order, which matches it. -/
theorem Accounted.itemReservations (h : Accounted orders w) (ho : o ∈ orders)
    (hst : o.status = .paid) (hitems : Itemized o items) (hi : i ∈ items) :
    ∃ r, w.itemReservations o.id i.item.id = [r] ∧ Matches i r := by
  have hheld := h.holds_paid ho hst
  obtain ⟨r, hr, hticket⟩ := hheld.exists_reservation hitems hi
  have hitem : r.orderItemId = i.item.id := congrArg Prod.fst hticket
  have hsku : some r.skuId = i.item.sellableUnitId := congrArg (fun t => t.2.1) hticket
  have hquantity : r.quantity.unscaled = i.item.quantity * 100 :=
    congrArg (fun t => t.2.2.2) hticket
  have hnodup : ((w.reservationsOf o.id).map InventoryReservation.orderItemId).Nodup := by
    have hids := hheld.tickets.map Prod.fst
    rw [List.map_map, List.map_map] at hids
    exact hids.nodup_iff.mpr (h.wellFormed o ho).nodup
  have hfilter : w.itemReservations o.id i.item.id =
      (w.reservationsOf o.id).filter fun x => x.orderItemId = i.item.id := by
    unfold Warehouse.itemReservations reservationsOf
    rw [List.filter_filter]
    refine List.filter_congr fun x hx => ?_
    by_cases hid : x.orderId = o.id
    · have hrow : x ∈ w.reservationsOf o.id := mem_reservationsOf.mpr ⟨hx, hid⟩
      simp [hid, hheld.status x hrow, h.live x hx]
    · simp [hid]
  refine ⟨r, ?_, ⟨?_, hquantity, (h.of_mem hr).2⟩⟩
  · rw [hfilter]
    apply List.perm_singleton.mp
    apply (List.perm_ext_iff_of_nodup (hnodup.of_map.filter _) (List.nodup_singleton r)).mpr
    intro x
    rw [List.mem_filter, List.mem_singleton, decide_eq_true_eq]
    constructor
    · rintro ⟨hx, hsame⟩
      exact List.inj_on_of_nodup_map hnodup hx hr (hsame.trans hitem.symm)
    · rintro rfl
      exact ⟨hr, hitem⟩
  · rw [i.linked] at hsku
    exact Option.some.inj hsku

/-- What the loop of a fulfilment still expects: each item to come has one reservation, which
matches it, and the reserved quantities cover them all. -/
structure Expected (orderId : Uuid) (rest : List SellableItem) (w : Warehouse) : Prop where
  bounded : Bounded rest
  nodup : (rest.map (·.item.id)).Nodup
  matched : ∀ i ∈ rest, ∃ r, w.itemReservations orderId i.item.id = [r] ∧ Matches i r
  held : ∀ k, demand (rest.map itemLine) k ≤ w.reserved k

theorem Expected.deduct (h : Expected orderId (i :: rest) w)
    (hone : deductOnFulfillment orderId w i = .ok w') : Expected orderId rest w' := by
  obtain ⟨hlow, hhigh⟩ := h.bounded i List.mem_cons_self
  obtain ⟨r, hr, -⟩ := h.matched i List.mem_cons_self
  obtain ⟨m, z, -, -, hrows, hcase, hshift⟩ := deductOnFulfillment_eq_ok hlow hhigh hone
  have hnodup := List.nodup_cons.mp h.nodup
  have hz : z = i.item.quantity * 100 := by
    rcases hcase with ⟨hnil, -⟩ | ⟨-, hz⟩
    · rw [hr] at hnil
      cases hnil
    · exact hz
  refine
    { bounded := h.bounded.tail, nodup := hnodup.2
      matched := fun j hj => ?_, held := fun k => ?_ }
  · have hne : j.item.id ≠ i.item.id := by
      intro hid
      exact hnodup.1 (List.mem_map.mpr ⟨j, hj, hid⟩)
    rw [itemReservations_consume hrows hne]
    exact h.matched j (List.mem_cons_of_mem i hj)
  · have hheld := h.held k
    rw [demand_itemLine_cons] at hheld
    rw [hshift.reserved, hz]
    split at hheld
    · next hsame =>
      rw [if_pos hsame]
      omega
    · next hne =>
      rw [if_neg hne]
      omega

theorem Expected.refuses (h : Expected orderId (i :: rest) w) :
    RefusesOnly (CommandError.CodeIn fulfilCodes) (deductOnFulfillment orderId w i) := by
  obtain ⟨r, hr, hmatches⟩ := h.matched i List.mem_cons_self
  have hsum : ([r].map fun r => r.quantity.toDecimal).foldl Decimal.add 0 = r.quantity.toDecimal :=
    foldl_add_singleton r.quantity
  unfold deductOnFulfillment
  rw [refusesOnly_bind]
  refine ⟨lockedStockBySkuId_refuses.codeIn (by decide), fun stock hlock => ?_⟩
  dsimp only
  rw [hr, hsum, hmatches.quantityDecimal]
  simp only [refusesOnly_bind, refusesOnly_refuseIf, refusesOnly_dbError, true_and]
  refine ⟨fun _ => by simp [fulfilCodes], fun _ _ => ⟨fun hne => absurd rfl hne.2, fun _ _ =>
    ⟨fun hany => ?_, fun _ _ => ⟨fun hlow => ?_, fun _ _ _ _ => ?_⟩⟩⟩⟩
  · simp [hmatches.sku] at hany
  · -- the aggregate covers the items still to come, this one among them
    have hheld := h.held i.sellableUnitId
    have hrest := h.bounded.tail.demand_nonneg i.sellableUnitId
    have hcovered := hlow.2
    rw [Numeric.toDecimal, Numeric.toDecimal, scaled_lt_scaled, hmatches.quantity,
      ← reserved_of_find? (lockedStockBySkuId_eq_ok hlock)] at hcovered
    rw [demand_itemLine_cons, if_pos rfl] at hheld
    omega
  · split <;> simp

/-- The loop of a fulfilment is refused only for a unit that is not there or for missing stock. -/
theorem Accounted.deductItems_refuses (h : Accounted orders w) (ho : o ∈ orders)
    (hst : o.status = .paid) (hitems : Itemized o items) :
    RefusesOnly (CommandError.CodeIn fulfilCodes)
      (items.foldlM (deductOnFulfillment o.id) w) := by
  have hheld := h.holds_paid ho hst
  have hformed := h.wellFormed o ho
  refine refusesOnly_foldlM (I := Expected o.id) (fun _ _ _ _ hi hone => hi.deduct hone)
    (fun _ _ _ hi => hi.refuses)
    { bounded := hitems.bounded hformed, nodup := hitems.nodup hformed
      matched := fun i hi => h.itemReservations ho hst hitems hi, held := fun k => ?_ }
  have hpart := h.demand_le o.id k
  rwa [h.activeReservations hheld, hheld.demand, ← hitems.demand] at hpart

end Fulfil

/-! ## Cancelling -/

section Release
variable {orders : Table Order} {w : Warehouse}

/-- What an order has reserved is reserved. -/
theorem Accounted.releaseReservations_refuses (h : Accounted orders w) (orderId : Uuid) :
    RefusesOnly (CommandError.CodeIn []) (w.releaseReservations orderId) := by
  unfold releaseReservations
  simp only [refusesOnly_bind, refusesOnly_pure, implies_true, and_true]
  refine refusesOnly_foldlM
    (I := fun rest w' => (∀ r ∈ rest, 0 < r.quantity.unscaled) ∧
      ∀ k, demand (rest.map reservationLine) k ≤ w'.reserved k) ?_ ?_ ⟨?_, fun k => ?_⟩
  · intro r rest b b' hinv hone
    obtain ⟨hpos, hheld⟩ := hinv
    obtain ⟨-, -, hshift⟩ := releaseStock_eq_ok hone
    refine ⟨fun x hx => hpos x (List.mem_cons_of_mem r hx), fun k => ?_⟩
    have hk := hheld k
    rw [demand_reservationLine_cons] at hk
    rw [hshift.reserved]
    split at hk
    · next hsame =>
      rw [if_pos hsame]
      omega
    · next hne =>
      rw [if_neg hne]
      omega
  · intro r rest b hinv
    obtain ⟨hpos, hheld⟩ := hinv
    unfold releaseStock
    simp only [refusesOnly_bind, refusesOnly_orRefuse, refusesOnly_refuseIf, refusesOnly_dbError,
      refusesOnly_pure, implies_true, and_true]
    refine ⟨fun _ => codeIn_keyError, fun stock hstock hlow => ?_⟩
    rw [orRefuse_eq_ok] at hstock
    have hk := hheld r.skuId
    have hrest : 0 ≤ demand (rest.map reservationLine) r.skuId :=
      demand_map_nonneg (fun x hx => (hpos x (List.mem_cons_of_mem r hx)).le) r.skuId
    rw [Numeric.toDecimal, Numeric.toDecimal, scaled_lt_scaled, ← reserved_of_find? hstock] at hlow
    rw [demand_reservationLine_cons, if_pos rfl] at hk
    omega
  · intro r hr
    have hactive := (List.perm_insertionSort _ _).mem_iff.mp hr
    exact h.pos r (CatalogIdentity.mem_activeReservations.mp hactive).1
  · have hperm : (w.ownedReservations orderId).Perm (w.activeReservations orderId) :=
      List.perm_insertionSort _ _
    rw [demand_perm (hperm.map reservationLine)]
    exact h.demand_le orderId k

end Release

end Warehouse

/-! ## The commands -/

section Commands
variable {db : Db} {orderId : Uuid}

theorem Warehouse.Accounted.fulfillOrder_refuses
    (h : Warehouse.Accounted db.books.orders db.warehouse) :
    RefusesOnly (CommandError.CodeIn Warehouse.fulfilCodes) (fulfillOrder db orderId) := by
  unfold fulfillOrder
  simp only [refusesOnly_bind, refusesOnly_pure, implies_true, and_true]
  refine ⟨by simp [loadLocked, fulfilCodes], fun o ho => ?_⟩
  obtain ⟨hmem, -, -⟩ := loadLocked_eq_ok.mp ho
  refine ⟨validateTransition_refuses.codeIn (List.forall_mem_nil _), fun _ hvalid => ?_⟩
  have hst : o.status = .paid := by
    rw [validateTransition_eq_ok, OrderState.isValidTransition_iff] at hvalid
    exact hvalid.1
  refine ⟨by simp [checkInvariants], fun _ _ => ⟨?_, fun items hitems => ⟨?_, fun _ _ => ?_⟩⟩⟩
  · unfold requireSellable
    refine refusesOnly_mapM fun i hi => ?_
    have hlinked := (h.wellFormed o hmem).linked i ((sortItems_perm _ _).mem_iff.mp hi)
    split
    · exact refusesOnly_ok
    · next hnone =>
      rw [hnone] at hlinked
      cases hlinked
  · unfold prelockStocks
    refine refusesOnly_forM fun skuId _ => ?_
    split
    · exact refusesOnly_map.mpr (lockedStockBySkuId_refuses.codeIn (by decide))
    · exact refusesOnly_ok
  · have hperm : Itemized o items := by
      unfold Itemized
      rw [requireSellable_eq_ok hitems]
      exact sortItems_perm _ _
    exact h.deductItems_refuses hmem hst hperm

theorem Warehouse.Accounted.cancelOrder_refuses
    (h : Warehouse.Accounted db.books.orders db.warehouse) :
    RefusesOnly (CommandError.CodeIn Warehouse.cancelCodes) (cancelOrder db orderId) := by
  have hsettle : ∀ o, RefusesOnly (CommandError.CodeIn Warehouse.cancelCodes)
      (db.books.settleCancelHold o) := by
    intro o
    unfold Books.settleCancelHold
    simp only
    split
    · split <;> simp [cancelCodes]
    · simp only [refusesOnly_bind, refusesOnly_orRefuse, refusesOnly_refuseIf, refusesOnly_dbError,
        true_and]
      refine ⟨by simp [cancelCodes], fun _ _ => ⟨by simp [cancelCodes], fun _ _ _ _ found _ => ?_⟩⟩
      cases found <;> simp [cancelCodes]
  unfold cancelOrder
  simp only [refusesOnly_bind, refusesOnly_refuseIf, refusesOnly_pure, implies_true, and_true]
  refine ⟨by simp [loadLocked, cancelCodes], fun o _ => ?_⟩
  exact ⟨validateTransition_refuses.codeIn (List.forall_mem_nil _), fun _ _ =>
    ⟨by simp [cancelCodes], fun _ _ =>
      ⟨prelockReservationStocks_refuses.codeIn (by decide), fun _ _ =>
        ⟨(h.releaseReservations_refuses o.id).codeIn (List.forall_mem_nil _), fun _ _ =>
          hsettle o⟩⟩⟩⟩

/-- **No reservation mismatches.** In every reachable state a fulfilment is refused, with a code,
only because the order, a unit or the stock is missing, and a cancellation never because of a
reservation. -/
theorem mismatch_unreachable (h : Reachable execute Db.Fresh (fun _ => True) db) :
    RefusesOnly (CommandError.CodeIn Warehouse.fulfilCodes) (fulfillOrder db orderId) ∧
      RefusesOnly (CommandError.CodeIn Warehouse.cancelCodes) (cancelOrder db orderId) := by
  have haccounted : Warehouse.Accounted db.books.orders db.warehouse :=
    h.induction (P := fun db => Warehouse.Accounted db.books.orders db.warehouse)
      (fun _ hfresh => Warehouse.accounted_of_fresh hfresh) fun _ _ _ _ hs _ hexec =>
        hs.execute hexec
  exact ⟨haccounted.fulfillOrder_refuses, haccounted.cancelOrder_refuses⟩

theorem mismatch_unreachable_stockRun :
    RefusesOnly (CommandError.CodeIn Warehouse.fulfilCodes)
        (fulfillOrder (run execute (sampleTenant 1000) stockRun) 1) ∧
      RefusesOnly (CommandError.CodeIn Warehouse.cancelCodes)
        (cancelOrder (run execute (sampleTenant 1000) stockRun) 1) :=
  mismatch_unreachable ⟨_, stockRun, sampleTenant_fresh (by decide), fun _ _ => trivial, rfl⟩

end Commands

/-! ## Rows that add up -/

/-- An adjustment rounds to the same number of cents whether or not the quantity on hand is added
first; other commands do not round. -/
def Warehouse.Rounds (w : Warehouse) : Command → Prop
  | .adjustStock skuCode quantity => ∀ k, w.adjusted? skuCode = some k →
      w.adjustedOnHand k quantity = w.onHand k + roundHalfAway (quantity * 10 ^ 2)
  | _ => True

section Balanced
variable {db db' : Db} {c : Command} {r : Outcome}

/-- The rows an accepted command writes add up exactly if it rounds evenly. -/
theorem Warehouse.moved_balanced_iff (ha : Warehouse.Accounted db.books.orders db.warehouse)
    (hexec : execute db c = .ok (db', r)) : ∃ moved,
      db'.warehouse.movements = db.warehouse.movements ++ moved ∧
        ((∀ m ∈ moved, (entry m).Balanced) ↔ db.warehouse.Rounds c) := by
  by_cases hc : ∃ skuCode quantity, c = .adjustStock skuCode quantity
  · -- `adjust_stock` writes one row, the only one whose columns are rounded apart
    obtain ⟨skuCode, quantity, rfl⟩ := hc
    simp only [execute, bind_eq_ok, pure_eq_ok, Prod.mk.injEq] at hexec
    obtain ⟨w, hadjust, rfl, -⟩ := hexec
    obtain ⟨skuId, m, hfound, -, -, -, hmoved, hbefore, hafter, -, -, -, hshift⟩ :=
      adjustStock_eq_ok hadjust
    refine ⟨[m], hshift.movements, ?_⟩
    have hbalanced : (entry m).Balanced ↔ db.warehouse.adjustedOnHand skuId quantity =
        db.warehouse.onHand skuId + roundHalfAway (quantity * 10 ^ 2) := by
      show m.quantityBefore.unscaled + m.quantity.unscaled = m.quantityAfter.unscaled ↔ _
      rw [hbefore, hmoved, hafter]
      exact eq_comm
    constructor
    · intro hall k hk
      obtain rfl : skuId = k := Option.some.inj (hfound.symm.trans hk)
      exact hbalanced.mp (hall m List.mem_cons_self)
    · intro hrounds x hx
      rw [List.mem_singleton.mp hx]
      exact hbalanced.mpr (hrounds skuId hfound)
  · have hrounds : db.warehouse.Rounds c := by
      cases c <;> first | trivial | exact absurd ⟨_, _, rfl⟩ hc
    rcases execute_stock hexec with ⟨-, hstock⟩ | hstep
    · exact ⟨[], by rw [hstock, List.append_nil], iff_of_true (List.forall_mem_nil _) hrounds⟩
    · obtain ⟨held, moved, hshift, hbalanced⟩ : ∃ held moved,
          Shift db.warehouse db'.warehouse held moved ∧ ∀ m ∈ moved, (entry m).Balanced := by
        generalize db'.books.orders = orders' at hstep
        generalize hw' : db'.warehouse = w' at hstep
        generalize horders : db.books.orders = orders at hstep ha
        generalize hw : db.warehouse = w at hstep ha
        cases hstep with
        | create o _ _ _ => exact ⟨_, [], Shift.refl rfl rfl rfl rfl, List.forall_mem_nil _⟩
        | move o _ _ _ => exact ⟨_, [], Shift.refl rfl rfl rfl rfl, List.forall_mem_nil _⟩
        | reserve o items _ _ _ hreserve =>
          obtain ⟨rs, -, -, -, hshift, -⟩ := reserveInventory_eq_ok hreserve
          exact ⟨_, [], hshift, List.forall_mem_nil _⟩
        | release o _ _ hrelease =>
          exact ⟨_, [], (releaseReservations_eq_ok hrelease).2, List.forall_mem_nil _⟩
        | fulfil o items ho hst hitems hdeduct =>
          obtain ⟨moved, hmoved, -, hshift⟩ := ha.deducted ho hst hitems hdeduct
          exact ⟨_, moved, hshift, hmoved.balanced⟩
        | restock o items ho _ hitems hrestock =>
          obtain ⟨moved, hmoved, -, hshift⟩ :=
            restockItems_eq_ok (hitems.bounded (ha.wellFormed o ho)) hrestock
          exact ⟨_, moved, hshift, hmoved.balanced⟩
        | adjust skuCode quantity hadjust _ => exact absurd ⟨skuCode, quantity, hadjust⟩ hc
      exact ⟨moved, hshift.movements, iff_of_true hbalanced hrounds⟩

/-- The journal of a run, from any accounted state. -/
theorem Warehouse.run_balanced_iff {cs : List Command} :
    ∀ {db : Db}, Warehouse.Accounted db.books.orders db.warehouse →
      ((∀ m ∈ (run execute db cs).warehouse.movements, (entry m).Balanced) ↔
        (∀ m ∈ db.warehouse.movements, (entry m).Balanced) ∧
          ∀ t ∈ trace execute db cs, t.before.warehouse.Rounds t.command) := by
  induction cs with
  | nil =>
    intro db _
    exact (and_iff_left (List.forall_mem_nil _)).symm
  | cons c cs ih =>
    intro db ha
    have hrun : run execute db (c :: cs) = run execute (commit execute db c) cs := rfl
    rw [hrun, trace]
    cases hexec : execute db c with
    | error e =>
      rw [commit_of_error hexec]
      exact ih ha
    | ok s =>
      obtain ⟨db', r⟩ := s
      obtain ⟨moved, hmoved, hiff⟩ := moved_balanced_iff ha hexec
      rw [commit_of_ok hexec, ih (ha.execute hexec), hmoved, List.forall_mem_append, hiff,
        List.forall_mem_cons, and_assoc]

/-- **The journal adds up** after a run, row by row, exactly if every accepted adjustment of the run
rounds evenly. -/
theorem journal_balanced_iff {cs : List Command} (h : db.Fresh) :
    (∀ m ∈ (run execute db cs).warehouse.movements, (Warehouse.entry m).Balanced) ↔
      ∀ t ∈ trace execute db cs, t.before.warehouse.Rounds t.command := by
  rw [Warehouse.run_balanced_iff (Warehouse.accounted_of_fresh h), h.movements]
  exact and_iff_right (List.forall_mem_nil _)

theorem journal_balanced_iff_stockRun :
    (∀ m ∈ (run execute (sampleTenant 1000) stockRun).warehouse.movements,
      (Warehouse.entry m).Balanced) ↔
    ∀ t ∈ trace execute (sampleTenant 1000) stockRun, t.before.warehouse.Rounds t.command :=
  journal_balanced_iff (sampleTenant_fresh (by decide))

end Balanced

end Mpango
