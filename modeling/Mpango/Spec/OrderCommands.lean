import Mpango.Model.System

/-!
# What an accepted order command did

One lemma for each command, saying what its success means for the money side and which function
changed the stock side. Amounts are in cents. Later files cite these lemmas and never unfold a
command.
-/

namespace Mpango

open Decimal

/-! ## Shared checks -/

theorem loadLocked_eq_ok {b : Books} {orderId : Uuid} {o : Order} :
    loadLocked b orderId = .ok o ↔ o ∈ b.orders ∧ o.id = orderId ∧ o.isDeleted = false := by
  rw [loadLocked, orRefuse_eq_ok, Books.liveOrder?_eq_some]

theorem validateTransition_eq_ok {o : Order} {t : OrderState} :
    validateTransition o t = .ok () ↔
      o.status.isValidTransition t = true ∧ (t = .confirmed → 0 < o.totalAmount.unscaled) := by
  unfold validateTransition
  simp only [bind_eq_ok, refuseIf_eq_ok, exists_const, Numeric.toDecimal, scaled_nonpos, not_and,
    not_le, Bool.not_eq_false]
  constructor
  · rintro ⟨-, hv, ht⟩
    exact ⟨hv, ht⟩
  · rintro ⟨hv, ht⟩
    refine ⟨fun hterm => ?_, hv, ht⟩
    revert hv hterm
    cases o.status <;> cases t <;> decide

/-- Every item got its unit. -/
theorem requireSellable_eq_ok {items : List OrderItem} {refusal : OrderItem → CommandError}
    {sellable : List SellableItem} (h : requireSellable items refusal = .ok sellable) :
    sellable.map SellableItem.item = items := by
  unfold requireSellable at h
  induction items generalizing sellable with
  | nil =>
    rw [List.mapM_nil, pure_eq_ok] at h
    exact h ▸ rfl
  | cons i items ih =>
    rw [List.mapM_cons, bind_eq_ok] at h
    obtain ⟨s, hs, h⟩ := h
    simp only [bind_eq_ok, pure_eq_ok] at h
    obtain ⟨rest, hrest, rfl⟩ := h
    rw [List.map_cons, ih hrest]
    split at hs
    · cases hs; rfl
    · simp at hs

/-- Sorting only reorders the items. -/
theorem sortItems_perm (sortKey : OrderItem → String) (items : List OrderItem) :
    (sortItems sortKey items).Perm items := List.perm_insertionSort _ _

/-! ## Holds and balances -/

namespace Books

variable {b b' : Books}

theorem checkHold_eq_ok {h : CreditHold} : checkHold h = .ok () ↔
    0 < h.amount.unscaled ∧ h.remainingAmount.unscaled ≤ h.amount.unscaled ∧
      (h.status = .active ∧ 0 < h.remainingAmount.unscaled ∨
        h.status ≠ .active ∧ h.remainingAmount.unscaled = 0) := by
  unfold checkHold
  simp only [bind_eq_ok, refuseIf_eq_ok, exists_const, not_le, not_lt, not_not]

theorem insertHold_eq_ok {h : CreditHold} : b.insertHold h = .ok b' ↔
    checkHold h = .ok () ∧
      ∃ holds, b.creditHolds.insert? h = some holds ∧ b' = { b with creditHolds := holds } := by
  unfold insertHold
  simp only [bind_eq_ok, exists_unit_ok, orRefuse_eq_ok, pure_eq_ok, eq_comm (b := b')]

theorem updateHold_eq_ok {h : CreditHold} : b.updateHold h = .ok b' ↔
    checkHold h = .ok () ∧ b' = { b with creditHolds := b.creditHolds.set h } := by
  unfold updateHold
  simp only [bind_eq_ok, exists_unit_ok, pure_eq_ok, eq_comm (b := b')]

/-- The balance of a pair moved by a number of cents: its live binding was found, and the new
balance is not negative. -/
def BalanceMoved (before : Table Binding) (wholesalerId retailerId : Uuid) (cents : ℤ)
    (after : Table Binding) : Prop :=
  ∃ row m, before.find? (wholesalerId, retailerId) = some row ∧ row.isDeleted = false ∧
    m.unscaled = row.outstandingBalance.unscaled + cents ∧ 0 ≤ m.unscaled ∧
    after = before.set { row with outstandingBalance := m }

theorem updateOutstandingBalance_scaled {w r : Uuid} {z : ℤ} {act : Bool}
    (h : b.updateOutstandingBalance w r (scaled 2 z) act = .ok (some b')) :
    BalanceMoved b.bindings w r z b'.bindings ∧ b' = { b with bindings := b'.bindings } := by
  obtain ⟨row, m, hrow, -, hnn, hm, rfl⟩ := updateOutstandingBalance_eq_some.mp h
  obtain ⟨hfind, hlive⟩ := liveBinding?_eq_some.mp hrow
  rw [Numeric.toDecimal, scaled_add_scaled] at hnn hm
  rw [storeMoney_scaled] at hm
  rw [scaled_nonneg] at hnn
  exact ⟨⟨row, m, hfind, hlive, hm, hm ▸ hnn, rfl⟩, rfl⟩

/-- Opening a hold: the order had none, and its total is now held and on the balance. -/
theorem openCreditHold_eq_ok {o : Order} {d : Decimal}
    (h : b.openCreditHold o = .ok (b', d)) : ∃ holds bindings,
      0 < o.totalAmount.unscaled ∧ b.creditHolds.find? o.id = none ∧
      b.creditHolds.insert? ⟨o.id, o.totalAmount, o.totalAmount, .active⟩ = some holds ∧
      BalanceMoved b.bindings o.wholesalerId o.retailerId o.totalAmount.unscaled bindings ∧
      d = o.totalAmount.toDecimal ∧ b' = { b with creditHolds := holds, bindings } := by
  unfold openCreditHold at h
  simp only [bind_eq_ok, refuseIf_eq_ok, exists_const, dbError_eq_ok, Numeric.toDecimal,
    scaled_nonpos, not_le, Bool.not_eq_true, Option.isSome_eq_false_iff,
    Option.isNone_iff_eq_none] at h
  obtain ⟨hT, hnone, b₁, hins, o₂, hupd, h⟩ := h
  obtain ⟨-, holds, hholds, rfl⟩ := insertHold_eq_ok.mp hins
  cases o₂ with
  | none => simp at h
  | some b₂ =>
    simp only [pure_eq_ok, Prod.mk.injEq] at h
    obtain ⟨rfl, rfl⟩ := h
    obtain ⟨hmoved, hb₂⟩ := updateOutstandingBalance_scaled hupd
    exact ⟨holds, b₂.bindings, hT, hnone, hholds, hmoved, rfl, hb₂⟩

/-- Settling a cancel: a draft has no hold; otherwise the whole active hold is released and comes
off the balance. -/
theorem settleCancelHold_eq_ok {o : Order} {d : Decimal}
    (h : b.settleCancelHold o = .ok (b', d)) :
    o.status = .draft ∧ b.creditHolds.find? o.id = none ∧ b' = b ∨
    o.status ≠ .draft ∧ ∃ hold bindings, b.creditHolds.find? o.id = some hold ∧
      hold.status = .active ∧ hold.amount = o.totalAmount ∧
      hold.remainingAmount = o.totalAmount ∧
      BalanceMoved b.bindings o.wholesalerId o.retailerId (-o.totalAmount.unscaled) bindings ∧
      b' = { b with
        creditHolds := b.creditHolds.set { hold with status := .released, remainingAmount := .zero }
        bindings } := by
  unfold settleCancelHold at h
  split at h
  · next hd =>
    left
    cases hf : b.creditHolds.find? o.id with
    | some hold => simp [hf] at h
    | none =>
      simp only [hf, pure_eq_ok, Prod.mk.injEq] at h
      exact ⟨hd, rfl, h.1.symm⟩
  · next hd =>
    right
    simp only [bind_eq_ok, refuseIf_eq_ok, exists_const, dbError_eq_ok, orRefuse_eq_ok,
      Option.filter_eq_some_iff, decide_eq_true_eq, not_or, ne_eq, not_not, Numeric.toDecimal_inj]
      at h
    obtain ⟨hold, ⟨hf, hact⟩, ⟨hamt, hrem⟩, b₁, hupd, o₂, hbal, h⟩ := h
    obtain ⟨-, rfl⟩ := updateHold_eq_ok.mp hupd
    cases o₂ with
    | none => simp at h
    | some b₂ =>
      simp only [pure_eq_ok, Prod.mk.injEq] at h
      obtain ⟨rfl, -⟩ := h
      rw [Numeric.toDecimal, neg_scaled] at hbal
      obtain ⟨hmoved, hb₂⟩ := updateOutstandingBalance_scaled hbal
      exact ⟨hd, hold, b₂.bindings, hf, hact, hamt, hrem, hmoved, hb₂⟩

end Books

/-! ## The commands -/

section Commands
variable {db db' : Db} {orderId : Uuid} {res : OrderCommandResult}

/-- A new order is a live draft of this tenant; its items are the requested ones, and its total
is the stored sum of their subtotals. -/
theorem createOrder_eq_ok {retailerId : Uuid} {items : List OrderItemCreate}
    (h : createOrder db orderId retailerId items = .ok (db', res)) : ∃ o orders rows,
      db.books.orders.insert? o = some orders ∧ o.id = orderId ∧
      o.wholesalerId = db.tenantId ∧ o.retailerId = retailerId ∧ o.status = .draft ∧
      o.isDeleted = false ∧ items.mapM OrderItemCreate.row = .ok rows ∧ o.items = rows ∧
      storeMoney ((items.map OrderItemCreate.subtotal).foldl Decimal.add 0) =
        .ok o.totalAmount ∧
      (items.map OrderItemCreate.id).Nodup ∧
      (∀ x ∈ db.books.orders, ∀ i ∈ x.items, i.id ∉ items.map OrderItemCreate.id) ∧
      db' = { db with books := { db.books with orders } } ∧ res.order = o := by
  unfold createOrder at h
  simp only [bind_eq_ok, dbError_eq_ok, orRefuse_eq_ok, refuseIf_eq_ok, exists_const, pure_eq_ok,
    Prod.mk.injEq, not_or, not_not, not_exists, not_and] at h
  obtain ⟨total, htotal, rows, hrows, ⟨hnd, hfresh⟩, orders, hins, rfl, rfl⟩ := h
  exact ⟨_, orders, rows, hins, rfl, rfl, rfl, rfl, rfl, hrows, rfl, htotal, hnd, hfresh, rfl, rfl⟩

theorem confirmOrder_eq_ok {updatedBy : Option Uuid}
    (h : confirmOrder db orderId updatedBy = .ok (db', res)) :
    ∃ o, ∃ items : List SellableItem, ∃ warehouse holds bindings, o ∈ db.books.orders ∧
      o.id = orderId ∧
      o.isDeleted = false ∧ o.status = .draft ∧ 0 < o.totalAmount.unscaled ∧
      (items.map SellableItem.item).Perm o.items ∧
      db.warehouse.prelockStocks items true = .ok () ∧
      db.warehouse.reserveInventory o.id items = .ok warehouse ∧
      db.books.creditHolds.find? o.id = none ∧
      db.books.creditHolds.insert? ⟨o.id, o.totalAmount, o.totalAmount, .active⟩ = some holds ∧
      Books.BalanceMoved db.books.bindings o.wholesalerId o.retailerId o.totalAmount.unscaled
        bindings ∧
      db' = { db with
        books := { db.books.assignStatus o .confirmed with creditHolds := holds, bindings }
        warehouse } ∧ res.order = { o with status := .confirmed } := by
  unfold confirmOrder at h
  simp only [bind_eq_ok, refuseIf_eq_ok, exists_unit_ok, exists_const, loadLocked_eq_ok,
    validateTransition_eq_ok, pure_eq_ok, Prod.mk.injEq, OrderState.isValidTransition_iff] at h
  obtain ⟨o, ⟨ho, hid, hlive⟩, -, ⟨hst, hT⟩, -, items, hitems, hpre, w, hw, ⟨b, d⟩, hopen, rfl,
    rfl⟩ := h
  obtain ⟨holds, bindings, -, hnone, hins, hmoved, -, rfl⟩ := Books.openCreditHold_eq_ok hopen
  have hperm : (items.map SellableItem.item).Perm o.items := by
    rw [requireSellable_eq_ok hitems]
    exact sortItems_perm _ _
  exact ⟨o, items, w, holds, bindings, ho, hid, hlive, hst, hT trivial, hperm, hpre, hw, hnone,
    hins, hmoved, rfl, rfl⟩

theorem cancelOrder_eq_ok (h : cancelOrder db orderId = .ok (db', res)) :
    ∃ o warehouse, o ∈ db.books.orders ∧ o.id = orderId ∧ o.isDeleted = false ∧
      db.warehouse.releaseReservations o.id = .ok warehouse ∧
      res.order = { o with status := .cancelled } ∧
      (o.status = .draft ∧ db.books.creditHolds.find? o.id = none ∧
        db' = { db with books := db.books.assignStatus o .cancelled, warehouse } ∨
      o.status = .confirmed ∧ ∃ hold bindings,
        db.books.creditHolds.find? o.id = some hold ∧ hold.status = .active ∧
        hold.amount = o.totalAmount ∧ hold.remainingAmount = o.totalAmount ∧
        Books.BalanceMoved db.books.bindings o.wholesalerId o.retailerId
          (-o.totalAmount.unscaled) bindings ∧
        db' = { db with
          books := { db.books.assignStatus o .cancelled with
            creditHolds := db.books.creditHolds.set
              { hold with status := .released, remainingAmount := .zero }
            bindings }
          warehouse }) := by
  unfold cancelOrder at h
  simp only [bind_eq_ok, refuseIf_eq_ok, exists_unit_ok, exists_const, loadLocked_eq_ok,
    validateTransition_eq_ok, pure_eq_ok, Prod.mk.injEq, OrderState.isValidTransition_iff,
    not_or] at h
  obtain ⟨o, ⟨ho, hid, hlive⟩, ⟨hst, -⟩, ⟨hpaid, hpart⟩, -, w, hw, ⟨b, d⟩, hsettle, rfl, rfl⟩ := h
  refine ⟨o, w, ho, hid, hlive, hw, rfl, ?_⟩
  rcases Books.settleCancelHold_eq_ok hsettle with ⟨hd, hnone, rfl⟩ | ⟨hd, hold, bindings, hf,
    hact, hamt, hrem, hmoved, rfl⟩
  · exact .inl ⟨hd, hnone, rfl⟩
  · refine .inr ⟨?_, hold, bindings, hf, hact, hamt, hrem, hmoved, rfl⟩
    tauto

/-- The generic transition only ever voids a draft. -/
theorem applyTransition_eq_ok {target : OrderState} {paymentMethod : Option PaymentMethod}
    (h : applyTransition db orderId target paymentMethod = .ok (db', res)) :
    ∃ o, o ∈ db.books.orders ∧ o.id = orderId ∧ o.isDeleted = false ∧ o.status = .draft ∧
      target = .voided ∧ db' = { db with books := db.books.assignStatus o .voided } ∧
      res.order = { o with status := .voided } := by
  unfold applyTransition at h
  simp only [bind_eq_ok, refuseIf_eq_ok, exists_unit_ok, exists_const, loadLocked_eq_ok,
    pure_eq_ok, Prod.mk.injEq] at h
  obtain ⟨hown, o, ⟨ho, hid, hlive⟩, hvalid, -, b, hledger, rfl, rfl⟩ := h
  have htarget : target ≠ .partiallyPaid := by
    rintro rfl
    exact hown (by decide)
  have hv : o.status.isValidTransition target = true := by
    by_contra hv
    exact hvalid ⟨by simpa using hv, fun h => htarget h.2.1⟩
  obtain ⟨hst, rfl⟩ := (OrderState.isValidTransition_of_not_commandOwned hown).mp hv
  have hb : b = db.books := by
    unfold Books.postTransitionLedger at hledger
    simpa using hledger.symm
  exact ⟨o, ho, hid, hlive, hst, rfl, by rw [hb], rfl⟩

theorem fulfillOrder_eq_ok (h : fulfillOrder db orderId = .ok (db', res)) :
    ∃ o, ∃ items : List SellableItem, ∃ warehouse, o ∈ db.books.orders ∧ o.id = orderId ∧
      o.isDeleted = false ∧ o.status = .paid ∧ (items.map SellableItem.item).Perm o.items ∧
      items.foldlM (Warehouse.deductOnFulfillment o.id) db.warehouse = .ok warehouse ∧
      db' = { db with books := db.books.assignStatus o .fulfilled, warehouse } ∧
      res.order = { o with status := .fulfilled } := by
  unfold fulfillOrder at h
  simp only [bind_eq_ok, exists_unit_ok, loadLocked_eq_ok, validateTransition_eq_ok, pure_eq_ok,
    Prod.mk.injEq, OrderState.isValidTransition_iff] at h
  obtain ⟨o, ⟨ho, hid, hlive⟩, ⟨hst, -⟩, -, items, hitems, -, w, hw, rfl, rfl⟩ := h
  have hperm : (items.map SellableItem.item).Perm o.items := by
    rw [requireSellable_eq_ok hitems]
    exact sortItems_perm _ _
  exact ⟨o, items, w, ho, hid, hlive, hst, hperm, hw, rfl, rfl⟩

theorem returnOrder_eq_ok (h : returnOrder db orderId = .ok (db', res)) :
    ∃ o, ∃ items : List SellableItem, ∃ warehouse, ∃ m n : LedgerAmount,
      o ∈ db.books.orders ∧ o.id = orderId ∧ o.isDeleted = false ∧ o.status = .fulfilled ∧ (items.map SellableItem.item).Perm o.items ∧
      items.foldlM (Warehouse.restockOnReturn o.id) db.warehouse = .ok warehouse ∧
      m.unscaled = o.totalAmount.unscaled * 100 ∧ n.unscaled = -o.totalAmount.unscaled * 100 ∧
      db' = { db with
        books := { db.books.assignStatus o .returned with
          ledgerEntries := db.books.ledgerEntries ++
            [⟨.revenue, m, .refund, o.id⟩, ⟨.cash, n, .refund, o.id⟩] }
        warehouse } ∧
      res.order = { o with status := .returned } := by
  unfold returnOrder at h
  simp only [bind_eq_ok, exists_unit_ok, loadLocked_eq_ok, validateTransition_eq_ok, pure_eq_ok,
    Prod.mk.injEq, OrderState.isValidTransition_iff] at h
  obtain ⟨o, ⟨ho, hid, hlive⟩, ⟨hst, -⟩, -, items, hitems, b, hb, -, w, hw, rfl, rfl⟩ := h
  have hperm : (items.map SellableItem.item).Perm o.items := by
    rw [requireSellable_eq_ok hitems]
    exact sortItems_perm _ _
  obtain ⟨m, n, hm, hn, hpost⟩ :=
    db.books.postTransaction_money .revenue .cash o.totalAmount .refund o.id
  have hb' : db.books.postOrderReturn o.id o.totalAmount.toDecimal = .ok b := by
    simpa [Books.postTransitionLedger] using hb
  rw [Books.postOrderReturn, hpost, Except.ok.injEq] at hb'
  subst hb'
  exact ⟨o, items, w, m, n, ho, hid, hlive, hst, hperm, hw, hm, hn, rfl, rfl⟩

end Commands

end Mpango
