import Mpango.Money.Lifecycle
import Mpango.Spec.Refusals

/-!
# The hold contract

Confirming, cancelling and paying read the hold of an order and refuse with
`CREDIT_HOLD_MISMATCH` when it is not the one the order should have. On books whose live orders
have sound accounts they never do, whatever is requested (`execute_keepsContract`), and in whole
cents the books stay such (`Books.LiveSound.step`). Unlike `Books.Sound` this asks nothing of
soft-deleted orders, which a tenant that is older than the holds may have.
-/

namespace Mpango

open Decimal

/-- Not a refusal for a broken hold contract. -/
def CommandError.KeepsContract (e : CommandError) : Prop := e.code? ≠ some .creditHoldMismatch

/-- A refusal whose code is another one. -/
theorem CommandError.KeepsContract.of_code {e : CommandError}
    (h : decide (e.code? = some .creditHoldMismatch) = false) : e.KeepsContract :=
  of_decide_eq_false h

/-- A refusal of other codes keeps the contract. -/
theorem RefusesOnly.keepsContract {α : Type} {codes : List ErrorCode} {x : Except CommandError α}
    (h : RefusesOnly (CommandError.CodeIn codes) x) (hcode : ErrorCode.creditHoldMismatch ∉ codes) :
    RefusesOnly CommandError.KeepsContract x :=
  fun e he hc => hcode (h e he _ hc)

namespace Books

variable {b b' : Books} {o : Order} {req : PaymentRequest}

/-! ## Books with sound accounts -/

/-- Every live order has a sound account, and what does not exist has neither hold nor payments. -/
structure LiveSound (b : Books) : Prop where
  accounts : ∀ o ∈ b.orders, o.isDeleted = false → (b.account o).Sound
  absent_hold : ∀ id, b.orders.find? id = none → b.creditHolds.find? id = none
  absent_amounts : ∀ id, b.orders.find? id = none → ∀ methods, b.methodAmounts id methods = []

theorem Sound.liveSound {tenantId : Uuid} (hs : b.Sound tenantId) : b.LiveSound where
  accounts o ho _ := hs.accounts o ho
  absent_hold := hs.absent_hold
  absent_amounts _ h := hs.absent_amounts h

theorem LiveSound.create {orders : Table Order} (hs : b.LiveSound)
    (hins : b.orders.insert? o = some orders) (hst : o.status = .draft) :
    ({ b with orders } : Books).LiveSound := by
  have hnew := (Table.insert?_eq_some.mp hins).1
  have habsent : ∀ id, orders.find? id = none → b.orders.find? id = none := by
    intro id h
    rw [Table.find?_insert? hins] at h
    split at h
    · simp at h
    · exact h
  refine ⟨fun x hx hlive => ?_, fun id h => hs.absent_hold id (habsent id h),
    fun id h => hs.absent_amounts id (habsent id h)⟩
  rcases (Table.mem_insert? hins).mp hx with hx | rfl
  · exact hs.accounts x hx hlive
  · exact account_sound_of_draft hst (hs.absent_hold x.id hnew) (hs.absent_amounts x.id hnew)

theorem LiveSound.advance {target : OrderState} {delta : ℤ} (hs : b.LiveSound)
    (h : Advance b b' o target delta) : b'.LiveSound := by
  refine ⟨fun x hx hlive => ?_, fun id hid => ?_, fun id hid methods => ?_⟩
  · rw [h.orders, Table.mem_set] at hx
    rcases hx with ⟨hx, hne⟩ | ⟨rfl, -⟩
    · have hid : x.id ≠ o.id := hne
      rw [account_congr (h.holds x.id hid) (h.amounts x.id hid)]
      exact hs.accounts x hx hlive
    · exact h.step.sound (hs.accounts o h.mem hlive)
  · obtain ⟨hid, hne⟩ := h.absent hid
    rw [h.holds id hne]
    exact hs.absent_hold id hid
  · obtain ⟨hid, hne⟩ := h.absent hid
    rw [h.amounts id hne]
    exact hs.absent_amounts id hid methods

/-- A write in whole cents keeps the accounts of the live orders sound. -/
theorem LiveSound.step {tenantId : Uuid} (hs : b.LiveSound)
    (h : Step tenantId PaymentRequest.WholeCent b b') : b'.LiveSound := by
  rcases h.advance with ⟨o, orders, hins, -, hst, -, rfl⟩ | ⟨o, target, delta, hadv⟩
  · exact hs.create hins hst
  · exact hs.advance hadv

/-! ## Opening and releasing a hold -/

theorem openCreditHold_keepsContract (hnone : b.creditHolds.find? o.id = none) :
    RefusesOnly CommandError.KeepsContract (b.openCreditHold o) := by
  unfold openCreditHold
  simp only [refusesOnly_bind, refusesOnly_refuseIf, hnone, Option.isSome_none,
    Bool.false_eq_true, false_imp_iff, true_and]
  refine ⟨fun _ => .of_code rfl, fun _ _ _ _ => ⟨refusesOnly_dbError.keepsContract List.not_mem_nil,
    fun b₁ _ => ⟨refusesOnly_dbError.keepsContract List.not_mem_nil, fun found _ => ?_⟩⟩⟩
  cases found with
  | some b₂ => simp
  | none => simp [CommandError.KeepsContract, CommandError.code?]

/-- A draft or confirmed order with a sound account is released without complaint. -/
theorem settleCancelHold_keepsContract (ha : (b.account o).Sound)
    (hst : o.status = .draft ∨ o.status = .confirmed) :
    RefusesOnly CommandError.KeepsContract (b.settleCancelHold o) := by
  have hshape := ha.shape
  unfold settleCancelHold
  rcases hst with hst | hst <;> simp only [Account.Shape, account_status, account_total, hst] at hshape
  · simp only [hst, if_true, account_hold_eq_none hshape.1]
    exact refusesOnly_pure
  · obtain ⟨row, hfind, hactive, hamount, hremaining⟩ := account_hold_eq_some hshape.1
    have hamt : row.amount.toDecimal = o.totalAmount.toDecimal := by
      rw [Numeric.toDecimal, hamount, Numeric.toDecimal]
    have hrem : row.remainingAmount.toDecimal = o.totalAmount.toDecimal := by
      rw [Numeric.toDecimal, hremaining, Numeric.toDecimal]
    have hheld : (some row).filter (fun h => h.status = .active) = some row := by
      simp [Option.filter, hactive]
    simp only [hst, reduceCtorEq, if_false, hfind, hheld, orRefuse_some, ok_bind, hamt, hrem,
      ne_eq, not_true, or_self, refusesOnly_bind]
    refine ⟨by simp, fun _ _ => ⟨refusesOnly_dbError.keepsContract List.not_mem_nil, fun b₁ _ =>
      ⟨refusesOnly_dbError.keepsContract List.not_mem_nil, fun found _ => ?_⟩⟩⟩
    cases found with
    | some b₂ => simp
    | none => simp [CommandError.KeepsContract, CommandError.code?]

/-! ## Paying -/

theorem checkCollection_keepsContract (ha : (b.account o).Sound) (hst : o.status = .paid) :
    RefusesOnly CommandError.KeepsContract (b.checkCollection o req) := by
  have hshape := ha.shape
  simp only [Account.Shape, account_status, account_total, hst] at hshape
  have hcash : b.methodCents o.id [.cash, .transfer] = (b.account o).tenders.sum := rfl
  have hcredit : b.methodCents o.id [.credit] = (b.account o).credits.sum := rfl
  unfold checkCollection
  simp only [refusesOnly_bind, refusesOnly_refuseIf, getOrderMethodTotal_eq, hcash, hcredit]
  refine ⟨fun _ => nofun, fun _ _ => ⟨fun ⟨hpos, hneg⟩ => ?_, fun _ _ => ⟨fun _ => nofun,
    fun _ _ _ => nofun⟩⟩⟩
  -- a credit sale is collected at most in full
  rcases hshape with ⟨-, hcr, -⟩ | ⟨-, hcr, hnn, hle⟩
  · simp [hcr] at hpos
  · have hbound := o.totalAmount.bound
    rw [hcr, List.sum_singleton, sub_scaled (by unfold contextPrecision; omega),
      scaled_neg_iff] at hneg
    omega

theorem checkSettlement_keepsContract :
    RefusesOnly CommandError.KeepsContract (b.checkSettlement o req) := by
  have h : RefusesOnly (CommandError.CodeIn [.paymentExceedsRemaining, .invalidStateTransition,
      .duplicateCreditPayment, .creditSplitTenderUnsupported, .creditAmountMismatch])
      (b.checkSettlement o req) := by
    simp [checkSettlement]
  exact h.keepsContract (by decide)

/-- A paid order with something left to collect has the converted hold of its credit sale. -/
theorem verifyCollectionHold_keepsContract (ha : (b.account o).Sound) (hst : o.status = .paid)
    (hcheck : b.checkCollection o req = .ok ()) :
    RefusesOnly CommandError.KeepsContract (b.verifyCollectionHold o) := by
  have hshape := ha.shape
  simp only [Account.Shape, account_status, account_total, hst] at hshape
  unfold checkCollection at hcheck
  simp only [bind_eq_ok, refuseIf_eq_ok, exists_const, getOrderMethodTotal_eq, not_le] at hcheck
  have hlt := lt_of_sub_pos hcheck.2.2.1
  rw [scaled_lt_scaled] at hlt
  have hcash : b.methodCents o.id [.cash, .transfer] = (b.account o).tenders.sum := rfl
  have hcredit : b.methodCents o.id [.credit] = (b.account o).credits.sum := rfl
  have hcount : (b.account o).credits.length = b.countOrderPayments o.id .credit :=
    List.length_map ..
  rw [hcash, hcredit] at hlt
  rcases hshape with ⟨-, hcr, hsum⟩ | ⟨hhold, hcr, -, -⟩
  · -- a settled order has nothing left to collect
    have hnn : 0 ≤ (b.account o).tenders.sum := List.sum_nonneg fun t ht => (ha.tenders_pos t ht).le
    rw [hcr, List.sum_nil] at hlt
    omega
  · obtain ⟨row, hfind, hconv, hamount, hremaining⟩ := account_hold_eq_some hhold
    have hheld : (some row).filter (fun h => h.status = .converted) = some row := by
      simp [Option.filter, hconv]
    have hsum : b.methodCents o.id [.credit] = o.totalAmount.unscaled := by
      rw [hcredit, hcr, List.sum_singleton]
    have hone : b.countOrderPayments o.id .credit = 1 := by
      rw [← hcount, hcr, List.length_singleton]
    unfold verifyCollectionHold
    simp [hfind, hheld, Numeric.toDecimal, hamount, hremaining, getOrderMethodTotal_eq, hsum, hone]

/-- An open order has an active hold of what is left to settle. -/
theorem verifyActiveHold_keepsContract (ha : (b.account o).Sound)
    (hcheck : b.checkSettlement o req = .ok ()) :
    RefusesOnly CommandError.KeepsContract (b.verifyActiveHold o req) := by
  unfold checkSettlement at hcheck
  simp only [bind_eq_ok, refuseIf_eq_ok, exists_const, not_and, not_lt, not_not, ne_eq] at hcheck
  obtain ⟨hle, hst, -, -, -⟩ := hcheck
  have hopen : o.status = .confirmed ∨ o.status = .partiallyPaid := by tauto
  have hcash : b.methodCents o.id [.cash, .transfer] = (b.account o).tenders.sum := rfl
  have hshape := ha.shape
  obtain ⟨hhold, hnn, hmax⟩ : (b.account o).hold = some ⟨.active, o.totalAmount.unscaled,
      o.totalAmount.unscaled - (b.account o).tenders.sum⟩ ∧ 0 ≤ (b.account o).tenders.sum ∧
      (b.account o).tenders.sum ≤ o.totalAmount.unscaled := by
    rcases hopen with hst | hst <;>
      simp only [Account.Shape, account_status, account_total, hst] at hshape
    · have hpos := ha.total_pos (by simp [hshape.1])
      rw [account_total] at hpos
      rw [hshape.1, hshape.2.1, List.sum_nil, sub_zero]
      exact ⟨rfl, le_rfl, hpos.le⟩
    · exact ⟨hshape.1, by omega, by omega⟩
  obtain ⟨row, hfind, hactive, hamount, hremaining⟩ := account_hold_eq_some hhold
  have hheld : (some row).filter (fun h => h.status = .active) = some row := by
    simp [Option.filter, hactive]
  have hbound := o.totalAmount.bound
  have hsub : Decimal.sub o.totalAmount.toDecimal (b.getOrderPaidTotal o.id) =
      scaled 2 (o.totalAmount.unscaled - (b.account o).tenders.sum) := by
    rw [getOrderPaidTotal, getOrderMethodTotal_eq, hcash, Numeric.toDecimal,
      sub_scaled (by unfold contextPrecision; omega)]
  unfold verifyActiveHold
  simp only [hfind, hheld, orRefuse_some, ok_bind, refusesOnly_bind, refusesOnly_refuseIf,
    refusesOnly_pure, implies_true, and_true]
  refine ⟨fun h => absurd ?_ h, fun _ _ => ⟨fun h => absurd ?_ h, fun _ _ h => absurd h.2 ?_⟩⟩
  · rw [Numeric.toDecimal, hamount, Numeric.toDecimal]
  · rw [hsub, Numeric.toDecimal, hremaining]
  · exact not_lt.mpr hle

theorem paymentPlan_keepsContract (ha : (b.account o).Sound) :
    RefusesOnly CommandError.KeepsContract (b.paymentPlan o req) := by
  have hreference : RefusesOnly (CommandError.CodeIn [.duplicateTransferReference])
      (b.checkTransferReference req) := by
    unfold checkTransferReference
    split <;> simp [duplicateTransferReference]
  have hhistory : RefusesOnly (CommandError.CodeIn [.paymentHistoryIntegrity])
      (b.assertValidPaymentHistory [o.id] "Payment write path") := by
    simp [assertValidPaymentHistory]
  unfold paymentPlan
  rw [refusesOnly_bind]
  refine ⟨hhistory.keepsContract (by decide), fun _ _ => ?_⟩
  rw [refusesOnly_bind]
  unfold checkState
  split
  · next hst =>
    rw [refusesOnly_bind]
    refine ⟨⟨checkCollection_keepsContract ha hst, fun _ _ => refusesOnly_pure⟩, fun s hs => ?_⟩
    simp only [bind_eq_ok, exists_unit_ok, pure_eq_ok] at hs
    obtain ⟨hcheck, rfl⟩ := hs
    simp only [refusesOnly_bind, if_true, refusesOnly_pure, implies_true, and_true]
    exact ⟨hreference.keepsContract (by decide),
      fun _ _ => verifyCollectionHold_keepsContract ha hst hcheck⟩
  · rw [refusesOnly_bind]
    refine ⟨⟨checkSettlement_keepsContract, fun _ _ => refusesOnly_pure⟩, fun s hs => ?_⟩
    simp only [bind_eq_ok, exists_unit_ok, pure_eq_ok] at hs
    obtain ⟨hcheck, rfl⟩ := hs
    simp only [refusesOnly_bind, Bool.false_eq_true, if_false, refusesOnly_pure, implies_true,
      and_true]
    exact ⟨hreference.keepsContract (by decide),
      fun _ _ => verifyActiveHold_keepsContract ha hcheck⟩

/-- What a plan takes off its hold was there. -/
theorem settleHold_keepsContract {plan : PaymentPlan}
    (hle : req.method ≠ .credit → req.amount ≤ plan.hold.remainingAmount.toDecimal) :
    RefusesOnly CommandError.KeepsContract (b.settleHold req plan) := by
  unfold settleHold convertHold reduceHold
  split
  · exact refusesOnly_dbError.keepsContract List.not_mem_nil
  · next hm =>
    have hnn : 0 ≤ Decimal.sub plan.hold.remainingAmount.toDecimal req.amount :=
      sub_nonneg_of_le (hle hm)
    simp only [refusesOnly_bind, refusesOnly_refuseIf]
    exact ⟨fun h => absurd h (not_lt.mpr hnn), fun _ _ =>
      ⟨refusesOnly_dbError.keepsContract List.not_mem_nil, fun _ _ =>
        refusesOnly_dbError.keepsContract List.not_mem_nil⟩⟩

theorem applyOutstandingBalanceDelta_keepsContract {w r : Uuid} {delta : Decimal} :
    RefusesOnly CommandError.KeepsContract (b.applyOutstandingBalanceDelta w r delta) := by
  have h : RefusesOnly (CommandError.CodeIn [.receivableBalanceUnderflow, .retailerNotBound])
      (b.applyOutstandingBalanceDelta w r delta) := by
    unfold applyOutstandingBalanceDelta
    simp only [refusesOnly_bind, refusesOnly_dbError, true_and]
    intro found _
    cases found with
    | some b' => simp
    | none =>
      simp only
      split <;> simp
  exact h.keepsContract (by decide)

theorem settlePayment_keepsContract {plan : PaymentPlan}
    (hle : plan.isCreditCollection = false → req.method ≠ .credit →
      req.amount ≤ plan.hold.remainingAmount.toDecimal) :
    RefusesOnly CommandError.KeepsContract (b.settlePayment o req plan) := by
  have hcodes : ∀ e : CommandError, e.asMutation.KeepsContract ↔ e.KeepsContract := by
    intro e
    rw [CommandError.KeepsContract, CommandError.code?_asMutation, CommandError.KeepsContract]
  unfold settlePayment
  simp only [refusesOnly_mapError, hcodes]
  split
  · unfold settleCollection postPaymentReceived
    simp only [refusesOnly_bind, refusesOnly_pure, implies_true, and_true]
    exact ⟨postTransaction_refuses.keepsContract List.not_mem_nil,
      fun _ _ => applyOutstandingBalanceDelta_keepsContract⟩
  · next hcollection =>
    unfold settleOrder settleBalance
    simp only [refusesOnly_bind, refusesOnly_pure, implies_true, and_true]
    refine ⟨settleHold_keepsContract (hle (by simpa using hcollection)), fun _ _ =>
      ⟨applyPaymentTransitionForLocked_refuses.keepsContract List.not_mem_nil, fun _ _ => ?_⟩⟩
    split
    · exact refusesOnly_ok
    · exact applyOutstandingBalanceDelta_keepsContract

/-- No payment on an order with a sound account breaks the contract. -/
theorem confirmPaymentForLockedOrder_keepsContract {ctx : InsertContext} (ho : o ∈ b.orders)
    (hlive : o.isDeleted = false) (ha : (b.account o).Sound) :
    RefusesOnly CommandError.KeepsContract (b.confirmPaymentForLockedOrder ctx o req) := by
  unfold confirmPaymentForLockedOrder raiseInvalidAmount
  simp only [refusesOnly_bind, refusesOnly_refuseIf]
  refine ⟨fun _ => .of_code rfl, fun _ _ => ?_⟩
  split
  · simp only [refusesOnly_bind, refusesOnly_pure, implies_true, and_true]
    exact replayOrConflict_refuses.keepsContract (by decide)
  · simp only [refusesOnly_bind]
    refine ⟨paymentPlan_keepsContract ha, fun plan hplan => ?_⟩
    have hle : plan.isCreditCollection = false → req.method ≠ .credit →
        req.amount ≤ plan.hold.remainingAmount.toDecimal := by
      intro hcollection hm
      rcases paymentPlan_eq_ok (Table.find?_key ho) hlive hplan with hset | hcol
      · exact hset.le_remaining hm
      · simp [hcol.isCreditCollection] at hcollection
    unfold writePayment
    split
    · simp only [refusesOnly_bind, refusesOnly_pure, implies_true, and_true]
      exact classifyPaymentInsertRace_refuses.keepsContract (by decide)
    · simp only [refusesOnly_bind, refusesOnly_pure, implies_true, and_true]
      exact settlePayment_keepsContract hle

theorem confirmPayment_keepsContract {ctx : InsertContext} {orderId : String} (hs : b.LiveSound) :
    RefusesOnly CommandError.KeepsContract (b.confirmPayment ctx orderId req) := by
  unfold confirmPayment raiseInvalidAmount
  simp only [refusesOnly_bind, refusesOnly_refuseIf]
  refine ⟨fun _ => .of_code rfl, fun _ _ =>
    ⟨fastReplay_refuses.keepsContract (by decide), fun fast _ => ?_⟩⟩
  split
  · exact refusesOnly_pure
  · simp only [refusesOnly_bind]
    refine ⟨by simp [lockOrderForPayment, CommandError.KeepsContract, CommandError.code?],
      fun o ho => ?_⟩
    unfold lockOrderForPayment at ho
    rw [orRefuse_eq_ok, Option.bind_eq_some_iff] at ho
    obtain ⟨id, -, hfind⟩ := ho
    obtain ⟨hmem, -, hlive⟩ := liveOrder?_eq_some.mp hfind
    exact confirmPaymentForLockedOrder_keepsContract hmem hlive (hs.accounts o hmem hlive)

end Books

/-! ## The stock side -/

namespace Warehouse

variable {w : Warehouse} {orderId : Uuid} {items : List SellableItem}

/-- The codes the stock functions refuse with. -/
def stockCodes : List ErrorCode :=
  [.sellableUnitUnavailable, .insufficientAvailableStock, .reservationAggregateMismatch,
    .insufficientStock, .reservationQuantityMismatch, .reservationSellableIdMismatch,
    .invalidRestockQuantity, .skuNotFound, .negativeStock]

theorem lockedStockBySkuId_refusesStock {skuId : Uuid} {skuCode : String} {requireActive : Bool} :
    RefusesOnly (CommandError.CodeIn stockCodes)
      (w.lockedStockBySkuId skuId skuCode requireActive) := by
  simp [lockedStockBySkuId, stockCodes]

theorem prelockStocks_refuses {requireActive : Bool} :
    RefusesOnly (CommandError.CodeIn stockCodes) (w.prelockStocks items requireActive) := by
  unfold prelockStocks
  refine refusesOnly_forM fun skuId _ => ?_
  split
  · exact refusesOnly_map.mpr lockedStockBySkuId_refusesStock
  · exact refusesOnly_ok

theorem reserveInventory_refuses :
    RefusesOnly (CommandError.CodeIn stockCodes) (w.reserveInventory orderId items) := by
  unfold reserveInventory
  exact refusesOnly_foldlM (I := fun _ _ => True) (fun _ _ _ _ _ _ => trivial)
    (fun _ _ _ _ => by simp [reserveItem, stockCodes]) trivial

theorem deductOnFulfillment_refuses : RefusesOnly (CommandError.CodeIn stockCodes)
    (items.foldlM (deductOnFulfillment orderId) w) := by
  refine refusesOnly_foldlM (I := fun _ _ => True) (fun _ _ _ _ _ _ => trivial)
    (fun _ _ _ _ => ?_) trivial
  unfold deductOnFulfillment
  simp only [refusesOnly_bind, refusesOnly_refuseIf, refusesOnly_dbError, true_and]
  refine ⟨lockedStockBySkuId_refusesStock, fun _ _ => ⟨by simp [stockCodes], fun _ _ =>
    ⟨by simp [stockCodes], fun _ _ => ⟨by simp [stockCodes], fun _ _ => ⟨by simp [stockCodes],
      fun _ _ _ _ => ?_⟩⟩⟩⟩⟩
  split <;> simp

theorem restockOnReturn_refuses : RefusesOnly (CommandError.CodeIn stockCodes)
    (items.foldlM (restockOnReturn orderId) w) :=
  refusesOnly_foldlM (I := fun _ _ => True) (fun _ _ _ _ _ _ => trivial)
    (fun _ _ _ _ => by simp [restockOnReturn, lockedStockBySkuId, stockCodes]) trivial

theorem adjustStock_refuses {skuCode : String} {quantity : Decimal} :
    RefusesOnly (CommandError.CodeIn stockCodes) (w.adjustStock skuCode quantity) := by
  have hensure : ∀ skuId, RefusesOnly (CommandError.CodeIn stockCodes) (w.ensureStockRow skuId) := by
    intro skuId
    unfold ensureStockRow
    split <;> simp
  unfold adjustStock
  simp only [refusesOnly_bind, refusesOnly_orRefuse, refusesOnly_refuseIf, refusesOnly_dbError,
    refusesOnly_pure, implies_true, and_true]
  exact ⟨by simp [stockCodes], fun _ _ => ⟨hensure _, fun _ _ => by simp [stockCodes]⟩⟩

end Warehouse

/-! ## The commands -/

section Commands
variable {db : Db} {orderId : Uuid}

theorem requireSellable_refuses {items : List OrderItem} {message : OrderItem → String} :
    RefusesOnly (CommandError.CodeIn [.orderItemSellableIdRequired])
      (requireSellable items fun i => .conflict .orderItemSellableIdRequired (message i)) := by
  unfold requireSellable
  refine refusesOnly_mapM fun i _ => ?_
  split <;> simp

theorem loadLocked_keepsContract :
    RefusesOnly CommandError.KeepsContract (loadLocked db.books orderId) := by
  simp [loadLocked, CommandError.KeepsContract, CommandError.code?]

theorem confirmOrder_keepsContract {updatedBy : Option Uuid} (hs : db.books.LiveSound) :
    RefusesOnly CommandError.KeepsContract (confirmOrder db orderId updatedBy) := by
  unfold confirmOrder
  simp only [refusesOnly_bind, refusesOnly_refuseIf, refusesOnly_pure, implies_true, and_true]
  refine ⟨loadLocked_keepsContract, fun o ho => ⟨fun _ => .of_code rfl, fun _ _ =>
    ⟨validateTransition_refuses.keepsContract List.not_mem_nil, fun _ hvalid => ⟨?_, fun _ _ =>
      ⟨requireSellable_refuses.keepsContract (by decide), fun _ _ =>
        ⟨Warehouse.prelockStocks_refuses.keepsContract (by decide), fun _ _ =>
          ⟨Warehouse.reserveInventory_refuses.keepsContract (by decide), fun _ _ => ?_⟩⟩⟩⟩⟩⟩⟩
  · unfold validateItemIdentities
    split
    · simp [CommandError.KeepsContract, CommandError.code?]
    · simp
  · -- only a draft is confirmed, and a draft has no hold
    obtain ⟨hmem, -, hlive⟩ := loadLocked_eq_ok.mp ho
    rw [validateTransition_eq_ok, OrderState.isValidTransition_iff] at hvalid
    have hst : o.status = .draft := by tauto
    have hshape := (hs.accounts o hmem hlive).shape
    simp only [Account.Shape, Books.account_status, hst] at hshape
    exact Books.openCreditHold_keepsContract (Books.account_hold_eq_none hshape.1)

theorem cancelOrder_keepsContract (hs : db.books.LiveSound) :
    RefusesOnly CommandError.KeepsContract (cancelOrder db orderId) := by
  unfold cancelOrder
  simp only [refusesOnly_bind, refusesOnly_refuseIf, refusesOnly_pure, implies_true, and_true]
  refine ⟨loadLocked_keepsContract, fun o ho =>
    ⟨validateTransition_refuses.keepsContract List.not_mem_nil, fun _ hvalid =>
      ⟨fun _ => .of_code rfl, fun _ hpaid =>
      ⟨Warehouse.prelockReservationStocks_refuses.keepsContract (by decide), fun _ _ =>
        ⟨Warehouse.releaseReservations_refuses.keepsContract (by decide), fun _ _ => ?_⟩⟩⟩⟩⟩
  obtain ⟨hmem, -, hlive⟩ := loadLocked_eq_ok.mp ho
  rw [validateTransition_eq_ok, OrderState.isValidTransition_iff] at hvalid
  rw [refuseIf_eq_ok] at hpaid
  exact Books.settleCancelHold_keepsContract (hs.accounts o hmem hlive) (by tauto)

theorem postTransitionLedger_keepsContract {b : Books} {o : Order} {target : OrderState}
    {method : Option PaymentMethod} :
    RefusesOnly CommandError.KeepsContract (b.postTransitionLedger o target method) := by
  have h : RefusesOnly (CommandError.CodeIn []) (b.postTransitionLedger o target method) := by
    unfold Books.postTransitionLedger Books.postPaymentReceived Books.postOrderReturn
    split_ifs <;> simp [Books.postTransaction_refuses]
  exact h.keepsContract List.not_mem_nil

theorem checkInvariants_refuses {o : Order} {fromState toState : OrderState} :
    RefusesOnly (CommandError.CodeIn []) (checkInvariants o fromState toState) := by
  simp [checkInvariants]

theorem applyTransition_keepsContract {target : OrderState} {method : Option PaymentMethod} :
    RefusesOnly CommandError.KeepsContract (applyTransition db orderId target method) := by
  unfold applyTransition
  simp only [refusesOnly_bind, refusesOnly_refuseIf, refusesOnly_pure, implies_true, and_true]
  exact ⟨fun _ => .of_code rfl, fun _ _ => ⟨loadLocked_keepsContract, fun _ _ =>
    ⟨fun _ => .of_code rfl, fun _ _ => ⟨checkInvariants_refuses.keepsContract List.not_mem_nil,
      fun _ _ => postTransitionLedger_keepsContract⟩⟩⟩⟩

theorem fulfillOrder_keepsContract :
    RefusesOnly CommandError.KeepsContract (fulfillOrder db orderId) := by
  unfold fulfillOrder
  simp only [refusesOnly_bind, refusesOnly_pure, implies_true, and_true]
  exact ⟨loadLocked_keepsContract, fun _ _ =>
    ⟨validateTransition_refuses.keepsContract List.not_mem_nil, fun _ _ =>
      ⟨checkInvariants_refuses.keepsContract List.not_mem_nil, fun _ _ =>
        ⟨requireSellable_refuses.keepsContract (by decide), fun _ _ =>
          ⟨Warehouse.prelockStocks_refuses.keepsContract (by decide), fun _ _ =>
            Warehouse.deductOnFulfillment_refuses.keepsContract (by decide)⟩⟩⟩⟩⟩

theorem returnOrder_keepsContract :
    RefusesOnly CommandError.KeepsContract (returnOrder db orderId) := by
  unfold returnOrder
  simp only [refusesOnly_bind, refusesOnly_pure, implies_true, and_true]
  exact ⟨loadLocked_keepsContract, fun _ _ =>
    ⟨validateTransition_refuses.keepsContract List.not_mem_nil, fun _ _ =>
      ⟨checkInvariants_refuses.keepsContract List.not_mem_nil, fun _ _ =>
        ⟨requireSellable_refuses.keepsContract (by decide), fun _ _ =>
          ⟨postTransitionLedger_keepsContract, fun _ _ =>
            ⟨Warehouse.prelockStocks_refuses.keepsContract (by decide), fun _ _ =>
              Warehouse.restockOnReturn_refuses.keepsContract (by decide)⟩⟩⟩⟩⟩⟩

theorem createOrder_keepsContract {retailerId : Uuid} {items : List OrderItemCreate} :
    RefusesOnly CommandError.KeepsContract (createOrder db orderId retailerId items) := by
  have hrows : RefusesOnly (CommandError.CodeIn []) (createOrder db orderId retailerId items) := by
    simp [createOrder]
  exact hrows.keepsContract List.not_mem_nil

theorem submitDeclaration_keepsContract {newId retailerId wholesalerId : Uuid}
    {order key : String} {amount : Decimal} {method : PaymentMethod} {reference : Option String} :
    RefusesOnly CommandError.KeepsContract (submitDeclaration db newId order retailerId wholesalerId
      amount method reference key) := by
  have hreference : RefusesOnly (CommandError.CodeIn [.declarationTransferReferenceRequired,
      .declarationTransferReferenceTooLong]) (normalizeTransferReference method reference) := by
    unfold normalizeTransferReference
    split <;> simp
  unfold submitDeclaration
  simp only [refusesOnly_bind, refusesOnly_refuseIf, refusesOnly_orRefuse]
  refine ⟨fun _ => .of_code rfl, fun _ _ => ⟨fun _ => .of_code rfl, fun _ _ =>
    ⟨hreference.keepsContract (by decide), fun _ _ => ⟨fun _ => .of_code rfl, fun _ _ => ?_⟩⟩⟩⟩
  split
  · split
    · exact refusesOnly_pure
    · exact refusesOnly_error.mpr (.of_code rfl)
  · simp only [refusesOnly_bind, refusesOnly_pure, implies_true, and_true]
    exact refusesOnly_dbError.keepsContract List.not_mem_nil

theorem confirmDeclaration_keepsContract {ctx : InsertContext} {declarationId wholesalerId : Uuid}
    (hs : db.books.LiveSound) :
    RefusesOnly CommandError.KeepsContract (confirmDeclaration db ctx declarationId wholesalerId) := by
  unfold confirmDeclaration
  simp only [refusesOnly_bind]
  refine ⟨lockOrderForDeclaration_refuses.keepsContract (by decide), fun o ho =>
    ⟨checkDeclaration_refuses.keepsContract (by decide), fun s _ => ?_⟩⟩
  obtain ⟨d, replay⟩ := s
  cases replay with
  | some r => exact refusesOnly_pure
  | none =>
    obtain ⟨hmem, hlive, -⟩ := lockOrderForDeclaration_eq_ok ho
    simp only [refusesOnly_bind, refusesOnly_pure, implies_true, and_true]
    refine ⟨Books.confirmPaymentForLockedOrder_keepsContract hmem hlive
      (hs.accounts o hmem hlive), fun _ _ => ?_⟩
    unfold Db.markConfirmed
    split
    · exact refusesOnly_ok
    · exact refusesOnly_error.mpr (.of_code rfl)

theorem rejectDeclaration_keepsContract {declarationId wholesalerId : Uuid} :
    RefusesOnly CommandError.KeepsContract (rejectDeclaration db declarationId wholesalerId) := by
  unfold rejectDeclaration
  simp only [refusesOnly_bind, refusesOnly_refuseIf, refusesOnly_orRefuse]
  refine ⟨fun _ => .of_code rfl, fun _ _ => ⟨fun _ => .of_code rfl, fun _ _ => ?_⟩⟩
  unfold Db.markRejected
  split
  · exact refusesOnly_ok
  · exact refusesOnly_error.mpr (.of_code rfl)

/-- **The contract is kept.** No command on books whose live orders have sound accounts is refused
for a broken hold contract, whatever its amounts. -/
theorem execute_keepsContract {c : Command} (hs : db.books.LiveSound) :
    RefusesOnly CommandError.KeepsContract (execute db c) := by
  cases c <;> simp only [execute, refusesOnly_bind, refusesOnly_pure, implies_true, and_true]
  case createOrder => exact createOrder_keepsContract
  case confirmOrder => exact confirmOrder_keepsContract hs
  case cancelOrder => exact cancelOrder_keepsContract hs
  case applyTransition => exact applyTransition_keepsContract
  case confirmPayment => exact Books.confirmPayment_keepsContract hs
  case submitDeclaration => exact submitDeclaration_keepsContract
  case confirmDeclaration => exact confirmDeclaration_keepsContract hs
  case rejectDeclaration => exact rejectDeclaration_keepsContract
  case fulfillOrder => exact fulfillOrder_keepsContract
  case returnOrder => exact returnOrder_keepsContract
  case adjustStock => exact Warehouse.adjustStock_refuses.keepsContract (by decide)

/-- Nor after a run in whole cents. -/
theorem run_keepsContract {cs : List Command} {c : Command} (hs : db.books.LiveSound)
    (hcs : ∀ c ∈ cs, c.WholeCent) :
    RefusesOnly CommandError.KeepsContract (execute (run execute db cs) c) := by
  refine execute_keepsContract ?_
  refine run_induction (P := fun db => db.books.LiveSound) (fun db c db' res h hc hx => ?_) cs db
    hs hcs
  obtain ⟨-, hbooks⟩ := execute_books hc (fun _ => confirmationRequest_wholeCent) hx
  rcases hbooks with hsame | hwrite
  · rwa [hsame]
  · exact h.step hwrite

end Commands

end Mpango
