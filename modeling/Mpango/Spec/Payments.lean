import Mpango.Spec.OrderCommands

/-!
# What an accepted payment did

A payment request is accepted in one of two ways: it is answered by the row that already carries
its key, and nothing is written; or it is executed, as a settlement of an open order, as its
credit sale, or as a collection on a credit sale. `Settlement` and `Collection` say what the
checks before the first write have established, in cents; the lemmas after them say what the
writes did.
-/

namespace Mpango

open Decimal

namespace Books

variable {b b' : Books} {o : Order} {req : PaymentRequest}

/-! ## Method totals -/

/-- Every live payment of the order is positive and names the order's retailer. -/
def ValidHistory (b : Books) (o : Order) : Prop :=
  ∀ p ∈ b.payments, p.orderId = o.id → p.isDeleted = false →
    0 < p.amount.unscaled ∧ p.retailerId = o.retailerId

theorem mem_orderPayments {orderId : Uuid} {methods : List PaymentMethod} {p : Payment} :
    p ∈ b.orderPayments orderId methods ↔
      p ∈ b.payments ∧ p.orderId = orderId ∧ p.isDeleted = false ∧ p.method ∈ methods := by
  unfold orderPayments
  simp [and_assoc]

theorem ValidHistory.methodCents_nonneg (h : b.ValidHistory o) (methods : List PaymentMethod) :
    0 ≤ b.methodCents o.id methods := by
  unfold methodCents
  refine List.sum_nonneg fun z hz => ?_
  obtain ⟨p, hp, rfl⟩ := List.mem_map.mp hz
  obtain ⟨hmem, hid, hlive, -⟩ := mem_orderPayments.mp hp
  exact (h p hmem hid hlive).1.le

/-- A history without payments by a method has no total by it. -/
theorem methodCents_eq_zero {orderId : Uuid} {method : PaymentMethod}
    (h : b.countOrderPayments orderId method = 0) : b.methodCents orderId [method] = 0 := by
  unfold countOrderPayments at h
  unfold methodCents
  rw [List.length_eq_zero_iff.mp h]
  rfl

theorem assertValidPaymentHistory_single {context : String}
    (ho : b.orders.find? o.id = some o) (hlive : o.isDeleted = false) :
    b.assertValidPaymentHistory [o.id] context = .ok () ↔ b.ValidHistory o := by
  rw [assertValidPaymentHistory_eq_ok]
  simp only [List.mem_singleton, forall_eq]
  refine forall₂_congr fun p _ => forall₂_congr fun hid _ => ?_
  simp [ho, Payment.invalidFor, hlive]

/-! ## The plan -/

/-- What is known when a payment on an open order passes its checks. -/
structure Settlement (b : Books) (o : Order) (req : PaymentRequest) (plan : PaymentPlan) :
    Prop where
  status : o.status = .confirmed ∨ o.status = .partiallyPaid
  history : b.ValidHistory o
  find : b.creditHolds.find? o.id = some plan.hold
  active : plan.hold.status = .active
  amount : plan.hold.amount = o.totalAmount
  remaining : plan.hold.remainingAmount.unscaled =
    o.totalAmount.unscaled - b.methodCents o.id [.cash, .transfer]
  le_remaining : req.method ≠ .credit → req.amount ≤ plan.hold.remainingAmount.toDecimal
  credit : req.method = .credit → b.countOrderPayments o.id .credit = 0 ∧
    b.methodCents o.id [.cash, .transfer] = 0 ∧ req.amount = o.totalAmount.toDecimal
  target : plan.targetState = b.settlementTarget o req
  isCreditCollection : plan.isCreditCollection = false
  paymentStatus : plan.paymentStatus = if req.forceCompleted = true ∨
    req.method = .transfer ∧ plan.targetState = .paid then .completed else .pending

/-- What is known when a payment on a paid order passes its checks. -/
structure Collection (b : Books) (o : Order) (req : PaymentRequest) (plan : PaymentPlan) :
    Prop where
  status : o.status = .paid
  history : b.ValidHistory o
  method : req.method ≠ .credit
  find : b.creditHolds.find? o.id = some plan.hold
  converted : plan.hold.status = .converted
  remaining : plan.hold.remainingAmount.unscaled = 0
  amount : plan.hold.amount = o.totalAmount
  credit : b.methodCents o.id [.credit] = o.totalAmount.unscaled
  credit_count : b.countOrderPayments o.id .credit = 1
  le_exposure : req.amount ≤
    scaled 2 (o.totalAmount.unscaled - b.methodCents o.id [.cash, .transfer])
  exposure_pos : b.methodCents o.id [.cash, .transfer] < o.totalAmount.unscaled
  isCreditCollection : plan.isCreditCollection = true
  paymentStatus : plan.paymentStatus = .completed

theorem verifyActiveHold_eq_ok {hold : CreditHold} (h : b.verifyActiveHold o req = .ok hold) :
    b.creditHolds.find? o.id = some hold ∧ hold.status = .active ∧ hold.amount = o.totalAmount ∧
      hold.remainingAmount.unscaled =
        o.totalAmount.unscaled - b.methodCents o.id [.cash, .transfer] ∧
      (req.method ≠ .credit → req.amount ≤ hold.remainingAmount.toDecimal) := by
  unfold verifyActiveHold at h
  simp only [bind_eq_ok, orRefuse_eq_ok, refuseIf_eq_ok, exists_const, pure_eq_ok, ne_eq,
    not_not, Option.filter_eq_some_iff, decide_eq_true_eq, Numeric.toDecimal_inj, not_and,
    not_lt] at h
  obtain ⟨hold', ⟨hf, hact⟩, hamt, hrem, hle, rfl⟩ := h
  refine ⟨hf, hact, hamt, ?_, fun hm => hrem ▸ hle hm⟩
  rw [getOrderPaidTotal, getOrderMethodTotal_eq] at hrem
  have hbound := hold'.remainingAmount.bound
  exact (sub_scaled_eq (by unfold contextPrecision; omega) hrem.symm).symm

theorem verifyCollectionHold_eq_ok {hold : CreditHold} (h : b.verifyCollectionHold o = .ok hold) :
    b.creditHolds.find? o.id = some hold ∧ hold.status = .converted ∧
      hold.remainingAmount.unscaled = 0 ∧ hold.amount = o.totalAmount ∧
      b.methodCents o.id [.credit] = o.totalAmount.unscaled ∧
      b.countOrderPayments o.id .credit = 1 := by
  unfold verifyCollectionHold at h
  simp only [bind_eq_ok, orRefuse_eq_ok, refuseIf_eq_ok, exists_const, pure_eq_ok, ne_eq,
    not_not, Option.filter_eq_some_iff, decide_eq_true_eq, Numeric.toDecimal_inj,
    getOrderMethodTotal_eq] at h
  obtain ⟨hold', ⟨hf, hconv⟩, hrem, hamt, hcredit, hcount, rfl⟩ := h
  refine ⟨hf, hconv, ?_, hamt, ?_, hcount⟩
  · rwa [Numeric.toDecimal, scaled_eq_zero] at hrem
  · rwa [Numeric.toDecimal, scaled_inj] at hcredit

/-- Passing the checks: the payment is a settlement or a collection. -/
theorem paymentPlan_eq_ok {plan : PaymentPlan} (ho : b.orders.find? o.id = some o)
    (hlive : o.isDeleted = false) (h : b.paymentPlan o req = .ok plan) :
    b.Settlement o req plan ∨ b.Collection o req plan := by
  unfold paymentPlan at h
  simp only [bind_eq_ok, exists_unit_ok, assertValidPaymentHistory_single ho hlive] at h
  obtain ⟨-, hhist, ⟨target, collection⟩, hstate, -, hplan⟩ := h
  unfold checkState at hstate
  split at hstate
  · next hpaid =>
    right
    simp only [bind_eq_ok, exists_unit_ok, pure_eq_ok, Prod.mk.injEq] at hstate
    obtain ⟨hcheck, rfl, rfl⟩ := hstate
    unfold checkCollection at hcheck
    simp only [bind_eq_ok, refuseIf_eq_ok, exists_const, getOrderMethodTotal_eq, not_le,
      not_lt] at hcheck
    obtain ⟨hmethod, -, hpos, hle⟩ := hcheck
    simp only [if_true, bind_eq_ok, pure_eq_ok] at hplan
    obtain ⟨hold, hhold, rfl⟩ := hplan
    obtain ⟨hf, hconv, hrem, hamt, hcredit, hcount⟩ := verifyCollectionHold_eq_ok hhold
    have hlt := lt_of_sub_pos hpos
    rw [scaled_lt_scaled, hcredit] at hlt
    -- the collected total lies between zero and the order total, so the exposure is exact
    have hnn := hhist.methodCents_nonneg [.cash, .transfer]
    have hbound := o.totalAmount.bound
    rw [hcredit, sub_scaled (by unfold contextPrecision; omega)] at hle
    exact
      { status := hpaid, history := hhist, method := hmethod, find := hf, converted := hconv
        remaining := hrem, amount := hamt, credit := hcredit, credit_count := hcount
        le_exposure := hle, exposure_pos := hlt, isCreditCollection := rfl
        paymentStatus := by simp }
  · next hpaid =>
    left
    simp only [bind_eq_ok, exists_unit_ok, pure_eq_ok, Prod.mk.injEq] at hstate
    obtain ⟨hcheck, rfl, rfl⟩ := hstate
    unfold checkSettlement at hcheck
    simp only [bind_eq_ok, refuseIf_eq_ok, exists_const, not_and, not_lt, not_not, ne_eq,
      getOrderPaidTotal, getOrderMethodTotal_eq, scaled_nonpos, Nat.le_zero] at hcheck
    obtain ⟨-, hst, hcount, hsplit, hamount⟩ := hcheck
    simp only [Bool.false_eq_true, if_false, bind_eq_ok, pure_eq_ok] at hplan
    obtain ⟨hold, hhold, rfl⟩ := hplan
    obtain ⟨hf, hact, hamt, hrem, hle⟩ := verifyActiveHold_eq_ok hhold
    have hnn := hhist.methodCents_nonneg [.cash, .transfer]
    exact
      { status := by tauto, history := hhist, find := hf, active := hact, amount := hamt
        remaining := hrem, le_remaining := hle
        credit := fun hc => ⟨hcount hc, le_antisymm (hsplit hc) hnn, hamount hc⟩
        target := rfl, isCreditCollection := rfl, paymentStatus := by simp }

/-! ## The new row -/

/-- The receipt of a new row: none, or the number the allocator gave out for a completed one. -/
def Receipted (b : Books) (ctx : InsertContext) (req : PaymentRequest) (plan : PaymentPlan)
    (receipt : Option String) (sequences : Table ReceiptSequence) : Prop :=
  receipt = none ∧ sequences = b.receiptSequences ∧
      ¬(req.allocateReceipt = true ∧ plan.paymentStatus = .completed) ∨
    req.allocateReceipt = true ∧ plan.paymentStatus = .completed ∧ ∃ b₁ number,
      b.allocateReceiptNumber ctx.businessDate = .ok (b₁, number) ∧ receipt = some number ∧
      sequences = b₁.receiptSequences

/-- The row an accepted request inserts, and the books after the insert. -/
structure Inserted (b : Books) (ctx : InsertContext) (o : Order) (req : PaymentRequest)
    (plan : PaymentPlan) (row : Payment) (b' : Books) : Prop where
  id : row.id = ctx.newId
  orderId : row.orderId = o.id
  retailerId : row.retailerId = o.retailerId
  transactionId : storeTransactionId req.transactionId = .ok row.transactionId
  idempotencyKey : varchar 64 req.idempotencyKey = some row.idempotencyKey
  amount : storeMoney req.amount = .ok row.amount
  method : row.method = req.method
  status : row.status = plan.paymentStatus
  isDeleted : row.isDeleted = false
  receipt : b.Receipted ctx req plan row.receiptNumber b'.receiptSequences
  fresh : b.paymentUniqueViolation? row = none
  payments : b.payments.insert? row = some b'.payments
  frame : b' = { b with payments := b'.payments, receiptSequences := b'.receiptSequences }

theorem insertPayment_eq_ok {ctx : InsertContext} {plan : PaymentPlan} {row : Payment}
    (h : b.insertPayment ctx o req plan = .ok (b', row)) : b.Inserted ctx o req plan row b' := by
  unfold insertPayment at h
  rw [bind_eq_ok] at h
  obtain ⟨⟨b₁, receipt⟩, halloc, h⟩ := h
  -- the allocator leaves everything but its counters as it was
  have hb₁ : b₁ = { b with receiptSequences := b₁.receiptSequences } ∧
      b.Receipted ctx req plan receipt b₁.receiptSequences := by
    unfold receiptForInsert at halloc
    split at halloc
    · next hwanted =>
      simp only [bind_eq_ok, pure_eq_ok, Prod.mk.injEq] at halloc
      obtain ⟨⟨b₂, number⟩, hnumber, rfl, rfl⟩ := halloc
      exact ⟨allocateReceiptNumber_frame hnumber,
        .inr ⟨hwanted.1, hwanted.2, b₂, number, hnumber, rfl, rfl⟩⟩
    · next hunwanted =>
      rw [Except.ok.injEq, Prod.mk.injEq] at halloc
      obtain ⟨rfl, rfl⟩ := halloc
      exact ⟨rfl, .inl ⟨rfl, rfl, hunwanted⟩⟩
  obtain ⟨hb₁, hreceipt⟩ := hb₁
  rw [hb₁] at h
  obtain ⟨hrow, hviol, payments, hins, rfl⟩ := createPayment_eq_ok.mp h
  obtain ⟨t, k, m, ht, hk, hm, rfl⟩ := paymentRow_eq_ok.mp hrow
  exact
    { id := rfl, orderId := rfl, retailerId := rfl, transactionId := ht, idempotencyKey := hk
      amount := hm, method := rfl, status := rfl, isDeleted := rfl, receipt := hreceipt
      fresh := hviol, payments := hins, frame := rfl }

/-! ## The settlement -/

/-- The balance of a pair moved by a delta: its live binding was found, the new balance is not
negative, and the column keeps it rounded. -/
def BalanceUpdated (before : Table Binding) (wholesalerId retailerId : Uuid) (delta : Decimal)
    (after : Table Binding) : Prop :=
  ∃ row m, before.find? (wholesalerId, retailerId) = some row ∧ row.isDeleted = false ∧
    0 ≤ row.outstandingBalance.toDecimal + delta ∧
    storeMoney (row.outstandingBalance.toDecimal + delta) = .ok m ∧
    after = before.set { row with outstandingBalance := m }

theorem applyOutstandingBalanceDelta_frame {w r : Uuid} {delta : Decimal}
    (h : b.applyOutstandingBalanceDelta w r delta = .ok b') :
    BalanceUpdated b.bindings w r delta b'.bindings ∧ b' = { b with bindings := b'.bindings } := by
  obtain ⟨row, m, hrow, -, hnn, hm, rfl⟩ :=
    updateOutstandingBalance_eq_some.mp (applyOutstandingBalanceDelta_eq_ok.mp h)
  obtain ⟨hfind, hlive⟩ := liveBinding?_eq_some.mp hrow
  exact ⟨⟨row, m, hfind, hlive, hnn, hm, rfl⟩, rfl⟩

/-- In whole cents nothing is rounded. -/
theorem BalanceUpdated.moved {before after : Table Binding} {w r : Uuid} {z : ℤ}
    (h : BalanceUpdated before w r (scaled 2 z) after) : BalanceMoved before w r z after := by
  obtain ⟨row, m, hfind, hlive, hnn, hm, rfl⟩ := h
  rw [Numeric.toDecimal, scaled_add_scaled] at hnn hm
  rw [storeMoney_scaled] at hm
  rw [scaled_nonneg] at hnn
  exact ⟨row, m, hfind, hlive, hm, hm ▸ hnn, rfl⟩

/-- A move of whole cents is an update. -/
theorem BalanceMoved.updated {before after : Table Binding} {w r : Uuid} {z : ℤ}
    (h : BalanceMoved before w r z after) : BalanceUpdated before w r (scaled 2 z) after := by
  obtain ⟨row, m, hfind, hlive, hm, hnn, rfl⟩ := h
  refine ⟨row, m, hfind, hlive, ?_, ?_, rfl⟩
  · rw [Numeric.toDecimal, scaled_add_scaled, scaled_nonneg]
    exact hm ▸ hnn
  · rw [Numeric.toDecimal, scaled_add_scaled, storeMoney_scaled]
    exact hm

/-- Two entries that cancel were appended. -/
def Posted (before : List LedgerEntry) (debit credit : AccountType) (cents : ℤ)
    (reference : LedgerReference) (id : Uuid) (after : List LedgerEntry) : Prop :=
  ∃ m n : LedgerAmount, m.unscaled = cents * 100 ∧ n.unscaled = -cents * 100 ∧
    after = before ++ [⟨debit, m, reference, id⟩, ⟨credit, n, reference, id⟩]

theorem postPaymentReceived_money {orderId : Uuid} {amount : Money}
    (h : b.postPaymentReceived orderId amount.toDecimal = .ok b') :
    Posted b.ledgerEntries .cash .receivable amount.unscaled .order orderId b'.ledgerEntries ∧
      b' = { b with ledgerEntries := b'.ledgerEntries } := by
  obtain ⟨m, n, hm, hn, hpost⟩ := b.postTransaction_money .cash .receivable amount .order orderId
  rw [postPaymentReceived, hpost, Except.ok.injEq] at h
  subst h
  exact ⟨⟨m, n, hm, hn, rfl⟩, rfl⟩

/-- The payments after a settlement: settling in full completes the pending ones, unless every
payment of the order was completed when it was recorded. -/
def settledPayments (b : Books) (o : Order) (req : PaymentRequest) (plan : PaymentPlan) :
    Table Payment :=
  if req.forceCompleted = false ∧ plan.targetState = .paid then
    (b.updateCashTransferToCompleted o.id).payments
  else b.payments

/-- The ledger after a payment transition: settling in full posts the order's total. -/
def LedgerSettled (before : List LedgerEntry) (o : Order) (target : OrderState)
    (method : PaymentMethod) (after : List LedgerEntry) : Prop :=
  if target = .paid ∧ method ≠ .credit then
    Posted before .cash .receivable o.totalAmount.unscaled .order o.id after
  else after = before

theorem applyPaymentTransitionForLocked_eq_ok {target : OrderState} {method : PaymentMethod}
    {o' : Order} (h : b.applyPaymentTransitionForLocked o target method = .ok (b', o')) :
    LedgerSettled b.ledgerEntries o target method b'.ledgerEntries ∧
      o' = { o with status := target } ∧ (target = .paid ∨ target = .partiallyPaid) ∧
      b' = { b with orders := b.orders.set { o with status := target }
                    ledgerEntries := b'.ledgerEntries } := by
  unfold applyPaymentTransitionForLocked at h
  simp only [bind_eq_ok, refuseIf_eq_ok, exists_const, pure_eq_ok, Prod.mk.injEq, not_not] at h
  obtain ⟨hallowed, b₁, hledger, rfl, rfl⟩ := h
  have htarget : target = .paid ∨ target = .partiallyPaid := by tauto
  have hpost : LedgerSettled b.ledgerEntries o target method b₁.ledgerEntries ∧
      b₁ = { b with ledgerEntries := b₁.ledgerEntries } := by
    unfold postTransitionLedger at hledger
    unfold LedgerSettled
    by_cases hp : target = .paid ∧ method ≠ .credit
    · rw [if_neg (by simp [hp.1]), if_pos (by simpa using hp)] at hledger
      rw [if_pos hp]
      exact postPaymentReceived_money hledger
    · have hret : target ≠ .returned := by rcases htarget with rfl | rfl <;> simp
      rw [if_neg (by rcases htarget with rfl | rfl <;> simp), if_neg (by simpa using hp),
        if_neg hret, Except.ok.injEq] at hledger
      rw [if_neg hp]
      exact ⟨by rw [hledger], by rw [hledger]⟩
  obtain ⟨hposted, hb₁⟩ := hpost
  refine ⟨hposted, rfl, htarget, ?_⟩
  rw [hb₁]
  rfl

/-- A cash or transfer settlement took effect: the hold went down to `hold'`, the order moved, and
the balance came down by the amount. -/
structure Tendered (b : Books) (o : Order) (req : PaymentRequest) (plan : PaymentPlan)
    (hold' : CreditHold) (b' : Books) : Prop where
  left : 0 ≤ Decimal.sub plan.hold.remainingAmount.toDecimal req.amount
  remaining : storeMoney (Decimal.sub plan.hold.remainingAmount.toDecimal req.amount) =
    .ok hold'.remainingAmount
  hold : hold' = { plan.hold with
    remainingAmount := hold'.remainingAmount
    status := if Decimal.sub plan.hold.remainingAmount.toDecimal req.amount = 0 then .settled
      else plan.hold.status }
  checked : checkHold hold' = .ok ()
  target : plan.targetState = .paid ∨ plan.targetState = .partiallyPaid
  ledger : LedgerSettled b.ledgerEntries o plan.targetState req.method b'.ledgerEntries
  balance : BalanceUpdated b.bindings o.wholesalerId o.retailerId (Decimal.neg req.amount)
    b'.bindings
  frame : b' = { b with
    orders := b.orders.set { o with status := plan.targetState }
    creditHolds := b.creditHolds.set hold'
    payments := b.settledPayments o req plan
    ledgerEntries := b'.ledgerEntries
    bindings := b'.bindings }

/-- A credit sale took effect: the hold is converted, and nothing else moved but the order. -/
structure Sold (b : Books) (o : Order) (req : PaymentRequest) (plan : PaymentPlan) (b' : Books) :
    Prop where
  target : plan.targetState = .paid ∨ plan.targetState = .partiallyPaid
  frame : b' = { b with
    orders := b.orders.set { o with status := plan.targetState }
    creditHolds := b.creditHolds.set
      { plan.hold with status := .converted, remainingAmount := .zero }
    payments := b.settledPayments o req plan }

/-- A collection took effect: it is posted, and the balance came down by it. -/
structure Collected (b : Books) (o : Order) (req : PaymentRequest) (b' : Books) : Prop where
  ledger : ∃ m n, storeLedgerAmount req.amount = .ok m ∧
    storeLedgerAmount (Decimal.neg req.amount) = .ok n ∧
    b'.ledgerEntries =
      b.ledgerEntries ++ [⟨.cash, m, .order, o.id⟩, ⟨.receivable, n, .order, o.id⟩]
  balance : BalanceUpdated b.bindings o.wholesalerId o.retailerId (Decimal.neg req.amount)
    b'.bindings
  frame : b' = { b with ledgerEntries := b'.ledgerEntries, bindings := b'.bindings }

theorem completePending_eq (plan : PaymentPlan) {o' : Order}
    (ho' : o'.status = plan.targetState) :
    b.completePending o o' req = { b with payments := b.settledPayments o req plan } := by
  unfold completePending settledPayments
  rw [ho']
  split <;> rfl

theorem settleOrder_tender {plan : PaymentPlan} {o' : Order} (hm : req.method ≠ .credit)
    (h : b.settleOrder o req plan = .ok (b', o')) :
    (∃ hold', b.Tendered o req plan hold' b') ∧ o' = { o with status := plan.targetState } := by
  unfold settleOrder settleHold reduceHold settleBalance at h
  simp only [if_neg hm, bind_eq_ok, refuseIf_eq_ok, exists_const, dbError_eq_ok, pure_eq_ok,
    Prod.mk.injEq, not_lt, updateHold_eq_ok] at h
  obtain ⟨b₁, ⟨hleft, remaining, hrem, hchecked, rfl⟩, ⟨b₂, o₂⟩, htrans, b₃, hbal, rfl, rfl⟩ := h
  obtain ⟨hledger, rfl, htarget, hb₂⟩ := applyPaymentTransitionForLocked_eq_ok htrans
  rw [completePending_eq plan rfl, hb₂] at hbal
  obtain ⟨hmoved, hb₃⟩ := applyOutstandingBalanceDelta_frame hbal
  have hentries : b₃.ledgerEntries = b₂.ledgerEntries := by rw [hb₃]
  refine ⟨⟨_, { left := hleft, remaining := hrem, hold := rfl, checked := hchecked
                target := htarget, ledger := hentries ▸ hledger, balance := hmoved
                frame := ?_ }⟩, rfl⟩
  rw [hb₃]
  rfl

theorem settleOrder_credit {plan : PaymentPlan} {o' : Order} (hm : req.method = .credit)
    (h : b.settleOrder o req plan = .ok (b', o')) :
    b.Sold o req plan b' ∧ o' = { o with status := plan.targetState } := by
  unfold settleOrder settleHold convertHold settleBalance at h
  simp only [if_pos hm, bind_eq_ok, dbError_eq_ok, pure_eq_ok, Prod.mk.injEq, updateHold_eq_ok,
    Except.ok.injEq] at h
  obtain ⟨b₁, ⟨-, rfl⟩, ⟨b₂, o₂⟩, htrans, b₃, hbal, rfl, rfl⟩ := h
  obtain ⟨hledger, rfl, htarget, hb₂⟩ := applyPaymentTransitionForLocked_eq_ok htrans
  rw [LedgerSettled, if_neg (by simp [hm])] at hledger
  refine ⟨{ target := htarget, frame := ?_ }, rfl⟩
  rw [← hbal, completePending_eq plan rfl, hb₂, hledger]
  rfl

theorem settleCollection_eq_ok (h : b.settleCollection o req.amount = .ok b') :
    b.Collected o req b' := by
  unfold settleCollection postPaymentReceived at h
  rw [bind_eq_ok] at h
  obtain ⟨b₁, hpost, hbal⟩ := h
  obtain ⟨m, n, hm, hn, rfl⟩ := postTransaction_pair hpost
  obtain ⟨hmoved, hb'⟩ := applyOutstandingBalanceDelta_frame hbal
  rw [hb']
  exact { ledger := ⟨m, n, hm, hn, rfl⟩, balance := hmoved, frame := rfl }

/-! ## The request as a whole -/

/-- The request is answered by a live row that already carries its key. -/
structure Replayed (b : Books) (orderId : String) (req : PaymentRequest)
    (res : CanonicalPaymentResult) : Prop where
  found : b.getByIdempotencyKey req.idempotencyKey = some res.paymentRecord
  same : samePaymentRequest res.paymentRecord orderId req = true
  order : res.order ∈ b.orders
  orderId : res.order.id = res.paymentRecord.orderId
  replayed : res.replayed = true

/-- The request is executed on its order. -/
structure Executed (b : Books) (ctx : InsertContext) (o : Order) (req : PaymentRequest)
    (plan : PaymentPlan) (row : Payment) (inserted b' : Books) (res : CanonicalPaymentResult) :
    Prop where
  positive : 0 < req.amount
  checked : b.Settlement o req plan ∨ b.Collection o req plan
  insert : b.Inserted ctx o req plan row inserted
  settle : inserted.settlePayment o req plan = .ok (b', res.order)
  replayed : res.replayed = false
  record : res.paymentRecord = (b'.getPaymentById row.id).getD row

theorem replayOrConflict_eq_ok {existing : Payment} {res : CanonicalPaymentResult}
    (ho : o ∈ b.orders) (hfind : b.getByIdempotencyKey req.idempotencyKey = some existing)
    (h : replayOrConflict o existing req = .ok res) : b.Replayed o.id.text req res := by
  unfold replayOrConflict at h
  simp only [bind_eq_ok, refuseIf_eq_ok, exists_unit_ok, exists_const, pure_eq_ok, not_not,
    Bool.not_eq_false] at h
  obtain ⟨hsame, -, -, rfl⟩ := h
  have hid : existing.orderId = o.id := by
    unfold samePaymentRequest at hsame
    simp only [Bool.and_eq_true, decide_eq_true_eq] at hsame
    exact Uuid.text_inj.mp hsame.1.1.1
  exact { found := hfind, same := hsame, order := ho, orderId := hid.symm, replayed := rfl }

/-- The lock-free fast path answers with the row it found. -/
theorem fastReplay_eq_ok {orderId : String} {res : CanonicalPaymentResult}
    (h : b.fastReplay orderId req = .ok (some res)) : b.Replayed orderId req res := by
  unfold fastReplay at h
  split at h
  · next existing hfind =>
    split at h
    · next hsame =>
      simp only [bind_eq_ok, pure_eq_ok, exists_unit_ok, Option.some.injEq] at h
      obtain ⟨-, r, hr, rfl⟩ := h
      unfold replayResult at hr
      simp only [bind_eq_ok, orRefuse_eq_ok, refuseIf_eq_ok, exists_const, pure_eq_ok] at hr
      obtain ⟨o, ho, -, rfl⟩ := hr
      obtain ⟨hmem, hid, -⟩ := liveOrder?_eq_some.mp ho
      exact { found := hfind, same := hsame, order := hmem, orderId := hid, replayed := rfl }
    · simp at h
  · simp at h

/-- An accepted request on a locked order. A failed insert is only ever answered by a row with
the request's key, and that key is known to be new, so it is never answered. -/
theorem confirmPaymentForLockedOrder_eq_ok {ctx : InsertContext} {res : CanonicalPaymentResult}
    (ho : o ∈ b.orders) (hlive : o.isDeleted = false) (h : b.confirmPaymentForLockedOrder ctx o req = .ok (b', res)) :
    b' = b ∧ b.Replayed o.id.text req res ∨
      ∃ plan row inserted, b.getByIdempotencyKey req.idempotencyKey = none ∧
        b.Executed ctx o req plan row inserted b' res := by
  unfold confirmPaymentForLockedOrder raiseInvalidAmount at h
  simp only [bind_eq_ok, refuseIf_eq_ok, exists_const, not_le] at h
  obtain ⟨hpos, h⟩ := h
  split at h
  · next existing hfind =>
    simp only [bind_eq_ok, pure_eq_ok, Prod.mk.injEq] at h
    obtain ⟨r, hr, rfl, rfl⟩ := h
    exact .inl ⟨rfl, replayOrConflict_eq_ok ho hfind hr⟩
  · next hnew =>
    rw [bind_eq_ok] at h
    obtain ⟨plan, hplan, h⟩ := h
    unfold writePayment at h
    split at h
    · simp only [bind_eq_ok, pure_eq_ok, Prod.mk.injEq] at h
      obtain ⟨r, hr, rfl, rfl⟩ := h
      unfold classifyPaymentInsertRace at hr
      split at hr
      · split at hr <;> simp at hr
      · simp [hnew] at hr
      · simp at hr
    · next inserted row hins =>
      simp only [bind_eq_ok, pure_eq_ok, Prod.mk.injEq] at h
      obtain ⟨⟨settled, o'⟩, hsettle, rfl, rfl⟩ := h
      exact .inr ⟨plan, row, inserted, hnew,
        { positive := hpos, checked := paymentPlan_eq_ok (Table.find?_key ho) hlive hplan
          insert := insertPayment_eq_ok hins, settle := hsettle, replayed := rfl, record := rfl }⟩

/-- An execution is a settlement by tender, a credit sale or a collection. -/
theorem Executed.cases {ctx : InsertContext} {plan : PaymentPlan} {row : Payment}
    {inserted : Books} {res : CanonicalPaymentResult}
    (h : b.Executed ctx o req plan row inserted b' res) :
    (b.Settlement o req plan ∧ req.method ≠ .credit ∧
        (∃ hold', inserted.Tendered o req plan hold' b') ∧
        res.order = { o with status := plan.targetState }) ∨
      (b.Settlement o req plan ∧ req.method = .credit ∧ inserted.Sold o req plan b' ∧
        res.order = { o with status := plan.targetState }) ∨
      (b.Collection o req plan ∧ inserted.Collected o req b' ∧ res.order = o) := by
  have hsettle := h.settle
  rw [settlePayment, mapError_eq_ok] at hsettle
  rcases h.checked with hs | hc
  · rw [hs.isCreditCollection, if_neg Bool.false_ne_true] at hsettle
    by_cases hm : req.method = .credit
    · exact .inr (.inl ⟨hs, hm, settleOrder_credit hm hsettle⟩)
    · exact .inl ⟨hs, hm, settleOrder_tender hm hsettle⟩
  · rw [hc.isCreditCollection, if_pos rfl] at hsettle
    simp only [bind_eq_ok, pure_eq_ok, Prod.mk.injEq] at hsettle
    obtain ⟨b₁, hcollect, rfl, ho'⟩ := hsettle
    exact .inr (.inr ⟨hc, settleCollection_eq_ok hcollect, ho'.symm⟩)

/-- An accepted payment request: a replay that writes nothing, or an execution on the order the
text names. -/
theorem confirmPayment_eq_ok {ctx : InsertContext} {orderId : String}
    {res : CanonicalPaymentResult} (h : b.confirmPayment ctx orderId req = .ok (b', res)) :
    (b' = b ∧ ∃ text, b.Replayed text req res) ∨
      ∃ o plan row inserted, Uuid.parse orderId = some o.id ∧ o ∈ b.orders ∧
        o.isDeleted = false ∧ b.getByIdempotencyKey req.idempotencyKey = none ∧
        b.Executed ctx o req plan row inserted b' res := by
  unfold confirmPayment raiseInvalidAmount at h
  simp only [bind_eq_ok, refuseIf_eq_ok, exists_const] at h
  obtain ⟨-, fast, hfast, h⟩ := h
  cases fast with
  | some r =>
    simp only [pure_eq_ok, Prod.mk.injEq] at h
    obtain ⟨rfl, rfl⟩ := h
    exact .inl ⟨rfl, orderId, fastReplay_eq_ok hfast⟩
  | none =>
    simp only [bind_eq_ok] at h
    obtain ⟨o, ho, h⟩ := h
    unfold lockOrderForPayment at ho
    rw [orRefuse_eq_ok, Option.bind_eq_some_iff] at ho
    obtain ⟨id, hparse, hlive⟩ := ho
    obtain ⟨hmem, rfl, hdel⟩ := liveOrder?_eq_some.mp hlive
    rcases confirmPaymentForLockedOrder_eq_ok hmem hdel h with ⟨rfl, hr⟩ | ⟨plan, row, inserted, hnew, hx⟩
    · exact .inl ⟨rfl, _, hr⟩
    · exact .inr ⟨o, plan, row, inserted, hparse, hmem, hdel, hnew, hx⟩

end Books

/-! ## The route -/

/-- A key that passes the route fits its column. -/
theorem validateIdempotencyKey_length {header : Option String} {key : String}
    (h : validateIdempotencyKey header = .ok key) : key.length ≤ 64 := by
  unfold validateIdempotencyKey at h
  simp only [bind_eq_ok, refuseIf_eq_ok, exists_const, pure_eq_ok, not_not] at h
  obtain ⟨-, hlen, -, -, rfl⟩ := h
  exact hlen.2

end Mpango
