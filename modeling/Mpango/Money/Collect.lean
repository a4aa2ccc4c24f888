import Mpango.Money.Receivables

/-!
# Collecting on a credit sale

While an order is paid, a collection that stays within what is owed is accepted and comes off the
balance. Once the order is fulfilled or returned the canonical service takes the other branch, and
no payment on it is accepted any more, although what is owed stays on the balance.
-/

namespace Mpango

open Decimal

/-- Nothing in the request has been used before, and it wants no receipt: the generated key is
new, the idempotency key has passed the route and is on no payment, and neither the reference nor
what the column would keep of it is on one. -/
structure FreshRequest (b : Books) (ctx : InsertContext) (req : PaymentRequest) : Prop where
  id : b.payments.find? ctx.newId = none
  validated : ∃ header, validateIdempotencyKey header = .ok req.idempotencyKey
  key : ∀ p ∈ b.payments, p.idempotencyKey ≠ req.idempotencyKey
  reference : ∀ t, req.transactionId = some t → ∀ p ∈ b.payments,
    p.transactionId ≠ some t ∧ p.transactionId ≠ varchar 128 t
  receipt : req.allocateReceipt = false

/-- The transaction reference of the request fits its column. -/
def PaymentRequest.ReferenceFits (req : PaymentRequest) : Prop :=
  ∀ t, req.transactionId = some t → (varchar 128 t).isSome = true

namespace Books

variable {tenantId w r : Uuid} {base z : ℤ} {b b' : Books} {o : Order} {req : PaymentRequest}
  {ctx : InsertContext} {plan : PaymentPlan}

/-! ## The plan of a collection -/

/-- An order with something left to collect is past its credit sale. -/
theorem status_of_uncollected (hs : b.Sound tenantId) (ho : o ∈ b.orders)
    (howed : b.methodCents o.id [.cash, .transfer] < b.methodCents o.id [.credit]) :
    (o.status = .paid ∨ o.status = .fulfilled ∨ o.status = .returned) ∧
      ∃ hold, b.creditHolds.find? o.id = some hold ∧ hold.status = .converted ∧
        hold.amount = o.totalAmount ∧ hold.remainingAmount = .zero ∧
        b.countOrderPayments o.id .credit = 1 ∧
        b.methodCents o.id [.credit] = o.totalAmount.unscaled := by
  have hnn := (hs.validHistory ho).methodCents_nonneg [.cash, .transfer]
  have hnocredit : b.orderPayments o.id [.credit] = [] → False := by
    intro hnil
    have hzero : b.methodCents o.id [.credit] = 0 := by
      unfold methodCents
      rw [hnil]
      rfl
    omega
  have hpaid : PaidShape b o → ∃ hold, b.creditHolds.find? o.id = some hold ∧
      hold.status = .converted ∧ hold.amount = o.totalAmount ∧ hold.remainingAmount = .zero ∧
      b.countOrderPayments o.id .credit = 1 ∧
      b.methodCents o.id [.credit] = o.totalAmount.unscaled := by
    rintro (⟨-, hnil, -⟩ | ⟨⟨hold, hf, hconv, hamt, hrem⟩, ⟨p, hp, hpamt⟩, -⟩)
    · exact absurd hnil hnocredit
    · refine ⟨hold, hf, hconv, hamt, hrem, ?_, ?_⟩
      · show (b.orderPayments o.id [.credit]).length = 1
        rw [hp]
        rfl
      · unfold methodCents
        rw [hp, List.map_singleton, List.sum_singleton, hpamt]
  have hshape := (hs.accounts o ho).shape.lifecycleShape
  unfold LifecycleShape at hshape
  cases hst : o.status <;> simp only [hst] at hshape
  case draft | voided | confirmed | cancelled => exact absurd hshape.2.2 hnocredit
  case partiallyPaid => exact absurd hshape.2 hnocredit
  case paid => exact ⟨.inl rfl, hpaid hshape⟩
  case fulfilled => exact ⟨.inr (.inl rfl), hpaid hshape⟩
  case returned => exact ⟨.inr (.inr rfl), hpaid hshape⟩

/-- What is left to collect is what the account owes. -/
theorem owed_of_uncollected (hs : b.Sound tenantId) (ho : o ∈ b.orders)
    (howed : b.methodCents o.id [.cash, .transfer] < b.methodCents o.id [.credit]) :
    (b.account o).owed = b.methodCents o.id [.credit] - b.methodCents o.id [.cash, .transfer] := by
  obtain ⟨-, _, -, -, -, -, hcount, -⟩ := status_of_uncollected hs ho howed
  rw [account_owed, if_pos (by omega)]

/-- On a paid order a collection within what is owed passes every check. -/
theorem paymentPlan_of_uncollected (hs : b.Sound tenantId) (ho : o ∈ b.orders)
    (hst : o.status = .paid) (hm : req.method ≠ .credit) (hz : req.amount = scaled 2 z)
    (hpos : 0 < z)
    (hle : z ≤ b.methodCents o.id [.credit] - b.methodCents o.id [.cash, .transfer])
    (hfresh : FreshRequest b ctx req) :
    ∃ plan, b.paymentPlan o req = .ok plan ∧ plan.isCreditCollection = true := by
  obtain ⟨-, hold, hf, hconv, hamt, hrem, hcount, hcredit⟩ :=
    status_of_uncollected hs ho (by omega)
  have hnn := (hs.validHistory ho).methodCents_nonneg [.cash, .transfer]
  have hbound := o.totalAmount.bound
  have hhistory : b.assertValidPaymentHistory [o.id] "Payment write path" = .ok () :=
    (assertValidPaymentHistory_single (Table.find?_key ho) (hs.live o ho)).mpr
      (hs.validHistory ho)
  have hstate : b.checkState o req = .ok (.paid, true) := by
    have hcheck : b.checkCollection o req = .ok () := by
      unfold checkCollection
      simp only [bind_eq_ok, refuseIf_eq_ok, exists_const, getOrderMethodTotal_eq]
      rw [sub_scaled (by unfold contextPrecision; omega), hz]
      refine ⟨hm, fun h => ?_, ?_, ?_⟩
      · rw [scaled_neg_iff] at h
        omega
      · rw [scaled_nonpos]
        omega
      · rw [scaled_lt_scaled]
        omega
    unfold checkState
    rw [if_pos hst, hcheck]
    rfl
  have hreference : b.checkTransferReference req = .ok () := by
    unfold checkTransferReference
    cases ht : orNone req.transactionId with
    | none => rfl
    | some t =>
      have htr : req.transactionId = some t := (Option.filter_eq_some_iff.mp ht).1
      have hnone : b.getByTransactionId t = none := by
        rw [getByTransactionId_eq_none]
        intro p hp hpt
        exact absurd hpt (hfresh.reference t htr p hp).1
      simp [hnone]
  have hhold : b.verifyCollectionHold o = .ok hold := by
    unfold verifyCollectionHold
    simp only [bind_eq_ok, orRefuse_eq_ok, refuseIf_eq_ok, exists_const, pure_eq_ok, ne_eq,
      not_not, getOrderMethodTotal_eq]
    exact ⟨hold, by simp [hf, hconv], by simp [hrem, Numeric.toDecimal], by rw [hamt],
      by rw [hcredit]; rfl, hcount, rfl⟩
  refine ⟨⟨.paid, true, hold, .completed⟩, ?_, rfl⟩
  unfold paymentPlan
  simp [hhistory, hstate, hreference, hhold]

/-! ## The writes of a collection -/

/-- A fresh request whose reference fits is inserted. -/
theorem insertPayment_of_fresh (hz : req.amount = scaled 2 z) (hbound : z.natAbs < 10 ^ 12)
    (hfresh : FreshRequest b ctx req) (hfits : req.ReferenceFits) :
    ∃ inserted row, b.insertPayment ctx o req plan = .ok (inserted, row) := by
  obtain ⟨header, hheader⟩ := hfresh.validated
  have hkey := varchar_of_le (validateIdempotencyKey_length hheader)
  have hamount : storeMoney req.amount = .ok ⟨z, hbound⟩ := by
    rw [hz]
    exact storeMoney_scaled.mpr rfl
  have hreference : ∃ stored, storeTransactionId req.transactionId = .ok stored ∧
      (stored = none ∨ ∀ p ∈ b.payments, p.transactionId ≠ stored) := by
    cases ht : req.transactionId with
    | none => exact ⟨none, rfl, .inl rfl⟩
    | some t =>
      obtain ⟨stored, hstored⟩ := Option.isSome_iff_exists.mp (hfits t ht)
      refine ⟨some stored, by simp [storeTransactionId, hstored], .inr fun p hp => ?_⟩
      exact hstored ▸ (hfresh.reference t ht p hp).2
  obtain ⟨stored, hstore, hunused⟩ := hreference
  have hreceipt : b.receiptForInsert ctx req plan = .ok (b, none) := by
    unfold receiptForInsert
    rw [if_neg (by simp [hfresh.receipt])]
  let row : Payment :=
    { id := ctx.newId, orderId := o.id, retailerId := o.retailerId, transactionId := stored
      idempotencyKey := req.idempotencyKey, amount := ⟨z, hbound⟩, method := req.method
      status := plan.paymentStatus, receiptNumber := none, isDeleted := false }
  have hviol : b.paymentUniqueViolation? row = none :=
    paymentUniqueViolation?_eq_none.mpr ⟨hfresh.id, hfresh.key, hunused, .inl rfl⟩
  obtain ⟨payments, hins⟩ : ∃ payments, b.payments.insert? row = some payments :=
    Table.exists_insert? hfresh.id
  refine ⟨{ b with payments }, row, ?_⟩
  unfold insertPayment
  rw [hreceipt, ok_bind]
  refine createPayment_eq_ok.mpr ⟨paymentRow_eq_ok.mpr ?_, hviol, payments, hins, rfl⟩
  exact ⟨stored, req.idempotencyKey, ⟨z, hbound⟩, hstore, hkey, hamount, rfl⟩

/-- A collection the balance covers is posted and comes off it. -/
theorem settleCollection_of_covered {row : Binding} (hbound : z.natAbs < 10 ^ 12) (hpos : 0 < z)
    (hrow : b.liveBinding? o.wholesalerId o.retailerId = some row)
    (hle : z ≤ row.outstandingBalance.unscaled) :
    ∃ b' m, b.settleCollection o (scaled 2 z) = .ok b' ∧
      b'.bindings = b.bindings.set { row with outstandingBalance := m } ∧
      m.unscaled = row.outstandingBalance.unscaled - z := by
  let amount : Money := ⟨z, hbound⟩
  obtain ⟨m₁, m₂, -, -, hpost⟩ :=
    b.postTransaction_money .cash .receivable amount .order o.id
  set posted : Books := { b with ledgerEntries := b.ledgerEntries ++
    [⟨.cash, m₁, .order, o.id⟩, ⟨.receivable, m₂, .order, o.id⟩] } with hposted
  have hb := row.outstandingBalance.bound
  let m : Money := ⟨row.outstandingBalance.unscaled - z, by omega⟩
  have hneg : Decimal.neg (scaled 2 z) = scaled 2 (-z) :=
    neg_scaled_eq (by unfold contextPrecision; omega)
  have hupdate : posted.updateOutstandingBalance o.wholesalerId o.retailerId (scaled 2 (-z)) false =
      .ok (some { posted with bindings := b.bindings.set { row with outstandingBalance := m } }) := by
    rw [updateOutstandingBalance_eq_some]
    refine ⟨row, m, hrow, by simp, ?_, ?_, rfl⟩
    · rw [Numeric.toDecimal, scaled_add_scaled, scaled_nonneg]
      omega
    · rw [Numeric.toDecimal, scaled_add_scaled, storeMoney_scaled]
      rfl
  refine ⟨{ posted with bindings := b.bindings.set { row with outstandingBalance := m } }, m, ?_,
    rfl, rfl⟩
  unfold settleCollection postPaymentReceived
  rw [bind_eq_ok]
  refine ⟨posted, hpost, ?_⟩
  rw [hneg]
  exact applyOutstandingBalanceDelta_eq_ok.mpr hupdate

/-! ## Acceptance -/

/-- The request is accepted and takes its cents off the pair's balance. -/
def CollectedFrom (b : Books) (ctx : InsertContext) (orderId : String) (req : PaymentRequest)
    (w r : Uuid) (cents : ℤ) : Prop :=
  ∃ b' res row row', b.confirmPayment ctx orderId req = .ok (b', res) ∧
    b.bindings.find? (w, r) = some row ∧ b'.bindings.find? (w, r) = some row' ∧
    row'.outstandingBalance.unscaled = row.outstandingBalance.unscaled - cents

/-- A fresh request is never a replay. -/
theorem fastReplay_of_fresh {orderId : String} (hfresh : FreshRequest b ctx req) :
    b.getByIdempotencyKey req.idempotencyKey = none ∧ b.fastReplay orderId req = .ok none := by
  have hnone : b.getByIdempotencyKey req.idempotencyKey = none := by
    rw [getByIdempotencyKey_eq_none]
    intro p hp hk
    exact absurd hk (hfresh.key p hp)
  refine ⟨hnone, ?_⟩
  unfold fastReplay
  rw [hnone]

theorem collectedFrom_of_paid {orderId : String} (hs : b.Sound tenantId) (hbase : 0 ≤ base)
    (hb : b.Balanced w r base) (ho : o ∈ b.orders) (hp : o.OfPair w r)
    (hparse : Uuid.parse orderId = some o.id) (hm : req.method ≠ .credit)
    (hz : req.amount = scaled 2 z) (hpos : 0 < z)
    (hle : z ≤ b.methodCents o.id [.credit] - b.methodCents o.id [.cash, .transfer])
    (hfresh : FreshRequest b ctx req) (hst : o.status = .paid) (hfits : req.ReferenceFits) :
    b.CollectedFrom ctx orderId req w r z := by
  obtain ⟨plan, hplan, hcollection⟩ := paymentPlan_of_uncollected hs ho hst hm hz hpos hle hfresh
  have hzbound : z.natAbs < 10 ^ 12 := by
    have hnn := (hs.validHistory ho).methodCents_nonneg [.cash, .transfer]
    have := (totals_bounded hs ho).2.1
    omega
  obtain ⟨inserted, row, hins⟩ : ∃ inserted row, b.insertPayment ctx o req plan =
      .ok (inserted, row) := insertPayment_of_fresh hz hzbound hfresh hfits
  have hbindings : inserted.bindings = b.bindings := by
    rw [(insertPayment_eq_ok hins).frame]
  -- the balance covers the collection
  obtain ⟨binding, hfind, hlive, hbal⟩ := id hb
  have hrow : b.liveBinding? w r = some binding := liveBinding?_eq_some.mpr ⟨hfind, hlive⟩
  have hcover := hb.covers hs hbase ho hp hrow
  have hle' := paymentPlan_le_exposure hs ho hz hplan
  obtain ⟨rfl, rfl⟩ := hp
  rw [← liveBinding?_congr hbindings] at hrow
  obtain ⟨b', m, hsettle, hset, hmoved⟩ :=
    settleCollection_of_covered hzbound hpos hrow (hle'.trans hcover)
  obtain ⟨hnew, hfast⟩ : b.getByIdempotencyKey req.idempotencyKey = none ∧
      b.fastReplay orderId req = .ok none := fastReplay_of_fresh hfresh
  have hamount : raiseInvalidAmount req.amount = .ok () := by
    rw [raiseInvalidAmount, refuseIf_eq_ok, hz, scaled_nonpos]
    omega
  have hlock : b.lockOrderForPayment orderId = .ok o := by
    rw [lockOrderForPayment, orRefuse_eq_ok, hparse, Option.bind_some]
    exact liveOrder?_eq_some.mpr ⟨ho, rfl, hs.live o ho⟩
  have hpayment : inserted.settlePayment o req plan = .ok (b', o) := by
    rw [settlePayment, mapError_eq_ok, if_pos hcollection, hz, hsettle]
    rfl
  refine ⟨b', ⟨o, (b'.getPaymentById row.id).getD row, false⟩, binding,
    { binding with outstandingBalance := m }, ?_, hfind, ?_, hmoved⟩
  · unfold confirmPayment confirmPaymentForLockedOrder writePayment
    simp only [hamount, hfast, hlock, hnew, hplan, hins, hpayment, ok_bind]
    rfl
  · rw [hset, hbindings]
    have hkey := Table.key_of_find? hfind
    rw [← hkey] at hfind ⊢
    exact Table.find?_set_self (r := { binding with outstandingBalance := m }) hfind

/-- What is accepted while something is left to collect is a collection on a paid order, and its
reference has fit. -/
theorem CollectedFrom.paid {orderId : String} (hs : b.Sound tenantId) (ho : o ∈ b.orders)
    (hparse : Uuid.parse orderId = some o.id)
    (howed : b.methodCents o.id [.cash, .transfer] < b.methodCents o.id [.credit])
    (hfresh : FreshRequest b ctx req) (h : b.CollectedFrom ctx orderId req w r z) :
    o.status = .paid ∧ req.ReferenceFits := by
  obtain ⟨b', res, -, -, hok, -⟩ := h
  obtain ⟨hnew, -⟩ : b.getByIdempotencyKey req.idempotencyKey = none ∧
      b.fastReplay orderId req = .ok none := fastReplay_of_fresh hfresh
  rcases confirmPayment_eq_ok hok with ⟨-, text, hreplay⟩ | ⟨x, plan, row, inserted, hparse', hx,
    hdel, -, hexec⟩
  · have hfound := hreplay.found
    rw [hnew] at hfound
    simp at hfound
  · have hid : x.id = o.id := Option.some.inj (hparse'.symm.trans hparse)
    obtain rfl : x = o := Table.eq_of_key_eq hx ho hid
    constructor
    · obtain ⟨hst, -⟩ := status_of_uncollected hs ho howed
      rcases hexec.checked with hset | hcol
      · -- a settlement needs an open order
        have hopen := hset.status
        rcases hst with hst | hst | hst <;> simp [hst] at hopen
      · exact hcol.status
    · intro t ht
      have hstore := hexec.insert.transactionId
      rw [ht] at hstore
      simp only [storeTransactionId, bind_eq_ok, orRefuse_eq_ok] at hstore
      obtain ⟨stored, hstored, -⟩ := hstore
      simp [hstored]

end Books

/-! ## Every reachable state -/

/-- **Collecting.** In every state reached in whole cents and for every order with something left
to collect, a fresh collection of at most that much is accepted, and takes its cents off the
balance, exactly when the order is still paid and the reference fits its column. -/
theorem collectedFrom_iff {db : Db} {cs : List Command} {o : Order} {ctx : InsertContext}
    {orderId : String} {req : PaymentRequest} {z : ℤ} (hfresh : db.Fresh)
    (hcs : ∀ c ∈ cs, c.WholeCent) (ho : o ∈ (run execute db cs).books.orders)
    (hparse : Uuid.parse orderId = some o.id) (hmethod : req.method ≠ .credit)
    (hz : req.amount = scaled 2 z) (hpos : 1 ≤ z)
    (hle : z ≤ (run execute db cs).books.methodCents o.id [.credit] -
      (run execute db cs).books.methodCents o.id [.cash, .transfer])
    (hreq : FreshRequest (run execute db cs).books ctx req) :
    (run execute db cs).books.CollectedFrom ctx orderId req o.wholesalerId o.retailerId z ↔
      o.status = .paid ∧ req.ReferenceFits := by
  obtain ⟨hs, -⟩ := run_books (P := fun _ => True) (fun _ _ _ _ _ _ => trivial) hfresh.sound
    trivial hcs
  constructor
  · intro h
    exact h.paid hs ho hparse (by omega) hreq
  · rintro ⟨hst, hfits⟩
    rcases hfresh.run_balanced_or_unbound o.wholesalerId o.retailerId hcs with
      ⟨base, hbase, hb⟩ | hzero
    · exact Books.collectedFrom_of_paid hs hbase hb ho ⟨rfl, rfl⟩ hparse hmethod hz hpos hle hreq
        hst hfits
    · -- something is owed, so something is occupied
      have hexp := Books.exposure_le hs ho ⟨rfl, rfl⟩
      have hheld := (hs.accounts o ho).held_nonneg
      have howed := Books.owed_of_uncollected hs ho (by omega)
      unfold Account.exposure at hexp
      omega

/-- An order of 5.00 sold on credit, nothing of it collected. -/
def soldRun : List Command := soldAndFulfilledRun.take 3

/-- A cash collection of 2.00 on it. -/
def sampleCollection : PaymentRequest := samplePayment (scaled 2 200) .cash none "pay-0002"

theorem collectedFrom_soldRun :
    ∃ o ∈ (run execute (sampleTenant 10000) soldRun).books.orders,
      ((run execute (sampleTenant 10000) soldRun).books.CollectedFrom ⟨201, sampleDay⟩
          (Uuid.text o.id) sampleCollection o.wholesalerId o.retailerId 200 ↔
        o.status = .paid ∧ sampleCollection.ReferenceFits) ∧ o.status = .paid := by
  obtain ⟨o, ho, hpaid, howed⟩ :
      ∃ o ∈ (run execute (sampleTenant 10000) soldRun).books.orders.rows,
        o.status = .paid ∧ 200 ≤ (run execute (sampleTenant 10000) soldRun).books.methodCents o.id [.credit] -
          (run execute (sampleTenant 10000) soldRun).books.methodCents o.id [.cash, .transfer] := by
    decide +kernel
  have hreq : FreshRequest (run execute (sampleTenant 10000) soldRun).books ⟨201, sampleDay⟩
      sampleCollection :=
    { id := by decide +kernel, validated := ⟨some "pay-0002", by decide +kernel⟩
      key := by decide +kernel, reference := nofun, receipt := rfl }
  exact ⟨o, ho, collectedFrom_iff (sampleTenant_fresh (by decide))
    (fun c hc => soldAndFulfilledRun_wholeCent c (List.mem_of_mem_take hc)) ho
    (Uuid.parse_text o.id) nofun rfl (by decide) howed hreq, hpaid⟩

/-- Fulfilled, the order still owes its 5.00, and the same collection is refused. -/
theorem collection_refused_soldAndFulfilledRun :
    (run execute (sampleTenant 10000) soldAndFulfilledRun).books.methodCents 50 [.credit] -
        (run execute (sampleTenant 10000) soldAndFulfilledRun).books.methodCents 50
          [.cash, .transfer] = 500 ∧
      FreshRequest (run execute (sampleTenant 10000) soldAndFulfilledRun).books
        ⟨201, sampleDay⟩ sampleCollection ∧
      ¬(run execute (sampleTenant 10000) soldAndFulfilledRun).books.CollectedFrom
        ⟨201, sampleDay⟩ (Uuid.text 50) sampleCollection 1 2 200 := by
  refine ⟨by decide +kernel, ?_, ?_⟩
  · exact
      { id := by decide +kernel, validated := ⟨some "pay-0002", by decide +kernel⟩
        key := by decide +kernel, reference := nofun, receipt := rfl }
  · rintro ⟨b', res, row, row', hok, -⟩
    have hrefused : (run execute (sampleTenant 10000)
        soldAndFulfilledRun).books.confirmPayment ⟨201, sampleDay⟩ (Uuid.text 50)
          sampleCollection =
        .error (.conflict .invalidStateTransition
          "Order must be confirmed or partially_paid before payment") :=
      by decide +kernel
    rw [hrefused] at hok
    simp at hok

end Mpango
