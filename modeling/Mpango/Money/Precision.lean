import Mpango.Money.Lifecycle
import Mpango.Spec.Execution

/-!
# Amounts with more than two decimals

A payment may be requested with any number of decimals, while the row, the hold and the balance
are rounded to cents, each on its own. The books stay consistent, and the request can be sent
again, exactly when nothing is rounded and every text is kept as it was given
(`payOrder_consistent_iff`). Nothing is assumed of the payments before: the checks in front of the
first write refuse an order whose books are already off.
-/

namespace Mpango

open Decimal

namespace Books

variable {b b' inserted : Books} {o : Order} {req : PaymentRequest} {plan : PaymentPlan}
  {row : Payment} {ctx : InsertContext} {res : CanonicalPaymentResult} {orderId : String}

/-! ## Sending the request again -/

/-- The same request, after its execution, is a replay if the stored row repeats it, and a
conflict otherwise. -/
theorem Executed.resent (ho : o ∈ b.orders) (hlive : o.isDeleted = false)
    (h : b.Executed ctx o req plan row inserted b' res) (hkey : req.idempotencyKey.length ≤ 64)
    (hreceipt : req.allocateReceipt = false) (ctx' : InsertContext) :
    b'.confirmPayment ctx' orderId req =
      if samePaymentRequest res.paymentRecord orderId req then
        .ok (b', ⟨res.order, res.paymentRecord, true⟩)
      else .error idempotencyConflict := by
  have hamount : raiseInvalidAmount req.amount = .ok () := by
    rw [raiseInvalidAmount, refuseIf_eq_ok, not_le]
    exact h.positive
  unfold confirmPayment fastReplay
  rw [hamount, ok_bind, h.found hkey]
  dsimp only
  by_cases hsame : samePaymentRequest res.paymentRecord orderId req = true
  · rw [if_pos hsame, if_pos hsame]
    obtain ⟨⟨status, hrec⟩, -, -⟩ := h.record_eq
    obtain ⟨hmem, hid, hdel, -, hret, -⟩ := h.order_mem ho hlive
    have horder : res.paymentRecord.orderId = res.order.id := by
      rw [hrec, hid]
      exact h.insert.orderId
    have hretailer : res.paymentRecord.retailerId = res.order.retailerId := by
      rw [hrec, hret]
      exact h.insert.retailerId
    have hstored : b'.liveOrder? res.paymentRecord.orderId = some res.order :=
      liveOrder?_eq_some.mpr ⟨hmem, horder.symm, hdel⟩
    have hreplay : b'.replayResult res.paymentRecord =
        .ok ⟨res.order, res.paymentRecord, true⟩ := by
      unfold replayResult
      rw [hstored, orRefuse_some, ok_bind, refuseIf_neg (not_not.mpr hretailer)]
      rfl
    rw [enforceReceiptOnReplay, refuseIf_neg (by simp [hreceipt]), ok_bind, hreplay]
    rfl
  · rw [if_neg hsame, if_neg hsame]
    rfl

/-- A stored transaction reference reads like the one that was given exactly when that one
fits. -/
theorem orNone_stored {given stored : Option String}
    (h : storeTransactionId given = .ok stored) :
    orNone stored = orNone given ↔ ∀ t, given = some t → t.length ≤ 128 := by
  cases given with
  | none =>
    have hnone : none = stored := Except.ok.inj h
    rw [← hnone]
    exact ⟨nofun, fun _ => rfl⟩
  | some t =>
    rw [storeTransactionId, bind_eq_ok] at h
    obtain ⟨s, hs, h⟩ := h
    rw [orRefuse_eq_ok] at hs
    rw [pure_eq_ok] at h
    rw [← h]
    constructor
    · intro heq t' ht'
      obtain rfl : t = t' := Option.some.inj ht'
      rw [← varchar_eq_self_iff hs]
      by_cases ht : t = ""
      · rw [ht, varchar_of_le (Nat.zero_le 128)] at hs
        exact (Option.some.inj hs).symm.trans ht.symm
      · have hne : s ≠ "" := varchar_ne_empty (by decide) hs ht
        rw [orNone, orNone, Option.filter_some, Option.filter_some, if_pos (by simpa using hne),
          if_pos (by simpa using ht)] at heq
        exact Option.some.inj heq
    · intro hle
      rw [(varchar_eq_self_iff hs).mpr (hle t rfl)]

/-- The stored row repeats its request exactly when the request's texts and its amount were kept
as they were given. -/
theorem Executed.same_iff (h : b.Executed ctx o req plan row inserted b' res) (hparse : Uuid.parse orderId = some o.id) :
    samePaymentRequest res.paymentRecord orderId req = true ↔
      req.WholeCent ∧ (∃ id : Uuid, orderId = id.text) ∧
        ∀ t, req.transactionId = some t → t.length ≤ 128 := by
  obtain ⟨⟨status, hrec⟩, -, -⟩ := h.record_eq
  have horder : o.id.text = orderId ↔ ∃ id : Uuid, orderId = id.text := by
    constructor
    · intro heq
      exact ⟨o.id, heq.symm⟩
    · rintro ⟨id, rfl⟩
      rw [Uuid.parse_text, Option.some.injEq] at hparse
      rw [hparse]
  have hamount : row.amount.toDecimal = req.amount ↔ req.WholeCent := by
    constructor
    · intro heq
      exact ⟨row.amount.unscaled, heq.symm⟩
    · rintro ⟨z, hz⟩
      have hstored := h.insert.amount
      rw [hz, storeMoney_scaled] at hstored
      rw [hz, Numeric.toDecimal, hstored]
  have hreference := orNone_stored h.insert.transactionId
  rw [samePaymentRequest, hrec, Bool.and_eq_true, Bool.and_eq_true, Bool.and_eq_true,
    decide_eq_true_eq, decide_eq_true_eq, decide_eq_true_eq, decide_eq_true_eq, h.insert.orderId,
    h.insert.method, horder, hamount, hreference]
  constructor
  · rintro ⟨⟨⟨htext, hcent⟩, -⟩, hfits⟩
    exact ⟨hcent, htext, hfits⟩
  · rintro ⟨hcent, htext, hfits⟩
    exact ⟨⟨⟨htext, hcent⟩, rfl⟩, hfits⟩

/-! ## Consistent books -/

/-- The cents stored against an order's hold: those of the credit sale that converted it, and
otherwise those of the cash and transfer payments. -/
def settledCents (b : Books) (hold : CreditHold) : ℤ :=
  if hold.status = .converted then b.methodCents hold.orderId [.credit]
  else b.methodCents hold.orderId [.cash, .transfer]

/-- An accepted payment left consistent books: the hold keeps what is not paid, the order is paid
when everything is, payments are positive, and the balance moved by the stored amount. -/
structure Consistent (b b' : Books) (res : CanonicalPaymentResult) : Prop where
  stored : res.order ∈ b'.orders ∧ res.paymentRecord ∈ b'.payments
  hold : ∃ hold, b'.creditHolds.find? res.order.id = some hold ∧
    hold.remainingAmount.unscaled = res.order.totalAmount.unscaled - b'.settledCents hold ∧
    (res.order.status = .paid ↔ b'.settledCents hold = res.order.totalAmount.unscaled)
  positive : ∀ p ∈ b'.payments, p.orderId = res.order.id → p.isDeleted = false →
    0 < p.amount.unscaled
  balance : BalanceMoved b.bindings res.order.wholesalerId res.order.retailerId
    (-res.paymentRecord.amount.unscaled) b'.bindings

/-- The payments of a method the request does not use sum to what they did, those of its own grow
by the new row. -/
theorem Executed.methodCents (h : b.Executed ctx o req plan row inserted b' res) (methods : List PaymentMethod) :
    b'.methodCents o.id methods =
      b.methodCents o.id methods + if req.method ∈ methods then row.amount.unscaled else 0 := by
  have hsame : b'.methodAmounts o.id methods = inserted.methodAmounts o.id methods := by
    rcases h.cases with ⟨-, -, ⟨hold', ht⟩, -⟩ | ⟨-, -, ht, -⟩ | ⟨-, ht, -⟩
    · exact methodAmounts_settledPayments (by rw [ht.frame]) o.id methods
    · exact methodAmounts_settledPayments (by rw [ht.frame]) o.id methods
    · unfold methodAmounts orderPayments
      rw [ht.frame]
  show (b'.methodAmounts o.id methods).sum = (b.methodAmounts o.id methods).sum + _
  rw [hsame, h.insert.methodAmounts, List.sum_append]
  by_cases hm : req.method ∈ methods
  · rw [if_pos ⟨rfl, hm⟩, if_pos hm, List.sum_singleton]
  · rw [if_neg fun hc => hm hc.2, if_neg hm, List.sum_nil]

/-- In whole cents a cash or transfer payment leaves consistent books. -/
theorem Executed.consistent (ho : o ∈ b.orders) (hlive : o.isDeleted = false)
    (h : b.Executed ctx o req plan row inserted b' res) (hm : req.method ≠ .credit)
    (hreq : req.WholeCent) : Consistent b b' res := by
  obtain ⟨z, hz⟩ := hreq
  have hpos : 0 < z := by
    have := h.positive
    rwa [hz, scaled_pos] at this
  have hrow : row.amount.unscaled = z := by
    have := h.insert.amount
    rwa [hz, storeMoney_scaled] at this
  obtain ⟨⟨status, hrec⟩, hrecmem, hothers⟩ := h.record_eq
  obtain ⟨hordermem, hid, -, hw, hr, htotal⟩ := h.order_mem ho hlive
  have htenders := h.methodCents [.cash, .transfer]
  rw [if_pos (PaymentMethod.mem_cash_transfer.mpr hm), hrow] at htenders
  have hcredits := h.methodCents [.credit]
  rw [if_neg (by simpa using hm), add_zero] at hcredits
  -- the history was valid, and the new row is positive
  have hpositive : b.ValidHistory o → ∀ p ∈ b'.payments, p.orderId = o.id →
      p.isDeleted = false → 0 < p.amount.unscaled := by
    intro hvalid p hp hpid hplive
    rcases hothers p hp with rfl | ⟨q, hq, status', rfl⟩
    · rw [hrec]
      exact hrow.symm ▸ hpos
    · exact (hvalid q hq hpid hplive).1
  have hamount : res.paymentRecord.amount.unscaled = z := by
    rw [hrec]
    exact hrow
  rcases h.cases with ⟨hs, -, ⟨hold', ht⟩, hres⟩ | ⟨-, hcredit, -⟩ | ⟨hc, ht, hres⟩
  · have hcents := ht.cents hs hm h.insert hz hpos
    have hrem := hs.remaining
    have hopen : b'.settledCents hold' = b'.methodCents o.id [.cash, .transfer] := by
      rw [settledCents, hcents.key, hcents.status, if_neg (by split <;> simp)]
    refine
      { stored := ⟨hordermem, hrecmem⟩, hold := ⟨hold', ?_, ?_, ?_⟩
        positive := by rw [hid]; exact hpositive hs.history
        balance := by rw [hw, hr, hamount]; exact hcents.balance }
    · rw [hid]
      exact hcents.find
    · rw [hopen, htenders, htotal, hcents.remaining]
      omega
    · rw [hopen, htenders, htotal, hres]
      show plan.targetState = .paid ↔ _
      rw [hcents.target]
      split
      · exact ⟨fun _ => by omega, fun _ => rfl⟩
      · exact ⟨fun hbad => absurd hbad (by simp), fun _ => by omega⟩
  · exact absurd hcredit hm
  · have hkey : plan.hold.orderId = o.id := Table.key_of_find? hc.find
    have hsold : b'.settledCents plan.hold = o.totalAmount.unscaled := by
      rw [settledCents, if_pos hc.converted, hkey, hcredits, hc.credit]
    have hbal := ht.balance
    have hbound : z.natAbs < 10 ^ 12 := hrow ▸ row.amount.bound
    rw [hz, neg_scaled_eq (by unfold contextPrecision; omega), h.insert.frame] at hbal
    refine
      { stored := ⟨hordermem, hrecmem⟩, hold := ⟨plan.hold, ?_, ?_, ?_⟩
        positive := by rw [hid]; exact hpositive hc.history
        balance := by rw [hw, hr, hamount]; exact hbal.moved }
    · rw [hid, ht.frame, h.insert.frame]
      exact hc.find
    · rw [hsold, htotal, hc.remaining, sub_self]
    · rw [hsold, htotal, hres]
      exact ⟨fun _ => rfl, fun _ => hc.status⟩

end Books

/-! ## Every accepted payment -/

/-- The request of the route. -/
theorem Books.payOrder_eq_ok {b b' : Books} {ctx : InsertContext} {orderId : String}
    {amount : Decimal} {method : PaymentMethod} {transactionId header : Option String}
    {res : CanonicalPaymentResult} :
    b.payOrder ctx orderId amount method transactionId header = .ok (b', res) ↔
      ∃ idempotencyKey, validateIdempotencyKey header = .ok idempotencyKey ∧
        b.confirmPayment ctx orderId { amount, method, transactionId, idempotencyKey } =
          .ok (b', res) := by
  rw [payOrder, bind_eq_ok]

/-- **Precision.** After any run, an accepted cash or transfer payment leaves consistent books and
can be sent again as a replay exactly when its amount is a whole number of cents, its order is
named by the canonical text and its reference fits the column. -/
theorem payOrder_consistent_iff {db : Db} {cs : List Command} {b' : Books} {ctx : InsertContext}
    {orderId : String} {amount : Decimal} {method : PaymentMethod}
    {transactionId header : Option String} {res : CanonicalPaymentResult}
    (hok : (run execute db cs).books.payOrder ctx orderId amount method transactionId header =
      .ok (b', res)) (hnew : res.replayed = false) (hm : method ≠ .credit) :
    (Books.Consistent (run execute db cs).books b' res ∧ ∀ ctx',
        b'.payOrder ctx' orderId amount method transactionId header =
          .ok (b', ⟨res.order, res.paymentRecord, true⟩)) ↔
      (∃ cents : ℤ, amount = scaled 2 cents) ∧ (∃ id : Uuid, orderId = id.text) ∧
        ∀ t, transactionId = some t → t.length ≤ 128 := by
  obtain ⟨key, hkey, hpay⟩ := Books.payOrder_eq_ok.mp hok
  rcases Books.confirmPayment_eq_ok hpay with ⟨-, text, hreplay⟩ | ⟨o, plan, row, inserted, hparse,
    ho, hlive, -, hx⟩
  · have hbad := hreplay.replayed
    rw [hnew] at hbad
    simp at hbad
  · have hresent : ∀ ctx', b'.confirmPayment ctx' orderId _ = _ :=
      hx.resent ho hlive (validateIdempotencyKey_length hkey) rfl
    have hsame := hx.same_iff hparse
    constructor
    · rintro ⟨-, hagain⟩
      refine hsame.mp ?_
      by_contra hdiff
      obtain ⟨key', hkey', hpay'⟩ := Books.payOrder_eq_ok.mp (hagain ctx)
      obtain rfl : key = key' := Except.ok.inj (hkey.symm.trans hkey')
      rw [hresent ctx, if_neg hdiff] at hpay'
      simp at hpay'
    · intro hcond
      refine ⟨hx.consistent ho hlive hm hcond.1, fun ctx' => ?_⟩
      rw [Books.payOrder_eq_ok]
      refine ⟨key, hkey, ?_⟩
      rw [hresent ctx', if_pos (hsame.mpr hcond)]

/-- A confirmed order of 10.00. -/
def confirmedRun : List Command :=
  [.createOrder 50 2 [sampleItem 100 2], .confirmOrder 50 (some 9)]

theorem payOrder_consistent_confirmedRun :
    ∃ b' res, (run execute (sampleTenant 10000) confirmedRun).books.payOrder ⟨200, sampleDay⟩
        (Uuid.text 50) (scaled 2 400) .transfer (some "T-17") (some "pay-0001") = .ok (b', res) ∧
      res.replayed = false ∧
      ((Books.Consistent (run execute (sampleTenant 10000) confirmedRun).books b' res ∧ ∀ ctx',
          b'.payOrder ctx' (Uuid.text 50) (scaled 2 400) .transfer (some "T-17")
            (some "pay-0001") = .ok (b', ⟨res.order, res.paymentRecord, true⟩)) ↔
        (∃ cents : ℤ, scaled 2 400 = scaled 2 cents) ∧ (∃ id : Uuid, Uuid.text 50 = id.text) ∧
          ∀ t, some "T-17" = some t → t.length ≤ 128) := by
  obtain ⟨⟨b', res⟩, hok, hnew⟩ : ∃ x, (run execute (sampleTenant 10000)
      confirmedRun).books.payOrder ⟨200, sampleDay⟩ (Uuid.text 50) (scaled 2 400) .transfer
        (some "T-17") (some "pay-0001") = .ok x ∧ x.2.replayed = false :=
    exists_ok_of_any (by decide +kernel)
  exact ⟨b', res, hok, hnew, payOrder_consistent_iff hok hnew nofun⟩

/-- A cash payment of 4.005 is stored as 4.01 and leaves a hold of 6.00 and a balance of 6.00, and
the same request sent again is refused as a conflict. -/
theorem payOrder_inconsistent_confirmedRun :
    ∃ b' res, (run execute (sampleTenant 10000) confirmedRun).books.payOrder ⟨200, sampleDay⟩
        (Uuid.text 50) (scaled 3 4005) .cash none (some "pay-0001") = .ok (b', res) ∧
      res.replayed = false ∧ res.paymentRecord.amount = .ofCents 401 ∧
      b'.creditHolds.find? 50 = some ⟨50, .ofCents 1000, .ofCents 600, .active⟩ ∧
      b'.bindings.find? (1, 2) = some ⟨1, 2, .active, .ofCents 600, false⟩ ∧
      ¬Books.Consistent (run execute (sampleTenant 10000) confirmedRun).books b' res ∧
      b'.payOrder ⟨201, sampleDay⟩ (Uuid.text 50) (scaled 3 4005) .cash none (some "pay-0001") =
        .error idempotencyConflict := by
  obtain ⟨⟨b', res⟩, hok, hnew, hid, htotal, hamount, hhold, hpaid, hbinding, hagain⟩ :
      ∃ x, (run execute (sampleTenant 10000) confirmedRun).books.payOrder ⟨200, sampleDay⟩
        (Uuid.text 50) (scaled 3 4005) .cash none (some "pay-0001") = .ok x ∧
      x.2.replayed = false ∧ x.2.order.id = 50 ∧ x.2.order.totalAmount = .ofCents 1000 ∧
      x.2.paymentRecord.amount = .ofCents 401 ∧
      x.1.creditHolds.find? 50 = some ⟨50, .ofCents 1000, .ofCents 600, .active⟩ ∧
      x.1.methodCents 50 [.cash, .transfer] = 401 ∧
      x.1.bindings.find? (1, 2) = some ⟨1, 2, .active, .ofCents 600, false⟩ ∧
      x.1.payOrder ⟨201, sampleDay⟩ (Uuid.text 50) (scaled 3 4005) .cash none
        (some "pay-0001") = .error idempotencyConflict :=
    exists_ok_of_any (by decide +kernel)
  refine ⟨b', res, hok, hnew, hamount, hhold, hbinding, fun hc => ?_, hagain⟩
  obtain ⟨hold, hfind, hremaining, -⟩ := hc.hold
  rw [hid, hhold, Option.some.injEq] at hfind
  subst hfind
  have hcents : b'.settledCents ⟨50, .ofCents 1000, .ofCents 600, .active⟩ = 401 := hpaid
  rw [hcents, htotal] at hremaining
  exact absurd hremaining (by decide +kernel)

end Mpango
