import Mpango.Spec.Payments

/-!
# What an execution leaves

The payments after an execution are those before it and the new row, some of them completed; the
request's key finds that row; and nothing but the order it is executed on has changed.
-/

namespace Mpango

open Decimal

namespace Books

variable {b b' inserted : Books} {o : Order} {req : PaymentRequest} {plan : PaymentPlan}
  {row : Payment} {ctx : InsertContext} {res : CanonicalPaymentResult}

/-! ## The row an execution leaves -/

/-- After an execution the payments are those before it and the new row, some of them completed;
what was complete stays complete. -/
theorem Executed.mem_payments (h : b.Executed ctx o req plan row inserted b' res) :
    ∃ status : Payment → PaymentStatus, (∀ q, q.status = .completed → status q = .completed) ∧
      ∀ p, p ∈ b'.payments ↔ ∃ q, (q ∈ b.payments ∨ q = row) ∧ p = { q with status := status q } := by
  have hins : ∀ q, q ∈ inserted.payments ↔ q ∈ b.payments ∨ q = row :=
    fun q => Table.mem_insert? h.insert.payments
  have hkeep : b'.payments = inserted.payments →
      ∃ status : Payment → PaymentStatus, (∀ q, q.status = .completed → status q = .completed) ∧
        ∀ p, p ∈ b'.payments ↔
          ∃ q, (q ∈ b.payments ∨ q = row) ∧ p = { q with status := status q } := by
    intro hsame
    refine ⟨Payment.status, fun _ hq => hq, fun p => ?_⟩
    rw [hsame, hins]
    exact ⟨fun hp => ⟨p, hp, rfl⟩, by rintro ⟨q, hq, rfl⟩; exact hq⟩
  have hsettled : b'.payments = inserted.settledPayments o req plan →
      ∃ status : Payment → PaymentStatus, (∀ q, q.status = .completed → status q = .completed) ∧
        ∀ p, p ∈ b'.payments ↔
          ∃ q, (q ∈ b.payments ∨ q = row) ∧ p = { q with status := status q } := by
    intro hset
    unfold settledPayments at hset
    split at hset
    · let pending : Payment → Bool := fun q => q.orderId = o.id && !q.isDeleted &&
        [PaymentMethod.cash, .transfer].contains q.method && q.status = .pending
      refine ⟨fun q => if pending q then .completed else q.status, fun q hq => ?_, fun p => ?_⟩
      · show (if pending q = true then PaymentStatus.completed else q.status) = .completed
        split
        · rfl
        · exact hq
      rw [hset, updateCashTransferToCompleted, Table.mem_updateWhere]
      refine exists_congr fun q => and_congr (hins q) ?_
      show p = (if pending q = true then _ else _) ↔
        p = { q with status := if pending q = true then _ else _ }
      by_cases hq : pending q = true
      · rw [if_pos hq, if_pos hq]
      · rw [if_neg hq, if_neg hq]
    · exact hkeep hset
  rcases h.cases with ⟨-, -, ⟨hold', ht⟩, -⟩ | ⟨-, -, ht, -⟩ | ⟨-, ht, -⟩
  · exact hsettled (by rw [ht.frame])
  · exact hsettled (by rw [ht.frame])
  · exact hkeep (by rw [ht.frame])

/-- The answer of an execution is its row as it is stored afterwards, and every other stored
payment was there before. -/
theorem Executed.record_eq (h : b.Executed ctx o req plan row inserted b' res) :
    (∃ status, res.paymentRecord = { row with status }) ∧ res.paymentRecord ∈ b'.payments ∧
      ∀ p ∈ b'.payments, p = res.paymentRecord ∨ ∃ q ∈ b.payments, ∃ status,
        p = { q with status } := by
  obtain ⟨status, -, hmem⟩ := h.mem_payments
  have hrow : { row with status := status row } ∈ b'.payments :=
    (hmem _).mpr ⟨row, .inr rfl, rfl⟩
  have hrec : res.paymentRecord = { row with status := status row } := by
    have hfind : b'.payments.find? row.id = some { row with status := status row } :=
      Table.find?_key hrow
    rw [h.record, getPaymentById, hfind, Option.filter_some, if_pos (by simp [h.insert.isDeleted]),
      Option.getD_some]
  refine ⟨⟨_, hrec⟩, hrec ▸ hrow, fun p hp => ?_⟩
  obtain ⟨q, hq | rfl, rfl⟩ := (hmem p).mp hp
  · exact .inr ⟨q, hq, _, rfl⟩
  · exact .inl hrec.symm

/-- The order an execution answers with is stored. -/
theorem Executed.order_mem (ho : o ∈ b.orders) (hlive : o.isDeleted = false)
    (h : b.Executed ctx o req plan row inserted b' res) :
    res.order ∈ b'.orders ∧ res.order.id = o.id ∧ res.order.isDeleted = false ∧
      res.order.wholesalerId = o.wholesalerId ∧ res.order.retailerId = o.retailerId ∧
      res.order.totalAmount = o.totalAmount := by
  have hins := h.insert.frame
  rcases h.cases with ⟨-, -, ⟨hold', ht⟩, hres⟩ | ⟨-, -, ht, hres⟩ | ⟨-, ht, hres⟩
  · rw [hres, ht.frame, hins]
    exact ⟨Table.mem_set.mpr (.inr ⟨rfl, o, ho, rfl⟩), rfl, hlive, rfl, rfl, rfl⟩
  · rw [hres, ht.frame, hins]
    exact ⟨Table.mem_set.mpr (.inr ⟨rfl, o, ho, rfl⟩), rfl, hlive, rfl, rfl, rfl⟩
  · rw [hres, ht.frame, hins]
    exact ⟨ho, rfl, hlive, rfl, rfl, rfl⟩

/-- A key that fits its column finds the row it was executed with. -/
theorem Executed.found (h : b.Executed ctx o req plan row inserted b' res) (hkey : req.idempotencyKey.length ≤ 64) :
    b'.getByIdempotencyKey req.idempotencyKey = some res.paymentRecord := by
  obtain ⟨⟨status, hrec⟩, hmem, hothers⟩ := h.record_eq
  have hrowkey : row.idempotencyKey = req.idempotencyKey := by
    have := h.insert.idempotencyKey
    rw [varchar_of_le hkey] at this
    exact (Option.some.inj this).symm
  have hreckey : res.paymentRecord.idempotencyKey = req.idempotencyKey := by rw [hrec]; exact hrowkey
  have hreclive : res.paymentRecord.isDeleted = false := by rw [hrec]; exact h.insert.isDeleted
  cases hfind : b'.getByIdempotencyKey req.idempotencyKey with
  | none =>
    have := getByIdempotencyKey_eq_none.mp hfind _ hmem hreckey
    rw [hreclive] at this
    simp at this
  | some p =>
    obtain ⟨hp, hpkey, -⟩ := getByIdempotencyKey_some hfind
    rcases hothers p hp with rfl | ⟨q, hq, status', rfl⟩
    · rfl
    · -- the key was on no row before
      have hfresh := (paymentUniqueViolation?_eq_none.mp h.insert.fresh).2.1 q hq
      exact absurd (hpkey.trans hrowkey.symm) hfresh

/-! ## Everything else -/

/-- Nothing but what belongs to an order has changed: not another order, its hold or its payments,
and not the balance of another pair; the ledger only grew, by postings for the order. -/
structure Isolated (b b' : Books) (o : Order) : Prop where
  orders : ∀ id, id ≠ o.id → b'.orders.find? id = b.orders.find? id
  holds : ∀ id, id ≠ o.id → b'.creditHolds.find? id = b.creditHolds.find? id
  payments : ∀ p : Payment, p.orderId ≠ o.id → (p ∈ b'.payments ↔ p ∈ b.payments)
  history : ∀ id, id ≠ o.id → ∀ methods,
    b'.orderPayments id methods = b.orderPayments id methods
  ledger : ∃ entries, b'.ledgerEntries = b.ledgerEntries ++ entries ∧
    ∀ e ∈ entries, e.referenceId = o.id
  bindings : ∀ pair, pair ≠ (o.wholesalerId, o.retailerId) →
    b'.bindings.find? pair = b.bindings.find? pair

theorem Isolated.refl (b : Books) (o : Order) : Isolated b b o where
  orders _ _ := rfl
  holds _ _ := rfl
  payments _ _ := Iff.rfl
  history _ _ _ := rfl
  ledger := ⟨[], (List.append_nil _).symm, List.forall_mem_nil _⟩
  bindings _ _ := rfl

/-- The new row belongs to the order. -/
theorem Inserted.isolated_payments (h : b.Inserted ctx o req plan row inserted) :
    (∀ p : Payment, p.orderId ≠ o.id → (p ∈ inserted.payments ↔ p ∈ b.payments)) ∧
      ∀ id, id ≠ o.id → ∀ methods,
        inserted.orderPayments id methods = b.orderPayments id methods := by
  constructor
  · intro p hp
    rw [Table.mem_insert? h.payments]
    refine or_iff_left ?_
    rintro rfl
    exact hp h.orderId
  · intro id hid methods
    unfold orderPayments
    rw [Table.select_insert? h.payments, if_neg, List.append_nil]
    rw [h.orderId]
    simp [hid.symm]

/-- So does every payment that is completed with it. -/
theorem isolated_settledPayments (hp : b'.payments = b.settledPayments o req plan) :
    (∀ p : Payment, p.orderId ≠ o.id → (p ∈ b'.payments ↔ p ∈ b.payments)) ∧
      ∀ id, id ≠ o.id → ∀ methods, b'.orderPayments id methods = b.orderPayments id methods := by
  unfold settledPayments at hp
  split at hp
  · rw [updateCashTransferToCompleted] at hp
    constructor
    · intro p hpid
      rw [hp, Table.mem_updateWhere]
      constructor
      · rintro ⟨q, hq, rfl⟩
        split at hpid
        · next hc =>
          simp only [Bool.and_eq_true, decide_eq_true_eq] at hc
          exact absurd hc.1.1.1 hpid
        · next hc => rwa [if_neg hc]
      · intro hmem
        exact ⟨p, hmem, by rw [if_neg (by simp [hpid])]⟩
    · intro id hid methods
      unfold orderPayments
      rw [hp, Table.select_updateWhere (by exact fun _ => rfl)]
      refine (List.map_congr_left fun p hmem => ?_).trans (List.map_id _)
      simp only [Table.mem_select, Bool.and_eq_true, decide_eq_true_eq] at hmem
      rw [if_neg (by simp [hmem.2.1.1, hid])]
      rfl
  · refine ⟨fun p _ => by rw [hp], fun id _ methods => ?_⟩
    unfold orderPayments
    rw [hp]

theorem LedgerSettled.isolated {before after : List LedgerEntry} {target : OrderState}
    {method : PaymentMethod} (h : LedgerSettled before o target method after) :
    ∃ entries, after = before ++ entries ∧ ∀ e ∈ entries, e.referenceId = o.id := by
  unfold LedgerSettled at h
  split at h
  · obtain ⟨m, n, -, -, rfl⟩ := h
    refine ⟨_, rfl, ?_⟩
    simp
  · exact ⟨[], by rw [h, List.append_nil], List.forall_mem_nil _⟩

theorem BalanceUpdated.isolated {before after : Table Binding} {w r : Uuid} {delta : Decimal}
    (h : BalanceUpdated before w r delta after) {pair : Uuid × Uuid} (hp : pair ≠ (w, r)) :
    after.find? pair = before.find? pair := by
  obtain ⟨binding, m, hfind, -, -, -, rfl⟩ := h
  have hkey : key binding = (w, r) := Table.key_of_find? hfind
  exact Table.find?_set_of_ne (hp.trans_eq hkey.symm)

/-- An execution changes nothing of another order. -/
theorem Executed.isolated (h : b.Executed ctx o req plan row inserted b' res) :
    Isolated b b' o := by
  obtain ⟨hmem, hselect⟩ := h.insert.isolated_payments
  have hframe := h.insert.frame
  rcases h.cases with ⟨hs, -, ⟨hold', ht⟩, -⟩ | ⟨hs, -, ht, -⟩ | ⟨-, ht, -⟩
  · have hpay : b'.payments = inserted.settledPayments o req plan := by rw [ht.frame]
    obtain ⟨hmem', hselect'⟩ := isolated_settledPayments hpay
    have hkey : hold'.orderId = o.id := by
      rw [ht.hold]
      exact Table.key_of_find? hs.find
    refine
      { orders := fun id hid => ?_, holds := fun id hid => ?_
        payments := fun p hp => (hmem' p hp).trans (hmem p hp)
        history := fun id hid methods => (hselect' id hid methods).trans (hselect id hid methods)
        ledger := ?_, bindings := fun pair hp => ?_ }
    · rw [ht.frame, hframe]
      exact Table.find?_set_of_ne hid
    · rw [ht.frame, hframe]
      exact Table.find?_set_of_ne (by rw [key_creditHold, hkey]; exact hid)
    · have := ht.ledger.isolated
      rwa [hframe] at this
    · have := ht.balance.isolated hp
      rwa [hframe] at this
  · have hpay : b'.payments = inserted.settledPayments o req plan := by rw [ht.frame]
    obtain ⟨hmem', hselect'⟩ := isolated_settledPayments hpay
    have hkey : plan.hold.orderId = o.id := Table.key_of_find? hs.find
    refine
      { orders := fun id hid => ?_, holds := fun id hid => ?_
        payments := fun p hp => (hmem' p hp).trans (hmem p hp)
        history := fun id hid methods => (hselect' id hid methods).trans (hselect id hid methods)
        ledger := ⟨[], ?_, List.forall_mem_nil _⟩, bindings := fun pair _ => ?_ }
    · rw [ht.frame, hframe]
      exact Table.find?_set_of_ne hid
    · rw [ht.frame, hframe]
      exact Table.find?_set_of_ne (by rw [key_creditHold]; exact hkey ▸ hid)
    · rw [ht.frame, hframe, List.append_nil]
    · rw [ht.frame, hframe]
  · have hpay : b'.payments = inserted.payments := by rw [ht.frame]
    refine
      { orders := fun id _ => by rw [ht.frame, hframe], holds := fun id _ => by rw [ht.frame, hframe]
        payments := fun p hp => by rw [hpay]; exact hmem p hp
        history := fun id hid methods => ?_, ledger := ?_, bindings := fun pair hp => ?_ }
    · rw [← hselect id hid methods]
      unfold orderPayments
      rw [hpay]
    · obtain ⟨m, n, -, -, hledger⟩ := ht.ledger
      refine ⟨_, hledger.trans (by rw [hframe]), ?_⟩
      simp
    · have := ht.balance.isolated hp
      rwa [hframe] at this

theorem Isolated.validHistory {x : Order} (h : Isolated b b' o) (hx : x.id ≠ o.id)
    (hv : b.ValidHistory x) : b'.ValidHistory x := by
  intro p hp hid hlive
  exact hv p ((h.payments p (hid.trans_ne hx)).mp hp) hid hlive

/-- What another order's history sums and counts to. -/
theorem Isolated.totals {x : Order} (h : Isolated b b' o) (hx : x.id ≠ o.id) :
    (∀ methods, b'.methodCents x.id methods = b.methodCents x.id methods) ∧
      b'.countOrderPayments x.id .credit = b.countOrderPayments x.id .credit := by
  constructor
  · intro methods
    unfold methodCents
    rw [h.history x.id hx]
  · unfold countOrderPayments
    rw [h.history x.id hx]

/-- What the checks of another order's payment have established still holds. -/
theorem Isolated.settlement {x : Order} {req' : PaymentRequest} {plan' : PaymentPlan}
    (h : Isolated b b' o) (hx : x.id ≠ o.id) (hs : b.Settlement x req' plan') :
    b'.Settlement x req' plan' := by
  obtain ⟨hcents, hcount⟩ := h.totals hx
  have htarget : b'.settlementTarget x req' = b.settlementTarget x req' := by
    unfold settlementTarget getOrderPaidTotal
    rw [getOrderMethodTotal_eq, getOrderMethodTotal_eq, hcents]
  exact
    { status := hs.status, history := h.validHistory hx hs.history
      find := (h.holds x.id hx).trans hs.find, active := hs.active, amount := hs.amount
      remaining := by rw [hcents]; exact hs.remaining, le_remaining := hs.le_remaining
      credit := by rw [hcents, hcount]; exact hs.credit, target := by rw [htarget]; exact hs.target
      isCreditCollection := hs.isCreditCollection, paymentStatus := hs.paymentStatus }

theorem Isolated.collection {x : Order} {req' : PaymentRequest} {plan' : PaymentPlan}
    (h : Isolated b b' o) (hx : x.id ≠ o.id) (hc : b.Collection x req' plan') :
    b'.Collection x req' plan' := by
  obtain ⟨hcents, hcount⟩ := h.totals hx
  exact
    { status := hc.status, history := h.validHistory hx hc.history, method := hc.method
      find := (h.holds x.id hx).trans hc.find, converted := hc.converted
      remaining := hc.remaining, amount := hc.amount, credit := by rw [hcents]; exact hc.credit
      credit_count := hcount.trans hc.credit_count
      le_exposure := by rw [hcents]; exact hc.le_exposure
      exposure_pos := by rw [hcents]; exact hc.exposure_pos
      isCreditCollection := hc.isCreditCollection, paymentStatus := hc.paymentStatus }

end Books

end Mpango
