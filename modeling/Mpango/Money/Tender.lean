import Mpango.Spec.Execution
import Mpango.Money.Step

/-!
# Tender on fully paid orders

An order paid by tender alone should have nothing pending: the payment that settles it in full
completes the earlier partial ones. It does when it comes directly. A confirmed declaration is
recorded as completed from the start, and its settlement completes no other row: where earlier
direct payments are pending, they stay pending on a paid order.
-/

namespace Mpango

open Decimal

namespace Books

variable {b b' inserted : Books} {o : Order} {req : PaymentRequest} {plan : PaymentPlan}
  {row : Payment} {ctx : InsertContext} {res : CanonicalPaymentResult} {tenantId : Uuid}

/-- Every live cash and transfer payment of the order is completed. -/
def TenderCompleted (b : Books) (orderId : Uuid) : Prop :=
  ∀ p ∈ b.orderPayments orderId [.cash, .transfer], p.status = .completed

/-- No order that is paid, or was, and has no credit payment has pending tender. -/
def TenderSettled (b : Books) : Prop :=
  ∀ o ∈ b.orders, o.status ∈ [OrderState.paid, .fulfilled, .returned] →
    b.orderPayments o.id [.credit] = [] → b.TenderCompleted o.id

/-- The final payment of an order that has pending tender, recorded as completed from the
start. -/
structure FinalOverPending (b : Books) (o : Order) (req : PaymentRequest) : Prop where
  status : o.status = .confirmed ∨ o.status = .partiallyPaid
  forced : req.forceCompleted = true
  tender : req.method ≠ .credit
  final : o.totalAmount.toDecimal ≤ Decimal.add (b.getOrderPaidTotal o.id) req.amount
  creditless : b.orderPayments o.id [.credit] = []
  pending : ¬b.TenderCompleted o.id

/-! ## Other writes -/

/-- Orders that are paid were paid before, and their payments are the same. -/
theorem TenderSettled.of_same (h : b.TenderSettled) (hpay : b'.payments = b.payments)
    (horders : ∀ x ∈ b'.orders, x.status ∈ [OrderState.paid, .fulfilled, .returned] →
      ∃ y ∈ b.orders, y.id = x.id ∧ y.status ∈ [OrderState.paid, .fulfilled, .returned]) :
    b'.TenderSettled := by
  intro x hx hst hcredit
  obtain ⟨y, hy, hid, hst'⟩ := horders x hx hst
  have hsame : ∀ methods, b'.orderPayments x.id methods = b.orderPayments y.id methods := by
    intro methods
    rw [orderPayments, orderPayments, hpay, hid]
  intro p hp
  rw [hsame] at hcredit hp
  exact h y hy hst' hcredit p hp

/-- Moving an order to a status it had, or to one that is not paid. -/
theorem TenderSettled.assign {target : OrderState} (h : b.TenderSettled) (ho : o ∈ b.orders)
    (hpay : b'.payments = b.payments) (horders : b'.orders = b.orders.set { o with status := target })
    (htarget : target ∈ [OrderState.paid, .fulfilled, .returned] →
      o.status ∈ [OrderState.paid, .fulfilled, .returned]) : b'.TenderSettled := by
  refine h.of_same hpay fun x hx hst => ?_
  rw [horders, Table.mem_set] at hx
  rcases hx with ⟨hx, -⟩ | ⟨rfl, -⟩
  · exact ⟨x, hx, rfl, hst⟩
  · exact ⟨o, ho, rfl, htarget hst⟩

theorem TenderSettled.step (h : b.TenderSettled) (hstep : Step tenantId (fun _ => False) b b') :
    b'.TenderSettled := by
  cases hstep with
  | create o hins _ hst _ =>
    refine h.of_same rfl fun x hx hpaid => ?_
    rcases (Table.mem_insert? hins).mp hx with hx | rfl
    · exact ⟨x, hx, rfl, hpaid⟩
    · simp [hst] at hpaid
  | drop o target ho hst ht =>
    refine h.assign ho rfl rfl fun hpaid => ?_
    rcases ht with rfl | rfl <;> simp at hpaid
  | confirm o ho hst hT hnone hins hmoved => exact h.assign ho rfl rfl (by simp)
  | cancel o hold ho hst hf hact hamt hrem hmoved => exact h.assign ho rfl rfl (by simp)
  | pay o req ho hdel hreq hx => exact hreq.elim
  | fulfill o ho hst => exact h.assign ho rfl rfl (by simp [hst])
  | «return» o ho hst _ _ => exact h.assign ho rfl rfl (by simp [hst])

/-! ## Payments -/

/-- The credit payments of the order after an insert. -/
theorem Inserted.credits (hins : b.Inserted ctx o req plan row inserted) :
    inserted.orderPayments o.id [.credit] =
      b.orderPayments o.id [.credit] ++ if req.method = .credit then [row] else [] := by
  unfold orderPayments
  rw [Table.select_insert? hins.payments, hins.orderId, hins.isDeleted, hins.method]
  cases req.method <;> simp

/-- Completing payments makes no credit payment and takes none away. -/
theorem credits_settledPayments (hpay : b'.payments = b.settledPayments o req plan) :
    b'.orderPayments o.id [.credit] = [] ↔ b.orderPayments o.id [.credit] = [] := by
  unfold orderPayments
  rw [hpay]
  unfold settledPayments
  split
  · rw [updateCashTransferToCompleted, Table.select_updateWhere (by exact fun _ => rfl),
      List.map_eq_nil_iff]
  · rfl

/-- A settlement in full that was not completed from the start completes everything. -/
theorem tenderCompleted_of_batch (hpay : b'.payments = b.settledPayments o req plan)
    (hforce : req.forceCompleted = false) (htarget : plan.targetState = .paid) :
    b'.TenderCompleted o.id := by
  intro p hp
  rw [settledPayments, if_pos ⟨hforce, htarget⟩, updateCashTransferToCompleted] at hpay
  rw [mem_orderPayments, hpay, Table.mem_updateWhere] at hp
  obtain ⟨⟨q, hq, rfl⟩, hid, hlive, hm⟩ := hp
  split
  · rfl
  · next hc =>
    rw [if_neg hc] at hid hlive hm
    cases hst : q.status with
    | completed => rfl
    | pending => exact absurd (by simp_all) hc

/-- A settlement that was completed from the start changes no other payment. -/
theorem tenderCompleted_of_forced (hs : b.Settlement o req plan)
    (hins : b.Inserted ctx o req plan row inserted)
    (hpay : b'.payments = inserted.settledPayments o req plan) (hforce : req.forceCompleted = true)
    (hm : req.method ≠ .credit) : b'.TenderCompleted o.id ↔ b.TenderCompleted o.id := by
  have hsame : b'.payments = inserted.payments := by
    rw [hpay, settledPayments, if_neg (by simp [hforce])]
  have hrow : row.status = .completed := by
    rw [hins.status, hs.paymentStatus, if_pos (.inl hforce)]
  have hselect : b'.orderPayments o.id [.cash, .transfer] =
      b.orderPayments o.id [.cash, .transfer] ++ [row] := by
    unfold orderPayments
    rw [hsame, Table.select_insert? hins.payments, hins.orderId, hins.isDeleted, hins.method,
      if_pos]
    simpa using PaymentMethod.mem_cash_transfer.mpr hm
  unfold TenderCompleted
  rw [hselect]
  constructor
  · intro h p hp
    exact h p (List.mem_append_left _ hp)
  · intro h p hp
    rcases List.mem_append.mp hp with hp | hp
    · exact h p hp
    · exact List.mem_singleton.mp hp ▸ hrow

/-- An execution on a paid or open order leaves the property true unless it is a final payment
over pending tender. -/
theorem TenderSettled.executed (h : b.TenderSettled)
    (hx : b.Executed ctx o req plan row inserted b' res) (hok : ¬b.FinalOverPending o req) :
    b'.TenderSettled := by
  have hother : ∀ x ∈ b.orders, x.id ≠ o.id →
      x.status ∈ [OrderState.paid, .fulfilled, .returned] →
      b'.orderPayments x.id [.credit] = [] → b'.TenderCompleted x.id := by
    intro x hx' hid hst hcredit p hp
    rw [hx.isolated.history x.id hid] at hcredit hp
    exact h x hx' hst hcredit p hp
  intro x hx' hst hcredit
  rcases hx.cases with ⟨hs, hm, ⟨hold', ht⟩, -⟩ | ⟨hs, hm, ht, -⟩ | ⟨hc, ht, -⟩
  · have hpay : b'.payments = inserted.settledPayments o req plan := by rw [ht.frame]
    rw [ht.frame, hx.insert.frame] at hx'
    rcases Table.mem_set.mp hx' with ⟨hx', hid⟩ | ⟨rfl, -⟩
    · exact hother x hx' hid hst hcredit
    · -- the order itself is paid, in one of the two ways
      have htarget : plan.targetState = .paid := by
        rcases ht.target with htarget | htarget
        · exact htarget
        · simp [htarget] at hst
      cases hforce : req.forceCompleted with
      | false => exact tenderCompleted_of_batch hpay hforce htarget
      | true =>
        refine (tenderCompleted_of_forced hs hx.insert hpay hforce hm).mpr ?_
        by_contra hpending
        have hfinal : o.totalAmount.toDecimal ≤
            Decimal.add (b.getOrderPaidTotal o.id) req.amount := by
          have := hs.target.symm.trans htarget
          unfold settlementTarget at this
          by_contra hlt
          rw [if_neg hlt] at this
          simp at this
        have hnone : b.orderPayments o.id [.credit] = [] := by
          have := (credits_settledPayments hpay).mp hcredit
          rw [hx.insert.credits, if_neg hm, List.append_nil] at this
          exact this
        exact hok ⟨hs.status, hforce, hm, hfinal, hnone, hpending⟩
  · have hpay : b'.payments = inserted.settledPayments o req plan := by rw [ht.frame]
    rw [ht.frame, hx.insert.frame] at hx'
    rcases Table.mem_set.mp hx' with ⟨hx', hid⟩ | ⟨rfl, -⟩
    · exact hother x hx' hid hst hcredit
    · -- the order was sold on credit
      have := (credits_settledPayments hpay).mp hcredit
      rw [hx.insert.credits, if_pos hm] at this
      simp at this
  · rw [ht.frame, hx.insert.frame] at hx'
    by_cases hid : x.id = o.id
    · -- only a credit sale is collected on
      have hpay : b'.payments = inserted.payments := by rw [ht.frame]
      have hcount := hc.credit_count
      rw [hid, orderPayments, hpay, ← orderPayments, hx.insert.credits, if_neg hc.method,
        List.append_nil] at hcredit
      simp [countOrderPayments, hcredit] at hcount
    · exact hother x hx' hid hst hcredit

/-- A final payment over pending tender leaves the order paid and the tender pending. -/
theorem FinalOverPending.executed (hbad : b.FinalOverPending o req) (ho : o ∈ b.orders)
    (hx : b.Executed ctx o req plan row inserted b' res) : ¬b'.TenderSettled := by
  intro h
  have hs : b.Settlement o req plan := by
    rcases hx.checked with hs | hc
    · exact hs
    · have hpaid := hc.status
      rcases hbad.status with hst | hst <;> simp [hst] at hpaid
  rcases hx.cases with ⟨-, -, ⟨hold', ht⟩, -⟩ | ⟨-, hm, -, -⟩ | ⟨hc, -, -⟩
  · have hpay : b'.payments = inserted.settledPayments o req plan := by rw [ht.frame]
    have htarget : plan.targetState = .paid := by
      rw [hs.target, settlementTarget, if_pos hbad.final]
    have hmem : { o with status := plan.targetState } ∈ b'.orders := by
      rw [ht.frame, hx.insert.frame]
      exact Table.mem_set.mpr (.inr ⟨rfl, o, ho, rfl⟩)
    have hcredit : b'.orderPayments o.id [.credit] = [] := by
      rw [credits_settledPayments hpay, hx.insert.credits, if_neg hbad.tender, List.append_nil]
      exact hbad.creditless
    have hdone := h _ hmem (by simp [htarget]) hcredit
    exact hbad.pending
      ((tenderCompleted_of_forced hs hx.insert hpay hbad.forced hbad.tender).mp hdone)
  · exact hbad.tender hm
  · have hpaid := hc.status
    rcases hbad.status with hst | hst <;> simp [hst] at hpaid

end Books

/-! ## Runs -/

/-- The command makes the final payment of an order that has pending tender, and the payment is
new and recorded as completed from the start. -/
def Command.FinalOverPending (c : Command) (db : Db) : Prop :=
  ∃ o ∈ db.books.orders, ∃ ctx req, c.payment? db = some (ctx, o.id, req) ∧
    db.books.getByIdempotencyKey req.idempotencyKey = none ∧ db.books.FinalOverPending o req

/-- **Settled tender.** Along a run no paid order keeps pending tender, exactly when no accepted
command makes a final payment over pending tender that is completed from the start. -/
theorem tenderSettled_iff {db : Db} {cs : List Command} (hfresh : db.Fresh) :
    (∀ t ∈ trace execute db cs, t.after.books.TenderSettled) ↔
      ∀ t ∈ trace execute db cs, ¬t.command.FinalOverPending t.before := by
  constructor
  · rintro h t ht ⟨o, ho, ctx, req, hasked, hnew, hbad⟩
    obtain ⟨hexec, -⟩ := execute_of_mem_trace ht
    obtain ⟨-, ⟨o', ctx', req', plan, row, inserted, res, ho', -, hasked', -, hx⟩ |
      ⟨hnone, -⟩ | ⟨-, hused⟩⟩ := execute_cases hexec
    · have hsame : ctx' = ctx ∧ o'.id = o.id ∧ req' = req := by
        simpa using hasked'.symm.trans hasked
      obtain ⟨rfl, hid, rfl⟩ := hsame
      obtain rfl : o' = o := Table.eq_of_key_eq ho' ho hid
      exact hbad.executed ho hx (h t ht)
    · simp [hnone] at hasked
    · exact hused ctx o.id req hasked hnew
  · intro h t ht
    refine (trace_induction_of (P := fun db => db.books.TenderSettled)
      (Q := fun t => ¬t.command.FinalOverPending t.before) (fun t hs hexec hok => ?_) ?_ h t ht).2
    · obtain ⟨-, ⟨o, ctx, req, plan, row, inserted, res, ho, -, hasked, hnew, hx⟩ | ⟨-, hstep⟩ |
        ⟨hsame, -⟩⟩ := execute_cases hexec
      · exact hs.executed hx fun hbad => hok ⟨o, ho, ctx, req, hasked, hnew, hbad⟩
      · exact hs.step hstep
      · rw [hsame]
        exact hs
    · intro o ho
      rw [hfresh.orders] at ho
      exact absurd ho Table.not_mem_empty

/-- An order of 10.00: 4.00 in cash paid directly, and the other 6.00 declared and confirmed. -/
def mixedRun : List Command :=
  [.createOrder 50 2 [sampleItem 100 2], .confirmOrder 50 (some 9),
    .confirmPayment ⟨200, sampleDay⟩ (Uuid.text 50)
      (samplePayment (scaled 2 400) .cash none "pay-0001"),
    .submitDeclaration 300 (Uuid.text 50) 2 1 (scaled 2 600) .transfer (some "T-17") "decl-0001",
    .confirmDeclaration ⟨201, sampleDay⟩ 300 1]

/-- The same order with both payments made directly. -/
def directRun : List Command :=
  mixedRun.take 3 ++ [.confirmPayment ⟨201, sampleDay⟩ (Uuid.text 50)
    (samplePayment (scaled 2 600) .cash none "pay-0002")]

/-- Paid directly throughout, the order is paid and nothing of it is pending. -/
theorem tenderSettled_directRun :
    (run execute (sampleTenant 10000) directRun).books.orders.rows.map Order.status = [.paid] ∧
      ∀ t ∈ trace execute (sampleTenant 10000) directRun, t.after.books.TenderSettled := by
  refine ⟨by decide +kernel, (tenderSettled_iff (sampleTenant_fresh (by decide))).mpr ?_⟩
  rintro t ht ⟨o, -, ctx, req, hasked, -, hbad⟩
  -- no request of the run is completed from the start
  have hdirect : ∀ c ∈ directRun, ∀ ctx id req, c.payment? t.before = some (ctx, id, req) →
      req.forceCompleted = false := by
    simp only [directRun, mixedRun, List.take_succ_cons, List.take_zero, List.cons_append,
      List.nil_append, List.forall_mem_cons, List.not_mem_nil, false_implies, implies_true,
      Command.payment?, reduceCtorEq, Option.map_eq_some_iff, Prod.mk.injEq, and_true, true_and]
    constructor <;> rintro ctx id req ⟨-, -, -, -, rfl⟩ <;> rfl
  have hforced := hbad.forced
  rw [hdirect t.command (execute_of_mem_trace ht).2 ctx o.id req hasked] at hforced
  simp at hforced

/-- Confirmed last, the declaration leaves the order paid and the cash payment pending. -/
theorem tender_pending_mixedRun :
    ¬∀ t ∈ trace execute (sampleTenant 10000) mixedRun, t.after.books.TenderSettled := by
  intro h
  obtain ⟨t, ht, o, ho, hst, hcredit, p, hp, hpending⟩ :
      ∃ t ∈ trace execute (sampleTenant 10000) mixedRun, ∃ o ∈ t.after.books.orders.rows,
        o.status ∈ [OrderState.paid, .fulfilled, .returned] ∧
        t.after.books.orderPayments o.id [.credit] = [] ∧
        ∃ p ∈ t.after.books.orderPayments o.id [.cash, .transfer], p.status = .pending := by
    decide +kernel
  have hdone := h t ht o ho hst hcredit p hp
  rw [hpending] at hdone
  simp at hdone

end Mpango
