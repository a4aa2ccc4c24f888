import Mpango.Model.Statement
import Mpango.Money.Binding

/-!
# The statement and the cache

The ledger knows a receivable only when money comes in: a settlement in full and a collection post
to it, a confirmation and a credit sale do not. Each of these postings comes with a completed cash
or transfer payment (`Books.Backed`). So where a relationship has no such payment, its ledger total
is zero, whatever its orders occupy, and the reconciliation compares the whole exposure of the
pair with zero.
-/

namespace Mpango

open Decimal

namespace Books

variable {tenantId w r : Uuid} {admitted : PaymentRequest → Prop} {b b' inserted : Books}
  {o : Order} {req : PaymentRequest} {plan : PaymentPlan} {row : Payment} {ctx : InsertContext}

/-! ## Receivable postings are backed by completed payments -/

/-- The order has a live completed cash or transfer payment. -/
def HasTender (b : Books) (orderId : Uuid) : Prop :=
  ∃ p ∈ b.payments, p.orderId = orderId ∧ p.isDeleted = false ∧ p.status = .completed ∧
    p.method ≠ .credit

/-- Every receivable posting refers to an order with a completed cash or transfer payment. -/
def Backed (b : Books) : Prop :=
  ∀ e ∈ b.ledgerEntries, e.accountType = .receivable → b.HasTender e.referenceId

theorem HasTender.congr {orderId : Uuid} (hp : b'.payments = b.payments)
    (h : b.HasTender orderId) : b'.HasTender orderId := by
  unfold HasTender
  rw [hp]
  exact h

theorem Inserted.hasTender {orderId : Uuid} (hins : b.Inserted ctx o req plan row inserted)
    (h : b.HasTender orderId) : inserted.HasTender orderId := by
  obtain ⟨p, hp, hrest⟩ := h
  exact ⟨p, (Table.mem_insert? hins.payments).mpr (.inl hp), hrest⟩

/-- Completing payments takes no completed payment away. -/
theorem hasTender_settledPayments {orderId : Uuid}
    (hset : b'.payments = b.settledPayments o req plan) (h : b.HasTender orderId) :
    b'.HasTender orderId := by
  obtain ⟨p, hp, hid, hlive, hdone, hm⟩ := h
  unfold HasTender
  rw [hset]
  unfold settledPayments
  split
  · refine ⟨p, ?_, hid, hlive, hdone, hm⟩
    rw [updateCashTransferToCompleted, Table.mem_updateWhere]
    exact ⟨p, hp, by simp [hdone]⟩
  · exact ⟨p, hp, hid, hlive, hdone, hm⟩

/-- A settlement in full leaves its order with a completed payment: the new one, which was
completed when it was recorded or with the batch. -/
theorem Tendered.hasTender {hold' : CreditHold} (hs : b.Settlement o req plan)
    (hm : req.method ≠ .credit) (hins : b.Inserted ctx o req plan row inserted)
    (ht : inserted.Tendered o req plan hold' b') (htarget : plan.targetState = .paid) :
    b'.HasTender o.id := by
  have hrow : row ∈ inserted.payments := (Table.mem_insert? hins.payments).mpr (.inr rfl)
  have hpay : b'.payments = inserted.settledPayments o req plan := by rw [ht.frame]
  have hstatus := hins.status
  rw [hs.paymentStatus] at hstatus
  unfold HasTender
  rw [hpay]
  unfold settledPayments
  cases hforce : req.forceCompleted with
  | true =>
    rw [if_neg (by simp)]
    rw [if_pos (.inl hforce)] at hstatus
    exact ⟨row, hrow, hins.orderId, hins.isDeleted, hstatus, hins.method ▸ hm⟩
  | false =>
    rw [if_pos ⟨rfl, htarget⟩]
    by_cases hpending : row.status = .pending
    · refine ⟨{ row with status := .completed }, ?_, hins.orderId, hins.isDeleted, rfl,
        hins.method ▸ hm⟩
      rw [updateCashTransferToCompleted, Table.mem_updateWhere]
      refine ⟨row, hrow, (if_pos ?_).symm⟩
      have hmem := List.contains_iff_mem.mpr (PaymentMethod.mem_cash_transfer.mpr hm)
      rw [hins.orderId, hins.isDeleted, hins.method, hpending, hmem]
      simp
    · have hdone : row.status = .completed := by
        cases h : row.status with
        | pending => exact absurd h hpending
        | completed => rfl
      refine ⟨row, ?_, hins.orderId, hins.isDeleted, hdone, hins.method ▸ hm⟩
      rw [updateCashTransferToCompleted, Table.mem_updateWhere]
      exact ⟨row, hrow, by simp [hdone]⟩

theorem Inserted.ledgerEntries (hins : b.Inserted ctx o req plan row inserted) :
    inserted.ledgerEntries = b.ledgerEntries := by
  rw [hins.frame]

/-- A payment keeps the postings backed, whatever its amount. -/
theorem Backed.executed {res : CanonicalPaymentResult} (hb : b.Backed)
    (hx : b.Executed ctx o req plan row inserted b' res) :
    b'.Backed := by
  have hins := hx.insert
  rcases hx.cases with ⟨hs, hm, ⟨hold', ht⟩, -⟩ | ⟨hs, hm, ht, -⟩ | ⟨hc, ht, -⟩
  · have hkept : ∀ id, b.HasTender id → b'.HasTender id := fun id h =>
      hasTender_settledPayments (by rw [ht.frame]) (hins.hasTender h)
    intro e he hrec
    have hledger := ht.ledger
    rw [hins.ledgerEntries] at hledger
    unfold LedgerSettled at hledger
    split at hledger
    · next hpaid =>
      obtain ⟨m, n, -, -, hposted⟩ := hledger
      rw [hposted] at he
      rcases List.mem_append.mp he with he | he
      · exact hkept _ (hb e he hrec)
      · have href : e.referenceId = o.id := by
          rcases List.mem_cons.mp he with rfl | he
          · rfl
          · rw [List.mem_singleton.mp he]
        exact href ▸ ht.hasTender hs hm hins hpaid.1
    · rw [hledger] at he
      exact hkept _ (hb e he hrec)
  · intro e he hrec
    have hentries : b'.ledgerEntries = b.ledgerEntries := by
      rw [ht.frame]
      exact hins.ledgerEntries
    rw [hentries] at he
    exact hasTender_settledPayments (by rw [ht.frame]) (hins.hasTender (hb e he hrec))
  · have hpay : b'.payments = inserted.payments := by rw [ht.frame]
    have hrow : row ∈ b'.payments := by
      rw [hpay]
      exact (Table.mem_insert? hins.payments).mpr (.inr rfl)
    intro e he hrec
    obtain ⟨m, n, -, -, hposted⟩ := ht.ledger
    rw [hposted, hins.ledgerEntries] at he
    rcases List.mem_append.mp he with he | he
    · exact (hins.hasTender (hb e he hrec)).congr hpay
    · have href : e.referenceId = o.id := by
        rcases List.mem_cons.mp he with rfl | he
        · rfl
        · rw [List.mem_singleton.mp he]
      exact href ▸ ⟨row, hrow, hins.orderId, hins.isDeleted,
        hins.status.trans hc.paymentStatus, hins.method ▸ hc.method⟩

theorem Backed.step (hb : b.Backed) (h : Step tenantId admitted b b') : b'.Backed := by
  cases h with
  | create _ _ _ _ _ | drop _ _ _ _ _ | confirm _ _ _ _ _ _ _ | cancel _ _ _ _ _ _ _ _ _
  | fulfill _ _ _ => exact hb
  | «return» o ho hst _ _ =>
    intro e he hrec
    rcases List.mem_append.mp he with he | he
    · exact hb e he hrec
    · -- the return posts revenue and cash
      rcases List.mem_cons.mp he with rfl | he
      · simp at hrec
      · rw [List.mem_singleton] at he
        simp [he] at hrec
  | pay o req _ _ _ hx => exact hb.executed hx

/-! ## The reconciliation -/

end Books

/-! ## Every reachable state -/

end Mpango
