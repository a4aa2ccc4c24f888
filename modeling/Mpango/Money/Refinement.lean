import Mpango.Money.Account
import Mpango.Money.Step

/-!
# The books refine the accounts

`Books.account` reads an order's account off the tables. A write on the books, for a whole number
of cents, is one step of one account: the order's own account takes the step, every other order
keeps its hold and its payments, and the balance of the order's pair moves by the cents of the
step (`Step.advance`).
-/

namespace Mpango

open Decimal

namespace Books

/-! ## Reading an account -/

/-- The amounts of an order's live payments by certain methods, in cents. -/
def methodAmounts (b : Books) (orderId : Uuid) (methods : List PaymentMethod) : List ℤ :=
  (b.orderPayments orderId methods).map fun p => p.amount.unscaled

/-- A hold in cents. -/
def holdCents (h : CreditHold) : Hold :=
  ⟨h.status, h.amount.unscaled, h.remainingAmount.unscaled⟩

/-- An order's account. -/
def account (b : Books) (o : Order) : Account where
  status := o.status
  total := o.totalAmount.unscaled
  hold := (b.creditHolds.find? o.id).map holdCents
  tenders := b.methodAmounts o.id [.cash, .transfer]
  credits := b.methodAmounts o.id [.credit]

variable {b b' inserted : Books} {o : Order} {req : PaymentRequest} {plan : PaymentPlan}
  {row : Payment} {ctx : InsertContext}

theorem account_hold {h : CreditHold} (hf : b.creditHolds.find? o.id = some h) :
    (b.account o).hold = some ⟨h.status, h.amount.unscaled, h.remainingAmount.unscaled⟩ := by
  simp [account, hf, holdCents]

theorem account_tenders_sum :
    (b.account o).tenders.sum = b.methodCents o.id [.cash, .transfer] := rfl

/-- Nothing is banked or refunded for an order that is neither settled nor sold. -/
theorem account_of_open
    (h : o.status ≠ .paid ∧ o.status ≠ .fulfilled ∧ o.status ≠ .returned) :
    (b.account o).banked = 0 ∧ (b.account o).refunded = 0 := by
  obtain ⟨hpaid, hfulfilled, hreturned⟩ := h
  refine ⟨Account.banked_of_not_paid ?_, Account.refunded_of_not_returned hreturned⟩
  rintro (h | h | h)
  · exact hpaid h
  · exact hfulfilled h
  · exact hreturned h

/-- Equal tables give equal accounts. -/
theorem account_congr (hh : b'.creditHolds.find? o.id = b.creditHolds.find? o.id)
    (hp : ∀ methods, b'.methodAmounts o.id methods = b.methodAmounts o.id methods) :
    b'.account o = b.account o := by
  simp only [account, hh, hp]

/-- An insert appends the row's amount to the lists of its order and method. -/
theorem Inserted.methodAmounts (h : b.Inserted ctx o req plan row inserted) (id : Uuid)
    (methods : List PaymentMethod) : inserted.methodAmounts id methods =
      b.methodAmounts id methods ++
        if o.id = id ∧ req.method ∈ methods then [row.amount.unscaled] else [] := by
  unfold Books.methodAmounts orderPayments
  rw [Table.select_insert? h.payments, List.map_append]
  congr 1
  have hp : (row.orderId = id && !row.isDeleted && methods.contains row.method) = true ↔
      o.id = id ∧ req.method ∈ methods := by
    rw [h.orderId, h.isDeleted, h.method]
    simp
  by_cases hc : o.id = id ∧ req.method ∈ methods
  · rw [if_pos (hp.mpr hc), if_pos hc]
    rfl
  · rw [if_neg (mt hp.mp hc), if_neg hc]
    rfl

/-- Completing payments changes no amount. -/
theorem methodAmounts_settledPayments (hp : b'.payments = b.settledPayments o req plan) (id : Uuid)
    (methods : List PaymentMethod) : b'.methodAmounts id methods = b.methodAmounts id methods := by
  unfold methodAmounts orderPayments
  rw [hp]
  unfold settledPayments
  split
  · refine Table.map_select_updateWhere ?_ ?_ ?_ <;> exact fun _ => rfl
  · rfl

/-- The new row names its order's retailer. -/
theorem Inserted.payers (h : b.Inserted ctx o req plan row inserted) {p : Payment}
    (hp : p ∈ inserted.payments) :
    (∃ q ∈ b.payments, q.orderId = p.orderId ∧ q.retailerId = p.retailerId) ∨
      p.orderId = o.id ∧ p.retailerId = o.retailerId := by
  rcases (Table.mem_insert? h.payments).mp hp with hp | rfl
  · exact .inl ⟨p, hp, rfl, rfl⟩
  · exact .inr ⟨h.orderId, h.retailerId⟩

/-- Completing payments changes no order and no retailer. -/
theorem Inserted.payers_of_settled (h : b.Inserted ctx o req plan row inserted)
    (hset : b'.payments = inserted.settledPayments o req plan) {p : Payment}
    (hp : p ∈ b'.payments) :
    (∃ q ∈ b.payments, q.orderId = p.orderId ∧ q.retailerId = p.retailerId) ∨
      p.orderId = o.id ∧ p.retailerId = o.retailerId := by
  rw [hset] at hp
  unfold settledPayments at hp
  split at hp
  · rw [updateCashTransferToCompleted, Table.mem_updateWhere] at hp
    obtain ⟨q, hq, rfl⟩ := hp
    have hpayer := h.payers hq
    split <;> exact hpayer
  · exact h.payers hp

/-! ## One account takes a step -/

/-- What a command posts for an order: cash it received, cash it refunds, or nothing. -/
inductive Posts (before : List LedgerEntry) (id : Uuid) : ℤ → ℤ → List LedgerEntry → Prop
  | nothing : Posts before id 0 0 before
  | received {after : List LedgerEntry} (cents : ℤ) :
      Posted before .cash .receivable cents .order id after → Posts before id cents 0 after
  | refunded {after : List LedgerEntry} (cents : ℤ) :
      Posted before .revenue .cash cents .refund id after → Posts before id 0 cents after

/-- The order moved to `target`, its account took a step, and its pair's balance moved by the
cents of the step; what was banked and refunded by the step was posted; no other order's hold or
payments changed. -/
structure Advance (b b' : Books) (o : Order) (target : OrderState) (delta : ℤ) : Prop where
  mem : o ∈ b.orders
  orders : b'.orders = b.orders.set { o with status := target }
  step : Account.Step (b.account o) delta (b'.account { o with status := target })
  holds : ∀ id, id ≠ o.id → b'.creditHolds.find? id = b.creditHolds.find? id
  amounts : ∀ id, id ≠ o.id → ∀ methods, b'.methodAmounts id methods = b.methodAmounts id methods
  payers : ∀ p ∈ b'.payments,
    (∃ q ∈ b.payments, q.orderId = p.orderId ∧ q.retailerId = p.retailerId) ∨
      p.orderId = o.id ∧ p.retailerId = o.retailerId
  balance : delta = 0 ∧ b'.bindings = b.bindings ∨
    BalanceMoved b.bindings o.wholesalerId o.retailerId delta b'.bindings
  ledger : Posts b.ledgerEntries o.id
    ((b'.account { o with status := target }).banked - (b.account o).banked)
    ((b'.account { o with status := target }).refunded - (b.account o).refunded) b'.ledgerEntries

/-- An order that is not there after a step was not there before, and is not the one that took
the step. -/
theorem Advance.absent {target : OrderState} {delta : ℤ} (h : Advance b b' o target delta)
    {id : Uuid} (hid : b'.orders.find? id = none) : b.orders.find? id = none ∧ id ≠ o.id := by
  have hne : id ≠ o.id := by
    rintro rfl
    rw [h.orders] at hid
    have hfound : b.orders.find? o.id = some o := Table.find?_key h.mem
    have hset := Table.find?_set_self (r := { o with status := target }) hfound
    rw [key_order] at hset
    simp [hset] at hid
  rw [h.orders, Table.find?_set_of_ne (by simpa using hne)] at hid
  exact ⟨hid, hne⟩

/-- A write of the status alone. -/
theorem advance_assignStatus {target : OrderState} (ho : o ∈ b.orders)
    (hpay : b'.payments = b.payments) (hholds : b'.creditHolds = b.creditHolds)
    (horders : b'.orders = b.orders.set { o with status := target })
    (hbind : b'.bindings = b.bindings)
    (hstep : Account.Step (b.account o) 0 { b.account o with status := target })
    (hledger : Posts b.ledgerEntries o.id
      (Account.banked { b.account o with status := target } - (b.account o).banked)
      (Account.refunded { b.account o with status := target } - (b.account o).refunded)
      b'.ledgerEntries) :
    Advance b b' o target 0 := by
  have hamounts : ∀ id methods, b'.methodAmounts id methods = b.methodAmounts id methods := by
    intro id methods
    unfold methodAmounts orderPayments
    rw [hpay]
  refine
    { mem := ho, orders := horders, step := ?_, holds := fun _ _ => by rw [hholds]
      amounts := fun id _ => hamounts id
      payers := fun p hp => .inl ⟨p, hpay ▸ hp, rfl, rfl⟩, balance := .inl ⟨rfl, hbind⟩
      ledger := ?_ }
  · simpa only [account, hholds, hamounts] using hstep
  · simpa only [account, hholds, hamounts] using hledger

/-- In whole cents a settlement rounds nothing: row, hold and balance move by the same cents, and
the order is paid exactly when the hold is used up. -/
structure TenderedCents (b b' : Books) (o : Order) (plan : PaymentPlan) (row : Payment)
    (hold' : CreditHold) (z : ℤ) : Prop where
  row : row.amount.unscaled = z
  remaining : hold'.remainingAmount.unscaled = plan.hold.remainingAmount.unscaled - z
  status : hold'.status = if plan.hold.remainingAmount.unscaled = z then .settled else .active
  amount : hold'.amount = o.totalAmount
  target : plan.targetState =
    if plan.hold.remainingAmount.unscaled = z then .paid else .partiallyPaid
  key : hold'.orderId = o.id
  find : b'.creditHolds.find? o.id = some hold'
  balance : BalanceMoved b.bindings o.wholesalerId o.retailerId (-z) b'.bindings

theorem Tendered.cents {hold' : CreditHold} {z : ℤ} (hs : b.Settlement o req plan)
    (hm : req.method ≠ .credit) (hins : b.Inserted ctx o req plan row inserted)
    (hz : req.amount = scaled 2 z) (hpos : 0 < z) (ht : inserted.Tendered o req plan hold' b') :
    TenderedCents b b' o plan row hold' z := by
  have hbound := plan.hold.remainingAmount.bound
  have hrem := hs.remaining
  have hle : z ≤ plan.hold.remainingAmount.unscaled := by
    have := hs.le_remaining hm
    rwa [hz, Numeric.toDecimal, scaled_le_scaled] at this
  have hsub : Decimal.sub plan.hold.remainingAmount.toDecimal req.amount =
      scaled 2 (plan.hold.remainingAmount.unscaled - z) := by
    rw [hz, Numeric.toDecimal, sub_scaled (by unfold contextPrecision; omega)]
  have hrow : row.amount.unscaled = z := by
    have := hins.amount
    rwa [hz, storeMoney_scaled] at this
  have hleft : hold'.remainingAmount.unscaled = plan.hold.remainingAmount.unscaled - z := by
    have := ht.remaining
    rwa [hsub, storeMoney_scaled] at this
  have hstatus : hold'.status =
      if plan.hold.remainingAmount.unscaled = z then .settled else .active := by
    have hst := congrArg CreditHold.status ht.hold
    exact hst.trans (if_congr (by rw [hsub, scaled_eq_zero, sub_eq_zero]) rfl hs.active)
  have htarget : plan.targetState =
      if plan.hold.remainingAmount.unscaled = z then .paid else .partiallyPaid := by
    rw [hs.target, settlementTarget, getOrderPaidTotal, getOrderMethodTotal_eq, hz]
    have hT := o.totalAmount.bound
    rw [add_scaled (by unfold contextPrecision; omega), Numeric.toDecimal]
    refine if_congr (scaled_le_scaled.trans ⟨fun h => ?_, fun h => ?_⟩) rfl rfl <;> omega
  have hkey : hold'.orderId = o.id := by
    rw [ht.hold]
    exact Table.key_of_find? hs.find
  have hfind : b'.creditHolds.find? o.id = some hold' := by
    rw [ht.frame, hins.frame, ← hkey]
    exact Table.find?_set_self (hkey ▸ hs.find)
  have hbal := ht.balance
  rw [hz, neg_scaled_eq (by unfold contextPrecision; omega), hins.frame] at hbal
  exact
    { row := hrow, remaining := hleft, status := hstatus, amount := by rw [ht.hold, hs.amount]
      target := htarget, key := hkey, find := hfind, balance := hbal.moved }

/-- A settlement by a whole number of cents is a step of the order's account. -/
theorem Tendered.advance {hold' : CreditHold} {z : ℤ} (ho : o ∈ b.orders)
    (hs : b.Settlement o req plan) (hm : req.method ≠ .credit)
    (hins : b.Inserted ctx o req plan row inserted) (hz : req.amount = scaled 2 z) (hpos : 0 < z)
    (ht : inserted.Tendered o req plan hold' b') :
    Advance b b' o plan.targetState (-z) := by
  have hc := ht.cents hs hm hins hz hpos
  have hrem := hs.remaining
  rw [← account_tenders_sum] at hrem
  have hle : 0 ≤ plan.hold.remainingAmount.unscaled - z := by
    have := hs.le_remaining hm
    rw [hz, Numeric.toDecimal, scaled_le_scaled] at this
    omega
  have hpay : ∀ id methods, b'.methodAmounts id methods = inserted.methodAmounts id methods :=
    methodAmounts_settledPayments (by rw [ht.frame])
  have htenders : b'.methodAmounts o.id [.cash, .transfer] = (b.account o).tenders ++ [z] := by
    rw [hpay, hins.methodAmounts, if_pos ⟨rfl, PaymentMethod.mem_cash_transfer.mpr hm⟩, hc.row]
    rfl
  refine
    { mem := ho, orders := by rw [ht.frame, hins.frame], step := ?_, holds := fun id hid => ?_
      amounts := fun id hid methods => ?_, payers := fun p hp => ?_, balance := .inr hc.balance
      ledger := ?_ }
  · have hhold := account_hold (b := b) hs.find
    rw [hs.active, hs.amount, hrem] at hhold
    have hcredits : b'.methodAmounts o.id [.credit] = (b.account o).credits := by
      rw [hpay, hins.methodAmounts, if_neg (by simp [hm]), List.append_nil]
      rfl
    have hstatus := hc.status
    have htarget := hc.target
    have hleft := hc.remaining
    by_cases hfull : plan.hold.remainingAmount.unscaled = z
    · have hstep := Account.Step.settleFull (a := b.account o) z hs.status hhold hpos
        (hfull ▸ hrem)
      rw [if_pos hfull] at hstatus htarget
      have hzero : hold'.remainingAmount.unscaled = 0 := by omega
      simp only [account, htarget, hc.find, Option.map_some, holdCents, hstatus, hc.amount, hzero,
        htenders, hcredits]
      exact hstep
    · have hlt : z < o.totalAmount.unscaled - (b.account o).tenders.sum := by omega
      have hstep := Account.Step.settlePart (a := b.account o) z hs.status hhold hpos hlt
      rw [if_neg hfull] at hstatus htarget
      rw [hrem] at hleft
      simp only [account, htarget, hc.find, Option.map_some, holdCents, hstatus, hc.amount, hleft,
        htenders, hcredits]
      exact hstep
  · rw [ht.frame, hins.frame]
    exact Table.find?_set_of_ne (by rw [key_creditHold, hc.key]; exact hid)
  · rw [hpay, hins.methodAmounts, if_neg fun h => hid h.1.symm, List.append_nil]
  · exact hins.payers_of_settled (by rw [ht.frame]) hp
  · -- settling in full posts the total, which is what the order's tenders come to
    have hledger := ht.ledger
    have htarget := hc.target
    obtain ⟨hbefore, hrefunded⟩ := account_of_open (b := b) (o := o)
      (by rcases hs.status with hst | hst <;> simp [hst])
    rw [hbefore, hrefunded, sub_zero, sub_zero]
    by_cases hfull : plan.hold.remainingAmount.unscaled = z
    · rw [if_pos hfull] at htarget
      rw [LedgerSettled, if_pos ⟨htarget, hm⟩, hins.frame] at hledger
      have hsum : (b'.methodAmounts o.id [.cash, .transfer]).sum = o.totalAmount.unscaled := by
        rw [htenders, List.sum_append, List.sum_singleton]
        omega
      rw [htarget, Account.banked_of_paid (.inl rfl), Account.refunded_of_not_returned (by intro h; cases h)]
      show Posts _ _ (b'.methodAmounts o.id [.cash, .transfer]).sum 0 _
      rw [hsum]
      exact .received _ hledger
    · rw [if_neg hfull] at htarget
      rw [LedgerSettled, if_neg (by simp [htarget]), hins.frame] at hledger
      obtain ⟨hbanked, hrefunded'⟩ := account_of_open (b := b')
        (o := { o with status := plan.targetState }) (by simp [htarget])
      rw [hbanked, hrefunded', hledger]
      exact .nothing

/-- A credit sale is a step of the order's account; the balance stays where it is. -/
theorem Sold.advance (ho : o ∈ b.orders) (hs : b.Settlement o req plan)
    (hm : req.method = .credit) (hins : b.Inserted ctx o req plan row inserted)
    (ht : inserted.Sold o req plan b') : Advance b b' o plan.targetState 0 := by
  obtain ⟨hcount, hpaid, hamount⟩ := hs.credit hm
  have hrow : row.amount.unscaled = o.totalAmount.unscaled := by
    have := hins.amount
    rwa [hamount, Numeric.toDecimal, storeMoney_scaled] at this
  have hrem := hs.remaining
  have hbound := o.totalAmount.bound
  have htarget : plan.targetState = .paid := by
    rw [hs.target, settlementTarget, getOrderPaidTotal, getOrderMethodTotal_eq, hpaid, hamount,
      Numeric.toDecimal, add_scaled (by unfold contextPrecision; omega), if_pos (by simp)]
  have hkey : plan.hold.orderId = o.id := Table.key_of_find? hs.find
  have hfind : b'.creditHolds.find? o.id =
      some { plan.hold with status := .converted, remainingAmount := .zero } := by
    rw [ht.frame, hins.frame, ← hkey]
    exact Table.find?_set_self (hkey ▸ hs.find)
  have hpay : ∀ id methods, b'.methodAmounts id methods = inserted.methodAmounts id methods :=
    methodAmounts_settledPayments (by rw [ht.frame])
  have htenders : b'.methodAmounts o.id [.cash, .transfer] = (b.account o).tenders := by
    rw [hpay, hins.methodAmounts, if_neg (by simp [hm]), List.append_nil]
    rfl
  refine
    { mem := ho, orders := by rw [ht.frame, hins.frame], step := ?_, holds := fun id hid => ?_
      amounts := fun id hid methods => ?_, payers := fun p hp => ?_
      balance := .inl ⟨rfl, by rw [ht.frame, hins.frame]⟩, ledger := ?_ }
  · have hhold := account_hold (b := b) hs.find
    rw [hpaid, sub_zero] at hrem
    rw [hs.active, hs.amount, hrem] at hhold
    have hnone : (b.account o).credits = [] := by
      have hlen := List.length_eq_zero_iff.mp hcount
      simp only [account, methodAmounts, hlen, List.map_nil]
    have hcredits : b'.methodAmounts o.id [.credit] = [o.totalAmount.unscaled] := by
      have hcr : b.methodAmounts o.id [.credit] = [] := hnone
      rw [hpay, hins.methodAmounts, if_pos (by simp [hm]), hcr, hrow, List.nil_append]
    have hstep := Account.Step.sell (a := b.account o) hs.status hhold hpaid hnone
    simp only [account, htarget, hfind, Option.map_some, holdCents, htenders, hcredits, hs.amount,
      Numeric.zero_unscaled]
    exact hstep
  · rw [ht.frame, hins.frame]
    exact Table.find?_set_of_ne (by rw [key_creditHold, hkey]; exact hid)
  · rw [hpay, hins.methodAmounts, if_neg fun h => hid h.1.symm, List.append_nil]
  · exact hins.payers_of_settled (by rw [ht.frame]) hp
  · -- nothing was tendered, and nothing is posted
    obtain ⟨hbefore, hrefunded⟩ := account_of_open (b := b) (o := o)
      (by rcases hs.status with hst | hst <;> simp [hst])
    have hzero : (b'.methodAmounts o.id [.cash, .transfer]).sum = 0 := htenders.symm ▸ hpaid
    have hledger : b'.ledgerEntries = b.ledgerEntries := by rw [ht.frame, hins.frame]
    rw [hbefore, hrefunded, hledger, sub_zero, sub_zero, htarget,
      Account.banked_of_paid (.inl rfl), Account.refunded_of_not_returned (by intro h; cases h)]
    show Posts _ _ (b'.methodAmounts o.id [.cash, .transfer]).sum 0 _
    rw [hzero]
    exact .nothing

/-- A collection of a whole number of cents is a step of the order's account. -/
theorem Collected.advance {z : ℤ} (ho : o ∈ b.orders) (hc : b.Collection o req plan)
    (hins : b.Inserted ctx o req plan row inserted) (hz : req.amount = scaled 2 z) (hpos : 0 < z)
    (ht : inserted.Collected o req b') : Advance b b' o .paid (-z) := by
  have hrow : row.amount.unscaled = z := by
    have := hins.amount
    rwa [hz, storeMoney_scaled] at this
  have hbound := o.totalAmount.bound
  have hnn := hc.history.methodCents_nonneg [.cash, .transfer]
  have hle : z ≤ o.totalAmount.unscaled - (b.account o).tenders.sum := by
    have := hc.le_exposure
    rwa [hz, scaled_le_scaled] at this
  rw [← account_tenders_sum] at hnn
  have hsame : ({ o with status := .paid } : Order) = o := by rw [← hc.status]
  have hpay : ∀ id methods, b'.methodAmounts id methods = inserted.methodAmounts id methods := by
    intro id methods
    unfold methodAmounts orderPayments
    rw [ht.frame]
  have htenders : b'.methodAmounts o.id [.cash, .transfer] = (b.account o).tenders ++ [z] := by
    rw [hpay, hins.methodAmounts, if_pos ⟨rfl, PaymentMethod.mem_cash_transfer.mpr hc.method⟩, hrow]
    rfl
  have hbal := ht.balance
  rw [hz, neg_scaled_eq (by unfold contextPrecision; omega)] at hbal
  refine
    { mem := ho, orders := ?_, step := ?_, holds := fun id _ => by rw [ht.frame, hins.frame]
      amounts := fun id hid methods => ?_, payers := fun p hp => ?_, balance := .inr ?_
      ledger := ?_ }
  · rw [ht.frame, hins.frame, hsame]
    exact (Table.set_of_mem ho).symm
  · rw [hsame]
    have hhold := account_hold (b := b) hc.find
    rw [hc.converted, hc.amount, hc.remaining] at hhold
    have hfind : b'.creditHolds.find? o.id = b.creditHolds.find? o.id := by
      rw [ht.frame, hins.frame]
    have hcredits : b'.methodAmounts o.id [.credit] = (b.account o).credits := by
      rw [hpay, hins.methodAmounts, if_neg (by simp [hc.method]), List.append_nil]
      rfl
    have hstep := Account.Step.collect (a := b.account o) z hc.status hhold hpos hle
    have hafter : b'.account o = { b.account o with tenders := (b.account o).tenders ++ [z] } := by
      rw [account, hfind, htenders, hcredits]
      rfl
    rw [hafter]
    exact hstep
  · rw [hpay, hins.methodAmounts, if_neg fun h => hid h.1.symm, List.append_nil]
  · rw [ht.frame] at hp
    exact hins.payers hp
  · have := hbal.moved
    rwa [hins.frame] at this
  · obtain ⟨m, n, hm, hn, hledger⟩ := ht.ledger
    rw [hz, storeLedgerAmount_scaled] at hm
    rw [hz, neg_scaled_eq (by unfold contextPrecision; omega), storeLedgerAmount_scaled] at hn
    rw [hins.frame] at hledger
    have hsum : (b'.methodAmounts o.id [.cash, .transfer]).sum = (b.account o).tenders.sum + z := by
      rw [htenders, List.sum_append, List.sum_singleton]
    rw [Account.banked_of_paid (.inl rfl), Account.banked_of_paid (.inl hc.status),
      Account.refunded_of_not_returned (by nofun), Account.refunded_of_not_returned
        (a := b.account o) (by rw [show (b.account o).status = .paid from hc.status]; simp)]
    show Posts _ _ ((b'.methodAmounts o.id [.cash, .transfer]).sum - _) _ _
    rw [hsum, add_sub_cancel_left]
    exact .received z ⟨m, n, hm, hn, hledger⟩

/-- **Refinement.** A write in whole cents creates an order, or is one step of one account. -/
theorem Step.advance {tenantId : Uuid} (h : Step tenantId PaymentRequest.WholeCent b b') :
    (∃ o orders, b.orders.insert? o = some orders ∧ o.wholesalerId = tenantId ∧
      o.status = .draft ∧ o.isDeleted = false ∧ b' = { b with orders }) ∨
    ∃ o target delta, Advance b b' o target delta := by
  cases h with
  | create o hins hw hst hdel => exact .inl ⟨o, _, hins, hw, hst, hdel, rfl⟩
  | drop o target ho hst ht =>
    refine .inr ⟨o, target, 0,
      advance_assignStatus ho rfl rfl rfl rfl (.drop target hst ht) ?_⟩
    have hafter : target ≠ .paid ∧ target ≠ .fulfilled ∧ target ≠ .returned := by
      rcases ht with rfl | rfl <;> simp
    obtain ⟨hbefore, hrefunded⟩ := account_of_open (b := b) (o := o) (by simp [hst])
    rw [hbefore, hrefunded, Account.banked_of_not_paid (by simp [hafter]),
      Account.refunded_of_not_returned hafter.2.2, sub_self]
    exact .nothing
  | confirm o ho hst hT hnone hins hmoved =>
    refine .inr ⟨o, .confirmed, _,
      { mem := ho, orders := rfl, step := ?_, holds := ?_, amounts := fun _ _ _ => rfl
        payers := fun p hp => .inl ⟨p, hp, rfl, rfl⟩, balance := .inr hmoved, ledger := ?_ }⟩
    · have hstep := Account.Step.reserve (a := b.account o) hst hT
      simp only [account, Table.find?_insert? hins, key_creditHold, if_true, Option.map_some]
      exact hstep
    · intro id hid
      rw [Table.find?_insert? hins, key_creditHold, if_neg hid]
    · obtain ⟨hbefore, hrefunded⟩ := account_of_open (b := b) (o := o) (by simp [hst])
      rw [hbefore, hrefunded, (account_of_open (o := { o with status := .confirmed }) (by simp)).1,
        (account_of_open (o := { o with status := .confirmed }) (by simp)).2, sub_self]
      exact .nothing
  | cancel o hold ho hst hf hact hamt hrem hmoved =>
    have hkey : hold.orderId = o.id := Table.key_of_find? hf
    refine .inr ⟨o, .cancelled, _,
      { mem := ho, orders := rfl, step := ?_, holds := ?_, amounts := fun _ _ _ => rfl
        payers := fun p hp => .inl ⟨p, hp, rfl, rfl⟩, balance := .inr hmoved, ledger := ?_ }⟩
    · have hhold := account_hold (b := b) hf
      rw [hact, hamt, hrem] at hhold
      have hstep := Account.Step.release (a := b.account o) hst hhold
      have hfind : (b.creditHolds.set
          { hold with status := .released, remainingAmount := .zero }).find? o.id =
          some { hold with status := .released, remainingAmount := .zero } := by
        rw [← hkey]
        exact Table.find?_set_self (hkey ▸ hf)
      simp only [account, hfind, Option.map_some, holdCents, Numeric.zero_unscaled]
      rw [hamt]
      exact hstep
    · intro id hid
      exact Table.find?_set_of_ne (by rw [key_creditHold, hkey]; exact hid)
    · obtain ⟨hbefore, hrefunded⟩ := account_of_open (b := b) (o := o) (by simp [hst])
      rw [hbefore, hrefunded, (account_of_open (o := { o with status := .cancelled }) (by simp)).1,
        (account_of_open (o := { o with status := .cancelled }) (by simp)).2, sub_self]
      exact .nothing
  | pay o req ho hdel hreq hx =>
    obtain ⟨z, hz⟩ := hreq
    have hpos : 0 < z := by
      have := hx.positive
      rwa [hz, scaled_pos] at this
    rcases hx.cases with ⟨hs, hm, ⟨hold', ht⟩, -⟩ | ⟨hs, hm, ht, -⟩ | ⟨hc, ht, -⟩
    · exact .inr ⟨o, _, _, ht.advance ho hs hm hx.insert hz hpos⟩
    · exact .inr ⟨o, _, _, ht.advance ho hs hm hx.insert⟩
    · exact .inr ⟨o, _, _, ht.advance ho hc hx.insert hz hpos⟩
  | fulfill o ho hst =>
    refine .inr ⟨o, .fulfilled, 0, advance_assignStatus ho rfl rfl rfl rfl (.fulfil hst) ?_⟩
    rw [Account.banked_of_paid (.inr (.inl rfl)), Account.banked_of_paid (.inl hst),
      Account.refunded_of_not_returned (by nofun), Account.refunded_of_not_returned
        (a := b.account o) (by rw [show (b.account o).status = .paid from hst]; simp), sub_self]
    exact .nothing
  | @«return» m n o ho hst hm hn =>
    refine .inr ⟨o, .returned, 0, advance_assignStatus ho rfl rfl rfl rfl (.return hst) ?_⟩
    rw [Account.banked_of_paid (.inr (.inr rfl)), Account.banked_of_paid (.inr (.inl hst)),
      Account.refunded_of_returned rfl, Account.refunded_of_not_returned
        (a := b.account o) (by rw [show (b.account o).status = .fulfilled from hst]; simp),
      sub_self, sub_zero]
    exact .refunded _ ⟨m, n, hm, hn, rfl⟩

end Books

end Mpango
