import Mpango.Money.Refinement

/-!
# The lifecycle of holds and payments

Every reachable state of a tenant is sound: each order has the hold and the payments its status
calls for, and an order that does not exist has neither. The invariant is kept by a step of one
account (`Sound.advance`) and by the creation of a draft (`Sound.create`); the rest is induction
over the run.
-/

namespace Mpango

open Decimal

namespace Books

/-- Every order is the tenant's own and live, its account is sound, and every hold and every payment
belongs to an order, the payment to its order's retailer. -/
structure Sound (tenantId : Uuid) (b : Books) : Prop where
  tenant : ∀ o ∈ b.orders, o.wholesalerId = tenantId
  live : ∀ o ∈ b.orders, o.isDeleted = false
  accounts : ∀ o ∈ b.orders, (b.account o).Sound
  absent_hold : ∀ id, b.orders.find? id = none → b.creditHolds.find? id = none
  attributed : ∀ p ∈ b.payments, ∃ o ∈ b.orders, o.id = p.orderId ∧ o.retailerId = p.retailerId

variable {tenantId : Uuid} {b b' : Books} {o : Order}

/-- An order that does not exist has no payments. -/
theorem Sound.absent_amounts (hs : b.Sound tenantId) {id : Uuid}
    (h : b.orders.find? id = none) (methods : List PaymentMethod) :
    b.methodAmounts id methods = [] := by
  unfold methodAmounts
  rw [List.map_eq_nil_iff, List.eq_nil_iff_forall_not_mem]
  intro p hp
  obtain ⟨hmem, hid, -⟩ := mem_orderPayments.mp hp
  obtain ⟨o, ho, ho', -⟩ := hs.attributed p hmem
  exact Table.find?_eq_none.mp h o ho (ho'.trans hid)

/-- The payments of an order are positive and name its retailer. -/
theorem Sound.validHistory (hs : b.Sound tenantId) (ho : o ∈ b.orders) : b.ValidHistory o := by
  intro p hp hid hlive
  constructor
  · have hmem : ∀ methods : List PaymentMethod, p.method ∈ methods →
        p.amount.unscaled ∈ b.methodAmounts o.id methods := by
      intro methods hm
      exact List.mem_map_of_mem (mem_orderPayments.mpr ⟨hp, hid, hlive, hm⟩)
    by_cases hm : p.method = .credit
    · exact (hs.accounts o ho).credits_pos _ (hmem [.credit] (by simp [hm]))
    · exact (hs.accounts o ho).tenders_pos _ (hmem _ (PaymentMethod.mem_cash_transfer.mpr hm))
  · obtain ⟨x, hx, hxid, hret⟩ := hs.attributed p hp
    obtain rfl : x = o := Table.eq_of_key_eq hx ho (hxid.trans hid)
    exact hret.symm

/-- A draft without hold and payments is sound. -/
theorem account_sound_of_draft (hst : o.status = .draft) (hhold : b.creditHolds.find? o.id = none)
    (hamounts : ∀ methods, b.methodAmounts o.id methods = []) : (b.account o).Sound := by
  have hold : (b.account o).hold = none := by simp [account, hhold]
  have htenders : (b.account o).tenders = [] := hamounts _
  have hcredits : (b.account o).credits = [] := hamounts _
  have hshape : (b.account o).Shape := by
    have hst' : (b.account o).status = .draft := hst
    simp only [Account.Shape, hst']
    exact ⟨hold, htenders, hcredits⟩
  exact
    { shape := hshape, tenders_pos := htenders.symm ▸ List.forall_mem_nil _
      credits_pos := hcredits.symm ▸ List.forall_mem_nil _
      total_pos := fun h => absurd hold h }

theorem Sound.create {orders : Table Order} (hs : b.Sound tenantId)
    (hins : b.orders.insert? o = some orders) (hw : o.wholesalerId = tenantId)
    (hst : o.status = .draft) (hdel : o.isDeleted = false) :
    ({ b with orders } : Books).Sound tenantId := by
  have hnew := (Table.insert?_eq_some.mp hins).1
  have habsent : ∀ id, orders.find? id = none → b.orders.find? id = none := by
    intro id h
    rw [Table.find?_insert? hins] at h
    split at h
    · simp at h
    · exact h
  refine
    { tenant := fun x hx => ?_, live := fun x hx => ?_, accounts := fun x hx => ?_
      absent_hold := fun id h => hs.absent_hold id (habsent id h)
      attributed := fun p hp => ?_ }
  rotate_right
  · obtain ⟨x, hx, hpay⟩ := hs.attributed p hp
    exact ⟨x, (Table.mem_insert? hins).mpr (.inl hx), hpay⟩
  all_goals rcases (Table.mem_insert? hins).mp hx with hx | rfl
  · exact hs.tenant x hx
  · exact hw
  · exact hs.live x hx
  · exact hdel
  · exact hs.accounts x hx
  · exact account_sound_of_draft hst (hs.absent_hold x.id hnew) (hs.absent_amounts hnew)

theorem Sound.advance {target : OrderState} {delta : ℤ} (hs : b.Sound tenantId)
    (h : Advance b b' o target delta) : b'.Sound tenantId := by
  have hmem : ∀ x ∈ b'.orders, (x ∈ b.orders ∧ x.id ≠ o.id) ∨ x = { o with status := target } := by
    intro x hx
    rw [h.orders, Table.mem_set] at hx
    exact hx.imp id And.left
  refine
    { tenant := fun x hx => ?_, live := fun x hx => ?_, accounts := fun x hx => ?_
      absent_hold := fun id hid => ?_, attributed := fun p hp => ?_ }
  · rcases hmem x hx with ⟨hx, -⟩ | rfl
    · exact hs.tenant x hx
    · exact hs.tenant o h.mem
  · rcases hmem x hx with ⟨hx, -⟩ | rfl
    · exact hs.live x hx
    · exact hs.live o h.mem
  · rcases hmem x hx with ⟨hx, hne⟩ | rfl
    · rw [account_congr (h.holds x.id hne) (h.amounts x.id hne)]
      exact hs.accounts x hx
    · exact h.step.sound (hs.accounts o h.mem)
  · obtain ⟨hid, hne⟩ := h.absent hid
    rw [h.holds id hne]
    exact hs.absent_hold id hid
  · -- the orders keep their ids and their retailers
    have hkept : ∀ x ∈ b.orders,
        ∃ y ∈ b'.orders, y.id = x.id ∧ y.retailerId = x.retailerId := by
      intro x hx
      rw [h.orders]
      by_cases hid : x.id = o.id
      · obtain rfl : x = o := Table.eq_of_key_eq hx h.mem hid
        exact ⟨_, Table.mem_set.mpr (.inr ⟨rfl, x, hx, rfl⟩), rfl, rfl⟩
      · exact ⟨x, Table.mem_set.mpr (.inl ⟨hx, hid⟩), rfl, rfl⟩
    rcases h.payers p hp with ⟨q, hq, hid, hret⟩ | ⟨hid, hret⟩
    · obtain ⟨x, hx, hx', hxr⟩ := hs.attributed q hq
      obtain ⟨y, hy, hy', hyr⟩ := hkept x hx
      exact ⟨y, hy, hy'.trans (hx'.trans hid), hyr.trans (hxr.trans hret)⟩
    · obtain ⟨y, hy, hy', hyr⟩ := hkept o h.mem
      exact ⟨y, hy, hy'.trans hid.symm, hyr.trans hret.symm⟩

/-- A write in whole cents keeps the books sound. -/
theorem Sound.step (hs : b.Sound tenantId)
    (h : Step tenantId PaymentRequest.WholeCent b b') : b'.Sound tenantId := by
  rcases h.advance with ⟨o, orders, hins, hw, hst, hdel, rfl⟩ | ⟨o, target, delta, hadv⟩
  · exact hs.create hins hw hst hdel
  · exact hs.advance hadv

end Books

theorem Db.Fresh.sound {db : Db} (h : db.Fresh) : db.books.Sound db.tenantId where
  tenant := by simp [h.orders]
  live := by simp [h.orders]
  accounts := by simp [h.orders]
  absent_hold := by simp [h.creditHolds]
  attributed := by simp [h.payments]

/-- An accepted command in whole cents keeps the books sound. -/
theorem execute_sound {db db' : Db} {c : Command} {r : Outcome}
    (hs : db.books.Sound db.tenantId) (hc : c.WholeCent) (h : execute db c = .ok (db', r)) :
    db'.books.Sound db'.tenantId := by
  obtain ⟨htenant, hbooks⟩ := execute_books hc (fun _ => confirmationRequest_wholeCent) h
  rw [htenant]
  rcases hbooks with hb | hstep
  · rwa [hb]
  · exact hs.step hstep

/-- Every state reached in whole cents is sound. -/
theorem Db.sound_of_reachable {db : Db} (h : Reachable execute Db.Fresh Command.WholeCent db) :
    db.books.Sound db.tenantId :=
  h.induction (fun _ => Db.Fresh.sound) fun _ _ _ _ => execute_sound

/-! ## The shape of an order -/

/-- The shape of an order that is paid: settled by tenders, or sold on credit and collected in
part or in full. -/
def PaidShape (b : Books) (o : Order) : Prop :=
  (∃ h, b.creditHolds.find? o.id = some h ∧ h.status = .settled ∧ h.remainingAmount = .zero) ∧
      b.orderPayments o.id [.credit] = [] ∧
      b.methodCents o.id [.cash, .transfer] = o.totalAmount.unscaled ∨
    (∃ h, b.creditHolds.find? o.id = some h ∧ h.status = .converted ∧ h.amount = o.totalAmount ∧
      h.remainingAmount = .zero) ∧
      (∃ p, b.orderPayments o.id [.credit] = [p] ∧ p.amount = o.totalAmount) ∧
      0 ≤ b.methodCents o.id [.cash, .transfer] ∧
      b.methodCents o.id [.cash, .transfer] ≤ o.totalAmount.unscaled

/-- The hold and the payments an order has in each status, as rows of the tables. -/
def LifecycleShape (b : Books) (o : Order) : Prop :=
  match o.status with
  | .draft | .voided => b.creditHolds.find? o.id = none ∧
      b.orderPayments o.id [.cash, .transfer] = [] ∧ b.orderPayments o.id [.credit] = []
  | .confirmed =>
    (∃ h, b.creditHolds.find? o.id = some h ∧ h.status = .active ∧ h.amount = o.totalAmount ∧
      h.remainingAmount = o.totalAmount) ∧
      b.orderPayments o.id [.cash, .transfer] = [] ∧ b.orderPayments o.id [.credit] = []
  | .partiallyPaid =>
    (∃ h, b.creditHolds.find? o.id = some h ∧ h.status = .active ∧ h.amount = o.totalAmount ∧
      0 < h.remainingAmount.unscaled ∧
      h.remainingAmount.unscaled =
        o.totalAmount.unscaled - b.methodCents o.id [.cash, .transfer] ∧
      h.remainingAmount.unscaled < o.totalAmount.unscaled) ∧
      b.orderPayments o.id [.credit] = []
  | .paid | .fulfilled | .returned => PaidShape b o
  | .cancelled =>
    (b.creditHolds.find? o.id = none ∨ ∃ h, b.creditHolds.find? o.id = some h ∧
      h.status = .released ∧ h.remainingAmount = .zero) ∧
      b.orderPayments o.id [.cash, .transfer] = [] ∧ b.orderPayments o.id [.credit] = []

section Rows
variable {b : Books} {o : Order}

theorem Books.account_hold_eq_none (h : (b.account o).hold = none) :
    b.creditHolds.find? o.id = none := by
  simpa [account] using h

/-- The row behind the hold of an account. -/
theorem Books.account_hold_eq_some {status : HoldStatus} {amount remaining : ℤ}
    (h : (b.account o).hold = some ⟨status, amount, remaining⟩) :
    ∃ row, b.creditHolds.find? o.id = some row ∧ row.status = status ∧
      row.amount.unscaled = amount ∧ row.remainingAmount.unscaled = remaining := by
  obtain ⟨row, hrow, hcents⟩ := Option.map_eq_some_iff.mp h
  simp only [holdCents, Hold.mk.injEq] at hcents
  exact ⟨row, hrow, hcents⟩

theorem Books.orderPayments_eq_nil {methods : List PaymentMethod}
    (h : b.methodAmounts o.id methods = []) : b.orderPayments o.id methods = [] :=
  List.map_eq_nil_iff.mp h

theorem Books.account_status : (b.account o).status = o.status := rfl

theorem Books.account_total : (b.account o).total = o.totalAmount.unscaled := rfl

/-- A single credit amount is a single credit payment. -/
theorem Books.credits_eq_singleton {cents : ℤ} (h : (b.account o).credits = [cents]) :
    ∃ p, b.orderPayments o.id [.credit] = [p] ∧ p.amount.unscaled = cents := by
  obtain ⟨p, hp, hcents⟩ := List.map_eq_singleton_iff.mp h
  exact ⟨p, hp, hcents⟩

theorem Account.paidShape
    (h : (b.account o).hold = some ⟨.settled, (b.account o).total, 0⟩ ∧
        (b.account o).credits = [] ∧ (b.account o).tenders.sum = (b.account o).total ∨
      (b.account o).hold = some ⟨.converted, (b.account o).total, 0⟩ ∧
        (b.account o).credits = [(b.account o).total] ∧
        0 ≤ (b.account o).tenders.sum ∧ (b.account o).tenders.sum ≤ (b.account o).total) :
    PaidShape b o := by
  rcases h with ⟨hh, hcr, hsum⟩ | ⟨hh, hcr, hnn, hle⟩
  · obtain ⟨row, hf, hst, -, hrem⟩ := Books.account_hold_eq_some hh
    exact .inl ⟨⟨row, hf, hst, Numeric.ext hrem⟩, Books.orderPayments_eq_nil hcr, hsum⟩
  · obtain ⟨row, hf, hst, hamt, hrem⟩ := Books.account_hold_eq_some hh
    obtain ⟨p, hp, hcents⟩ := Books.credits_eq_singleton hcr
    exact .inr ⟨⟨row, hf, hst, Numeric.ext hamt, Numeric.ext hrem⟩, ⟨p, hp, Numeric.ext hcents⟩,
      hnn, hle⟩

/-- An account of the right shape has the lifecycle shape in the tables. -/
theorem Account.Shape.lifecycleShape (h : (b.account o).Shape) : LifecycleShape b o := by
  have hs := h
  unfold LifecycleShape
  cases hst : o.status <;> simp only [Account.Shape, Books.account_status, hst] at hs ⊢
  case draft | voided =>
    exact ⟨Books.account_hold_eq_none hs.1, Books.orderPayments_eq_nil hs.2.1,
      Books.orderPayments_eq_nil hs.2.2⟩
  case confirmed =>
    obtain ⟨row, hf, hact, hamt, hrem⟩ := Books.account_hold_eq_some hs.1
    exact ⟨⟨row, hf, hact, Numeric.ext hamt, Numeric.ext hrem⟩, Books.orderPayments_eq_nil hs.2.1,
      Books.orderPayments_eq_nil hs.2.2⟩
  case partiallyPaid =>
    obtain ⟨hh, hpos, hlt, hcr⟩ := hs
    obtain ⟨row, hf, hact, hamt, hrem⟩ := Books.account_hold_eq_some hh
    rw [← hrem] at hpos hlt
    exact ⟨⟨row, hf, hact, Numeric.ext hamt, hpos, hrem, hlt⟩, Books.orderPayments_eq_nil hcr⟩
  case paid | fulfilled | returned => exact Account.paidShape hs
  case cancelled =>
    refine ⟨hs.1.imp Books.account_hold_eq_none fun hh => ?_,
      Books.orderPayments_eq_nil hs.2.1, Books.orderPayments_eq_nil hs.2.2⟩
    obtain ⟨row, hf, hrel, -, hrem⟩ := Books.account_hold_eq_some hh
    exact ⟨row, hf, hrel, Numeric.ext hrem⟩

end Rows

/-- **Lifecycle.** After any run in whole cents, every order has exactly the hold and the payments
its status calls for. -/
theorem lifecycleShape_of_reachable {db : Db}
    (h : Reachable execute Db.Fresh Command.WholeCent db) {o : Order} (ho : o ∈ db.books.orders) :
    LifecycleShape db.books o :=
  ((Db.sound_of_reachable h).accounts o ho).shape.lifecycleShape

/-- An order of 10.00 of which 4.00 are paid, and an order of 5.00 sold on credit, collected in
part and fulfilled. -/
def lifecycleRun : List Command :=
  [.createOrder 50 2 [sampleItem 100 2], .createOrder 51 2 [sampleItem 101 1],
    .confirmOrder 50 (some 9), .confirmOrder 51 (some 9),
    .confirmPayment ⟨200, sampleDay⟩ (Uuid.text 50)
      (samplePayment (scaled 2 400) .cash none "pay-0001"),
    .confirmPayment ⟨201, sampleDay⟩ (Uuid.text 51)
      (samplePayment (scaled 2 500) .credit none "pay-0002"),
    .confirmPayment ⟨202, sampleDay⟩ (Uuid.text 51)
      (samplePayment (scaled 2 200) .transfer (some "T-17") "pay-0003"),
    .fulfillOrder 51]

theorem lifecycleRun_wholeCent : ∀ c ∈ lifecycleRun, c.WholeCent := by
  simp only [lifecycleRun, List.forall_mem_cons]
  exact ⟨trivial, trivial, trivial, trivial, ⟨400, rfl⟩, ⟨500, rfl⟩, ⟨200, rfl⟩, trivial,
    List.forall_mem_nil _⟩

theorem lifecycleShape_lifecycleRun :
    ((run execute (sampleTenant 10000) lifecycleRun).books.orders.rows.map Order.status =
      [.partiallyPaid, .fulfilled]) ∧
    ∀ o ∈ (run execute (sampleTenant 10000) lifecycleRun).books.orders,
      LifecycleShape (run execute (sampleTenant 10000) lifecycleRun).books o :=
  ⟨by decide +kernel, fun _ => lifecycleShape_of_reachable
    ⟨_, _, sampleTenant_fresh (by decide), lifecycleRun_wholeCent, rfl⟩⟩

end Mpango
