import Mpango.Money.Lifecycle
import Mpango.Spec.Refusals

/-!
# The binding cache

The `outstanding_balance` of a binding is never recomputed: four commands move it by a delta. It
is nevertheless always the exposure of the pair's orders, because each write moves both by the
same number of cents (`Books.Balanced.step`). So the cache never underflows: what a command takes
off it is part of the exposure of the order it acts on.
-/

namespace Mpango

open Decimal

/-- The order belongs to a wholesaler-retailer pair. -/
abbrev Order.OfPair (o : Order) (wholesalerId retailerId : Uuid) : Prop :=
  o.wholesalerId = wholesalerId ∧ o.retailerId = retailerId

namespace Books

/-- What a pair's orders occupy of its balance. -/
def exposure (b : Books) (wholesalerId retailerId : Uuid) : ℤ :=
  b.orders.total fun o => if o.OfPair wholesalerId retailerId then (b.account o).exposure else 0

/-- The pair has a live binding whose balance is a base amount and the pair's exposure. -/
def Balanced (b : Books) (wholesalerId retailerId : Uuid) (base : ℤ) : Prop :=
  ∃ row, b.bindings.find? (wholesalerId, retailerId) = some row ∧ row.isDeleted = false ∧
    row.outstandingBalance.unscaled = base + b.exposure wholesalerId retailerId

variable {tenantId w r : Uuid} {base : ℤ} {b b' : Books} {o : Order}

/-! ## The exposure of a pair -/

theorem exposure_nonneg (hs : b.Sound tenantId) : 0 ≤ b.exposure w r := by
  refine Table.total_nonneg fun o ho => ?_
  split
  · exact (hs.accounts o ho).exposure_nonneg
  · exact le_rfl

/-- No order exceeds the exposure of its pair. -/
theorem exposure_le (hs : b.Sound tenantId) (ho : o ∈ b.orders) (hp : o.OfPair w r) :
    (b.account o).exposure ≤ b.exposure w r := by
  have hnn : ∀ x ∈ b.orders, 0 ≤ if x.OfPair w r then (b.account x).exposure else 0 := by
    intro x hx
    split
    · exact (hs.accounts x hx).exposure_nonneg
    · exact le_rfl
  have hle := Table.le_total ho hnn
  rwa [if_pos hp] at hle

/-- A new draft occupies nothing. -/
theorem exposure_create {orders : Table Order} (hs : b.Sound tenantId)
    (hins : b.orders.insert? o = some orders) :
    ({ b with orders } : Books).exposure w r = b.exposure w r := by
  have hnew := (Table.insert?_eq_some.mp hins).1
  have hold : (b.account o).hold = none := by simp [account, hs.absent_hold o.id hnew]
  have hcredits : (b.account o).credits = [] := hs.absent_amounts hnew _
  have hzero : (b.account o).exposure = 0 := by
    simp [Account.exposure, Account.held, Account.owed, hold, hcredits]
  show orders.total _ = _
  rw [Table.total_insert? hins]
  show b.orders.total _ + (if o.OfPair w r then (b.account o).exposure else 0) = _
  rw [hzero, ite_self, add_zero]
  rfl

/-- A step of an account moves the exposure of its pair by the cents of the step. -/
theorem exposure_advance {target : OrderState} {delta : ℤ} (hs : b.Sound tenantId)
    (h : Advance b b' o target delta) :
    b'.exposure w r = b.exposure w r + if o.OfPair w r then delta else 0 := by
  have hfind : b.orders.find? o.id = some o := Table.find?_key h.mem
  have hother : ∀ x ∈ b.orders, key x ≠ key ({ o with status := target } : Order) →
      (if x.OfPair w r then (b'.account x).exposure else 0) =
        if x.OfPair w r then (b.account x).exposure else 0 := by
    intro x _ hx
    rw [account_congr (h.holds x.id hx) (h.amounts x.id hx)]
  have htotal := Table.total_set_of_agree (t := b.orders) (r := ({ o with status := target } : Order))
    hfind hother
  unfold exposure
  rw [h.orders, htotal]
  have hstep := h.step.exposure (hs.accounts o h.mem)
  by_cases hp : o.OfPair w r
  · rw [if_pos hp, if_pos hp, if_pos hp, hstep]
    omega
  · rw [if_neg hp, if_neg hp, if_neg hp]
    omega

/-! ## The balance is the exposure -/

theorem Balanced.create {orders : Table Order} (hs : b.Sound tenantId)
    (hb : b.Balanced w r base) (hins : b.orders.insert? o = some orders) :
    ({ b with orders } : Books).Balanced w r base := by
  obtain ⟨row, hfind, hlive, hbal⟩ := hb
  exact ⟨row, hfind, hlive, by rw [exposure_create hs hins]; exact hbal⟩

theorem Balanced.advance {target : OrderState} {delta : ℤ} (hs : b.Sound tenantId)
    (hb : b.Balanced w r base) (h : Advance b b' o target delta) : b'.Balanced w r base := by
  obtain ⟨row, hfind, hlive, hbal⟩ := hb
  unfold Balanced
  rw [exposure_advance hs h]
  rcases h.balance with ⟨rfl, hsame⟩ | ⟨row', m, hfind', hlive', hm, -, hset⟩
  · exact ⟨row, by rw [hsame]; exact hfind, hlive, by rw [hbal, ite_self, add_zero]⟩
  · have hkey := Table.key_of_find? hfind'
    rw [key_binding] at hkey
    rw [hset]
    by_cases hp : o.OfPair w r
    · -- the pair's own row moved
      obtain ⟨rfl, rfl⟩ := hp
      obtain rfl : row' = row := Option.some.inj (hfind'.symm.trans hfind)
      refine ⟨{ row' with outstandingBalance := m }, ?_, hlive, ?_⟩
      · rw [← hkey] at hfind' ⊢
        exact Table.find?_set_self (r := { row' with outstandingBalance := m }) hfind'
      · rw [if_pos ⟨rfl, rfl⟩]
        show m.unscaled = _
        omega
    · -- another pair's row moved
      refine ⟨row, ?_, hlive, by rw [if_neg hp, add_zero, hbal]⟩
      rw [Table.find?_set_of_ne, hfind]
      rw [key_binding, hkey]
      rintro hpair
      exact hp ⟨(Prod.mk.inj hpair).1.symm, (Prod.mk.inj hpair).2.symm⟩

/-- A write in whole cents keeps a pair balanced. -/
theorem Balanced.step (hs : b.Sound tenantId) (hb : b.Balanced w r base)
    (h : Step tenantId PaymentRequest.WholeCent b b') : b'.Balanced w r base := by
  rcases h.advance with ⟨o, orders, hins, -, -, -, rfl⟩ | ⟨o, target, delta, hadv⟩
  · exact hb.create hs hins
  · exact hb.advance hs hadv

/-! ## Pairs without a binding -/

/-- The pair has no live binding, and its orders occupy nothing. -/
def Unbound (b : Books) (wholesalerId retailerId : Uuid) : Prop :=
  b.liveBinding? wholesalerId retailerId = none ∧ b.exposure wholesalerId retailerId = 0

/-- Without a binding no order of the pair can be moved by any cents. -/
theorem Unbound.advance {target : OrderState} {delta : ℤ} (hs : b.Sound tenantId)
    (hu : b.Unbound w r) (h : Advance b b' o target delta) : b'.Unbound w r := by
  obtain ⟨hnone, hzero⟩ := hu
  unfold Unbound
  rw [exposure_advance hs h, hzero, zero_add]
  rcases h.balance with ⟨rfl, hsame⟩ | ⟨row, m, hfind, hlive, -, -, hset⟩
  · exact ⟨(liveBinding?_congr hsame w r).trans hnone, ite_self 0⟩
  · have hp : ¬o.OfPair w r := by
      rintro ⟨rfl, rfl⟩
      rw [liveBinding?_eq_some.mpr ⟨hfind, hlive⟩] at hnone
      simp at hnone
    refine ⟨?_, if_neg hp⟩
    -- another pair's row moved
    have hkey := Table.key_of_find? hfind
    rw [key_binding] at hkey
    unfold liveBinding? at hnone ⊢
    rw [hset, Table.find?_set_of_ne, hnone]
    rw [key_binding, hkey]
    intro hpair
    exact hp ⟨(Prod.mk.inj hpair).1.symm, (Prod.mk.inj hpair).2.symm⟩

/-- A write in whole cents keeps a pair without a binding unbound. -/
theorem Unbound.step (hs : b.Sound tenantId) (hu : b.Unbound w r)
    (h : Step tenantId PaymentRequest.WholeCent b b') : b'.Unbound w r := by
  rcases h.advance with ⟨o, orders, hins, -, -, -, rfl⟩ | ⟨o, target, delta, hadv⟩
  · exact ⟨hu.1, (exposure_create hs hins).trans hu.2⟩
  · exact hu.advance hs hadv

end Books

/-! ## Runs -/

/-- What a write in whole cents keeps of sound books, a run keeps. -/
theorem run_books {db : Db} {P : Books → Prop} {cs : List Command}
    (hstep : ∀ tenantId b b', b.Sound tenantId → P b →
      Books.Step tenantId PaymentRequest.WholeCent b b' → P b')
    (hs : db.books.Sound db.tenantId) (hP : P db.books) (hcs : ∀ c ∈ cs, c.WholeCent) :
    (run execute db cs).books.Sound (run execute db cs).tenantId ∧
      P (run execute db cs).books := by
  refine run_induction (P := fun db => db.books.Sound db.tenantId ∧ P db.books)
    (fun db c db' res h hc hx => ⟨execute_sound h.1 hc hx, ?_⟩) cs db ⟨hs, hP⟩ hcs
  obtain ⟨-, hbooks⟩ := execute_books hc (fun _ => confirmationRequest_wholeCent) hx
  rcases hbooks with hsame | hwrite
  · rw [hsame]
    exact h.2
  · exact hstep _ _ _ h.1 h.2 hwrite

/-- A run in whole cents keeps a pair balanced. -/
theorem run_balanced {db : Db} {w r : Uuid} {base : ℤ} {cs : List Command}
    (hs : db.books.Sound db.tenantId) (hb : db.books.Balanced w r base)
    (hcs : ∀ c ∈ cs, c.WholeCent) :
    (run execute db cs).books.Sound (run execute db cs).tenantId ∧
      (run execute db cs).books.Balanced w r base :=
  run_books (P := fun b => b.Balanced w r base) (fun _ _ _ hs hb h => hb.step hs h) hs hb hcs

theorem run_tenantId {db : Db} {cs : List Command} (hcs : ∀ c ∈ cs, c.WholeCent) :
    (run execute db cs).tenantId = db.tenantId := by
  refine run_induction (P := fun db' => db'.tenantId = db.tenantId) ?_ cs db rfl hcs
  intro db₁ c db₂ res h hc hx
  exact (execute_books hc (fun _ => confirmationRequest_wholeCent) hx).1.trans h

/-- A tenant without orders is balanced, each pair at the balance it starts with. -/
theorem Db.Fresh.balanced {db : Db} {w r : Uuid} {row : Binding} (h : db.Fresh)
    (hf : db.books.bindings.find? (w, r) = some row) (hlive : row.isDeleted = false) :
    db.books.Balanced w r row.outstandingBalance.unscaled := by
  refine ⟨row, hf, hlive, ?_⟩
  simp [Books.exposure, h.orders]

/-- A run from a fresh tenant leaves every pair balanced from a base that is not negative, or
without anything occupied. -/
theorem Db.Fresh.run_balanced_or_unbound {db : Db} {cs : List Command} (h : db.Fresh)
    (w r : Uuid) (hcs : ∀ c ∈ cs, c.WholeCent) :
    (∃ base, 0 ≤ base ∧ (run execute db cs).books.Balanced w r base) ∨
      (run execute db cs).books.exposure w r = 0 := by
  cases hrow : db.books.liveBinding? w r with
  | some row =>
    obtain ⟨hfind, hlive⟩ := Books.liveBinding?_eq_some.mp hrow
    exact .inl ⟨_, h.outstandingBalance row (Table.mem_of_find? hfind),
      (run_balanced h.sound (h.balanced hfind hlive) hcs).2⟩
  | none =>
    have hzero : db.books.exposure w r = 0 := by simp [Books.exposure, h.orders]
    exact .inr (run_books (P := fun b => b.Unbound w r) (fun _ _ _ hs hu h => hu.step hs h)
      h.sound ⟨hrow, hzero⟩ hcs).2.2

/-! ## No underflow -/

section Underflow
variable {tenantId w r : Uuid} {base : ℤ} {b : Books} {o : Order} {req : PaymentRequest}
  {plan : PaymentPlan}

/-- A planned payment takes no more off the balance than its order occupies. -/
theorem Books.paymentPlan_le_exposure {z : ℤ} (hs : b.Sound tenantId) (ho : o ∈ b.orders)
    (hz : req.amount = scaled 2 z) (hplan : b.paymentPlan o req = .ok plan) :
    z ≤ (b.account o).exposure := by
  have hsound := hs.accounts o ho
  rcases paymentPlan_eq_ok (Table.find?_key ho) (hs.live o ho) hplan with hset | hcol
  · -- an open order occupies the remaining amount of its hold
    have hheld : (b.account o).held = plan.hold.remainingAmount.unscaled := by
      unfold Account.held
      rw [account_hold hset.find, hset.active]
    have hle : z ≤ plan.hold.remainingAmount.unscaled := by
      by_cases hm : req.method = .credit
      · obtain ⟨-, hpaid, hamount⟩ := hset.credit hm
        rw [hset.remaining, hpaid, sub_zero]
        rw [hz, Numeric.toDecimal, scaled_inj] at hamount
        exact hamount.le
      · have := hset.le_remaining hm
        rwa [hz, Numeric.toDecimal, scaled_le_scaled] at this
    have := hsound.owed_nonneg
    unfold Account.exposure
    omega
  · -- a credit sale occupies what is left to collect
    have hle : z ≤ o.totalAmount.unscaled - b.methodCents o.id [.cash, .transfer] := by
      have := hcol.le_exposure
      rwa [hz, scaled_le_scaled] at this
    have hne : (b.account o).credits ≠ [] := by
      intro hnil
      have hlen := hcol.credit_count
      rw [countOrderPayments, orderPayments_eq_nil hnil] at hlen
      simp at hlen
    have howed : (b.account o).owed =
        o.totalAmount.unscaled - b.methodCents o.id [.cash, .transfer] := by
      unfold Account.owed
      rw [if_neg hne, ← hcol.credit]
      rfl
    have := hsound.held_nonneg
    unfold Account.exposure
    omega

/-- The binding of a balanced pair covers what its orders occupy. -/
theorem Books.Balanced.covers {row : Binding} (hs : b.Sound tenantId) (hbase : 0 ≤ base)
    (hb : b.Balanced w r base) (ho : o ∈ b.orders) (hp : o.OfPair w r)
    (hrow : b.liveBinding? w r = some row) :
    (b.account o).exposure ≤ row.outstandingBalance.unscaled := by
  obtain ⟨row', hfind, -, hbal⟩ := hb
  obtain rfl : row' = row := Option.some.inj (hfind.symm.trans (liveBinding?_eq_some.mp hrow).1)
  have := exposure_le hs ho hp
  omega

theorem Books.confirmPaymentForLockedOrder_no_underflow {ctx : InsertContext} {e : CommandError}
    (hs : b.Sound tenantId) (hbase : 0 ≤ base) (hb : b.Balanced w r base) (ho : o ∈ b.orders)
    (hp : o.OfPair w r) (hreq : req.WholeCent)
    (h : b.confirmPaymentForLockedOrder ctx o req = .error e) :
    e.code? ≠ some .receivableBalanceUnderflow := by
  intro hcode
  obtain ⟨hpos, plan, hplan, row, hrow, hneg⟩ := confirmPaymentForLockedOrder_refuses e h hcode
  obtain ⟨z, hz⟩ := hreq
  have hle := paymentPlan_le_exposure hs ho hz hplan
  obtain ⟨rfl, rfl⟩ := hp
  have hcover := hb.covers hs hbase ho ⟨rfl, rfl⟩ hrow
  have hbound := row.outstandingBalance.bound
  rw [hz, scaled_pos] at hpos
  rw [hz, neg_scaled_eq (by unfold contextPrecision; omega), Numeric.toDecimal, scaled_add_scaled,
    scaled_neg_iff] at hneg
  omega

theorem cancelOrder_no_underflow {db : Db} {e : CommandError} (hs : db.books.Sound tenantId)
    (hbase : 0 ≤ base) (hb : db.books.Balanced w r base) (ho : o ∈ db.books.orders)
    (hp : o.OfPair w r) (h : cancelOrder db o.id = .error e) :
    e.code? ≠ some .bindingNotFound := by
  intro hcode
  obtain ⟨x, hx, hid, hhold, hst, hrow⟩ := cancelOrder_refuses e h hcode
  obtain rfl : x = o := Table.eq_of_key_eq hx ho hid
  have hshape := (hs.accounts x hx).shape
  rcases hst with hst | hst
  · -- a draft has no hold to release
    simp only [Account.Shape, Books.account_status, hst] at hshape
    exact hhold (Books.account_hold_eq_none hshape.1)
  · simp only [Account.Shape, Books.account_status, hst] at hshape
    obtain ⟨row, hfind, hlive, hbal⟩ := id hb
    obtain ⟨rfl, rfl⟩ := hp
    have hlive' := Books.liveBinding?_eq_some.mpr ⟨hfind, hlive⟩
    have hcover := hb.covers hs hbase hx ⟨rfl, rfl⟩ hlive'
    have hexp : (db.books.account x).exposure = x.totalAmount.unscaled := by
      simp [Account.exposure, Account.held, Account.owed, hshape, Books.account_total]
    have hneg := hrow row hlive'
    rw [Numeric.toDecimal, Numeric.toDecimal, neg_scaled, scaled_add_scaled, scaled_neg_iff] at hneg
    omega

end Underflow

/-! ## Conservation -/

namespace Books

/-- What the active holds of a pair's live orders still reserve. -/
def heldTotal (b : Books) (wholesalerId retailerId : Uuid) : ℤ :=
  b.creditHolds.total fun h => (b.orders.find? h.orderId).elim 0 fun o =>
    if o.OfPair wholesalerId retailerId ∧ o.isDeleted = false ∧ h.status = .active then
      h.remainingAmount.unscaled
    else 0

/-- What is left to collect on a pair's live orders that carry a credit payment. -/
def creditTotal (b : Books) (wholesalerId retailerId : Uuid) : ℤ :=
  b.orders.total fun o =>
    if o.OfPair wholesalerId retailerId ∧ o.isDeleted = false ∧
        b.countOrderPayments o.id .credit ≠ 0 then
      b.methodCents o.id [.credit] - b.methodCents o.id [.cash, .transfer]
    else 0

variable {tenantId w r : Uuid} {b : Books}

theorem account_held {o : Order} : (b.account o).held =
    (b.creditHolds.find? o.id).elim 0 fun h =>
      if h.status = .active then h.remainingAmount.unscaled else 0 := by
  unfold Account.held account
  cases b.creditHolds.find? o.id with
  | none => rfl
  | some h =>
    simp only [Option.map_some, holdCents, Option.elim_some]
    cases h.status <;> rfl

theorem account_owed {o : Order} : (b.account o).owed =
    if b.countOrderPayments o.id .credit ≠ 0 then
      b.methodCents o.id [.credit] - b.methodCents o.id [.cash, .transfer]
    else 0 := by
  have hcount : (b.account o).credits = [] ↔ b.countOrderPayments o.id .credit = 0 := by
    show List.map _ _ = [] ↔ List.length _ = 0
    rw [List.map_eq_nil_iff, List.length_eq_zero_iff]
  unfold Account.owed
  by_cases h : (b.account o).credits = []
  · rw [if_pos h, if_neg (not_not.mpr (hcount.mp h))]
  · rw [if_neg h, if_pos (mt hcount.mpr h)]
    rfl

theorem heldTotal_eq (hs : b.Sound tenantId) : b.heldTotal w r = b.orders.total fun o =>
    if o.OfPair w r then (b.account o).held else 0 := by
  have hjoin := Table.total_join b.orders b.creditHolds fun o h =>
    if o.OfPair w r ∧ o.isDeleted = false ∧ h.status = .active then h.remainingAmount.unscaled
    else 0
  refine hjoin.trans (Table.total_congr fun o ho => ?_)
  rw [account_held, hs.live o ho, key_order]
  by_cases hp : o.OfPair w r
  · rw [if_pos hp]
    cases b.creditHolds.find? o.id with
    | none => rfl
    | some h => exact if_congr ⟨fun h => h.2.2, fun h => ⟨hp, rfl, h⟩⟩ rfl rfl
  · rw [if_neg hp]
    cases b.creditHolds.find? o.id with
    | none => rfl
    | some h => exact if_neg fun h => hp h.1

theorem creditTotal_eq (hs : b.Sound tenantId) : b.creditTotal w r = b.orders.total fun o =>
    if o.OfPair w r then (b.account o).owed else 0 := by
  refine Table.total_congr fun o ho => ?_
  rw [account_owed, hs.live o ho]
  by_cases hp : o.OfPair w r
  · rw [if_pos hp]
    exact if_congr ⟨fun h => h.2.2, fun h => ⟨hp, rfl, h⟩⟩ rfl rfl
  · rw [if_neg hp, if_neg fun h => hp h.1]

/-- The exposure of a pair, as two sums over the tables. -/
theorem exposure_eq (hs : b.Sound tenantId) :
    b.exposure w r = b.heldTotal w r + b.creditTotal w r := by
  rw [heldTotal_eq hs, creditTotal_eq hs, ← Table.total_add]
  refine Table.total_congr fun o _ => ?_
  split
  · rfl
  · rfl

end Books

/-- The binding of an order never refuses what the order's own checks have passed: no cancel, no
payment and no confirmation of a declaration. -/
structure NoUnderflow (db : Db) (o : Order) : Prop where
  cancel : ∀ e, cancelOrder db o.id = .error e → e.code? ≠ some .bindingNotFound
  payment : ∀ ctx orderId req e, Uuid.parse orderId = some o.id → req.WholeCent →
    db.books.confirmPayment ctx orderId req = .error e →
      e.code? ≠ some .receivableBalanceUnderflow
  declaration : ∀ ctx declarationId wholesalerId e,
    lockOrderForDeclaration db declarationId wholesalerId = .ok o →
    confirmDeclaration db ctx declarationId wholesalerId = .error e →
      e.code? ≠ some .receivableBalanceUnderflow

theorem noUnderflow_of_balanced {db : Db} {tenantId w r : Uuid} {base : ℤ} {o : Order}
    (hs : db.books.Sound tenantId) (hbase : 0 ≤ base) (hb : db.books.Balanced w r base)
    (ho : o ∈ db.books.orders) (hp : o.OfPair w r) : NoUnderflow db o where
  cancel _ h := cancelOrder_no_underflow hs hbase hb ho hp h
  payment ctx orderId req e hparse hreq h := by
    intro hcode
    obtain ⟨x, hx, hparse', hpay⟩ := Books.confirmPayment_refuses e h hcode
    have hid : x.id = o.id := Option.some.inj (hparse'.symm.trans hparse)
    obtain rfl : x = o := Table.eq_of_key_eq hx ho hid
    exact Books.confirmPaymentForLockedOrder_no_underflow hs hbase hb hx hp hreq hpay hcode
  declaration ctx declarationId wholesalerId e hlock h := by
    intro hcode
    obtain ⟨x, d, hlock', hpay⟩ := confirmDeclaration_refuses e h hcode
    obtain rfl : x = o := Except.ok.inj (hlock'.symm.trans hlock)
    exact Books.confirmPaymentForLockedOrder_no_underflow hs hbase hb ho hp
      (confirmationRequest_wholeCent d) hpay hcode

/-- **Conservation.** A binding that starts at zero always shows what the pair's orders occupy:
the remaining amounts of their active holds and what is left to collect on their credit sales. So
it is never negative, and it never refuses what an order's own checks have passed. -/
theorem outstandingBalance_conserved {db : Db} {w r : Uuid} {row : Binding} {cs : List Command}
    (hfresh : db.Fresh) (hfind : db.books.bindings.find? (w, r) = some row)
    (hlive : row.isDeleted = false) (hzero : row.outstandingBalance = .zero)
    (hcs : ∀ c ∈ cs, c.WholeCent) :
    (∃ row', (run execute db cs).books.bindings.find? (w, r) = some row' ∧
      row'.isDeleted = false ∧ 0 ≤ row'.outstandingBalance.unscaled ∧
      row'.outstandingBalance.unscaled =
        (run execute db cs).books.heldTotal w r + (run execute db cs).books.creditTotal w r) ∧
    ∀ o ∈ (run execute db cs).books.orders, o.OfPair w r → NoUnderflow (run execute db cs) o := by
  obtain ⟨hs, hb⟩ := run_balanced hfresh.sound (hfresh.balanced hfind hlive) hcs
  rw [hzero, Numeric.zero_unscaled] at hb
  refine ⟨?_, fun o ho hp => noUnderflow_of_balanced hs le_rfl hb ho hp⟩
  obtain ⟨row', hfind', hlive', hbal⟩ := hb
  have hnn := Books.exposure_nonneg (w := w) (r := r) hs
  exact ⟨row', hfind', hlive', by omega, by rw [hbal, zero_add, Books.exposure_eq hs]⟩

theorem outstandingBalance_conserved_lifecycleRun :
    (∃ row, (run execute (sampleTenant 10000) lifecycleRun).books.bindings.find? (1, 2) =
        some row ∧ row.isDeleted = false ∧ 0 ≤ row.outstandingBalance.unscaled ∧
      row.outstandingBalance.unscaled =
        (run execute (sampleTenant 10000) lifecycleRun).books.heldTotal 1 2 +
          (run execute (sampleTenant 10000) lifecycleRun).books.creditTotal 1 2) ∧
    ∀ o ∈ (run execute (sampleTenant 10000) lifecycleRun).books.orders, o.OfPair 1 2 →
      NoUnderflow (run execute (sampleTenant 10000) lifecycleRun) o :=
  @outstandingBalance_conserved _ _ _ ⟨1, 2, .active, .zero, false⟩ _
    (sampleTenant_fresh (by decide)) (by decide +kernel) rfl rfl lifecycleRun_wholeCent

end Mpango
