import Mpango.Model.Receivables
import Mpango.Money.Binding

/-!
# The receivables summary and the cache

The summary recomputes from the tables what the cache accumulates, but not from all of them: it
reads the payments of confirmed, partially paid and paid orders only. What is left to collect on
an order that was fulfilled or returned stays in the cache and is missing from the summary
(`retailerReceivables_eq`), so the two agree exactly when nothing is left to collect there.
-/

namespace Mpango

open Decimal

namespace Books

variable {tenantId w r : Uuid} {b : Books} {o : Order}

/-! ## One order -/

/-- In every status, the positive part of credit less collections is what is owed. -/
theorem owed_eq (hs : b.Sound tenantId) (ho : o ∈ b.orders) : (b.account o).owed =
    max 0 (b.methodCents o.id [.credit] - b.methodCents o.id [.cash, .transfer]) := by
  have hsound := hs.accounts o ho
  have hnn := hsound.tenders_nonneg
  rw [account_tenders_sum] at hnn
  by_cases hcr : (b.account o).credits = []
  · have hzero : b.methodCents o.id [.credit] = 0 := by
      show ((b.account o).credits).sum = 0
      rw [hcr]
      rfl
    rw [Account.owed, if_pos hcr, hzero]
    omega
  · have howed := hsound.owed_nonneg
    rw [Account.owed, if_neg hcr] at howed ⊢
    exact (max_eq_right howed).symm

/-- What is owed on an order is below the bound of a stored amount, and so are its totals. -/
theorem totals_bounded (hs : b.Sound tenantId) (ho : o ∈ b.orders) :
    (0 < b.methodCents o.id [.credit] →
      b.methodCents o.id [.cash, .transfer] ≤ b.methodCents o.id [.credit]) ∧
    b.methodCents o.id [.credit] < 10 ^ 12 ∧ b.methodCents o.id [.cash, .transfer] < 10 ^ 12 := by
  have hsound := hs.accounts o ho
  have hshape := hsound.shape
  have hT := o.totalAmount.bound
  have hcredits : b.methodCents o.id [.credit] = (b.account o).credits.sum := rfl
  have htenders : b.methodCents o.id [.cash, .transfer] = (b.account o).tenders.sum := rfl
  rw [hcredits, htenders]
  have htotal : (b.account o).total = o.totalAmount.unscaled := rfl
  unfold Account.Shape at hshape
  split at hshape
  case h_5 | h_6 | h_7 =>
    rcases hshape with ⟨-, hcr, hsum⟩ | ⟨-, hcr, hnn, hle⟩
    · rw [hcr, hsum]
      simp
      omega
    · rw [hcr, List.sum_singleton]
      omega
  case h_4 =>
    obtain ⟨-, hpos, hlt, hcr⟩ := hshape
    rw [hcr]
    simp
    omega
  all_goals simp [hshape]

/-- The integrity check passes on every order, and the balance it lets through is exact. -/
theorem addOrderReceivable_eq (hs : b.Sound tenantId) (ho : o ∈ b.orders) (sofar : Decimal × ℕ) :
    b.addOrderReceivable sofar o = .ok
      (if 0 < (b.account o).owed then
        (Decimal.add sofar.1 (scaled 2 (b.account o).owed), sofar.2 + 1) else sofar) := by
  have hvalid := hs.validHistory ho
  have hcr := hvalid.methodCents_nonneg [.credit]
  have hte := hvalid.methodCents_nonneg [.cash, .transfer]
  obtain ⟨hle, hb₁, hb₂⟩ := totals_bounded hs ho
  have hsub : creditExposure (b.getOrderMethodTotal o.id [.credit])
      (b.getOrderMethodTotal o.id [.cash, .transfer]) =
      scaled 2 (b.methodCents o.id [.credit] - b.methodCents o.id [.cash, .transfer]) := by
    rw [creditExposure, getOrderMethodTotal_eq, getOrderMethodTotal_eq,
      sub_scaled (by unfold contextPrecision; omega)]
  have hintegrity : assertHistoryIntegrity (b.getOrderMethodTotal o.id [.credit])
      (b.getOrderMethodTotal o.id [.cash, .transfer]) = .ok () := by
    unfold assertHistoryIntegrity
    rw [getOrderMethodTotal_eq, getOrderMethodTotal_eq, bind_eq_ok]
    simp only [refuseIf_eq_ok, scaled_pos, scaled_lt_scaled, scaled_neg_iff, not_and, not_or,
      not_lt]
    exact ⟨(), hle, hcr, hte⟩
  unfold addOrderReceivable
  simp only [hintegrity, ok_bind, hsub, owed_eq hs ho, scaled_pos]
  by_cases hpos : 0 < b.methodCents o.id [.credit] - b.methodCents o.id [.cash, .transfer]
  · rw [if_pos hpos, if_pos (by omega), max_eq_right hpos.le]
    rfl
  · rw [if_neg hpos, if_neg (by omega)]
    rfl

/-! ## One retailer -/

/-- The loop over a retailer's orders never refuses; as long as the sum has few digits it is the
sum of what is owed on them. -/
theorem foldlM_addOrderReceivable (hs : b.Sound tenantId) {orders : List Order}
    (ho : ∀ o ∈ orders, o ∈ b.orders) : ∃ credit count,
      orders.foldlM b.addOrderReceivable (0, 0) = .ok (credit, count) ∧
      ((orders.map fun o => (b.account o).owed).sum < 10 ^ contextPrecision →
        credit = scaled 2 (orders.map fun o => (b.account o).owed).sum) := by
  set total := (orders.map fun o => (b.account o).owed).sum with htotal
  -- what the loop has added up and what is still to come make the total
  let I : List Order → Decimal × ℕ → Prop := fun rest sofar => (∀ o ∈ rest, o ∈ b.orders) ∧
    (total < 10 ^ contextPrecision →
      ∃ z : ℤ, sofar.1 = scaled 2 z ∧ 0 ≤ z ∧
        z + (rest.map fun o => (b.account o).owed).sum = total)
  have hstep : ∀ o rest sofar, I (o :: rest) sofar →
      ∃ sofar', b.addOrderReceivable sofar o = .ok sofar' ∧ I rest sofar' := by
    intro o rest sofar hI
    have homem := hI.1 o List.mem_cons_self
    have hrest : ∀ x ∈ rest, x ∈ b.orders := fun x hx => hI.1 x (List.mem_cons_of_mem o hx)
    refine ⟨_, addOrderReceivable_eq hs homem sofar, hrest, fun hlt => ?_⟩
    obtain ⟨z, hz, hnn, hsum⟩ := hI.2 hlt
    rw [List.map_cons, List.sum_cons] at hsum
    have howed := (hs.accounts o homem).owed_nonneg
    have hrestnn : 0 ≤ (rest.map fun o => (b.account o).owed).sum := by
      refine List.sum_nonneg fun x hx => ?_
      obtain ⟨y, hy, rfl⟩ := List.mem_map.mp hx
      exact (hs.accounts y (hrest y hy)).owed_nonneg
    split
    · refine ⟨z + (b.account o).owed, ?_, by omega, by omega⟩
      show Decimal.add sofar.1 _ = _
      rw [hz, add_scaled (by unfold contextPrecision at hlt ⊢; omega)]
    · exact ⟨z, hz, hnn, by omega⟩
  have hstart : I orders (0, 0) :=
    ⟨ho, fun _ => ⟨0, by simp, le_rfl, by rw [zero_add]⟩⟩
  obtain ⟨⟨credit, count⟩, hloop, -, hend⟩ := foldlM_total hstep hstart
  refine ⟨credit, count, hloop, fun hlt => ?_⟩
  obtain ⟨z, hz, -, hsum⟩ := hend hlt
  rw [List.map_nil, List.sum_nil, add_zero] at hsum
  exact hsum ▸ hz

/-- What the summary can see of a pair's uncollected credit. -/
def openCredit (b : Books) (w r : Uuid) : ℤ := b.orders.total fun o =>
  if o.OfPair w r ∧ o.status ∈ receivableStatuses then (b.account o).owed else 0

/-- What it cannot see: the credit left to collect on fulfilled and returned orders. -/
def closedCredit (b : Books) (w r : Uuid) : ℤ := b.orders.total fun o =>
  if o.OfPair w r ∧ (o.status = .fulfilled ∨ o.status = .returned) then (b.account o).owed else 0

theorem creditTotal_eq_open_add_closed (hs : b.Sound tenantId) :
    b.creditTotal w r = b.openCredit w r + b.closedCredit w r := by
  rw [creditTotal_eq hs]
  unfold openCredit closedCredit
  rw [← Table.total_add]
  refine Table.total_congr fun o ho => ?_
  by_cases hp : o.OfPair w r
  · rw [if_pos hp, if_congr (and_iff_right hp) rfl rfl, if_congr (and_iff_right hp) rfl rfl]
    have hshape := (hs.accounts o ho).shape
    cases hst : o.status <;> simp only [Account.Shape, account_status, hst] at hshape
    case draft | voided | cancelled => simp [receivableStatuses, Account.owed, hshape]
    all_goals simp [receivableStatuses]
  · rw [if_neg hp, if_neg fun h => hp h.1, if_neg fun h => hp h.1, add_zero]

theorem openCredit_nonneg (hs : b.Sound tenantId) : 0 ≤ b.openCredit w r := by
  refine Table.total_nonneg fun o ho => ?_
  split
  · exact (hs.accounts o ho).owed_nonneg
  · exact le_rfl

/-- Nothing is left to collect on a pair's fulfilled and returned orders: their collections have
reached their credit payments. -/
def ClosedOrdersCollected (b : Books) (w r : Uuid) : Prop :=
  ∀ o ∈ b.orders, o.OfPair w r → o.status = .fulfilled ∨ o.status = .returned →
    b.methodCents o.id [.credit] ≤ b.methodCents o.id [.cash, .transfer]

theorem closedCredit_eq_zero (hs : b.Sound tenantId) :
    b.closedCredit w r = 0 ↔ b.ClosedOrdersCollected w r := by
  unfold closedCredit ClosedOrdersCollected
  rw [Table.total_eq_zero]
  · refine forall₂_congr fun o ho => ?_
    rw [ite_eq_right_iff, and_imp, owed_eq hs ho]
    exact forall₂_congr fun _ _ => ⟨fun h => by omega, fun h => by omega⟩
  · intro o ho
    split
    · exact (hs.accounts o ho).owed_nonneg
    · exact le_rfl

/-- The retailer's part of the orders the summary reads, summed up. -/
theorem sum_owed_receivableOrders {ids : List Uuid} (hs : b.Sound tenantId) (hr : r ∈ ids) :
    (((b.receivableOrders w ids).filter fun o => o.retailerId = r).map fun o =>
      (b.account o).owed).sum = b.openCredit w r := by
  unfold receivableOrders Table.select
  rw [List.filter_filter]
  refine (Table.total_ite b.orders _ _).symm.trans (Table.total_congr fun o ho => ?_)
  refine if_congr ?_ rfl rfl
  simp only [Bool.and_eq_true, decide_eq_true_eq, List.contains_iff_mem, Bool.not_eq_true',
    hs.live o ho]
  constructor
  · rintro ⟨hret, ⟨⟨hw, -⟩, -⟩, hst⟩
    exact ⟨⟨hw, hret⟩, hst⟩
  · rintro ⟨⟨hw, rfl⟩, hst⟩
    exact ⟨rfl, ⟨⟨hw, hr⟩, trivial⟩, hst⟩

/-- The open balance of a retailer is what its active holds reserve. -/
theorem sum_retailerHolds (hs : b.Sound tenantId) :
    ((b.retailerHolds r).map fun h => h.remainingAmount.toDecimal).sum =
      scaled 2 (b.heldTotal tenantId r) := by
  have hsum : ((b.retailerHolds r).map fun h => h.remainingAmount.unscaled).sum =
      b.heldTotal tenantId r := by
    refine (Table.total_ite b.creditHolds _ _).symm.trans (Table.total_congr fun h _ => ?_)
    cases ho : b.orders.find? h.orderId with
    | none => simp
    | some o =>
      have hmem := Table.mem_of_find? ho
      simp only [Option.any_some, Option.elim_some, Bool.and_eq_true, decide_eq_true_eq,
        Bool.not_eq_true', hs.live o hmem, true_and]
      exact if_congr ⟨fun h => ⟨⟨hs.tenant o hmem, h.2⟩, h.1⟩, fun h => ⟨h.2, h.1.2⟩⟩ rfl rfl
  rw [← hsum]
  exact sum_map_scaled 2 (fun h : CreditHold => h.remainingAmount.unscaled) _

/-- The entry of a binding: its cache, what its active holds reserve, and the credit the summary
can see. -/
theorem retailerReceivables_eq {ids : List Uuid} {row : Binding} (hs : b.Sound tenantId)
    (hr : row.retailerId ∈ ids) :
    ∃ x, b.retailerReceivables (b.receivableOrders tenantId ids) row = .ok x ∧
      x.retailerId = row.retailerId ∧
      x.outstandingBalance = row.outstandingBalance.toDecimal ∧
      x.unpaidOrderBalance = scaled 2 (b.heldTotal tenantId row.retailerId) ∧
      (b.openCredit tenantId row.retailerId < 10 ^ contextPrecision →
        x.creditReceivables = scaled 2 (b.openCredit tenantId row.retailerId)) := by
  have hmem : ∀ o ∈ (b.receivableOrders tenantId ids).filter
      fun o => o.retailerId = row.retailerId, o ∈ b.orders := by
    intro o ho
    exact (Table.mem_select.mp (List.mem_filter.mp ho).1).1
  obtain ⟨credit, count, hloop, hcredit⟩ := foldlM_addOrderReceivable hs hmem
  rw [sum_owed_receivableOrders hs hr] at hcredit
  let holds := b.retailerHolds row.retailerId
  refine ⟨⟨row.retailerId, row.outstandingBalance.toDecimal, credit,
    (holds.map fun h => h.remainingAmount.toDecimal).sum, count + holds.length⟩, ?_, rfl, rfl,
    sum_retailerHolds hs, hcredit⟩
  unfold retailerReceivables
  rw [hloop]
  rfl

/-! ## The whole summary -/

/-- On sound books the summary is produced, one entry for each live binding of the tenant that has
anything to show. -/
theorem getReceivablesSummary_eq (hs : b.Sound tenantId) :
    ∃ s, b.getReceivablesSummary tenantId = .ok s ∧ ∀ x, x ∈ s.byRetailer ↔
      (∃ row ∈ b.receivableBindings tenantId, b.retailerReceivables (b.receivableOrders tenantId
        ((b.receivableBindings tenantId).map Binding.retailerId)) row = .ok x) ∧
      ¬(x.outstandingBalance = 0 ∧ x.unpaidOrderBalance = 0 ∧ x.creditReceivables = 0) := by
  set bindings := b.receivableBindings tenantId with hbindings
  set orders := b.receivableOrders tenantId (bindings.map Binding.retailerId) with horders
  have hhistory : b.assertValidPaymentHistory (orders.map Order.id) "Receivables summary" =
      .ok () := by
    rw [assertValidPaymentHistory_eq_ok]
    intro id _ p hp hid hlive o ho
    obtain ⟨hmem, hkey⟩ := Table.find?_eq_some.mp ho
    obtain ⟨hpos, hret⟩ := hs.validHistory hmem p hp (hid.trans hkey.symm) hlive
    simp [Payment.invalidFor, hret, hs.live o hmem, hpos]
  have hrows : ∃ rows, bindings.mapM (b.retailerReceivables orders) = .ok rows := by
    refine mapM_total fun row hrow => ?_
    obtain ⟨x, hx, -⟩ := retailerReceivables_eq hs (List.mem_map_of_mem hrow)
    exact ⟨x, hx⟩
  obtain ⟨rows, hrows⟩ := hrows
  refine ⟨.ofRows rows, ?_, fun x => ?_⟩
  · unfold getReceivablesSummary
    simp only [← hbindings, ← horders, hhistory, ok_bind, hrows]
    rfl
  · unfold ReceivablesSummary.ofRows
    simp only [List.mem_filter, mem_mapM hrows, Bool.not_eq_true', Bool.and_eq_false_iff,
      decide_eq_false_iff_not]
    tauto

theorem mem_receivableBindings {row : Binding} : row ∈ b.receivableBindings w ↔
    row ∈ b.bindings ∧ row.wholesalerId = w ∧ row.isDeleted = false := by
  unfold receivableBindings
  rw [List.Perm.mem_iff (List.perm_insertionSort _ _), Table.mem_select]
  simp

end Books

/-- The summary shows no drift for a binding: its entry adds up, or there is no entry and nothing
is outstanding. -/
def ReceivablesSummary.NoDrift (s : ReceivablesSummary) (row : Binding) : Prop :=
  (∃ x ∈ s.byRetailer, x.retailerId = row.retailerId ∧
    x.outstandingBalance = x.creditReceivables + x.unpaidOrderBalance) ∨
  (∀ x ∈ s.byRetailer, x.retailerId ≠ row.retailerId) ∧ row.outstandingBalance = .zero

instance (s : ReceivablesSummary) (row : Binding) : Decidable (s.NoDrift row) :=
  inferInstanceAs (Decidable (_ ∨ _))

/-- For a binding that is balanced from zero, the summary shows no drift exactly when nothing is
left to collect on its closed orders. -/
theorem Books.getReceivablesSummary_noDrift_iff {b : Books} {tenantId r : Uuid} {row : Binding}
    {s : ReceivablesSummary} (hs : b.Sound tenantId) (hb : b.Balanced tenantId r 0)
    (hfind : b.bindings.find? (tenantId, r) = some row) (hlive : row.isDeleted = false)
    (h : b.getReceivablesSummary tenantId = .ok s) :
    s.NoDrift row ↔ b.ClosedOrdersCollected tenantId r := by
  obtain ⟨hmem, hkey⟩ := Table.find?_eq_some.mp hfind
  obtain ⟨hw, rfl⟩ := Prod.mk.inj hkey
  rw [← closedCredit_eq_zero hs]
  -- the balance is the exposure, and the summary misses the closed part of it
  obtain ⟨row', hfind', -, hbal⟩ := hb
  obtain rfl : row' = row := Option.some.inj (hfind'.symm.trans hfind)
  rw [zero_add, exposure_eq hs, creditTotal_eq_open_add_closed hs] at hbal
  have hopen := openCredit_nonneg (w := tenantId) (r := row'.retailerId) hs
  have hheld : 0 ≤ b.heldTotal tenantId row'.retailerId := by
    rw [heldTotal_eq hs]
    refine Table.total_nonneg fun o ho => ?_
    split
    · exact (hs.accounts o ho).held_nonneg
    · exact le_rfl
  have hclosed : 0 ≤ b.closedCredit tenantId row'.retailerId := by
    refine Table.total_nonneg fun o ho => ?_
    split
    · exact (hs.accounts o ho).owed_nonneg
    · exact le_rfl
  have hbound := row'.outstandingBalance.bound
  obtain ⟨s', hs', hrows⟩ := getReceivablesSummary_eq hs
  obtain rfl : s' = s := Except.ok.inj (hs'.symm.trans h)
  have hbinding : row' ∈ b.receivableBindings tenantId :=
    mem_receivableBindings.mpr ⟨hmem, hw, hlive⟩
  obtain ⟨x, hx, hxid, hxbal, hxheld, hxcredit⟩ :=
    retailerReceivables_eq hs (List.mem_map_of_mem (f := Binding.retailerId) hbinding)
  have hcredit := hxcredit (by unfold contextPrecision; omega)
  -- the retailer has no other entry
  have hunique : ∀ y ∈ s'.byRetailer, y.retailerId = row'.retailerId → y = x := by
    intro y hy hyid
    obtain ⟨⟨z, hz, hzy⟩, -⟩ := (hrows y).mp hy
    obtain ⟨hzmem, hzw, -⟩ := mem_receivableBindings.mp hz
    obtain ⟨y', hy', hyid', -⟩ := retailerReceivables_eq hs
      (List.mem_map_of_mem (f := Binding.retailerId) hz)
    obtain rfl : y' = y := Except.ok.inj (hy'.symm.trans hzy)
    have hzid : z.retailerId = row'.retailerId := hyid'.symm.trans hyid
    obtain rfl : z = row' := Table.eq_of_key_eq hzmem hmem (by simp [hzw, hzid, hw])
    exact Except.ok.inj (hzy.symm.trans hx)
  have hsum : x.outstandingBalance = x.creditReceivables + x.unpaidOrderBalance ↔
      b.closedCredit tenantId row'.retailerId = 0 := by
    rw [hxbal, hcredit, hxheld, scaled_add_scaled, Numeric.toDecimal, scaled_inj]
    omega
  by_cases hshown : x ∈ s'.byRetailer
  · rw [← hsum]
    constructor
    · rintro (⟨y, hy, hyid, hysum⟩ | ⟨hnone, -⟩)
      · exact hunique y hy hyid ▸ hysum
      · exact absurd hxid (hnone x hshown)
    · intro hsum
      exact .inl ⟨x, hshown, hxid, hsum⟩
  · -- the entry was dropped because it is all zero
    have hzero : x.outstandingBalance = 0 ∧ x.unpaidOrderBalance = 0 ∧
        x.creditReceivables = 0 := by
      by_contra hne
      exact hshown ((hrows x).mpr ⟨⟨row', hbinding, hx⟩, hne⟩)
    obtain ⟨hz, -, -⟩ := hzero
    rw [hxbal, Numeric.toDecimal, scaled_eq_zero] at hz
    constructor
    · intro _
      omega
    · intro _
      refine .inr ⟨fun y hy hyid => hshown (hunique y hy hyid ▸ hy), Numeric.ext hz⟩

/-! ## Every reachable state -/

/-- **The summary and the cache.** In every state reached in whole cents the summary is produced,
and for a binding that started at zero it shows no drift exactly when nothing is left to collect on
the pair's fulfilled and returned orders. -/
theorem receivables_noDrift_iff {db : Db} {r : Uuid} {row : Binding} {cs : List Command}
    (hfresh : db.Fresh) (hfind : db.books.bindings.find? (db.tenantId, r) = some row)
    (hlive : row.isDeleted = false) (hzero : row.outstandingBalance = .zero)
    (hcs : ∀ c ∈ cs, c.WholeCent) :
    ∃ s row', (run execute db cs).books.getReceivablesSummary db.tenantId = .ok s ∧
      (run execute db cs).books.bindings.find? (db.tenantId, r) = some row' ∧
      row'.isDeleted = false ∧
      (s.NoDrift row' ↔ (run execute db cs).books.ClosedOrdersCollected db.tenantId r) := by
  obtain ⟨hs, hb⟩ := run_balanced hfresh.sound (hfresh.balanced hfind hlive) hcs
  rw [run_tenantId hcs] at hs
  rw [hzero, Numeric.zero_unscaled] at hb
  obtain ⟨s, hsum, -⟩ := Books.getReceivablesSummary_eq hs
  obtain ⟨row', hfind', hlive', -⟩ := id hb
  exact ⟨s, row', hsum, hfind', hlive',
    Books.getReceivablesSummary_noDrift_iff hs hb hfind' hlive' hsum⟩

theorem receivables_noDrift_lifecycleRun :
    ∃ s row, (run execute (sampleTenant 10000) lifecycleRun).books.getReceivablesSummary 1 =
        .ok s ∧
      (run execute (sampleTenant 10000) lifecycleRun).books.bindings.find? (1, 2) = some row ∧
      row.isDeleted = false ∧
      (s.NoDrift row ↔
        (run execute (sampleTenant 10000) lifecycleRun).books.ClosedOrdersCollected 1 2) :=
  @receivables_noDrift_iff _ _ ⟨1, 2, .active, .zero, false⟩ _
    (sampleTenant_fresh (by decide)) (by decide +kernel) rfl rfl lifecycleRun_wholeCent

/-- An order of 5.00 sold on credit and fulfilled before anything is collected. -/
def soldAndFulfilledRun : List Command :=
  [.createOrder 50 2 [sampleItem 100 1], .confirmOrder 50 (some 9),
    .confirmPayment ⟨200, sampleDay⟩ (Uuid.text 50)
      (samplePayment (scaled 2 500) .credit none "pay-0001"),
    .fulfillOrder 50]

theorem soldAndFulfilledRun_wholeCent : ∀ c ∈ soldAndFulfilledRun, c.WholeCent := by
  simp only [soldAndFulfilledRun, List.forall_mem_cons]
  exact ⟨trivial, trivial, ⟨500, rfl⟩, trivial, List.forall_mem_nil _⟩

/-- There the cache shows 5.00, and the summary neither credit nor an open balance. -/
theorem receivables_drift_soldAndFulfilledRun : ∃ s row,
    (∀ c ∈ soldAndFulfilledRun, c.WholeCent) ∧
    (run execute (sampleTenant 10000) soldAndFulfilledRun).books.getReceivablesSummary 1 = .ok s ∧
    (run execute (sampleTenant 10000) soldAndFulfilledRun).books.bindings.find? (1, 2) =
      some row ∧
    row.isDeleted = false ∧ s.byRetailer = [⟨2, 5, 0, 0, 0⟩] ∧ ¬s.NoDrift row := by
  refine ⟨⟨5, 1, 0, 0, 0, [⟨2, 5, 0, 0, 0⟩]⟩, ⟨1, 2, .active, .ofCents 500, false⟩,
    soldAndFulfilledRun_wholeCent, ?_, ?_, rfl, rfl, ?_⟩ <;> decide +kernel

end Mpango
