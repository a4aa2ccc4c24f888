import Mpango.Money.Binding
import Mpango.Money.History

/-!
# Bootstrapping a tenant again

The gates of the bootstrap read what the commands have maintained. In every state reached from a
new tenant every account is sound and every binding shows its pair's exposure, so the gates pass
(`reconcile_of_reachable`); and what passes has the lifecycle shape, up to a released hold on a
voided order, and shows the exposure on every binding that is compared
(`Books.reconcile_accepts`).
-/

namespace Mpango

open Decimal

/-- An account comes to have a hold only with a move of the balance. -/
theorem Account.Step.reserves {a a' : Account} {delta : ℤ} (h : Account.Step a delta a')
    (hnone : a.hold = none) (hsome : a'.hold ≠ none) : delta ≠ 0 := by
  cases h with
  | reserve _ hpos => exact hpos.ne'
  | drop _ _ _ | fulfil _ | «return» _ => exact absurd hnone hsome
  | release _ hhold | settlePart _ _ hhold _ _ | settleFull _ _ hhold _ _ | sell _ hhold _ _
  | collect _ _ hhold _ _ =>
    rw [hnone] at hhold
    simp at hhold

namespace Books

variable {tenantId w r : Uuid} {b b' : Books} {o : Order}

/-! ## Every hold has a binding -/

/-- Every order that has, or has had, a hold is of a pair with a live binding. -/
def Covered (b : Books) : Prop :=
  ∀ o ∈ b.orders, (b.account o).hold ≠ none →
    ∃ row, b.liveBinding? o.wholesalerId o.retailerId = some row

/-- Moving a balance leaves every binding live. -/
theorem BalanceMoved.live {cents : ℤ} (h : BalanceMoved b.bindings w r cents b'.bindings) :
    (∃ row, b'.liveBinding? w r = some row) ∧
      ∀ w' r', (∃ row, b.liveBinding? w' r' = some row) → ∃ row, b'.liveBinding? w' r' = some row := by
  obtain ⟨row, m, hfind, hlive, -, -, hset⟩ := h
  have hkey : (row.wholesalerId, row.retailerId) = (w, r) := Table.key_of_find? hfind
  have hself : b'.liveBinding? w r = some { row with outstandingBalance := m } := by
    have hself := Table.find?_set_self (r := ({ row with outstandingBalance := m } : Binding))
      (by rw [key_binding, hkey]; exact hfind)
    rw [key_binding, hkey, ← hset] at hself
    exact liveBinding?_eq_some.mpr ⟨hself, hlive⟩
  refine ⟨⟨_, hself⟩, fun w' r' ⟨x, hx⟩ => ?_⟩
  by_cases hpair : (w', r') = (w, r)
  · obtain ⟨rfl, rfl⟩ := Prod.mk.inj hpair
    exact ⟨_, hself⟩
  · refine ⟨x, ?_⟩
    rw [liveBinding?, hset, Table.find?_set_of_ne (by rw [key_binding, hkey]; exact hpair)]
    exact hx

theorem Covered.create {orders : Table Order} (hs : b.Sound tenantId) (hc : b.Covered)
    (hins : b.orders.insert? o = some orders) : Covered { b with orders } := by
  intro x hx hhold
  rcases (Table.mem_insert? hins).mp hx with hx | rfl
  · exact hc x hx hhold
  · refine absurd ?_ hhold
    have hnone := hs.absent_hold x.id (Table.insert?_eq_some.mp hins).1
    show Option.map holdCents (b.creditHolds.find? x.id) = none
    rw [hnone, Option.map_none]

theorem Covered.advance {target : OrderState} {delta : ℤ} (hc : b.Covered)
    (h : Advance b b' o target delta) : b'.Covered := by
  have hkept : ∀ w r, (∃ row, b.liveBinding? w r = some row) →
      ∃ row, b'.liveBinding? w r = some row := by
    intro w r hrow
    rcases h.balance with ⟨-, hsame⟩ | hmoved
    · rwa [liveBinding?_congr hsame]
    · exact hmoved.live.2 w r hrow
  intro x hx hhold
  rw [h.orders, Table.mem_set] at hx
  rcases hx with ⟨hx, hne⟩ | ⟨rfl, -⟩
  · have hid : x.id ≠ o.id := hne
    rw [account_congr (h.holds x.id hid) (h.amounts x.id hid)] at hhold
    exact hkept _ _ (hc x hx hhold)
  · by_cases hnone : (b.account o).hold = none
    · have hdelta := h.step.reserves hnone hhold
      rcases h.balance with ⟨hzero, -⟩ | hmoved
      · exact absurd hzero hdelta
      · exact hmoved.live.1
    · exact hkept _ _ (hc o h.mem hnone)

/-- A write in whole cents leaves every hold covered. -/
theorem Covered.step (hs : b.Sound tenantId) (hc : b.Covered)
    (h : Step tenantId PaymentRequest.WholeCent b b') : b'.Covered := by
  rcases h.advance with ⟨o, orders, hins, -, -, -, rfl⟩ | ⟨o, target, delta, hadv⟩
  · exact hc.create hs hins
  · exact hc.advance hadv

/-! ## What passes the gates -/

theorem reconcileHistory_eq_ok : b.reconcileHistory = .ok () ↔
    (∀ p ∈ b.payments, b.illegalPayment (fun _ => false) p = false) ∧
    (∀ p ∈ b.payments, b.splitsCredit p = false) ∧
    (∀ o ∈ b.orders, o.isDeleted = false → matrixOffends o.status o.totalAmount.unscaled
      (b.cashTotal o.id) (b.creditSold o.id) false = false) ∧
    ∀ o ∈ b.orders, o.isDeleted = false → b.holdOffends o = false := by
  unfold reconcileHistory
  simp only [bind_eq_ok, exists_const, refuseFirst_eq_ok, List.find?_eq_none, Table.mem_rows,
    Bool.not_eq_true, Bool.and_eq_false_imp, Bool.not_eq_true']

theorem reconcileAttribution_eq_ok {registry : Registry} {ts : String} :
    b.reconcileAttribution registry ts = .ok () ↔
      b.orders.rows.length + b.payments.rows.length = 0 ∨
        ∃ ws, registry.wholesalerFor ts liveRegistrationStatuses.contains
            [WholesalerStatus.active, .provisioning].contains = some ws ∧
          ts = canonicalSchema ws ∧ (∀ o ∈ b.orders, o.wholesalerId = ws) ∧
          ∀ o ∈ b.orders, b.lacksBinding ws o = false := by
  unfold reconcileAttribution
  split
  · next h => simp [h]
  · next h =>
    simp only [bind_eq_ok, exists_const, orRefuse_eq_ok, refuseIf_eq_ok, not_not,
      refuseFirst_eq_ok, List.find?_eq_none, Table.mem_rows, Bool.not_eq_true, ne_eq, h, false_or, decide_eq_true_eq]

theorem reconcileCache_eq_ok : b.reconcileCache = .ok () ↔
    ∀ row ∈ b.comparedBindings,
      row.outstandingBalance.unscaled = b.fourWayTotal row.retailerId := by
  unfold reconcileCache
  simp only [bind_eq_ok, exists_const, refuseIf_eq_ok, List.any_eq_true, decide_eq_true_eq,
    not_exists, not_and, not_le, not_not, List.length_eq_zero_iff, List.filter_eq_nil_iff, ne_eq]
  constructor
  · rintro ⟨-, h⟩
    exact h
  · intro h
    refine ⟨fun row hrow => ?_, h⟩
    rw [← h row hrow]
    exact row.outstandingBalance.bound

/-! ## The totals of a retailer -/

/-- Under one wholesaler, a retailer's holds are those of the pair. -/
theorem holdTotal_eq (hown : ∀ o ∈ b.orders, o.isDeleted = false → o.wholesalerId = w) :
    b.holdTotal r = b.heldTotal w r := by
  refine Table.total_congr fun h _ => ?_
  cases hfind : b.orders.find? h.orderId with
  | none => rfl
  | some o =>
    refine if_congr ?_ rfl rfl
    simp only [Bool.and_eq_true, Bool.not_eq_true', decide_eq_true_eq]
    exact ⟨fun ⟨⟨hlive, hact⟩, hr⟩ =>
        ⟨⟨hown o (Table.mem_of_find? hfind) hlive, hr⟩, hlive, hact⟩,
      fun ⟨⟨_, hr⟩, hlive, hact⟩ => ⟨⟨hlive, hact⟩, hr⟩⟩

/-- Positive credit is credit that was sold. -/
theorem Legal.creditSold_pos (h : b.Legal o) :
    0 < b.creditSold o.id ↔ b.countOrderPayments o.id .credit ≠ 0 := by
  have hnn := h.creditSold_nonneg
  have hcount : (b.account o).credits = [] ↔ b.countOrderPayments o.id .credit = 0 := by
    show List.map _ _ = [] ↔ List.length _ = 0
    rw [List.map_eq_nil_iff, List.length_eq_zero_iff]
  rw [ne_eq, ← hcount, ← h.credits_eq_nil]
  omega

theorem exposureTotal_eq (hown : ∀ o ∈ b.orders, o.isDeleted = false → o.wholesalerId = w)
    (hl : ∀ o ∈ b.orders, o.isDeleted = false → b.Legal o) :
    b.exposureTotal (fun _ => true) r = b.creditTotal w r := by
  refine Table.total_congr fun o ho => if_congr ?_ rfl rfl
  simp only [Bool.and_eq_true, Bool.not_eq_true', decide_eq_true_eq, and_true]
  constructor
  · rintro ⟨⟨hlive, hpos⟩, hr⟩
    exact ⟨⟨hown o ho hlive, hr⟩, hlive, (hl o ho hlive).creditSold_pos.mp hpos⟩
  · rintro ⟨⟨-, hr⟩, hlive, hpos⟩
    exact ⟨⟨hlive, (hl o ho hlive).creditSold_pos.mpr hpos⟩, hr⟩

/-! ## Acceptance -/

/-- The shape the gates let through: that of the order's status, or a voided order with a released
hold of its total. -/
def AcceptedShape (b : Books) (o : Order) : Prop :=
  LifecycleShape b o ∨ o.status = .voided ∧
    (∃ h, b.creditHolds.find? o.id = some h ∧ h.status = .released ∧ h.amount = o.totalAmount ∧
      h.remainingAmount = .zero) ∧
    b.orderPayments o.id [.cash, .transfer] = [] ∧ b.orderPayments o.id [.credit] = []

/-- **Acceptance.** What the gates accept has on every live order an accepted shape, and on every
live binding of a wholesaler with a live order the balance its pair's orders occupy. -/
theorem reconcile_accepts {registry : Registry} {ts : String}
    (h : b.reconcileCreditHolds registry ts = .ok ()) :
    (∀ o ∈ b.orders, o.isDeleted = false → AcceptedShape b o) ∧
    ∀ row ∈ b.bindings, row.isDeleted = false →
      (∃ o ∈ b.orders, o.isDeleted = false ∧ o.wholesalerId = row.wholesalerId) →
        row.outstandingBalance.unscaled = b.heldTotal row.wholesalerId row.retailerId +
          b.creditTotal row.wholesalerId row.retailerId := by
  unfold reconcileCreditHolds at h
  simp only [bind_eq_ok, exists_unit_ok] at h
  obtain ⟨hhistory, hattribution, hcache⟩ := h
  obtain ⟨hlegal, hunsplit, hmatrix, hhold⟩ := reconcileHistory_eq_ok.mp hhistory
  refine ⟨fun o ho hlive => ?_, fun row hrow hlive howner => ?_⟩
  · rcases shape_of_gates (legal_of_gates hlegal hunsplit o) (hmatrix o ho hlive)
      (hhold o ho hlive) with hshape | ⟨hst, hh, hts, hcr⟩
    · exact .inl hshape.lifecycleShape
    · obtain ⟨row, hfind, hrel, hamt, hrem⟩ := account_hold_eq_some hh
      exact .inr ⟨hst, ⟨row, hfind, hrel, Numeric.ext hamt, Numeric.ext hrem⟩,
        orderPayments_eq_nil hts, orderPayments_eq_nil hcr⟩
  · obtain ⟨o, ho, holive, how⟩ := howner
    rcases reconcileAttribution_eq_ok.mp hattribution with hempty | ⟨ws, -, -, hown, -⟩
    · -- there is an order
      have hnil : b.orders.rows = [] := List.length_eq_zero_iff.mp (by omega)
      rw [← Table.mem_rows, hnil] at ho
      simp at ho
    · obtain rfl : row.wholesalerId = ws := how.symm.trans (hown o ho)
      have hcompared : row ∈ b.comparedBindings := by
        simp only [comparedBindings, Table.mem_select, Bool.and_eq_true, Bool.not_eq_true',
          List.any_eq_true, decide_eq_true_eq]
        exact ⟨hrow, hlive, o, ho, holive, how⟩
      have hlive' : ∀ o ∈ b.orders, o.isDeleted = false → o.wholesalerId = row.wholesalerId :=
        fun o ho _ => hown o ho
      rw [reconcileCache_eq_ok.mp hcache row hcompared, fourWayTotal, holdTotal_eq hlive',
        exposureTotal_eq hlive' fun o _ _ => legal_of_gates hlegal hunsplit o]

/-! ## What the commands maintain -/

/-- Every live binding of the tenant shows its pair's exposure. -/
def CacheExact (tenantId : Uuid) (b : Books) : Prop :=
  ∀ row ∈ b.bindings, row.isDeleted = false → row.wholesalerId = tenantId →
    b.Balanced row.wholesalerId row.retailerId 0

/-- No write makes a binding. -/
theorem Step.binding_origin (h : Step tenantId PaymentRequest.WholeCent b b') {row : Binding}
    (hrow : row ∈ b'.bindings) : ∃ old ∈ b.bindings, old.wholesalerId = row.wholesalerId ∧
      old.retailerId = row.retailerId ∧ old.isDeleted = row.isDeleted := by
  rcases h.advance with ⟨o, orders, -, -, -, -, rfl⟩ | ⟨o, target, delta, hadv⟩
  · exact ⟨row, hrow, rfl, rfl, rfl⟩
  · rcases hadv.balance with ⟨-, hsame⟩ | ⟨x, m, hfind, -, -, -, hset⟩
    · exact ⟨row, hsame ▸ hrow, rfl, rfl, rfl⟩
    · rw [hset, Table.mem_set] at hrow
      rcases hrow with ⟨hrow, -⟩ | ⟨rfl, -⟩
      · exact ⟨row, hrow, rfl, rfl, rfl⟩
      · exact ⟨x, Table.mem_of_find? hfind, rfl, rfl, rfl⟩

theorem CacheExact.step {t : Uuid} (hs : b.Sound t) (hc : b.CacheExact tenantId)
    (h : Step t PaymentRequest.WholeCent b b') : b'.CacheExact tenantId := by
  intro row hrow hlive hw
  obtain ⟨old, hold, hsamew, hsamer, hdel⟩ := h.binding_origin hrow
  have hbal := hc old hold (hdel.trans hlive) (hsamew.trans hw)
  rw [hsamew, hsamer] at hbal
  exact hbal.step hs h

/-- An order with a status that bears a hold, or with credit sold, has a hold. -/
theorem hold_of_occupies (ha : (b.account o).Sound)
    (h : o.status ∈ holdBearingStatuses ∨ 0 < b.creditSold o.id) : (b.account o).hold ≠ none := by
  have hcredit : b.creditSold o.id = (b.account o).credits.sum := rfl
  have hs := ha.shape
  rw [hcredit] at h
  cases hst : o.status <;> simp only [Account.Shape, account_status, hst] at hs h
  case draft | voided | cancelled => simp [hs.2.2, holdBearingStatuses] at h
  case confirmed | partiallyPaid => simp [hs.1]
  case paid | fulfilled | returned => rcases hs with ⟨hhold, -⟩ | ⟨hhold, -⟩ <;> simp [hhold]

end Books

/-- The schema of a tenant is registered, and to the tenant's own wholesaler. -/
def Registry.Registers (registry : Registry) (tenantId : Uuid) : Prop :=
  registry.wholesalerFor (canonicalSchema tenantId) liveRegistrationStatuses.contains
    [WholesalerStatus.active, .provisioning].contains = some tenantId

namespace Books

variable {tenantId : Uuid} {b : Books}

/-- Every order of the tenant that occupies a balance has a binding. -/
theorem Sound.not_lacksBinding {o : Order} (hs : b.Sound tenantId) (hc : b.Covered)
    (ho : o ∈ b.orders) : b.lacksBinding tenantId o = false := by
  -- an order that occupies a balance has a hold
  refine Bool.eq_false_iff.mpr fun hlacks => ?_
  simp only [lacksBinding, Bool.and_eq_true, Bool.or_eq_true, Bool.not_eq_true',
    decide_eq_true_eq] at hlacks
  obtain ⟨⟨⟨-, how⟩, hoccupies⟩, hall⟩ := hlacks
  have hhold := hold_of_occupies (hs.accounts o ho) (hoccupies.imp_left List.contains_iff_mem.mp)
  obtain ⟨row, hrow⟩ := hc o ho hhold
  obtain ⟨hfind, hlive⟩ := liveBinding?_eq_some.mp hrow
  rw [how] at hfind
  rw [hfind, Option.all_some, hlive] at hall
  exact absurd hall (by decide)

/-- What the commands maintain passes the gates. -/
theorem reconcile_of_sound {registry : Registry} (hs : b.Sound tenantId) (hc : b.Covered)
    (hcache : b.CacheExact tenantId)
    (hreg : b.orders ≠ Table.empty → registry.Registers tenantId) :
    b.reconcileCreditHolds registry (canonicalSchema tenantId) = .ok () := by
  have hlegal : ∀ o ∈ b.orders, o.isDeleted = false → b.Legal o :=
    fun o ho _ => legal_of_sound (hs.accounts o ho)
  unfold reconcileCreditHolds
  simp only [bind_eq_ok, exists_unit_ok]
  refine ⟨reconcileHistory_eq_ok.mpr ⟨fun p hp => ?_, fun p hp => ?_, fun o ho _ => ?_,
    fun o ho _ => ?_⟩, ?_, reconcileCache_eq_ok.mpr fun row hrow => ?_⟩
  · refine illegalPayment_eq_false.mpr fun hlive => ?_
    obtain ⟨o, ho, hid, hret⟩ := hs.attributed p hp
    exact ⟨(hs.validHistory ho p hp hid.symm hlive).1, o, ho, hid, hs.live o ho, rfl, hret.symm⟩
  · obtain ⟨o, ho, hid, -⟩ := hs.attributed p hp
    have hlen := (legal_of_sound (hs.accounts o ho)).unsplit
    have hcount : (b.account o).credits.length = b.countOrderPayments o.id .credit :=
      List.length_map ..
    rw [hcount, hid] at hlen
    simp only [splitsCredit, Bool.and_eq_false_imp, decide_eq_false_iff_not]
    exact fun _ => by omega
  · exact (gates_of_sound (hs.accounts o ho)).1
  · exact (gates_of_sound (hs.accounts o ho)).2
  · rw [reconcileAttribution_eq_ok]
    by_cases hempty : b.orders = Table.empty
    · -- without orders there are no payments either
      have hnone : b.payments.rows = [] := by
        refine List.eq_nil_iff_forall_not_mem.mpr fun p hp => ?_
        obtain ⟨o, ho, -⟩ := hs.attributed p (Table.mem_rows.mp hp)
        rw [hempty] at ho
        exact Table.not_mem_empty ho
      left
      rw [hempty, hnone]
      rfl
    · exact .inr ⟨tenantId, hreg hempty, rfl, hs.tenant, fun o ho => hs.not_lacksBinding hc ho⟩
  · -- a compared binding is one of the tenant's
    simp only [comparedBindings, Table.mem_select, Bool.and_eq_true, Bool.not_eq_true',
      List.any_eq_true, decide_eq_true_eq] at hrow
    obtain ⟨hmem, hlive, o, ho, -, how⟩ := hrow
    have hw : row.wholesalerId = tenantId := how.symm.trans (hs.tenant o (Table.mem_rows.mp ho))
    obtain ⟨row', hfind, -, hbal⟩ := hcache row hmem hlive hw
    obtain rfl : row' = row := Option.some.inj (hfind.symm.trans (Table.find?_key hmem))
    have hown : ∀ o ∈ b.orders, o.isDeleted = false → o.wholesalerId = tenantId :=
      fun o ho _ => hs.tenant o ho
    rw [hbal, zero_add, exposure_eq hs, hw, fourWayTotal, holdTotal_eq hown,
      exposureTotal_eq hown hlegal]

end Books

/-! ## The bootstrap of a tenant that has run -/

/-- Every state a new tenant reaches in whole cents passes the gates. -/
theorem reconcile_of_run {db : Db} {cs : List Command} {registry : Registry} (hfresh : db.Fresh)
    (hzero : ∀ row ∈ db.books.bindings, row.isDeleted = false → row.wholesalerId = db.tenantId →
      row.outstandingBalance = .zero)
    (hcs : ∀ c ∈ cs, c.WholeCent)
    (hreg : (run execute db cs).books.orders ≠ Table.empty → registry.Registers db.tenantId) :
    (run execute db cs).books.reconcileCreditHolds registry (canonicalSchema db.tenantId) =
      .ok () := by
  have hcovered : db.books.Covered := by simp [Books.Covered, hfresh.orders]
  have hexact : db.books.CacheExact db.tenantId := by
    intro row hrow hlive hw
    have hfind : db.books.bindings.find? (row.wholesalerId, row.retailerId) = some row :=
      Table.find?_key hrow
    have hbal := hfresh.balanced hfind hlive
    rwa [hzero row hrow hlive hw, Numeric.zero_unscaled] at hbal
  obtain ⟨hs, hc⟩ := run_books (P := Books.Covered) (fun _ _ _ hs hc h => hc.step hs h)
    hfresh.sound hcovered hcs
  obtain ⟨-, hcache⟩ := run_books (P := Books.CacheExact db.tenantId)
    (fun _ _ _ hs hc h => hc.step hs h) hfresh.sound hexact hcs
  rw [run_tenantId hcs] at hs
  exact Books.reconcile_of_sound hs hc hcache hreg

/-- **Bootstrapping again.** Every state a new tenant reaches in whole cents passes the gates; and
in whatever passes them every live order has the shape of its status, but that a voided order may
have a released hold, and every live binding of a wholesaler with a live order shows what its
pair's orders occupy. -/
theorem reconcileCreditHolds_accepts :
    (∀ (db : Db) (cs : List Command) (registry : Registry), db.Fresh →
      (∀ row ∈ db.books.bindings, row.isDeleted = false → row.wholesalerId = db.tenantId →
        row.outstandingBalance = .zero) →
      (∀ c ∈ cs, c.WholeCent) →
      ((run execute db cs).books.orders ≠ Table.empty → registry.Registers db.tenantId) →
      (run execute db cs).books.reconcileCreditHolds registry (canonicalSchema db.tenantId) =
        .ok ()) ∧
    ∀ (b : Books) (registry : Registry) (ts : String),
      b.reconcileCreditHolds registry ts = .ok () →
      (∀ o ∈ b.orders, o.isDeleted = false → b.AcceptedShape o) ∧
      ∀ row ∈ b.bindings, row.isDeleted = false →
        (∃ o ∈ b.orders, o.isDeleted = false ∧ o.wholesalerId = row.wholesalerId) →
          row.outstandingBalance.unscaled = b.heldTotal row.wholesalerId row.retailerId +
            b.creditTotal row.wholesalerId row.retailerId :=
  ⟨fun _ _ _ hfresh hzero hcs hreg => reconcile_of_run hfresh hzero hcs hreg,
    fun _ _ _ h => Books.reconcile_accepts h⟩

/-- The registry that knows the sample tenant. -/
def sampleRegistry : Registry where
  registrations := [⟨some (canonicalSchema 1), some 1, .active, false⟩]
  wholesalers := .ofRows [⟨1, .active, false⟩]

theorem reconcileCreditHolds_lifecycleRun :
    ((run execute (sampleTenant 10000) lifecycleRun).books.reconcileCreditHolds sampleRegistry
        (canonicalSchema 1) = .ok ()) ∧
      ∀ o ∈ (run execute (sampleTenant 10000) lifecycleRun).books.orders, o.isDeleted = false →
        (run execute (sampleTenant 10000) lifecycleRun).books.AcceptedShape o := by
  have hzero : ∀ row ∈ (sampleTenant 10000).books.bindings, row.isDeleted = false →
      row.wholesalerId = (sampleTenant 10000).tenantId → row.outstandingBalance = .zero := by
    intro row hrow _ _
    rw [List.mem_singleton.mp hrow]
  have hok := reconcileCreditHolds_accepts.1 (sampleTenant 10000) lifecycleRun sampleRegistry
    (sampleTenant_fresh (by decide)) hzero lifecycleRun_wholeCent
    fun _ => by
      show sampleRegistry.wholesalerFor _ _ _ = _
      decide +kernel
  exact ⟨hok, (reconcileCreditHolds_accepts.2 _ _ _ hok).1⟩

/-- A voided order with a released hold. -/
def voidedBooks : Books where
  orders := .ofRows [⟨51, 1, 2, .voided, .ofCents 500, [], false⟩]
  creditHolds := .ofRows [⟨51, .ofCents 500, .zero, .released⟩]
  payments := .empty
  ledgerEntries := []
  bindings := .ofRows [⟨1, 2, .active, .zero, false⟩]
  receiptSequences := .empty

/-- A tenant without orders whose binding shows 5.00. -/
def driftedBooks : Books :=
  { voidedBooks with
    orders := .empty, creditHolds := .empty
    bindings := .ofRows [⟨1, 2, .active, .ofCents 500, false⟩] }

/-- The gates refuse what the commands leave behind when the wholesaler is suspended, and accept
what no command leaves behind: the hold of the voided order, and the balance that nothing
explains. -/
theorem reconcileCreditHolds_unexplained :
    ((run execute (sampleTenant 10000) lifecycleRun).books.reconcileCreditHolds
        { sampleRegistry with wholesalers := .ofRows [⟨1, .suspended, false⟩] }
        (canonicalSchema 1) = .error .unattributable) ∧
    ((voidedBooks.reconcileCreditHolds sampleRegistry (canonicalSchema 1) = .ok ()) ∧
      ∃ o ∈ voidedBooks.orders, o.isDeleted = false ∧ ¬LifecycleShape voidedBooks o) ∧
    (driftedBooks.reconcileCreditHolds sampleRegistry (canonicalSchema 1) = .ok ()) ∧
      ∃ row ∈ driftedBooks.bindings, row.isDeleted = false ∧
        row.outstandingBalance.unscaled ≠
          driftedBooks.heldTotal row.wholesalerId row.retailerId +
            driftedBooks.creditTotal row.wholesalerId row.retailerId := by
  refine ⟨by decide +kernel, ⟨by decide +kernel, ?_⟩, by decide +kernel, ?_⟩
  · refine ⟨⟨51, 1, 2, .voided, .ofCents 500, [], false⟩, ?_, rfl, fun h => ?_⟩
    · exact List.mem_singleton_self _
    · exact absurd h.1 (by decide +kernel)
  · have hrow : ∃ row ∈ driftedBooks.bindings.rows, row.isDeleted = false ∧
        row.outstandingBalance.unscaled ≠
          driftedBooks.heldTotal row.wholesalerId row.retailerId +
            driftedBooks.creditTotal row.wholesalerId row.retailerId := by decide +kernel
    exact hrow

end Mpango
