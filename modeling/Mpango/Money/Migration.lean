import Mpango.Money.Bootstrap
import Mpango.Money.HoldContract
import Mpango.Model.Migration

/-!
# What the migration leaves behind

The preflight is as strong as the later phases need: every hold it lets the backfill synthesise
passes the table's checks and is the one its order should have, the rebuilt cache is what the
holds and the history occupy, and the verification finds nothing. One thing it does not look at
is whether the rebuilt balance fits its column (`migrateTenant_lands_iff`).
-/

namespace Mpango

open Decimal

namespace Books

variable {b : Books} {ws : Uuid} {o : Order} {r : Uuid}

/-! ## The preflight -/

@[simp] theorem refuseCount_eq_ok {n : ℕ} {e : ℕ → MigrationError} {u : Unit} :
    refuseCount n e = .ok u ↔ n = 0 := by
  simp [refuseCount]

/-- No binding of the wholesaler differs from a total. -/
theorem cacheDiffs_eq_zero {total : Uuid → ℤ} : b.cacheDiffs ws total = .ok 0 ↔
    ∀ row ∈ b.bindings, row.isDeleted = false → row.wholesalerId = ws →
      row.outstandingBalance.unscaled = total row.retailerId := by
  unfold cacheDiffs ownBindings
  simp only [bind_eq_ok, exists_const, refuseIf_eq_ok, List.any_eq_true, decide_eq_true_eq,
    not_exists, not_and, not_le, pure_eq_ok, List.length_eq_zero_iff, List.filter_eq_nil_iff,
    not_not, ne_eq, Table.mem_select, Bool.and_eq_true, Bool.not_eq_true']
  constructor
  · rintro ⟨-, h⟩ row hrow hlive hw
    exact h row ⟨hrow, hlive, hw⟩
  · intro h
    refine ⟨fun row hrow => ?_, fun row hrow => h row hrow.1 hrow.2.1 hrow.2.2⟩
    rw [← h row hrow.1 hrow.2.1 hrow.2.2]
    exact row.outstandingBalance.bound

/-- What the preflight accepts. -/
structure Accepted (b : Books) (ws : Uuid) : Prop where
  own : ∀ o ∈ b.orders, o.isDeleted = false → o.wholesalerId = ws
  legal : ∀ p ∈ b.payments, b.illegalPayment (foreignTo ws) p = false
  unsplit : ∀ p ∈ b.payments, b.splitsCredit p = false
  matrix : ∀ o ∈ b.orders, o.isDeleted = false → matrixOffends o.status o.totalAmount.unscaled
    (b.cashTotal o.id) (b.creditSold o.id) (b.countOrderPayments o.id .credit ≠ 1) = false
  bound : ∀ o ∈ b.orders, b.lacksBinding ws o = false
  cache : ∀ row ∈ b.bindings, row.isDeleted = false → row.wholesalerId = ws →
    row.outstandingBalance.unscaled = b.exposureTotal (fun o => !foreignTo ws o) row.retailerId

theorem preflightTenant_eq_ok {registry : Registry} {schema : String} :
    b.preflightTenant registry schema = .ok ws ↔
      registry.wholesalerFor schema (fun _ => true) (fun _ => true) = some ws ∧ b.Accepted ws := by
  unfold preflightTenant
  simp only [bind_eq_ok, exists_const, refuseCount_eq_ok, orRefuse_eq_ok, pure_eq_ok,
    List.length_eq_zero_iff, List.dedup_eq_nil, List.map_eq_nil_iff, Table.select_eq_nil]
  constructor
  · rintro ⟨ws, hreg, hown, hlegal, hunsplit, hmatrix, hbound, diffs, hcache, rfl, rfl⟩
    have hown' : ∀ o ∈ b.orders, o.isDeleted = false → o.wholesalerId = ws := by
      intro o ho hlive
      simpa [foreignTo, hlive] using hown o ho
    refine ⟨hreg, hown', hlegal, hunsplit, fun o ho hlive => ?_, hbound, cacheDiffs_eq_zero.mp hcache⟩
    have := hmatrix o ho
    simpa [foreignTo, hlive, hown' o ho hlive] using this
  · rintro ⟨hreg, h⟩
    refine ⟨ws, hreg, fun o ho => ?_, h.legal, h.unsplit, fun o ho => ?_, h.bound, 0,
      cacheDiffs_eq_zero.mpr h.cache, rfl, rfl⟩
    · cases hlive : o.isDeleted with
      | true => rfl
      | false => simp [foreignTo, h.own o ho hlive]
    · cases hlive : o.isDeleted with
      | true => rfl
      | false => simp only [h.matrix o ho hlive, Bool.and_false]

/-- The gates of the preflight do not read the holds. -/
theorem Accepted.legalOrder (h : b.Accepted ws) (o : Order) : b.Legal o :=
  legal_of_gates h.legal h.unsplit o

/-! ## The backfill -/

/-- The hold of an order that needs one. -/
structure SynthesisOf (b : Books) (o : Order) (h : CreditHold) : Prop where
  orderId : h.orderId = o.id
  amount : h.amount = o.totalAmount
  remaining : h.remainingAmount.unscaled = wantRemaining o.status o.totalAmount.unscaled
    (b.cashTotal o.id) (b.creditSold o.id)
  status : h.status = wantStatus o.status (b.creditSold o.id)

/-- What an order that needs a hold may still reserve. -/
theorem Accepted.remaining_bounds (h : b.Accepted ws) (ho : o ∈ b.orders)
    (hneeds : needsHold o = true) :
    0 < o.totalAmount.unscaled ∧
    (holdBearingStatuses.contains o.status = true → b.creditSold o.id = 0 ∧
      0 ≤ b.cashTotal o.id ∧ b.cashTotal o.id < o.totalAmount.unscaled) := by
  simp only [needsHold, Bool.and_eq_true, Bool.not_eq_true'] at hneeds
  obtain ⟨hlive, hst⟩ := hneeds
  have hm := h.matrix o ho hlive
  cases hst' : o.status <;> rw [hst'] at hm hst
  case draft | voided | cancelled => exact absurd hst (by decide)
  case confirmed =>
    rw [matrix_of_confirmed] at hm
    exact ⟨hm.1, fun _ => ⟨hm.2.2, by omega, by omega⟩⟩
  case partiallyPaid =>
    rw [matrix_of_partiallyPaid] at hm
    exact ⟨hm.1, fun _ => ⟨hm.2.1, by omega, by omega⟩⟩
  case paid | fulfilled | returned =>
    rw [matrix_of_terminal (by decide)] at hm
    exact ⟨hm.1, fun hhb => absurd hhb (by decide)⟩

/-- The row selected for an order is its hold, and passes the checks of the table. -/
theorem Accepted.backfillRow (h : b.Accepted ws) (ho : o ∈ b.orders)
    (hneeds : needsHold o = true) :
    ∃ x, b.backfillRow o = .ok x ∧ b.SynthesisOf o x ∧ checkHold x = .ok () := by
  obtain ⟨hpos, hopen⟩ := h.remaining_bounds ho hneeds
  have hbound := o.totalAmount.bound
  by_cases hhb : holdBearingStatuses.contains o.status = true
  · obtain ⟨hcredit, hnn, hlt⟩ := hopen hhb
    have hfits : (o.totalAmount.unscaled - b.cashTotal o.id).natAbs < 10 ^ 12 := by omega
    refine ⟨⟨o.id, o.totalAmount, ⟨_, hfits⟩, wantStatus o.status (b.creditSold o.id)⟩, ?_,
      ⟨rfl, rfl, ?_, rfl⟩, ?_⟩
    · simp only [Books.backfillRow, hhb, if_true, bind_eq_ok, pure_eq_ok]
      exact ⟨_, storeMoney_scaled.mpr rfl, rfl⟩
    · simp only [wantRemaining, hhb, hcredit, decide_true, Bool.and_self, if_true]
    · rw [checkHold_eq_ok]
      refine ⟨hpos, sub_le_self _ hnn, .inl ⟨?_, sub_pos.mpr hlt⟩⟩
      simp only [wantStatus, hcredit, lt_self_iff_false, if_false, hhb, if_true]
  · refine ⟨⟨o.id, o.totalAmount, .zero, wantStatus o.status (b.creditSold o.id)⟩, ?_,
      ⟨rfl, rfl, ?_, rfl⟩, ?_⟩
    · simp only [Books.backfillRow, hhb, if_false, bind_eq_ok, pure_eq_ok, Bool.false_eq_true]
      exact ⟨_, storeMoney_scaled.mpr rfl, rfl⟩
    · have hhb' : holdBearingStatuses.contains o.status = false := by simpa using hhb
      simp only [wantRemaining, hhb', Bool.false_and, Bool.false_eq_true, if_false,
        Numeric.zero_unscaled]
    · have hstatus : wantStatus o.status (b.creditSold o.id) ≠ .active := by
        unfold wantStatus
        rw [if_neg hhb]
        split <;> simp
      rw [checkHold_eq_ok]
      exact ⟨hpos, hpos.le, .inr ⟨hstatus, rfl⟩⟩

theorem foldlM_insertHold {rows : List CreditHold} {b b' : Books}
    (h : rows.foldlM insertHold b = .ok b') :
    b' = { b with creditHolds := b'.creditHolds } ∧
      b'.creditHolds.rows = b.creditHolds.rows ++ rows := by
  have hrun := foldlM_ok_induction (f := insertHold)
    (I := fun rest c => c = { b with creditHolds := c.creditHolds } ∧
      c.creditHolds.rows ++ rest = b.creditHolds.rows ++ rows)
    (fun x rest c c' hI hx => ?_) ⟨rfl, rfl⟩ h
  · simpa using hrun
  · obtain ⟨hframe, hrows⟩ := hI
    obtain ⟨-, holds, hins, rfl⟩ := insertHold_eq_ok.mp hx
    obtain ⟨-, hnew⟩ := Table.insert?_eq_some.mp hins
    refine ⟨by rw [hframe], ?_⟩
    show holds.rows ++ rest = _
    rw [hnew, List.append_assoc, List.singleton_append, hrows]

/-- Checked rows of different orders without a hold are inserted. -/
theorem foldlM_insertHold_total {rows : List CreditHold}
    (hcheck : ∀ x ∈ rows, checkHold x = .ok ()) (hnodup : (rows.map CreditHold.orderId).Nodup)
    (habsent : ∀ x ∈ rows, b.creditHolds.find? x.orderId = none) :
    ∃ b', rows.foldlM insertHold b = .ok b' := by
  have hrun := foldlM_total (f := insertHold)
    (I := fun rest c => (∀ x ∈ rest, checkHold x = .ok ()) ∧
      (rest.map CreditHold.orderId).Nodup ∧ ∀ x ∈ rest, c.creditHolds.find? x.orderId = none)
    (fun x rest c hI => ?_) (l := rows) (b := b) ⟨hcheck, hnodup, habsent⟩
  · obtain ⟨b', hb', -⟩ := hrun
    exact ⟨b', hb'⟩
  · obtain ⟨hcheck, hnodup, habsent⟩ := hI
    obtain ⟨hx, hrest⟩ := List.forall_mem_cons.mp hcheck
    obtain ⟨hnone, hothers⟩ := List.forall_mem_cons.mp habsent
    rw [List.map_cons, List.nodup_cons] at hnodup
    obtain ⟨holds, hins⟩ := Table.exists_insert? (t := c.creditHolds) (r := x) hnone
    refine ⟨{ c with creditHolds := holds }, insertHold_eq_ok.mpr ⟨hx, holds, hins, rfl⟩, hrest,
      hnodup.2, fun y hy => ?_⟩
    rw [Table.find?_insert? hins, key_creditHold, if_neg]
    · exact hothers y hy
    · intro hkey
      exact hnodup.1 (List.mem_map.mpr ⟨y, hy, hkey⟩)

/-- The holds after the backfill: one for each order that needs one. -/
structure Backfilled (b : Books) (holds : Table CreditHold) : Prop where
  ids : holds.rows.map CreditHold.orderId = (b.orders.select needsHold).map Order.id
  synthesised : ∀ x ∈ holds, ∃ o ∈ b.orders, needsHold o = true ∧ b.SynthesisOf o x
  checked : ∀ x ∈ holds, checkHold x = .ok ()

/-- The backfill succeeds on what the preflight accepts. -/
theorem Accepted.backfillHolds (h : b.Accepted ws) : ∃ holds,
    b.createHoldTable.backfillHolds = .ok { b with creditHolds := holds } ∧
      b.Backfilled holds := by
  have hrow : ∀ o ∈ b.orders.select needsHold, ∃ x, b.backfillRow o = .ok x := by
    intro o ho
    obtain ⟨ho, hneeds⟩ := Table.mem_select.mp ho
    obtain ⟨x, hx, -⟩ := h.backfillRow ho hneeds
    exact ⟨x, hx⟩
  obtain ⟨rows, hrows⟩ := mapM_total hrow
  have hids : rows.map CreditHold.orderId = (b.orders.select needsHold).map Order.id := by
    refine map_of_mapM (fun o ho x hx => ?_) hrows
    obtain ⟨ho, hneeds⟩ := Table.mem_select.mp ho
    obtain ⟨y, hy, hsyn, -⟩ := h.backfillRow ho hneeds
    obtain rfl : y = x := Except.ok.inj (hy.symm.trans hx)
    exact hsyn.orderId
  have hmem : ∀ x ∈ rows, ∃ o ∈ b.orders, needsHold o = true ∧ b.SynthesisOf o x ∧
      checkHold x = .ok () := by
    intro x hx
    obtain ⟨o, ho, hx⟩ := (mem_mapM hrows).mp hx
    obtain ⟨ho, hneeds⟩ := Table.mem_select.mp ho
    obtain ⟨y, hy, hsyn, hcheck⟩ := h.backfillRow ho hneeds
    obtain rfl : y = x := Except.ok.inj (hy.symm.trans hx)
    exact ⟨o, ho, hneeds, hsyn, hcheck⟩
  have hcheck : ∀ x ∈ rows, checkHold x = .ok () := by
    intro x hx
    obtain ⟨-, -, -, -, hcheck⟩ := hmem x hx
    exact hcheck
  have hnodup : (rows.map CreditHold.orderId).Nodup := by
    rw [hids]
    exact (b.orders.nodup.sublist (List.filter_sublist.map Order.id))
  obtain ⟨b', hb'⟩ := foldlM_insertHold_total (b := b.createHoldTable) hcheck hnodup
    fun _ _ => rfl
  obtain ⟨hframe, hall⟩ := foldlM_insertHold hb'
  have hall' : b'.creditHolds.rows = rows := hall
  refine ⟨b'.creditHolds, ?_, ?_, fun x hx => ?_, fun x hx => ?_⟩
  · rw [Books.backfillHolds, bind_eq_ok]
    refine ⟨rows, hrows, hb'.trans ?_⟩
    rw [hframe]
    rfl
  · rw [hall', hids]
  · rw [← Table.mem_rows, hall'] at hx
    obtain ⟨o, ho, hneeds, hsyn, -⟩ := hmem x hx
    exact ⟨o, ho, hneeds, hsyn⟩
  · rw [← Table.mem_rows, hall'] at hx
    exact hcheck x hx

section Holds
variable {holds : Table CreditHold}

/-- An order that needs a hold has its synthesis. -/
theorem Backfilled.find (hb : b.Backfilled holds) (ho : o ∈ b.orders)
    (hneeds : needsHold o = true) :
    ∃ x, holds.find? o.id = some x ∧ b.SynthesisOf o x := by
  have hid : o.id ∈ holds.rows.map CreditHold.orderId := by
    rw [hb.ids]
    exact List.mem_map_of_mem (Table.mem_select.mpr ⟨ho, hneeds⟩)
  obtain ⟨x, hx, hxid⟩ := List.mem_map.mp hid
  have hfind : holds.find? x.orderId = some x := Table.find?_key hx
  obtain ⟨o', ho', -, hsyn⟩ := hb.synthesised x hx
  obtain rfl : o' = o := Table.eq_of_key_eq ho' ho (hsyn.orderId.symm.trans hxid)
  exact ⟨x, hxid ▸ hfind, hsyn⟩

/-- Nothing else has a hold. -/
theorem Backfilled.find_eq_none (hb : b.Backfilled holds) {id : Uuid}
    (hneeds : ∀ o ∈ b.orders, o.id = id → needsHold o = false) : holds.find? id = none := by
  refine Table.find?_eq_none.mpr fun x hx hid => ?_
  obtain ⟨o, ho, ho', hsyn⟩ := hb.synthesised x hx
  rw [hneeds o ho (hsyn.orderId.symm.trans hid)] at ho'
  exact absurd ho' (by decide)

/-- The hold of every live order passes the gate on holds. -/
theorem Backfilled.holdOffends (hb : b.Backfilled holds) (ho : o ∈ b.orders)
    (hlive : o.isDeleted = false) :
    ({ b with creditHolds := holds } : Books).holdOffends o = false := by
  by_cases hst : o.status ∈ holdBearingStatuses ++ terminalPaidStatuses
  · have hneeds : needsHold o = true := by
      simp only [needsHold, hlive, Bool.not_false, Bool.true_and, List.contains_iff_mem]
      exact hst
    obtain ⟨x, hfind, hsyn⟩ := hb.find ho hneeds
    rw [hold_of_needed hst]
    show (holds.find? o.id).map holdCents = _
    rw [hfind, Option.map_some, holdCents, hsyn.status, hsyn.amount, hsyn.remaining]
    rfl
  · have hneeds : needsHold o = false := by
      simp only [needsHold, hlive, Bool.not_false, Bool.true_and, List.contains_eq_mem]
      exact decide_eq_false hst
    have hnone : holds.find? o.id = none := by
      refine hb.find_eq_none fun o' ho' hid => ?_
      obtain rfl : o' = o := Table.eq_of_key_eq ho' ho hid
      exact hneeds
    have hno : (({ b with creditHolds := holds } : Books).account o).hold = none := by
      show (holds.find? o.id).map holdCents = none
      rw [hnone, Option.map_none]
    have hcases : o.status = .draft ∨ o.status = .cancelled ∨ o.status = .voided := by
      revert hst
      cases o.status <;> decide
    rcases hcases with hst | hst
    · exact (hold_of_draft hst).mpr hno
    · exact (hold_of_dropped hst).mpr (.inl hno)

end Holds

/-! ## The rebuilt cache -/

/-- What a retailer's balance comes to: what its open orders still reserve, and what is left to
collect on its credit sales. -/
def landedTotal (b : Books) (r : Uuid) : ℤ :=
  b.orders.total fun o => if !o.isDeleted && o.retailerId = r then
    wantRemaining o.status o.totalAmount.unscaled (b.cashTotal o.id) (b.creditSold o.id) +
      if 0 < b.creditSold o.id then b.creditSold o.id - b.cashTotal o.id else 0
  else 0

/-- Every live binding of the wholesaler can hold its retailer's total. -/
def Fits (b : Books) (ws : Uuid) : Prop :=
  ∀ row ∈ b.bindings, row.isDeleted = false → row.wholesalerId = ws →
    b.landedTotal row.retailerId < 10 ^ 12

instance : Decidable (b.Fits ws) := inferInstanceAs (Decidable (∀ row ∈ b.bindings.rows, _))

/-- A credit sale the matrix allows is collected at most in full. -/
theorem cash_le_credit_of_matrix {status : OrderState} {total cash credit : ℤ} {split : Bool}
    (hm : matrixOffends status total cash credit split = false) (hpos : 0 < credit) :
    cash ≤ credit := by
  cases status
  case draft | cancelled | voided =>
    rw [matrix_of_noHold (by decide)] at hm
    omega
  case confirmed =>
    rw [matrix_of_confirmed] at hm
    omega
  case partiallyPaid =>
    rw [matrix_of_partiallyPaid] at hm
    omega
  case paid | fulfilled | returned =>
    rw [matrix_of_terminal (by decide)] at hm
    exact (hm.2.1 hpos).2.2.2

theorem Accepted.landed_nonneg (h : b.Accepted ws) : 0 ≤ b.landedTotal r := by
  refine Table.total_nonneg fun o ho => ?_
  split
  · next hlive =>
    simp only [Bool.and_eq_true, Bool.not_eq_true', decide_eq_true_eq] at hlive
    have hm := h.matrix o ho hlive.1
    have hremaining : 0 ≤ wantRemaining o.status o.totalAmount.unscaled (b.cashTotal o.id)
        (b.creditSold o.id) := by
      unfold wantRemaining
      split
      · next hhb =>
        rw [Bool.and_eq_true] at hhb
        have hneeds : needsHold o = true := by
          simp only [needsHold, hlive.1, Bool.not_false, Bool.true_and, List.contains_iff_mem,
            List.mem_append]
          exact .inl (List.contains_iff_mem.mp hhb.1)
        have hlt := ((h.remaining_bounds ho hneeds).2 hhb.1).2.2
        omega
      · exact le_rfl
    have hsold : 0 ≤ if 0 < b.creditSold o.id then b.creditSold o.id - b.cashTotal o.id else 0 := by
      split
      · next hpos =>
        have hle := cash_le_credit_of_matrix hm hpos
        omega
      · exact le_rfl
    omega
  · exact le_rfl

section Rebuild
variable {holds : Table CreditHold}

/-- After the backfill the active holds reserve what the open orders call for. -/
theorem Backfilled.holdTotal (hb : b.Backfilled holds) :
    ({ b with creditHolds := holds } : Books).holdTotal r =
      b.orders.total fun o => if !o.isDeleted && o.retailerId = r then
        wantRemaining o.status o.totalAmount.unscaled (b.cashTotal o.id) (b.creditSold o.id)
      else 0 := by
  have hjoin := Table.total_join b.orders holds fun o h =>
    if !o.isDeleted && h.status = .active && o.retailerId = r then h.remainingAmount.unscaled else 0
  refine hjoin.trans (Table.total_congr fun o ho => ?_)
  rw [key_order]
  by_cases hneeds : needsHold o = true
  · obtain ⟨x, hfind, hsyn⟩ := hb.find ho hneeds
    have hlive : o.isDeleted = false := by
      simp only [needsHold, Bool.and_eq_true, Bool.not_eq_true'] at hneeds
      exact hneeds.1
    rw [hfind, Option.elim_some, hsyn.remaining, hsyn.status, hlive]
    -- a hold that is not active has nothing remaining
    by_cases hr : o.retailerId = r
    · simp only [hr, Bool.not_false, Bool.true_and, decide_true, Bool.and_true, if_true,
        decide_eq_true_eq]
      split
      · rfl
      · next hstatus =>
        unfold wantStatus at hstatus
        unfold wantRemaining
        symm
        refine if_neg fun hhb => hstatus ?_
        simp only [Bool.and_eq_true, decide_eq_true_eq] at hhb
        rw [hhb.2, if_neg (lt_irrefl 0), if_pos hhb.1]
    · simp [hr]
  · have hnone : holds.find? o.id = none := by
      refine hb.find_eq_none fun o' ho' hid => ?_
      obtain rfl : o' = o := Table.eq_of_key_eq ho' ho hid
      simpa using hneeds
    rw [hnone, Option.elim_none]
    symm
    split
    · next hlive =>
      simp only [Bool.and_eq_true, Bool.not_eq_true', decide_eq_true_eq] at hlive
      refine if_neg fun hhb => hneeds ?_
      rw [Bool.and_eq_true] at hhb
      simp only [needsHold, hlive.1, Bool.not_false, Bool.true_and, List.contains_iff_mem,
        List.mem_append]
      exact .inl (List.contains_iff_mem.mp hhb.1)
    · rfl

/-- Holds and exposure together. -/
theorem Backfilled.fourWayTotal (hb : b.Backfilled holds) :
    ({ b with creditHolds := holds } : Books).fourWayTotal r = b.landedTotal r := by
  rw [Books.fourWayTotal, hb.holdTotal, landedTotal]
  have hadd := Table.total_add b.orders (fun o => if !o.isDeleted && o.retailerId = r then
      wantRemaining o.status o.totalAmount.unscaled (b.cashTotal o.id) (b.creditSold o.id) else 0)
    fun o => if !o.isDeleted && true && 0 < b.creditSold o.id && o.retailerId = r then
      b.creditSold o.id - b.cashTotal o.id else 0
  refine hadd.symm.trans (Table.total_congr fun o _ => ?_)
  by_cases hlive : (!o.isDeleted && o.retailerId = r) = true
  · simp only [Bool.and_eq_true, Bool.not_eq_true', decide_eq_true_eq] at hlive
    simp [hlive]
  · rw [if_neg hlive, if_neg hlive, if_neg, add_zero]
    simp only [Bool.and_eq_true, Bool.not_eq_true', decide_eq_true_eq, and_true] at hlive ⊢
    exact fun h => hlive ⟨h.1.1, h.2⟩

/-- A retailer that occupies nothing has no exposure. -/
theorem exposureTotal_of_not_occupies (h : b.occupies r = false) :
    b.exposureTotal (fun _ => true) r = 0 := by
  simp only [occupies, Bool.or_eq_false_iff, List.any_eq_false, Bool.and_eq_true,
    decide_eq_true_eq, Bool.not_eq_true', not_and] at h
  rw [exposureTotal, Table.total_congr (g := fun _ => 0)]
  · simp [Table.total]
  intro o ho
  refine if_neg fun hc => ?_
  simp only [Bool.and_eq_true, Bool.not_eq_true', decide_eq_true_eq, and_true] at hc
  exact h.2 o ho ⟨hc.1.1, hc.1.2⟩ hc.2

/-- Nor any active hold. -/
theorem fourWayTotal_of_not_occupies (h : b.occupies r = false) : b.fourWayTotal r = 0 := by
  have hexposure := exposureTotal_of_not_occupies h
  simp only [occupies, Bool.or_eq_false_iff, List.any_eq_false, Bool.and_eq_true,
    decide_eq_true_eq, not_and, Bool.not_eq_true] at h
  have hzero : b.holdTotal r = 0 := by
    rw [holdTotal, Table.total_congr (g := fun _ => 0)]
    · simp [Table.total]
    intro x hx
    cases hfind : b.orders.find? x.orderId with
    | none => rfl
    | some o =>
      refine if_neg fun hc => ?_
      simp only [Bool.and_eq_true, Bool.not_eq_true', decide_eq_true_eq] at hc
      have := h.1 x hx hc.1.2
      simp [hfind, hc.1.1, hc.2] at this
  rw [fourWayTotal, hzero, hexposure, add_zero]

/-- A retailer without live orders occupies nothing. -/
theorem occupies_of_phantom (h : (b.orders.rows.any fun o =>
    o.retailerId = r && !o.isDeleted) = false) : b.occupies r = false := by
  simp only [List.any_eq_false, Bool.and_eq_true, decide_eq_true_eq, Bool.not_eq_true',
    not_and, Bool.not_eq_false] at h
  simp only [occupies, Bool.or_eq_false_iff, List.any_eq_false, Bool.and_eq_true,
    decide_eq_true_eq, Bool.not_eq_true', not_and, Option.any_eq_true]
  refine ⟨fun x _ _ => ?_, fun o ho hlive hr => ?_⟩
  · rintro ⟨o, hfind, hlive, hr⟩
    have := h o (Table.mem_of_find? hfind) hr
    simp [hlive] at this
  · have := h o ho hr
    simp [hlive.1] at this

/-- The exposure the preflight compared is the whole exposure. -/
theorem Accepted.exposureTotal (h : b.Accepted ws) :
    b.exposureTotal (fun o => !foreignTo ws o) r = b.exposureTotal (fun _ => true) r := by
  refine Table.total_congr fun o ho => if_congr ?_ rfl rfl
  simp only [Bool.and_eq_true, Bool.not_eq_true', decide_eq_true_eq, and_true]
  constructor
  · rintro ⟨⟨⟨hlive, -⟩, hpos⟩, hr⟩
    exact ⟨⟨hlive, hpos⟩, hr⟩
  · rintro ⟨⟨hlive, hpos⟩, hr⟩
    exact ⟨⟨⟨hlive, by simp [foreignTo, h.own o ho hlive]⟩, hpos⟩, hr⟩

/-- The first update computes every row when every total fits, and only then. -/
theorem exists_update_iff : (∃ bindings, b.bindings.update? (b.rebuiltBinding ws)
      key_rebuiltBinding = some bindings) ↔
    ∀ row ∈ b.bindings, row.isDeleted = false → row.wholesalerId = ws →
      (b.fourWayTotal row.retailerId).natAbs < 10 ^ 12 := by
  rw [Table.exists_update?]
  refine forall₂_congr fun row _ => ?_
  unfold rebuiltBinding
  by_cases hc : (row.wholesalerId = ws && !row.isDeleted && b.occupies row.retailerId) = true
  · rw [if_pos hc, Option.isSome_map]
    simp only [Bool.and_eq_true, Bool.not_eq_true', decide_eq_true_eq] at hc
    rw [Option.isSome_iff_exists]
    constructor
    · rintro ⟨m, hm⟩ - -
      rw [← Numeric.store_scaled.mp hm]
      exact m.bound
    · intro h
      exact ⟨_, Numeric.store_scaled_of_lt (h hc.1.2 hc.1.1)⟩
  · rw [if_neg hc]
    simp only [Option.isSome_some, true_iff]
    intro hlive hw
    have hnot : b.occupies row.retailerId = false := by simpa [hlive, hw] using hc
    rw [fourWayTotal_of_not_occupies hnot]
    decide

/-- After both updates every live binding of the wholesaler shows its retailer's total. -/
theorem rebuildBindingCache_balance {b' : Books}
    (hcache : ∀ row ∈ b.bindings, row.isDeleted = false → row.wholesalerId = ws →
      row.outstandingBalance.unscaled = b.exposureTotal (fun _ => true) row.retailerId)
    (h : b.rebuildBindingCache ws = .ok b') :
    ∀ row ∈ b'.bindings, row.isDeleted = false → row.wholesalerId = ws →
      row.outstandingBalance.unscaled = b.fourWayTotal row.retailerId := by
  unfold rebuildBindingCache at h
  simp only [bind_eq_ok, orRefuse_eq_ok, pure_eq_ok] at h
  obtain ⟨bindings, hupdate, rfl⟩ := h
  intro row hrow
  have hrow' : row ∈ bindings.updateWhere (b.phantom ws)
      (fun row => { row with outstandingBalance := .zero }) fun _ => rfl := hrow
  obtain ⟨mid, hmid, rfl⟩ := Table.mem_updateWhere.mp hrow'
  obtain ⟨old, hold, hmid⟩ := (Table.mem_update? hupdate).mp hmid
  by_cases hphantom : b.phantom ws mid = true
  · -- no live order, so nothing is occupied
    rw [if_pos hphantom]
    intro _ _
    simp only [phantom, Bool.and_eq_true, Bool.not_eq_true', decide_eq_true_eq] at hphantom
    show 0 = b.fourWayTotal mid.retailerId
    rw [fourWayTotal_of_not_occupies (occupies_of_phantom hphantom.2)]
  · rw [if_neg hphantom]
    intro hlive hw
    unfold rebuiltBinding at hmid
    split at hmid
    · obtain ⟨m, hm, rfl⟩ := Option.map_eq_some_iff.mp hmid
      exact Numeric.store_scaled.mp hm
    · next hc =>
      -- untouched: the preflight saw nothing but exposure, and there is none
      obtain rfl := Option.some.inj hmid
      have hnot : b.occupies old.retailerId = false := by simpa [hlive, hw] using hc
      have hzero := fourWayTotal_of_not_occupies hnot
      rw [hcache old hold hlive hw, hzero]
      exact exposureTotal_of_not_occupies hnot

end Rebuild

/-! ## The landing -/

/-- What the migration owes the runtime: one hold for each order that needs one and no other, all
within the checks of their table; on every live binding of the wholesaler the active holds and the
exposure of its pair; on every live order the shape of its status; and no command, now or after a
run in whole cents, that finds a hold broken. -/
structure Landed (b : Books) (ws : Uuid) (b' : Books) : Prop where
  ids : b'.creditHolds.rows.map CreditHold.orderId = (b.orders.select needsHold).map Order.id
  checked : ∀ h ∈ b'.creditHolds, checkHold h = .ok ()
  balance : ∀ row ∈ b'.bindings, row.isDeleted = false → row.wholesalerId = ws →
    0 ≤ row.outstandingBalance.unscaled ∧
      row.outstandingBalance.unscaled = b'.heldTotal ws row.retailerId +
        b'.creditTotal ws row.retailerId
  shape : ∀ o ∈ b'.orders, o.isDeleted = false → LifecycleShape b' o
  contract : ∀ db : Db, db.books = b' → ∀ cs : List Command, (∀ c ∈ cs, c.WholeCent) →
    ∀ c e, execute (run execute db cs) c = .error e → e.code? ≠ some .creditHoldMismatch

section Landing
variable {holds : Table CreditHold}

/-- After the backfill every live order has a sound account. -/
theorem Accepted.account_sound (h : b.Accepted ws) (hb : b.Backfilled holds) (ho : o ∈ b.orders)
    (hlive : o.isDeleted = false) :
    (({ b with creditHolds := holds } : Books).account o).Sound := by
  have hlegal : ({ b with creditHolds := holds } : Books).Legal o :=
    legal_of_gates (b := { b with creditHolds := holds }) h.legal h.unsplit o
  have hshape : (({ b with creditHolds := holds } : Books).account o).Shape := by
    rcases shape_of_gates hlegal (h.matrix o ho hlive) (hb.holdOffends ho hlive) with
      hshape | ⟨hst, hhold, -⟩
    · exact hshape
    · -- the backfill gives a voided order no hold
      have hnone : holds.find? o.id = none := by
        refine hb.find_eq_none fun o' ho' hid => ?_
        obtain rfl : o' = o := Table.eq_of_key_eq ho' ho hid
        simp [needsHold, hst, holdBearingStatuses, terminalPaidStatuses]
      have hfind : (holds.find? o.id).map holdCents = some _ := hhold
      rw [hnone] at hfind
      simp at hfind
  refine ⟨hshape, hlegal.tenders_pos, hlegal.credits_pos, fun hhold => ?_⟩
  rw [account_total]
  by_cases hneeds : needsHold o = true
  · exact (h.remaining_bounds ho hneeds).1
  · refine absurd ?_ hhold
    have hnone : holds.find? o.id = none := by
      refine hb.find_eq_none fun o' ho' hid => ?_
      obtain rfl : o' = o := Table.eq_of_key_eq ho' ho hid
      simpa using hneeds
    show (holds.find? o.id).map holdCents = none
    rw [hnone, Option.map_none]

theorem Accepted.liveSound (h : b.Accepted ws) (hb : b.Backfilled holds) :
    ({ b with creditHolds := holds } : Books).LiveSound where
  accounts o ho hlive := h.account_sound hb ho hlive
  absent_hold id hid := hb.find_eq_none fun o ho hoid => absurd hoid (Table.find?_eq_none.mp hid o ho)
  absent_amounts id hid methods := by
    show (b.orderPayments id methods).map _ = []
    rw [List.map_eq_nil_iff, List.eq_nil_iff_forall_not_mem]
    intro p hp
    obtain ⟨hmem, hpid, hlive, -⟩ := mem_orderPayments.mp hp
    obtain ⟨-, o, ho, hoid, -⟩ := illegalPayment_eq_false.mp (h.legal p hmem) hlive
    exact Table.find?_eq_none.mp hid o ho (hoid.trans hpid)

/-- The verification finds nothing. -/
theorem Backfilled.verifyTenant {u : Table Binding} (hb : b.Backfilled holds)
    (hbalance : ∀ row ∈ u, row.isDeleted = false → row.wholesalerId = ws →
      row.outstandingBalance.unscaled = b.landedTotal row.retailerId)
    (hnn : ∀ r, 0 ≤ b.landedTotal r) :
    ({ b with creditHolds := holds, bindings := u } : Books).verifyTenant ws = .ok () := by
  have hdiffs : ({ b with creditHolds := holds, bindings := u } : Books).cacheDiffs ws
      ({ b with creditHolds := holds, bindings := u } : Books).fourWayTotal = .ok 0 :=
    cacheDiffs_eq_zero.mpr fun row hrow hlive hw =>
      (hbalance row hrow hlive hw).trans hb.fourWayTotal.symm
  unfold Books.verifyTenant
  simp only [bind_eq_ok, exists_const, refuseCount_eq_ok, List.length_eq_zero_iff,
    Nat.add_eq_zero_iff, Table.select_eq_nil]
  refine ⟨⟨fun o ho => ?_, fun x hx => ?_⟩, 0, hdiffs, rfl, ?_⟩
  · by_cases hneeds : needsHold o = true
    · obtain ⟨x, hfind, hsyn⟩ := hb.find ho hneeds
      have hdiffers : b.holdDiffersFrom o x = false := by
        simp [holdDiffersFrom, hsyn.amount, hsyn.status, hsyn.remaining]
      show (needsHold o && (holds.find? o.id).all (b.holdDiffersFrom o)) = false
      rw [hfind, Option.all_some, hdiffers, Bool.and_false]
    · have hno : needsHold o = false := by simpa using hneeds
      rw [holdDiffers, hno, Bool.false_and]
  · obtain ⟨o, ho, hneeds, hsyn⟩ := hb.synthesised x hx
    have hfind : b.orders.find? o.id = some o := Table.find?_key ho
    show (!(b.orders.find? x.orderId).any needsHold) = false
    rw [hsyn.orderId, hfind, Option.any_some, hneeds, Bool.not_true]
  · rw [ownBindings, List.filter_eq_nil_iff]
    intro row hrow
    simp only [Table.mem_select, Bool.and_eq_true, Bool.not_eq_true', decide_eq_true_eq] at hrow
    rw [decide_eq_true_eq, not_lt, hbalance row hrow.1 hrow.2.1 hrow.2.2]
    exact hnn row.retailerId

/-- What the preflight accepts and the columns can hold lands. -/
theorem Accepted.migrateTenant {registry : Registry} {schema : String} (h : b.Accepted ws)
    (hpre : b.preflightTenant registry schema = .ok ws) (hfits : b.Fits ws) :
    ∃ b', b.migrateTenant registry schema = .ok b' ∧ b.Landed ws b' := by
  obtain ⟨holds, hbackfill, hb⟩ := h.backfillHolds
  obtain ⟨u, hu⟩ := (@exists_update_iff { b with creditHolds := holds } ws).mpr
    fun row hrow hlive hw => by
      have hlt := hfits row hrow hlive hw
      have hnn := h.landed_nonneg (r := row.retailerId)
      rw [hb.fourWayTotal]
      omega
  obtain ⟨b', hrebuild⟩ : ∃ b', ({ b with creditHolds := holds } : Books).rebuildBindingCache ws =
      .ok b' := by
    unfold Books.rebuildBindingCache
    rw [hu]
    exact ⟨_, rfl⟩
  have hbalance := rebuildBindingCache_balance (b := { b with creditHolds := holds })
    (fun row hrow hlive hw => (h.cache row hrow hlive hw).trans h.exposureTotal) hrebuild
  obtain ⟨v, rfl⟩ : ∃ v, b' = { b with creditHolds := holds, bindings := v } := by
    unfold Books.rebuildBindingCache at hrebuild
    simp only [bind_eq_ok, pure_eq_ok] at hrebuild
    obtain ⟨_, -, rfl⟩ := hrebuild
    exact ⟨_, rfl⟩
  have hlanded : ∀ row ∈ v, row.isDeleted = false → row.wholesalerId = ws →
      row.outstandingBalance.unscaled = b.landedTotal row.retailerId :=
    fun row hrow hlive hw => (hbalance row hrow hlive hw).trans hb.fourWayTotal
  have hverify := hb.verifyTenant hlanded fun _ => h.landed_nonneg
  have hsound := h.liveSound hb
  refine ⟨{ b with creditHolds := holds, bindings := v }, ?_,
    { ids := hb.ids, checked := hb.checked, balance := fun row hrow hlive hw => ⟨?_, ?_⟩
      shape := fun o ho hlive => (h.account_sound hb ho hlive).shape.lifecycleShape
      contract := ?_ }⟩
  · unfold Books.migrateTenant
    simp only [bind_eq_ok, mapError_eq_ok]
    exact ⟨ws, hpre, _, hbackfill, _, hrebuild, (), hverify, rfl⟩
  · rw [hlanded row hrow hlive hw]
    exact h.landed_nonneg
  · have hlegal : ∀ o ∈ b.orders, o.isDeleted = false →
        ({ b with creditHolds := holds } : Books).Legal o :=
      fun o _ _ => legal_of_gates (b := { b with creditHolds := holds }) h.legal h.unsplit o
    rw [hbalance row hrow hlive hw, fourWayTotal,
      holdTotal_eq (b := { b with creditHolds := holds }) h.own,
      exposureTotal_eq (b := { b with creditHolds := holds }) h.own hlegal]
    rfl
  · intro db hdb cs hcs c e he
    have hsound' : db.books.LiveSound := by
      rw [hdb]
      exact ⟨hsound.accounts, hsound.absent_hold, hsound.absent_amounts⟩
    exact run_keepsContract hsound' hcs e he

/-- What lands fits its columns. -/
theorem Accepted.fits {registry : Registry} {schema : String} {b' : Books} (h : b.Accepted ws)
    (hpre : b.preflightTenant registry schema = .ok ws)
    (hmigrate : b.migrateTenant registry schema = .ok b') : b.Fits ws := by
  obtain ⟨holds, hbackfill, hb⟩ := h.backfillHolds
  unfold Books.migrateTenant at hmigrate
  simp only [bind_eq_ok, mapError_eq_ok] at hmigrate
  obtain ⟨ws', hpre', b₁, hbackfill', b₂, hrebuild, -⟩ := hmigrate
  obtain rfl : ws' = ws := Except.ok.inj (hpre'.symm.trans hpre)
  obtain rfl : b₁ = { b with creditHolds := holds } :=
    Except.ok.inj (hbackfill'.symm.trans hbackfill)
  unfold Books.rebuildBindingCache at hrebuild
  simp only [bind_eq_ok, orRefuse_eq_ok] at hrebuild
  obtain ⟨u, hu, -⟩ := hrebuild
  intro row hrow hlive hw
  have hlt := (exists_update_iff (b := { b with creditHolds := holds })).mp ⟨u, hu⟩ row hrow hlive hw
  rw [hb.fourWayTotal] at hlt
  omega

end Landing

end Books

/-- **Migration 039 lands what its preflight accepts**, exactly when every rebuilt balance fits
its column; the holds are synthesised in any case. -/
theorem migrateTenant_lands_iff {b : Books} {registry : Registry} {schema : String} {ws : Uuid}
    (hpre : b.preflightTenant registry schema = .ok ws) :
    (∃ holds, b.createHoldTable.backfillHolds = .ok { b with creditHolds := holds } ∧
      holds.rows.map CreditHold.orderId = (b.orders.select Books.needsHold).map Order.id ∧
      ∀ h ∈ holds, Books.checkHold h = .ok ()) ∧
    ((∃ b', b.migrateTenant registry schema = .ok b' ∧ b.Landed ws b') ↔ b.Fits ws) := by
  obtain ⟨-, h⟩ := Books.preflightTenant_eq_ok.mp hpre
  obtain ⟨holds, hbackfill, hb⟩ := h.backfillHolds
  refine ⟨⟨holds, hbackfill, hb.ids, hb.checked⟩, ?_, h.migrateTenant hpre⟩
  rintro ⟨b', hmigrate, -⟩
  exact h.fits hpre hmigrate

/-- A tenant before the migration, with a partly paid order and a fulfilled credit sale of which a
part is collected; its cache shows the exposure only. -/
def legacyBooks : Books :=
  { (run execute (sampleTenant 10000) lifecycleRun).books with
    creditHolds := .empty, bindings := .ofRows [⟨1, 2, .active, .ofCents 300, false⟩] }

theorem migrateTenant_lands_legacyBooks :
    ∃ b', legacyBooks.migrateTenant sampleRegistry (canonicalSchema 1) = .ok b' ∧
      legacyBooks.Landed 1 b' := by
  have hpre : legacyBooks.preflightTenant sampleRegistry (canonicalSchema 1) = .ok 1 := by
    decide +kernel
  exact (migrateTenant_lands_iff hpre).2.mpr (by decide +kernel)

/-- A tenant before the migration with two confirmed orders of 9,999,999,999.99. -/
def largeBooks : Books where
  orders := .ofRows [⟨50, 1, 2, .confirmed, .ofCents 999999999999, [], false⟩,
    ⟨51, 1, 2, .confirmed, .ofCents 999999999999, [], false⟩]
  creditHolds := .empty
  payments := .empty
  ledgerEntries := []
  bindings := .ofRows [⟨1, 2, .active, .zero, false⟩]
  receiptSequences := .empty

/-- The preflight accepts two orders that the rebuilt balance cannot hold. -/
theorem migrateTenant_overflows_largeBooks :
    (largeBooks.preflightTenant sampleRegistry (canonicalSchema 1) = .ok 1) ∧
      largeBooks.migrateTenant sampleRegistry (canonicalSchema 1) =
        .error (.database .numericFieldOverflow) := by
  decide +kernel

end Mpango
