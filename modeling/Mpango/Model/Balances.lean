import Mpango.Model.Tables

/-!
# The ledger and the balance cache

Two accounts of what a retailer owes. `LedgerService` appends balanced groups of immutable
entries; nothing reads them back on the write path. The binding's `outstanding_balance` is a
cache that conditional `UPDATE` statements move, and the condition is part of the statement: an
update that would take the cache below zero, or finds no live binding, changes no row, and the
caller decides what to answer.
-/

namespace Mpango

open Decimal

namespace Books

/-! ## The ledger -/

/-- `post_entry`. -/
def postEntry (b : Books) (accountType : AccountType) (amount : Decimal)
    (referenceType : LedgerReference) (referenceId : Uuid) : Except DatabaseError Books := do
  let stored ← storeLedgerAmount amount
  return { b with
    ledgerEntries := b.ledgerEntries ++ [⟨accountType, stored, referenceType, referenceId⟩] }

/-- `post_transaction`: the amounts must cancel, then every entry is posted. -/
def postTransaction (b : Books) (entries : List (AccountType × Decimal))
    (referenceType : LedgerReference) (referenceId : Uuid) : Except CommandError Books := do
  let total := entries.foldl (fun acc e => Decimal.add acc e.2) 0
  refuseIf (total ≠ 0) (.ledgerIntegrity
    (s!"Transaction is not balanced: total={total.text}. " ++
      "Debits must equal credits (net should be 0). " ++
      "Philosophy: 'The Ledger is write-only. No exceptions.'"))
  entries.foldlM (fun b e => dbError (b.postEntry e.1 e.2 referenceType referenceId)) b

/-- `post_payment_received`: debit cash, credit receivable. -/
def postPaymentReceived (b : Books) (orderId : Uuid) (amount : Decimal) :
    Except CommandError Books :=
  b.postTransaction [(.cash, amount), (.receivable, Decimal.neg amount)] .order orderId

/-- `post_order_return`: debit revenue, credit cash. -/
def postOrderReturn (b : Books) (orderId : Uuid) (amount : Decimal) : Except CommandError Books :=
  b.postTransaction [(.revenue, amount), (.cash, Decimal.neg amount)] .refund orderId

/-- A posted group of two entries appends exactly these two. -/
theorem postTransaction_pair {b b' : Books} {x y : AccountType × Decimal} {t : LedgerReference}
    {id : Uuid} (h : b.postTransaction [x, y] t id = .ok b') :
    ∃ m n, storeLedgerAmount x.2 = .ok m ∧ storeLedgerAmount y.2 = .ok n ∧
      b' = { b with ledgerEntries := b.ledgerEntries ++ [⟨x.1, m, t, id⟩, ⟨y.1, n, t, id⟩] } := by
  unfold postTransaction postEntry at h
  simp only [bind_eq_ok, List.foldlM_cons, List.foldlM_nil, dbError_eq_ok, pure_eq_ok] at h
  obtain ⟨-, -, b₁, ⟨m, hm, rfl⟩, b₂, ⟨n, hn, rfl⟩, rfl⟩ := h
  exact ⟨m, n, hm, hn, by simp⟩

/-- Posting a stored amount never fails: the group balances and the ledger column is wide enough
for it. -/
theorem postTransaction_money (b : Books) (s t : AccountType) (amount : Money)
    (r : LedgerReference) (id : Uuid) : ∃ m n : LedgerAmount,
      m.unscaled = amount.unscaled * 100 ∧ n.unscaled = -amount.unscaled * 100 ∧
      b.postTransaction [(s, amount.toDecimal), (t, Decimal.neg amount.toDecimal)] r id = .ok
        { b with ledgerEntries := b.ledgerEntries ++ [⟨s, m, r, id⟩, ⟨t, n, r, id⟩] } := by
  have hb := amount.bound
  have hneg : Decimal.neg amount.toDecimal = scaled 2 (-amount.unscaled) :=
    neg_scaled_eq (by unfold contextPrecision; omega)
  have hadd : Decimal.add 0 (scaled 2 amount.unscaled) = scaled 2 amount.unscaled := by
    have := add_scaled (s := 2) (a := 0) (b := amount.unscaled)
      (by unfold contextPrecision; omega)
    rwa [scaled_zero, zero_add] at this
  have hzero : Decimal.add (scaled 2 amount.unscaled) (scaled 2 (-amount.unscaled)) = 0 := by
    rw [add_scaled (by simp [contextPrecision]), add_neg_cancel, scaled_zero]
  have hstore : ∀ z : ℤ, z.natAbs < 10 ^ 12 → ∃ m : LedgerAmount, m.unscaled = z * 100 ∧
      storeLedgerAmount (scaled 2 z) = .ok m := by
    intro z hz
    have hz' : (z * 100).natAbs < 10 ^ 20 := by omega
    exact ⟨⟨z * 100, hz'⟩, rfl, storeLedgerAmount_scaled.mpr rfl⟩
  obtain ⟨m, hm, hms⟩ := hstore amount.unscaled hb
  obtain ⟨n, hn, hns⟩ := hstore (-amount.unscaled) (by omega)
  refine ⟨m, n, hm, hn, ?_⟩
  unfold postTransaction postEntry Numeric.toDecimal
  unfold Numeric.toDecimal at hneg
  simp only [List.foldl_cons, List.foldl_nil, hneg, hadd, hzero, List.foldlM_cons,
    List.foldlM_nil, hms, hns]
  rw [refuseIf_neg (by simp)]
  simp [dbError, Except.mapError, pure, Except.pure]

/-! ## The balance cache -/

/-- `UPDATE … SET outstanding_balance = outstanding_balance + delta` on the live binding of a
pair, on the condition that the new balance is not negative: the updated books, or `none` when no
row matches. -/
def updateOutstandingBalance (b : Books) (wholesalerId retailerId : Uuid) (delta : Decimal)
    (requireActive : Bool) : Except DatabaseError (Option Books) :=
  match b.bindings.find? (wholesalerId, retailerId) with
  | none => .ok none
  | some row =>
    if row.isDeleted = false ∧ (requireActive = true → row.status = .active) ∧
        0 ≤ row.outstandingBalance.toDecimal + delta then do
      let outstandingBalance ← storeMoney (row.outstandingBalance.toDecimal + delta)
      refuseIf (outstandingBalance.unscaled < 0)
        (.checkViolation .ckWrbOutstandingBalanceNonNegative)
      return some { b with bindings := b.bindings.set { row with outstandingBalance } }
    else .ok none

/-- The live binding of a pair. -/
def liveBinding? (b : Books) (wholesalerId retailerId : Uuid) : Option Binding :=
  (b.bindings.find? (wholesalerId, retailerId)).filter fun row => !row.isDeleted

/-- `PaymentService._apply_outstanding_balance_delta`. -/
def applyOutstandingBalanceDelta (b : Books) (wholesalerId retailerId : Uuid) (delta : Decimal) :
    Except CommandError Books := do
  match ← dbError (b.updateOutstandingBalance wholesalerId retailerId delta false) with
  | some b' => return b'
  | none =>
    if (b.liveBinding? wholesalerId retailerId).isSome then
      .error (.http 409 .receivableBalanceUnderflow
        "Payment would reduce outstanding balance below zero")
    else
      .error (.http 403 .retailerNotBound "Retailer not bound to wholesaler")

theorem liveBinding?_eq_some {b : Books} {w r : Uuid} {row : Binding} :
    b.liveBinding? w r = some row ↔
      b.bindings.find? (w, r) = some row ∧ row.isDeleted = false := by
  unfold liveBinding?
  rw [Option.filter_eq_some_iff]
  simp

section Update
variable {b b' : Books} {w r : Uuid} {delta : Decimal} {requireActive : Bool}

/-- A row was updated: the pair has a live binding whose balance moved to the rounded sum. -/
theorem updateOutstandingBalance_eq_some :
    b.updateOutstandingBalance w r delta requireActive = .ok (some b') ↔
      ∃ row m, b.liveBinding? w r = some row ∧ (requireActive = true → row.status = .active) ∧
        0 ≤ row.outstandingBalance.toDecimal + delta ∧
        storeMoney (row.outstandingBalance.toDecimal + delta) = .ok m ∧
        b' = { b with bindings := b.bindings.set { row with outstandingBalance := m } } := by
  unfold updateOutstandingBalance
  constructor
  · intro h
    split at h
    · simp at h
    · next row hrow =>
      split at h
      · next hc =>
        simp only [bind_eq_ok, pure_eq_ok, Option.some.injEq] at h
        obtain ⟨m, hm, -, -, rfl⟩ := h
        exact ⟨row, m, liveBinding?_eq_some.mpr ⟨hrow, hc.1⟩, hc.2.1, hc.2.2, hm, rfl⟩
      · simp at h
  · rintro ⟨row, m, hlive, hact, hnn, hm, rfl⟩
    obtain ⟨hrow, hdel⟩ := liveBinding?_eq_some.mp hlive
    have hcheck : ¬m.unscaled < 0 := by
      rw [storeMoney_eq_ok.mp hm, not_lt]
      exact roundHalfAway_nonneg (by positivity)
    simp only [hrow]
    rw [if_pos ⟨hdel, hact, hnn⟩, hm, ok_bind, refuseIf_neg hcheck]
    rfl

/-- No row was updated: there is no live binding, or a condition of the update fails. -/
theorem updateOutstandingBalance_eq_none :
    b.updateOutstandingBalance w r delta requireActive = .ok none ↔
      ∀ row, b.liveBinding? w r = some row → (requireActive = true → row.status = .active) →
        row.outstandingBalance.toDecimal + delta < 0 := by
  unfold updateOutstandingBalance
  constructor
  · intro h row hlive hact
    obtain ⟨hrow, hdel⟩ := liveBinding?_eq_some.mp hlive
    simp only [hrow] at h
    by_contra hnn
    rw [if_pos ⟨hdel, hact, not_lt.mp hnn⟩] at h
    simp only [bind_eq_ok, pure_eq_ok, reduceCtorEq, and_false, exists_false] at h
  · intro h
    split
    · rfl
    · next row hrow =>
      rw [if_neg]
      rintro ⟨hdel, hact, hnn⟩
      exact absurd (h row (liveBinding?_eq_some.mpr ⟨hrow, hdel⟩) hact) (not_lt.mpr hnn)

/-- The delta is applied exactly when the update finds its row. -/
theorem applyOutstandingBalanceDelta_eq_ok :
    b.applyOutstandingBalanceDelta w r delta = .ok b' ↔
      b.updateOutstandingBalance w r delta false = .ok (some b') := by
  unfold applyOutstandingBalanceDelta
  cases h : b.updateOutstandingBalance w r delta false with
  | error e => simp [dbError, Except.mapError]
  | ok o =>
    cases o with
    | some c => simp [dbError, Except.mapError]
    | none =>
      simp only [dbError, Except.mapError, ok_bind]
      split_ifs <;> simp

end Update

end Books

end Mpango
