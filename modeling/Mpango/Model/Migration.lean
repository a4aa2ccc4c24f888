import Mpango.Model.History
import Mpango.Model.OrderCommands

/-!
# Migration 039

The pass of migration 039 over one tenant: the preflight, which only reads; the new table of credit
holds with one row for every order that needs one; the rebuilt binding cache; and the verification.
The migration runs in one transaction, so a phase that fails leaves nothing of the earlier ones.
The inspection of the catalog and the switches of database roles are left out.
-/

namespace Mpango

open Decimal

/-- Why the migration stops, with the number of offenders. -/
inductive MigrationError
  | unregistered
  | foreignOrders (orders : ℕ)
  | invalidPayments (payments : ℕ)
  | duplicateCredit (orders : ℕ)
  | stateMatrix (orders : ℕ)
  | bindingGaps (retailers : ℕ)
  | cacheProof (bindings : ℕ)
  | rowCheck (rows : ℕ)
  | aggregateCheck (bindings : ℕ)
  | negativeCache (bindings : ℕ)
  | database (error : DatabaseError)
  deriving DecidableEq

/-- `if _count(...): raise PreflightFailure(...)`. -/
def refuseCount (count : ℕ) (e : ℕ → MigrationError) : Except MigrationError Unit :=
  refuseIf (count ≠ 0) (e count)

namespace Books

/-- The live bindings of a wholesaler. -/
def ownBindings (b : Books) (ws : Uuid) : List Binding :=
  b.bindings.select fun row => !row.isDeleted && row.wholesalerId = ws

/-- The bindings of a wholesaler whose cache differs from a total, which is first cast to
`NUMERIC(12,2)`. -/
def cacheDiffs (b : Books) (ws : Uuid) (total : Uuid → ℤ) : Except MigrationError ℕ := do
  refuseIf ((b.ownBindings ws).any fun row => 10 ^ 12 ≤ (total row.retailerId).natAbs)
    (.database .numericFieldOverflow)
  return ((b.ownBindings ws).filter fun row =>
    row.outstandingBalance.unscaled ≠ total row.retailerId).length

/-! ## Phase P -/

/-- The scope of a wholesaler. -/
def foreignTo (ws : Uuid) (o : Order) : Bool := o.wholesalerId ≠ ws

/-- `_preflight_tenant`: the wholesaler whose history can be explained. -/
def preflightTenant (b : Books) (registry : Registry) (schema : String) :
    Except MigrationError Uuid := do
  let ws ← orRefuse (registry.wholesalerFor schema (fun _ => true) fun _ => true) .unregistered
  refuseCount (b.orders.select fun o => !o.isDeleted && foreignTo ws o).length .foreignOrders
  refuseCount (b.payments.select (b.illegalPayment (foreignTo ws))).length .invalidPayments
  refuseCount ((b.payments.select b.splitsCredit).map Payment.orderId).dedup.length
    .duplicateCredit
  refuseCount (b.orders.select fun o => !o.isDeleted && !foreignTo ws o &&
    matrixOffends o.status o.totalAmount.unscaled (b.cashTotal o.id) (b.creditSold o.id)
      (b.countOrderPayments o.id .credit ≠ 1)).length .stateMatrix
  refuseCount ((b.orders.select (b.lacksBinding ws)).map Order.retailerId).dedup.length
    .bindingGaps
  let diffs ← b.cacheDiffs ws (b.exposureTotal fun o => !foreignTo ws o)
  refuseCount diffs .cacheProof
  return ws

/-! ## Phases D and B -/

/-- `_create_hold_table`. -/
def createHoldTable (b : Books) : Books := { b with creditHolds := .empty }

/-- The orders that get a hold. -/
def needsHold (o : Order) : Bool :=
  !o.isDeleted && (holdBearingStatuses ++ terminalPaidStatuses).contains o.status

/-- The row selected for an order. -/
def backfillRow (b : Books) (o : Order) : Except DatabaseError CreditHold := do
  let remainingAmount ← storeMoney <| scaled 2 <|
    if holdBearingStatuses.contains o.status then o.totalAmount.unscaled - b.cashTotal o.id else 0
  return { orderId := o.id, amount := o.totalAmount, remainingAmount
           status := wantStatus o.status (b.creditSold o.id) }

/-- `_backfill_holds`. -/
def backfillHolds (b : Books) : Except DatabaseError Books := do
  let rows ← (b.orders.select needsHold).mapM b.backfillRow
  rows.foldlM insertHold b

/-! ## Phase R -/

/-- A retailer with an active hold or a credit sale on a live order. -/
def occupies (b : Books) (retailerId : Uuid) : Bool :=
  (b.creditHolds.rows.any fun h => h.status = .active && (b.orders.find? h.orderId).any fun o =>
    !o.isDeleted && o.retailerId = retailerId) ||
  b.orders.rows.any fun o => !o.isDeleted && 0 < b.creditSold o.id && o.retailerId = retailerId

/-- A binding after the first update: the holds and the exposure of a retailer that has any. -/
def rebuiltBinding (b : Books) (ws : Uuid) (row : Binding) : Option Binding :=
  if row.wholesalerId = ws && !row.isDeleted && b.occupies row.retailerId then
    (Numeric.store 12 2 (scaled 2 (b.fourWayTotal row.retailerId))).map fun m =>
      { row with outstandingBalance := m }
  else some row

theorem key_rebuiltBinding {b : Books} {ws : Uuid} (row row' : Binding)
    (h : b.rebuiltBinding ws row = some row') : key row' = key row := by
  unfold rebuiltBinding at h
  split at h
  · obtain ⟨m, -, rfl⟩ := Option.map_eq_some_iff.mp h
    rfl
  · rw [Option.some.inj h]

/-- A binding without live orders, which the second update sets to zero. -/
def phantom (b : Books) (ws : Uuid) (row : Binding) : Bool :=
  row.wholesalerId = ws && !row.isDeleted &&
    !b.orders.rows.any fun o => o.retailerId = row.retailerId && !o.isDeleted

/-- `_rebuild_binding_cache`. -/
def rebuildBindingCache (b : Books) (ws : Uuid) : Except DatabaseError Books := do
  let bindings ← orRefuse (b.bindings.update? (b.rebuiltBinding ws) key_rebuiltBinding)
    .numericFieldOverflow
  return { b with
    bindings := bindings.updateWhere (b.phantom ws)
      (fun row => { row with outstandingBalance := .zero }) fun _ => rfl }

/-! ## Phase V -/

/-- A hold other than the history and the status of an order call for. -/
def holdDiffersFrom (b : Books) (o : Order) (h : CreditHold) : Bool :=
  h.amount ≠ o.totalAmount ||
  h.remainingAmount.unscaled ≠ wantRemaining o.status o.totalAmount.unscaled (b.cashTotal o.id)
    (b.creditSold o.id) ||
  h.status ≠ wantStatus o.status (b.creditSold o.id)

/-- An order that needs a hold and has none, or another one. -/
def holdDiffers (b : Books) (o : Order) : Bool :=
  needsHold o && (b.creditHolds.find? o.id).all (b.holdDiffersFrom o)

/-- A hold without an order that needs it. -/
def unneeded (b : Books) (h : CreditHold) : Bool := !(b.orders.find? h.orderId).any needsHold

/-- `_verify_tenant`. -/
def verifyTenant (b : Books) (ws : Uuid) : Except MigrationError Unit := do
  refuseCount ((b.orders.select b.holdDiffers).length + (b.creditHolds.select b.unneeded).length)
    .rowCheck
  let diffs ← b.cacheDiffs ws b.fourWayTotal
  refuseCount diffs .aggregateCheck
  refuseCount ((b.ownBindings ws).filter fun row => row.outstandingBalance.unscaled < 0).length
    .negativeCache

/-! ## The pass -/

/-- The phases of `upgrade` for one tenant. -/
def migrateTenant (b : Books) (registry : Registry) (schema : String) :
    Except MigrationError Books := do
  let ws ← b.preflightTenant registry schema
  let b ← b.createHoldTable.backfillHolds.mapError .database
  let b ← (b.rebuildBindingCache ws).mapError .database
  b.verifyTenant ws
  return b

end Books

end Mpango
