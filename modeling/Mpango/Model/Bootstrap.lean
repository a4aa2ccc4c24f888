import Mpango.Model.History
import Mpango.Model.Declarations

/-!
# The reconciliation of a bootstrap

`_reconcile_credit_holds` of the tenant bootstrap, on a tenant that has its lifecycle table: the
gates on the per-order history and holds, the attribution to the registered wholesaler, and the
comparison of every binding's cached balance with the holds and the history. Nothing is written.
The comparison of the table's own columns, constraints and indexes is left out; where a query is
limited to one offender, the model takes the first.
-/

namespace Mpango

/-- Why a bootstrap stops. -/
inductive ReconcileError
  | illegalPayment (paymentId : Uuid)
  | duplicateCredit (orderId : Uuid)
  | stateMatrix (orderId : Uuid)
  | holdLifecycle (orderId : Uuid)
  | unattributable
  | nonCanonicalSchema (wholesalerId : Uuid)
  | foreignOrder (orderId wholesalerId : Uuid)
  | missingBinding (retailerId wholesalerId : Uuid)
  | cacheDrift (bindings : ℕ)
  | database (error : DatabaseError)
  deriving DecidableEq

/-- The schema of a wholesaler's tenant. -/
def canonicalSchema (wholesalerId : Uuid) : String := "t_" ++ wholesalerId.hex

namespace Books

/-- An order whose hold is not the one its history and status call for. -/
def holdOffends (b : Books) (o : Order) : Bool :=
  let hold := b.creditHolds.find? o.id
  let total := o.totalAmount.unscaled
  let want := wantStatus o.status (b.creditSold o.id)
  let remaining := wantRemaining o.status total (b.cashTotal o.id) (b.creditSold o.id)
  (holdBearingStatuses ++ terminalPaidStatuses).contains o.status &&
      hold.all (fun h => h.status ≠ want || h.remainingAmount.unscaled ≠ remaining ||
        h.amount ≠ o.totalAmount) ||
    o.status = .draft && hold.isSome ||
    [OrderState.cancelled, .voided].contains o.status &&
      hold.any fun h => !(h.status = .released && h.remainingAmount.unscaled = 0 &&
        h.amount = o.totalAmount)

/-- The gates on the history and the hold of each order. -/
def reconcileHistory (b : Books) : Except ReconcileError Unit := do
  refuseFirst (b.payments.rows.find? (b.illegalPayment fun _ => false))
    fun p => .illegalPayment p.id
  refuseFirst (b.payments.rows.find? b.splitsCredit) fun p => .duplicateCredit p.orderId
  refuseFirst (b.orders.rows.find? fun o => !o.isDeleted &&
    matrixOffends o.status o.totalAmount.unscaled (b.cashTotal o.id) (b.creditSold o.id) false)
    fun o => .stateMatrix o.id
  refuseFirst (b.orders.rows.find? fun o => !o.isDeleted && b.holdOffends o)
    fun o => .holdLifecycle o.id

/-- A schema that retains any history must be the registered wholesaler's own, in its orders and
in the bindings they need. -/
def reconcileAttribution (b : Books) (registry : Registry) (ts : String) :
    Except ReconcileError Unit :=
  if b.orders.rows.length + b.payments.rows.length = 0 then .ok ()
  else do
    let ws ← orRefuse (registry.wholesalerFor ts liveRegistrationStatuses.contains
      [WholesalerStatus.active, .provisioning].contains) .unattributable
    refuseIf (ts ≠ canonicalSchema ws) (.nonCanonicalSchema ws)
    refuseFirst (b.orders.rows.find? fun o => o.wholesalerId ≠ ws) fun o => .foreignOrder o.id ws
    refuseFirst (b.orders.rows.find? (b.lacksBinding ws)) fun o => .missingBinding o.retailerId ws

/-- The bindings that are compared: the live ones of a wholesaler with a live order. -/
def comparedBindings (b : Books) : List Binding :=
  b.bindings.select fun row => !row.isDeleted &&
    b.orders.rows.any fun o => !o.isDeleted && o.wholesalerId = row.wholesalerId

/-- The four-way identity: no cached balance differs from the holds and the history. -/
def reconcileCache (b : Books) : Except ReconcileError Unit := do
  refuseIf (b.comparedBindings.any fun row => 10 ^ 12 ≤ (b.fourWayTotal row.retailerId).natAbs)
    (.database .numericFieldOverflow)
  let drift := (b.comparedBindings.filter fun row =>
    row.outstandingBalance.unscaled ≠ b.fourWayTotal row.retailerId).length
  refuseIf (drift ≠ 0) (.cacheDrift drift)

/-- `_reconcile_credit_holds`. -/
def reconcileCreditHolds (b : Books) (registry : Registry) (ts : String) :
    Except ReconcileError Unit := do
  b.reconcileHistory
  b.reconcileAttribution registry ts
  b.reconcileCache

end Books

end Mpango
