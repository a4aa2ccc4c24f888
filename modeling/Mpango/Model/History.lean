import Mpango.Model.Payments

/-!
# The history of an order, as the database reads it

Migration 039 and the tenant bootstrap check the same things in SQL: which payments count, which
totals an order's status allows, which hold it should have, and what a retailer's balance should
show. The parts they share are here. A payment that is not soft-deleted is effective; totals are
in cents, as sums of `NUMERIC(12,2)` are exact. Columns that a row's type already restricts (the
methods and statuses, finite amounts) are not checked again.
-/

namespace Mpango

/-! ## Registrations -/

/-- `status` of a tenant registration. -/
inductive RegistrationStatus
  | pendingEmailVerification | emailVerified | provisioning | active | failed | cancelled | expired
  deriving DecidableEq, Repr

/-- `LIVE_REGISTRATION_STATUSES`. -/
def liveRegistrationStatuses : List RegistrationStatus :=
  [.pendingEmailVerification, .emailVerified, .provisioning, .active, .failed]

/-- `status` of a wholesaler. -/
inductive WholesalerStatus | active | suspended | provisioning | deactivated
  deriving DecidableEq, Repr

/-- A row of `public.tenant_registrations`. -/
structure TenantRegistration where
  tenantSchema : Option String
  wholesalerId : Option Uuid
  status : RegistrationStatus
  isDeleted : Bool
  deriving DecidableEq

/-- A row of `public.wholesalers`. -/
structure Wholesaler where
  id : Uuid
  status : WholesalerStatus
  isDeleted : Bool
  deriving DecidableEq

instance : Keyed Wholesaler Uuid := ⟨Wholesaler.id⟩

/-- The registry of the public schema. -/
structure Registry where
  registrations : List TenantRegistration
  wholesalers : Table Wholesaler
  deriving DecidableEq

/-- The wholesaler a schema is registered to, among the registrations and wholesalers of certain
statuses. -/
def Registry.wholesalerFor (registry : Registry) (schema : String)
    (registration : RegistrationStatus → Bool) (wholesaler : WholesalerStatus → Bool) :
    Option Uuid :=
  registry.registrations.findSome? fun tr =>
    if tr.tenantSchema = some schema && !tr.isDeleted && registration tr.status then
      ((tr.wholesalerId.bind registry.wholesalers.find?).filter fun w =>
        !w.isDeleted && wholesaler w.status).map Wholesaler.id
    else none

/-! ## Effective payments -/

namespace Books

/-- `cash_total` of an order's effective payments. -/
def cashTotal (b : Books) (orderId : Uuid) : ℤ := b.methodCents orderId [.cash, .transfer]

/-- `credit_total` of an order's effective payments. -/
def creditSold (b : Books) (orderId : Uuid) : ℤ := b.methodCents orderId [.credit]

/-- An effective payment that no legal history holds: of no positive amount, or without a live
order of its retailer that a wholesaler may have. -/
def illegalPayment (b : Books) (foreign : Order → Bool) (p : Payment) : Bool :=
  !p.isDeleted && (p.amount.unscaled ≤ 0 || (b.orders.find? p.orderId).all fun o =>
    o.isDeleted || foreign o || p.retailerId ≠ o.retailerId)

/-- An effective payment on an order with more than one effective credit payment. -/
def splitsCredit (b : Books) (p : Payment) : Bool :=
  !p.isDeleted && 1 < b.countOrderPayments p.orderId .credit

end Books

/-! ## The state matrix -/

/-- `HOLD_BEARING_STATUSES`. -/
def holdBearingStatuses : List OrderState := [.confirmed, .partiallyPaid]

/-- `TERMINAL_PAID_STATUSES`. -/
def terminalPaidStatuses : List OrderState := [.paid, .fulfilled, .returned]

/-- `NO_HOLD_STATUSES`. -/
def noHoldStatuses : List OrderState := [.draft, .cancelled, .voided]

/-- An order whose totals its status does not allow. The migration asks once more that the credit
of a paid order is one row. -/
def matrixOffends (status : OrderState) (total cashTotal creditTotal : ℤ) (splitCredit : Bool) :
    Bool :=
  (holdBearingStatuses ++ terminalPaidStatuses).contains status && total ≤ 0 ||
  status = .confirmed && (cashTotal ≠ 0 || creditTotal ≠ 0) ||
  status = .partiallyPaid && (creditTotal ≠ 0 || cashTotal ≤ 0 || total ≤ cashTotal) ||
  terminalPaidStatuses.contains status && 0 < creditTotal &&
    (splitCredit || creditTotal ≠ total || cashTotal < 0 || creditTotal < cashTotal) ||
  terminalPaidStatuses.contains status && creditTotal = 0 && cashTotal ≠ total ||
  noHoldStatuses.contains status && (cashTotal ≠ 0 || creditTotal ≠ 0)

/-- The status of the hold an order should have. -/
def wantStatus (status : OrderState) (creditTotal : ℤ) : HoldStatus :=
  if 0 < creditTotal then .converted
  else if holdBearingStatuses.contains status then .active
  else .settled

/-- The remaining amount of the hold an order should have. -/
def wantRemaining (status : OrderState) (total cashTotal creditTotal : ℤ) : ℤ :=
  if holdBearingStatuses.contains status && creditTotal = 0 then total - cashTotal else 0

/-! ## Balances -/

namespace Books

/-- `hold_total`: what the active holds on a retailer's live orders still reserve. -/
def holdTotal (b : Books) (retailerId : Uuid) : ℤ :=
  b.creditHolds.total fun h => (b.orders.find? h.orderId).elim 0 fun o =>
    if !o.isDeleted && h.status = .active && o.retailerId = retailerId then
      h.remainingAmount.unscaled
    else 0

/-- `exposure_total`: what is left to collect on a retailer's live credit sales. -/
def exposureTotal (b : Books) (scope : Order → Bool) (retailerId : Uuid) : ℤ :=
  b.orders.total fun o =>
    if !o.isDeleted && scope o && 0 < b.creditSold o.id && o.retailerId = retailerId then
      b.creditSold o.id - b.cashTotal o.id
    else 0

/-- What a retailer's balance should show, in cents. -/
def fourWayTotal (b : Books) (retailerId : Uuid) : ℤ :=
  b.holdTotal retailerId + b.exposureTotal (fun _ => true) retailerId

/-- A live order of a wholesaler that occupies, or has occupied, its retailer's balance, without a
live binding of the pair. -/
def lacksBinding (b : Books) (ws : Uuid) (o : Order) : Bool :=
  !o.isDeleted && o.wholesalerId = ws &&
    (holdBearingStatuses.contains o.status || 0 < b.creditSold o.id) &&
    (b.bindings.find? (ws, o.retailerId)).all fun row => row.isDeleted

end Books

end Mpango
