import Mpango.Model.Payments

/-!
# The receivables summary

`ReceivablesService.get_receivables_summary`: per retailer the cached balance, the credit still to
collect, recomputed from the payments of certain orders, and the open balance, recomputed from the
active holds. Nothing is written. The amounts are those the service computes; it hands them out as
floats. Retailer names, and the order in which equal balances are listed, are left out.
-/

namespace Mpango

open Decimal

/-- An entry of `by_retailer`. -/
structure RetailerReceivables where
  retailerId : Uuid
  outstandingBalance : Decimal
  creditReceivables : Decimal
  unpaidOrderBalance : Decimal
  orderCount : ℕ
  deriving DecidableEq

/-- The summary. -/
structure ReceivablesSummary where
  totalOutstanding : Decimal
  retailerCount : ℕ
  orderCount : ℕ
  creditReceivables : Decimal
  unpaidOrderBalance : Decimal
  byRetailer : List RetailerReceivables
  deriving DecidableEq

/-- The summary of the entries; an entry is dropped only when nothing is occupied anywhere. -/
def ReceivablesSummary.ofRows (rows : List RetailerReceivables) : ReceivablesSummary :=
  let shown := rows.filter fun x =>
    !(x.outstandingBalance = 0 && x.unpaidOrderBalance = 0 && x.creditReceivables = 0)
  { totalOutstanding := (shown.map RetailerReceivables.outstandingBalance).foldl Decimal.add 0
    retailerCount := shown.length
    orderCount := (shown.map RetailerReceivables.orderCount).sum
    creditReceivables := (shown.map RetailerReceivables.creditReceivables).foldl Decimal.add 0
    unpaidOrderBalance := (shown.map RetailerReceivables.unpaidOrderBalance).foldl Decimal.add 0
    byRetailer := shown }

/-- `_credit_exposure`. -/
def creditExposure (creditAmount collectionAmount : Decimal) : Decimal :=
  Decimal.sub creditAmount collectionAmount

/-- `_assert_history_integrity`. -/
def assertHistoryIntegrity (creditAmount collectionAmount : Decimal) :
    Except CommandError Unit := do
  refuseIf (0 < creditAmount ∧ creditAmount < collectionAmount)
    (.conflict .paymentHistoryIntegrity (s!"Over-collected credit history: credit " ++
      s!"{creditAmount.text} vs collections {collectionAmount.text}"))
  refuseIf (creditAmount < 0 ∨ collectionAmount < 0)
    (.conflict .paymentHistoryIntegrity "Negative payment history totals")

/-- The statuses whose orders the summary reads. -/
def receivableStatuses : List OrderState := [.confirmed, .partiallyPaid, .paid]

namespace Books

/-- The live bindings of a wholesaler, the largest balance first. -/
def receivableBindings (b : Books) (wholesalerId : Uuid) : List Binding :=
  (b.bindings.select fun row => row.wholesalerId = wholesalerId && !row.isDeleted).insertionSort
    fun x y => y.outstandingBalance.unscaled ≤ x.outstandingBalance.unscaled

/-- The orders the summary reads. -/
def receivableOrders (b : Books) (wholesalerId : Uuid) (retailerIds : List Uuid) : List Order :=
  b.orders.select fun o => o.wholesalerId = wholesalerId && retailerIds.contains o.retailerId &&
    !o.isDeleted && receivableStatuses.contains o.status

/-- The active holds of a retailer's live orders, joined with their orders. -/
def retailerHolds (b : Books) (retailerId : Uuid) : List CreditHold :=
  b.creditHolds.select fun h => h.status = .active &&
    ((b.orders.find? h.orderId).any fun o => !o.isDeleted && o.retailerId = retailerId)

/-- One turn of the loop over a retailer's orders: the credit and the count so far. -/
def addOrderReceivable (b : Books) (sofar : Decimal × ℕ) (order : Order) :
    Except CommandError (Decimal × ℕ) := do
  let creditAmt := b.getOrderMethodTotal order.id [.credit]
  let cashAmt := b.getOrderMethodTotal order.id [.cash, .transfer]
  assertHistoryIntegrity creditAmt cashAmt
  let creditBalance := creditExposure creditAmt cashAmt
  return if 0 < creditBalance then (Decimal.add sofar.1 creditBalance, sofar.2 + 1) else sofar

/-- The entry of one binding, before entries of zeros are dropped. -/
def retailerReceivables (b : Books) (orders : List Order) (binding : Binding) :
    Except CommandError RetailerReceivables := do
  let (credit, count) ← (orders.filter fun o => o.retailerId = binding.retailerId).foldlM
    b.addOrderReceivable (0, 0)
  let holds := b.retailerHolds binding.retailerId
  return { retailerId := binding.retailerId
           outstandingBalance := binding.outstandingBalance.toDecimal
           creditReceivables := credit
           unpaidOrderBalance := (holds.map fun h => h.remainingAmount.toDecimal).sum
           orderCount := count + holds.length }

/-- `get_receivables_summary`. -/
def getReceivablesSummary (b : Books) (wholesalerId : Uuid) :
    Except CommandError ReceivablesSummary := do
  let bindings := b.receivableBindings wholesalerId
  let orders := b.receivableOrders wholesalerId (bindings.map Binding.retailerId)
  b.assertValidPaymentHistory (orders.map Order.id) "Receivables summary"
  let rows ← bindings.mapM (b.retailerReceivables orders)
  return .ofRows rows

end Books

end Mpango
