import Mpango.Model.Balances
import Mpango.Model.Payments

/-!
# The reconciliation of a statement

The last check of `build_statement_print` and the three queries of `StatementRepository` it reads:
a relationship without a completed cash or transfer payment is credit-only, and its ledger total
must be the cached balance of its binding within a cent.
-/

namespace Mpango

open Decimal

/-- The domain errors a statement is refused with. -/
inductive StatementError | statementReconciliationFailed
  deriving DecidableEq, Repr

namespace Books

/-- The order is one of the pair's. -/
def orderOfPair (b : Books) (orderId wholesalerId retailerId : Uuid) : Bool :=
  (b.orders.find? orderId).any fun o => o.wholesalerId = wholesalerId && o.retailerId = retailerId

/-- `relationship_has_non_credit_payment`. -/
def relationshipHasNonCreditPayment (b : Books) (wholesalerId retailerId : Uuid) : Bool :=
  b.payments.rows.any fun p => p.retailerId = retailerId &&
    b.orderOfPair p.orderId wholesalerId retailerId && !p.isDeleted && p.status = .completed &&
    [PaymentMethod.cash, .transfer].contains p.method

/-- `ledger_receivable_total`: the sum is computed by the database, exactly. -/
def ledgerReceivableTotal (b : Books) (wholesalerId retailerId : Uuid) : Decimal :=
  ((b.ledgerEntries.filter fun e => e.accountType = .receivable &&
    [LedgerReference.order, .refund].contains e.referenceType &&
    b.orderOfPair e.referenceId wholesalerId retailerId).map fun e => e.amount.toDecimal).sum

/-- `cached_binding_balance`: of a live, active binding only. -/
def cachedBindingBalance (b : Books) (wholesalerId retailerId : Uuid) : Option Decimal :=
  ((b.liveBinding? wholesalerId retailerId).filter fun row => row.status = .active).map
    fun row => row.outstandingBalance.toDecimal

/-- The tolerance of the reconciliation, 0.01. -/
def reconciliationTolerance : Decimal := scaled 2 1

/-- The reconciliation in `build_statement_print`. -/
def reconcileStatement (b : Books) (wholesalerId retailerId : Uuid) : Except StatementError Unit :=
  if b.relationshipHasNonCreditPayment wholesalerId retailerId then .ok ()
  else
    let ledgerTotal := b.ledgerReceivableTotal wholesalerId retailerId
    match b.cachedBindingBalance wholesalerId retailerId with
    | none => .error .statementReconciliationFailed
    | some cached => refuseIf (reconciliationTolerance < |Decimal.sub ledgerTotal cached|)
        .statementReconciliationFailed

end Books

end Mpango
