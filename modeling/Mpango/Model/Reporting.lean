import Mpango.Library.Grouping
import Mpango.Model.Tables

/-!
# Reporting

Three views aggregate the ledger: revenue by day (materialized), receivables by entity, and cash by
day with a running balance. A registry names the columns of each view by metric and by dimension;
the key figures, the charts and the ad-hoc queries are built from it.

A view has no rows to give when one of its sums does not fit its column. How an instant falls on a
date, and a date on a week or a month, is the database's; both are parameters. Figures are the
decimals that the queries return.
-/

namespace Mpango

namespace Reporting

/-! ## The registry -/

inductive ViewScope
  | salesDaily
  | receivablesSummary
  | cashFlowDaily
  deriving DecidableEq

inductive ReportMetric
  | revenue
  | transactionCount
  | outstandingBalance
  | receivableEntryCount
  | netCashChange
  | runningBalance
  | cashTransactionCount
  deriving DecidableEq

inductive ReportDimension
  | date
  | currency
  | entityId
  | entityType
  deriving DecidableEq

structure ViewRegistration where
  metrics : List (ReportMetric × String)
  dimensions : List (ReportDimension × String)

/-- `_REGISTRY`. -/
def registration : ViewScope → ViewRegistration
  | .salesDaily =>
    { metrics := [(.revenue, "daily_revenue"), (.transactionCount, "transaction_count")]
      dimensions := [(.date, "transaction_date"), (.currency, "reporting_currency_code")] }
  | .receivablesSummary =>
    { metrics :=
        [(.outstandingBalance, "outstanding_balance"), (.receivableEntryCount, "entry_count")]
      dimensions := [(.entityId, "entity_id"), (.entityType, "entity_type"),
        (.currency, "reporting_currency_code")] }
  | .cashFlowDaily =>
    { metrics := [(.netCashChange, "net_change"), (.runningBalance, "running_balance"),
        (.cashTransactionCount, "transaction_count")]
      dimensions := [(.date, "transaction_date"), (.currency, "reporting_currency_code")] }

/-! ## The views -/

/-- What the views read of a ledger entry. -/
structure Entry where
  transactionDate : ℤ
  accountType : AccountType
  amount : LedgerAmount
  referenceType : String
  referenceId : Uuid
  isDeleted : Bool
  deriving DecidableEq

/-- A value in a column. -/
inductive Value
  | decimal (d : Numeric 20 4)
  | count (n : ℕ)
  | date (d : ℤ)
  | instant (t : ℤ)
  | text (s : String)
  | uuid (u : Uuid)
  deriving DecidableEq

/-- What a value adds to a sum. -/
def Value.number : Value → Decimal
  | decimal d => d.toDecimal
  | count n => n
  | _ => 0

/-- A row of a view, by column. -/
abbrev Row := List (String × Value)

structure SalesRow where
  transactionDate : ℤ
  dailyRevenue : Numeric 20 4
  transactionCount : ℕ

structure ReceivablesRow where
  entityId : Uuid
  entityType : String
  outstandingBalance : Numeric 20 4
  entryCount : ℕ
  earliestTransaction : ℤ
  latestTransaction : ℤ

structure CashFlowRow where
  transactionDate : ℤ
  netChange : Numeric 20 4
  transactionCount : ℕ
  runningBalance : Numeric 20 4

def SalesRow.row (r : SalesRow) : Row :=
  [("transaction_date", .date r.transactionDate), ("reporting_currency_code", .text "USD"),
    ("daily_revenue", .decimal r.dailyRevenue), ("transaction_count", .count r.transactionCount)]

def ReceivablesRow.row (r : ReceivablesRow) : Row :=
  [("entity_id", .uuid r.entityId), ("entity_type", .text r.entityType),
    ("reporting_currency_code", .text "USD"),
    ("outstanding_balance", .decimal r.outstandingBalance), ("entry_count", .count r.entryCount),
    ("earliest_transaction", .instant r.earliestTransaction),
    ("latest_transaction", .instant r.latestTransaction)]

def CashFlowRow.row (r : CashFlowRow) : Row :=
  [("transaction_date", .date r.transactionDate), ("reporting_currency_code", .text "USD"),
    ("net_change", .decimal r.netChange), ("transaction_count", .count r.transactionCount),
    ("running_balance", .decimal r.runningBalance)]

/-- The entries of an account that are not deleted. -/
def live (account : AccountType) (entries : List Entry) : List Entry :=
  entries.filter fun e => e.accountType = account ∧ e.isDeleted = false

def amountOf (e : Entry) : Decimal := e.amount.toDecimal

/-- `SUM(amount)`. -/
def total (entries : List Entry) : Decimal := (entries.map amountOf).sum

section Views
variable (dateOf : ℤ → ℤ)

end Views

def latest (instants : List ℤ) : ℤ := instants.max?.getD 0

/-- The date of a row; a view without dates has none. -/
def dateAt (scope : ViewScope) (row : Row) : Option ℤ :=
  match ((registration scope).dimensions.lookup .date).bind fun column => row.lookup column with
  | some (.date d) => some d
  | _ => none

/-- The rows within the dates of a query; a view without dates is not filtered. -/
def withinDates (scope : ViewScope) (dateFrom dateTo : Option ℤ) (rows : List Row) : List Row :=
  rows.filter fun row => (dateAt scope row).all fun d =>
    dateFrom.all (· ≤ d) && dateTo.all (d ≤ ·)

/-- `build_query`: the rows, by column. -/
def buildQuery (scope : ViewScope) (metrics : List ReportMetric)
    (dimensions : Option (List ReportDimension)) (dateFrom dateTo : Option ℤ) (limit : ℕ)
    (rows : List Row) : Option (List (List Value)) := do
  let dimColumns ← (dimensions.getD []).mapM fun d => (registration scope).dimensions.lookup d
  let metricColumns ← metrics.mapM fun m => (registration scope).metrics.lookup m
  ((withinDates scope dateFrom dateTo rows).take (min limit 10000)).mapM fun row =>
    (dimColumns ++ metricColumns).mapM fun column => row.lookup column

section Dashboard
variable (dateOf : ℤ → ℤ) (dateTrunc : TimeGranularity → ℤ → ℤ)

end Dashboard

end Reporting

end Mpango
