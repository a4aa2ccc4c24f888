import Mpango.Library.Windows
import Mpango.Model.Declarations
import Mpango.Model.Harness
import Mpango.Model.Statement

/-!
# The printed statement

`build_statement_print` with the queries of `StatementRepository`. A statement covers whole days of
East Africa time. It prints the balance before them, the movements of the receivable within them
and the totals of these, and the balance they close with. Sums the database computes are exact;
those of the service round to the context's precision.
-/

namespace Mpango

open Decimal

/-! ## Dates -/

/-- Microseconds of UTC since the first day a `datetime` can name. -/
abbrev Timestamp := ℤ

def microsecondsPerDay : ℤ := 24 * 3600 * 1000000

/-- `_EAT_UTC_OFFSET`: three hours. -/
def eatUtcOffset : ℤ := 3 * 3600 * 1000000

/-- `_MAX_SPAN_DAYS`. -/
def maxSpanDays : ℤ := 365

/-- A day of the calendar. -/
structure CalendarDate where
  date : Harness.Date
  month : 1 ≤ date.month ∧ date.month ≤ 12
  day : 1 ≤ date.day ∧ date.day ≤ Harness.Date.daysInMonth date.year date.month
  year : 1 ≤ date.year ∧ date.year ≤ 9999

namespace CalendarDate

/-- `toordinal`: the first day of year 1 is day 1. -/
def toordinal (d : CalendarDate) : ℤ :=
  let y : ℤ := d.date.year - 1
  y * 365 + y / 4 - y / 100 + y / 400 +
    ((List.range' 1 (d.date.month - 1)).map (Harness.Date.daysInMonth d.date.year)).sum + d.date.day

/-- Midnight in East Africa at the start of the day. -/
def midnight (d : CalendarDate) : Timestamp :=
  (d.toordinal - 1) * microsecondsPerDay - eatUtcOffset

/-- A day as `strptime` reads it from a text of the strict shape. -/
def parse (value : String) : Option CalendarDate :=
  (Harness.Date.parse value).bind fun date =>
    if h : (1 ≤ date.month ∧ date.month ≤ 12) ∧
        (1 ≤ date.day ∧ date.day ≤ Harness.Date.daysInMonth date.year date.month) ∧
        (1 ≤ date.year ∧ date.year ≤ 9999) then
      some ⟨date, h.1, h.2.1, h.2.2⟩
    else none

end CalendarDate

/-- The day of East Africa time that a timestamp falls on, as an ordinal. -/
def eatDay (t : Timestamp) : ℤ := (t + eatUtcOffset) / microsecondsPerDay + 1

/-- Why no statement is printed. -/
inductive StatementPrintError
  | statementPeriodError (message : String)
  | overflowError
  | notFound
  | statementLedgerScopeIncomplete
  | statementInternalInconsistent
  | statementReconciliationFailed
  | statementRangeTooLarge
  deriving DecidableEq, Repr

open StatementPrintError

/-- `datetime(…, tzinfo=eat).astimezone(utc)`: nothing is before the first `datetime`. -/
def eatMidnightToUtc (d : CalendarDate) : Except StatementPrintError Timestamp := do
  refuseIf (d.midnight < 0) overflowError
  return d.midnight

/-- `eat_date_range_to_utc_half_open`. -/
def eatDateRangeToUtcHalfOpen (dateFrom dateTo : CalendarDate) :
    Except StatementPrintError (Timestamp × Timestamp) := do
  refuseIf (dateTo.toordinal < dateFrom.toordinal)
    (statementPeriodError "from date must not be after to date.")
  let span := dateTo.toordinal - dateFrom.toordinal + 1
  refuseIf (maxSpanDays < span)
    (statementPeriodError "Statement period exceeds the maximum span of 365 days.")
  let startUtc ← eatMidnightToUtc dateFrom
  let nextDayUtc ← eatMidnightToUtc dateTo
  return (startUtc, nextDayUtc + microsecondsPerDay)

/-- The check of one end of a range: given, and without blanks around it. -/
def requireDate (label : String) (value : Option String) : Except StatementPrintError String :=
  match value with
  | none => .error (statementPeriodError s!"{label} date is required.")
  | some s => do
    refuseIf (strip s = "") (statementPeriodError s!"{label} date is required.")
    refuseIf (s ≠ strip s) (statementPeriodError "Invalid date format.")
    return s

/-- `parse_statement_date_range`. -/
def parseStatementDateRange (rawFrom rawTo : Option String) :
    Except StatementPrintError (CalendarDate × CalendarDate) := do
  let rawFrom ← requireDate "from" rawFrom
  let rawTo ← requireDate "to" rawTo
  let dateFrom ← orRefuse (CalendarDate.parse rawFrom) (statementPeriodError "Invalid date format.")
  let dateTo ← orRefuse (CalendarDate.parse rawTo) (statementPeriodError "Invalid date format.")
  let _ ← eatDateRangeToUtcHalfOpen dateFrom dateTo
  return (dateFrom, dateTo)

/-! ## The ledger with its dates -/

/-- A row of `ledger_entries` with the columns a statement prints. -/
structure DatedEntry where
  id : Uuid
  transactionDate : Timestamp
  description : Option String
  entry : LedgerEntry

/-- The stored amount. -/
def DatedEntry.amount (e : DatedEntry) : Decimal := e.entry.amount.toDecimal

/-- A tenant's tables with the timestamps that a statement orders by. -/
structure StatementDb where
  db : Db
  ledger : List DatedEntry
  /-- `created_at` of a payment. -/
  paidAt : Uuid → Timestamp
  /-- `submitted_at` of a declaration. -/
  submittedAt : Uuid → Timestamp
  ledgerEntries : ledger.map DatedEntry.entry = db.books.ledgerEntries

/-- `STATEMENT_LINE_CAP`. -/
def statementLineCap : ℕ := 1000

/-- `ORDER BY at ASC, id ASC LIMIT cap + 1`. -/
def firstLines {α : Type} (at' : α → Timestamp) (id : α → Uuid) (rows : List α) : List α :=
  (rows.mergeSort fun x y =>
    decide (at' x < at' y) || (decide (at' x = at' y) && decide (id x ≤ id y))).take
      (statementLineCap + 1)

/-- `sum` over decimals. -/
def sumDecimals (xs : List Decimal) : Decimal := xs.foldl Decimal.add 0

namespace StatementDb

/-- The rows of the receivable that orders and refunds wrote. -/
def receivable (s : StatementDb) : List DatedEntry :=
  s.ledger.filter fun e => e.entry.accountType = .receivable &&
    [LedgerReference.order, .refund].contains e.entry.referenceType

/-- Those of the pair's orders, deleted ones among them. -/
def receivableOfPair (s : StatementDb) (wholesalerId retailerId : Uuid) : List DatedEntry :=
  s.receivable.filter fun e =>
    s.db.books.orderOfPair e.entry.referenceId wholesalerId retailerId

/-- `count_orphan_receivable_refs`. -/
def countOrphanReceivableRefs (s : StatementDb) : ℕ :=
  s.receivable.countP fun e => (s.db.books.orders.find? e.entry.referenceId).isNone

/-- `sum_receivable_before`. -/
def sumReceivableBefore (s : StatementDb) (wholesalerId retailerId : Uuid) (beforeUtc : Timestamp) :
    Decimal :=
  ((Windows.before DatedEntry.transactionDate beforeUtc
    (s.receivableOfPair wholesalerId retailerId)).map DatedEntry.amount).sum

/-- The rows of a period. -/
def receivablePeriod (s : StatementDb) (wholesalerId retailerId : Uuid)
    (startUtc nextDayUtc : Timestamp) : List DatedEntry :=
  Windows.window DatedEntry.transactionDate startUtc nextDayUtc
    (s.receivableOfPair wholesalerId retailerId)

/-- `list_movements`: the rows and their sum. -/
def listMovements (s : StatementDb) (wholesalerId retailerId : Uuid)
    (startUtc nextDayUtc : Timestamp) : List DatedEntry × Decimal :=
  let rows := firstLines DatedEntry.transactionDate DatedEntry.id
    (s.receivablePeriod wholesalerId retailerId startUtc nextDayUtc)
  (rows, sumDecimals (rows.map DatedEntry.amount))

/-- `sum_receivable_period`. -/
def sumReceivablePeriod (s : StatementDb) (wholesalerId retailerId : Uuid)
    (startUtc nextDayUtc : Timestamp) : Decimal :=
  ((s.receivablePeriod wholesalerId retailerId startUtc nextDayUtc).map DatedEntry.amount).sum

/-- The completed payments of the pair in a period. -/
def settledPeriod (s : StatementDb) (wholesalerId retailerId : Uuid)
    (startUtc nextDayUtc : Timestamp) : List Payment :=
  Windows.window (fun p : Payment => s.paidAt p.id) startUtc nextDayUtc
    (s.db.books.payments.rows.filter fun p => p.retailerId = retailerId &&
      s.db.books.orderOfPair p.orderId wholesalerId retailerId && !p.isDeleted &&
      p.status = .completed)

/-- `list_settled_payments`. -/
def listSettledPayments (s : StatementDb) (wholesalerId retailerId : Uuid)
    (startUtc nextDayUtc : Timestamp) : List Payment :=
  firstLines (fun p : Payment => s.paidAt p.id) Payment.id
    (s.settledPeriod wholesalerId retailerId startUtc nextDayUtc)

/-- `count_completed_payment_ownership_mismatch`. -/
def countCompletedPaymentOwnershipMismatch (s : StatementDb) (wholesalerId retailerId : Uuid) : ℕ :=
  s.db.books.payments.rows.countP fun p =>
    let order := s.db.books.orders.find? p.orderId
    p.status = .completed && !p.isDeleted &&
      (p.retailerId = retailerId || order.any fun o => o.retailerId = retailerId) &&
      (order.isNone || p.retailerId ≠ retailerId ||
        order.any fun o => o.retailerId ≠ retailerId || o.wholesalerId ≠ wholesalerId)

/-- The pending and rejected declarations of the pair in a period. -/
def pendingPeriod (s : StatementDb) (wholesalerId retailerId : Uuid)
    (startUtc nextDayUtc : Timestamp) : List PaymentDeclaration :=
  Windows.window (fun d : PaymentDeclaration => s.submittedAt d.id) startUtc nextDayUtc
    (s.db.declarations.rows.filter fun d => d.wholesalerId = wholesalerId &&
      d.retailerId = retailerId && [DeclarationStatus.pending, .rejected].contains d.status)

/-- `list_pending_declarations`. -/
def listPendingDeclarations (s : StatementDb) (wholesalerId retailerId : Uuid)
    (startUtc nextDayUtc : Timestamp) : List PaymentDeclaration :=
  firstLines (fun d : PaymentDeclaration => s.submittedAt d.id) PaymentDeclaration.id
    (s.pendingPeriod wholesalerId retailerId startUtc nextDayUtc)

end StatementDb

/-! ## The document -/

/-- `StatementMovementView`. -/
structure StatementMovementView where
  kind : String
  date : Timestamp
  signedAmount : Decimal
  displayAmount : Decimal
  description : Option String
  referenceType : LedgerReference
  referenceId : String

/-- `StatementSettledPaymentView`. -/
structure StatementSettledPaymentView where
  date : Timestamp
  orderId : String
  amount : Decimal
  method : PaymentMethod
  receiptNumber : Option String

/-- `StatementPendingDeclarationView`. -/
structure StatementPendingDeclarationView where
  declarationId : String
  orderId : String
  declaredAmount : Decimal
  method : PaymentMethod
  status : DeclarationStatus
  submittedAt : Timestamp
  transferReference : Option String

/-- `StatementPrintView`, less the names and the time of printing. -/
structure StatementPrintView where
  periodFrom : CalendarDate
  periodTo : CalendarDate
  openingBalance : Decimal
  closingBalance : Decimal
  chargeTotal : Decimal
  collectionTotal : Decimal
  netMovement : Decimal
  settledTotal : Decimal
  movements : List StatementMovementView
  settledPayments : List StatementSettledPaymentView
  pendingDeclarations : List StatementPendingDeclarationView

def movementView (e : DatedEntry) : StatementMovementView where
  kind := if 0 < e.amount then "charge" else "collection"
  date := e.transactionDate
  signedAmount := e.amount
  displayAmount := |e.amount|
  description := e.description
  referenceType := e.entry.referenceType
  referenceId := e.entry.referenceId.text

namespace StatementDb

def settledPaymentView (s : StatementDb) (p : Payment) : StatementSettledPaymentView where
  date := s.paidAt p.id
  orderId := p.orderId.text
  amount := p.amount.toDecimal
  method := p.method
  receiptNumber := p.receiptNumber

def pendingDeclarationView (s : StatementDb) (d : PaymentDeclaration) :
    StatementPendingDeclarationView where
  declarationId := d.id.text
  orderId := d.orderId.text
  declaredAmount := d.declaredAmount.toDecimal
  method := d.method
  status := d.status
  submittedAt := s.submittedAt d.id
  transferReference := d.transferReference

/-- `build_statement_print`. -/
def buildStatementPrint (s : StatementDb) (wholesalerId retailerId : Uuid)
    (dateFrom dateTo : CalendarDate) (includePending : Bool) :
    Except StatementPrintError StatementPrintView := do
  let (startUtc, nextDayUtc) ← eatDateRangeToUtcHalfOpen dateFrom dateTo
  refuseIf (bindingActive s.db.books wholesalerId retailerId = false) notFound
  refuseIf (0 < s.countOrphanReceivableRefs) statementLedgerScopeIncomplete
  refuseIf (0 < s.countCompletedPaymentOwnershipMismatch wholesalerId retailerId)
    statementInternalInconsistent
  let opening := s.sumReceivableBefore wholesalerId retailerId startUtc
  let (movementRows, movementsPeriodSum) :=
    s.listMovements wholesalerId retailerId startUtc nextDayUtc
  refuseIf (statementLineCap < movementRows.length) statementRangeTooLarge
  let dbPeriodSum := s.sumReceivablePeriod wholesalerId retailerId startUtc nextDayUtc
  refuseIf (dbPeriodSum ≠ movementsPeriodSum) statementInternalInconsistent
  refuseIf (movementRows.any fun r => r.amount = 0) statementInternalInconsistent
  let amounts := movementRows.map DatedEntry.amount
  let chargeTotal := sumDecimals (amounts.filter (0 < ·))
  let collectionTotal := |sumDecimals (amounts.filter (· < 0))|
  let netMovement := movementsPeriodSum
  let closing := Decimal.add opening netMovement
  let settledRows := s.listSettledPayments wholesalerId retailerId startUtc nextDayUtc
  refuseIf (statementLineCap < settledRows.length) statementRangeTooLarge
  let settledTotal := sumDecimals (settledRows.map fun p => p.amount.toDecimal)
  let pendingRows :=
    if includePending then s.listPendingDeclarations wholesalerId retailerId startUtc nextDayUtc
    else []
  refuseIf (statementLineCap < pendingRows.length) statementRangeTooLarge
  let combinedLines := movementRows.length + settledRows.length + pendingRows.length
  refuseIf (statementLineCap < combinedLines) statementRangeTooLarge
  (s.db.books.reconcileStatement wholesalerId retailerId).mapError fun _ =>
    statementReconciliationFailed
  return {
    periodFrom := dateFrom
    periodTo := dateTo
    openingBalance := opening
    closingBalance := closing
    chargeTotal
    collectionTotal
    netMovement
    settledTotal
    movements := movementRows.map movementView
    settledPayments := settledRows.map s.settledPaymentView
    pendingDeclarations := pendingRows.map s.pendingDeclarationView }

end StatementDb

end Mpango
