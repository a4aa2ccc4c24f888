import Mpango.Model.OrderCommands

/-!
# The canonical payment service

`CanonicalPaymentService`: the one path on which a payment is written. A request carries an
idempotency key; a key already on a live row is answered by that row or refused, never executed
again. The key is looked up three times: before the order is locked, under the lock, and after
an insert that lost a race.

The write path is cut at its seams. `paymentPlan` is everything checked before the first write:
the target state, whether the payment is a collection on a credit sale, the hold it works on and
the status of the new row. `insertPayment` is the savepoint with the receipt and the row.
`settlePayment` is the rest: hold, order status, ledger and binding.
-/

namespace Mpango

open Decimal

/-! ## Requests and results -/

/-- The arguments of a payment, apart from the order. -/
structure PaymentRequest where
  amount : Decimal
  method : PaymentMethod
  transactionId : Option String
  idempotencyKey : String
  forceCompleted : Bool := false
  allocateReceipt : Bool := false

/-- What the environment supplies to an insert: the generated key and today's date. -/
structure InsertContext where
  newId : Uuid
  businessDate : BusinessDate

/-- `CanonicalPaymentResult`. -/
structure CanonicalPaymentResult where
  order : Order
  paymentRecord : Payment
  replayed : Bool
  deriving DecidableEq

/-- `x or None` for an optional text. -/
def orNone (t : Option String) : Option String := t.filter (· ≠ "")

/-- `_same_payment_request`; the order is compared by its text. -/
def samePaymentRequest (existing : Payment) (orderId : String) (req : PaymentRequest) : Bool :=
  existing.orderId.text = orderId && existing.amount.toDecimal = req.amount &&
    existing.method = req.method && orNone existing.transactionId = orNone req.transactionId

/-! ## Refusals -/

/-- `_raise_invalid_amount`. -/
def raiseInvalidAmount (amount : Decimal) : Except CommandError Unit :=
  refuseIf (amount ≤ 0)
    (.http 400 .invalidPaymentAmount "Payment amount must be a positive finite number")

/-- `_idempotency_conflict`. -/
def idempotencyConflict : CommandError :=
  .conflict .idempotencyKeyConflict
    "X-Idempotency-Key was already used with a different payment request"

/-- The refusal of a payment whose retailer is not its order's. -/
def attributionConflict : CommandError :=
  .conflict .idempotencyKeyConflict "Idempotent payment attribution does not match its order"

/-- `_duplicate_transfer_reference`. -/
def duplicateTransferReference : CommandError :=
  .conflict .duplicateTransferReference "Transfer transaction_id has already been recorded"

/-- `_credit_hold_mismatch`. -/
def creditHoldMismatch (message : String) : CommandError := .conflict .creditHoldMismatch message

/-- `_enforce_receipt_on_replay`. -/
def enforceReceiptOnReplay (existing : Payment) (allocateReceipt : Bool) :
    Except CommandError Unit :=
  refuseIf (allocateReceipt = true ∧ isValidReceiptNumber existing.receiptNumber = false)
    (.conflict .declarationConfirmationKeyConflict
      "Declaration confirmation key collides with a non-receipt payment")

namespace Books

/-! ## Replays -/

/-- `_replay_result`: answer with the stored payment and its order. -/
def replayResult (b : Books) (existing : Payment) : Except CommandError CanonicalPaymentResult :=
  do
  let order ← orRefuse (b.liveOrder? existing.orderId)
    (.http 404 .orderNotFound "Order for idempotent payment was not found")
  refuseIf (existing.retailerId ≠ order.retailerId) attributionConflict
  return ⟨order, existing, true⟩

/-- `_replay_or_conflict_for_locked_order`. -/
def replayOrConflict (order : Order) (existing : Payment) (req : PaymentRequest) :
    Except CommandError CanonicalPaymentResult := do
  refuseIf (samePaymentRequest existing order.id.text req = false) idempotencyConflict
  enforceReceiptOnReplay existing req.allocateReceipt
  refuseIf (existing.retailerId ≠ order.retailerId) attributionConflict
  return ⟨order, existing, true⟩

/-! ## Checks before the first write -/

/-- `_verify_hold_contract` for a collection on a credit sale. -/
def verifyCollectionHold (b : Books) (order : Order) : Except CommandError CreditHold := do
  let holds := b.creditHolds.find? order.id
  let total := order.totalAmount.toDecimal
  let hold ← orRefuse (holds.filter fun h => h.status = .converted) (creditHoldMismatch
    ("Credit collection requires exactly one converted " ++
      s!"credit hold, found {holdShapes holds}"))
  refuseIf (hold.remainingAmount.toDecimal ≠ 0) (creditHoldMismatch
    ("Converted credit hold must have remaining_amount = 0, " ++
      s!"found {hold.remainingAmount.toDecimal.text}"))
  refuseIf (hold.amount.toDecimal ≠ total) (creditHoldMismatch
    (s!"Converted credit hold amount {hold.amount.toDecimal.text} does not " ++
      s!"match the order total {total.text}"))
  let creditTotal := b.getOrderMethodTotal order.id [.credit]
  refuseIf (creditTotal ≠ total) (creditHoldMismatch
    (s!"Effective credit total {creditTotal.text} does not match " ++
      s!"the order total {total.text}"))
  let creditRows := b.countOrderPayments order.id .credit
  refuseIf (creditRows ≠ 1) (creditHoldMismatch
    ("Credit sale requires exactly one effective credit " ++
      s!"payment, found {creditRows} (a split or duplicated " ++
      "credit history cannot be collected)"))
  return hold

/-- `_verify_hold_contract` for a settlement or a credit sale. -/
def verifyActiveHold (b : Books) (order : Order) (req : PaymentRequest) :
    Except CommandError CreditHold := do
  let holds := b.creditHolds.find? order.id
  let total := order.totalAmount.toDecimal
  let hold ← orRefuse (holds.filter fun h => h.status = .active) (creditHoldMismatch
    (s!"{req.method.value} settlement requires exactly one active credit " ++
      s!"hold, found {holdShapes holds}"))
  refuseIf (hold.amount.toDecimal ≠ total) (creditHoldMismatch
    (s!"Active credit hold amount {hold.amount.toDecimal.text} does not match " ++
      s!"the order total {total.text}"))
  let expectedRemaining := Decimal.sub total (b.getOrderPaidTotal order.id)
  refuseIf (hold.remainingAmount.toDecimal ≠ expectedRemaining) (creditHoldMismatch
    (s!"Active credit hold remaining {hold.remainingAmount.toDecimal.text} does " ++
      "not match the effective unsettled total " ++ s!"{expectedRemaining.text}"))
  refuseIf (req.method ≠ .credit ∧ expectedRemaining < req.amount) (creditHoldMismatch
    (s!"Settlement amount {req.amount.text} exceeds the hold remaining " ++
      s!"{hold.remainingAmount.toDecimal.text}"))
  return hold

/-- The checks of a payment on a `PAID` order: only a collection on its credit sale is left. -/
def checkCollection (b : Books) (order : Order) (req : PaymentRequest) :
    Except CommandError Unit := do
  refuseIf (req.method = .credit) (.conflict .orderAlreadyPaid
    "Paid credit orders accept only cash or transfer collections")
  let creditTotal := b.getOrderMethodTotal order.id [.credit]
  let collectionTotal := b.getOrderMethodTotal order.id [.cash, .transfer]
  let creditCollectionExposure := Decimal.sub creditTotal collectionTotal
  refuseIf (0 < creditTotal ∧ creditCollectionExposure < 0) (creditHoldMismatch
    (s!"Credit history is over-collected: credit {creditTotal.text} " ++
      s!"vs collections {collectionTotal.text}"))
  refuseIf (creditCollectionExposure ≤ 0)
    (.conflict .orderAlreadyPaid "Order has no remaining credit exposure to collect")
  refuseIf (creditCollectionExposure < req.amount) (.http 400 .paymentExceedsRemaining
    "Payment amount exceeds remaining credit exposure")

/-- The checks of a payment in any other state. -/
def checkSettlement (b : Books) (order : Order) (req : PaymentRequest) :
    Except CommandError Unit := do
  let orderTotal := order.totalAmount.toDecimal
  let priorPaid := b.getOrderPaidTotal order.id
  refuseIf (Decimal.sub orderTotal priorPaid < req.amount) (.http 400 .paymentExceedsRemaining
    "Payment amount exceeds remaining balance")
  refuseIf (order.status ≠ .confirmed ∧ order.status ≠ .partiallyPaid)
    (.conflict .invalidStateTransition
      "Order must be confirmed or partially_paid before payment")
  refuseIf (req.method = .credit ∧ 0 < b.countOrderPayments order.id .credit)
    (.conflict .duplicateCreditPayment "Only one credit payment is allowed per order")
  refuseIf (req.method = .credit ∧ 0 < priorPaid) (.http 400 .creditSplitTenderUnsupported
    "Credit is allowed only on an order with no prior cash or transfer settlement")
  refuseIf (req.method = .credit ∧ req.amount ≠ orderTotal)
    (.http 400 .creditAmountMismatch "Credit amount must equal order total")

/-- `target_state` of a settlement. -/
def settlementTarget (b : Books) (order : Order) (req : PaymentRequest) : OrderState :=
  if order.totalAmount.toDecimal ≤ Decimal.add (b.getOrderPaidTotal order.id) req.amount then
    .paid
  else .partiallyPaid

/-- The transfer reference of a new payment must not be on a live row. -/
def checkTransferReference (b : Books) (req : PaymentRequest) : Except CommandError Unit :=
  match orNone req.transactionId with
  | some t => refuseIf (req.method = .transfer ∧ (b.getByTransactionId t).isSome)
      duplicateTransferReference
  | none => .ok ()

/-- What the checks before the first write settle on. -/
structure PaymentPlan where
  targetState : OrderState
  isCreditCollection : Bool
  hold : CreditHold
  paymentStatus : PaymentStatus

/-- The state-dependent checks: is this a collection, and what does it lead to. -/
def checkState (b : Books) (order : Order) (req : PaymentRequest) :
    Except CommandError (OrderState × Bool) :=
  if order.status = .paid then do
    b.checkCollection order req
    return (.paid, true)
  else do
    b.checkSettlement order req
    return (b.settlementTarget order req, false)

/-- Everything between the idempotency re-check and the first write. -/
def paymentPlan (b : Books) (order : Order) (req : PaymentRequest) :
    Except CommandError PaymentPlan := do
  b.assertValidPaymentHistory [order.id] "Payment write path"
  let (targetState, isCreditCollection) ← b.checkState order req
  b.checkTransferReference req
  let hold ← if isCreditCollection then b.verifyCollectionHold order
    else b.verifyActiveHold order req
  let paymentStatus := if req.forceCompleted || isCreditCollection ||
      req.method = .transfer && targetState = .paid then .completed else .pending
  return { targetState, isCreditCollection, hold, paymentStatus }

/-! ## Inserting -/

/-- The receipt number of a new row: allocated when one is wanted and the row is complete. -/
def receiptForInsert (b : Books) (ctx : InsertContext) (req : PaymentRequest)
    (plan : PaymentPlan) : Except DatabaseError (Books × Option String) :=
  if req.allocateReceipt = true ∧ plan.paymentStatus = .completed then do
    let (b, number) ← b.allocateReceiptNumber ctx.businessDate
    return (b, some number)
  else .ok (b, none)

/-- The savepoint: allocate the receipt, if one is wanted, and insert the payment. A failure
undoes both. -/
def insertPayment (b : Books) (ctx : InsertContext) (order : Order) (req : PaymentRequest)
    (plan : PaymentPlan) : Except DatabaseError (Books × Payment) := do
  let (b, receiptNumber) ← b.receiptForInsert ctx req plan
  b.createPayment ctx.newId
    { orderId := order.id, retailerId := order.retailerId, transactionId := req.transactionId
      idempotencyKey := req.idempotencyKey, amount := req.amount, method := req.method
      status := plan.paymentStatus, receiptNumber }

/-- `_classify_payment_insert_race`: a violation of one of the two payment unique objects is
answered from the row that won; every other failure is raised again. -/
def classifyPaymentInsertRace (b : Books) (error : DatabaseError) (order : Order)
    (req : PaymentRequest) : Except CommandError CanonicalPaymentResult :=
  match error with
  | .uniqueViolation .uqPaymentsTransactionId =>
    match req.transactionId.bind b.getByTransactionId with
    | some _ => .error duplicateTransferReference
    | none => .error (.database error)
  | .uniqueViolation .paymentsIdempotencyKey =>
    match b.getByIdempotencyKey req.idempotencyKey with
    | some existing => replayOrConflict order existing req
    | none => .error (.database error)
  | _ => .error (.database error)

/-! ## Settling -/

/-- `_convert_hold`. -/
def convertHold (b : Books) (hold : CreditHold) : Except CommandError Books :=
  dbError (b.updateHold { hold with status := .converted, remainingAmount := .zero })

/-- `_reduce_hold`: the remaining amount is computed in the program and rounded by the column. -/
def reduceHold (b : Books) (hold : CreditHold) (amount : Decimal) : Except CommandError Books :=
  do
  let remaining := Decimal.sub hold.remainingAmount.toDecimal amount
  refuseIf (remaining < 0) (creditHoldMismatch
    ("Settlement would drive the hold remaining below zero " ++
      s!"({hold.remainingAmount.toDecimal.text} - {amount.text})"))
  let remainingAmount ← dbError (storeMoney remaining)
  dbError (b.updateHold { hold with
    remainingAmount, status := if remaining = 0 then .settled else hold.status })

/-- The effects of a collection: ledger, then binding. -/
def settleCollection (b : Books) (order : Order) (amount : Decimal) :
    Except CommandError Books := do
  let b ← b.postPaymentReceived order.id amount
  b.applyOutstandingBalanceDelta order.wholesalerId order.retailerId (Decimal.neg amount)

/-- The hold after a settlement or a credit sale. -/
def settleHold (b : Books) (req : PaymentRequest) (plan : PaymentPlan) :
    Except CommandError Books :=
  if req.method = .credit then b.convertHold plan.hold else b.reduceHold plan.hold req.amount

/-- Settling in full completes the pending payments, unless every row was completed at once. -/
def completePending (b : Books) (order settled : Order) (req : PaymentRequest) : Books :=
  if req.forceCompleted = false ∧ settled.status = .paid then
    b.updateCashTransferToCompleted order.id
  else b

/-- A settlement comes off the binding cache; a credit sale stays on it. -/
def settleBalance (b : Books) (order : Order) (req : PaymentRequest) : Except CommandError Books :=
  if req.method = .credit then .ok b
  else b.applyOutstandingBalanceDelta order.wholesalerId order.retailerId (Decimal.neg req.amount)

/-- The effects of a settlement or a credit sale: hold, order and ledger, pending payments,
binding. -/
def settleOrder (b : Books) (order : Order) (req : PaymentRequest) (plan : PaymentPlan) :
    Except CommandError (Books × Order) := do
  let b ← b.settleHold req plan
  let (b, settled) ← b.applyPaymentTransitionForLocked order plan.targetState req.method
  let b ← (b.completePending order settled req).settleBalance order req
  return (b, settled)

/-- Everything after the insert. -/
def settlePayment (b : Books) (order : Order) (req : PaymentRequest) (plan : PaymentPlan) :
    Except CommandError (Books × Order) :=
  Except.mapError CommandError.asMutation <|
    if plan.isCreditCollection then do
      let b ← b.settleCollection order req.amount
      return (b, order)
    else b.settleOrder order req plan

/-- Insert and settle. A failed insert changes nothing and is classified; a failed settlement
aborts the whole transaction. -/
def writePayment (b : Books) (ctx : InsertContext) (order : Order) (req : PaymentRequest)
    (plan : PaymentPlan) : Except CommandError (Books × CanonicalPaymentResult) :=
  match b.insertPayment ctx order req plan with
  | .error error => do
    let result ← b.classifyPaymentInsertRace error order req
    return (b, result)
  | .ok (inserted, record) => do
    let (settled, order) ← inserted.settlePayment order req plan
    -- `_latest_payment_record`: the batch update may have completed the new row too
    return (settled, ⟨order, (settled.getPaymentById record.id).getD record, false⟩)

/-- `_confirm_payment_for_locked_order`. -/
def confirmPaymentForLockedOrder (b : Books) (ctx : InsertContext) (order : Order)
    (req : PaymentRequest) : Except CommandError (Books × CanonicalPaymentResult) := do
  raiseInvalidAmount req.amount
  match b.getByIdempotencyKey req.idempotencyKey with
  | some existing => do
    let result ← replayOrConflict order existing req
    return (b, result)
  | none => do
    let plan ← b.paymentPlan order req
    b.writePayment ctx order req plan

/-- The lock-free fast path of `confirm_payment`: `none` when the key is new. -/
def fastReplay (b : Books) (orderId : String) (req : PaymentRequest) :
    Except CommandError (Option CanonicalPaymentResult) :=
  match b.getByIdempotencyKey req.idempotencyKey with
  | some existing =>
    if samePaymentRequest existing orderId req then do
      enforceReceiptOnReplay existing req.allocateReceipt
      let result ← b.replayResult existing
      return some result
    else .error idempotencyConflict
  | none => .ok none

/-- `_get_order_by_id_for_update`, with the refusal of `confirm_payment`. -/
def lockOrderForPayment (b : Books) (orderId : String) : Except CommandError Order :=
  orRefuse ((Uuid.parse orderId).bind b.liveOrder?)
    (.http 404 .orderNotFound s!"Order with ID '{orderId}' not found")

/-- `confirm_payment`: the public entry. The order is named by a text, as the path gives it. -/
def confirmPayment (b : Books) (ctx : InsertContext) (orderId : String) (req : PaymentRequest) :
    Except CommandError (Books × CanonicalPaymentResult) := do
  raiseInvalidAmount req.amount
  match ← b.fastReplay orderId req with
  | some result => return (b, result)
  | none => do
    let order ← b.lockOrderForPayment orderId
    b.confirmPaymentForLockedOrder ctx order req

end Books

/-! ## The route -/

/-- The characters of an idempotency key. -/
def idempotencyKeyAllowedChars : List Char :=
  "abcdefghijklmnopqrstuvwxyzABCDEFGHIJKLMNOPQRSTUVWXYZ0123456789.:-_".toList

/-- `RESERVED_IDEMPOTENCY_KEY_PREFIX` and `DECLARATION_CONFIRMATION_KEY_PREFIX`. -/
def declarationKeyPrefix : String := "decl-confirm-"

/-- `_validate_idempotency_key`. -/
def validateIdempotencyKey (value : Option String) : Except CommandError String := do
  let key := strip (value.getD "")
  refuseIf (key = "") (.http 400 .missingIdempotencyKey
    "X-Idempotency-Key is required for payment requests")
  refuseIf (¬(8 ≤ key.length ∧ key.length ≤ 64)) (.http 400 .invalidIdempotencyKey
    "X-Idempotency-Key must be 8 to 64 visible ASCII characters")
  refuseIf (key.toList.any fun c => !idempotencyKeyAllowedChars.contains c)
    (.http 400 .invalidIdempotencyKey "X-Idempotency-Key contains invalid characters")
  refuseIf (declarationKeyPrefix.toList.isPrefixOf key.toList) (.http 400 .reservedIdempotencyKey
    "This idempotency-key prefix is reserved for internal declaration confirmation")
  return key

/-- `pay_order`, for a body that carries an amount and a method. -/
def Books.payOrder (b : Books) (ctx : InsertContext) (orderId : String) (amount : Decimal)
    (method : PaymentMethod) (transactionId xIdempotencyKey : Option String) :
    Except CommandError (Books × CanonicalPaymentResult) := do
  let idempotencyKey ← validateIdempotencyKey xIdempotencyKey
  b.confirmPayment ctx orderId { amount, method, transactionId, idempotencyKey }

end Mpango
