import Mpango.Model.CanonicalPayment

/-!
# Payment declarations

`PaymentDeclarationService`: a retailer submits a declaration, which has no financial effect; a
cashier confirms it, which runs the canonical payment path under a key derived from the
declaration, or rejects it. Confirming twice answers with the payment of the first time. The
receipt of a confirmed declaration is printed by `print_service`, after its own checks.
-/

namespace Mpango

open Decimal

/-! ## The table -/

namespace Db

/-- `get_by_wholesaler_dual_key`, plain or locked. -/
def getByWholesalerDualKey (db : Db) (declarationId wholesalerId : Uuid) :
    Option PaymentDeclaration :=
  (db.declarations.find? declarationId).filter fun d => d.wholesalerId = wholesalerId

/-- `get_by_retailer_idempotency`. -/
def getByRetailerIdempotency (db : Db) (retailerId : Uuid) (idempotencyKey : String) :
    Option PaymentDeclaration :=
  (db.declarations.select fun d =>
    d.retailerId = retailerId && d.idempotencyKey = idempotencyKey).head?

/-- `create`: insert a pending declaration. -/
def createDeclaration (db : Db) (newId : Uuid) (order : Order) (retailerId wholesalerId : Uuid)
    (declaredAmount : Decimal) (method : PaymentMethod) (transferReference : Option String)
    (idempotencyKey : String) : Except DatabaseError (Db × PaymentDeclaration) := do
  let declaredAmount ← storeMoney declaredAmount
  let transferReference ← storeTransactionId transferReference
  let idempotencyKey ← orRefuse (varchar 64 idempotencyKey) .stringDataRightTruncation
  refuseIf (declaredAmount.unscaled ≤ 0) (.checkViolation .ckPaymentDeclarationsAmountPositive)
  let row : PaymentDeclaration :=
    { id := newId, orderId := order.id, retailerId, wholesalerId, declaredAmount, method
      transferReference, status := .pending, idempotencyKey, confirmationPaymentId := none }
  let declarations ← orRefuse (db.declarations.insert? row) (.uniqueViolation .primaryKey)
  refuseIf (db.declarations.rows.any fun d =>
      d.retailerId = retailerId && d.idempotencyKey = idempotencyKey)
    (.uniqueViolation .uxPaymentDeclarationsRetailerIdem)
  return ({ db with declarations }, row)

/-- `mark_confirmed`. -/
def markConfirmed (db : Db) (declarationId wholesalerId confirmationPaymentId : Uuid) :
    Except CommandError Db :=
  match (db.getByWholesalerDualKey declarationId wholesalerId).filter
      fun d => d.status = .pending with
  | some d =>
    let confirmed :=
      { d with status := .confirmed, confirmationPaymentId := some confirmationPaymentId }
    .ok { db with declarations := db.declarations.set confirmed }
  | none => .error (.runtimeError "mark_confirmed: expected exactly 1 row updated")

/-- `mark_rejected`. -/
def markRejected (db : Db) (declarationId wholesalerId : Uuid) : Except CommandError Db :=
  match (db.getByWholesalerDualKey declarationId wholesalerId).filter
      fun d => d.status = .pending with
  | some d => .ok { db with declarations := db.declarations.set { d with status := .rejected } }
  | none => .error (.runtimeError "mark_rejected: expected exactly 1 row updated")

end Db

/-! ## Submission -/

/-- `_same_declaration_request`. -/
def sameDeclarationRequest (existing : PaymentDeclaration) (orderId : String)
    (declaredAmount : Decimal) (method : PaymentMethod) (transferReference : Option String) :
    Bool :=
  existing.orderId.text = orderId && existing.declaredAmount.toDecimal = declaredAmount &&
    existing.method = method && orNone existing.transferReference = orNone transferReference

/-- The reference of a declaration: trimmed and required for a transfer, dropped for cash. -/
def normalizeTransferReference (method : PaymentMethod) (transferReference : Option String) :
    Except CommandError (Option String) :=
  match method, transferReference.map strip with
  | .transfer, reference => do
    refuseIf (orNone reference = none) (.http 400 .declarationTransferReferenceRequired
      "Transfer reference is required for transfer declarations")
    refuseIf (128 < (reference.getD "").length) (.http 400 .declarationTransferReferenceTooLong
      "Transfer reference must not exceed 128 characters")
    return reference
  | _, _ => .ok none

/-- `submit_declaration`: the record, and whether it was there before. -/
def submitDeclaration (db : Db) (newId : Uuid) (orderId : String) (retailerId wholesalerId : Uuid)
    (declaredAmount : Decimal) (method : PaymentMethod) (transferReference : Option String)
    (idempotencyKey : String) : Except CommandError (Db × PaymentDeclaration × Bool) := do
  refuseIf (declaredAmount ≤ 0) (.http 400 .invalidDeclaredAmount
    "Declared amount must be a positive finite number")
  refuseIf (method = .credit) (.http 400 .declarationMethodInvalid
    "Declaration method must be one of: cash, transfer")
  let reference ← normalizeTransferReference method transferReference
  let owned := ((Uuid.parse orderId).bind db.books.liveOrder?).filter fun o =>
    o.retailerId = retailerId && o.wholesalerId = wholesalerId
  let order ← orRefuse owned (.http 404 .orderNotFound
    s!"Order with ID '{orderId}' not found for this relationship")
  match db.getByRetailerIdempotency retailerId idempotencyKey with
  | some existing =>
    if sameDeclarationRequest existing order.id.text declaredAmount method reference then
      return (db, existing, true)
    else .error (.conflict .declarationIdempotencyKeyConflict
      "Declaration idempotency key was already used with a different request")
  | none => do
    let (db, record) ← dbError (db.createDeclaration newId order retailerId wholesalerId
      declaredAmount method reference idempotencyKey)
    return (db, record, false)

/-! ## Confirmation -/

/-- The neutral refusal of a declaration the caller may not see. -/
def declarationNotFound : CommandError :=
  .http 404 .declarationNotFound "Declaration not found"

/-- The canonical idempotency key of a declaration's confirmation. -/
def declarationKey (declarationId : Uuid) : String := declarationKeyPrefix ++ declarationId.hex

/-- `_resolve_confirmed_replay`: every element of the confirmation must match the payment it
links to. -/
def resolveConfirmedReplay (b : Books) (declaration : PaymentDeclaration) (order : Order) :
    Except CommandError CanonicalPaymentResult := do
  let refuse := CommandError.conflict .declarationConfirmationKeyConflict
  let paymentId ← orRefuse declaration.confirmationPaymentId
    (refuse "Confirmed declaration is missing its canonical payment link")
  let payment ← orRefuse (b.getPaymentById paymentId)
    (refuse "Confirmed declaration links to a missing payment")
  refuseIf (declaration.orderId ≠ order.id)
    (refuse "Confirmed declaration pointer does not match its order")
  refuseIf (order.wholesalerId ≠ declaration.wholesalerId)
    (refuse "Order ownership does not match confirmed declaration")
  refuseIf (order.retailerId ≠ declaration.retailerId)
    (refuse "Order retailer does not match confirmed declaration")
  refuseIf (payment.orderId ≠ declaration.orderId)
    (refuse "Confirmed declaration links to a payment on another order")
  refuseIf (payment.retailerId ≠ declaration.retailerId)
    (refuse "Confirmed declaration links to a payment for another retailer")
  refuseIf (payment.idempotencyKey ≠ declarationKey declaration.id)
    (refuse ("Confirmed declaration's payment does not carry this " ++
      "declaration's canonical idempotency key"))
  refuseIf (payment.amount ≠ declaration.declaredAmount)
    (refuse "Confirmed declaration amount does not match its payment")
  refuseIf (payment.method ≠ declaration.method)
    (refuse "Confirmed declaration method does not match its payment")
  refuseIf (orNone payment.transactionId ≠ orNone declaration.transferReference)
    (refuse ("Confirmed declaration transfer reference does not match " ++ "its payment"))
  refuseIf (isValidReceiptNumber payment.receiptNumber = false)
    (refuse ("Confirmed declaration links to a payment without a valid " ++ "receipt"))
  return ⟨order, payment, true⟩

/-- `_verify_binding_exists`. -/
def verifyBindingExists (b : Books) (wholesalerId retailerId : Uuid) : Except CommandError Unit :=
  refuseIf ((b.liveBinding? wholesalerId retailerId).all fun row => row.status ≠ .active)
    declarationNotFound

/-- `_verify_locked_attribution`. -/
def verifyLockedAttribution (declaration : PaymentDeclaration) (order : Order) :
    Except CommandError Unit := do
  refuseIf (declaration.orderId ≠ order.id) declarationNotFound
  refuseIf (declaration.retailerId ≠ order.retailerId) declarationNotFound

/-- The payment a confirmation requests. -/
def confirmationRequest (declaration : PaymentDeclaration) : PaymentRequest :=
  { amount := declaration.declaredAmount.toDecimal, method := declaration.method
    transactionId := orNone declaration.transferReference
    idempotencyKey := declarationKey declaration.id, forceCompleted := true
    allocateReceipt := true }

/-- The order a confirmation locks first, by way of the declaration it locates. -/
def lockOrderForDeclaration (db : Db) (declarationId wholesalerId : Uuid) :
    Except CommandError Order := do
  let located ← orRefuse (db.getByWholesalerDualKey declarationId wholesalerId)
    declarationNotFound
  orRefuse ((db.books.liveOrder? located.orderId).filter fun o => o.wholesalerId = wholesalerId)
    declarationNotFound

/-- The declaration under its lock: a replay when it is confirmed already, otherwise the pending
declaration after every check. -/
def checkDeclaration (db : Db) (declarationId wholesalerId : Uuid) (order : Order) :
    Except CommandError (PaymentDeclaration × Option CanonicalPaymentResult) := do
  let declaration ← orRefuse (db.getByWholesalerDualKey declarationId wholesalerId)
    declarationNotFound
  match declaration.status with
  | .confirmed => do
    let result ← resolveConfirmedReplay db.books declaration order
    return (declaration, some result)
  | .rejected => .error (.conflict .declarationNotPending
      "Cannot confirm a declaration that has already been rejected")
  | .pending => do
    verifyBindingExists db.books wholesalerId order.retailerId
    verifyLockedAttribution declaration order
    return (declaration, none)

/-- `confirm_declaration`. -/
def confirmDeclaration (db : Db) (ctx : InsertContext) (declarationId wholesalerId : Uuid) :
    Except CommandError (Db × CanonicalPaymentResult) := do
  let order ← lockOrderForDeclaration db declarationId wholesalerId
  let (declaration, replay) ← checkDeclaration db declarationId wholesalerId order
  match replay with
  | some result => return (db, result)
  | none => do
    let (books, result) ←
      db.books.confirmPaymentForLockedOrder ctx order (confirmationRequest declaration)
    let db ← Db.markConfirmed { db with books } declarationId wholesalerId result.paymentRecord.id
    return (db, result)

/-! ## Rejection -/

/-- `reject_declaration`. -/
def rejectDeclaration (db : Db) (declarationId wholesalerId : Uuid) : Except CommandError Db := do
  let declaration ← orRefuse (db.getByWholesalerDualKey declarationId wholesalerId)
    declarationNotFound
  refuseIf (declaration.status ≠ .pending) (.conflict .declarationNotPending
    "Cannot reject a declaration that is no longer pending")
  db.markRejected declarationId wholesalerId

/-! ## Printing a receipt -/

/-- `_binding_active`. -/
def bindingActive (b : Books) (wholesalerId retailerId : Uuid) : Bool :=
  (b.liveBinding? wholesalerId retailerId).any fun row => row.status = .active

/-- `get_order_for_wholesaler`. -/
def getOrderForWholesaler (b : Books) (orderId wholesalerId : Uuid) : Option Order :=
  (b.liveOrder? orderId).filter fun o => o.wholesalerId = wholesalerId

/-- `check_receipt_eligibility`: a receipt is printed for a confirmed declaration whose payment is
complete, its own, and carries a well-formed number. -/
def checkReceiptEligibility (db : Db) (row : Option PaymentDeclaration) (wholesalerId : Uuid) :
    Bool :=
  row.any fun row =>
    row.status = .confirmed &&
    (row.confirmationPaymentId.bind db.books.getPaymentById).any fun payment =>
      payment.status = .completed && payment.orderId = row.orderId &&
      payment.retailerId = row.retailerId &&
      payment.receiptNumber.any matchesReceiptNumberPattern &&
      bindingActive db.books wholesalerId row.retailerId &&
      (getOrderForWholesaler db.books row.orderId wholesalerId).any fun order =>
        order.retailerId = row.retailerId

end Mpango
