import Mpango.Library.Command
import Mpango.Library.Text
import Mpango.Model.OrderState

/-!
# Refusals

Every way a command can fail. `http` is an `HTTPException` with its status, code and message;
`paymentMutation` is the same exception wrapped as `CanonicalPaymentMutationHttpError`, which the
route answers after a rollback; `database` is what PostgreSQL raises from a statement. All of
them abort the caller's transaction.
-/

namespace Mpango

/-- The `code` of a refusal. -/
inductive ErrorCode
  | confirmActorRequired | orderItemSellableIdRequired | refundWorkflowNotImplemented
  | creditHoldMismatch | bindingNotFound | orderNotFound | orderItemIdentityMismatch
  | insufficientAvailableStock | reservationAggregateMismatch | reservationQuantityMismatch
  | reservationSellableIdMismatch | insufficientStock | sellableUnitUnavailable
  | invalidRestockQuantity | skuNotFound | negativeStock
  | invalidPaymentAmount | idempotencyKeyConflict | duplicateTransferReference
  | declarationConfirmationKeyConflict | orderAlreadyPaid | paymentExceedsRemaining
  | invalidStateTransition | duplicateCreditPayment | creditSplitTenderUnsupported
  | creditAmountMismatch | paymentHistoryIntegrity | receivableBalanceUnderflow
  | retailerNotBound
  | invalidDeclaredAmount | declarationMethodInvalid | declarationTransferReferenceRequired
  | declarationTransferReferenceTooLong | declarationIdempotencyKeyConflict
  | declarationNotFound | declarationNotPending
  | missingIdempotencyKey | invalidIdempotencyKey | reservedIdempotencyKey
  deriving DecidableEq, Repr

/-- The spelling of a code in a response. -/
def ErrorCode.text : ErrorCode → String
  | confirmActorRequired => "CONFIRM_ACTOR_REQUIRED"
  | orderItemSellableIdRequired => "ORDER_ITEM_SELLABLE_ID_REQUIRED"
  | refundWorkflowNotImplemented => "REFUND_WORKFLOW_NOT_IMPLEMENTED"
  | creditHoldMismatch => "CREDIT_HOLD_MISMATCH"
  | bindingNotFound => "BINDING_NOT_FOUND"
  | orderNotFound => "ORDER_NOT_FOUND"
  | orderItemIdentityMismatch => "ORDER_ITEM_IDENTITY_MISMATCH"
  | insufficientAvailableStock => "INSUFFICIENT_AVAILABLE_STOCK"
  | reservationAggregateMismatch => "RESERVATION_AGGREGATE_MISMATCH"
  | reservationQuantityMismatch => "RESERVATION_QUANTITY_MISMATCH"
  | reservationSellableIdMismatch => "RESERVATION_SELLABLE_ID_MISMATCH"
  | insufficientStock => "INSUFFICIENT_STOCK"
  | sellableUnitUnavailable => "SELLABLE_UNIT_UNAVAILABLE"
  | invalidRestockQuantity => "INVALID_RESTOCK_QUANTITY"
  | skuNotFound => "SKU_NOT_FOUND"
  | negativeStock => "NEGATIVE_STOCK"
  | invalidPaymentAmount => "INVALID_PAYMENT_AMOUNT"
  | idempotencyKeyConflict => "IDEMPOTENCY_KEY_CONFLICT"
  | duplicateTransferReference => "DUPLICATE_TRANSFER_REFERENCE"
  | declarationConfirmationKeyConflict => "DECLARATION_CONFIRMATION_KEY_CONFLICT"
  | orderAlreadyPaid => "ORDER_ALREADY_PAID"
  | paymentExceedsRemaining => "PAYMENT_EXCEEDS_REMAINING"
  | invalidStateTransition => "INVALID_STATE_TRANSITION"
  | duplicateCreditPayment => "DUPLICATE_CREDIT_PAYMENT"
  | creditSplitTenderUnsupported => "CREDIT_SPLIT_TENDER_UNSUPPORTED"
  | creditAmountMismatch => "CREDIT_AMOUNT_MISMATCH"
  | paymentHistoryIntegrity => "PAYMENT_HISTORY_INTEGRITY"
  | receivableBalanceUnderflow => "RECEIVABLE_BALANCE_UNDERFLOW"
  | retailerNotBound => "BINDINGNOTFOUND"
  | invalidDeclaredAmount => "INVALID_DECLARED_AMOUNT"
  | declarationMethodInvalid => "DECLARATION_METHOD_INVALID"
  | declarationTransferReferenceRequired => "DECLARATION_TRANSFER_REFERENCE_REQUIRED"
  | declarationTransferReferenceTooLong => "DECLARATION_TRANSFER_REFERENCE_TOO_LONG"
  | declarationIdempotencyKeyConflict => "DECLARATION_IDEMPOTENCY_KEY_CONFLICT"
  | declarationNotFound => "DECLARATION_NOT_FOUND"
  | declarationNotPending => "DECLARATION_NOT_PENDING"
  | missingIdempotencyKey => "MISSING_IDEMPOTENCY_KEY"
  | invalidIdempotencyKey => "INVALID_IDEMPOTENCY_KEY"
  | reservedIdempotencyKey => "RESERVED_IDEMPOTENCY_KEY"

/-- The unique objects of the tenant schema a modelled statement can violate. -/
inductive UniqueObject
  | primaryKey | paymentsIdempotencyKey | uqPaymentsTransactionId | uxPaymentsReceiptNumber
  | orderCreditHoldsOrderId | uxInventoryReservationsActiveOrderItem | uxInventoryStocksSkuId
  | uxPaymentDeclarationsRetailerIdem
  deriving DecidableEq, Repr

/-- The check constraints a modelled statement can violate. -/
inductive CheckConstraint
  | ckOrderCreditHoldsAmountPositive | ckOrderCreditHoldsRemainingCap
  | ckOrderCreditHoldsLifecycleShape | ckWrbOutstandingBalanceNonNegative
  | ckInventoryReservationsQuantityPositive | ckPaymentDeclarationsAmountPositive
  deriving DecidableEq, Repr

/-- What the database raises. The first two are integrity errors, the others data errors. -/
inductive DatabaseError
  | uniqueViolation (object : UniqueObject)
  | checkViolation (constraint : CheckConstraint)
  | numericFieldOverflow
  | stringDataRightTruncation
  | integerOutOfRange
  deriving DecidableEq, Repr

/-- The failure of a command. -/
inductive CommandError
  | http (status : ℕ) (code : ErrorCode) (message : String)
  | paymentMutation (status : ℕ) (code : ErrorCode) (message : String)
  | invalidStateTransition (fromState toState : OrderState) (reason : String)
  | orderInvariantViolation (message : String)
  | ledgerIntegrity (message : String)
  | database (error : DatabaseError)
  | keyError
  | runtimeError (message : String)
  deriving DecidableEq, Repr

namespace CommandError

/-- The code the caller sees, for the failures that carry one. -/
def code? : CommandError → Option ErrorCode
  | http _ code _ => some code
  | paymentMutation _ code _ => some code
  | _ => none

/-- `_conflict`: a refusal with status 409. -/
abbrev conflict (code : ErrorCode) (message : String) : CommandError := http 409 code message

/-- `except HTTPException as exc: raise CanonicalPaymentMutationHttpError(exc)`. -/
def asMutation : CommandError → CommandError
  | http status code message => paymentMutation status code message
  | e => e

@[simp] theorem code?_asMutation (e : CommandError) : e.asMutation.code? = e.code? := by
  cases e <;> rfl

/-- `str()` of an `InvalidStateTransitionError`. -/
def invalidStateTransitionMessage (fromState toState : OrderState) (reason : String) : String :=
  s!"Invalid state transition: {fromState.value} → {toState.value}. Reason: {reason}"

end CommandError

/-- A statement's failure is the command's failure. -/
def dbError {α : Type} (x : Except DatabaseError α) : Except CommandError α :=
  x.mapError .database

@[simp] theorem dbError_eq_ok {α : Type} {x : Except DatabaseError α} {a : α} :
    dbError x = .ok a ↔ x = .ok a := mapError_eq_ok

@[simp] theorem dbError_eq_error {α : Type} {x : Except DatabaseError α} {e : CommandError} :
    dbError x = .error e ↔ ∃ d, x = .error d ∧ CommandError.database d = e := mapError_eq_error

end Mpango
