import Mpango.Model.Declarations

/-!
# The endpoint that declares a payment

`declare_payment` of the client API. `submit_declaration` looks for the declaration a key already
has, and inserts one when there is none. Between the two another submission with the key may be
committed. Then the insert fails on the unique index of retailer and key, and the endpoint, not the
service, compares the row that won with the request.
-/

namespace Mpango

open Decimal

/-- What `_validate_declaration_idempotency_key` lets through. -/
def isDeclarationKey (key : String) : Bool :=
  8 ≤ key.length && key.length ≤ 64 && key.toList.all idempotencyKeyAllowedChars.contains &&
    !declarationKeyPrefix.toList.isPrefixOf key.toList

/-- The body of a request with what the endpoint knows of its sender, and its key. -/
structure DeclarationSubmission where
  newId : Uuid
  orderId : String
  retailerId : Uuid
  wholesalerId : Uuid
  declaredAmount : Decimal
  method : PaymentMethod
  transferReference : Option String
  idempotencyKey : String
  key_valid : isDeclarationKey idempotencyKey = true

/-- What a submission has found before it writes. -/
inductive Prepared
  | existing (declaration : PaymentDeclaration)
  | absent (order : Order) (reference : Option String)

namespace DeclarationSubmission

variable (s : DeclarationSubmission)

/-- `submit_declaration` up to its insert. -/
def prepare (db : Db) : Except CommandError Prepared := do
  refuseIf (s.declaredAmount ≤ 0) (.http 400 .invalidDeclaredAmount
    "Declared amount must be a positive finite number")
  refuseIf (s.method = .credit) (.http 400 .declarationMethodInvalid
    "Declaration method must be one of: cash, transfer")
  let reference ← normalizeTransferReference s.method s.transferReference
  let owned := ((Uuid.parse s.orderId).bind db.books.liveOrder?).filter fun o =>
    o.retailerId = s.retailerId && o.wholesalerId = s.wholesalerId
  let order ← orRefuse owned (.http 404 .orderNotFound
    s!"Order with ID '{s.orderId}' not found for this relationship")
  match db.getByRetailerIdempotency s.retailerId s.idempotencyKey with
  | some existing =>
    if sameDeclarationRequest existing order.id.text s.declaredAmount s.method reference then
      return .existing existing
    else .error (.conflict .declarationIdempotencyKeyConflict
      "Declaration idempotency key was already used with a different request")
  | none => return .absent order reference

/-- The insert of `submit_declaration`. -/
def insert (db : Db) (order : Order) (reference : Option String) :
    Except DatabaseError (Db × PaymentDeclaration) :=
  db.createDeclaration s.newId order s.retailerId s.wholesalerId s.declaredAmount s.method reference
    s.idempotencyKey

/-- Whether the row of the key is this request, as the endpoint compares them. -/
def sameAsRequest (existing : PaymentDeclaration) : Bool :=
  existing.orderId.text = s.orderId && existing.declaredAmount.toDecimal = s.declaredAmount &&
    existing.method = s.method &&
    orNone existing.transferReference = orNone ((orNone s.transferReference).map strip)

/-- What the endpoint makes of an insert that failed: a replay, a conflict, or the failure. -/
def classify (db : Db) (error : DatabaseError) : Except CommandError PaymentDeclaration :=
  if error ≠ .uniqueViolation .uxPaymentDeclarationsRetailerIdem then .error (.database error)
  else match db.getByRetailerIdempotency s.retailerId s.idempotencyKey with
    | none => .error (.database error)
    | some existing =>
      if s.sameAsRequest existing then .ok existing
      else .error (.conflict .declarationIdempotencyKeyConflict
        "Declaration idempotency key was already used with a different request")

end DeclarationSubmission

/-- `ClientDeclarationView`: a declaration with what is joined to it. -/
structure DeclarationView where
  declaration : PaymentDeclaration
  receiptNumber : Option String
  orderStatus : Option OrderState

/-- `get_detail_by_retailer`. -/
def Db.getDetailByRetailer (db : Db) (declarationId retailerId wholesalerId : Uuid) :
    Option DeclarationView :=
  ((db.declarations.find? declarationId).filter fun d =>
    d.retailerId = retailerId && d.wholesalerId = wholesalerId).map fun d =>
      { declaration := d
        receiptNumber := (d.confirmationPaymentId.bind db.books.payments.find?).bind
          (·.receiptNumber)
        orderStatus := (db.books.orders.find? d.orderId).map (·.status) }

namespace DeclarationSubmission

variable (s : DeclarationSubmission)

/-- The response to a declaration: the status and the view. -/
def respond (db : Db) (status : ℕ) (record : PaymentDeclaration) : ℕ × DeclarationView :=
  (status, (db.getDetailByRetailer record.id s.retailerId s.wholesalerId).getD ⟨record, none, none⟩)

/-- `declare_payment`, whose lookups see `db` and whose insert, and what follows it, finds `db'`. -/
def declare (db db' : Db) : Except CommandError (ℕ × DeclarationView) := do
  match ← s.prepare db with
  | .existing existing => return s.respond db' 200 existing
  | .absent order reference =>
    match s.insert db' order reference with
    | .ok (inserted, record) => return s.respond inserted 201 record
    | .error error => do
      let existing ← s.classify db' error
      return s.respond db' 200 existing

end DeclarationSubmission

end Mpango
