import Mpango.Model.Declarations

/-!
# The system

The commands a tenant can receive, each executed as one transaction on the tenant's database.
Values the environment supplies (generated keys, today's date, the acting user) are arguments of
the command. A run starts from a tenant that has a catalogue, stock and bindings but no orders.
-/

namespace Mpango

/-- One request. -/
inductive Command
  | createOrder (orderId retailerId : Uuid) (items : List OrderItemCreate)
  | confirmOrder (orderId : Uuid) (updatedBy : Option Uuid)
  | cancelOrder (orderId : Uuid)
  | applyTransition (orderId : Uuid) (target : OrderState) (paymentMethod : Option PaymentMethod)
  | confirmPayment (ctx : InsertContext) (orderId : String) (request : PaymentRequest)
  | submitDeclaration (newId : Uuid) (orderId : String) (retailerId wholesalerId : Uuid)
      (declaredAmount : Decimal) (method : PaymentMethod) (transferReference : Option String)
      (idempotencyKey : String)
  | confirmDeclaration (ctx : InsertContext) (declarationId wholesalerId : Uuid)
  | rejectDeclaration (declarationId wholesalerId : Uuid)
  | fulfillOrder (orderId : Uuid)
  | returnOrder (orderId : Uuid)
  | adjustStock (skuCode : String) (quantity : Decimal)

/-- What an accepted request answers with. -/
inductive Outcome
  | order (result : OrderCommandResult)
  | payment (result : CanonicalPaymentResult)
  | declaration (record : PaymentDeclaration) (replayed : Bool)
  | done
  deriving DecidableEq

/-- Execute one request. -/
def execute (db : Db) : Command → Except CommandError (Db × Outcome)
  | .createOrder orderId retailerId items => do
    let (db, result) ← createOrder db orderId retailerId items
    return (db, .order result)
  | .confirmOrder orderId updatedBy => do
    let (db, result) ← confirmOrder db orderId updatedBy
    return (db, .order result)
  | .cancelOrder orderId => do
    let (db, result) ← cancelOrder db orderId
    return (db, .order result)
  | .applyTransition orderId target paymentMethod => do
    let (db, result) ← applyTransition db orderId target paymentMethod
    return (db, .order result)
  | .confirmPayment ctx orderId request => do
    let (books, result) ← db.books.confirmPayment ctx orderId request
    return ({ db with books }, .payment result)
  | .submitDeclaration newId orderId retailerId wholesalerId amount method reference key => do
    let (db, record, replayed) ← submitDeclaration db newId orderId retailerId wholesalerId
      amount method reference key
    return (db, .declaration record replayed)
  | .confirmDeclaration ctx declarationId wholesalerId => do
    let (db, result) ← confirmDeclaration db ctx declarationId wholesalerId
    return (db, .payment result)
  | .rejectDeclaration declarationId wholesalerId => do
    let db ← rejectDeclaration db declarationId wholesalerId
    return (db, .done)
  | .fulfillOrder orderId => do
    let (db, result) ← fulfillOrder db orderId
    return (db, .order result)
  | .returnOrder orderId => do
    let (db, result) ← returnOrder db orderId
    return (db, .order result)
  | .adjustStock skuCode quantity => do
    let warehouse ← db.warehouse.adjustStock skuCode quantity
    return ({ db with warehouse }, .done)

/-- A tenant before its first order: no orders and nothing that refers to one, nothing reserved,
and the stored quantities and balances within their bounds. -/
structure Db.Fresh (db : Db) : Prop where
  orders : db.books.orders = Table.empty
  creditHolds : db.books.creditHolds = Table.empty
  payments : db.books.payments = Table.empty
  ledgerEntries : db.books.ledgerEntries = []
  reservations : db.warehouse.reservations = []
  movements : db.warehouse.movements = []
  declarations : db.declarations = Table.empty
  quantityOnHand : ∀ s ∈ db.warehouse.stocks, 0 ≤ s.quantityOnHand.unscaled
  quantityReserved : ∀ s ∈ db.warehouse.stocks, s.quantityReserved.unscaled = 0
  outstandingBalance : ∀ r ∈ db.books.bindings, 0 ≤ r.outstandingBalance.unscaled

/-- A payment request for a whole number of cents. Declared amounts are stored before they are
confirmed, so confirmations are always of this kind. -/
def PaymentRequest.WholeCent (req : PaymentRequest) : Prop :=
  ∃ z : ℤ, req.amount = Decimal.scaled 2 z

/-- A command whose own payment request, if it carries one, is admitted by a predicate. -/
def Command.Admits (admitted : PaymentRequest → Prop) : Command → Prop
  | .confirmPayment _ _ request => admitted request
  | _ => True

/-- A command in whole cents. -/
def Command.WholeCent : Command → Prop := Command.Admits PaymentRequest.WholeCent

theorem confirmationRequest_wholeCent (d : PaymentDeclaration) :
    (confirmationRequest d).WholeCent := ⟨d.declaredAmount.unscaled, rfl⟩

/-! ## A sample tenant -/

/-- A stored amount from its cents, zero when it does not fit. -/
def Money.ofCents (z : ℤ) : Money :=
  if h : z.natAbs < 10 ^ 12 then ⟨z, h⟩ else .zero

/-- A table from its rows; a row with a used key is dropped. -/
def Table.ofRows {ρ κ : Type} [Keyed ρ κ] [DecidableEq κ] (rows : List ρ) : Table ρ :=
  rows.foldl (fun t r => (t.insert? r).getD t) Table.empty

/-- A tenant with one product of which `onHand` cents of a unit are in stock, and one retailer,
bound and owing nothing. -/
def sampleTenant (onHand : ℤ) : Db where
  tenantId := 1
  books :=
    { orders := .empty, creditHolds := .empty, payments := .empty, ledgerEntries := []
      bindings := .ofRows [⟨1, 2, .active, .zero, false⟩], receiptSequences := .empty }
  warehouse :=
    { skus := .ofRows [⟨7, "RICE-1KG", 8, true, false⟩]
      catalogProducts := .ofRows [⟨8, true, false⟩]
      stocks := .ofRows [⟨7, .ofCents onHand, .zero, false⟩], reservations := [], movements := [] }
  declarations := .empty

theorem sampleTenant_fresh {onHand : ℤ} (h : 0 ≤ onHand) : (sampleTenant onHand).Fresh where
  orders := rfl
  creditHolds := rfl
  payments := rfl
  ledgerEntries := rfl
  reservations := rfl
  movements := rfl
  declarations := rfl
  quantityOnHand s hs := by
    rw [List.mem_singleton.mp hs]
    show 0 ≤ (Money.ofCents onHand).unscaled
    unfold Money.ofCents
    split
    · exact h
    · exact le_rfl
  quantityReserved s hs := by rw [List.mem_singleton.mp hs]; rfl
  outstandingBalance s hs := by rw [List.mem_singleton.mp hs]; rfl

/-- The day a sample payment is recorded on. -/
def sampleDay : BusinessDate := ⟨"20260105", by decide +kernel⟩

/-- An item of `quantity` units of the sample product at 5.00 each, between 1 and 10000. -/
def sampleItem (id : Uuid) (quantity : ℤ) : OrderItemCreate :=
  { id, sellableUnitId := 7, skuCode := "RICE-1KG", quantity := max 1 (min 10000 quantity)
    unitPrice := .ofCents 500, quantity_pos := by omega, quantity_le := by omega
    price_pos := by decide }

/-- A payment request without a receipt. -/
def samplePayment (amount : Decimal) (method : PaymentMethod) (reference : Option String)
    (key : String) : PaymentRequest :=
  { amount, method, transactionId := reference, idempotencyKey := key }

end Mpango
