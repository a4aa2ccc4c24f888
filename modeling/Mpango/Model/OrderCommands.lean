import Mpango.Model.Balances
import Mpango.Model.Payments
import Mpango.Model.Inventory

/-!
# Order commands

`OrderCommandService`, the only writer of `orders.status`, and `create_order`. Confirming a draft
reserves its stock, opens its credit hold and occupies the binding cache; cancelling gives all of
it back; fulfilling consumes the reservations; returning restocks and posts the reversal. Each
command runs in the caller's transaction: when it fails, nothing it wrote survives.
-/

namespace Mpango

open Decimal

/-! ## Results -/

/-- `OrderNotificationIntent.event`. -/
inductive NotificationEvent | orderConfirmed | orderFulfilled
  deriving DecidableEq, Repr

/-- `OrderNotificationIntent`. -/
structure OrderNotificationIntent where
  event : NotificationEvent
  orderId : Uuid
  retailerId : Uuid
  deriving DecidableEq

/-- `OrderCommandResult`. -/
structure OrderCommandResult where
  order : Order
  releasedReservations : List InventoryReservation := []
  creditReserved : Option Decimal := none
  notificationIntents : List OrderNotificationIntent := []
  deriving DecidableEq

/-! ## Creating a draft -/

/-- An item of a creation request, with the price the server resolved and the bounds the request
schema and the price check guarantee. -/
structure OrderItemCreate where
  /-- The primary key the row will get. -/
  id : Uuid
  sellableUnitId : Uuid
  skuCode : String
  quantity : ℤ
  unitPrice : Money
  quantity_pos : 1 ≤ quantity
  quantity_le : quantity ≤ 10000
  price_pos : 0 < unitPrice.unscaled
  deriving DecidableEq

/-- `subtotal = Decimal(str(quantity)) * unit_price`. -/
def OrderItemCreate.subtotal (i : OrderItemCreate) : Decimal :=
  Decimal.mul (i.quantity : ℚ) i.unitPrice.toDecimal

/-- The `order_items` row of a requested item. -/
def OrderItemCreate.row (i : OrderItemCreate) : Except DatabaseError OrderItem := do
  let subtotal ← storeMoney i.subtotal
  return { id := i.id, sellableUnitId := some i.sellableUnitId, identityStatus := .stable
           skuCode := i.skuCode, quantity := i.quantity, unitPrice := i.unitPrice, subtotal }

/-- `create_order`: insert a draft with its items. -/
def createOrder (db : Db) (orderId retailerId : Uuid) (items : List OrderItemCreate) :
    Except CommandError (Db × OrderCommandResult) := do
  let totalAmount ← dbError (storeMoney
    ((items.map OrderItemCreate.subtotal).foldl Decimal.add 0))
  let rows ← dbError (items.mapM OrderItemCreate.row)
  let order : Order :=
    { id := orderId, wholesalerId := db.tenantId, retailerId, status := .draft, totalAmount
      items := rows, isDeleted := false }
  -- the primary key of `order_items`
  refuseIf (¬(items.map OrderItemCreate.id).Nodup ∨
      ∃ o ∈ db.books.orders.rows, ∃ i ∈ o.items, i.id ∈ items.map OrderItemCreate.id)
    (.database (.uniqueViolation .primaryKey))
  let orders ← orRefuse (db.books.orders.insert? order) (.database (.uniqueViolation .primaryKey))
  return ({ db with books := { db.books with orders } }, { order })

/-! ## Shared checks and the single status write -/

/-- `_load_locked`: the live order, locked and fresh. -/
def loadLocked (b : Books) (orderId : Uuid) : Except CommandError Order :=
  orRefuse (b.liveOrder? orderId) (.conflict .orderNotFound s!"Order {orderId.text} not found")

/-- `_validate_transition`. -/
def validateTransition (order : Order) (target : OrderState) : Except CommandError Unit := do
  refuseIf order.status.isTerminalState
    (.orderInvariantViolation s!"Cannot transition from terminal state {order.status.value}")
  refuseIf (order.status.isValidTransition target = false)
    (.invalidStateTransition order.status target "Transition not allowed by state machine")
  refuseIf (target = .confirmed ∧ order.totalAmount.toDecimal ≤ 0)
    (.orderInvariantViolation "Cannot confirm order with zero or negative total amount")

/-- `_validate_item_identities`. -/
def validateItemIdentities (order : Order) : Except CommandError Unit :=
  match order.items.find? fun i => i.identityStatus = .legacy && i.sellableUnitId.isSome with
  | some i => .error (.conflict .orderItemIdentityMismatch
      (s!"Order item '{i.id.text}' is legacy but carries a " ++ "sellable unit reference"))
  | none => .ok ()

/-- `_check_invariants`. -/
def checkInvariants (order : Order) (fromState toState : OrderState) :
    Except CommandError Unit := do
  refuseIf (toState = .confirmed ∧ order.totalAmount.toDecimal ≤ 0)
    (.orderInvariantViolation "Cannot confirm order with zero or negative total amount")
  refuseIf (toState = .voided ∧ (fromState = .paid ∨ fromState = .partiallyPaid))
    (.orderInvariantViolation s!"Cannot void order in {fromState.value} state.")
  refuseIf (toState = .fulfilled ∧ fromState ≠ .paid)
    (.orderInvariantViolation (s!"Cannot fulfill order in {fromState.value} state. " ++
      "Order must be PAID before fulfillment."))
  refuseIf (toState = .returned ∧ fromState ≠ .fulfilled)
    (.orderInvariantViolation (s!"Cannot return order in {fromState.value} state. " ++
      "Order must be FULFILLED before return."))

namespace Books

/-- `_assign_status`: the one status write. -/
def assignStatus (b : Books) (order : Order) (target : OrderState) : Books :=
  { b with orders := b.orders.set { order with status := target } }

/-- `_post_transition_ledger`: settling in full and returning post entries, confirming and
selling on credit post none. -/
def postTransitionLedger (b : Books) (order : Order) (toState : OrderState)
    (paymentMethod : Option PaymentMethod) : Except CommandError Books :=
  if toState = .confirmed then .ok b
  else if toState = .paid ∧ paymentMethod ≠ some .credit then
    b.postPaymentReceived order.id order.totalAmount.toDecimal
  else if toState = .returned then b.postOrderReturn order.id order.totalAmount.toDecimal
  else .ok b

/-! ## Credit holds -/

/-- The check constraints of `order_credit_holds`. -/
def checkHold (h : CreditHold) : Except DatabaseError Unit := do
  refuseIf (h.amount.unscaled ≤ 0) (.checkViolation .ckOrderCreditHoldsAmountPositive)
  refuseIf (h.amount.unscaled < h.remainingAmount.unscaled)
    (.checkViolation .ckOrderCreditHoldsRemainingCap)
  refuseIf (¬(h.status = .active ∧ 0 < h.remainingAmount.unscaled ∨
      h.status ≠ .active ∧ h.remainingAmount.unscaled = 0))
    (.checkViolation .ckOrderCreditHoldsLifecycleShape)

/-- Insert a hold. -/
def insertHold (b : Books) (h : CreditHold) : Except DatabaseError Books := do
  checkHold h
  let creditHolds ← orRefuse (b.creditHolds.insert? h) (.uniqueViolation .orderCreditHoldsOrderId)
  return { b with creditHolds }

/-- Flush a changed hold. -/
def updateHold (b : Books) (h : CreditHold) : Except DatabaseError Books := do
  checkHold h
  return { b with creditHolds := b.creditHolds.set h }

/-- `_open_credit_hold`: one active hold over the total, and the total on the binding cache. -/
def openCreditHold (b : Books) (order : Order) : Except CommandError (Books × Decimal) := do
  let delta := order.totalAmount.toDecimal
  refuseIf (delta ≤ 0)
    (.orderInvariantViolation "Cannot open a credit hold for a zero or negative total")
  refuseIf (b.creditHolds.find? order.id).isSome (.conflict .creditHoldMismatch
    s!"Order {order.id.text} already carries a credit-hold lifecycle row")
  let b ← dbError (b.insertHold
    { orderId := order.id, amount := order.totalAmount, remainingAmount := order.totalAmount
      status := .active })
  match ← dbError (b.updateOutstandingBalance order.wholesalerId order.retailerId delta true) with
  | some b => return (b, delta)
  | none => .error (.conflict .bindingNotFound
      ("Order cannot be confirmed: the retailer binding is missing " ++ "or inactive"))

/-- The statuses and remaining amounts of the hold rows, for a message. -/
def holdShapes (hold : Option CreditHold) : String :=
  match hold with
  | some h => s!"[('{h.status.value}', '{h.remainingAmount.toDecimal.text}')]"
  | none => "none"

/-- `_settle_cancel_hold`: a draft has no hold; a confirmed order's full active hold is released
and its amount taken off the binding cache. -/
def settleCancelHold (b : Books) (order : Order) : Except CommandError (Books × Decimal) := do
  let holds := b.creditHolds.find? order.id
  if order.status = .draft then
    match holds with
    | some h => .error (.conflict .creditHoldMismatch
        ("DRAFT order carries a credit-hold lifecycle row: " ++ s!"['{h.status.value}']"))
    | none => return (b, 0)
  else
    let total := order.totalAmount.toDecimal
    let hold ← orRefuse (holds.filter fun h => h.status = .active) (.conflict .creditHoldMismatch
      ("CONFIRMED cancel requires exactly one active credit hold, " ++
        s!"found {holdShapes holds}"))
    refuseIf (hold.amount.toDecimal ≠ total ∨ hold.remainingAmount.toDecimal ≠ total)
      (.conflict .creditHoldMismatch
        ("Credit hold snapshot mismatch for cancel: " ++
          s!"amount={hold.amount.toDecimal.text} " ++
          s!"remaining={hold.remainingAmount.toDecimal.text} " ++ s!"order.total={total.text}"))
    let b ← dbError (b.updateHold { hold with status := .released, remainingAmount := .zero })
    match ← dbError
        (b.updateOutstandingBalance order.wholesalerId order.retailerId (-total) false) with
    | some b => return (b, total)
    | none => .error (.conflict .bindingNotFound
        ("Cannot release the credit hold: the retailer binding is " ++
          "missing, inactive, or the cache would underflow"))

/-! ## Payment transitions -/

/-- `_apply_payment_transition_for_locked`: the only writer of `PAID` and `PARTIALLY_PAID`. -/
def applyPaymentTransitionForLocked (b : Books) (order : Order) (target : OrderState)
    (paymentMethod : PaymentMethod) : Except CommandError (Books × Order) := do
  let current := order.status
  let isAdditionalPartialPayment := current = .partiallyPaid ∧ target = .partiallyPaid ∧
    (paymentMethod = .cash ∨ paymentMethod = .transfer)
  let allowed := current = .confirmed ∧ (target = .paid ∨ target = .partiallyPaid) ∨
    current = .partiallyPaid ∧ target = .paid ∨ isAdditionalPartialPayment
  refuseIf (¬allowed) (.invalidStateTransition current target "Invalid payment transition")
  let b ← b.postTransitionLedger order target (some paymentMethod)
  return (b.assignStatus order target, { order with status := target })

end Books

/-! ## The commands -/

/-- The sort key of `confirm_order`. -/
def confirmSortKey (i : OrderItem) : String := optionalIdText i.sellableUnitId

/-- The sort key of `fulfill_order` and `return_order`. -/
def fulfillSortKey (i : OrderItem) : String := (i.sellableUnitId.getD i.id).text

/-- `confirm_order`. -/
def confirmOrder (db : Db) (orderId : Uuid) (updatedBy : Option Uuid) :
    Except CommandError (Db × OrderCommandResult) := do
  let order ← loadLocked db.books orderId
  refuseIf (updatedBy = none) (.conflict .confirmActorRequired
    ("Confirming an order requires an acting user " ++
      "(updated_by); synthetic no-actor holds are reserved for " ++ "the 039 migration backfill"))
  validateTransition order .confirmed
  validateItemIdentities order
  let items ← requireSellable (sortItems confirmSortKey order.items) fun i =>
    .conflict .orderItemSellableIdRequired
      s!"Order item '{i.id.text}' requires explicit legacy mapping"
  db.warehouse.prelockStocks items true
  let warehouse ← db.warehouse.reserveInventory order.id items
  let (books, creditReserved) ← (db.books.assignStatus order .confirmed).openCreditHold order
  return ({ db with books, warehouse },
    { order := { order with status := .confirmed }, creditReserved := some creditReserved
      notificationIntents := [⟨.orderConfirmed, order.id, order.retailerId⟩] })

/-- `cancel_order`. -/
def cancelOrder (db : Db) (orderId : Uuid) : Except CommandError (Db × OrderCommandResult) := do
  let order ← loadLocked db.books orderId
  validateTransition order .cancelled
  refuseIf (order.status = .paid ∨ order.status = .partiallyPaid)
    (.conflict .refundWorkflowNotImplemented
      ("Cancellation of paid or partially paid orders is not " ++
        "available because the refund/funds disposition workflow " ++ "is not implemented"))
  db.warehouse.prelockReservationStocks order.id
  let warehouse ← db.warehouse.releaseReservations order.id
  let (books, creditReleased) ← db.books.settleCancelHold order
  return ({ db with books := books.assignStatus order .cancelled, warehouse },
    { order := { order with status := .cancelled }
      releasedReservations := (db.warehouse.ownedReservations order.id).map fun r =>
        { r with status := .released }
      creditReserved := some creditReleased })

/-- `apply_transition`: everything but the targets a command owns. -/
def applyTransition (db : Db) (orderId : Uuid) (target : OrderState)
    (paymentMethod : Option PaymentMethod) : Except CommandError (Db × OrderCommandResult) := do
  refuseIf (target ∈ OrderState.commandOwnedTargets) (.invalidStateTransition target target
    ("Generic transition refuses command-owned targets; use " ++
      "confirm_order/cancel_order/fulfill_order/return_order " ++
      "or the canonical payment service"))
  let order ← loadLocked db.books orderId
  let isAdditionalPartialPayment := order.status = .partiallyPaid ∧ target = .partiallyPaid ∧
    (paymentMethod = some .cash ∨ paymentMethod = some .transfer)
  refuseIf (order.status.isValidTransition target = false ∧ ¬isAdditionalPartialPayment)
    (.invalidStateTransition order.status target "Transition not allowed by state machine")
  checkInvariants order order.status target
  let books ← db.books.postTransitionLedger order target paymentMethod
  return ({ db with books := books.assignStatus order target },
    { order := { order with status := target }
      notificationIntents :=
        if target = .confirmed then [⟨.orderConfirmed, order.id, order.retailerId⟩]
        else if target = .fulfilled then [⟨.orderFulfilled, order.id, order.retailerId⟩]
        else [] })

/-- `fulfill_order`. -/
def fulfillOrder (db : Db) (orderId : Uuid) : Except CommandError (Db × OrderCommandResult) := do
  let order ← loadLocked db.books orderId
  validateTransition order .fulfilled
  checkInvariants order order.status .fulfilled
  let items ← requireSellable (sortItems fulfillSortKey order.items) fun i =>
    .conflict .orderItemSellableIdRequired
      (s!"Order item '{i.id.text}' requires explicit legacy " ++ "mapping before fulfillment")
  db.warehouse.prelockStocks items false
  let warehouse ← items.foldlM (Warehouse.deductOnFulfillment order.id) db.warehouse
  return ({ db with books := db.books.assignStatus order .fulfilled, warehouse },
    { order := { order with status := .fulfilled }
      notificationIntents := [⟨.orderFulfilled, order.id, order.retailerId⟩] })

/-- `return_order`. -/
def returnOrder (db : Db) (orderId : Uuid) : Except CommandError (Db × OrderCommandResult) := do
  let order ← loadLocked db.books orderId
  validateTransition order .returned
  checkInvariants order order.status .returned
  let items ← requireSellable (sortItems fulfillSortKey order.items) fun i =>
    .conflict .orderItemSellableIdRequired
      (s!"Order item '{i.id.text}' requires explicit legacy " ++ "mapping before return restock")
  let books ← db.books.postTransitionLedger order .returned none
  db.warehouse.prelockStocks items false
  let warehouse ← items.foldlM (Warehouse.restockOnReturn order.id) db.warehouse
  return ({ db with books := books.assignStatus order .returned, warehouse },
    { order := { order with status := .returned } })

end Mpango
