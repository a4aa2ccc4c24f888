import Mpango.Model.Tables

/-!
# Reading and writing payments

`PaymentRepository` and the shared payment-history contract: the queries the payment path runs,
the insert with its unique constraints, the receipt allocator, and the refusal of an order whose
live payments are not a valid history.
-/

namespace Mpango

open Decimal

/-! ## Queries -/

namespace Books

/-- `SELECT … FROM orders WHERE id = … AND is_deleted = false`. -/
def liveOrder? (b : Books) (orderId : Uuid) : Option Order :=
  (b.orders.find? orderId).filter fun o => !o.isDeleted

/-- `get_by_idempotency_key`, with or without the receipt column. -/
def getByIdempotencyKey (b : Books) (idempotencyKey : String) : Option Payment :=
  (b.payments.select fun p => p.idempotencyKey = idempotencyKey && !p.isDeleted).head?

/-- `get_by_transaction_id`. -/
def getByTransactionId (b : Books) (transactionId : String) : Option Payment :=
  (b.payments.select fun p => p.transactionId = some transactionId && !p.isDeleted).head?

/-- `get_by_id`, with or without the receipt column. -/
def getPaymentById (b : Books) (paymentId : Uuid) : Option Payment :=
  (b.payments.find? paymentId).filter fun p => !p.isDeleted

/-- The live payments of an order by certain methods. -/
def orderPayments (b : Books) (orderId : Uuid) (methods : List PaymentMethod) : List Payment :=
  b.payments.select fun p => p.orderId = orderId && !p.isDeleted && methods.contains p.method

/-- `count_order_payments`. -/
def countOrderPayments (b : Books) (orderId : Uuid) (method : PaymentMethod) : ℕ :=
  (b.orderPayments orderId [method]).length

/-- `get_order_method_total`: the sum is computed by the database, exactly. -/
def getOrderMethodTotal (b : Books) (orderId : Uuid) (methods : List PaymentMethod) : Decimal :=
  ((b.orderPayments orderId methods).map fun p => p.amount.toDecimal).sum

/-- `get_order_paid_total`: cash and transfer only; credit is not settlement. -/
def getOrderPaidTotal (b : Books) (orderId : Uuid) : Decimal :=
  b.getOrderMethodTotal orderId [.cash, .transfer]

/-- A method total in cents. -/
def methodCents (b : Books) (orderId : Uuid) (methods : List PaymentMethod) : ℤ :=
  ((b.orderPayments orderId methods).map fun p => p.amount.unscaled).sum

theorem getOrderMethodTotal_eq (b : Books) (orderId : Uuid) (methods : List PaymentMethod) :
    b.getOrderMethodTotal orderId methods = scaled 2 (b.methodCents orderId methods) :=
  sum_map_scaled 2 (fun p : Payment => p.amount.unscaled) _

theorem liveOrder?_eq_some {b : Books} {orderId : Uuid} {o : Order} :
    b.liveOrder? orderId = some o ↔ o ∈ b.orders ∧ o.id = orderId ∧ o.isDeleted = false := by
  unfold liveOrder?
  rw [Option.filter_eq_some_iff, Table.find?_eq_some]
  simp [and_assoc]

/-- A row found under a key carries the key and is live. -/
theorem getByIdempotencyKey_some {b : Books} {k : String} {p : Payment}
    (h : b.getByIdempotencyKey k = some p) :
    p ∈ b.payments ∧ p.idempotencyKey = k ∧ p.isDeleted = false := by
  have hmem := Table.mem_select.mp (List.mem_of_head? h)
  simpa using hmem

theorem getByIdempotencyKey_eq_none {b : Books} {k : String} :
    b.getByIdempotencyKey k = none ↔
      ∀ p ∈ b.payments, p.idempotencyKey = k → p.isDeleted = true := by
  unfold getByIdempotencyKey
  rw [List.head?_eq_none_iff, List.eq_nil_iff_forall_not_mem]
  simp

theorem getByTransactionId_eq_none {b : Books} {t : String} :
    b.getByTransactionId t = none ↔
      ∀ p ∈ b.payments, p.transactionId = some t → p.isDeleted = true := by
  unfold getByTransactionId
  rw [List.head?_eq_none_iff, List.eq_nil_iff_forall_not_mem]
  simp

end Books

/-! ## The insert -/

/-- The columns of a payment the caller supplies. -/
structure PaymentValues where
  orderId : Uuid
  retailerId : Uuid
  transactionId : Option String
  idempotencyKey : String
  amount : Decimal
  method : PaymentMethod
  status : PaymentStatus
  receiptNumber : Option String

/-- The transaction reference a `VARCHAR(128)` keeps; the column is nullable. -/
def storeTransactionId : Option String → Except DatabaseError (Option String)
  | none => .ok none
  | some t => do
    let stored ← orRefuse (varchar 128 t) .stringDataRightTruncation
    return some stored

/-- The row as the columns keep it: `amount NUMERIC(12,2)`, `transaction_id VARCHAR(128)`,
`idempotency_key VARCHAR(64)`. -/
def paymentRow (newId : Uuid) (v : PaymentValues) : Except DatabaseError Payment := do
  let transactionId ← storeTransactionId v.transactionId
  let idempotencyKey ← orRefuse (varchar 64 v.idempotencyKey) .stringDataRightTruncation
  let amount ← storeMoney v.amount
  return { id := newId, orderId := v.orderId, retailerId := v.retailerId, transactionId
           idempotencyKey, amount, method := v.method, status := v.status
           receiptNumber := v.receiptNumber, isDeleted := false }

namespace Books

/-- The unique object of `payments` a new row would violate first. -/
def paymentUniqueViolation? (b : Books) (row : Payment) : Option UniqueObject :=
  if (b.payments.find? row.id).isSome then some .primaryKey
  else if b.payments.rows.any fun p => p.idempotencyKey = row.idempotencyKey then
    some .paymentsIdempotencyKey
  else if row.transactionId.isSome ∧ b.payments.rows.any fun p =>
      p.transactionId = row.transactionId then some .uqPaymentsTransactionId
  else if row.receiptNumber.isSome ∧ b.payments.rows.any fun p =>
      p.receiptNumber = row.receiptNumber then some .uxPaymentsReceiptNumber
  else none

/-- `create`: insert one payment. -/
def createPayment (b : Books) (newId : Uuid) (v : PaymentValues) :
    Except DatabaseError (Books × Payment) := do
  let row ← paymentRow newId v
  match b.paymentUniqueViolation? row with
  | some object => .error (.uniqueViolation object)
  | none =>
    let payments ← orRefuse (b.payments.insert? row) (.uniqueViolation .primaryKey)
    return ({ b with payments }, row)

/-- `update_cash_transfer_to_completed`: settle the pending cash and transfer payments. -/
def updateCashTransferToCompleted (b : Books) (orderId : Uuid) : Books :=
  { b with
    payments := b.payments.updateWhere
      (fun p => p.orderId = orderId && !p.isDeleted &&
        [PaymentMethod.cash, .transfer].contains p.method && p.status = .pending)
      (fun p => { p with status := .completed }) fun _ => rfl }

/-- The row an insert stores: three columns may change or refuse the value they are given. -/
theorem paymentRow_eq_ok {newId : Uuid} {v : PaymentValues} {row : Payment} :
    paymentRow newId v = .ok row ↔ ∃ transactionId idempotencyKey amount,
      storeTransactionId v.transactionId = .ok transactionId ∧
      varchar 64 v.idempotencyKey = some idempotencyKey ∧ storeMoney v.amount = .ok amount ∧
      row = { id := newId, orderId := v.orderId, retailerId := v.retailerId, transactionId
              idempotencyKey, amount, method := v.method, status := v.status
              receiptNumber := v.receiptNumber, isDeleted := false } := by
  unfold paymentRow
  simp only [bind_eq_ok, orRefuse_eq_ok, pure_eq_ok, eq_comm (b := row)]
  grind

/-- What a successful insert tells about the books before and after it. -/
theorem createPayment_eq_ok {b b' : Books} {newId : Uuid} {v : PaymentValues} {row : Payment} :
    b.createPayment newId v = .ok (b', row) ↔
      paymentRow newId v = .ok row ∧ b.paymentUniqueViolation? row = none ∧
        ∃ payments, b.payments.insert? row = some payments ∧ b' = { b with payments } := by
  unfold createPayment
  rw [bind_eq_ok]
  constructor
  · rintro ⟨r, hr, h⟩
    split at h
    · simp at h
    · next hv =>
      simp only [bind_eq_ok, orRefuse_eq_ok, pure_eq_ok, Prod.mk.injEq] at h
      obtain ⟨payments, hins, rfl, rfl⟩ := h
      exact ⟨hr, hv, payments, hins, rfl⟩
  · rintro ⟨hr, hv, payments, hins, rfl⟩
    refine ⟨row, hr, ?_⟩
    simp [hv, hins]

/-- No violation means that every key of the new row is new. -/
theorem paymentUniqueViolation?_eq_none {b : Books} {row : Payment} :
    b.paymentUniqueViolation? row = none ↔
      b.payments.find? row.id = none ∧
      (∀ p ∈ b.payments, p.idempotencyKey ≠ row.idempotencyKey) ∧
      (row.transactionId = none ∨ ∀ p ∈ b.payments, p.transactionId ≠ row.transactionId) ∧
      (row.receiptNumber = none ∨ ∀ p ∈ b.payments, p.receiptNumber ≠ row.receiptNumber) := by
  unfold paymentUniqueViolation?
  simp only [List.any_eq_true, Table.mem_rows, decide_eq_true_eq, Option.isSome_iff_ne_none]
  split_ifs <;> grind

end Books

/-! ## Receipts -/

/-- A decimal number, left-padded with zeros to a width. -/
def zeroPad (width n : ℕ) : List Char :=
  let digits := Nat.toDigits 10 n
  List.replicate (width - digits.length) '0' ++ digits

/-- `RCT-YYYYMMDD-NNNNNN`. -/
def receiptNumber (businessDate : BusinessDate) (seq : ℕ) : String :=
  "RCT-" ++ businessDate.text ++ "-" ++ String.ofList (zeroPad 6 seq)

/-- `allocate_receipt_number`: the next number of the day; `next_seq` is an `INTEGER`. -/
def Books.allocateReceiptNumber (b : Books) (businessDate : BusinessDate) :
    Except DatabaseError (Books × String) :=
  match b.receiptSequences.find? businessDate with
  | some row => do
    refuseIf (2 ^ 31 ≤ row.nextSeq + 1) .integerOutOfRange
    let receiptSequences := b.receiptSequences.set { row with nextSeq := row.nextSeq + 1 }
    return ({ b with receiptSequences }, receiptNumber businessDate (row.nextSeq + 1))
  | none => do
    let receiptSequences ← orRefuse (b.receiptSequences.insert? ⟨businessDate, 1⟩)
      (.uniqueViolation .primaryKey)
    return ({ b with receiptSequences }, receiptNumber businessDate 1)

/-- The pattern `^RCT-[0-9]{8}-[0-9]{6}$`, as `match` reads it: `$` also stands before one final
line feed. -/
def matchesReceiptNumberPattern (value : String) : Bool :=
  let cs := if value.toList.getLast? = some '\n' then value.toList.dropLast else value.toList
  let date := (cs.drop 4).take 8
  let seq := cs.drop 13
  cs.take 4 = "RCT-".toList && date.length = 8 && date.all Char.isDigit &&
    cs[12]? = some '-' && seq.length = 6 && seq.all Char.isDigit

/-- `_is_valid_receipt_number`. -/
def isValidReceiptNumber (value : Option String) : Bool := value.any matchesReceiptNumberPattern

/-- The allocator touches nothing but its own table. -/
theorem Books.allocateReceiptNumber_frame {b b' : Books} {d : BusinessDate} {r : String}
    (h : b.allocateReceiptNumber d = .ok (b', r)) :
    b' = { b with receiptSequences := b'.receiptSequences } := by
  unfold allocateReceiptNumber at h
  split at h <;> simp only [bind_eq_ok, pure_eq_ok, Prod.mk.injEq] at h
  · obtain ⟨_, _, rfl, _⟩ := h
    rfl
  · obtain ⟨_, _, rfl, _⟩ := h
    rfl

/-! ## The valid-payment-history contract -/

/-- `_INVALID_ROW_PREDICATE`. Method and status cannot be anything else here, and a stored amount
is finite. -/
def Payment.invalidFor (p : Payment) (o : Order) : Bool :=
  p.amount.unscaled ≤ 0 || p.retailerId ≠ o.retailerId || o.isDeleted

/-- `find_invalid_history_orders`: the orders in scope with invalid live rows, and how many. -/
def Books.findInvalidHistoryOrders (b : Books) (orderIds : List Uuid) : List (Uuid × ℕ) :=
  let invalid := fun orderId => (b.payments.select fun p =>
    p.orderId = orderId && !p.isDeleted && match b.orders.find? p.orderId with
      | some o => p.invalidFor o
      | none => false).length
  (orderIds.dedup.map fun orderId => (orderId, invalid orderId)).filter fun r => r.2 ≠ 0

/-- `assert_valid_payment_history`. -/
def Books.assertValidPaymentHistory (b : Books) (orderIds : List Uuid) (context : String) :
    Except CommandError Unit :=
  let invalid := b.findInvalidHistoryOrders orderIds
  let sample := String.intercalate ", " ((invalid.insertionSort fun r s => r.1 ≤ s.1).map
    fun r => s!"{r.1.text}={r.2}")
  refuseIf (invalid ≠ []) <| .conflict .paymentHistoryIntegrity
    (s!"{context}: {(invalid.map Prod.snd).sum} invalid live payment row(s) " ++
      "in effective history — every live row needs a positive finite " ++
      "amount, a canonical method, a known status and the order's own " ++
      s!"retailer (per order: {sample})")

/-- An order's history is valid when each of its live payments is. -/
theorem Books.assertValidPaymentHistory_eq_ok {b : Books} {orderIds : List Uuid}
    {context : String} :
    b.assertValidPaymentHistory orderIds context = .ok () ↔
      ∀ id ∈ orderIds, ∀ p ∈ b.payments, p.orderId = id → p.isDeleted = false →
        ∀ o, b.orders.find? id = some o → p.invalidFor o = false := by
  unfold assertValidPaymentHistory findInvalidHistoryOrders
  rw [refuseIf_eq_ok, not_not, List.filter_eq_nil_iff]
  simp only [List.mem_map, List.mem_dedup, forall_exists_index, and_imp,
    forall_apply_eq_imp_iff₂, decide_eq_true_eq, ne_eq, not_not, List.length_eq_zero_iff]
  refine forall₂_congr fun id _ => ?_
  rw [List.eq_nil_iff_forall_not_mem]
  simp only [Table.mem_select, Bool.and_eq_true, decide_eq_true_eq, Bool.not_eq_true', not_and,
    Bool.not_eq_true, and_imp]
  refine forall₂_congr fun p _ => ?_
  constructor
  · rintro h rfl hp o ho
    simpa [ho] using h rfl hp
  · rintro h rfl hp
    cases ho : b.orders.find? p.orderId with
    | none => rfl
    | some o => exact h rfl hp o ho

end Mpango
