import Mpango.Model.System

/-!
# Payments in flight

Any number of payment requests and declaration confirmations at work at the same time. Each runs
in a transaction of its own, cut where another transaction's commit can come between: the lookup
before the lock, the lock on the order row, the checks of the declaration, the lookup under the
lock, the checks before the first write, and the writes with the commit. Each part reads what is
committed when it runs. A lock is given to one call at a time and kept to the end of its
transaction; a call that has to wait for one cannot move.

The writes come with the commit: until then no other transaction sees them, and one that inserts
a payment with the same key, or takes the next receipt number, or updates the same binding waits
for it, which is the same as coming after it.
-/

namespace Mpango

open Decimal

/-! ## Calls -/

/-- A call of `confirm_payment` or of `confirm_declaration`. -/
inductive Call
  | payment (ctx : InsertContext) (orderId : String) (request : PaymentRequest)
  | confirmation (ctx : InsertContext) (declarationId wholesalerId : Uuid)

/-- What the environment supplies to the insert of a call. -/
def Call.ctx : Call → InsertContext
  | payment ctx _ _ => ctx
  | confirmation ctx _ _ => ctx

/-- The idempotency key of a call. -/
def Call.idempotencyKey : Call → String
  | payment _ _ request => request.idempotencyKey
  | confirmation _ declarationId _ => declarationKey declarationId

/-- Where a call's transaction is. A finished call keeps its answer, and the payment under its
key that its last lookup saw. -/
inductive Phase
  | ready
  | searched
  | locked (order : Order)
  | entered (order : Order) (request : PaymentRequest)
  | rechecked (order : Order) (request : PaymentRequest)
  | planned (order : Order) (request : PaymentRequest) (plan : Books.PaymentPlan)
  | finished (seen : Option Payment) (answer : Except CommandError CanonicalPaymentResult)
  | aborted

/-- The order whose row a transaction has locked. -/
def Phase.order? : Phase → Option Order
  | locked order => some order
  | entered order _ => some order
  | rechecked order _ => some order
  | planned order _ _ => some order
  | _ => none

/-- The request a transaction is to execute, once it is known. -/
def Phase.request? : Phase → Option PaymentRequest
  | entered _ request => some request
  | rechecked _ request => some request
  | planned _ request _ => some request
  | _ => none

/-! ## The parts of a transaction -/

namespace Books

/-- The beginning of `confirm_payment`, up to the order lock. -/
def search (b : Books) (orderId : String) (req : PaymentRequest) :
    Except CommandError (Option CanonicalPaymentResult) := do
  raiseInvalidAmount req.amount
  b.fastReplay orderId req

/-- The beginning of `_confirm_payment_for_locked_order`, up to the prechecks. -/
def recheck (b : Books) (order : Order) (req : PaymentRequest) :
    Except CommandError (Option CanonicalPaymentResult) := do
  raiseInvalidAmount req.amount
  match b.getByIdempotencyKey req.idempotencyKey with
  | some existing => do
    let result ← replayOrConflict order existing req
    return some result
  | none => .ok none

/-- The payment a lookup sees, which comes after the check of the amount. -/
def seen (b : Books) (req : PaymentRequest) : Option Payment :=
  if req.amount ≤ 0 then none else b.getByIdempotencyKey req.idempotencyKey

/-- The payment the classification of a failed insert sees. -/
def seenByRace (b : Books) (error : DatabaseError) (req : PaymentRequest) : Option Payment :=
  match error with
  | .uniqueViolation .paymentsIdempotencyKey => b.getByIdempotencyKey req.idempotencyKey
  | _ => none

end Books

/-- What a call writes beside the books: a confirmation marks its declaration. -/
def Call.complete (call : Call) (db : Db) (books : Books) (result : CanonicalPaymentResult) :
    Except CommandError Db :=
  match call with
  | payment _ _ _ => .ok { db with books }
  | confirmation _ declarationId wholesalerId =>
    Db.markConfirmed { db with books } declarationId wholesalerId result.paymentRecord.id

/-! ## The service -/

/-- A payment that was committed: the call, what it executed, and the row it inserted. -/
structure Applied (ι : Type) where
  call : ι
  order : Order
  request : PaymentRequest
  plan : Books.PaymentPlan
  row : Payment
  result : CanonicalPaymentResult

/-- The committed tenant, the calls with their phases, the holder of each order's lock, and the
committed payments in the order of their commits, a history the program does not keep. -/
structure Service (ι : Type) where
  db : Db
  phase : ι → Phase
  holder : Uuid → Option ι
  applied : List (Applied ι)

namespace Service

variable {ι : Type} [DecidableEq ι]

/-- Before the first call has moved. -/
def start (ι : Type) (db : Db) : Service ι := ⟨db, fun _ => .ready, fun _ => none, []⟩

/-- Go on to a phase. -/
def enter (s : Service ι) (i : ι) (phase : Phase) : Service ι :=
  { s with phase := Function.update s.phase i phase }

/-- Give up every lock of a call. -/
def release (s : Service ι) (i : ι) : Service ι :=
  { s with holder := fun id => if s.holder id = some i then none else s.holder id }

/-- End a transaction with an answer. -/
def finish (s : Service ι) (i : ι) (seen : Option Payment)
    (answer : Except CommandError CanonicalPaymentResult) : Service ι :=
  (s.enter i (.finished seen answer)).release i

/-- Lock an order's row, or wait. -/
def lock (s : Service ι) (i : ι) (order : Order) (phase : Phase) : Option (Service ι) :=
  if s.holder order.id = none then
    some { s.enter i phase with holder := Function.update s.holder order.id (some i) }
  else none

/-- Commit a transaction that answers with a payment found under its key. -/
def replay (s : Service ι) (i : ι) (call : Call) (seen : Option Payment)
    (result : CanonicalPaymentResult) : Service ι :=
  match call.complete s.db s.db.books result with
  | .error e => s.finish i seen (.error e)
  | .ok db => { s with db }.finish i seen (.ok result)

/-- Insert, settle and commit. A failed insert is undone alone and classified; any later failure
undoes the whole transaction. -/
def write (s : Service ι) (i : ι) (call : Call) (order : Order) (req : PaymentRequest)
    (plan : Books.PaymentPlan) : Service ι :=
  match s.db.books.insertPayment call.ctx order req plan with
  | .error error =>
    match s.db.books.classifyPaymentInsertRace error order req with
    | .error e => s.finish i (s.db.books.seenByRace error req) (.error e)
    | .ok result => s.replay i call (s.db.books.seenByRace error req) result
  | .ok (inserted, row) =>
    match inserted.settlePayment order req plan with
    | .error e => s.finish i none (.error e)
    | .ok (settled, order') =>
      let result : CanonicalPaymentResult :=
        ⟨order', (settled.getPaymentById row.id).getD row, false⟩
      let payment : Applied ι := ⟨i, order, req, plan, row, result⟩
      match call.complete s.db settled result with
      | .error e => s.finish i none (.error e)
      | .ok db => { s with db, applied := s.applied ++ [payment] }.finish i none (.ok result)

/-- Move one call by one part, if it is not waiting for a lock and has not ended. -/
def advance (calls : ι → Call) (s : Service ι) (i : ι) : Option (Service ι) :=
  match s.phase i, calls i with
  | .ready, .payment _ orderId req =>
    match s.db.books.search orderId req with
    | .error e => some (s.finish i (s.db.books.seen req) (.error e))
    | .ok (some result) => some (s.finish i (s.db.books.seen req) (.ok result))
    | .ok none => some (s.enter i .searched)
  | .ready, .confirmation _ declarationId wholesalerId =>
    match lockOrderForDeclaration s.db declarationId wholesalerId with
    | .error e => some (s.finish i none (.error e))
    | .ok order => s.lock i order (.locked order)
  | .searched, .payment _ orderId req =>
    match s.db.books.lockOrderForPayment orderId with
    | .error e => some (s.finish i none (.error e))
    | .ok order => s.lock i order (.entered order req)
  | .locked order, .confirmation _ declarationId wholesalerId =>
    match checkDeclaration s.db declarationId wholesalerId order with
    | .error e => some (s.finish i none (.error e))
    | .ok (_, some result) => some (s.finish i (some result.paymentRecord) (.ok result))
    | .ok (declaration, none) =>
      some (s.enter i (.entered order (confirmationRequest declaration)))
  | .entered order req, call =>
    match s.db.books.recheck order req with
    | .error e => some (s.finish i (s.db.books.seen req) (.error e))
    | .ok (some result) => some (s.replay i call (s.db.books.seen req) result)
    | .ok none => some (s.enter i (.rechecked order req))
  | .rechecked order req, _ =>
    match s.db.books.paymentPlan order req with
    | .error e => some (s.finish i none (.error e))
    | .ok plan => some (s.enter i (.planned order req plan))
  | .planned order req plan, call => some (s.write i call order req plan)
  | _, _ => none

/-- End a transaction without an answer: its connection is lost, or it is the victim of a
deadlock. -/
def abort (s : Service ι) (i : ι) : Service ι :=
  match s.phase i with
  | .finished _ _ => s
  | _ => (s.enter i .aborted).release i

/-- What can happen next. -/
inductive Event (ι : Type)
  | advance (i : ι)
  | abort (i : ι)

/-- One event; a call that cannot move stays where it is. -/
def handle (calls : ι → Call) (s : Service ι) : Event ι → Service ι
  | .advance i => (s.advance calls i).getD s
  | .abort i => s.abort i

/-- The service after any interleaving. -/
def serve (calls : ι → Call) (db : Db) (events : List (Event ι)) : Service ι :=
  events.foldl (handle calls) (start ι db)

end Service

/-! ## Commands and rounds -/

/-- A call whose own request, if it carries one, is admitted by a predicate. -/
def Call.Admits (admitted : PaymentRequest → Prop) : Call → Prop
  | .payment _ _ request => admitted request
  | .confirmation _ _ _ => True

/-- The states a tenant reaches by accepted commands and by rounds of calls at work at the same
time. What is still in flight at the end of a round is lost. -/
inductive Served (admitted : PaymentRequest → Prop) (db₀ : Db) : Db → Prop
  | start : Served admitted db₀ db₀
  | command {db db' : Db} {c : Command} {r : Outcome} :
      Served admitted db₀ db → c.Admits admitted → execute db c = .ok (db', r) →
      Served admitted db₀ db'
  | round {ι : Type} [DecidableEq ι] {db : Db} (calls : ι → Call)
      (events : List (Service.Event ι)) :
      Served admitted db₀ db → (∀ i, (calls i).Admits admitted) →
      Served admitted db₀ (Service.serve calls db events).db

end Mpango
