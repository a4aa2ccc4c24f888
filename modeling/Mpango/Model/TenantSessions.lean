import Mpango.Library.Program
import Mpango.Model.Tokens
import Mathlib.Data.Rat.Defs

/-!
# The database session of a tenant request

`api/context/tenant.py` opens a session for every request with a contextual token, and points it at
the tenant's schema with `SET LOCAL search_path`, which lasts until the transaction ends.
`AuthenticationMiddleware` ends it when the response has started. In between the session belongs to
the route's handler; the handlers that end the transaction themselves, and those that answer with a
stream, are written out here, and every other handler is some `Work`.

A handler is a program over the session's operations. The database answers each of them out of all
that was asked before, with rows or with an error.
-/

namespace Mpango.Tenancy

/-! ## Statements -/

/-- The schemas an unqualified table name is looked up in, first to last. -/
abbrev SearchPath := List String

inductive Statement where
  /-- `SET LOCAL search_path TO …` -/
  | setLocal (path : SearchPath)
  /-- A statement on a tenant table by its unqualified name. -/
  | onTable (table : String)
  /-- A statement on tables that are named with their schema, or on none. -/
  | qualified (text : String)
deriving DecidableEq

inductive SessionOp where
  | execute (statement : Statement)
  | commit
  | rollback
  | close
deriving DecidableEq

inductive Value where
  | null
  | bool (b : Bool)
  | text (s : String)
  | number (q : ℚ)
deriving DecidableEq

/-- A row of a result, by column. -/
abbrev Row := String → Value

/-- What an operation returns when it succeeds. -/
abbrev SessionOp.Returns : SessionOp → Type
  | .execute _ => List Row
  | _ => Unit

/-- The exceptions a request meets, as far as its code tells them apart. -/
inductive Failure where
  | httpException (status : ℕ)
  | integrityError (constraintName : String)
  /-- `CanonicalPaymentMutationHttpError`, around an `HTTPException` -/
  | mutationHttpError (status : ℕ)
  | invalidStateTransition
  | domainInvalidStateTransition
  | orderInvariantViolation
  | programmingError (text : String)
  | other (text : String)
deriving DecidableEq, Inhabited

/-- What a piece of a request does with its session. -/
abbrev SessionM := Program SessionOp SessionOp.Returns Failure

def execute (statement : Statement) : SessionM (List Row) :=
  Program.call (SessionOp.execute statement)

def commit : SessionM Unit := Program.call SessionOp.commit
def rollback : SessionM Unit := Program.call SessionOp.rollback
def close : SessionM Unit := Program.call SessionOp.close

/-! ## The search path -/

abbrev Event := Program.Answered SessionOp SessionOp.Returns Failure

/-- A session outside a transaction, or inside one with the path in force there. -/
abbrev SessionState := Option SearchPath

/-- The path a statement runs with: outside a transaction it begins one, with the connection's
default. -/
def pathOf (defaultPath : SearchPath) (state : SessionState) : SearchPath :=
  state.getD defaultPath

/-- A statement leaves its transaction open; the path is set until the transaction ends. -/
def nextState (defaultPath : SearchPath) (state : SessionState) : Event → SessionState
  | ⟨.execute (.setLocal path), .ok _⟩ => some path
  | ⟨.execute _, _⟩ => some (pathOf defaultPath state)
  | ⟨.commit, _⟩ => none
  | ⟨.rollback, _⟩ => none
  | ⟨.close, _⟩ => none

/-- A statement on an unqualified table finds it in the schema first on the path. -/
def InTenant (schema : Option String) (defaultPath : SearchPath) (state : SessionState) :
    SessionOp → Prop
  | .execute (.onTable _) => (pathOf defaultPath state).head? = schema
  | _ => True

/-! ## The tenant context -/

/-- The text of an exception contains a phrase. -/
def mentions (phrase text : String) : Bool := phrase.toList <:+: text.toList

def isMissingTenantResourceError : Failure → Bool
  | .programmingError text =>
    ["undefined table", "undefined schema", "invalid schema name", "does not exist", "42p01",
      "3f000"].any fun marker => mentions marker text.toLower
  | _ => false

/-- `create_tenant_session`: the session is closed when its path cannot be set. -/
def createTenantSession (tenantSchema : String) : SessionM Unit := do
  try
    if isSafeIdentifier tenantSchema then
      let _ ← execute (.setLocal [tenantSchema, "public"])
    else
      throw (.other "Unsafe tenant_schema")
  catch e =>
    close
    throw e

/-- The user of a request with the permissions of its roles. -/
structure User where
  isDeleted : Bool
  isActive : Bool
  permissions : List Value

/-- `selectinload`: a statement of its own, when there are rows to load for. -/
def selectinload (table : String) (rows : List Row) : SessionM (List Row) :=
  if rows.isEmpty then pure [] else execute (.onTable table)

/-- `get_user_with_permissions`, with the roles and their permissions. -/
def getUserWithPermissions (userId : String) : SessionM (Option User) := do
  if (Uuid.parse userId).isNone then
    return none
  let users ← execute (.onTable "users")
  match users with
  | [] => return none
  | user :: _ =>
    let roles ← selectinload "roles" [user]
    let permissions ← selectinload "permissions" roles
    return some {
      isDeleted := user "is_deleted" = .bool true
      isActive := user "is_active" = .bool true
      permissions := permissions.map fun row => row "code" }

/-- `assert_tenant_active`: the decision is that of the wholesaler's current row. -/
def assertTenantActive (tenantId : String) : SessionM Unit := do
  if (Uuid.parse tenantId).isNone then
    throw (.httpException 401)
  let rows ← execute (.qualified "SELECT status, is_deleted FROM public.wholesalers")
  match rows with
  | [] => throw (.httpException 401)
  | row :: _ =>
    if row "is_deleted" = .bool true then
      throw (.httpException 401)
    else if row "status" ≠ .text "active" then
      throw (.httpException 401)
    else
      return

/-- The checks of `resolve_tenant_context` on the open session. -/
def checkSubject (token : TokenPayload) : SessionM User := do
  match ← getUserWithPermissions token.userId with
  | none => throw (.httpException 401)
  | some user =>
    if user.isDeleted then
      throw (.httpException 401)
    else if !user.isActive then
      throw (.httpException 401)
    else
      assertTenantActive (token.tenantId.getD "")
      return user

def resolveTenantContext (token : TokenPayload) : SessionM User := do
  match token.tenantSchema with
  | none => throw (.httpException 401)
  | some schema =>
    if schema = "" then
      throw (.httpException 401)
    else
      createTenantSession schema
      try
        checkSubject token
      catch e =>
        close
        throw (if isMissingTenantResourceError e then .httpException 401 else e)

/-- `finalize_tenant_context` -/
def finalizeTenantContext (success : Bool) : SessionM Unit :=
  Program.tryFinally (if success then commit else rollback) close

/-! ## Handlers -/

/-- A statement that neither moves the search path nor ends the transaction. -/
def IsWork : SessionOp → Prop
  | .execute (.setLocal _) => False
  | .execute _ => True
  | _ => False

/-- What a service does in the transaction of its caller: statements, which may fail. -/
structure Work (α : Type) where
  program : SessionM α
  inside : program.Only IsWork

/-- The body of a response: complete, or produced while the client reads it. -/
inductive Body where
  | plain
  /-- The generator, for a client that takes so many batches. -/
  | stream (generate : ℕ → SessionM Unit)

structure Response where
  status : ℕ
  body : Body := .plain

/-- `RequirePermission` -/
def requirePermission (permission : String) (token : TokenPayload) (user : User) :
    SessionM Unit :=
  if token.isSuperAdmin || .text permission ∈ user.permissions then pure ()
  else throw (.httpException 403)

/-- `_restore_tenant_search_path_after_rollback`: the schema is the one in `session.info`. -/
def restoreTenantSearchPathAfterRollback (tenantSchema : Option String) : SessionM Unit := do
  match tenantSchema with
  | none => return
  | some schema =>
    if schema ≠ "" then
      let _ ← execute (.setLocal [schema, "public"])

/-- Roll back, restore the path and raise. -/
def rollbackRestored {α : Type} (token : TokenPayload) (e : Failure) : SessionM α := do
  rollback
  restoreTenantSearchPathAfterRollback token.tenantSchema
  throw e

/-- Roll back and raise. -/
def rollbackWith {α : Type} (e : Failure) : SessionM α := do
  rollback
  throw e

/-- `InvalidStateTransitionError`, the domain's, and `OrderInvariantViolation` -/
def Failure.isTransitionRefusal : Failure → Bool
  | .invalidStateTransition => true
  | .domainInvalidStateTransition => true
  | .orderInvariantViolation => true
  | _ => false

/-! ### Orders -/

/-- The routes that put a command to an order: what they do about its failure differs. -/
def orderRoute (permission : String) (load : Work (Option Row)) (command : Work Unit)
    (recover : Failure → SessionM Unit) (token : TokenPayload) (user : User) :
    SessionM Response := do
  requirePermission permission token user
  let order ← load.program
  if order.isNone then
    throw (.httpException 404)
  try
    command.program
  catch e => recover e
  return { status := 200 }

def confirmOrder (load : Work (Option Row)) (command : Work Unit) :
    TokenPayload → User → SessionM Response :=
  orderRoute "orders:update" load command fun e =>
    if e.isTransitionRefusal then throw (.httpException 409) else rollbackWith e

/-- A failure other than an `HTTPException` is not rolled back here. -/
def fulfillOrder (load : Work (Option Row)) (command : Work Unit) :
    TokenPayload → User → SessionM Response :=
  orderRoute "orders:update" load command fun e =>
    if e.isTransitionRefusal then throw (.httpException 409)
    else
      match e with
      | .httpException status => rollbackWith (.httpException status)
      | .other text =>
        throw (if mentions "Invalid state transition" text || mentions "invariant" text.toLower then
          .httpException 409 else .other text)
      | e => throw e

/-- An `HTTPException` is left to the middleware. -/
def cancelOrder (load : Work (Option Row)) (command : Work Unit) :
    TokenPayload → User → SessionM Response :=
  orderRoute "orders:update" load command fun e =>
    if e.isTransitionRefusal then throw (.httpException 409)
    else
      match e with
      | .httpException status => throw (.httpException status)
      | e => rollbackWith e

def returnOrder (load : Work (Option Row)) (command : Work Unit) :
    TokenPayload → User → SessionM Response :=
  orderRoute "orders:update" load command fun e =>
    if e.isTransitionRefusal then throw (.httpException 409)
    else
      match e with
      | .other text =>
        rollbackWith (if mentions "Invalid state transition" text then .httpException 409
          else .other text)
      | e => rollbackWith e

/-- The retailer's own cancellation does not know the domain's refusal. -/
def clientCancelOrder (load : Work (Option Row)) (command : Work Unit) :
    TokenPayload → User → SessionM Response :=
  orderRoute "client:orders:create" load command fun e =>
    match e with
    | .invalidStateTransition => throw (.httpException 409)
    | .orderInvariantViolation => throw (.httpException 409)
    | e => rollbackWith e

/-- `pay_order`: `checked` is the outcome of the request's validation. -/
def payOrder (checked : Except Failure Unit) (service : Work Unit) (token : TokenPayload)
    (user : User) : SessionM Response := do
  requirePermission "payments:create" token user
  match checked with
  | .error e => throw e
  | .ok _ =>
    try
      service.program
    catch e =>
      if e.isTransitionRefusal then rollbackWith (.httpException 409)
      else
        match e with
        | .mutationHttpError status => rollbackWith (.httpException status)
        | .httpException status => throw (.httpException status)
        | e => rollbackWith e
    return { status := 200 }

/-! ### Declarations -/

def confirmDeclaration (checked : Except Failure Unit) (service : Work Unit)
    (token : TokenPayload) (user : User) : SessionM Response := do
  requirePermission "payments:confirm_declaration" token user
  match checked with
  | .error e => throw e
  | .ok _ =>
    try
      service.program
    catch e =>
      if e.isTransitionRefusal then rollbackRestored token (.httpException 409)
      else
        match e with
        | .mutationHttpError status => rollbackRestored token (.httpException status)
        | .httpException status => throw (.httpException status)
        | e => rollbackRestored token e
    return { status := 200 }

def rejectDeclaration (checked : Except Failure Unit) (service : Work Unit)
    (token : TokenPayload) (user : User) : SessionM Response := do
  requirePermission "payments:confirm_declaration" token user
  match checked with
  | .error e => throw e
  | .ok _ =>
    try
      service.program
    catch e =>
      match e with
      | .httpException status => throw (.httpException status)
      | e => rollbackRestored token e
    let _ ← execute (.onTable "payment_declarations")
    return { status := 200 }

/-- What a retailer declares. -/
structure DeclarationRequest where
  orderId : String
  declaredAmount : ℚ
  method : String
  transferReference : Option String

/-- A missing text and an empty one are the same. -/
def Value.orNone : Value → Option String
  | .text s => if s = "" then none else some s
  | _ => none

def DeclarationRequest.same (body : DeclarationRequest) (existing : Row) : Bool :=
  existing "order_id" = .text body.orderId ∧
    existing "declared_amount" = .number body.declaredAmount ∧
    existing "method" = .text body.method ∧
    (existing "transfer_reference").orNone =
      (Value.text (strip (body.transferReference.getD ""))).orNone

/-- The answer to a lost insert race: after the rollback the winner's row is read. -/
def resolveLostRace (body : DeclarationRequest) (token : TokenPayload) (constraintName : String) :
    SessionM Bool := do
  rollback
  restoreTenantSearchPathAfterRollback token.tenantSchema
  if constraintName ≠ "ux_payment_declarations_retailer_idem" then
    throw (.integrityError constraintName)
  match ← execute (.onTable "payment_declarations") with
  | [] => throw (.integrityError constraintName)
  | existing :: _ =>
    if body.same existing then
      return true
    else
      throw (.httpException 409)

/-- `declare_payment`: `submit` says whether the declaration is replayed. -/
def declarePayment (identity : Work Unit) (checked : Except Failure Unit) (submit : Work Bool)
    (body : DeclarationRequest) (token : TokenPayload) (user : User) : SessionM Response := do
  identity.program
  requirePermission "client:payments:declare" token user
  match checked with
  | .error e => throw e
  | .ok _ =>
    let isReplay ← tryCatch submit.program fun e =>
      match e with
      | .integrityError constraintName => resolveLostRace body token constraintName
      | e => throw e
    let _ ← execute (.onTable "payment_declarations")
    return { status := if isReplay then 200 else 201 }

/-! ### SKUs -/

/-- `flush_skus_or_409`: the flush that inserts a SKU rolls back when it violates a constraint. -/
def flushSkusOr409 : SessionM Unit := do
  try
    let _ ← execute (.onTable "skus")
  catch e =>
    match e with
    | .integrityError constraintName =>
      rollback
      throw (if constraintName ∈ ["skus_sku_code_key", "ux_skus_sku_code"] then
        .httpException 409 else .integrityError constraintName)
    | e => throw e

/-- A SKU that is inserted: the statements before its flush, and those after. -/
structure SkuInsert where
  before : Work Unit
  after : Work Unit

def SkuInsert.run (insert : SkuInsert) : SessionM Unit := do
  insert.before.program
  flushSkusOr409
  insert.after.program

/-- `create_sku`, `create_catalog_product` and `add_sellable_unit`. -/
def createSku (insert : SkuInsert) (token : TokenPayload) (user : User) : SessionM Response := do
  requirePermission "skus:create" token user
  insert.run
  return { status := 201 }

/-- The rows of an import: loaded, inserted one after the other, and marked as applied. -/
def applyRows (load : Work (List SkuInsert)) (finish : Work Unit) : SessionM Unit := do
  let rows ← load.program
  rows.forM SkuInsert.run
  finish.program

/-- `apply_intake_workspace` -/
def applyIntake (load : Work (List SkuInsert)) (finish : Work Unit) (token : TokenPayload)
    (user : User) : SessionM Response := do
  requirePermission "intake:update" token user
  requirePermission "skus:import" token user
  applyRows load finish
  return { status := 200 }

/-- `apply_import` commits itself. -/
def applyImport (load : Work (List SkuInsert)) (finish : Work Unit) (token : TokenPayload)
    (user : User) : SessionM Response := do
  requirePermission "skus:import" token user
  tryCatch
    (do
      applyRows load finish
      commit
      return { status := 200 })
    rollbackWith

/-! ### Exports -/

/-- `_BATCH_SIZE` -/
def batchSize : ℕ := 500

/-- The batches of a CSV export: the rows, and what `selectinload` loads for them. -/
def generateBatches (table loaded : String) : ℕ → SessionM Unit
  | 0 => return
  | batches + 1 => do
    let rows ← execute (.onTable table)
    if rows.isEmpty then
      return
    else
      let _ ← selectinload loaded rows
      if rows.length < batchSize then
        return
      else
        generateBatches table loaded batches

/-- The handler of an export only prepares the generator. -/
def exportRoute (table loaded format : String) (token : TokenPayload) (user : User) :
    SessionM Response := do
  requirePermission "exports:create" token user
  if format ≠ "csv" then
    throw (.httpException 400)
  return { status := 200, body := .stream (generateBatches table loaded) }

def exportOrdersCsv (format : String) : TokenPayload → User → SessionM Response :=
  exportRoute "orders" "order_items" format

def exportInventoryCsv (format : String) : TokenPayload → User → SessionM Response :=
  exportRoute "inventory_stocks" "skus" format

/-! ## Requests -/

inductive Route where
  | confirmOrder (load : Work (Option Row)) (command : Work Unit)
  | fulfillOrder (load : Work (Option Row)) (command : Work Unit)
  | cancelOrder (load : Work (Option Row)) (command : Work Unit)
  | returnOrder (load : Work (Option Row)) (command : Work Unit)
  | clientCancelOrder (load : Work (Option Row)) (command : Work Unit)
  | payOrder (checked : Except Failure Unit) (service : Work Unit)
  | confirmDeclaration (checked : Except Failure Unit) (service : Work Unit)
  | rejectDeclaration (checked : Except Failure Unit) (service : Work Unit)
  | declarePayment (identity : Work Unit) (checked : Except Failure Unit) (submit : Work Bool)
      (body : DeclarationRequest)
  | createSku (insert : SkuInsert)
  | applyIntake (load : Work (List SkuInsert)) (finish : Work Unit)
  | applyImport (load : Work (List SkuInsert)) (finish : Work Unit)
  | exportOrdersCsv (format : String)
  | exportInventoryCsv (format : String)
  /-- Any other route: its handler works in the transaction it is given. -/
  | other (permission : String) (handler : Work ℕ)

def Route.handler : Route → TokenPayload → User → SessionM Response
  | .confirmOrder load command => Tenancy.confirmOrder load command
  | .fulfillOrder load command => Tenancy.fulfillOrder load command
  | .cancelOrder load command => Tenancy.cancelOrder load command
  | .returnOrder load command => Tenancy.returnOrder load command
  | .clientCancelOrder load command => Tenancy.clientCancelOrder load command
  | .payOrder checked service => Tenancy.payOrder checked service
  | .confirmDeclaration checked service => Tenancy.confirmDeclaration checked service
  | .rejectDeclaration checked service => Tenancy.rejectDeclaration checked service
  | .declarePayment identity checked submit body =>
    Tenancy.declarePayment identity checked submit body
  | .createSku insert => Tenancy.createSku insert
  | .applyIntake load finish => Tenancy.applyIntake load finish
  | .applyImport load finish => Tenancy.applyImport load finish
  | .exportOrdersCsv format => Tenancy.exportOrdersCsv format
  | .exportInventoryCsv format => Tenancy.exportInventoryCsv format
  | .other permission handler => fun token user => do
    requirePermission permission token user
    let status ← handler.program
    return { status := status }

/-- A request with a verified token; the client takes `pulled` batches of a streamed body. -/
structure Request where
  token : TokenPayload
  route : Route
  pulled : ℕ

/-- An exception of the handler is answered by FastAPI when it is an `HTTPException`. -/
def callNext (handler : SessionM Response) : SessionM Response :=
  tryCatch handler fun
    | .httpException status => return { status := status }
    | e => throw e

/-- `AuthenticationMiddleware.dispatch` around the route: the session is finalised when the response
has started, and once more when that fails. -/
def dispatch (request : Request) : SessionM Response := do
  if request.token.isIdentityOnly then
    -- no tenant context, so a route that needs the session is refused before it has one
    return { status := if request.token.isSuperAdmin then 401 else 403 }
  else
    let user ← resolveTenantContext request.token
    tryCatch
      (do
        let response ← callNext (request.route.handler request.token user)
        finalizeTenantContext (response.status < 400)
        return response)
      fun e => do
        finalizeTenantContext false
        throw e

/-- A request with the body of its response. -/
def serve (request : Request) : SessionM Unit := do
  let response ← dispatch request
  match response.body with
  | .plain => return
  | .stream generate => generate request.pulled

/-! ## What is asked -/

variable (defaultPath : SearchPath)

/-- The route answers with rows that are read while the client takes them. -/
def Route.Exports (route : Route) : Prop :=
  route = .exportOrdersCsv "csv" ∨ route = .exportInventoryCsv "csv"

end Mpango.Tenancy
