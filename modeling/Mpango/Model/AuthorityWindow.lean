import Mpango.Library.Raising

/-!
# The tenant DDL authority window

Migration 038 works on tenant schemas under the role of the application. The window sets the role,
proves it, runs a body under it and resets it, and every step of it may fail: each statement has its
outcome in a `World`.

A `Session` is what PostgreSQL keeps of the connection. A role set in a transaction is undone when
the transaction, or a savepoint older than the setting, is rolled back; `RESET ROLE` returns to the
role of connection time. A server error aborts the transaction, and then every statement fails until
a rollback; on a lost or invalidated connection every statement fails until the transaction is
rolled back, and a new connection is opened then. A savepoint whose release has been tried is not
rolled back to any more.
-/

namespace Mpango

namespace AuthorityWindow

/-- `TENANT_AUTHORITY_ROLE`. -/
def tenantAuthorityRole : String := "mpango_app"

/-! ## The connection -/

structure Session where
  sessionUser : String
  /-- The role of connection time. -/
  resetRole : String
  /-- The role a rollback of the enclosing transaction returns to. -/
  outer : String
  /-- `current_user`. -/
  role : String
  /-- The role at the start of the savepoint that can be rolled back to. -/
  savepoint : Option String
  aborted : Bool
  lost : Bool
  invalidated : Bool

/-- No statement is executed. -/
def Session.stuck (s : Session) : Bool := s.aborted || s.lost || s.invalidated

/-- How a statement ends. -/
inductive Outcome
  | done
  | serverError
  | lost

/-- How a query ends. -/
inductive Answer (α : Type)
  | answered (a : α)
  | serverError
  | lost

/-- How a query for identities ends: with the truth, or with something else. -/
inductive Probe (α : Type)
  | truth
  | wrong (a : α)
  | serverError
  | lost

/-! ## Errors -/

/-- What a discard error says of `invalidate()`. -/
inductive Discard
  | invalidated
  | failed (exceptionType : String)

/-- Why a connection cannot be proven safe. -/
inductive Reason
  | savepointAndTransaction
  | notVerified
  | transactionNotRolledBack (entryUser : String)
  | notRestored (entryUser restored : String)

/-- What a `TenantDDLAuthorityError` states. -/
inductive Refusal
  | leaked (currentUser sessionUser : String)
  | noSchemas (schemas : List String)
  | mixedOwnership (withCreate withoutCreate : List String)
  | capabilityAbsent (currentUser : String) (withoutCreate : List String)
  | bound (currentUser : String)
  | discard (reason : Reason) (detail : Discard)
  | notRestored (token restored : String)

inductive Error
  /-- The driver's error for a statement. -/
  | statement
  | authority (purpose : String) (refusal : Refusal)
  /-- Raised by the body; `isException` tells an `Exception` from the other exceptions. -/
  | body (message : String) (isException : Bool)

/-- It is an `Exception`. -/
def Error.isException : Error → Bool
  | .statement | .authority _ _ => true
  | .body _ isException => isException

/-- It says that the connection has been invalidated. -/
def Error.claimsDiscard : Error → Prop
  | .authority _ (.discard _ .invalidated) => True
  | _ => False

/-! ## Statements -/

abbrev Run (α : Type) := Raising Session Error α

def execute (outcome : Outcome) (effect : Session → Session) : Run Unit := fun s =>
  if s.stuck then (.error .statement, s)
  else
    match outcome with
    | .done => (.ok (), effect s)
    | .serverError => (.error .statement, { s with aborted := true })
    | .lost => (.error .statement, { s with lost := true })

def ask {α : Type} (answer : Answer α) : Run α := fun s =>
  if s.stuck then (.error .statement, s)
  else
    match answer with
    | .answered a => (.ok a, s)
    | .serverError => (.error .statement, { s with aborted := true })
    | .lost => (.error .statement, { s with lost := true })

/-- A query for identities, with its true answer in a session. -/
def askIdentity {α : Type} (truth : Session → α) (probe : Probe α) : Run α := fun s =>
  match probe with
  | .truth => ask (.answered (truth s)) s
  | .wrong a => ask (.answered a) s
  | .serverError => ask .serverError s
  | .lost => ask .lost s

/-- `SELECT current_user`. -/
def askCurrentUser (probe : Probe String) : Run String := askIdentity Session.role probe

/-- `SET ROLE` to the tenant authority role. -/
def setRole (outcome : Outcome) : Run Unit :=
  execute outcome fun s => { s with role := tenantAuthorityRole }

/-- `RESET ROLE`. -/
def resetRole (outcome : Outcome) : Run Unit :=
  execute outcome fun s => { s with role := s.resetRole }

/-- `begin_nested`. -/
def beginNested (outcome : Outcome) : Run Unit :=
  execute outcome fun s => { s with savepoint := some s.role }

/-- `commit` of a savepoint. -/
def release (outcome : Outcome) : Run Unit := fun s =>
  match execute outcome id s with
  | (r, s') => (r, { s' with savepoint := none })

/-- `rollback` of a savepoint; nothing is sent for one that is over, nor on a lost connection. -/
def rollbackSavepoint (outcome : Outcome) : Run Unit := fun s =>
  match s.savepoint, s.lost || s.invalidated with
  | some role, false =>
    match outcome with
    | .done => (.ok (), { s with role, aborted := false, savepoint := none })
    | .serverError => (.error .statement, { s with aborted := true, savepoint := none })
    | .lost => (.error .statement, { s with lost := true, savepoint := none })
  | _, _ =>
    match outcome with
    | .done => (.ok (), { s with savepoint := none })
    | _ => (.error .statement, { s with savepoint := none })

/-- `commit` of the enclosing transaction. -/
def commit : Run Unit := execute .done fun s => { s with outer := s.role, savepoint := none }

/-- `rollback` of the enclosing transaction. -/
def rollback (outcome : Outcome) : Run Unit := fun s =>
  match outcome with
  | .done =>
    if s.lost || s.invalidated then
      (.ok (), { s with
        role := s.resetRole
        outer := s.resetRole
        savepoint := none
        aborted := false
        lost := false
        invalidated := false })
    else (.ok (), { s with role := s.outer, savepoint := none, aborted := false })
  | .serverError => (.error .statement, { s with aborted := true })
  | .lost => (.error .statement, { s with lost := true })

/-! ## The outcomes of one window -/

/-- The body: statements that leave the role and the savepoint of the window alone. -/
structure Body where
  run : Run Unit
  kept : ∀ s, (run s).2 = { s with aborted := (run s).2.aborted, lost := (run s).2.lost }
  raised : ∀ s e, (run s).1 = .error e → e = .statement ∨ ∃ message isException,
    e = .body message isException

structure World where
  identity : Probe (String × String)
  authority : Answer (List (String × Bool))
  canSet : Answer Bool
  -- the handshake
  savepoint : Outcome
  setRole : Outcome
  bound : Probe String
  release : Outcome
  -- its cleanup
  rollbackSavepoint : Outcome
  rollback : Outcome
  reset : Outcome
  restored : Probe String
  rollbackAgain : Outcome
  resetAgain : Outcome
  restoredAgain : Probe String
  rollbackLast : Outcome
  restoredLast : Probe String
  /-- The type of the exception `invalidate()` raises, if it does. -/
  invalidate : Option String
  -- the body and the end of the window
  nested : Outcome
  body : Body
  commit : Outcome
  rollbackNested : Outcome
  close : Outcome
  closed : Probe String

variable (w : World) (purpose : String)

/-! ## The cleanup of the handshake -/

/-- `_handshake_discard_error`, raised. -/
def raiseDiscard {α : Type} (reason : Reason) : Run α := fun s =>
  match w.invalidate with
  | none => (.error (.authority purpose (.discard reason .invalidated)),
      { s with invalidated := true })
  | some exceptionType =>
    (.error (.authority purpose (.discard reason (.failed exceptionType))), s)

def rollbackHandshake : Run Unit :=
  tryCatch (rollbackSavepoint w.rollbackSavepoint) fun _ =>
    tryCatch (rollback w.rollback) fun _ => raiseDiscard w purpose .savepointAndTransaction

def verifyIdentity : Run String :=
  tryCatch (do
    resetRole w.reset
    askCurrentUser w.restored) fun _ =>
    tryCatch (do
      rollback w.rollbackAgain
      resetRole w.resetAgain
      askCurrentUser w.restoredAgain) fun _ => raiseDiscard w purpose .notVerified

def restoreByRollback (entryUser : String) : Run Unit := do
  let restored ← tryCatch (do
    rollback w.rollbackLast
    askCurrentUser w.restoredLast) fun _ =>
      raiseDiscard w purpose (.transactionNotRolledBack entryUser)
  if restored ≠ entryUser then raiseDiscard w purpose (.notRestored entryUser restored)
  else pure ()

/-- `_abort_handshake_window`. -/
def abortHandshakeWindow (entryUser : String) : Run Unit := do
  rollbackHandshake w purpose
  let restored ← verifyIdentity w purpose
  if restored ≠ entryUser then restoreByRollback w purpose entryUser
  else pure ()

/-! ## The window -/

/-- The block between `SET ROLE` and the token. -/
def handshake : Run Unit := do
  setRole w.setRole
  let bound ← askCurrentUser w.bound
  if bound ≠ tenantAuthorityRole then throw (.authority purpose (.bound bound))
  else release w.release

/-- `_open_tenant_ddl_authority`. -/
def openTenantDdlAuthority (schemas : List String) : Run (Option String) := do
  let (currentUser, sessionUser) ← askIdentity (fun s => (s.role, s.sessionUser)) w.identity
  if currentUser ≠ sessionUser then throw (.authority purpose (.leaked currentUser sessionUser))
  else do
    let authority ← ask w.authority
    let withoutCreate := (authority.filter (!·.2)).map (·.1)
    let withCreate := (authority.filter (·.2)).map (·.1)
    if authority = [] then throw (.authority purpose (.noSchemas schemas.mergeSort))
    else if withoutCreate = [] then pure none
    else if withCreate ≠ [] then
      throw (.authority purpose (.mixedOwnership withCreate withoutCreate))
    else do
      let canSet ← ask w.canSet
      if !canSet then
        throw (.authority purpose (.capabilityAbsent currentUser withoutCreate))
      else do
        beginNested w.savepoint
        tryCatch (handshake w purpose) fun e => do
          abortHandshakeWindow w purpose currentUser
          throw e
        pure (some currentUser)

/-- `_close_tenant_ddl_authority`. -/
def closeTenantDdlAuthority : Option String → Run Unit
  | none => pure ()
  | some token => do
    resetRole w.close
    let restored ← askCurrentUser w.closed
    if restored ≠ token then throw (.authority purpose (.notRestored token restored))
    else pure ()

/-- The `try` block of the window. -/
def bodyInSavepoint : Run Unit := do
  beginNested w.nested
  tryCatch (do
    w.body.run
    release w.commit) fun e => do
      if e.isException then rollbackSavepoint w.rollbackNested
      else pure ()
      throw e

/-- `_tenant_ddl_authority_window`. -/
def tenantDdlAuthorityWindow (schemas : List String) : Run Unit := do
  let token ← openTenantDdlAuthority w purpose schemas
  match token with
  | none => w.body.run
  | some token => (bodyInSavepoint w).always (closeTenantDdlAuthority w purpose (some token))

end AuthorityWindow

end Mpango
