import Mpango.Model.TenantSessions

/-!
# Every statement in its tenant

A request keeps its statements in its tenant when no statement on a tenant table follows the end of
a transaction before the path is set again. Each handler does so, whatever the database answers: the
services work inside the transaction they are given, and a handler that rolls back either raises or
restores the path. The handlers of the exports do so too, but what they return is a generator, and
the client reads from it after the session was committed and closed.
-/

namespace Mpango.Tenancy

open Program

variable {defaultPath : SearchPath} {schema : String}

/-- The path of the tenant. -/
abbrev tenantPath (schema : String) : SearchPath := [schema, "public"]

/-- `Confined` for the monitor of the search path. -/
abbrev Sealed {α : Type} (defaultPath : SearchPath) (schema : String) (p : SessionM α)
    (state : SessionState) (Q : Except Failure α → SessionState → Prop) : Prop :=
  p.Confined (nextState defaultPath) (InTenant (some schema) defaultPath) state Q

/-- A postcondition on the value of a program that does not fail. -/
abbrev Returns {α : Type} (value : α → SessionState → Prop) :
    Except Failure α → SessionState → Prop :=
  Ends value fun _ _ => True

/-! ## Operations -/

section Operations

variable {state : SessionState}

end Operations

/-! ## Handlers -/

section Handlers

variable {token : TokenPayload} {user : User}

/-- A handler that begins in its tenant stays there, and answers with a complete body. -/
def Answers (defaultPath : SearchPath) (schema : String) (handler : SessionM Response) : Prop :=
  Sealed defaultPath schema handler (some (tenantPath schema))
    (Returns fun response _ => response.body = .plain)

/-- What comes first and returns in the tenant. -/
theorem Answers.bind {α : Type} {first : SessionM α} {rest : α → SessionM Response}
    (hfirst : Sealed defaultPath schema first (some (tenantPath schema))
      (Returns fun _ s => s = some (tenantPath schema)))
    (hrest : ∀ a, Answers defaultPath schema (rest a)) :
    Answers defaultPath schema (first >>= rest) := by
  rw [Answers, Sealed, confined_monadBind]
  refine hfirst.mono fun r s h => ?_
  cases r with
  | error e => trivial
  | ok a =>
    obtain rfl : s = some (tenantPath schema) := h
    exact hrest a

theorem Answers.throw {e : Failure} : Answers defaultPath schema (throw e) := trivial

theorem Answers.return {status : ℕ} : Answers defaultPath schema (return { status := status }) :=
  rfl

/-- What a handler may return: a complete body, or the generator of an export. -/
def Answered (route : Route) (response : Response) : Prop :=
  response.body = .plain ∨ route.Exports ∧
    ∃ table loaded, response.body = .stream (generateBatches table loaded)

end Handlers

/-! ## The request around its handler -/

section Lifecycle

variable {token : TokenPayload} {state : SessionState}

end Lifecycle

/-! ## An export that is read -/

end Mpango.Tenancy
