import Mpango.Library.Command
import Mpango.Library.Table
import Mpango.Model.Tokens

/-!
# Tenants and their users

The rows that decide whether a token is good: `public.wholesalers` with their registrations and
bindings, and in each tenant's schema the users, their roles and what these permit.
-/

namespace Mpango.Access

open Tenancy

/-! ## Rows -/

structure Wholesaler where
  id : Uuid
  code : String
  status : String
  isDeleted : Bool := false
deriving DecidableEq

instance : Keyed Wholesaler Uuid := ⟨Wholesaler.id⟩

/-- `get_tenant_schema` and `derive_schema_from_id` -/
def schemaOf (id : Uuid) : String := "t_" ++ id.hex

def Wholesaler.tenantSchema (w : Wholesaler) : String := schemaOf w.id

/-- What the endpoints sign: identifiers in their canonical spelling, and a tenant's own schema. -/
def Signed (token : TokenPayload) : Prop :=
  (∃ id : Uuid, token.userId = id.text) ∧ (token.isIdentityOnly = false →
    ∃ id : Uuid, token.tenantId = some id.text ∧ token.tenantSchema = some (schemaOf id))

structure Permission where
  code : String
  isDeleted : Bool := false
deriving DecidableEq

structure Role where
  id : Uuid
  name : String
  isDeleted : Bool := false
  permissions : List Permission := []
deriving DecidableEq

instance : Keyed Role Uuid := ⟨Role.id⟩

/-- A user with its rows of `user_roles`. -/
structure User where
  id : Uuid
  email : String
  passwordHash : String
  isActive : Bool := true
  isDeleted : Bool := false
  roleIds : List Uuid := []
deriving DecidableEq

instance : Keyed User Uuid := ⟨User.id⟩

/-- The tables of a tenant's schema; emails are unique in it. -/
structure TenantTables where
  users : Table User
  roles : Table Role
  emails : ∀ u ∈ users, ∀ v ∈ users, u.email = v.email → u = v

namespace TenantTables

/-- The roles a user holds. -/
def rolesOf (tables : TenantTables) (user : User) : List Role :=
  user.roleIds.filterMap tables.roles.find?

def roleNames (tables : TenantTables) (user : User) : List String :=
  (tables.rolesOf user).map Role.name

/-- What the roles of a user permit. -/
def permissionCodes (tables : TenantTables) (user : User) : List String :=
  (tables.rolesOf user).flatMap fun role => role.permissions.map Permission.code

end TenantTables

/-- A row of `public.tenant_registrations`. -/
structure Registration where
  wholesalerId : Uuid
  tenantSchema : Option String
  status : String
  isDeleted : Bool := false
deriving DecidableEq

/-- A row of `public.wholesaler_retailer_bindings`. -/
structure Binding where
  wholesalerId : Uuid
  retailerId : Uuid
  tenantUserId : Option Uuid
  status : String
  isDeleted : Bool := false
deriving DecidableEq

structure Retailer where
  id : Uuid
  isDeleted : Bool := false
deriving DecidableEq

instance : Keyed Retailer Uuid := ⟨Retailer.id⟩

/-- Everything authentication reads. -/
structure Directory where
  wholesalers : Table Wholesaler
  registrations : List Registration
  bindings : List Binding
  retailers : Table Retailer
  /-- The tenant schemas that exist. -/
  schemas : String → Option TenantTables

/-! ## The tenant context of a token -/

namespace Directory

variable (directory : Directory)

/-- `assert_tenant_active`, which reads the tenant's current row; refusals are response statuses. -/
def assertTenantActive (tenantId : Option String) : Except ℕ Unit := do
  let id ← orRefuse (tenantId.bind Uuid.parse) 401
  let wholesaler ← orRefuse (directory.wholesalers.find? id) 401
  refuseIf (wholesaler.isDeleted = true) 401
  refuseIf (wholesaler.status ≠ "active") 401

/-- `resolve_tenant_context`: the token's user as it stands in the schema the token names, with the
tables it was found in. -/
def resolveTenantContext (token : TokenPayload) : Except ℕ (TenantTables × User) := do
  let schema ← orRefuse token.tenantSchema 401
  refuseIf (schema = "") 401
  refuseIf (isSafeIdentifier schema = false) 500
  let userId ← orRefuse (Uuid.parse token.userId) 401
  let tables ← orRefuse (directory.schemas schema) 401
  let user ← orRefuse (tables.users.find? userId) 401
  refuseIf (user.isDeleted = true) 401
  refuseIf (user.isActive = false) 401
  directory.assertTenantActive token.tenantId
  return (tables, user)

/-- The tenant part of `AuthenticationMiddleware`: an identity token has no tenant context. -/
def tenantContext (token : TokenPayload) : Except ℕ (Option (TenantTables × User)) :=
  if token.isIdentityOnly then .ok none
  else (directory.resolveTenantContext token).map some

/-- `get_wholesaler_by_id` -/
def liveWholesaler? (id : Option String) : Option Wholesaler :=
  (id.bind Uuid.parse).bind fun id =>
    (directory.wholesalers.find? id).filter fun w => !w.isDeleted

end Directory

end Mpango.Access
