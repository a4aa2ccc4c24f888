import Mpango.Model.Directory

/-!
# The endpoints that issue tokens

`api/v1/auth.py` and `api/v1/client/auth.py`: a login names the tenants in which the password
matched, `select-tenant` exchanges an identity token for a contextual one, `refresh` replaces a
refresh token by a new pair, and a retailer logs in at one supplier. Each of them reads the rows it
needs; between two calls the directory may change in any way.
-/

namespace Mpango.Access

open Tenancy

/-- What the endpoints use of the settings, of Python and of passlib. -/
structure Host where
  accessSeconds : ℕ
  refreshSeconds : ℕ
  lower : String → String
  upper : String → String
  verifyPassword : String → String → Bool

variable (host : Host)

/-- `str(email).strip().lower()` -/
def Host.normalizeEmail (email : String) : String := host.lower (strip email)

/-! ## Tokens -/

/-- When a token that is issued now expires. -/
def Host.expiry (now : ℤ) (tokenType : String) : ℤ :=
  now + if tokenType = "access" then host.accessSeconds else host.refreshSeconds

/-- `create_identity_token` -/
def createIdentityToken (now : ℤ) (userId : String) (roles : List String) (tokenType : String)
    (tmap : List (String × String)) : TokenPayload where
  userId := userId
  roles := roles
  exp := some (host.expiry now tokenType)
  type := tokenType
  tmap := tmap

/-- `create_contextual_token` -/
def createContextualToken (now : ℤ) (userId : String) (roles : List String)
    (tenantId tenantSchema : Option String) (tokenType : String) : TokenPayload where
  userId := userId
  roles := roles
  tenantId := tenantId
  tenantSchema := tenantSchema
  exp := some (host.expiry now tokenType)
  type := tokenType

def identityPair (now : ℤ) (userId : String) (roles : List String)
    (tmap : List (String × String)) : List TokenPayload :=
  [createIdentityToken host now userId roles "access" tmap,
    createIdentityToken host now userId roles "refresh" tmap]

def contextualPair (now : ℤ) (userId : String) (roles : List String)
    (tenantId tenantSchema : Option String) : List TokenPayload :=
  [createContextualToken host now userId roles tenantId tenantSchema "access",
    createContextualToken host now userId roles tenantId tenantSchema "refresh"]

/-- `decode_token`: a token that was not signed here is invalid, and one past its time is too. -/
def decodeToken (issued : List TokenPayload) (now : ℤ) (token : TokenPayload) :
    Except ℕ TokenPayload := do
  refuseIf (token ∉ issued) 401
  refuseIf (token.exp.any (· < now)) 401
  return token

/-! ## Login -/

/-- `TenantUserMatch` -/
structure TenantUserMatch where
  wholesaler : Wholesaler
  user : User
  roles : List String
deriving DecidableEq

/-- The active copy of an email in a tenant. A schema that cannot be read is skipped. -/
def candidateMatch? (directory : Directory) (email : String) (w : Wholesaler) :
    Option TenantUserMatch :=
  (directory.schemas w.tenantSchema).bind fun tables =>
    match tables.users.select (·.email = email) with
    | [user] => if user.isActive then some ⟨w, user, tables.roleNames user⟩ else none
    | _ => none

/-- `find_user_across_tenants`: the copies whose own hash verifies, over all tenants that are not
deleted, in the order of their creation. -/
def findUserAcrossTenants (directory : Directory) (email password : String) :
    List TenantUserMatch :=
  ((directory.wholesalers.select fun w => !w.isDeleted).filterMap
    (candidateMatch? directory email)).filter fun m =>
      host.verifyPassword password m.user.passwordHash

/-- `sorted({r for m in matches for r in m.roles})` -/
def aggregatedRoles (found : List TenantUserMatch) : List String :=
  (found.flatMap TenantUserMatch.roles).dedup.insertionSort (· ≤ ·)

def tenantUserMap (found : List TenantUserMatch) : List (String × String) :=
  found.map fun m => (m.wholesaler.id.text, m.user.id.text)

def login (directory : Directory) (now : ℤ) (email password : String) :
    Except ℕ (List TokenPayload) :=
  match findUserAcrossTenants host directory (host.normalizeEmail email) password with
  | [] => .error 401
  | first :: others =>
    let found := first :: others
    .ok (identityPair host now first.user.id.text (aggregatedRoles found) (tenantUserMap found))

/-! ## Tenant selection -/

/-- The user a token stands for in a tenant: by its map, if it has one. -/
def effectiveUserId (token : TokenPayload) (w : Wholesaler) : Except ℕ Uuid :=
  if token.isIdentityOnly ∧ token.tmap ≠ [] then do
    let userId ← orRefuse (token.tmap.lookup w.id.text) 403
    refuseIf (userId = "") 403
    orRefuse (Uuid.parse userId) 500
  else orRefuse (Uuid.parse token.userId) 500

/-- `select_tenant`: neither the tenant's status nor the user's deletion is looked at. -/
def selectTenant (directory : Directory) (now : ℤ) (tenantId : String) (token : TokenPayload) :
    Except ℕ (List TokenPayload) := do
  let w ← orRefuse (directory.liveWholesaler? (some tenantId)) 404
  let userId ← effectiveUserId token w
  let tables ← orRefuse (directory.schemas w.tenantSchema) 500
  let user ← orRefuse (tables.users.find? userId) 403
  refuseIf (user.isActive = false) 403
  return contextualPair host now user.id.text (tables.roleNames user) (some w.id.text)
    (some w.tenantSchema)

/-! ## Refresh -/

/-- `_validate_contextual_refresh_subject` -/
def validateContextualRefreshSubject (directory : Directory) (payload : TokenPayload) :
    Except ℕ Unit := do
  let w ← orRefuse (directory.liveWholesaler? payload.tenantId) 401
  refuseIf (w.status ≠ "active") 401
  refuseIf (isSafeIdentifier w.tenantSchema = false) 500
  let userId ← orRefuse (Uuid.parse payload.userId) 401
  let tables ← orRefuse (directory.schemas w.tenantSchema) 401
  let user ← orRefuse (tables.users.find? userId) 401
  refuseIf (user.isDeleted = true) 401
  refuseIf (user.isActive = false) 401

/-- `refresh_token`, of a decoded token: the roles are those of its claims. -/
def refreshToken (directory : Directory) (now : ℤ) (payload : TokenPayload) :
    Except ℕ (List TokenPayload) := do
  refuseIf (payload.type ≠ "refresh") 401
  if payload.isIdentityOnly then
    return identityPair host now payload.userId payload.roles payload.tmap
  else do
    validateContextualRefreshSubject directory payload
    return contextualPair host now payload.userId payload.roles payload.tenantId
      payload.tenantSchema

/-! ## The retailer's login -/

/-- `WHOLESALER_CODE_RE`; the `$` also matches before a final line feed. -/
def isWholesalerCode (code : String) : Bool :=
  let cs := code.toList
  let cs := if cs.getLast? = some '\n' then cs.dropLast else cs
  !cs.isEmpty && cs.all fun c => c.isUpper || c.isDigit

/-- The registration that a code stands for: an active one of an active wholesaler. -/
def activeRegistrations (directory : Directory) (code : String) :
    List (Wholesaler × String) :=
  directory.registrations.filterMap fun tr => do
    let w ← directory.wholesalers.find? tr.wholesalerId
    let schema ← tr.tenantSchema
    if w.code = code ∧ w.isDeleted = false ∧ w.status = "active" ∧ tr.isDeleted = false ∧
        tr.status = "active" then
      some (w, schema)
    else
      none

def exactlyOne {α : Type} : List α → Option α
  | [a] => some a
  | _ => none

/-- `retailer_login` -/
def retailerLogin (directory : Directory) (now : ℤ) (email wholesalerCode password : String) :
    Except ℕ (List TokenPayload) := do
  let code := host.upper (strip wholesalerCode)
  refuseIf (isWholesalerCode code = false) 422
  let (w, schema) ← orRefuse (exactlyOne (activeRegistrations directory code)) 401
  refuseIf (isSafeIdentifier schema = false) 500
  refuseIf (schema ≠ schemaOf w.id) 401
  let tables ← orRefuse (directory.schemas schema) 500
  let user ← orRefuse
    ((tables.users.select fun u => u.email = host.normalizeEmail email ∧ u.isDeleted = false).head?)
    401
  refuseIf (user.isActive = false) 401
  refuseIf (host.verifyPassword password user.passwordHash = false) 401
  let binding ← orRefuse
    (directory.bindings.find? fun b =>
      b.wholesalerId = w.id ∧ b.tenantUserId = some user.id ∧ b.isDeleted = false) 401
  refuseIf (binding.status ≠ "active") 401
  refuseIf (((tables.rolesOf user).any fun role =>
    role.name = "retailer_operator" ∧ role.isDeleted = false) = false) 401
  let retailer ← orRefuse (directory.retailers.find? binding.retailerId) 401
  refuseIf (retailer.isDeleted = true) 401
  return contextualPair host now user.id.text ["retailer_operator"] (some w.id.text) (some schema)

/-! ## Runs -/

/-- The directory, the time, and the tokens that were signed. -/
structure State where
  directory : Directory
  now : ℤ
  issued : List TokenPayload := []

inductive Event where
  /-- Rows are changed: users, roles, tenants, bindings. -/
  | change (directory : Directory)
  | wait (seconds : ℕ)
  | login (email password : String)
  | selectTenant (tenantId : String) (token : TokenPayload)
  | refresh (token : TokenPayload)
  | retailerLogin (email wholesalerCode password : String)

/-- The tokens an event is answered with. -/
def answer (s : State) : Event → Except ℕ (List TokenPayload)
  | .change _ => .ok []
  | .wait _ => .ok []
  | .login email password => Access.login host s.directory s.now email password
  | .selectTenant tenantId token => do
    let token ← decodeToken s.issued s.now token
    let _ ← s.directory.tenantContext token
    Access.selectTenant host s.directory s.now tenantId token
  | .refresh token => do
    let payload ← decodeToken s.issued s.now token
    refreshToken host s.directory s.now payload
  | .retailerLogin email wholesalerCode password =>
    Access.retailerLogin host s.directory s.now email wholesalerCode password

def issue (s : State) : Except ℕ (List TokenPayload) → State
  | .ok tokens => { s with issued := s.issued ++ tokens }
  | .error _ => s

def step (s : State) (e : Event) : State :=
  match e with
  | .change directory => { s with directory := directory }
  | .wait seconds => { s with now := s.now + seconds }
  | e => issue s (answer host s e)

/-! ## What is asked -/

/-- The user of a tenant is live: both exist, and neither is deleted, suspended or inactive. -/
structure Live (directory : Directory) (w : Wholesaler) (tables : TenantTables) (user : User) :
    Prop where
  wholesaler : w ∈ directory.wholesalers
  schema : directory.schemas w.tenantSchema = some tables
  member : user ∈ tables.users
  tenantKept : w.isDeleted = false
  tenantActive : w.status = "active"
  userKept : user.isDeleted = false
  userActive : user.isActive = true

/-- A contextual token is for a live user of the tenant it names, with no roles but the user's. -/
def Entitled (directory : Directory) (token : TokenPayload) : Prop :=
  ∃ w tables user, Live directory w tables user ∧ token.tenantId = some w.id.text ∧
    token.tenantSchema = some w.tenantSchema ∧ token.userId = user.id.text ∧
    ∀ role ∈ token.roles, role ∈ tables.roleNames user

/-- An entry of an identity token's map names a live user. -/
def MapsLive (directory : Directory) (entry : String × String) : Prop :=
  ∃ w tables user, Live directory w tables user ∧ entry = (w.id.text, user.id.text)

/-- The event gives authority only to those who have it at that moment. -/
def FreshAuthority (s : State) (e : Event) : Prop :=
  ∀ tokens, answer host s e = .ok tokens → ∀ token ∈ tokens,
    (token.isIdentityOnly = false → Entitled s.directory token) ∧
      ∀ email password, e = .login email password →
        ∀ entry ∈ token.tmap, MapsLive s.directory entry

/-- No revocation that the endpoint does not look at has taken place. -/
def Unrevoked (s : State) : Event → Prop
  | .login email password =>
    -- an active copy with this password is not deleted, and its tenant is active
    ∀ w ∈ s.directory.wholesalers, w.isDeleted = false → ∀ tables,
      s.directory.schemas w.tenantSchema = some tables → ∀ user ∈ tables.users,
        user.email = host.normalizeEmail email → user.isActive = true →
          host.verifyPassword password user.passwordHash = true →
            w.status = "active" ∧ user.isDeleted = false
  | .selectTenant tenantId token =>
    -- the active user the token stands for is not deleted, and the tenant is active
    decodeToken s.issued s.now token = .ok token → (s.directory.tenantContext token).isOk →
      ∀ w, s.directory.liveWholesaler? (some tenantId) = some w → ∀ userId,
        effectiveUserId token w = .ok userId → ∀ tables,
          s.directory.schemas w.tenantSchema = some tables → ∀ user,
            tables.users.find? userId = some user → user.isActive = true →
              w.status = "active" ∧ user.isDeleted = false
  | .refresh token =>
    -- a live user still holds the roles of the token that is refreshed
    decodeToken s.issued s.now token = .ok token → token.type = "refresh" →
      token.isIdentityOnly = false → ∀ w tables user, Live s.directory w tables user →
        token.tenantId = some w.id.text → token.userId = user.id.text →
          ∀ role ∈ token.roles, role ∈ tables.roleNames user
  | _ => True

end Mpango.Access
