import Mathlib.Logic.Function.Basic
import Mpango.Model.Directory

/-!
# A request through the middlewares

`IdempotencyMiddleware` is registered last, so it is the outermost: a request with an
`X-Idempotency-Key` is answered from the store before `AuthenticationMiddleware` has looked at its
token. Behind the two stand the rate limiter and what the endpoint requires of its caller.

A request arrives, where the store is looked up and marked without a suspension, and is finished
later: in between other requests come and go, time passes, and the directory may change in any way.
-/

namespace Mpango.Gateway

open Access Tenancy

/-! ## Requests -/

structure Request where
  method : String
  path : String
  authorization : Option String := none
  idempotencyKey : Option String := none
  body : ByteArray := ⟨#[]⟩

/-- What the middlewares use of `jose` and `hashlib`. -/
structure Codec where
  /-- `decode_token` at a time: an expired token has no payload. -/
  decode : ℤ → String → Option TokenPayload
  signed : ∀ {now raw token}, decode now raw = some token → Signed token
  identity : ∀ {now raw token}, decode now raw = some token → token.isIdentityOnly = true →
    token.tenantSchema = none
  decode_empty : ∀ now, decode now "" = none
  decode_earlier : ∀ {now later raw token}, now ≤ later → decode later raw = some token →
    decode now raw = some token
  /-- `sha256(…).hexdigest()` -/
  hexdigest : ByteArray → String
  length_hexdigest : ∀ bytes, (hexdigest bytes).length = 64

variable (codec : Codec)

/-! ## Authentication -/

/-- `extract_bearer_token` -/
def extractBearerToken (authorization : Option String) : Except ℕ (Option String) :=
  match authorization with
  | none => .ok none
  | some header =>
    if header = "" then .ok none
    else if (partition ' ' header).1.toLower ≠ "bearer" ∨ (partition ' ' header).2 = "" then
      .error 401
    else .ok (some (strip (partition ' ' header).2))

/-- `request.state` behind the authentication middleware. -/
structure Caller where
  token : TokenPayload
  context : Option (TenantTables × User)

/-- `authenticate` and `resolve_tenant_context`; a request without a token passes. -/
def authenticate (directory : Directory) (now : ℤ) (r : Request) : Except ℕ (Option Caller) := do
  match ← extractBearerToken r.authorization with
  | none => return none
  | some raw => do
    let token ← orRefuse (codec.decode now raw) 401
    let context ← directory.tenantContext token
    return some ⟨token, context⟩

/-- What an endpoint asks of its caller. -/
inductive Requirement where
  /-- `get_current_user_context` -/
  | authenticated
  /-- `get_tenant_context` -/
  | tenant
  /-- `RequirePermission` -/
  | permission (code : String)
  /-- `RequirePlatformAdmin` -/
  | platformAdmin
deriving DecidableEq

def Requirement.check (caller : Option Caller) : Requirement → Except ℕ Unit
  | .authenticated => do
    let _ ← orRefuse caller 401
    return ()
  | .tenant => do
    let _ ← orRefuse (caller.bind Caller.context) 401
    return ()
  | .permission code => do
    let caller ← orRefuse caller 401
    if caller.token.isIdentityOnly && caller.token.isSuperAdmin then
      return ()
    else do
      let (tables, user) ← orRefuse caller.context 403
      refuseIf (caller.token.isSuperAdmin = false ∧ code ∉ tables.permissionCodes user) 403
  | .platformAdmin => do
    let caller ← orRefuse caller 401
    -- both fields, where `isIdentityOnly` is content with one
    refuseIf (¬(caller.token.tenantId = none ∧ caller.token.tenantSchema = none ∧
      caller.token.isSuperAdmin = true)) 403

/-! ## The idempotency key -/

/-- The token the idempotency middleware reads off the header, in its own way. -/
def presentedToken (now : ℤ) (r : Request) : Option TokenPayload :=
  r.authorization.bind fun header =>
    if "bearer ".toList.isPrefixOf header.toLower.toList then
      codec.decode now (strip (partition ' ' header).2)
    else
      none

/-- `value or "anonymous"` -/
def orAnonymous (value : Option String) : String :=
  (value.filter (· ≠ "")).getD "anonymous"

/-- What the key of an entry is the digest of. A request whose token cannot be decoded counts as
anonymous: the authentication layer is to answer it. -/
def keyText (token : Option TokenPayload) (r : Request) (idempotencyKey : String) : String :=
  orAnonymous (token.bind TokenPayload.tenantSchema) ++ ":" ++
    orAnonymous (token.map TokenPayload.userId) ++ ":" ++ r.method ++ ":" ++ r.path ++ ":" ++
    codec.hexdigest r.body ++ ":" ++ idempotencyKey

/-- `_make_cache_key` -/
def makeCacheKey (token : Option TokenPayload) (r : Request) (idempotencyKey : String) : String :=
  codec.hexdigest (keyText codec token r idempotencyKey).toUTF8

/-- `IDEMPOTENT_METHODS` -/
def idempotentMethods : List String := ["POST", "PUT", "PATCH", "DELETE"]

/-- The key of a request that is to be answered once. -/
def Request.once? (r : Request) : Option String :=
  if r.method ∈ idempotentMethods then r.idempotencyKey.filter (· ≠ "") else none

/-! ## Answers -/

structure Answer where
  status : ℕ
  body : String := ""
  /-- `X-Idempotency-Replayed` -/
  replayed : Bool := false
deriving DecidableEq

def Answer.isSuccess (answer : Answer) : Prop := 200 ≤ answer.status ∧ answer.status < 300

instance (answer : Answer) : Decidable answer.isSuccess := inferInstanceAs (Decidable (_ ∧ _))

/-- What a request comes to behind the idempotency middleware. A cancellation is no `Exception`. -/
inductive Outcome where
  | answered (status : ℕ) (body : String)
  | raised
  | cancelled
deriving DecidableEq

/-- What a client sees of an outcome. -/
def Outcome.answer : Outcome → Option Answer
  | .answered status body => some { status := status, body := body }
  | .raised => some { status := 500 }
  | .cancelled => none

/-! ## The state -/

/-- An entry of the store. -/
inductive Entry where
  | inProgress (expiresAt : ℤ)
  | finished (answer : Answer) (expiresAt : ℤ)
deriving DecidableEq

/-- A request that has been handed on, with the token its key was made with. -/
structure Flight where
  request : Request
  token : Option TokenPayload

/-- The key of its entry, for a request that is to be answered once. -/
def Flight.cacheKey? (flight : Flight) : Option String :=
  flight.request.once?.map (makeCacheKey codec flight.token flight.request)

/-- What an answer was stored for. -/
structure Origin where
  flight : Flight
  answer : Answer
  time : ℤ

/-- The middlewares do not read `origin`. -/
structure State where
  directory : Directory
  now : ℤ
  store : String → Option Entry := fun _ => none
  flights : ℕ → Option Flight := fun _ => none
  next : ℕ := 0
  origin : String → Option Origin := fun _ => none

/-! ## Arrival -/

/-- What the store says to a request. -/
inductive Lookup where
  | proceed
  /-- A request with the key is in progress; the exception leaves the middleware as a 500. -/
  | conflict
  | replay (answer : Answer)
deriving DecidableEq

/-- `_get_cached_response`: the mark of a request in progress is seen before its expiry is. -/
def lookup (s : State) (flight : Flight) : Lookup :=
  match (flight.cacheKey? codec).bind s.store with
  | none => .proceed
  | some (.inProgress _) => .conflict
  | some (.finished answer expiresAt) => if expiresAt < s.now then .proceed else .replay answer

/-- The request with the token that is presented now. -/
def State.flight (s : State) (r : Request) : Flight := ⟨r, presentedToken codec s.now r⟩

/-- Change the entry of a request, if it is to have one. -/
def putEntry (store : String → Option Entry) (cacheKey : Option String) (entry : Option Entry) :
    String → Option Entry :=
  match cacheKey with
  | none => store
  | some k => Function.update store k entry

/-- `_mark_in_progress`, and the request is handed on. -/
def markInProgress (s : State) (flight : Flight) : State :=
  { s with
    store := putEntry s.store (flight.cacheKey? codec) (some (.inProgress (s.now + 5 * 60)))
    flights := Function.update s.flights s.next (some flight)
    next := s.next + 1 }

def arrive (s : State) (r : Request) : State :=
  match lookup codec s (s.flight codec r) with
  | .proceed => markInProgress codec s (s.flight codec r)
  | _ => s

/-! ## Behind the store -/

/-- How a request fares behind the authentication middleware. -/
structure Handling where
  /-- The rate limit of its caller, or of its address, is exhausted. -/
  limited : Bool := false
  outcome : Outcome
  /-- The directory as the handler leaves it. -/
  directory : Directory

/-- The endpoints, by method and path. -/
abbrev Api := String → String → List Requirement

variable (api : Api)

/-- A refusal of the authentication layer; one that is no HTTP exception goes up. -/
def refused (limited : Bool) (code : ℕ) : Outcome :=
  if code = 500 then .raised else .answered (if limited then 429 else code) ""

/-- `AuthenticationMiddleware` and everything behind it. -/
def callNext (s : State) (r : Request) (h : Handling) : Outcome × Directory :=
  match authenticate codec s.directory s.now r with
  | .error code => (refused h.limited code, s.directory)
  | .ok caller =>
    if h.limited then (.answered 429 "", s.directory)
    else
      match (api r.method r.path).forM (Requirement.check caller) with
      | .error code => (.answered code "", s.directory)
      | .ok () => (h.outcome, h.directory)

/-- `IDEMPOTENCY_TTL` -/
def idempotencyTtl : ℤ := 24 * 60 * 60

/-- The entry of a request that ends: the answer, if it is a success; nothing, if an exception was
raised. Another answer leaves the entry as it is. -/
def settle (now : ℤ) (entry : Option Entry) : Outcome → Option Entry
  | .answered status body =>
    if (⟨status, body, false⟩ : Answer).isSuccess then
      some (.finished ⟨status, body, false⟩ (now + idempotencyTtl))
    else entry
  | .raised => none
  | .cancelled => entry

def State.putOrigin (s : State) (flight : Flight) (outcome : Outcome) : String → Option Origin :=
  match flight.cacheKey? codec, outcome.answer with
  | some k, some answer => Function.update s.origin k (some ⟨flight, answer, s.now⟩)
  | _, _ => s.origin

/-- The rest of `dispatch`. -/
def finish (s : State) (i : ℕ) (flight : Flight) (h : Handling) : State :=
  let (outcome, directory) := callNext codec api s flight.request h
  let cacheKey := flight.cacheKey? codec
  { s with
    directory := directory
    store := putEntry s.store cacheKey (settle s.now (cacheKey.bind s.store) outcome)
    flights := Function.update s.flights i none
    origin := s.putOrigin codec flight outcome }

/-! ## Runs -/

inductive Event where
  /-- Rows are changed: users, roles, tenants. -/
  | change (directory : Directory)
  | wait (seconds : ℕ)
  | arrive (r : Request)
  /-- A request in flight ends. -/
  | finish (i : ℕ) (h : Handling)

def step (s : State) : Event → State
  | .change directory => { s with directory := directory }
  | .wait seconds => { s with now := s.now + seconds }
  | .arrive r => arrive codec s r
  | .finish i h =>
    match s.flights i with
    | none => s
    | some flight => finish codec api s i flight h

/-- The store is empty when the process starts. -/
def start (directory : Directory) (now : ℤ) : State := { directory := directory, now := now }

/-! ## Keys -/

/-- No two requests in flight have the same key. -/
def Exclusive (s : State) : Prop :=
  ∀ i j f g k, s.flights i = some f → s.flights j = some g → f.cacheKey? codec = some k →
    g.cacheKey? codec = some k → i = j

/-- An answer from the store is what the request it was stored for was answered with, under the same
key and within its time. -/
def Returned (s : State) : Prop :=
  ∀ r answer, lookup codec s (s.flight codec r) = .replay answer → ∃ k origin,
    (s.flight codec r).cacheKey? codec = some k ∧ s.origin k = some origin ∧
      origin.flight.cacheKey? codec = some k ∧ origin.answer = answer ∧
      s.now ≤ origin.time + idempotencyTtl

/-- A request with the key is answered that one is in progress. -/
def Blocked (s : State) (k : String) : Prop := ∃ expiresAt, s.store k = some (.inProgress expiresAt)

/-- A key is blocked only by a request in flight. -/
def Released (s : State) : Prop :=
  ∀ k, Blocked s k → ∃ i f, s.flights i = some f ∧ f.cacheKey? codec = some k

structure KeyLaw (s : State) : Prop where
  exclusive : Exclusive codec s
  returned : Returned codec s
  released : Released codec s

/-- A request with a key ends with a success or an exception. -/
def Concludes (s : State) : Event → Prop
  | .finish i h => ∀ f, s.flights i = some f → f.cacheKey? codec ≠ none →
    (callNext codec api s f.request h).1 = .raised ∨
      ∃ status body, (callNext codec api s f.request h).1 = .answered status body ∧
        (⟨status, body, false⟩ : Answer).isSuccess
  | _ => True

/-! ## Authority -/

/-- The authentication layer and the endpoint accept the request. -/
def Authorised (directory : Directory) (now : ℤ) (r : Request) : Prop :=
  ∃ caller, authenticate codec directory now r = .ok caller ∧
    ∀ requirement ∈ api r.method r.path, requirement.check caller = .ok ()

/-- The same user of the same tenant, by their tokens. -/
def SameCaller (token token' : Option TokenPayload) : Prop :=
  ∃ t t', token = some t ∧ token' = some t' ∧ t.userId = t'.userId ∧
    t.tenantSchema = t'.tenantSchema

/-- A stored answer is one to this request: it was stored for the same method, path and body, and
for the same caller, who is still authorised, if the endpoint asks for one. -/
def AnswersTo (s : State) (origin : Flight) (r : Request) : Prop :=
  origin.request.method = r.method ∧ origin.request.path = r.path ∧ origin.request.body = r.body ∧
    (api r.method r.path ≠ [] → Authorised codec api s.directory s.now r ∧
      SameCaller origin.token (presentedToken codec s.now r))

/-- The directory still grants a token what an endpoint requires. -/
def Grants (directory : Directory) (token : TokenPayload) (requirements : List Requirement) : Prop :=
  ∃ context, directory.tenantContext token = .ok context ∧
    ∀ requirement ∈ requirements, requirement.check (some ⟨token, context⟩) = .ok ()

/-- What the digest of a request's entry is taken of. -/
def Flight.keyText? (flight : Flight) : Option String :=
  flight.request.once?.map (keyText codec flight.token flight.request)

/-- A request that finds a stored answer has the idempotency key of the request it was stored for,
its token has not been revoked, and no two digests are the same by accident. -/
def Undisturbed (s : State) : Event → Prop
  | .arrive r => ∀ k answer expiresAt origin, (s.flight codec r).cacheKey? codec = some k →
    s.store k = some (.finished answer expiresAt) → s.now ≤ expiresAt → s.origin k = some origin →
      if origin.flight.keyText? codec = (s.flight codec r).keyText? codec then
        origin.flight.request.idempotencyKey = r.idempotencyKey ∧
          (codec.hexdigest origin.flight.request.body = codec.hexdigest r.body →
            origin.flight.request.body = r.body) ∧
          ∀ t, presentedToken codec s.now r = some t → api r.method r.path ≠ [] →
            Grants s.directory t (api r.method r.path)
      else AnswersTo codec api s origin.flight r
  | _ => True

end Mpango.Gateway
