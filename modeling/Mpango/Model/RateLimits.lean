import Mpango.Model.Idempotency

/-!
# The rate limiter behind the gateway

`nginx/gateway.conf`, `core/rate_limiter.py` and `api/middleware/rate_limiting.py`. A request
reaches the backend with the headers the gateway has set. The idempotency middleware may answer it;
the authentication middleware may reject it, and then counts it itself; the limiter counts the
rest. Redis answers throughout. A counter expires only after its window is over, so its expiry is
left out.
-/

namespace Mpango.Gateway

open Access Tenancy

/-! ## The gateway -/

/-- A path the gateway passes to the backend. -/
def isBackendPath (path : String) : Bool :=
  ["/api/", "/health", "/openapi.json", "/docs", "/redoc"].any (fun location =>
    location.toList.isPrefixOf path.toList) || path ∈ ["/healthz", "/readyz", "/metrics"]

/-- `$remote_addr`: the address of a peer in text. -/
@[ext] structure Peer where
  address : String
  nonempty : address ≠ "" := by decide
  plain : ∀ c ∈ address.toList, c ≠ ',' ∧ isBlank c = false
deriving DecidableEq

/-- A request as a client sends it, from an address and with `X-Forwarded-For` headers of its
choice. -/
structure Hit where
  request : Request
  peer : Peer
  forwardedFor : List String := []
  routed : isBackendPath request.path = true := by decide

structure ProxyHeaders where
  xForwardedFor : Option String
  xRealIp : Option String

/-- `proxy_set_header`: the address is put behind what the client has sent. -/
def Hit.proxyHeaders (hit : Hit) : ProxyHeaders where
  xForwardedFor := some (String.intercalate ", " (hit.forwardedFor ++ [hit.peer.address]))
  xRealIp := some hit.peer.address

/-! ## Buckets -/

/-- `_get_client_ip` -/
def getClientIp (headers : ProxyHeaders) (host : Option String) : String :=
  match headers.xForwardedFor.filter (· ≠ "") with
  | some forwardedFor => strip (partition ',' forwardedFor).1
  | none =>
    match headers.xRealIp.filter (· ≠ "") with
    | some realIp => strip realIp
    | none => host.getD "unknown"

/-- What the authentication middleware attaches for the limiter. -/
structure RequestState where
  tenantId : Option String := none
  userId : Option String := none
deriving DecidableEq

def defaultIpLimit : ℕ := 100
def defaultTenantLimit : ℕ := 1000
def windowSize : ℤ := 60

/-- `_get_rate_limit_key` -/
def getRateLimitKey (state : RequestState) (clientIp : String) : String × ℕ :=
  match state.tenantId.filter (· ≠ ""), state.userId.filter (· ≠ "") with
  | some tenantId, some userId =>
    ("rate_limit:tenant:" ++ tenantId ++ ":" ++ userId, defaultTenantLimit)
  | _, _ => ("rate_limit:ip:" ++ clientIp, defaultIpLimit)

/-- `RATE_LIMIT_EXEMPT_PATHS` -/
def rateLimitExemptPaths : List String :=
  ["/health", "/healthz", "/health/live", "/health/ready", "/readyz", "/metrics"]

/-! ## A visit -/

/-- A request with the circumstances it meets: the time, the rows, the store of the idempotency
middleware, and whether the database answers. -/
structure Visit where
  hit : Hit
  state : State
  databaseAnswers : Bool := true

namespace Visit

variable (codec : Codec) (visit : Visit)

/-- `int(time.time() / WINDOW_SIZE)` -/
def window : ℕ := (visit.state.now / windowSize).toNat

/-- The key of a bucket in the window of the visit. -/
def redisKey (key : String) : String := key ++ ":" ++ toString visit.window

def clientIp : String := getClientIp visit.hit.proxyHeaders (some "gateway")

/-- The token of the request, if it names a tenant. -/
def contextualToken : Option TokenPayload :=
  match extractBearerToken visit.hit.request.authorization with
  | .ok (some raw) => (codec.decode visit.state.now raw).filter fun token => !token.isIdentityOnly
  | _ => none

/-- What the authentication middleware does with a request: it hands it on, it rejects it with an
`HTTPException`, or another exception goes up. -/
inductive Admission where
  | handedOn (state : RequestState)
  | rejected
  | raised
deriving DecidableEq

def admission : Admission :=
  if visit.databaseAnswers = false ∧ (contextualToken codec visit).isSome then .raised
  else
    match authenticate codec visit.state.directory visit.state.now visit.hit.request with
    | .error code => if code = 500 then .raised else .rejected
    | .ok none => .handedOn {}
    | .ok (some caller) =>
      if caller.context.isSome then
        .handedOn { tenantId := caller.token.tenantId, userId := some caller.token.userId }
      else .handedOn {}

/-- The bucket in which the limiter counts the request, with its limit; nothing for a request that
does not reach it. -/
def counted : Option (String × ℕ) :=
  if lookup codec visit.state (visit.state.flight codec visit.hit.request) ≠ .proceed then none
  else if visit.hit.request.path ∈ rateLimitExemptPaths then none
  else
    match visit.admission codec with
    | .raised => none
    | .rejected => some (getRateLimitKey {} visit.clientIp)
    | .handedOn state => some (getRateLimitKey state visit.clientIp)

end Visit

/-! ## Runs -/

/-- A request that was served: the counters it moved, and whether the limiter let it pass. -/
structure Served where
  visit : Visit
  buckets : List String
  passed : Bool

structure Limits where
  counters : String → ℕ := fun _ => 0
  served : List Served := []

/-- `check_rate_limit`, for a request that comes to it. -/
def Limits.serve (codec : Codec) (s : Limits) (visit : Visit) : Limits :=
  match visit.counted codec with
  | none => { s with served := ⟨visit, [], true⟩ :: s.served }
  | some (key, limit) =>
    let redisKey := visit.redisKey key
    let count := s.counters redisKey + 1
    { counters := Function.update s.counters redisKey count
      served := ⟨visit, [redisKey], decide (count ≤ limit)⟩ :: s.served }

/-! ## The law -/

namespace Visit

variable (codec : Codec) (visit : Visit)

def Exempt : Prop := visit.hit.request.path ∈ rateLimitExemptPaths

instance : Decidable visit.Exempt := inferInstanceAs (Decidable (_ ∈ _))

/-- The tenant and the user of a valid contextual token. -/
def verified : Option (String × String) :=
  match authenticate codec visit.state.directory visit.state.now visit.hit.request with
  | .ok (some caller) =>
    if caller.context.isSome then caller.token.tenantId.map fun t => (t, caller.token.userId)
    else none
  | _ => none

/-- The bucket that a request belongs to. -/
def bucket : String :=
  match visit.verified codec with
  | some (tenantId, userId) => "rate_limit:tenant:" ++ tenantId ++ ":" ++ userId
  | none => "rate_limit:ip:" ++ visit.hit.peer.address

/-- An unauthenticated request of a peer in a window. -/
def Anonymous (peer : Peer) (window : ℕ) : Prop :=
  ¬visit.Exempt ∧ visit.verified codec = none ∧ visit.hit.peer = peer ∧ visit.window = window

instance (peer : Peer) (window : ℕ) : Decidable (visit.Anonymous codec peer window) :=
  inferInstanceAs (Decidable (_ ∧ _))

/-- The first entry of a list of addresses. -/
def firstEntry (forwardedFor : String) : String := strip (partition ',' forwardedFor).1

/-- The idempotency middleware hands the request on, its token can be looked up, and a request
without a verified caller has no other address before that of its peer. -/
def Plain : Prop :=
  lookup codec visit.state (visit.state.flight codec visit.hit.request) = .proceed ∧
    (visit.databaseAnswers = true ∨ visit.contextualToken codec = none) ∧
    (visit.verified codec = none →
      ∀ first ∈ visit.hit.forwardedFor.head?, firstEntry first = visit.hit.peer.address)

end Visit

/-- The counter of a peer in a window. -/
def peerKey (peer : Peer) (window : ℕ) : String :=
  "rate_limit:ip:" ++ peer.address ++ ":" ++ toString window

end Mpango.Gateway
