import Mathlib.Data.List.Infix
import Mathlib.Logic.Function.Basic

/-!
# The browser's API client

`frontend/src/services/api.ts` over `stores/authStore.ts`, in one tab: requests are sent with the
token of the store, a 401 starts one refresh, and requests that are answered 401 meanwhile wait in
`failedQueue` until it is over. The event loop runs the code between two awaits, and the reactions to
a settled promise after it, without another event in between, so each of them is one step.

The sessions are numbered for the sake of what is asked: a write that enters or leaves a session
begins a new one.
-/

namespace Mpango.Client

/-! ## The auth store -/

/-- `AuthState` -/
structure AuthState where
  accessToken : Option String := none
  refreshToken : Option String := none
  user : Option String := none
  tenantCode : Option String := none
  retailerPortalCode : Option String := none
deriving DecidableEq

structure Tokens where
  accessToken : String
  refreshToken : String
deriving DecidableEq

namespace AuthState

variable (a : AuthState)

def login (tokens : Tokens) (user : String) (tenantCode : Option String) : AuthState where
  accessToken := some tokens.accessToken
  refreshToken := some tokens.refreshToken
  user := some user
  tenantCode := tenantCode
  retailerPortalCode := none

def retailerLogin (tokens : Tokens) (user wholesalerCode : String) : AuthState where
  accessToken := some tokens.accessToken
  refreshToken := some tokens.refreshToken
  user := some user
  tenantCode := some wholesalerCode
  retailerPortalCode := some wholesalerCode

/-- The portal code is kept. -/
def logout : AuthState := { retailerPortalCode := a.retailerPortalCode }

def updateTokens (tokens : Tokens) : AuthState :=
  { a with accessToken := some tokens.accessToken, refreshToken := some tokens.refreshToken }

def setUser (user : String) : AuthState := { a with user := some user }

def beginWorkspaceSelection (identityTokens : Tokens) : AuthState where
  accessToken := some identityTokens.accessToken
  refreshToken := some identityTokens.refreshToken

end AuthState

/-- What counts as a value in a condition: neither `null` nor the empty text. -/
def truthy (value : Option String) : Option String := value.filter (· ≠ "")

/-! ## Requests -/

/-- Where a request stands. -/
inductive Phase
  | sent
  /-- In `failedQueue`. -/
  | queued
  /-- It has started the refresh in flight. -/
  | leading
  | done
deriving DecidableEq

/-- The configuration of a request, and how often it was sent. -/
structure Request where
  url : String
  /-- The `Authorization` header, in whatever casing. -/
  authorization : Option String
  skipAuthInterceptors : Bool
  /-- `_retry` -/
  retry : Bool := false
  phase : Phase := .sent
  sends : ℕ := 1
  /-- The session it was started in, or that of the token its caller supplied. -/
  session : Option ℕ
  /-- The session of the token it carries. -/
  carries : Option ℕ := session
deriving DecidableEq

def bearer (token : String) : String := "Bearer " ++ token

/-- `url.includes(part)` -/
def includes (url part : String) : Bool := part.toList <:+: url.toList

/-- A 401 of these is not answered with a refresh. -/
def isAuthEndpoint (url : String) : Bool :=
  includes url "/auth/refresh" || includes url "/auth/login" || includes url "/client/auth/login"

namespace Request

def finished (r : Request) : Request := { r with phase := .done }

/-- `headers.set('Authorization', ...)` and `api(originalRequest)`; the request interceptor finds a
header and leaves it. -/
def resent (r : Request) (token : String) (session : ℕ) : Request :=
  { r with
    authorization := some (bearer token)
    phase := .sent
    sends := r.sends + 1
    carries := some session }

/-- Whether a failed answer to it is left to the caller. -/
def leaves (r : Request) (status : Option ℕ) : Bool :=
  r.skipAuthInterceptors || status ≠ some 401 || r.retry || isAuthEndpoint r.url

end Request

/-! ## The state -/

/-- An entry of `failedQueue`. -/
structure Waiter where
  id : ℕ
  request : ℕ
deriving DecidableEq

/-- A call of the refresh endpoint. -/
structure Refresh where
  leader : ℕ
  refreshToken : String
  /-- The session it was started from. -/
  session : ℕ
deriving DecidableEq

structure State where
  auth : AuthState
  /-- The session the store holds. -/
  session : ℕ := 0
  isRefreshing : Bool := false
  failedQueue : List Waiter := []
  requests : ℕ → Option Request := fun _ => none
  nextRequest : ℕ := 0
  /-- The refresh calls in flight. -/
  refreshes : List Refresh := []
  /-- The requests that have started a refresh. -/
  started : List ℕ := []
  nextWaiter : ℕ := 0
  /-- The entries of the queue that were resolved or rejected, each time they were. -/
  settled : List ℕ := []

namespace State

variable (s : State)

/-- Change one request. -/
def put (i : ℕ) (r : Request) : State :=
  { s with requests := Function.update s.requests i (some r) }

/-- A write of the store that enters or leaves a session. -/
def enter (auth : AuthState) : State :=
  { s with auth := auth, session := s.session + 1 }

/-! ## Sending -/

/-- A new request, through the request interceptor: the token of the store is used where the caller
has supplied no header. -/
def send (url : String) (skipAuthInterceptors : Bool) (supplied : Option (String × Option ℕ)) :
    State :=
  let r : Request :=
    match supplied with
    | some (header, session) =>
      { url, skipAuthInterceptors, authorization := some header, session }
    | none =>
      { url, skipAuthInterceptors, authorization := (truthy s.auth.accessToken).map bearer,
        session := some s.session }
  { s.put s.nextRequest r with nextRequest := s.nextRequest + 1 }

/-! ## A failed answer -/

/-- The request waits for the refresh in flight. -/
def enqueue (i : ℕ) (r : Request) : State :=
  { s.put i { r with phase := .queued } with
    failedQueue := s.failedQueue ++ [⟨s.nextWaiter, i⟩]
    nextWaiter := s.nextWaiter + 1 }

/-- The request starts a refresh, or ends the session where there is no refresh token. -/
def startRefresh (i : ℕ) (r : Request) : State :=
  let r := { r with retry := true }
  match truthy s.auth.refreshToken with
  | none => { (s.put i r.finished).enter s.auth.logout with isRefreshing := false }
  | some token =>
    { s.put i { r with phase := .leading } with
      isRefreshing := true
      refreshes := s.refreshes ++ [⟨i, token, s.session⟩]
      started := s.started ++ [i] }

/-- The response interceptor. -/
def fail (i : ℕ) (r : Request) (status : Option ℕ) : State :=
  if r.leaves status then s.put i r.finished
  else if s.isRefreshing then s.enqueue i r
  else s.startRefresh i r

/-! ## The end of a refresh -/

/-- The requests that wait for a refresh: those in the queue, and the one that has started it. -/
def waiting (refresh : Refresh) : List ℕ := s.failedQueue.map Waiter.request ++ [refresh.leader]

/-- `processQueue`: every entry is resolved or rejected, and its request goes on. -/
def processQueue (continueWith : Request → Request) (refresh : Refresh) : State :=
  { s with
    failedQueue := []
    settled := s.settled ++ s.failedQueue.map Waiter.id
    requests := fun i =>
      if i ∈ s.waiting refresh then (s.requests i).map continueWith else s.requests i
    refreshes := s.refreshes.erase refresh
    isRefreshing := false }

/-- The new tokens are stored, and every request that waits is sent again with the access token. -/
def refreshSucceeded (refresh : Refresh) (tokens : Tokens) : State :=
  { s.processQueue (fun r => r.resent tokens.accessToken refresh.session) refresh with
    auth := s.auth.updateTokens tokens
    session := refresh.session }

/-- The session is ended, and every request that waits is rejected. -/
def refreshFailed (refresh : Refresh) : State :=
  (s.processQueue Request.finished refresh).enter s.auth.logout

/-- The request with a number, while it has no answer. -/
def unanswered (i : ℕ) : Option Request := (s.requests i).filter fun r => r.phase = .sent

end State

/-! ## Runs -/

inductive Event
  /-- The caller may supply a header; the number is the session its token is of. -/
  | send (url : String) (skipAuthInterceptors : Bool) (supplied : Option (String × Option ℕ))
  | succeed (i : ℕ)
  /-- An answer outside 2xx, or none at all. -/
  | fail (i : ℕ) (status : Option ℕ)
  | refreshed (refresh : Refresh) (tokens : Tokens)
  | refreshFailed (refresh : Refresh)
  | login (tokens : Tokens) (user : String) (tenantCode : Option String)
  | retailerLogin (tokens : Tokens) (user wholesalerCode : String)
  | beginWorkspaceSelection (identityTokens : Tokens)
  | setUser (user : String)
  | logout

def step (s : State) : Event → State
  | .send url skip supplied => s.send url skip supplied
  | .succeed i =>
    match s.unanswered i with
    | none => s
    | some r => s.put i r.finished
  | .fail i status =>
    match s.unanswered i with
    | none => s
    | some r => s.fail i r status
  | .refreshed refresh tokens =>
    if refresh ∈ s.refreshes then s.refreshSucceeded refresh tokens else s
  | .refreshFailed refresh => if refresh ∈ s.refreshes then s.refreshFailed refresh else s
  | .login tokens user tenantCode => s.enter (.login tokens user tenantCode)
  | .retailerLogin tokens user wholesalerCode =>
    s.enter (.retailerLogin tokens user wholesalerCode)
  | .beginWorkspaceSelection identityTokens => s.enter (.beginWorkspaceSelection identityTokens)
  | .setUser user => { s with auth := s.auth.setUser user }
  | .logout => s.enter s.auth.logout

/-- A tab that is opened, with what was persisted. -/
def start (auth : AuthState) : State := { auth }

/-! ## What is asked of a run -/

/-- The queue of the refresh, and how often requests are sent. -/
structure Settles (s : State) : Prop where
  oneRefresh : s.refreshes.length ≤ 1
  emptyQueue : s.refreshes = [] → s.failedQueue = []
  /-- The requests that wait are those of the queue, each once. -/
  queued : ∀ i, i ∈ s.failedQueue.map Waiter.request ↔
    ∃ r, s.requests i = some r ∧ r.phase = .queued
  nodup : (s.failedQueue.map Waiter.request).Nodup
  /-- What was put into the queue is in it or was settled, and not twice. -/
  once : (s.settled ++ s.failedQueue.map Waiter.id).Perm (List.range s.nextWaiter)
  twice : ∀ i r, s.requests i = some r → r.sends ≤ 2
  /-- There are no more refreshes than requests. -/
  chain : s.started.length ≤ s.nextRequest

/-- No request that waits for the refresh that succeeds has been sent again before. -/
def FirstWait (s : State) : Event → Prop
  | .refreshed refresh _ => refresh ∈ s.refreshes →
    ∀ i ∈ s.waiting refresh, ∀ r, s.requests i = some r → r.sends ≤ 1
  | _ => True

/-- What the outcome of a refresh writes to the store. -/
def Event.outcome (auth : AuthState) : Event → Option (Refresh × AuthState)
  | .refreshed refresh tokens => some (refresh, auth.updateTokens tokens)
  | .refreshFailed refresh => some (refresh, auth.logout)
  | _ => none

/-- A refresh writes to the session it was started from, and a request carries the token of its
own. -/
structure Isolated (s : State) (e : Event) : Prop where
  store : ∀ refresh ∈ s.refreshes, ∀ auth, e.outcome s.auth = some (refresh, auth) →
    (step s e).auth ≠ s.auth → s.session = refresh.session
  requests : ∀ i r, (step s e).requests i = some r → r.carries = r.session

/-- A refresh ends while the store holds the session it was started from, or what it writes already;
and if it succeeds, the requests that wait for it are of that session. -/
def InSession (s : State) (e : Event) : Prop :=
  ∀ refresh ∈ s.refreshes, ∀ auth, e.outcome s.auth = some (refresh, auth) →
    (s.session = refresh.session ∨ auth = s.auth) ∧
      ∀ tokens, e = .refreshed refresh tokens →
        ∀ i ∈ s.waiting refresh, ∀ r, s.requests i = some r → r.session = some refresh.session

/-- No session is entered or left while a refresh is in flight, and no request waits or starts a
refresh that is not of the session the store holds. -/
def Undisturbed (s : State) : Event → Prop
  | .login _ _ _ | .retailerLogin _ _ _ | .beginWorkspaceSelection _ | .logout => s.refreshes = []
  | .fail i status => ∀ r, s.unanswered i = some r → r.leaves status = false →
    r.session = some s.session
  | _ => True

end Mpango.Client
