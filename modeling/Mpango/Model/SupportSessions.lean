import Mathlib.Data.Multiset.AddSub
import Mathlib.Logic.Function.Basic

/-!
# Support sessions

`api/v1/platform/p12/services.py`: sessions live in memory, in a dictionary and, once they have
expired, in a queue. Every call that looks a session up first moves out what has expired. A call
gives way where it awaits the database; what it still has to do then is a `Pending`. Sessions are
numbered in the order of their creation, and each reading of the clock is a parameter.
-/

namespace Mpango.Support

/-- Microseconds of UTC. -/
abbrev Instant := ℤ

inductive SupportSessionStatus where
  | active
  | closed
  | expired
deriving DecidableEq

open SupportSessionStatus

structure SupportSession where
  sessionId : ℕ
  status : SupportSessionStatus := active
  startedAt : Instant
  closedAt : Option Instant := none
  expiresAt : Instant
  bundleCount : ℕ := 0
deriving DecidableEq

/-- `SESSION_TTL_MINUTES`, in microseconds. -/
def sessionTtl : Instant := 60 * 60 * 1000000

/-- The audit events of sessions; the terminal ones carry the count of bundles. -/
inductive AuditEvent where
  | supportSessionStart (id : ℕ)
  | supportBundleGenerated (id : ℕ)
  | supportSessionEnd (id bundleCount : ℕ)
  | supportSessionExpired (id bundleCount : ℕ)
deriving DecidableEq

open AuditEvent

/-- What a call does once the database has answered. -/
inductive Pending where
  /-- The start of a session is being audited. -/
  | starting (id : ℕ)
  /-- The diagnostics of a bundle are being gathered. -/
  | diagnosing (id : ℕ)
  /-- A bundle is being audited. -/
  | recording (id : ℕ)
  /-- The end of a session is being audited, with this count of bundles. -/
  | ending (id bundleCount : ℕ)
  /-- Sessions drained from the queue are being audited as expired. -/
  | expiring (sessions : List SupportSession)
deriving DecidableEq

open Pending

/-- What happens to a session: a status is assigned to it, or a call on it is refused, with the
status it is in, or because it is not found. -/
inductive Entry where
  | became (status : SupportSessionStatus)
  | refused (status : Option SupportSessionStatus)
deriving DecidableEq

open Entry

structure World where
  next : ℕ := 0
  /-- `_sessions`. -/
  sessions : ℕ → Option SupportSession := fun _ => none
  /-- `_expired_queue`. -/
  expiredQueue : List SupportSession := []
  tasks : List Pending := []
  audit : List AuditEvent := []
  trace : List (ℕ × Entry) := []

namespace World

/-! ## The store -/

/-- `SupportSessionStore.create`. -/
def create (w : World) (now : Instant) : World :=
  { w with
    next := w.next + 1
    sessions := Function.update w.sessions w.next (some
      { sessionId := w.next, startedAt := now, expiresAt := now + sessionTtl })
    trace := w.trace ++ [(w.next, became active)] }

/-- The sessions that are to expire, in the order of the dictionary. -/
def selected (w : World) (p : SupportSession → Bool) : List SupportSession :=
  (List.range w.next).filterMap fun id => (w.sessions id).filter p

/-- Sessions leave the dictionary as expired, and wait in the queue. -/
def expire (w : World) (p : SupportSession → Bool) : World :=
  { w with
    sessions := fun id => (w.sessions id).filter fun s => !p s
    expiredQueue := w.expiredQueue ++ (w.selected p).map fun s => { s with status := expired }
    trace := w.trace ++ (w.selected p).map fun s => (s.sessionId, became expired) }

/-- `_cleanup_expired`. -/
def cleanupExpired (w : World) (now : Instant) : World := w.expire fun s => s.expiresAt < now

/-- `SupportSessionStore.get`, with the two readings of the clock in it. -/
def get (w : World) (id : ℕ) (t₁ t₂ : Instant) : Option SupportSession × World :=
  let w := w.cleanupExpired t₁
  match w.sessions id with
  | none => (none, w)
  | some s =>
    if s.expiresAt < t₂ then (none, w.expire fun s' => s'.sessionId = id)
    else (some s, w)

/-- `SupportSessionStore.close`. -/
def closeStored (w : World) (id : ℕ) (now : Instant) : World :=
  { w with
    sessions := Function.update w.sessions id ((w.sessions id).map fun s =>
      { s with status := closed, closedAt := some now })
    trace := w.trace ++ [(id, became closed)] }

/-- `increment_bundle_count`. -/
def incrementBundleCount (w : World) (id : ℕ) : World :=
  { w with
    sessions := Function.update w.sessions id ((w.sessions id).map fun s =>
      { s with bundleCount := s.bundleCount + 1 }) }

/-! ## The calls, up to where they await the database -/

def await (w : World) (task : Pending) : World := { w with tasks := w.tasks ++ [task] }

def refuse (w : World) (id : ℕ) (status : Option SupportSessionStatus) : World :=
  { w with trace := w.trace ++ [(id, refused status)] }

/-- `_audit_expired_sessions`: drain the queue, and audit what was in it. -/
def auditExpiredSessions (w : World) : World :=
  if w.expiredQueue = [] then w
  else { w with expiredQueue := [] }.await (expiring w.expiredQueue)

/-- `create_support_session`. -/
def createSupportSession (w : World) (now : Instant) : World :=
  (w.create now).await (starting w.next)

/-- Look a session up and go on with it if it is active; refuse the call otherwise. -/
def withActive (w : World) (id : ℕ) (t₁ t₂ : Instant)
    (go : World → SupportSession → World) : World :=
  match w.get id t₁ t₂ with
  | (none, w) => w.auditExpiredSessions.refuse id none
  | (some s, w) => if s.status = active then go w s else w.refuse id (some s.status)

/-- `get_diagnostics`: what it awaits changes nothing here. -/
def getDiagnostics (w : World) (id : ℕ) (t₁ t₂ : Instant) : World :=
  w.withActive id t₁ t₂ fun w _ => w

/-- `generate_bundle`: the session is looked up once more by `get_diagnostics`. -/
def generateBundle (w : World) (id : ℕ) (t₁ t₂ t₃ t₄ : Instant) : World :=
  w.withActive id t₁ t₂ fun w _ => w.withActive id t₃ t₄ fun w _ => w.await (diagnosing id)

/-- `close_support_session`; the count of bundles is read before the audit entry is written. -/
def closeSupportSession (w : World) (id : ℕ) (t₁ t₂ t₃ : Instant) : World :=
  w.withActive id t₁ t₂ fun w s => (w.closeStored id t₃).await (ending id s.bundleCount)

/-! ## The rest of a call -/

def record (w : World) (events : List AuditEvent) : World := { w with audit := w.audit ++ events }

/-- The database has answered; `succeeds` tells for which sessions it did what was asked. -/
def finish (w : World) (succeeds : ℕ → Bool) : Pending → World
  | starting id => if succeeds id then w.record [supportSessionStart id] else w
  | diagnosing id => if succeeds id then (w.incrementBundleCount id).await (recording id) else w
  | recording id => if succeeds id then w.record [supportBundleGenerated id] else w
  | ending id bundleCount => if succeeds id then w.record [supportSessionEnd id bundleCount] else w
  | expiring sessions =>
    w.record ((sessions.filter fun s => succeeds s.sessionId).map fun s =>
      supportSessionExpired s.sessionId s.bundleCount)

/-- The task at a position goes on. -/
def resume (w : World) (k : ℕ) (succeeds : ℕ → Bool) : World :=
  match w.tasks[k]? with
  | none => w
  | some task => { w with tasks := w.tasks.eraseIdx k }.finish succeeds task

end World

inductive Event where
  | create (now : Instant)
  | diagnostics (id : ℕ) (t₁ t₂ : Instant)
  | bundle (id : ℕ) (t₁ t₂ t₃ t₄ : Instant)
  | close (id : ℕ) (t₁ t₂ t₃ : Instant)
  | resume (k : ℕ) (succeeds : ℕ → Bool)

def World.step (w : World) : Event → World
  | .create now => w.createSupportSession now
  | .diagnostics id t₁ t₂ => w.getDiagnostics id t₁ t₂
  | .bundle id t₁ t₂ t₃ t₄ => w.generateBundle id t₁ t₂ t₃ t₄
  | .close id t₁ t₂ t₃ => w.closeSupportSession id t₁ t₂ t₃
  | .resume k succeeds => w.resume k succeeds

end Mpango.Support
