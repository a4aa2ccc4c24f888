import Mathlib.Algebra.BigOperators.Group.Multiset.Basic
import Mathlib.Algebra.Order.BigOperators.Group.Multiset
import Mathlib.Tactic
import Mpango.Library.Run
import Mpango.Model.SupportSessions

/-!
# A support session ends once

What is known of one session is spread over the dictionary, the queue, the calls that wait for the
database, the audit and the trace. `Sound` says how these agree; every operation of the store and
every call that goes on keeps it, as long as no closed session is swept out with the expired ones,
no session ends while a bundle of it is being made, and starts and bundles are audited.
-/

namespace Mpango.Support

open SupportSessionStatus AuditEvent Pending Entry

/-! ## What is known of one session -/

/-- How a session ended. -/
inductive Ending where
  | ended
  | ranOut
deriving DecidableEq

open Ending

/-- The status an entry assigns to a session. -/
def assigned (id : ℕ) (p : ℕ × Entry) : Option SupportSessionStatus :=
  match p.2 with
  | became status => if p.1 = id then some status else none
  | refused _ => none

/-- The terminal event of a session that is yet to be audited, with its count of bundles. -/
def Pending.terminal (id : ℕ) : Pending → Multiset (Ending × ℕ)
  | ending j n => if j = id then {(ended, n)} else 0
  | expiring sessions =>
    ((sessions.filter fun s => s.sessionId = id).map fun s => (ranOut, s.bundleCount) : List _)
  | _ => 0

/-- The terminal event of a session. -/
def AuditEvent.terminal (id : ℕ) : AuditEvent → Multiset (Ending × ℕ)
  | supportSessionEnd j n => if j = id then {(ended, n)} else 0
  | supportSessionExpired j n => if j = id then {(ranOut, n)} else 0
  | _ => 0

namespace World

variable (w : World) (id : ℕ)

/-- The statuses a session has had. -/
def statuses : List SupportSessionStatus := w.trace.filterMap (assigned id)

/-- The terminal events of a session that wait in the queue. -/
def queued : Multiset (Ending × ℕ) :=
  ((w.expiredQueue.filter fun s => s.sessionId = id).map fun s => (ranOut, s.bundleCount) : List _)

def audited : Multiset (Ending × ℕ) := (w.audit.map (AuditEvent.terminal id)).sum

/-- All terminal events of a session, audited or yet to be. -/
def terminals : Multiset (Ending × ℕ) :=
  w.queued id + (w.tasks.map (Pending.terminal id)).sum + w.audited id

def bundles : ℕ := w.audit.count (supportBundleGenerated id)

def recordings : ℕ := w.tasks.count (recording id)

/-- The bundles of a session that are in flight. -/
def inFlight : ℕ := w.tasks.count (diagnosing id) + w.tasks.count (recording id)

def starts : ℕ := w.audit.count (supportSessionStart id) + w.tasks.count (starting id)

end World

/-- Where a session stands in its life. -/
inductive Phase (w : World) (id : ℕ) : Prop
  | unborn (hid : w.next ≤ id) (hnone : w.sessions id = none) (hstatuses : w.statuses id = [])
    (hterminals : w.terminals id = 0) (hbundles : w.bundles id = 0)
  | active (hid : id < w.next) (s : SupportSession) (hs : w.sessions id = some s)
    (hactive : s.status = active) (hstatuses : w.statuses id = [.active])
    (hterminals : w.terminals id = 0)
  | closed (hid : id < w.next) (s : SupportSession) (hs : w.sessions id = some s)
    (hclosed : s.status = closed) (hstatuses : w.statuses id = [.active, .closed])
    (hterminals : w.terminals id ≤ {(ended, w.bundles id)})
  | expired (hid : id < w.next) (hnone : w.sessions id = none)
    (hstatuses : w.statuses id = [.active, .expired])
    (hterminals : w.terminals id ≤ {(ranOut, w.bundles id)})

/-- What is known of a session agrees. -/
structure Sound (w : World) (id : ℕ) : Prop where
  keyed : ∀ s, w.sessions id = some s → s.sessionId = id
  counted : ∀ s, w.sessions id = some s → s.bundleCount = w.bundles id + w.recordings id
  /-- A bundle is in flight only of an active session. -/
  bundling : 0 < w.inFlight id → ∃ s, w.sessions id = some s ∧ s.status = active
  started : w.starts id = if id < w.next then 1 else 0
  phase : Phase w id

variable {w w' : World} {id : ℕ}

namespace Sound

/-- What an operation does not touch stays sound, also if it gives up a terminal event. -/
theorem mono (h : Sound w id) (hnext : id < w'.next ↔ id < w.next)
    (hsessions : w'.sessions id = w.sessions id) (hstatuses : w'.statuses id = w.statuses id)
    (hterminals : w'.terminals id ≤ w.terminals id) (hbundles : w'.bundles id = w.bundles id)
    (hrecordings : w'.recordings id = w.recordings id) (hinFlight : w'.inFlight id ≤ w.inFlight id)
    (hstarts : w'.starts id = w.starts id) : Sound w' id := by
  constructor
  · rw [hsessions]
    exact h.keyed
  · rw [hsessions, hbundles, hrecordings]
    exact h.counted
  · rw [hsessions]
    exact fun hpos => h.bundling (Nat.lt_of_lt_of_le hpos hinFlight)
  · rw [hstarts, h.started]
    simp only [hnext]
  · cases h.phase with
    | unborn hid hnone hst hterm hb =>
      exact .unborn (not_lt.mp fun hlt => not_lt.mpr hid (hnext.mp hlt)) (hsessions.trans hnone)
        (hstatuses.trans hst) (Multiset.le_zero.mp (hterm ▸ hterminals)) (hbundles.trans hb)
    | active hid s hs hactive hst hterm =>
      exact .active (hnext.mpr hid) s (hsessions.trans hs) hactive (hstatuses.trans hst)
        (Multiset.le_zero.mp (hterm ▸ hterminals))
    | closed hid s hs hclosed hst hterm =>
      exact .closed (hnext.mpr hid) s (hsessions.trans hs) hclosed (hstatuses.trans hst)
        (by rw [hbundles]; exact hterminals.trans hterm)
    | expired hid hnone hst hterm =>
      exact .expired (hnext.mpr hid) (hsessions.trans hnone) (hstatuses.trans hst)
        (by rw [hbundles]; exact hterminals.trans hterm)

theorem lt_next (h : Sound w id) {s : SupportSession} (hs : w.sessions id = some s) :
    id < w.next := by
  cases h.phase with
  | unborn _ hnone =>
    rw [hs] at hnone
    cases hnone
  | active hid => exact hid
  | closed hid => exact hid
  | expired hid => exact hid

/-- An active session has nothing terminal. -/
theorem of_active (h : Sound w id) {s : SupportSession} (hs : w.sessions id = some s)
    (hactive : s.status = active) : w.statuses id = [.active] ∧ w.terminals id = 0 := by
  cases h.phase with
  | unborn _ hnone =>
    rw [hs] at hnone
    cases hnone
  | active _ _ _ _ hst hterm => exact ⟨hst, hterm⟩
  | closed _ s' hs' hclosed =>
    obtain rfl := Option.some.inj (hs.symm.trans hs')
    rw [hactive] at hclosed
    cases hclosed
  | expired _ hnone =>
    rw [hs] at hnone
    cases hnone

/-- A session in the dictionary is active or closed. -/
theorem status_of_some (h : Sound w id) {s : SupportSession} (hs : w.sessions id = some s) :
    s.status = active ∨ s.status = closed := by
  cases h.phase with
  | unborn _ hnone =>
    rw [hs] at hnone
    cases hnone
  | active _ s' hs' hactive =>
    obtain rfl := Option.some.inj (hs.symm.trans hs')
    exact .inl hactive
  | closed _ s' hs' hclosed =>
    obtain rfl := Option.some.inj (hs.symm.trans hs')
    exact .inr hclosed
  | expired _ hnone =>
    rw [hs] at hnone
    cases hnone

end Sound

/-! ## Expiry -/

/-- Of the sessions that are to expire, at most one has a given number. -/
theorem filter_filterMap_range {f : ℕ → Option SupportSession} (n : ℕ)
    (hf : ∀ j s, f j = some s → s.sessionId = j) :
    ((List.range n).filterMap f).filter (fun s => s.sessionId = id) =
      if id < n then (f id).toList else [] := by
  induction n with
  | zero => rfl
  | succ n ih =>
    rw [List.range_succ, List.filterMap_append, List.filter_append, ih]
    have hlast : ([n].filterMap f).filter (fun s => s.sessionId = id) =
        if n = id then (f id).toList else [] := by
      cases hfn : f n with
      | none =>
        rw [List.filterMap_cons_none hfn]
        split
        · next heq => rw [← heq, hfn]; rfl
        · rfl
      | some s =>
        rw [List.filterMap_cons_some hfn, List.filterMap_nil, List.filter_singleton, hf n s hfn]
        split
        · next heq =>
          subst heq
          simp [hfn]
        · next heq => simp [heq]
    rw [hlast]
    rcases Nat.lt_trichotomy id n with hlt | rfl | hgt
    · rw [if_pos hlt, if_neg (Nat.ne_of_gt hlt), if_pos (Nat.lt_succ_of_lt hlt), List.append_nil]
    · rw [if_neg (Nat.lt_irrefl _), if_pos rfl, if_pos (Nat.lt_succ_self _), List.nil_append]
    · rw [if_neg (Nat.not_lt.mpr (Nat.le_of_lt hgt)), if_neg (Nat.ne_of_lt hgt),
        if_neg (Nat.not_lt.mpr hgt), List.append_nil]

theorem filter_selected (hw : ∀ id, Sound w id) (p : SupportSession → Bool) :
    (w.selected p).filter (fun s => s.sessionId = id) = ((w.sessions id).filter p).toList := by
  have hkeyed : ∀ j s, (w.sessions j).filter p = some s → s.sessionId = j := fun j s hs =>
    (hw j).keyed s (Option.filter_eq_some_iff.mp hs).1
  rw [World.selected, filter_filterMap_range w.next hkeyed]
  split
  · rfl
  · next hge =>
    cases hs : (w.sessions id).filter p with
    | none => rfl
    | some s => exact absurd ((hw id).lt_next (Option.filter_eq_some_iff.mp hs).1) hge

theorem filterMap_assigned_expired (id : ℕ) (sessions : List SupportSession) :
    (sessions.map fun s => (s.sessionId, became expired)).filterMap (assigned id) =
      (sessions.filter fun s => s.sessionId = id).map fun _ => expired := by
  induction sessions with
  | nil => rfl
  | cons s sessions ih =>
    rw [List.map_cons, List.filterMap_cons, List.filter_cons, ih]
    by_cases h : s.sessionId = id
    · simp [assigned, h]
    · simp [assigned, h]

theorem statuses_expire (hw : ∀ id, Sound w id) (p : SupportSession → Bool) (id : ℕ) :
    (w.expire p).statuses id = w.statuses id ++ ((w.sessions id).filter p).toList.map fun _ =>
      expired := by
  unfold World.statuses World.expire
  rw [List.filterMap_append, filterMap_assigned_expired, filter_selected hw]

theorem queued_expire (hw : ∀ id, Sound w id) (p : SupportSession → Bool) (id : ℕ) :
    (w.expire p).queued id = w.queued id +
      (((w.sessions id).filter p).toList.map fun s => (ranOut, s.bundleCount) : List _) := by
  have hmap : ((w.selected p).map fun s => { s with status := expired }).filter
      (fun s => s.sessionId = id) =
      (((w.sessions id).filter p).toList.map fun s => { s with status := expired }) := by
    rw [List.filter_map, ← filter_selected hw]
    rfl
  unfold World.queued World.expire
  dsimp only
  rw [List.filter_append, List.map_append, hmap, List.map_map, ← Multiset.coe_add]
  rfl

/-- Sessions run out. Only active ones may, of which no bundle is in flight. -/
theorem sound_expire (hw : ∀ id, Sound w id) {p : SupportSession → Bool}
    (hquiet : ∀ id s, w.sessions id = some s → p s = true →
      s.status = active ∧ w.inFlight id = 0) (id : ℕ) : Sound (w.expire p) id := by
  have hstatuses := statuses_expire hw p id
  have hterminals : (w.expire p).terminals id = w.terminals id +
      (((w.sessions id).filter p).toList.map fun s => (ranOut, s.bundleCount) : List _) := by
    have hqueued := queued_expire hw p id
    unfold World.terminals
    rw [hqueued]
    show _ + (w.tasks.map (Pending.terminal id)).sum + w.audited id = _
    abel
  have hsessions : (w.expire p).sessions id = (w.sessions id).filter fun s => !p s := rfl
  cases hfilter : (w.sessions id).filter p with
  | none =>
    -- the session stays where it is
    have hsame : (w.expire p).sessions id = w.sessions id := by
      rw [hsessions]
      cases hs : w.sessions id with
      | none => rfl
      | some s =>
        rw [hs, Option.filter_some] at hfilter
        split at hfilter
        · cases hfilter
        · next hp => rw [Option.filter_some, if_pos (by simpa using hp)]
    rw [hfilter] at hstatuses hterminals
    refine (hw id).mono Iff.rfl hsame ?_ (le_of_eq ?_) rfl rfl le_rfl rfl
    · simpa using hstatuses
    · simpa using hterminals
  | some s =>
    obtain ⟨hs, hp⟩ := Option.filter_eq_some_iff.mp hfilter
    obtain ⟨hactive, hidle⟩ := hquiet id s hs hp
    obtain ⟨hst, hterm⟩ := (hw id).of_active hs hactive
    have hnone : (w.expire p).sessions id = none := by
      rw [hsessions, hs, Option.filter_some, if_neg (by simp [hp])]
    have hcount : s.bundleCount = w.bundles id := by
      have hrecordings : w.recordings id = 0 := by
        unfold World.inFlight at hidle
        unfold World.recordings
        omega
      rw [(hw id).counted s hs, hrecordings, Nat.add_zero]
    rw [hfilter, hst] at hstatuses
    rw [hfilter, hterm, zero_add] at hterminals
    constructor
    · rw [hnone]
      nofun
    · rw [hnone]
      nofun
    · intro hpos
      exact absurd hidle (Nat.ne_of_gt hpos)
    · exact (hw id).started
    · refine .expired ((hw id).lt_next hs) hnone hstatuses ?_
      rw [hterminals]
      show ({(ranOut, s.bundleCount)} : Multiset (Ending × ℕ)) ≤ {(ranOut, w.bundles id)}
      rw [hcount]

/-! ## Waiting calls -/

section Await

variable (w : World) (id : ℕ) (task : Pending)

theorem terminals_await :
    (w.await task).terminals id = w.terminals id + task.terminal id := by
  unfold World.terminals World.await World.queued World.audited
  dsimp only
  rw [List.map_append, List.sum_append, List.map_singleton, List.sum_singleton]
  abel

theorem recordings_await :
    (w.await task).recordings id = w.recordings id + [task].count (recording id) :=
  List.count_append

theorem inFlight_await : (w.await task).inFlight id =
    w.inFlight id + ([task].count (diagnosing id) + [task].count (recording id)) := by
  unfold World.inFlight World.await
  dsimp only
  rw [List.count_append, List.count_append]
  omega

theorem starts_await : (w.await task).starts id = w.starts id + [task].count (starting id) := by
  unfold World.starts World.await
  dsimp only
  rw [List.count_append, Nat.add_assoc]

end Await

/-- A refusal assigns no status. -/
theorem statuses_refuse (w : World) (id j : ℕ) (status : Option SupportSessionStatus) :
    (w.refuse j status).statuses id = w.statuses id := by
  unfold World.statuses World.refuse
  dsimp only
  rw [List.filterMap_append]
  exact List.append_nil _

theorem sound_refuse (h : Sound w id) (j : ℕ) (status : Option SupportSessionStatus) :
    Sound (w.refuse j status) id :=
  h.mono Iff.rfl rfl (statuses_refuse w id j status) le_rfl rfl rfl le_rfl rfl

/-- The drained sessions are as many events to come as the queued ones were. -/
theorem sound_auditExpiredSessions (h : Sound w id) : Sound w.auditExpiredSessions id := by
  unfold World.auditExpiredSessions
  split
  · exact h
  · refine h.mono Iff.rfl rfl rfl (le_of_eq ?_) rfl ?_ (Nat.le_of_eq ?_) ?_
    · rw [terminals_await]
      unfold World.terminals World.queued Pending.terminal
      dsimp only
      rw [List.filter_nil, List.map_nil, Multiset.coe_nil]
      show 0 + _ + w.audited id + _ = _ + _ + w.audited id
      abel
    · rw [recordings_await]
      rfl
    · rw [inFlight_await]
      rfl
    · rw [starts_await]
      rfl

/-! ## The calls -/

/-- Nothing that the clock reaches now has been closed or is of a bundle in flight. -/
def Quiet (w : World) (now : Instant) : Prop :=
  ∀ id < w.next, ∀ s ∈ w.sessions id, s.expiresAt < now → s.status = active ∧ w.inFlight id = 0

theorem Quiet.of_some (hw : ∀ id, Sound w id) {now : Instant} (h : Quiet w now) {s : SupportSession}
    (hs : w.sessions id = some s) (hexpired : s.expiresAt < now) :
    s.status = active ∧ w.inFlight id = 0 :=
  h id ((hw id).lt_next hs) s hs hexpired

/-- Looking a session up keeps everything sound; what is found is in the dictionary, and what is
not found has left it. -/
theorem get_spec (hw : ∀ id, Sound w id) (id : ℕ) {t₁ t₂ : Instant} (h₁ : Quiet w t₁)
    (h₂ : Quiet w t₂) : (∀ j, Sound (w.get id t₁ t₂).2 j) ∧
      (w.get id t₁ t₂).2.sessions id = (w.get id t₁ t₂).1 ∧
      (∀ now, Quiet w now → Quiet (w.get id t₁ t₂).2 now) ∧
      ∀ j, (w.get id t₁ t₂).2.inFlight j = w.inFlight j := by
  have hclean : ∀ j, Sound (w.cleanupExpired t₁) j :=
    sound_expire hw fun j s hs hp => h₁.of_some hw hs (of_decide_eq_true hp)
  -- expiring takes sessions away only
  have hquiet : ∀ (w : World) (p : SupportSession → Bool) now, Quiet w now →
      Quiet (w.expire p) now := fun w p now h j hj s hs hexpired =>
    h j hj s (Option.filter_eq_some_iff.mp hs).1 hexpired
  unfold World.get
  dsimp only
  split
  · next hnone => exact ⟨hclean, hnone, hquiet w _, fun _ => rfl⟩
  · next s hs =>
    split
    · next hexpired =>
      have hkeyed := (hclean id).keyed s hs
      refine ⟨sound_expire hclean fun j s' hs' hp => ?_, ?_, fun now h => hquiet _ _ now
        (hquiet w _ now h), fun _ => rfl⟩
      · obtain rfl : j = id := ((hclean j).keyed s' hs').symm.trans (of_decide_eq_true hp)
        rw [hs] at hs'
        obtain rfl := Option.some.inj hs'
        exact h₂.of_some hw (Option.filter_eq_some_iff.mp hs).1 hexpired
      · show ((w.cleanupExpired t₁).sessions id).filter _ = none
        rw [hs, Option.filter_some, if_neg (by simp [hkeyed])]
    · exact ⟨hclean, hs, hquiet w _, fun _ => rfl⟩

theorem statuses_append (w : World) (id j : ℕ) (status : SupportSessionStatus) :
    (w.trace ++ [(j, became status)]).filterMap (assigned id) =
      w.statuses id ++ if j = id then [status] else [] := by
  rw [List.filterMap_append]
  unfold World.statuses
  congr 1
  by_cases h : j = id <;> simp [assigned, h]

theorem sound_createSupportSession (hw : ∀ id, Sound w id) (now : Instant) (id : ℕ) :
    Sound (w.createSupportSession now) id := by
  have hstatuses : (w.createSupportSession now).statuses id =
      w.statuses id ++ if w.next = id then [active] else [] := statuses_append w id w.next active
  have hterminals : (w.createSupportSession now).terminals id = w.terminals id :=
    (terminals_await (w.create now) id (starting w.next)).trans (add_zero _)
  have hrecordings : (w.createSupportSession now).recordings id = w.recordings id :=
    recordings_await (w.create now) id (starting w.next)
  have hinFlight : (w.createSupportSession now).inFlight id = w.inFlight id :=
    inFlight_await (w.create now) id (starting w.next)
  have hstarts : (w.createSupportSession now).starts id =
      w.starts id + [starting w.next].count (starting id) :=
    starts_await (w.create now) id (starting w.next)
  have hsessions : (w.createSupportSession now).sessions id = Function.update w.sessions w.next
    (some { sessionId := w.next, startedAt := now, expiresAt := now + sessionTtl }) id := rfl
  by_cases hid : w.next = id
  · subst hid
    obtain ⟨hnone, hst, hterm, hb⟩ : w.sessions w.next = none ∧ w.statuses w.next = [] ∧
        w.terminals w.next = 0 ∧ w.bundles w.next = 0 := by
      cases (hw w.next).phase with
      | unborn _ hnone hst hterm hb => exact ⟨hnone, hst, hterm, hb⟩
      | active hlt => exact absurd hlt (Nat.lt_irrefl _)
      | closed hlt => exact absurd hlt (Nat.lt_irrefl _)
      | expired hlt => exact absurd hlt (Nat.lt_irrefl _)
    have hidle : w.inFlight w.next = 0 := by
      by_contra hpos
      obtain ⟨s, hs, -⟩ := (hw w.next).bundling (Nat.pos_of_ne_zero hpos)
      rw [hnone] at hs
      cases hs
    have hnotRecording : w.recordings w.next = 0 := by
      unfold World.inFlight at hidle
      unfold World.recordings
      omega
    rw [Function.update_self] at hsessions
    rw [hst, if_pos rfl, List.nil_append] at hstatuses
    constructor
    · rw [hsessions]
      rintro s hs
      obtain rfl := Option.some.inj hs
      rfl
    · rw [hsessions, hrecordings, hnotRecording]
      rintro s hs
      obtain rfl := Option.some.inj hs
      exact hb.symm
    · rw [hinFlight, hidle]
      exact fun hpos => absurd hpos (Nat.lt_irrefl _)
    · rw [hstarts, (hw w.next).started, if_neg (Nat.lt_irrefl _), List.count_singleton_self]
      exact (if_pos (Nat.lt_succ_self _)).symm
    · exact .active (Nat.lt_succ_self _) _ hsessions rfl hstatuses (hterminals.trans hterm)
  · rw [Function.update_of_ne (Ne.symm hid)] at hsessions
    rw [if_neg hid, List.append_nil] at hstatuses
    refine (hw id).mono ?_ hsessions hstatuses hterminals.le rfl hrecordings hinFlight.le ?_
    · show id < w.next + 1 ↔ id < w.next
      omega
    · rw [hstarts, List.count_eq_zero_of_not_mem (by simpa using Ne.symm hid), Nat.add_zero]

theorem sound_await_diagnosing {s : SupportSession} (h : Sound w id) (j : ℕ)
    (hs : w.sessions j = some s) (hactive : s.status = active) :
    Sound (w.await (diagnosing j)) id := by
  have hterminals : (w.await (diagnosing j)).terminals id = w.terminals id :=
    (terminals_await w id (diagnosing j)).trans (add_zero _)
  have hrecordings : (w.await (diagnosing j)).recordings id = w.recordings id :=
    recordings_await w id (diagnosing j)
  have hstarts : (w.await (diagnosing j)).starts id = w.starts id :=
    starts_await w id (diagnosing j)
  by_cases hid : j = id
  · subst hid
    obtain ⟨hst, hterm⟩ := h.of_active hs hactive
    exact ⟨h.keyed, fun s hs => (h.counted s hs).trans (by rw [hrecordings]; rfl),
      fun _ => ⟨s, hs, hactive⟩, hstarts.trans h.started,
      .active (h.lt_next hs) s hs hactive hst (hterminals.trans hterm)⟩
  · refine h.mono Iff.rfl rfl rfl hterminals.le rfl hrecordings (Nat.le_of_eq ?_) hstarts
    rw [inFlight_await, List.count_eq_zero_of_not_mem (by simpa using Ne.symm hid)]
    rfl

/-- A session of which no bundle is in flight is closed, and its end waits for the audit. -/
theorem sound_close {s : SupportSession} (h : Sound w id) (j : ℕ) (now : Instant)
    (hs : w.sessions j = some s) (hactive : s.status = active) (hidle : w.inFlight j = 0) :
    Sound ((w.closeStored j now).await (ending j s.bundleCount)) id := by
  have hstatuses : ((w.closeStored j now).await (ending j s.bundleCount)).statuses id =
      w.statuses id ++ if j = id then [closed] else [] := statuses_append w id j closed
  have hterminals : ((w.closeStored j now).await (ending j s.bundleCount)).terminals id =
      w.terminals id + (ending j s.bundleCount).terminal id :=
    terminals_await (w.closeStored j now) id (ending j s.bundleCount)
  have hrecordings : ((w.closeStored j now).await (ending j s.bundleCount)).recordings id =
      w.recordings id := recordings_await (w.closeStored j now) id (ending j s.bundleCount)
  have hinFlight : ((w.closeStored j now).await (ending j s.bundleCount)).inFlight id =
      w.inFlight id := inFlight_await (w.closeStored j now) id (ending j s.bundleCount)
  have hstarts : ((w.closeStored j now).await (ending j s.bundleCount)).starts id = w.starts id :=
    starts_await (w.closeStored j now) id (ending j s.bundleCount)
  have hsessions : ((w.closeStored j now).await (ending j s.bundleCount)).sessions id =
      Function.update w.sessions j ((w.sessions j).map fun s =>
        { s with status := closed, closedAt := some now }) id := rfl
  by_cases hid : j = id
  · subst hid
    obtain ⟨hst, hterm⟩ := h.of_active hs hactive
    have hcount : s.bundleCount = w.bundles j := by
      have hnotRecording : w.recordings j = 0 := by
        unfold World.inFlight at hidle
        unfold World.recordings
        omega
      rw [h.counted s hs, hnotRecording, Nat.add_zero]
    rw [Function.update_self, hs, Option.map_some] at hsessions
    rw [hst, if_pos rfl] at hstatuses
    have hcounted : ((w.closeStored j now).await (ending j s.bundleCount)).terminals j ≤
        {(ended, w.bundles j)} := by
      rw [hterminals, hterm, zero_add, Pending.terminal, if_pos rfl, hcount]
    constructor
    · rw [hsessions]
      rintro s' hs'
      obtain rfl := Option.some.inj hs'
      exact h.keyed s hs
    · rw [hsessions, hrecordings]
      rintro s' hs'
      obtain rfl := Option.some.inj hs'
      exact h.counted s hs
    · rw [hinFlight, hidle]
      exact fun hpos => absurd hpos (Nat.lt_irrefl _)
    · exact hstarts.trans h.started
    · exact .closed (h.lt_next hs) _ hsessions rfl hstatuses hcounted
  · rw [Function.update_of_ne (Ne.symm hid)] at hsessions
    rw [if_neg hid, List.append_nil] at hstatuses
    rw [Pending.terminal, if_neg hid, add_zero] at hterminals
    exact h.mono Iff.rfl hsessions hstatuses hterminals.le rfl hrecordings hinFlight.le hstarts

/-! ## What the database answers -/

section Resume

variable {task : Pending} {rest : List Pending}

theorem terminals_of_perm (hperm : w.tasks.Perm (task :: rest)) (id : ℕ) :
    w.terminals id = ({ w with tasks := rest } : World).terminals id + task.terminal id := by
  unfold World.terminals
  rw [(hperm.map _).sum_eq, List.map_cons, List.sum_cons]
  show _ = w.queued id + _ + w.audited id + _
  abel

theorem recordings_of_perm (hperm : w.tasks.Perm (task :: rest)) (id : ℕ) :
    w.recordings id = ({ w with tasks := rest } : World).recordings id +
      [task].count (recording id) := by
  unfold World.recordings
  rw [hperm.count_eq, ← List.singleton_append, List.count_append, Nat.add_comm]

theorem inFlight_of_perm (hperm : w.tasks.Perm (task :: rest)) (id : ℕ) :
    w.inFlight id = ({ w with tasks := rest } : World).inFlight id +
      ([task].count (diagnosing id) + [task].count (recording id)) := by
  unfold World.inFlight
  rw [hperm.count_eq, hperm.count_eq, ← List.singleton_append, List.count_append,
    List.count_append]
  dsimp only
  omega

theorem starts_of_perm (hperm : w.tasks.Perm (task :: rest)) (id : ℕ) :
    w.starts id = ({ w with tasks := rest } : World).starts id + [task].count (starting id) := by
  unfold World.starts
  rw [hperm.count_eq, ← List.singleton_append, List.count_append]
  dsimp only
  omega

theorem terminals_record (w : World) (events : List AuditEvent) (id : ℕ) :
    (w.record events).terminals id =
      w.terminals id + (events.map (AuditEvent.terminal id)).sum := by
  unfold World.terminals World.audited World.record World.queued
  dsimp only
  rw [List.map_append, List.sum_append]
  abel

theorem bundles_record (w : World) (events : List AuditEvent) (id : ℕ) :
    (w.record events).bundles id = w.bundles id + events.count (supportBundleGenerated id) :=
  List.count_append

theorem starts_record (w : World) (events : List AuditEvent) (id : ℕ) :
    (w.record events).starts id = w.starts id + events.count (supportSessionStart id) := by
  unfold World.starts World.record
  dsimp only
  rw [List.count_append]
  omega

/-- A task that neither starts a session nor records a bundle may come to nothing. -/
theorem sound_drop (h : Sound w id) (hperm : w.tasks.Perm (task :: rest))
    (hstarting : task ≠ starting id) (hrecording : task ≠ recording id) :
    Sound { w with tasks := rest } id := by
  have hrecordings := recordings_of_perm hperm id
  have hstarts := starts_of_perm hperm id
  rw [List.count_eq_zero_of_not_mem (by simpa using hrecording.symm)] at hrecordings
  rw [List.count_eq_zero_of_not_mem (by simpa using hstarting.symm)] at hstarts
  refine h.mono Iff.rfl rfl rfl ?_ rfl hrecordings.symm ?_ hstarts.symm
  · rw [terminals_of_perm hperm]
    exact Multiset.le_add_right _ _
  · rw [inFlight_of_perm hperm]
    exact Nat.le_add_right _ _

/-- Terminal events that were to be audited are. -/
theorem sound_record_terminal (h : Sound w id) (hperm : w.tasks.Perm (task :: rest))
    (hstarting : task ≠ starting id) (hrecording : task ≠ recording id) {events : List AuditEvent}
    (hevents : (events.map (AuditEvent.terminal id)).sum ≤ task.terminal id)
    (hbundle : supportBundleGenerated id ∉ events) (hstart : supportSessionStart id ∉ events) :
    Sound (({ w with tasks := rest } : World).record events) id := by
  have hrecordings := recordings_of_perm hperm id
  have hstarts := starts_of_perm hperm id
  rw [List.count_eq_zero_of_not_mem (by simpa using hrecording.symm)] at hrecordings
  rw [List.count_eq_zero_of_not_mem (by simpa using hstarting.symm)] at hstarts
  refine h.mono Iff.rfl rfl rfl ?_ ?_ hrecordings.symm ?_ ?_
  · rw [terminals_record, terminals_of_perm hperm]
    exact add_le_add le_rfl hevents
  · rw [bundles_record, List.count_eq_zero_of_not_mem hbundle]
    rfl
  · show ({ w with tasks := rest } : World).inFlight id ≤ _
    rw [inFlight_of_perm hperm]
    exact Nat.le_add_right _ _
  · rw [starts_record, List.count_eq_zero_of_not_mem hstart]
    exact hstarts.symm

/-- A start is audited. -/
theorem sound_starting {j : ℕ} (h : Sound w id) (hperm : w.tasks.Perm (starting j :: rest)) :
    Sound (({ w with tasks := rest } : World).record [supportSessionStart j]) id := by
  have hbundles := bundles_record { w with tasks := rest } [supportSessionStart j] id
  refine h.mono Iff.rfl rfl rfl (le_of_eq ?_) hbundles (recordings_of_perm hperm id).symm ?_ ?_
  · rw [terminals_record, terminals_of_perm hperm]
    rfl
  · exact (inFlight_of_perm hperm id).symm.le
  · rw [starts_record, starts_of_perm hperm]
    congr 1
    by_cases hj : j = id <;> simp [hj]

/-- The diagnostics are there: the bundle counts, and is to be audited. -/
theorem sound_diagnosing {j : ℕ} (h : Sound w id) (hperm : w.tasks.Perm (diagnosing j :: rest)) :
    Sound ((({ w with tasks := rest } : World).incrementBundleCount j).await (recording j)) id := by
  let w₀ : World := { w with tasks := rest }
  have hterminals : ((w₀.incrementBundleCount j).await (recording j)).terminals id =
      w.terminals id := by
    rw [terminals_await, terminals_of_perm hperm]
    rfl
  have hrecordings : ((w₀.incrementBundleCount j).await (recording j)).recordings id =
      w.recordings id + [recording j].count (recording id) := by
    rw [recordings_await, recordings_of_perm hperm]
    rfl
  have hstarts : ((w₀.incrementBundleCount j).await (recording j)).starts id = w.starts id := by
    rw [starts_await, starts_of_perm hperm]
    rfl
  have hinFlight : ((w₀.incrementBundleCount j).await (recording j)).inFlight id =
      w.inFlight id := by
    rw [inFlight_await, inFlight_of_perm hperm]
    show w₀.inFlight id + _ = w₀.inFlight id + _
    by_cases hj : j = id <;> simp [hj]
  have hsessions : ((w₀.incrementBundleCount j).await (recording j)).sessions id =
      Function.update w.sessions j ((w.sessions j).map fun s =>
        { s with bundleCount := s.bundleCount + 1 }) id := rfl
  by_cases hid : j = id
  · subst hid
    have hpos : 0 < w.inFlight j := by
      rw [inFlight_of_perm hperm, List.count_singleton_self]
      omega
    obtain ⟨s, hs, hactive⟩ := h.bundling hpos
    obtain ⟨hst, hterm⟩ := h.of_active hs hactive
    rw [Function.update_self, hs, Option.map_some] at hsessions
    rw [List.count_singleton_self] at hrecordings
    constructor
    · rw [hsessions]
      rintro s' hs'
      obtain rfl := Option.some.inj hs'
      exact h.keyed s hs
    · rw [hsessions, hrecordings]
      rintro s' hs'
      obtain rfl := Option.some.inj hs'
      show s.bundleCount + 1 = w.bundles j + (w.recordings j + 1)
      rw [h.counted s hs, Nat.add_assoc]
    · exact fun _ => ⟨_, hsessions, hactive⟩
    · exact hstarts.trans h.started
    · exact .active (h.lt_next hs) _ hsessions hactive hst (hterminals.trans hterm)
  · rw [Function.update_of_ne (Ne.symm hid)] at hsessions
    rw [List.count_eq_zero_of_not_mem (by simpa using Ne.symm hid)] at hrecordings
    exact h.mono Iff.rfl hsessions rfl hterminals.le rfl hrecordings hinFlight.le hstarts

/-- A bundle is audited. -/
theorem sound_recording {j : ℕ} (h : Sound w id) (hperm : w.tasks.Perm (recording j :: rest)) :
    Sound (({ w with tasks := rest } : World).record [supportBundleGenerated j]) id := by
  let w₀ : World := { w with tasks := rest }
  have hterminals : (w₀.record [supportBundleGenerated j]).terminals id = w.terminals id := by
    rw [terminals_record, terminals_of_perm hperm]
    rfl
  have hbundles := bundles_record w₀ [supportBundleGenerated j] id
  have hstarts : (w₀.record [supportBundleGenerated j]).starts id = w.starts id := by
    rw [starts_record, starts_of_perm hperm]
    rfl
  have hrecordings := recordings_of_perm hperm id
  have hinFlight : (w₀.record [supportBundleGenerated j]).inFlight id ≤ w.inFlight id := by
    rw [inFlight_of_perm hperm]
    exact Nat.le_add_right _ _
  by_cases hid : j = id
  · subst hid
    have hpos : 0 < w.inFlight j := by
      rw [inFlight_of_perm hperm, List.count_singleton_self]
      omega
    obtain ⟨s, hs, hactive⟩ := h.bundling hpos
    obtain ⟨hst, hterm⟩ := h.of_active hs hactive
    rw [List.count_singleton_self] at hbundles hrecordings
    refine ⟨h.keyed, fun s' hs' => ?_, fun _ => ⟨s, hs, hactive⟩, hstarts.trans h.started,
      .active (h.lt_next hs) s hs hactive hst (hterminals.trans hterm)⟩
    rw [h.counted s' hs', hbundles, hrecordings]
    show w.bundles j + (w₀.recordings j + 1) = w.bundles j + 1 + w₀.recordings j
    omega
  · rw [List.count_eq_zero_of_not_mem (by simpa using Ne.symm hid)] at hbundles hrecordings
    exact h.mono Iff.rfl rfl rfl hterminals.le hbundles hrecordings.symm hinFlight hstarts

/-- Of the sessions drained, those whose audit is written are among those that were to be. -/
theorem sum_terminal_expired_le (sessions : List SupportSession) (q : SupportSession → Bool) :
    (((sessions.filter q).map fun s => supportSessionExpired s.sessionId s.bundleCount).map
      (AuditEvent.terminal id)).sum ≤ (expiring sessions).terminal id := by
  have hsum : ∀ l : List SupportSession,
      ((l.map fun s => supportSessionExpired s.sessionId s.bundleCount).map
        (AuditEvent.terminal id)).sum = (expiring l).terminal id := by
    intro l
    induction l with
    | nil => rfl
    | cons s l ih =>
      rw [List.map_cons, List.map_cons, List.sum_cons, ih]
      by_cases hs : s.sessionId = id
      · simp [AuditEvent.terminal, Pending.terminal, hs]
      · simp [AuditEvent.terminal, Pending.terminal, hs]
  rw [hsum]
  unfold Pending.terminal
  dsimp only
  rw [Multiset.coe_le]
  exact ((List.filter_sublist.filter _).map _).subperm

/-- The database answers a call: starts and bundles are audited, everything else may fail. -/
theorem sound_resume (h : Sound w id) (k : ℕ) (succeeds : ℕ → Bool)
    (hwritten : ∀ j, w.tasks[k]? = some (starting j) ∨ w.tasks[k]? = some (recording j) →
      succeeds j = true) : Sound (w.resume k succeeds) id := by
  unfold World.resume
  cases htask : w.tasks[k]? with
  | none => exact h
  | some task =>
    obtain ⟨hk, hget⟩ := List.getElem?_eq_some_iff.mp htask
    have hperm : w.tasks.Perm (task :: w.tasks.eraseIdx k) :=
      hget ▸ (List.getElem_cons_eraseIdx_perm hk).symm
    rw [htask] at hwritten
    unfold World.finish
    cases task with
    | starting j =>
      dsimp only
      rw [if_pos (hwritten j (.inl rfl))]
      exact sound_starting h hperm
    | diagnosing j =>
      dsimp only
      split
      · exact sound_diagnosing h hperm
      · exact sound_drop h hperm nofun nofun
    | recording j =>
      dsimp only
      rw [if_pos (hwritten j (.inr rfl))]
      exact sound_recording h hperm
    | ending j n =>
      dsimp only
      split
      · refine sound_record_terminal h hperm nofun nofun ?_ (by simp) (by simp)
        rw [List.map_singleton, List.sum_singleton]
        exact le_rfl
      · exact sound_drop h hperm nofun nofun
    | expiring sessions =>
      exact sound_record_terminal h hperm nofun nofun (sum_terminal_expired_le sessions _)
        (by simp) (by simp)

end Resume

/-! ## The order of audit events -/

/-- No bundle of a session is audited after its terminal event. -/
def BundlesFirst (audit : List AuditEvent) : Prop :=
  audit.Pairwise fun e e' => ∀ id, e.terminal id ≠ 0 → e' ≠ supportBundleGenerated id

theorem BundlesFirst.append {audit events : List AuditEvent} (h : BundlesFirst audit)
    (hevents : ∀ id, supportBundleGenerated id ∉ events) : BundlesFirst (audit ++ events) := by
  have hne : ∀ e' ∈ events, ∀ id, e' ≠ supportBundleGenerated id := fun e' he' id heq =>
    hevents id (heq ▸ he')
  refine List.pairwise_append.mpr ⟨h, ?_, fun e _ e' he' id _ => hne e' he' id⟩
  exact List.pairwise_of_forall_mem_list fun e _ e' he' id _ => hne e' he' id

/-- A session without terminal events may have one more bundle. -/
theorem BundlesFirst.bundle (h : BundlesFirst w.audit) (hterminals : w.terminals id = 0) :
    BundlesFirst (w.audit ++ [supportBundleGenerated id]) := by
  refine List.pairwise_append.mpr ⟨h, List.pairwise_singleton _ _, fun e he e' he' j hj => ?_⟩
  rw [List.mem_singleton.mp he']
  intro heq
  obtain rfl := supportBundleGenerated.inj heq
  have haudited : w.audited id = 0 := by
    rw [World.terminals, add_eq_zero] at hterminals
    exact hterminals.2
  exact hj (List.sum_eq_zero_iff.mp haudited _ (List.mem_map_of_mem he))

theorem bundlesFirst_resume (hw : ∀ id, Sound w id) (h : BundlesFirst w.audit) (k : ℕ)
    (succeeds : ℕ → Bool) : BundlesFirst (w.resume k succeeds).audit := by
  unfold World.resume
  cases htask : w.tasks[k]? with
  | none => exact h
  | some task =>
    unfold World.finish
    cases task with
    | starting j =>
      dsimp only
      split
      · exact h.append (by simp)
      · exact h
    | diagnosing j =>
      dsimp only
      split <;> exact h
    | recording j =>
      dsimp only
      split
      · have hpos : 0 < w.inFlight j := Nat.lt_of_lt_of_le (List.count_pos_iff.mpr
          (List.mem_of_getElem? htask)) (Nat.le_add_left _ _)
        obtain ⟨s, hs, hactive⟩ := (hw j).bundling hpos
        exact h.bundle ((hw j).of_active hs hactive).2
      · exact h
    | ending j n =>
      dsimp only
      split
      · exact h.append (by simp)
      · exact h
    | expiring sessions => exact h.append (by simp)

/-! ## What is reported -/

/-- Once a session is closed, calls on it are refused as on a closed one, and nothing else happens
to it. -/
def StaysClosed (trace : List (ℕ × Entry)) : Prop :=
  trace.Pairwise fun p q => p.2 = became closed → q.1 = p.1 → q.2 = refused (some closed)

theorem closed_mem_statuses {trace : List (ℕ × Entry)} {p : ℕ × Entry} (hp : p ∈ trace)
    (hclosed : p.2 = became closed) : closed ∈ trace.filterMap (assigned p.1) :=
  List.mem_filterMap.mpr ⟨p, hp, by simp [assigned, hclosed]⟩

theorem StaysClosed.append (h : StaysClosed w.trace) {new : List (ℕ × Entry)}
    (hself : new.Pairwise fun p _ => p.2 ≠ became closed)
    (hnew : ∀ q ∈ new, closed ∈ w.statuses q.1 → q.2 = refused (some closed)) :
    StaysClosed (w.trace ++ new) := by
  refine List.pairwise_append.mpr ⟨h, hself.imp fun hne hclosed => absurd hclosed hne, ?_⟩
  intro p hp q hq hclosed hid
  exact hnew q hq (hid ▸ closed_mem_statuses hp hclosed)

namespace Sound

theorem of_closed_mem (h : Sound w id) (hclosed : closed ∈ w.statuses id) :
    ∃ s, w.sessions id = some s ∧ s.status = closed := by
  cases h.phase with
  | unborn _ _ hst => simp [hst] at hclosed
  | active _ _ _ _ hst => simp [hst] at hclosed
  | closed _ s hs hs' => exact ⟨s, hs, hs'⟩
  | expired _ _ hst => simp [hst] at hclosed

end Sound

theorem staysClosed_expire (hw : ∀ id, Sound w id) (h : StaysClosed w.trace)
    {p : SupportSession → Bool} (hquiet : ∀ id s, w.sessions id = some s → p s = true →
      s.status = active ∧ w.inFlight id = 0) : StaysClosed (w.expire p).trace := by
  refine h.append (List.pairwise_of_forall_mem_list fun q hq _ _ => ?_) fun q hq hclosed => ?_
  · obtain ⟨s, -, rfl⟩ := List.mem_map.mp hq
    nofun
  · obtain ⟨s, hs, rfl⟩ := List.mem_map.mp hq
    obtain ⟨j, -, hj⟩ := List.mem_filterMap.mp hs
    obtain ⟨hstored, hp⟩ := Option.filter_eq_some_iff.mp hj
    obtain ⟨hactive, -⟩ := hquiet j s hstored hp
    have hkeyed := (hw j).keyed s hstored
    rw [hkeyed, ((hw j).of_active hstored hactive).1] at hclosed
    simp at hclosed

theorem staysClosed_refuse (hw : ∀ id, Sound w id) (h : StaysClosed w.trace) (id : ℕ) :
    StaysClosed (w.refuse id ((w.sessions id).map SupportSession.status)).trace := by
  refine h.append (List.pairwise_singleton _ _) fun q hq hclosed => ?_
  obtain rfl := List.mem_singleton.mp hq
  obtain ⟨s, hs, hstatus⟩ := (hw id).of_closed_mem hclosed
  rw [hs, Option.map_some, hstatus]

theorem staysClosed_get (hw : ∀ id, Sound w id) (h : StaysClosed w.trace) {id : ℕ}
    {t₁ t₂ : Instant} (h₁ : Quiet w t₁) (h₂ : Quiet w t₂) :
    StaysClosed (w.get id t₁ t₂).2.trace := by
  have hfirst : ∀ j s, w.sessions j = some s → decide (s.expiresAt < t₁) = true →
      s.status = active ∧ w.inFlight j = 0 := fun j s hs hp => h₁.of_some hw hs (of_decide_eq_true hp)
  have hclean : ∀ j, Sound (w.cleanupExpired t₁) j := sound_expire hw hfirst
  have htrace : StaysClosed (w.cleanupExpired t₁).trace := staysClosed_expire hw h hfirst
  unfold World.get
  dsimp only
  split
  · exact htrace
  · next s hs =>
    split
    · next hexpired =>
      refine staysClosed_expire hclean htrace fun j s' hs' hp => ?_
      obtain rfl : j = id := ((hclean j).keyed s' hs').symm.trans (of_decide_eq_true hp)
      rw [hs] at hs'
      obtain rfl := Option.some.inj hs'
      exact h₂.of_some hw (Option.filter_eq_some_iff.mp hs).1 hexpired
    · exact htrace

theorem audit_get (w : World) (id : ℕ) (t₁ t₂ : Instant) : (w.get id t₁ t₂).2.audit = w.audit := by
  unfold World.get
  dsimp only
  split
  · rfl
  · split <;> rfl

/-! ## Every run -/

/-- Every session is sound, and nothing happened out of order. -/
structure Kept (w : World) : Prop where
  sound : ∀ id, Sound w id
  bundlesFirst : BundlesFirst w.audit
  staysClosed : StaysClosed w.trace

namespace Kept

theorem get (h : Kept w) (id : ℕ) {t₁ t₂ : Instant} (h₁ : Quiet w t₁) (h₂ : Quiet w t₂) :
    Kept (w.get id t₁ t₂).2 :=
  ⟨(get_spec h.sound id h₁ h₂).1, (audit_get w id t₁ t₂).symm ▸ h.bundlesFirst,
    staysClosed_get h.sound h.staysClosed h₁ h₂⟩

theorem auditExpiredSessions (h : Kept w) : Kept w.auditExpiredSessions := by
  have hsame : w.auditExpiredSessions.audit = w.audit ∧ w.auditExpiredSessions.trace = w.trace := by
    unfold World.auditExpiredSessions
    split <;> exact ⟨rfl, rfl⟩
  exact ⟨fun id => sound_auditExpiredSessions (h.sound id), hsame.1.symm ▸ h.bundlesFirst,
    hsame.2.symm ▸ h.staysClosed⟩

/-- A call is refused with the status of the session, or because there is none. -/
theorem refuse (h : Kept w) (id : ℕ) {status : Option SupportSessionStatus}
    (hstatus : status = (w.sessions id).map SupportSession.status) : Kept (w.refuse id status) :=
  ⟨fun j => sound_refuse (h.sound j) id status, h.bundlesFirst,
    hstatus ▸ staysClosed_refuse h.sound h.staysClosed id⟩

/-- A call on a session keeps everything if what it does with an active one does. -/
theorem withActive (h : Kept w) {id : ℕ} {t₁ t₂ : Instant} (h₁ : Quiet w t₁) (h₂ : Quiet w t₂)
    {go : World → SupportSession → World}
    (hgo : ∀ w' s, Kept w' → w'.sessions id = some s → s.status = active →
      (∀ now, Quiet w now → Quiet w' now) → (∀ j, w'.inFlight j = w.inFlight j) → Kept (go w' s)) :
    Kept (w.withActive id t₁ t₂ go) := by
  obtain ⟨-, hfound, hquiet, hinFlight⟩ := get_spec h.sound id h₁ h₂
  have hkept := h.get id h₁ h₂
  unfold World.withActive
  split
  · next w' heq =>
    rw [heq] at hkept hfound
    have hnone : w'.auditExpiredSessions.sessions id = none := by
      unfold World.auditExpiredSessions
      split <;> exact hfound
    exact hkept.auditExpiredSessions.refuse id (by rw [hnone]; rfl)
  · next s w' heq =>
    rw [heq] at hkept hfound hquiet hinFlight
    split
    · next hactive => exact hgo w' s hkept hfound hactive hquiet hinFlight
    · exact hkept.refuse id (by rw [show w'.sessions id = some s from hfound]; rfl)

theorem createSupportSession (h : Kept w) (now : Instant) : Kept (w.createSupportSession now) := by
  refine ⟨sound_createSupportSession h.sound now, h.bundlesFirst, ?_⟩
  refine StaysClosed.append h.staysClosed (List.pairwise_singleton _ _) fun q hq hclosed => ?_
  obtain rfl := List.mem_singleton.mp hq
  obtain ⟨s, hs, -⟩ := (h.sound w.next).of_closed_mem hclosed
  exact absurd ((h.sound w.next).lt_next hs) (Nat.lt_irrefl _)

theorem awaitDiagnosing (h : Kept w) {s : SupportSession} (hs : w.sessions id = some s)
    (hactive : s.status = active) : Kept (w.await (diagnosing id)) :=
  ⟨fun j => sound_await_diagnosing (h.sound j) id hs hactive, h.bundlesFirst, h.staysClosed⟩

theorem close (h : Kept w) (now : Instant) {s : SupportSession} (hs : w.sessions id = some s)
    (hactive : s.status = active) (hidle : w.inFlight id = 0) :
    Kept ((w.closeStored id now).await (ending id s.bundleCount)) := by
  refine ⟨fun j => sound_close (h.sound j) id now hs hactive hidle, h.bundlesFirst, ?_⟩
  refine StaysClosed.append h.staysClosed (List.pairwise_singleton _ _) fun q hq hclosed => ?_
  obtain rfl := List.mem_singleton.mp hq
  rw [((h.sound id).of_active hs hactive).1] at hclosed
  simp at hclosed

theorem resume (h : Kept w) (k : ℕ) (succeeds : ℕ → Bool)
    (hwritten : ∀ j, w.tasks[k]? = some (starting j) ∨ w.tasks[k]? = some (recording j) →
      succeeds j = true) : Kept (w.resume k succeeds) := by
  have htrace : (w.resume k succeeds).trace = w.trace := by
    unfold World.resume
    split
    · rfl
    · next task htask =>
      unfold World.finish
      cases task <;> dsimp only <;> first | rfl | (split <;> rfl)
  exact ⟨fun id => sound_resume (h.sound id) k succeeds hwritten,
    bundlesFirst_resume h.sound h.bundlesFirst k succeeds, htrace.symm ▸ h.staysClosed⟩

end Kept

/-- The audit entry of a start or of a bundle is written. -/
def Written (succeeds : ℕ → Bool) : Option Pending → Prop
  | some (starting id) => succeeds id = true
  | some (recording id) => succeeds id = true
  | _ => True

/-- A step in which the clock sweeps out no closed session and none of which a bundle is in
flight, no session is closed while a bundle of it is in flight, and a start or a bundle that is to
be audited is. -/
def Orderly (w : World) : Event → Prop
  | .create _ => True
  | .diagnostics _ t₁ t₂ => Quiet w t₁ ∧ Quiet w t₂
  | .bundle _ t₁ t₂ t₃ t₄ => Quiet w t₁ ∧ Quiet w t₂ ∧ Quiet w t₃ ∧ Quiet w t₄
  | .close id t₁ t₂ _ => Quiet w t₁ ∧ Quiet w t₂ ∧ w.inFlight id = 0
  | .resume k succeeds => Written succeeds w.tasks[k]?

instance (w : World) (now : Instant) : Decidable (Quiet w now) := by
  unfold Quiet
  infer_instance

instance (succeeds : ℕ → Bool) (task : Option Pending) : Decidable (Written succeeds task) := by
  unfold Written
  split <;> infer_instance

instance (w : World) (event : Event) : Decidable (Orderly w event) := by
  unfold Orderly
  split <;> infer_instance

theorem Kept.step (h : Kept w) {event : Event} (horderly : Orderly w event) :
    Kept (w.step event) := by
  cases event with
  | create now => exact h.createSupportSession now
  | diagnostics id t₁ t₂ =>
    exact h.withActive horderly.1 horderly.2 fun w' s hkept _ _ _ _ => hkept
  | bundle id t₁ t₂ t₃ t₄ =>
    obtain ⟨h₁, h₂, h₃, h₄⟩ := horderly
    refine h.withActive h₁ h₂ fun w' s hkept _ _ hquiet _ => ?_
    exact hkept.withActive (hquiet t₃ h₃) (hquiet t₄ h₄) fun w'' s' hkept' hs' hactive' _ _ =>
      hkept'.awaitDiagnosing hs' hactive'
  | close id t₁ t₂ t₃ =>
    obtain ⟨h₁, h₂, hidle⟩ := horderly
    refine h.withActive h₁ h₂ fun w' s hkept hs hactive _ hinFlight => ?_
    exact hkept.close t₃ hs hactive ((hinFlight id).trans hidle)
  | resume k succeeds =>
    refine h.resume k succeeds fun j hj => ?_
    rcases hj with hj | hj
    · exact (hj ▸ horderly : Written succeeds (some (starting j)))
    · exact (hj ▸ horderly : Written succeeds (some (recording j)))

theorem kept_empty : Kept {} := by
  refine ⟨fun id => ⟨nofun, nofun, fun h => absurd h (Nat.lt_irrefl _), rfl, ?_⟩,
    List.Pairwise.nil, List.Pairwise.nil⟩
  exact .unborn (Nat.zero_le _) rfl rfl rfl rfl

/-- A support session ends once. -/
structure EndsOnce (w : World) : Prop where
  /-- A session becomes active, and then closed or expired, and nothing after that. -/
  statuses : ∀ id < w.next,
    w.statuses id = [active] ∨ w.statuses id = [active, closed] ∨ w.statuses id = [active, expired]
  /-- What happens to a session after it is closed is that calls are refused as on a closed one. -/
  reported : ∀ before after id, w.trace = before ++ (id, became closed) :: after →
    ∀ entry, (id, entry) ∈ after → entry = refused (some closed)
  /-- No session that was closed is audited as expired. -/
  notExpired : ∀ id, closed ∈ w.statuses id → ∀ n, supportSessionExpired id n ∉ w.audit
  /-- Once the call that creates a session is over, the audit has its start, once. -/
  started : ∀ id < w.next, starting id ∉ w.tasks → w.audit.count (supportSessionStart id) = 1
  /-- At most one terminal event. -/
  ended : ∀ id, (w.audited id).card ≤ 1
  /-- No bundle after the terminal event, which counts the bundles. -/
  counted : ∀ before e after, w.audit = before ++ e :: after → ∀ id p, p ∈ e.terminal id →
    supportBundleGenerated id ∉ after ∧ p.2 = w.audit.count (supportBundleGenerated id)

theorem mem_audited {e : AuditEvent} (he : e ∈ w.audit) {p : Ending × ℕ}
    (hp : p ∈ e.terminal id) : p ∈ w.audited id := by
  obtain ⟨before, after, hsplit⟩ := List.append_of_mem he
  unfold World.audited
  rw [hsplit, List.map_append, List.map_cons, List.sum_append, List.sum_cons]
  exact Multiset.mem_add.mpr (.inr (Multiset.mem_add.mpr (.inl hp)))

namespace Sound

/-- At most one terminal event is audited; it counts the bundles, and says how the session
ended. -/
theorem audited_le (h : Sound w id) : ∃ k, w.audited id ≤ {(k, w.bundles id)} ∧
    (closed ∈ w.statuses id → k = ended) := by
  have hle : w.audited id ≤ w.terminals id := Multiset.le_add_left _ _
  cases h.phase with
  | unborn _ _ hst hterm =>
    refine ⟨ended, ?_, fun _ => rfl⟩
    exact (hle.trans hterm.le).trans (Multiset.zero_le _)
  | active _ _ _ _ hst hterm =>
    refine ⟨ended, ?_, fun _ => rfl⟩
    exact (hle.trans hterm.le).trans (Multiset.zero_le _)
  | closed _ _ _ _ hst hterm => exact ⟨ended, hle.trans hterm, fun _ => rfl⟩
  | expired _ _ hst hterm =>
    refine ⟨ranOut, hle.trans hterm, fun hclosed => ?_⟩
    rw [hst] at hclosed
    simp at hclosed

theorem statuses_cases (h : Sound w id) (hid : id < w.next) : w.statuses id = [.active] ∨
    w.statuses id = [.active, .closed] ∨ w.statuses id = [.active, .expired] := by
  cases h.phase with
  | unborn hle => exact absurd hid (Nat.not_lt.mpr hle)
  | active _ _ _ _ hst => exact .inl hst
  | closed _ _ _ _ hst => exact .inr (.inl hst)
  | expired _ _ hst => exact .inr (.inr hst)

end Sound

theorem Kept.endsOnce (h : Kept w) : EndsOnce w where
  statuses id hid := (h.sound id).statuses_cases hid
  reported before after id hsplit entry hentry := by
    have hpairs := hsplit ▸ h.staysClosed
    exact (List.pairwise_cons.mp (List.pairwise_append.mp hpairs).2.1).1 _ hentry rfl rfl
  notExpired id hclosed n hmem := by
    obtain ⟨k, hle, hk⟩ := (h.sound id).audited_le
    have hp : (ranOut, n) ∈ w.audited id := mem_audited hmem (by simp [AuditEvent.terminal])
    have heq := Multiset.mem_singleton.mp (Multiset.mem_of_le hle hp)
    rw [hk hclosed] at heq
    cases heq
  started id hid hpending := by
    have hstarted := (h.sound id).started
    unfold World.starts at hstarted
    rwa [if_pos hid, List.count_eq_zero_of_not_mem hpending, Nat.add_zero] at hstarted
  ended id := by
    obtain ⟨k, hle, -⟩ := (h.sound id).audited_le
    exact Multiset.card_le_card hle
  counted before e after hsplit id p hp := by
    constructor
    · have hpairs := hsplit ▸ h.bundlesFirst
      have hafter := (List.pairwise_cons.mp (List.pairwise_append.mp hpairs).2.1).1
      have hterminal : e.terminal id ≠ 0 := fun hzero => by
        rw [hzero] at hp
        exact absurd hp (Multiset.notMem_zero p)
      exact fun hmem => hafter _ hmem id hterminal rfl
    · obtain ⟨k, hle, -⟩ := (h.sound id).audited_le
      have hmem : e ∈ w.audit := hsplit ▸ List.mem_append_right _ List.mem_cons_self
      rw [Multiset.mem_singleton.mp (Multiset.mem_of_le hle (mem_audited hmem hp))]
      rfl

/-- A support session ends once in every orderly run. -/
theorem sessions_endOnce (events : List Event) (horderly : Along World.step Orderly {} events) :
    EndsOnce (events.foldl World.step {}) :=
  (Along.foldl_induction (fun _ _ h => h.step) kept_empty horderly).endsOnce

/-- Of two sessions one makes a bundle and is closed, without its end being audited, and is asked
for once more. -/
theorem sessions_endOnce_orderly : EndsOnce ([Event.create 0, .resume 0 fun _ => true,
    .create 1, .resume 0 fun _ => true, .bundle 0 5 5 6 6, .resume 0 fun _ => true,
    .resume 0 fun _ => true, .close 0 8 8 9, .resume 0 fun _ => false, .diagnostics 0 10 10,
    .create 20].foldl World.step {}) :=
  sessions_endOnce [.create 0, .resume 0 fun _ => true, .create 1, .resume 0 fun _ => true,
    .bundle 0 5 5 6 6, .resume 0 fun _ => true, .resume 0 fun _ => true, .close 0 8 8 9,
    .resume 0 fun _ => false, .diagnostics 0 10 10, .create 20]
    ⟨trivial, by decide, trivial, by decide, by decide, by decide, by decide, by decide,
      by decide, by decide, trivial, trivial⟩

/-- A closed session is swept out as expired an hour later, and audited a second time. -/
theorem sessions_endTwice : ¬∀ events : List Event, EndsOnce (events.foldl World.step {}) := by
  intro h
  have hended := (h [.create 0, .resume 0 fun _ => true, .close 0 1 1 1, .resume 0 fun _ => true,
    .diagnostics 0 3600000001 3600000001, .resume 0 fun _ => true]).ended 0
  exact absurd hended (by decide)

end Mpango.Support
