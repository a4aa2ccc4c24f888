import Mathlib.Data.List.Nodup
import Mathlib.Data.List.Perm.Subperm
import Mathlib.Data.List.Range
import Mpango.Library.Run
import Mpango.Model.ApiClient

/-!
# The refresh queue of the API client

One refresh is in flight at a time, the queue is empty when there is none, and every entry of the
queue is resolved or rejected once, in every run. That a request is sent at most twice holds only as
long as no request that waited in the queue is refused once more: it is sent again without the mark
that the request that starts the refresh gets.
-/

namespace Mpango.Client

open State

variable {s : State} {i : ℕ} {r : Request} {status : Option ℕ} {refresh : Refresh}

/-! ## Requests -/

namespace State

@[simp] theorem put_requests (i : ℕ) (r : Request) (j : ℕ) :
    (s.put i r).requests j = if j = i then some r else s.requests j := by
  simp [put, Function.update_apply]

@[simp] theorem put_failedQueue (i : ℕ) (r : Request) :
    (s.put i r).failedQueue = s.failedQueue := rfl

@[simp] theorem put_refreshes (i : ℕ) (r : Request) : (s.put i r).refreshes = s.refreshes := rfl

@[simp] theorem put_isRefreshing (i : ℕ) (r : Request) :
    (s.put i r).isRefreshing = s.isRefreshing := rfl

@[simp] theorem put_settled (i : ℕ) (r : Request) : (s.put i r).settled = s.settled := rfl

@[simp] theorem put_started (i : ℕ) (r : Request) : (s.put i r).started = s.started := rfl

@[simp] theorem put_nextWaiter (i : ℕ) (r : Request) : (s.put i r).nextWaiter = s.nextWaiter := rfl

@[simp] theorem put_nextRequest (i : ℕ) (r : Request) :
    (s.put i r).nextRequest = s.nextRequest := rfl

theorem unanswered_eq_some : s.unanswered i = some r ↔ s.requests i = some r ∧ r.phase = .sent := by
  simp [unanswered, Option.filter_eq_some_iff]

end State

/-! ## The invariant -/

/-- What holds of the client in every run. -/
structure Sound (s : State) : Prop where
  fresh : ∀ i, s.nextRequest ≤ i → s.requests i = none
  /-- The flag tells whether the one refresh is in flight. -/
  inFlight : s.isRefreshing = false ∧ s.refreshes = [] ∧ s.failedQueue = [] ∨
    s.isRefreshing = true ∧ ∃ refresh, s.refreshes = [refresh]
  queued : ∀ i, i ∈ s.failedQueue.map Waiter.request ↔
    ∃ r, s.requests i = some r ∧ r.phase = .queued
  nodup : (s.failedQueue.map Waiter.request).Nodup
  once : (s.settled ++ s.failedQueue.map Waiter.id).Perm (List.range s.nextWaiter)
  /-- A request that has started a refresh is marked. -/
  marked : ∀ i ∈ s.started, ∃ r, s.requests i = some r ∧ r.retry = true
  startedOnce : s.started.Nodup

namespace Sound

theorem start (auth : AuthState) : Sound (start auth) where
  fresh _ _ := rfl
  inFlight := .inl ⟨rfl, rfl, rfl⟩
  queued i := by simp [Client.start]
  nodup := List.nodup_nil
  once := .refl _
  marked := nofun
  startedOnce := List.nodup_nil

theorem oneRefresh (hs : Sound s) : s.refreshes.length ≤ 1 := by
  rcases hs.inFlight with ⟨-, hnone, -⟩ | ⟨-, refresh, hone⟩
  · simp [hnone]
  · simp [hone]

theorem emptyQueue (hs : Sound s) (h : s.refreshes = []) : s.failedQueue = [] := by
  rcases hs.inFlight with ⟨-, -, hempty⟩ | ⟨-, refresh, hone⟩
  · exact hempty
  · cases h.symm.trans hone

/-- The invariant reads neither the store nor the session. -/
theorem enter (hs : Sound s) (auth : AuthState) : Sound (s.enter auth) :=
  ⟨hs.fresh, hs.inFlight, hs.queued, hs.nodup, hs.once, hs.marked, hs.startedOnce⟩

/-- A request that exists has a number below the next one. -/
theorem lt_nextRequest (hs : Sound s) (h : s.requests i = some r) : i < s.nextRequest := by
  by_contra hge
  rw [hs.fresh i (Nat.not_lt.mp hge)] at h
  cases h

/-- No request starts two refreshes. -/
theorem chain (hs : Sound s) : s.started.length ≤ s.nextRequest := by
  have hsub : s.started ⊆ List.range s.nextRequest := by
    intro i hi
    obtain ⟨r, hr, -⟩ := hs.marked i hi
    exact List.mem_range.mpr (hs.lt_nextRequest hr)
  calc
    s.started.length ≤ (List.range s.nextRequest).length :=
      (List.Nodup.subperm hs.startedOnce hsub).length_le
    _ = s.nextRequest := List.length_range

theorem not_started (hs : Sound s) (h : s.requests i = some r) (hretry : r.retry = false) :
    i ∉ s.started := by
  intro hi
  obtain ⟨marked, hmarked, hmark⟩ := hs.marked i hi
  obtain rfl := Option.some.inj (h.symm.trans hmarked)
  rw [hretry] at hmark
  cases hmark

theorem fresh_put (hs : Sound s) {old : Request} (hold : s.requests i = some old) (j : ℕ)
    (hj : s.nextRequest ≤ j) : (s.put i r).requests j = none := by
  have hji : j ≠ i := by
    rintro rfl
    exact absurd (hs.lt_nextRequest hold) (Nat.not_lt.mpr hj)
  rw [put_requests, if_neg hji]
  exact hs.fresh j hj

theorem marked_put (hs : Sound s) {old : Request} (hold : s.requests i = some old)
    (hmark : old.retry = true → r.retry = true) (j : ℕ) (hj : j ∈ s.started) :
    ∃ r', (s.put i r).requests j = some r' ∧ r'.retry = true := by
  obtain ⟨r', hr', hmarked⟩ := hs.marked j hj
  rw [put_requests]
  split
  next hji =>
    obtain rfl := Option.some.inj (hold.symm.trans (hji ▸ hr'))
    exact ⟨r, rfl, hmark hmarked⟩
  next => exact ⟨r', hr', hmarked⟩

/-- A request that is not in the queue changes, is not put into it and keeps its mark. -/
theorem put (hs : Sound s) {old : Request} (hold : s.requests i = some old)
    (hout : old.phase ≠ .queued) (hr : r.phase ≠ .queued)
    (hmark : old.retry = true → r.retry = true) : Sound (s.put i r) where
  fresh := hs.fresh_put hold
  inFlight := hs.inFlight
  queued j := by
    rw [put_failedQueue, hs.queued, put_requests]
    split
    next hji =>
      subst hji
      simp [hold, hout, hr]
    next => rfl
  nodup := hs.nodup
  once := hs.once
  marked := hs.marked_put hold hmark
  startedOnce := hs.startedOnce

theorem finished (hs : Sound s) (h : s.unanswered i = some r) : Sound (s.put i r.finished) := by
  obtain ⟨hr, hsent⟩ := unanswered_eq_some.mp h
  exact hs.put hr (by rw [hsent]; nofun) nofun id

theorem send (hs : Sound s) (url : String) (skip : Bool) (supplied : Option (String × Option ℕ)) :
    Sound (s.send url skip supplied) := by
  have hnew : s.requests s.nextRequest = none := hs.fresh _ le_rfl
  refine ⟨fun j hj => ?_, hs.inFlight, fun j => ?_, hs.nodup, hs.once, fun j hj => ?_,
    hs.startedOnce⟩
  · have hj : s.nextRequest < j := hj
    simp only [State.send, put_requests, if_neg hj.ne']
    exact hs.fresh j hj.le
  · simp only [State.send, put_failedQueue, put_requests, hs.queued]
    split
    next hji =>
      subst hji
      rw [hnew]
      cases supplied <;> simp
    next => rfl
  · obtain ⟨r, hr, hmark⟩ := hs.marked j hj
    have hlt := hs.lt_nextRequest hr
    refine ⟨r, ?_, hmark⟩
    simp only [State.send, put_requests, if_neg hlt.ne]
    exact hr

/-- The request is put at the end of the queue under a number of its own. -/
theorem enqueue (hs : Sound s) (h : s.unanswered i = some r) (hflag : s.isRefreshing = true) :
    Sound (s.enqueue i r) := by
  obtain ⟨hr, hsent⟩ := unanswered_eq_some.mp h
  have hout : i ∉ s.failedQueue.map Waiter.request := by
    rw [hs.queued]
    rintro ⟨old, hold, hqueued⟩
    obtain rfl := Option.some.inj (hr.symm.trans hold)
    cases hsent.symm.trans hqueued
  have hone : ∃ refresh, s.refreshes = [refresh] := by
    rcases hs.inFlight with ⟨hoff, -⟩ | ⟨-, hone⟩
    · cases hflag.symm.trans hoff
    · exact hone
  refine ⟨hs.fresh_put hr, .inr ⟨hflag, hone⟩, fun j => ?_, ?_, ?_, hs.marked_put hr id,
    hs.startedOnce⟩
  · simp only [State.enqueue, List.map_append, List.mem_append, put_requests, hs.queued]
    split
    next hji => simp [hji]
    next hji => simp [hji]
  · simp only [State.enqueue, List.map_append, List.map_cons, List.map_nil]
    rw [← List.concat_eq_append, List.nodup_concat]
    exact ⟨hout, hs.nodup⟩
  · simp only [State.enqueue, put_settled, List.map_append, List.map_cons, List.map_nil,
      ← List.append_assoc, List.range_succ]
    exact hs.once.append_right _

/-- The flag is set with the one refresh, or the session ends without one. -/
theorem startRefresh (hs : Sound s) (h : s.unanswered i = some r) (hretry : r.retry = false)
    (hflag : s.isRefreshing = false) : Sound (s.startRefresh i r) := by
  obtain ⟨hr, hsent⟩ := unanswered_eq_some.mp h
  have hout : r.phase ≠ .queued := by
    rw [hsent]
    nofun
  obtain ⟨hnone, hempty⟩ : s.refreshes = [] ∧ s.failedQueue = [] := by
    rcases hs.inFlight with ⟨-, hidle⟩ | ⟨hon, -⟩
    · exact hidle
    · cases hflag.symm.trans hon
  unfold State.startRefresh
  split
  · have hdone : Sound (s.put i { r with retry := true }.finished) :=
      hs.put hr hout nofun fun _ => rfl
    exact ⟨hdone.fresh, .inl ⟨rfl, hnone, hempty⟩, hdone.queued, hdone.nodup, hdone.once,
      hdone.marked, hdone.startedOnce⟩
  · have hled : Sound (s.put i { r with retry := true, phase := .leading }) :=
      hs.put hr hout nofun fun _ => rfl
    refine ⟨hled.fresh, .inr ⟨rfl, by simp [hnone]⟩, hled.queued, hled.nodup, hled.once, ?_, ?_⟩
    · intro j hj
      rcases List.mem_append.mp hj with hold | hnew
      · exact hled.marked j hold
      · obtain rfl := List.mem_singleton.mp hnew
        exact ⟨_, by rw [put_requests, if_pos rfl], rfl⟩
    · show (s.started ++ [i]).Nodup
      rw [← List.concat_eq_append, List.nodup_concat]
      exact ⟨hs.not_started hr hretry, hs.startedOnce⟩

theorem fail (hs : Sound s) (h : s.unanswered i = some r) : Sound (s.fail i r status) := by
  unfold State.fail
  split
  · exact hs.finished h
  next hleaves =>
    have hretry : r.retry = false := by
      simp only [Request.leaves, Bool.or_eq_true, not_or, Bool.not_eq_true] at hleaves
      exact hleaves.1.2
    split
    next hflag => exact hs.enqueue h hflag
    next hflag => exact hs.startRefresh h hretry (Bool.not_eq_true _ ▸ hflag)

/-- The queue is emptied, and none of its requests stays queued. -/
theorem processQueue (hs : Sound s) (hmem : refresh ∈ s.refreshes) (f : Request → Request)
    (hf : ∀ r, (f r).phase ≠ .queued) (hmark : ∀ r, (f r).retry = r.retry) :
    Sound (s.processQueue f refresh) := by
  have hone : s.refreshes.erase refresh = [] := by
    rcases hs.inFlight with ⟨-, hnone, -⟩ | ⟨-, other, hone⟩
    · rw [hnone] at hmem
      cases hmem
    · rw [hone, List.mem_singleton] at hmem
      rw [hone, hmem, List.erase_cons_head]
  refine ⟨fun j hj => ?_, .inl ⟨rfl, hone, rfl⟩, fun j => ?_, List.nodup_nil, ?_, fun j hj => ?_,
    hs.startedOnce⟩
  · have hj := hs.fresh j hj
    simp [State.processQueue, hj]
  · refine iff_of_false List.not_mem_nil ?_
    rintro ⟨r, hr, hqueued⟩
    simp only [State.processQueue] at hr
    split at hr
    · obtain ⟨old, -, rfl⟩ := Option.map_eq_some_iff.mp hr
      exact hf old hqueued
    next hout =>
      have hin : j ∈ s.failedQueue.map Waiter.request := (hs.queued j).mpr ⟨r, hr, hqueued⟩
      exact hout (List.mem_append_left _ hin)
  · simp only [State.processQueue, List.map_nil, List.append_nil]
    exact hs.once
  · obtain ⟨r, hr, hmarked⟩ := hs.marked j hj
    simp only [State.processQueue, hr]
    split
    · exact ⟨f r, rfl, (hmark r).trans hmarked⟩
    · exact ⟨r, rfl, hmarked⟩

theorem step (hs : Sound s) (e : Event) : Sound (step s e) := by
  cases e with
  | send url skip supplied => exact hs.send url skip supplied
  | succeed i =>
    simp only [Client.step]
    split
    · exact hs
    next h => exact hs.finished h
  | fail i status =>
    simp only [Client.step]
    split
    · exact hs
    next h => exact hs.fail h
  | refreshed refresh tokens =>
    simp only [Client.step]
    split
    next hmem =>
      have hdone := hs.processQueue hmem (fun r => r.resent tokens.accessToken refresh.session)
        nofun (fun _ => rfl)
      exact ⟨hdone.fresh, hdone.inFlight, hdone.queued, hdone.nodup, hdone.once, hdone.marked,
        hdone.startedOnce⟩
    next => exact hs
  | refreshFailed refresh =>
    simp only [Client.step]
    split
    next hmem => exact (hs.processQueue hmem Request.finished nofun fun _ => rfl).enter _
    next => exact hs
  | login | retailerLogin | beginWorkspaceSelection | logout => exact hs.enter _
  | setUser user =>
    exact ⟨hs.fresh, hs.inFlight, hs.queued, hs.nodup, hs.once, hs.marked, hs.startedOnce⟩

end Sound

/-! ## What a step does to a request -/

/-- The same request, in another phase. -/
structure SameSends (old r : Request) : Prop where
  sends : r.sends = old.sends
  session : r.session = old.session
  carries : r.carries = old.carries

/-- A request that changes in its phase only. -/
theorem put_same (old r : Request) (hold : s.requests i = some old) (h : SameSends old r) {j : ℕ}
    {r' : Request} (hr' : (s.put i r).requests j = some r') :
    ∃ old, s.requests j = some old ∧ SameSends old r' := by
  rw [put_requests] at hr'
  split at hr'
  next hji =>
    obtain rfl := Option.some.inj hr'
    exact ⟨old, hji ▸ hold, h⟩
  next => exact ⟨r', hr', rfl, rfl, rfl⟩

theorem fail_same (h : s.unanswered i = some r) {j : ℕ} {r' : Request}
    (hr' : (s.fail i r status).requests j = some r') :
    ∃ old, s.requests j = some old ∧ SameSends old r' := by
  have hr := (unanswered_eq_some.mp h).1
  unfold State.fail at hr'
  split at hr'
  · exact put_same r r.finished hr ⟨rfl, rfl, rfl⟩ hr'
  split at hr'
  · exact put_same r { r with phase := .queued } hr ⟨rfl, rfl, rfl⟩ hr'
  · unfold State.startRefresh at hr'
    split at hr'
    · exact put_same r (Request.finished { r with retry := true }) hr ⟨rfl, rfl, rfl⟩ hr'
    · exact put_same r { r with retry := true, phase := .leading } hr ⟨rfl, rfl, rfl⟩ hr'

/-- A request that is sent is new, or has waited for the refresh that succeeds. -/
theorem requests_step {e : Event} (h : (step s e).requests i = some r) :
    (∃ old, s.requests i = some old ∧ SameSends old r) ∨ r.sends = 1 ∧ r.carries = r.session ∨
      ∃ refresh tokens old, e = .refreshed refresh tokens ∧ refresh ∈ s.refreshes ∧
        i ∈ s.waiting refresh ∧ s.requests i = some old ∧
        r = old.resent tokens.accessToken refresh.session := by
  have hsame : s.requests i = some r → ∃ old, s.requests i = some old ∧ SameSends old r :=
    fun h => ⟨r, h, rfl, rfl, rfl⟩
  cases e with
  | send url skip supplied =>
    simp only [step, State.send, put_requests] at h
    split at h
    · refine .inr (.inl ?_)
      obtain rfl := Option.some.inj h
      cases supplied <;> exact ⟨rfl, rfl⟩
    · exact .inl (hsame h)
  | succeed j =>
    simp only [step] at h
    split at h
    · exact .inl (hsame h)
    next old hj =>
      exact .inl (put_same old old.finished (unanswered_eq_some.mp hj).1 ⟨rfl, rfl, rfl⟩ h)
  | fail j status =>
    simp only [step] at h
    split at h
    · exact .inl (hsame h)
    next hj => exact .inl (fail_same hj h)
  | refreshed refresh tokens =>
    simp only [step] at h
    split at h
    next hmem =>
      simp only [refreshSucceeded, processQueue] at h
      split at h
      next hwaits =>
        obtain ⟨old, hold, rfl⟩ := Option.map_eq_some_iff.mp h
        exact .inr (.inr ⟨refresh, tokens, old, rfl, hmem, hwaits, hold, rfl⟩)
      next => exact .inl (hsame h)
    next => exact .inl (hsame h)
  | refreshFailed refresh =>
    simp only [step] at h
    split at h
    next hmem =>
      simp only [State.refreshFailed, processQueue, State.enter] at h
      split at h
      · obtain ⟨old, hold, rfl⟩ := Option.map_eq_some_iff.mp h
        exact .inl ⟨old, hold, rfl, rfl, rfl⟩
      next => exact .inl (hsame h)
    next => exact .inl (hsame h)
  | login | retailerLogin | beginWorkspaceSelection | logout | setUser => exact .inl (hsame h)

/-- The requests that wait are sent again when the refresh succeeds. -/
theorem requests_refreshed {tokens : Tokens} (hmem : refresh ∈ s.refreshes)
    (hwaits : i ∈ s.waiting refresh) (hr : s.requests i = some r) :
    (step s (.refreshed refresh tokens)).requests i =
      some (r.resent tokens.accessToken refresh.session) := by
  simp [step, hmem, refreshSucceeded, processQueue, hwaits, hr]

/-! ## How often a request is sent -/

theorem Sound.settles (hs : Sound s) (htwice : ∀ i r, s.requests i = some r → r.sends ≤ 2) :
    Settles s :=
  ⟨hs.oneRefresh, hs.emptyQueue, hs.queued, hs.nodup, hs.once, htwice, hs.chain⟩

/-- A third time comes with a refresh that succeeds while a request waits that was sent again. -/
theorem settles_step_iff (hs : Sound s) (htwice : ∀ i r, s.requests i = some r → r.sends ≤ 2)
    (e : Event) : Settles (step s e) ↔ FirstWait s e := by
  constructor
  · intro hlaw
    cases e with
    | refreshed refresh tokens =>
      intro hmem i hwaits r hr
      have hresent : (step s (.refreshed refresh tokens)).requests i =
          some (r.resent tokens.accessToken refresh.session) := requests_refreshed hmem hwaits hr
      exact Nat.le_of_succ_le_succ (hlaw.twice i _ hresent)
    | _ => trivial
  · intro hfirst
    refine (hs.step e).settles fun i r hr => ?_
    rcases requests_step hr with ⟨old, hold, hsame⟩ | ⟨hnew, -⟩ |
      ⟨refresh, tokens, old, rfl, hmem, hwaits, hold, rfl⟩
    · rw [hsame.sends]
      exact htwice i old hold
    · rw [hnew]
      decide
    · exact Nat.succ_le_succ (hfirst hmem i hwaits old hold)

/-- In every run, one refresh is in flight at most, the queue is empty when there is none, every
entry of it is settled once and every request is sent twice at most, exactly if no refresh succeeds
while a request waits for it that has been sent again before. -/
theorem refresh_settles (auth : AuthState) (events : List Event) :
    Along step (fun s e => Settles (step s e)) (start auth) events ↔
      Along step FirstWait (start auth) events := by
  refine Along.congr (I := fun s => Sound s ∧ ∀ i r, s.requests i = some r → r.sends ≤ 2) ?_ ?_
    ⟨Sound.start auth, nofun⟩
  · rintro s e ⟨hs, -⟩ hlaw
    exact ⟨hs.step e, hlaw.twice⟩
  · rintro s e ⟨hs, htwice⟩
    exact settles_step_iff hs htwice e

/-! ### A request that waits twice -/

def sampleAuth : AuthState where
  accessToken := some "a0"
  refreshToken := some "r0"
  user := some "owner"
  tenantCode := some "T"

/-- Of two requests that keep being answered 401, each waits once and starts a refresh once; the
first that waits is sent a third time. -/
def refusedAgain : List Event :=
  [.send "/orders" false none, .send "/retailers" false none,
    .fail 0 (some 401), .fail 1 (some 401),
    .refreshed ⟨0, "r0", 0⟩ ⟨"a1", "r1"⟩,
    .fail 1 (some 401),
    .refreshed ⟨1, "r1", 0⟩ ⟨"a2", "r2"⟩]

theorem refresh_settles_broken_refusedAgain :
    ¬Along step (fun s e => Settles (step s e)) (start sampleAuth) refusedAgain := by
  rintro ⟨-, -, -, -, -, -, hlast, -⟩
  exact absurd (hlast.twice 1 _ rfl) (by decide)

end Mpango.Client
