import Mpango.Client.Queue

/-!
# One session does not leak into another

The refresh in flight and the queue outlive the session they belong to. The outcome of a refresh is
written to whatever session the store holds when it arrives, and every request that waits is sent
again with the new token, whichever session it was started in.
-/

namespace Mpango.Client

open State

variable {s : State} {e : Event}

/-- The refresh in flight is of the session the store holds, and so is every request that waits. -/
def Tied (s : State) : Prop :=
  ∀ refresh ∈ s.refreshes, refresh.session = s.session ∧
    ∀ i ∈ s.waiting refresh, ∃ r, s.requests i = some r ∧ r.session = some s.session

namespace Tied

variable {i : ℕ} {r : Request} {status : Option ℕ}

theorem of_idle (h : s.refreshes = []) : Tied s := by
  intro refresh hmem
  rw [h] at hmem
  cases hmem

theorem put (ht : Tied s) {old : Request} (hold : s.requests i = some old)
    (h : r.session = old.session) : Tied (s.put i r) := by
  intro refresh hmem
  obtain ⟨hsession, hwaiting⟩ := ht refresh hmem
  refine ⟨hsession, fun j hj => ?_⟩
  obtain ⟨r', hr', hown⟩ := hwaiting j hj
  rw [put_requests]
  split
  next hji =>
    obtain rfl := Option.some.inj (hold.symm.trans (hji ▸ hr'))
    exact ⟨r, rfl, h.trans hown⟩
  next => exact ⟨r', hr', hown⟩

theorem send (ht : Tied s) (hs : Sound s) (url : String) (skip : Bool)
    (supplied : Option (String × Option ℕ)) : Tied (s.send url skip supplied) := by
  intro refresh hmem
  obtain ⟨hsession, hwaiting⟩ := ht refresh hmem
  refine ⟨hsession, fun j hj => ?_⟩
  obtain ⟨r', hr', hown⟩ := hwaiting j hj
  refine ⟨r', ?_, hown⟩
  simp only [State.send, put_requests, if_neg (hs.lt_nextRequest hr').ne]
  exact hr'

theorem fail (ht : Tied s) (hs : Sound s) (h : s.unanswered i = some r)
    (hown : r.leaves status = false → r.session = some s.session) : Tied (s.fail i r status) := by
  obtain ⟨hr, -⟩ := unanswered_eq_some.mp h
  unfold State.fail
  split
  · exact ht.put hr rfl
  next hleaves =>
    have hown := hown (Bool.not_eq_true _ ▸ hleaves)
    split
    · intro refresh hmem
      obtain ⟨hsession, hwaiting⟩ := ht.put (r := { r with phase := .queued }) hr rfl refresh hmem
      refine ⟨hsession, fun j hj => ?_⟩
      simp only [waiting, enqueue, List.map_append, List.append_assoc, List.mem_append] at hj
      rcases hj with hqueued | hnew | hlead
      · exact hwaiting j (List.mem_append_left _ hqueued)
      · obtain rfl := List.mem_singleton.mp hnew
        exact ⟨{ r with phase := .queued }, by simp [enqueue], hown⟩
      · exact hwaiting j (List.mem_append_right _ hlead)
    next hflag =>
      obtain ⟨hnone, hempty⟩ : s.refreshes = [] ∧ s.failedQueue = [] := by
        rcases hs.inFlight with ⟨-, hidle⟩ | ⟨hon, -⟩
        · exact hidle
        · exact absurd hon hflag
      unfold startRefresh
      split
      · exact of_idle hnone
      · intro refresh hmem
        simp only [hnone, List.nil_append, List.mem_singleton] at hmem
        subst hmem
        refine ⟨rfl, fun j hj => ?_⟩
        simp only [waiting, put_failedQueue, hempty, List.map_nil, List.nil_append,
          List.mem_singleton] at hj
        subst hj
        exact ⟨{ r with retry := true, phase := .leading }, by simp, hown⟩

/-- The step that ends the refresh leaves none in flight. -/
theorem of_not_isRefreshing (hs : Sound s) (h : s.isRefreshing = false) : Tied s := by
  rcases hs.inFlight with ⟨-, hnone, -⟩ | ⟨hon, -⟩
  · exact of_idle hnone
  · cases h.symm.trans hon

theorem step (ht : Tied s) (hs : Sound s) (h : Undisturbed s e) : Tied (step s e) := by
  cases e with
  | send url skip supplied => exact ht.send hs url skip supplied
  | succeed i =>
    simp only [Client.step]
    split
    · exact ht
    next hr => exact ht.put (unanswered_eq_some.mp hr).1 rfl
  | fail i status =>
    simp only [Client.step]
    split
    · exact ht
    next r hr => exact ht.fail hs hr (h r hr)
  | refreshed refresh tokens =>
    have hdone := hs.step (.refreshed refresh tokens)
    simp only [Client.step] at hdone ⊢
    split at hdone
    next hmem =>
      rw [if_pos hmem]
      exact of_not_isRefreshing hdone rfl
    next hmem =>
      rw [if_neg hmem]
      exact ht
  | refreshFailed refresh =>
    have hdone := hs.step (.refreshFailed refresh)
    simp only [Client.step] at hdone ⊢
    split at hdone
    next hmem =>
      rw [if_pos hmem]
      exact of_not_isRefreshing hdone rfl
    next hmem =>
      rw [if_neg hmem]
      exact ht
  | login | retailerLogin | beginWorkspaceSelection | logout => exact of_idle h
  | setUser user => exact ht

theorem inSession (ht : Tied s) : InSession s e := by
  intro refresh hmem auth _
  obtain ⟨hsession, hwaiting⟩ := ht refresh hmem
  refine ⟨.inl hsession.symm, fun _ _ i hi r hr => ?_⟩
  obtain ⟨r', hr', hown⟩ := hwaiting i hi
  obtain rfl := Option.some.inj (hr.symm.trans hr')
  rw [hsession]
  exact hown

end Tied

/-- It is enough that sessions change between refreshes only, and that no request is refused after
its session has ended. -/
theorem inSession_of_undisturbed (auth : AuthState) (events : List Event)
    (h : Along step Undisturbed (start auth) events) :
    Along step InSession (start auth) events := by
  refine (Along.congr_of_along (P := InSession) (Q := fun _ _ => True)
    (I := fun s => Sound s ∧ Tied s) ?_ ?_ ⟨Sound.start auth, Tied.of_idle rfl⟩ h).mpr ?_
  · rintro s e ⟨hs, ht⟩ hundisturbed
    exact ⟨hs.step e, ht.step hs hundisturbed⟩
  · rintro s e ⟨-, ht⟩ -
    exact iff_of_true ht.inSession trivial
  · exact Along.of_forall fun _ _ => trivial

/-! ### A log-out during a refresh -/

end Mpango.Client
