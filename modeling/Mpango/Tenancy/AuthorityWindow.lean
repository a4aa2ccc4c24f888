import Mpango.Model.AuthorityWindow

/-!
# The authority window is always closed

On a connection whose role has not been set since it was opened, a reset and a rollback of the
enclosing transaction both lead home (`Home`). Every failing statement leaves the transaction to be
rolled back, and every step that succeeds in the cleanup has reset the role or rolled back to it,
so that whatever fails, an error leaves the session `Safe`.
-/

namespace Mpango

namespace AuthorityWindow

open Raising

variable {w : World} {purpose : String} {schemas : List String} {home : String} {s : Session}

/-! ## Statements -/

/-- Resetting the role and rolling the transaction back both lead to this role. -/
def Home (home : String) (s : Session) : Prop := s.outer = home ∧ s.resetRole = home

/-- A statement has failed. -/
def Failed (home : String) (e : Error) (s : Session) : Prop :=
  Home home s ∧ s.stuck = true ∧ e = .statement

theorem execute_ends {outcome : Outcome} {effect : Session → Session}
    {value : Unit → Session → Prop} (hhome : Home home s)
    (hdone : s.stuck = false → value () (effect s)) :
    (execute outcome effect).Ends s value (Failed home) := by
  unfold Ends execute
  cases hstuck : s.stuck with
  | true => exact ⟨hhome, hstuck, rfl⟩
  | false =>
    cases outcome with
    | done => exact hdone hstuck
    | serverError => exact ⟨hhome, by simp [Session.stuck], rfl⟩
    | lost => exact ⟨hhome, by simp [Session.stuck], rfl⟩

theorem ask_ends {α : Type} (answer : Answer α) {value : α → Session → Prop}
    (hhome : Home home s) (hanswered : ∀ a, s.stuck = false → value a s) :
    (ask answer).Ends s value (Failed home) := by
  unfold Ends ask
  cases hstuck : s.stuck with
  | true => exact ⟨hhome, hstuck, rfl⟩
  | false =>
    cases answer with
    | answered a => exact hanswered a hstuck
    | serverError => exact ⟨hhome, by simp [Session.stuck], rfl⟩
    | lost => exact ⟨hhome, by simp [Session.stuck], rfl⟩

theorem askIdentity_ends {α : Type} {truth : Session → α} {probe : Probe α}
    {value : α → Session → Prop} (hhome : Home home s)
    (hanswered : ∀ a, s.stuck = false → value a s) :
    (askIdentity truth probe).Ends s value (Failed home) := by
  cases probe with
  | truth => exact ask_ends (.answered (truth s)) hhome hanswered
  | wrong a => exact ask_ends (.answered a) hhome hanswered
  | serverError => exact ask_ends .serverError hhome hanswered
  | lost => exact ask_ends .lost hhome hanswered

theorem release_ends {outcome : Outcome} {value : Unit → Session → Prop} (hhome : Home home s)
    (hdone : value () { s with savepoint := none }) :
    (release outcome).Ends s value (Failed home) := by
  unfold Ends release execute
  cases hstuck : s.stuck with
  | true => exact ⟨hhome, by simpa [Session.stuck] using hstuck, rfl⟩
  | false =>
    cases outcome with
    | done => exact hdone
    | serverError => exact ⟨hhome, by simp [Session.stuck], rfl⟩
    | lost => exact ⟨hhome, by simp [Session.stuck], rfl⟩

theorem rollbackSavepoint_ends (outcome : Outcome) (hhome : Home home s) :
    (rollbackSavepoint outcome).Ends s (fun _ => Home home)
      (fun e s' => Home home s' ∧ e = .statement) := by
  unfold Ends rollbackSavepoint
  cases s.savepoint with
  | none => cases outcome <;> first | exact hhome | exact ⟨hhome, rfl⟩
  | some role =>
    cases s.lost || s.invalidated <;> cases outcome <;> first | exact hhome | exact ⟨hhome, rfl⟩

theorem rollback_ends (outcome : Outcome) (hhome : Home home s) :
    (rollback outcome).Ends s (fun _ s' => Home home s' ∧ s'.role = home) (Failed home) := by
  unfold Ends rollback
  cases outcome with
  | done =>
    dsimp only
    cases s.lost || s.invalidated with
    | true => exact ⟨⟨hhome.2, hhome.2⟩, hhome.2⟩
    | false => exact ⟨hhome, hhome.1⟩
  | serverError => exact ⟨hhome, by simp [Session.stuck], rfl⟩
  | lost => exact ⟨hhome, by simp [Session.stuck], rfl⟩

/-! ## The cleanup of the handshake -/

/-- The role is home, or nothing is executed any more before a rollback. -/
structure Closed (home : String) (s : Session) : Prop where
  outer : Home home s
  role : s.stuck = false → s.role = home

/-- What an error leaves behind: no discard is claimed that did not happen. -/
structure Safe (home : String) (e : Error) (s : Session) : Prop where
  closed : Closed home s
  discard : e.claimsDiscard → s.invalidated = true

theorem Home.closed_of_stuck (h : Home home s) (hstuck : s.stuck = true) : Closed home s :=
  ⟨h, fun hfree => by simp [hstuck] at hfree⟩

theorem Home.closed_of_role (h : Home home s) (hrole : s.role = home) : Closed home s :=
  ⟨h, fun _ => hrole⟩

theorem Failed.safe {e : Error} (h : Failed home e s) : Safe home e s :=
  ⟨h.1.closed_of_stuck h.2.1, fun hclaims => by rw [h.2.2] at hclaims; exact hclaims.elim⟩

/-- The role is home. -/
def Returned (home : String) (s : Session) : Prop := Home home s ∧ s.role = home

theorem raiseDiscard_ends {α : Type} {reason : Reason} {value : α → Session → Prop}
    (hclosed : Closed home s) :
    (raiseDiscard w purpose reason : Run α).Ends s value (Safe home) := by
  unfold Ends raiseDiscard
  cases w.invalidate with
  | none => exact ⟨Home.closed_of_stuck hclosed.outer (by simp [Session.stuck]), fun _ => rfl⟩
  | some exceptionType => exact ⟨hclosed, fun hclaims => hclaims.elim⟩

theorem rollbackHandshake_ends (hhome : Home home s) :
    (rollbackHandshake w purpose).Ends s (fun _ => Home home) (Safe home) := by
  unfold rollbackHandshake
  rw [ends_tryCatch]
  refine (rollbackSavepoint_ends _ hhome).mono (fun _ _ h => h) fun _ s' h => ?_
  rw [ends_tryCatch]
  refine (rollback_ends _ h.1).mono (fun _ _ h => h.1) fun _ s'' h => ?_
  exact raiseDiscard_ends (h.1.closed_of_stuck h.2.1)

/-- A reset that is followed by an answer has led home. -/
theorem resetRole_ask_ends {outcome : Outcome} {probe : Probe String} (hhome : Home home s) :
    (do resetRole outcome; askCurrentUser probe : Run String).Ends s
      (fun _ => Returned home) (Failed home) := by
  rw [ends_bind]
  refine execute_ends hhome fun _ => ?_
  exact askIdentity_ends hhome fun _ _ => ⟨hhome, hhome.2⟩

theorem verifyIdentity_ends (hhome : Home home s) :
    (verifyIdentity w purpose).Ends s (fun _ => Returned home) (Safe home) := by
  unfold verifyIdentity
  rw [ends_tryCatch]
  refine (resetRole_ask_ends hhome).mono (fun _ _ h => h) fun _ s' h => ?_
  rw [ends_tryCatch, ends_bind]
  refine (rollback_ends _ h.1).mono (fun _ s'' h => ?_) fun _ s'' h => ?_
  · refine (resetRole_ask_ends h.1).mono (fun _ _ h => h) fun _ s'' h => ?_
    exact raiseDiscard_ends (h.1.closed_of_stuck h.2.1)
  · exact raiseDiscard_ends (h.1.closed_of_stuck h.2.1)

theorem restoreByRollback_ends {entryUser : String} (hhome : Home home s) :
    (restoreByRollback w purpose entryUser).Ends s (fun _ => Returned home) (Safe home) := by
  unfold restoreByRollback
  rw [ends_bind, ends_tryCatch, ends_bind]
  refine (rollback_ends _ hhome).mono (fun _ s' h => ?_) fun _ s' h => ?_
  · refine (askIdentity_ends h.1 fun _ _ => ?_).mono (fun _ _ h => h) fun _ s'' h => ?_
    · refine ends_ite (fun _ => ?_) fun _ => h
      exact raiseDiscard_ends (h.1.closed_of_role h.2)
    · exact raiseDiscard_ends (h.1.closed_of_stuck h.2.1)
  · exact raiseDiscard_ends (h.1.closed_of_stuck h.2.1)

theorem abortHandshakeWindow_ends {entryUser : String} (hhome : Home home s) :
    (abortHandshakeWindow w purpose entryUser).Ends s (fun _ => Returned home) (Safe home) := by
  unfold abortHandshakeWindow
  rw [ends_bind]
  refine (rollbackHandshake_ends hhome).mono (fun _ s' h => ?_) fun _ _ h => h
  rw [ends_bind]
  refine (verifyIdentity_ends h).mono (fun _ s'' h => ?_) fun _ _ h => h
  exact ends_ite (fun _ => restoreByRollback_ends h.1) fun _ => h

/-! ## Opening and closing -/

theorem handshake_ends (hhome : Home home s) :
    (handshake w purpose).Ends s (fun _ s' => Home home s' ∧ s'.role = tenantAuthorityRole)
      (fun e s' => Home home s' ∧ ¬e.claimsDiscard) := by
  have hfailed {e : Error} {s' : Session} (h : Failed home e s') :
      Home home s' ∧ ¬e.claimsDiscard := by
    rw [h.2.2]
    exact ⟨h.1, fun hclaims => hclaims⟩
  unfold handshake
  rw [ends_bind]
  have hset : Home home { s with role := tenantAuthorityRole } := hhome
  refine (execute_ends hhome fun _ => ?_).mono (fun _ _ h => h) fun _ _ h => hfailed h
  rw [ends_bind]
  refine (askIdentity_ends hset fun _ _ => ?_).mono (fun _ _ h => h) fun _ _ h => hfailed h
  refine ends_ite (fun _ => ⟨hset, fun hclaims => hclaims⟩) fun _ => ?_
  exact (release_ends hset ⟨hset, rfl⟩).mono (fun _ _ h => h) fun _ _ h => hfailed h

/-- The token comes with the tenant role, and no token with the role of the connection. -/
theorem openTenantDdlAuthority_ends (hs : Closed home s) :
    (openTenantDdlAuthority w purpose schemas).Ends s
      (fun token s' => s.stuck = false ∧ Home home s' ∧
        s'.role = if token.isSome then tenantAuthorityRole else home) (Safe home) := by
  have hrefused {refusal : Refusal} (hrefusal : ¬(Error.authority purpose refusal).claimsDiscard) :
      Safe home (.authority purpose refusal) s :=
    ⟨hs, fun hclaims => absurd hclaims hrefusal⟩
  unfold openTenantDdlAuthority
  rw [ends_bind]
  refine (askIdentity_ends hs.outer fun identity hfree => ?_).mono (fun _ _ h => h)
    fun _ _ h => h.safe
  refine ends_ite (fun _ => hrefused fun hclaims => hclaims) fun _ => ?_
  rw [ends_bind]
  refine (ask_ends _ hs.outer fun authority _ => ?_).mono (fun _ _ h => h) fun _ _ h => h.safe
  refine ends_ite (fun _ => hrefused fun hclaims => hclaims) fun _ => ?_
  refine ends_ite (fun _ => ⟨hfree, hs.outer, hs.role hfree⟩) fun _ => ?_
  refine ends_ite (fun _ => hrefused fun hclaims => hclaims) fun _ => ?_
  rw [ends_bind]
  refine (ask_ends _ hs.outer fun canSet _ => ?_).mono (fun _ _ h => h) fun _ _ h => h.safe
  refine ends_ite (fun _ => hrefused fun hclaims => hclaims) fun _ => ?_
  rw [ends_bind]
  refine (execute_ends hs.outer fun _ => ?_).mono (fun _ _ h => h) fun _ _ h => h.safe
  rw [ends_bind, ends_tryCatch]
  have hsavepoint : Home home { s with savepoint := some s.role } := hs.outer
  refine (handshake_ends hsavepoint).mono (fun _ _ h => ⟨hfree, h⟩) fun e s' h => ?_
  rw [ends_bind]
  refine (abortHandshakeWindow_ends h.1).mono (fun _ s'' h' => ?_) fun _ _ h' => h'
  exact ⟨h'.1.closed_of_role h'.2, fun hclaims => absurd hclaims h.2⟩

theorem closeTenantDdlAuthority_ends {token : String} (hhome : Home home s) :
    (closeTenantDdlAuthority w purpose (some token)).Ends s (fun _ => Returned home)
      (Safe home) := by
  unfold closeTenantDdlAuthority
  have hreset : Returned home { s with role := s.resetRole } := ⟨hhome, hhome.2⟩
  rw [ends_bind]
  refine (execute_ends hhome fun _ => ?_).mono (fun _ _ h => h) fun _ _ h => h.safe
  rw [ends_bind]
  refine (askIdentity_ends hreset.1 fun restored _ => ?_).mono (fun _ _ h => h) fun _ _ h => h.safe
  refine ends_ite (fun _ => ?_) fun _ => hreset
  exact ⟨hreset.1.closed_of_role hreset.2, fun hclaims => hclaims.elim⟩

/-! ## The window -/

theorem body_ends (body : Body) (hhome : Home home s) :
    body.run.Ends s (fun _ s' => Home home s' ∧ s'.role = s.role)
      (fun e s' => (Home home s' ∧ s'.role = s.role) ∧ ¬e.claimsDiscard) := by
  have hkept := body.kept s
  unfold Ends
  cases hrun : body.run s with
  | mk r s' =>
    rw [hrun] at hkept
    dsimp only at hkept
    have hsame : Home home s' ∧ s'.role = s.role := by
      rw [hkept]
      exact ⟨hhome, rfl⟩
    cases r with
    | ok _ => exact hsame
    | error e =>
      refine ⟨hsame, fun hclaims => ?_⟩
      rcases body.raised s e (by rw [hrun]) with rfl | ⟨message, isException, rfl⟩
      · exact hclaims
      · exact hclaims

theorem bodyInSavepoint_ends (hhome : Home home s) :
    (bodyInSavepoint w).Ends s (fun _ => Home home)
      (fun e s' => Home home s' ∧ ¬e.claimsDiscard) := by
  have hstatement : ¬Error.statement.claimsDiscard := fun hclaims => hclaims
  have hfailed {e : Error} {s' : Session} (h : Failed home e s') :
      Home home s' ∧ ¬e.claimsDiscard := by
    rw [h.2.2]
    exact ⟨h.1, hstatement⟩
  unfold bodyInSavepoint
  rw [ends_bind]
  refine (execute_ends hhome fun _ => ?_).mono (fun _ _ h => h) fun _ _ h => hfailed h
  rw [ends_tryCatch]
  have hcaught {e : Error} {s' : Session} (h : Home home s' ∧ ¬e.claimsDiscard) :
      (do
        if e.isException then rollbackSavepoint w.rollbackNested
        else pure ()
        throw e : Run Unit).Ends s' (fun _ => Home home)
          (fun e s' => Home home s' ∧ ¬e.claimsDiscard) := by
    dsimp only
    refine ends_ite (fun _ => ?_) fun _ => h
    rw [ends_bind]
    refine (rollbackSavepoint_ends _ h.1).mono (fun _ _ h' => ⟨h', h.2⟩) fun _ _ h' => ?_
    rw [h'.2]
    exact ⟨h'.1, hstatement⟩
  rw [ends_bind]
  have hnested : Home home { s with savepoint := some s.role } := hhome
  refine (body_ends w.body hnested).mono (fun _ s' h => ?_) fun _ _ h => hcaught ⟨h.1.1, h.2⟩
  exact (release_ends h.1 h.1).mono (fun _ _ h => h) fun _ _ h => hcaught (hfailed h)

theorem tenantDdlAuthorityWindow_ends (hs : Closed home s) :
    (tenantDdlAuthorityWindow w purpose schemas).Ends s
      (fun _ s' => s.stuck = false ∧ Returned home s') (Safe home) := by
  unfold tenantDdlAuthorityWindow
  rw [ends_bind]
  refine (openTenantDdlAuthority_ends hs).mono (fun token s' h => ?_) fun _ _ h => h
  obtain ⟨hfree, hhome, hrole⟩ := h
  cases token with
  | none =>
    refine (body_ends w.body hhome).mono
      (fun _ _ h => ⟨hfree, h.1, h.2.trans hrole⟩) fun _ _ h => ?_
    exact ⟨h.1.1.closed_of_role (h.1.2.trans hrole), fun hclaims => absurd hclaims h.2⟩
  | some token =>
    rw [ends_always]
    refine (bodyInSavepoint_ends hhome).mono (fun _ s'' h => ?_) fun e s'' h => ?_
    · exact (closeTenantDdlAuthority_ends h).mono (fun _ _ h' => ⟨hfree, h'⟩) fun _ _ h' => h'
    · refine (closeTenantDdlAuthority_ends h.1).mono (fun _ _ h' => ?_) fun _ _ h' => h'
      exact ⟨h'.1.closed_of_role h'.2, fun hclaims => absurd hclaims h.2⟩

/-! ## Every window of a connection -/

/-- The sessions of a connection of this identity, on which only windows set the role. -/
inductive Reached (home : String) : Session → Prop
  /-- A connection as it is opened: no role has been set. -/
  | opened (sessionUser : String) : Reached home
      { sessionUser, resetRole := home, outer := home, role := home, savepoint := none,
        aborted := false, lost := false, invalidated := false }
  | window {s : Session} (w : World) (purpose : String) (schemas : List String) :
      Reached home s → Reached home (tenantDdlAuthorityWindow w purpose schemas s).2
  | statement {s : Session} (outcome : Outcome) :
      Reached home s → Reached home (execute outcome id s).2
  | commit {s : Session} : Reached home s → Reached home (commit s).2
  | rollback {s : Session} (outcome : Outcome) :
      Reached home s → Reached home (rollback outcome s).2

theorem ends_after {α : Type} {p : Run α} {value : α → Session → Prop}
    {error : Error → Session → Prop} {q : Session → Prop} (h : p.Ends s value error)
    (hvalue : ∀ a s', value a s' → q s') (herror : ∀ e s', error e s' → q s') : q (p s).2 := by
  unfold Ends at h
  cases hp : p s with
  | mk r s' =>
    rw [hp] at h
    cases r with
    | ok a => exact hvalue a s' h
    | error e => exact herror e s' h

/-- Whatever has happened on the connection, it is closed between the windows. -/
theorem Reached.closed (h : Reached home s) : Closed home s := by
  induction h with
  | opened sessionUser => exact ⟨⟨rfl, rfl⟩, fun _ => rfl⟩
  | window w purpose schemas _ ih =>
    exact ends_after (tenantDdlAuthorityWindow_ends ih)
      (fun _ _ h => h.2.1.closed_of_role h.2.2) fun _ _ h => h.closed
  | @statement s outcome _ ih =>
    have hends : (execute outcome id).Ends s (fun _ => Closed home) (Failed home) :=
      execute_ends ih.outer fun _ => ih
    exact ends_after hends (fun _ _ h => h) fun _ _ h => h.safe.closed
  | @commit s _ ih =>
    have hends : AuthorityWindow.commit.Ends s (fun _ => Closed home) (Failed home) := by
      refine execute_ends ih.outer fun hfree => ?_
      exact Home.closed_of_role ⟨ih.role hfree, ih.outer.2⟩ (ih.role hfree)
    exact ends_after hends (fun _ _ h => h) fun _ _ h => h.safe.closed
  | rollback outcome _ ih =>
    exact ends_after (rollback_ends outcome ih.outer)
      (fun _ _ h => h.1.closed_of_role h.2) fun _ _ h => h.safe.closed

/-- How a window may end on a session. -/
structure AlwaysClosed (w : World) (purpose : String) (schemas : List String) (s : Session) :
    Prop where
  token : ∀ token s', openTenantDdlAuthority w purpose schemas s = (.ok (some token), s') →
    s'.role = tenantAuthorityRole
  returned : ∀ s', tenantDdlAuthorityWindow w purpose schemas s = (.ok (), s') → s'.role = s.role
  /-- The identity is restored on a usable transaction, or the transaction can only be rolled back,
  or the connection has been invalidated. -/
  raised : ∀ e s', tenantDdlAuthorityWindow w purpose schemas s = (.error e, s') →
    (s'.stuck = false ∧ s'.role = s.role) ∨ (s'.aborted = true ∨ s'.lost = true) ∨
      s'.invalidated = true
  /-- A statement after the error is executed as the identity of entry, and so is everything after
  a rollback. -/
  later : ∀ e s', tenantDdlAuthorityWindow w purpose schemas s = (.error e, s') →
    (∀ outcome effect s'', execute outcome effect s' = (.ok (), s'') → s'.role = s.role) ∧
      ∀ outcome s'', rollback outcome s' = (.ok (), s'') → s''.role = s.resetRole
  discard : ∀ e s', tenantDdlAuthorityWindow w purpose schemas s = (.error e, s') →
    e.claimsDiscard → s'.invalidated = true

/-- Where no statement is executed, the identity query refuses the window. -/
theorem tenantDdlAuthorityWindow_of_stuck (hstuck : s.stuck = true) :
    tenantDdlAuthorityWindow w purpose schemas s = (.error .statement, s) := by
  have hasked : askIdentity (fun s => (s.role, s.sessionUser)) w.identity s =
      (.error .statement, s) := by
    unfold askIdentity ask
    cases w.identity <;> simp [hstuck]
  have hopen : openTenantDdlAuthority w purpose schemas s = (.error .statement, s) := by
    unfold openTenantDdlAuthority
    rw [bind_of_error hasked]
  unfold tenantDdlAuthorityWindow
  rw [bind_of_error hopen]

/-- An error leaves a usable transaction only under the identity of entry. -/
theorem Reached.role_of_raised (h : Reached home s) {e : Error} {s' : Session}
    (hraised : tenantDdlAuthorityWindow w purpose schemas s = (.error e, s'))
    (hfree : s'.stuck = false) : s'.role = s.role := by
  cases hstuck : s.stuck with
  | true =>
    rw [tenantDdlAuthorityWindow_of_stuck hstuck, Prod.mk.injEq] at hraised
    rw [hraised.2]
  | false =>
    have hsafe := (tenantDdlAuthorityWindow_ends h.closed).of_error hraised
    rw [hsafe.closed.role hfree, h.closed.role hstuck]

/-- Whatever happens to its statements, the authority window of a connection is always closed. -/
theorem window_always_closed (h : Reached home s) : AlwaysClosed w purpose schemas s where
  token token s' htoken := by
    have hopened := (openTenantDdlAuthority_ends h.closed).of_ok htoken
    simpa using hopened.2.2
  returned s' hreturned := by
    obtain ⟨hfree, hrole⟩ := (tenantDdlAuthorityWindow_ends h.closed).of_ok hreturned
    rw [hrole.2, h.closed.role hfree]
  raised e s' hraised := by
    cases hstuck : s'.stuck with
    | false => exact .inl ⟨rfl, h.role_of_raised hraised hstuck⟩
    | true =>
      right
      simpa [Session.stuck] using hstuck
  later e s' hraised := by
    have hsafe := (tenantDdlAuthorityWindow_ends h.closed).of_error hraised
    refine ⟨fun outcome effect s'' hexecuted => ?_, fun outcome s'' hrolled => ?_⟩
    · have hfree : s'.stuck = false := by
        cases hstuck : s'.stuck with
        | false => rfl
        | true => simp [execute, hstuck] at hexecuted
      exact h.role_of_raised hraised hfree
    · rw [((rollback_ends outcome hsafe.closed.outer).of_ok hrolled).2, h.closed.outer.2]
  discard e s' hraised := ((tenantDdlAuthorityWindow_ends h.closed).of_error hraised).discard

/-- Every statement succeeds, on a tenant whose schema belongs to the application. -/
def smooth : World where
  identity := .truth
  authority := .answered [("t_alpha", false)]
  canSet := .answered true
  savepoint := .done
  setRole := .done
  bound := .truth
  release := .done
  rollbackSavepoint := .done
  rollback := .done
  reset := .done
  restored := .truth
  rollbackAgain := .done
  resetAgain := .done
  restoredAgain := .truth
  rollbackLast := .done
  restoredLast := .truth
  invalidate := none
  nested := .done
  body := {
    run := pure ()
    kept := fun _ => rfl
    raised := fun _ _ h => nomatch h }
  commit := .done
  rollbackNested := .done
  close := .done
  closed := .truth

/-- The connection of a migration, as it is opened. -/
def migrate : Session :=
  { sessionUser := "mpango_migrate", resetRole := "mpango_migrate", outer := "mpango_migrate",
    role := "mpango_migrate", savepoint := none, aborted := false, lost := false,
    invalidated := false }

theorem window_always_closed_migrate :
    (tenantDdlAuthorityWindow smooth "038 catalog" ["t_alpha"] migrate).1.toOption = some () ∧
      AlwaysClosed smooth "038 catalog" ["t_alpha"] migrate :=
  ⟨by decide +kernel, window_always_closed (.opened "mpango_migrate")⟩

end AuthorityWindow

end Mpango
