import Mathlib
import Mpango.Library.Run
import Mpango.Model.Idempotency

/-!
# Idempotency keys are held and released

A key is marked when its request is handed on, and only that request changes the entry again, so two
requests with one key are never in flight together and a stored answer is the one its request was
given. What becomes of the mark depends on how the request ends: an answer outside 2xx, or a
cancellation, leaves it, and since the mark is seen before its expiry is, for good
(`Stuck.forever`).
-/

namespace Mpango.Gateway

open Access Tenancy

variable {codec : Codec} {api : Api} {s : State}

/-! ## The lookup -/

theorem lookup_eq_replay {flight : Flight} {answer : Answer} :
    lookup codec s flight = .replay answer ↔ ∃ k expiresAt, flight.cacheKey? codec = some k ∧
      s.store k = some (.finished answer expiresAt) ∧ s.now ≤ expiresAt := by
  cases hk : flight.cacheKey? codec with
  | none => simp [lookup, hk]
  | some k =>
    cases hentry : s.store k with
    | none => simp [lookup, hk, hentry]
    | some entry =>
      cases entry with
      | inProgress expiresAt => simp [lookup, hk, hentry]
      | finished stored expiresAt =>
        by_cases hlate : expiresAt < s.now
        · simp only [lookup, hk, Option.bind_some, hentry, if_pos hlate, reduceCtorEq, false_iff]
          rintro ⟨k', expiresAt', hk', hentry', hkept⟩
          obtain rfl := Option.some.inj hk'
          rw [hentry, Option.some.injEq, Entry.finished.injEq] at hentry'
          omega
        · simp only [lookup, hk, Option.bind_some, hentry, if_neg hlate, Lookup.replay.injEq]
          constructor
          · rintro rfl
            exact ⟨k, expiresAt, rfl, hentry, by omega⟩
          · rintro ⟨k', expiresAt', hk', hentry', -⟩
            obtain rfl := Option.some.inj hk'
            rw [hentry, Option.some.injEq, Entry.finished.injEq] at hentry'
            exact hentry'.1

/-- The one answer that names a request in progress is given to a key that is blocked. -/
theorem lookup_eq_conflict {flight : Flight} :
    lookup codec s flight = .conflict ↔ ∃ k, flight.cacheKey? codec = some k ∧ Blocked s k := by
  cases hk : flight.cacheKey? codec with
  | none => simp [lookup, hk]
  | some k =>
    simp only [lookup, hk, Option.bind_some, Option.some.injEq, exists_eq_left', Blocked]
    cases hentry : s.store k with
    | none => simp
    | some entry =>
      cases entry with
      | inProgress expiresAt => simp
      | finished answer expiresAt =>
        simp only [Option.some.injEq, reduceCtorEq, exists_false, iff_false]
        split <;> nofun

/-! ## Entries -/

@[simp] theorem putEntry_none {store : String → Option Entry} {entry : Option Entry} :
    putEntry store none entry = store := rfl

@[simp] theorem putEntry_some {store : String → Option Entry} {k : String} {entry : Option Entry} :
    putEntry store (some k) entry = Function.update store k entry := rfl

theorem putEntry_of_ne {store : String → Option Entry} {cacheKey : Option String} {k : String}
    {entry : Option Entry} (h : cacheKey ≠ some k) : putEntry store cacheKey entry k = store k := by
  cases cacheKey with
  | none => rfl
  | some k' => exact Function.update_of_ne (fun hk => h (congrArg some hk.symm)) _ _

theorem putOrigin_of_ne {flight : Flight} {outcome : Outcome} {k : String}
    (h : flight.cacheKey? codec ≠ some k) : s.putOrigin codec flight outcome k = s.origin k := by
  unfold State.putOrigin
  cases hk' : flight.cacheKey? codec with
  | none => rfl
  | some k' =>
    cases outcome.answer with
    | none => rfl
    | some answer => exact Function.update_of_ne (fun hk => h (hk'.trans (congrArg some hk.symm))) _ _

/-- An entry that a request leaves finished is its own answer. -/
theorem settle_eq_finished {now : ℤ} {old : Option Entry} {outcome : Outcome} {answer : Answer}
    {expiresAt : ℤ} (hold : ∀ answer expiresAt, old ≠ some (.finished answer expiresAt))
    (h : settle now old outcome = some (.finished answer expiresAt)) :
    outcome.answer = some answer ∧ answer.isSuccess ∧ expiresAt = now + idempotencyTtl := by
  cases outcome with
  | answered status body =>
    simp only [settle] at h
    split at h
    next hsuccess =>
      obtain ⟨rfl, rfl⟩ := Entry.finished.inj (Option.some.inj h)
      exact ⟨rfl, hsuccess, rfl⟩
    next => exact absurd h (hold _ _)
  | raised => cases h
  | cancelled => exact absurd h (hold _ _)

/-! ## The steps -/

section Step
variable {i : ℕ} {flight : Flight} {h : Handling}

@[simp] theorem markInProgress_store : (markInProgress codec s flight).store = putEntry s.store
    (flight.cacheKey? codec) (some (.inProgress (s.now + 5 * 60))) := rfl

@[simp] theorem markInProgress_flights : (markInProgress codec s flight).flights =
    Function.update s.flights s.next (some flight) := rfl

@[simp] theorem finish_store : (finish codec api s i flight h).store =
    putEntry s.store (flight.cacheKey? codec) (settle s.now ((flight.cacheKey? codec).bind s.store)
      (callNext codec api s flight.request h).1) := rfl

@[simp] theorem finish_flights : (finish codec api s i flight h).flights =
    Function.update s.flights i none := rfl

@[simp] theorem finish_origin : (finish codec api s i flight h).origin =
    s.putOrigin codec flight (callNext codec api s flight.request h).1 := rfl

end Step

/-- What holds of the store in every run. -/
structure Kept (codec : Codec) (s : State) : Prop where
  fresh : ∀ i, s.next ≤ i → s.flights i = none
  marked : ∀ i f k, s.flights i = some f → f.cacheKey? codec = some k → Blocked s k
  exclusive : Exclusive codec s
  stored : ∀ k answer expiresAt, s.store k = some (.finished answer expiresAt) → ∃ origin,
    s.origin k = some origin ∧ origin.flight.cacheKey? codec = some k ∧ origin.answer = answer ∧
      answer.isSuccess ∧ expiresAt = origin.time + idempotencyTtl

theorem Kept.start (codec : Codec) (directory : Directory) (now : ℤ) :
    Kept codec (start directory now) where
  fresh _ _ := rfl
  marked _ _ _ h := nomatch h
  exclusive _ _ _ _ _ h := nomatch h
  stored _ _ _ h := nomatch h

/-- A request is handed on where its key is not blocked. -/
theorem Kept.markInProgress {flight : Flight} (hs : Kept codec s)
    (hfree : ∀ k, flight.cacheKey? codec = some k → ¬Blocked s k) :
    Kept codec (markInProgress codec s flight) := by
  have hnext : ∀ i f, (Gateway.markInProgress codec s flight).flights i = some f →
      i = s.next ∧ f = flight ∨ i ≠ s.next ∧ s.flights i = some f := by
    intro i f hf
    by_cases hi : i = s.next
    · subst hi
      rw [markInProgress_flights, Function.update_self] at hf
      exact .inl ⟨rfl, (Option.some.inj hf).symm⟩
    · rw [markInProgress_flights, Function.update_of_ne hi] at hf
      exact .inr ⟨hi, hf⟩
  have hblocked : ∀ k, flight.cacheKey? codec = some k →
      Blocked (Gateway.markInProgress codec s flight) k := by
    intro k hk
    refine ⟨s.now + 5 * 60, ?_⟩
    rw [markInProgress_store, hk, putEntry_some, Function.update_self]
  have hother : ∀ k, flight.cacheKey? codec ≠ some k →
      (Gateway.markInProgress codec s flight).store k = s.store k := fun k hk => putEntry_of_ne hk
  -- a request that was in flight before has another key
  have hdistinct : ∀ i f k, s.flights i = some f → f.cacheKey? codec = some k →
      flight.cacheKey? codec ≠ some k :=
    fun i f k hf hk hsame => hfree k hsame (hs.marked i f k hf hk)
  constructor
  · intro i hi
    have hne : i ≠ s.next := by
      intro heq
      exact absurd (heq ▸ hi) (Nat.not_succ_le_self _)
    rw [markInProgress_flights, Function.update_of_ne hne]
    exact hs.fresh i (Nat.le_of_succ_le hi)
  · intro i f k hf hk
    rcases hnext i f hf with ⟨-, rfl⟩ | ⟨-, hold⟩
    · exact hblocked k hk
    · obtain ⟨expiresAt, hmark⟩ := hs.marked i f k hold hk
      exact ⟨expiresAt, (hother k (hdistinct i f k hold hk)).trans hmark⟩
  · intro i j f g k hf hg hfk hgk
    rcases hnext i f hf with ⟨rfl, rfl⟩ | ⟨-, hfold⟩
    · rcases hnext j g hg with ⟨rfl, -⟩ | ⟨-, hgold⟩
      · rfl
      · exact absurd hfk (hdistinct j g k hgold hgk)
    · rcases hnext j g hg with ⟨-, rfl⟩ | ⟨-, hgold⟩
      · exact absurd hgk (hdistinct i f k hfold hfk)
      · exact hs.exclusive i j f g k hfold hgold hfk hgk
  · intro k answer expiresAt hentry
    by_cases hk : flight.cacheKey? codec = some k
    · obtain ⟨mark, hmark⟩ := hblocked k hk
      rw [hmark] at hentry
      cases hentry
    · exact hs.stored k answer expiresAt ((hother k hk).symm.trans hentry)

/-- A request in flight ends. -/
theorem Kept.finish {i : ℕ} {flight : Flight} {h : Handling} (hs : Kept codec s)
    (hflight : s.flights i = some flight) : Kept codec (finish codec api s i flight h) := by
  have hleft : ∀ j f, Function.update s.flights i none j = some f → j ≠ i ∧ s.flights j = some f := by
    intro j f hf
    by_cases hj : j = i
    · rw [hj, Function.update_self] at hf
      cases hf
    · exact ⟨hj, (Function.update_of_ne hj _ _).symm.trans hf⟩
  constructor
  · intro j hj
    by_cases hji : j = i
    · rw [finish_flights, hji, Function.update_self]
    · rw [finish_flights, Function.update_of_ne hji]
      exact hs.fresh j hj
  · intro j f k hf hk
    obtain ⟨hj, hold⟩ := hleft j f hf
    obtain ⟨expiresAt, hmark⟩ := hs.marked j f k hold hk
    refine ⟨expiresAt, ?_⟩
    rw [finish_store, putEntry_of_ne]
    · exact hmark
    · exact fun hsame => hj (hs.exclusive j i f flight k hold hflight hk hsame)
  · intro j l f g k hf hg hfk hgk
    exact hs.exclusive j l f g k (hleft j f hf).2 (hleft l g hg).2 hfk hgk
  · intro k answer expiresAt hentry
    by_cases hk : flight.cacheKey? codec = some k
    · obtain ⟨mark, hmark⟩ := hs.marked i flight k hflight hk
      rw [finish_store, hk, putEntry_some, Function.update_self] at hentry
      obtain ⟨hanswer, hsuccess, hexpires⟩ := settle_eq_finished
        (by rw [Option.bind_some, hmark]; nofun) hentry
      refine ⟨⟨flight, answer, s.now⟩, ?_, hk, rfl, hsuccess, hexpires⟩
      rw [finish_origin, State.putOrigin, hk, hanswer]
      exact Function.update_self _ _ _
    · rw [finish_store, putEntry_of_ne hk] at hentry
      obtain ⟨origin, horigin, hrest⟩ := hs.stored k answer expiresAt hentry
      exact ⟨origin, by rw [finish_origin, putOrigin_of_ne hk, horigin], hrest⟩

theorem Kept.step (hs : Kept codec s) (e : Event) : Kept codec (step codec api s e) := by
  cases e with
  | change directory => exact ⟨hs.fresh, hs.marked, hs.exclusive, hs.stored⟩
  | wait seconds => exact ⟨hs.fresh, hs.marked, hs.exclusive, hs.stored⟩
  | arrive r =>
    show Kept codec (arrive codec s r)
    unfold arrive
    split
    next hproceed =>
      refine hs.markInProgress fun k hk hblocked => ?_
      have hconflict := lookup_eq_conflict.mpr ⟨k, hk, hblocked⟩
      rw [hproceed] at hconflict
      cases hconflict
    next => exact hs
  | finish i h =>
    cases hflight : s.flights i with
    | none =>
      have hsame : Gateway.step codec api s (.finish i h) = s := by
        simp only [Gateway.step, hflight]
      rw [hsame]
      exact hs
    | some flight =>
      have hstep : Gateway.step codec api s (.finish i h) =
          Gateway.finish codec api s i flight h := by
        simp only [Gateway.step, hflight]
      rw [hstep]
      exact hs.finish hflight

/-! ## Who gets a stored answer -/

theorem Kept.returned (hs : Kept codec s) : Returned codec s := by
  intro r answer hlookup
  obtain ⟨k, expiresAt, hk, hentry, hkept⟩ := lookup_eq_replay.mp hlookup
  obtain ⟨origin, horigin, hkey, hanswer, -, rfl⟩ := hs.stored k answer expiresAt hentry
  exact ⟨k, origin, hk, horigin, hkey, hanswer, hkept⟩

/-! ## Who blocks a key -/

/-- A request that is handed on blocks its own key only. -/
theorem Released.markInProgress {flight : Flight} (hs : Kept codec s) (hreleased : Released codec s) :
    Released codec (markInProgress codec s flight) := by
  rintro k ⟨expiresAt, hmark⟩
  by_cases hk : flight.cacheKey? codec = some k
  · exact ⟨s.next, flight, Function.update_self _ _ _, hk⟩
  · have hold : s.store k = some (.inProgress expiresAt) := (putEntry_of_ne hk).symm.trans hmark
    obtain ⟨i, f, hf, hfk⟩ := hreleased k ⟨expiresAt, hold⟩
    refine ⟨i, f, (Function.update_of_ne ?_ _ _).trans hf, hfk⟩
    rintro rfl
    rw [hs.fresh _ le_rfl] at hf
    cases hf

/-- An entry is left as it is exactly by an answer that is no success and by a cancellation. -/
theorem settle_inProgress_iff {now mark : ℤ} {outcome : Outcome} :
    (∃ expiresAt, settle now (some (.inProgress mark)) outcome = some (.inProgress expiresAt)) ↔
      ¬(outcome = .raised ∨ ∃ status body, outcome = .answered status body ∧
        (⟨status, body, false⟩ : Answer).isSuccess) := by
  cases outcome with
  | answered status body =>
    by_cases hsuccess : (⟨status, body, false⟩ : Answer).isSuccess
    · simp [settle, hsuccess]
    · simp [settle, hsuccess]
  | raised => simp [settle]
  | cancelled => simp [settle]

/-- The keys are released by the end of a request exactly if it ends with a success or an
exception. -/
theorem released_finish_iff {i : ℕ} {flight : Flight} {h : Handling} (hs : Kept codec s)
    (hreleased : Released codec s) (hflight : s.flights i = some flight) :
    Released codec (finish codec api s i flight h) ↔ (flight.cacheKey? codec ≠ none →
      (callNext codec api s flight.request h).1 = .raised ∨
        ∃ status body, (callNext codec api s flight.request h).1 = .answered status body ∧
          (⟨status, body, false⟩ : Answer).isSuccess) := by
  -- another key is blocked by the request that blocked it before
  have hother : ∀ k, flight.cacheKey? codec ≠ some k → Blocked (finish codec api s i flight h) k →
      ∃ j f, (finish codec api s i flight h).flights j = some f ∧ f.cacheKey? codec = some k := by
    rintro k hk ⟨expiresAt, hmark⟩
    rw [finish_store, putEntry_of_ne hk] at hmark
    obtain ⟨j, f, hf, hfk⟩ := hreleased k ⟨expiresAt, hmark⟩
    refine ⟨j, f, (Function.update_of_ne ?_ _ _).trans hf, hfk⟩
    rintro rfl
    obtain rfl := Option.some.inj (hflight.symm.trans hf)
    exact hk hfk
  cases hk : flight.cacheKey? codec with
  | none =>
    refine iff_of_true (fun k hblocked => hother k ?_ hblocked) fun hnone => absurd rfl hnone
    rw [hk]
    nofun
  | some k =>
    obtain ⟨mark, hmark⟩ := hs.marked i flight k hflight hk
    have hentry : (finish codec api s i flight h).store k =
        settle s.now (some (.inProgress mark)) (callNext codec api s flight.request h).1 := by
      rw [finish_store, hk, putEntry_some, Function.update_self, Option.bind_some, hmark]
    -- the request itself is not in flight any more
    have hgone : ¬∃ j f, (finish codec api s i flight h).flights j = some f ∧
        f.cacheKey? codec = some k := by
      rintro ⟨j, f, hf, hfk⟩
      by_cases hj : j = i
      · rw [finish_flights, hj, Function.update_self] at hf
        cases hf
      · rw [finish_flights, Function.update_of_ne hj] at hf
        exact hj (hs.exclusive j i f flight k hf hflight hfk hk)
    have hblocked : Blocked (finish codec api s i flight h) k ↔
        ¬((callNext codec api s flight.request h).1 = .raised ∨
          ∃ status body, (callNext codec api s flight.request h).1 = .answered status body ∧
            (⟨status, body, false⟩ : Answer).isSuccess) := by
      rw [Blocked, hentry]
      exact settle_inProgress_iff
    constructor
    · intro hall _
      by_contra hends
      exact hgone (hall k (hblocked.mpr hends))
    · intro hends k' hblocked'
      by_cases hk' : k' = k
      · subst hk'
        exact absurd (hends nofun) (hblocked.mp hblocked')
      · refine hother k' ?_ hblocked'
        rw [hk]
        exact fun heq => hk' (Option.some.inj heq).symm

theorem released_step_iff {e : Event} (hs : Kept codec s) (hreleased : Released codec s) :
    Released codec (step codec api s e) ↔ Concludes codec api s e := by
  cases e with
  | change directory => exact iff_of_true hreleased trivial
  | wait seconds => exact iff_of_true hreleased trivial
  | arrive r =>
    refine iff_of_true ?_ trivial
    show Released codec (arrive codec s r)
    unfold arrive
    split
    next => exact hreleased.markInProgress hs
    next => exact hreleased
  | finish i h =>
    cases hflight : s.flights i with
    | none =>
      have hsame : step codec api s (.finish i h) = s := by simp only [step, hflight]
      rw [hsame]
      refine iff_of_true hreleased fun f hf => ?_
      rw [hflight] at hf
      cases hf
    | some flight =>
      have hstep : step codec api s (.finish i h) = finish codec api s i flight h := by
        simp only [step, hflight]
      rw [hstep, released_finish_iff hs hreleased hflight]
      constructor
      · intro hends f hf hkey
        obtain rfl := Option.some.inj (hflight.symm.trans hf)
        exact hends hkey
      · intro hall hkey
        exact hall flight hflight hkey

theorem keyLaw_step_iff {e : Event} (hs : Kept codec s ∧ Released codec s) :
    KeyLaw codec (step codec api s e) ↔ Concludes codec api s e := by
  rw [← released_step_iff hs.1 hs.2]
  have hkept : Kept codec (step codec api s e) := hs.1.step e
  exact ⟨KeyLaw.released, fun hreleased => ⟨hkept.exclusive, hkept.returned, hreleased⟩⟩

/-! ## A key that is not released -/

/-- A key that is blocked, and not by a request in flight. -/
def Stuck (codec : Codec) (s : State) (k : String) : Prop :=
  Blocked s k ∧ ∀ i f, s.flights i = some f → f.cacheKey? codec ≠ some k

theorem Stuck.step {k : String} (hs : Stuck codec s k) (e : Event) :
    Stuck codec (step codec api s e) k := by
  obtain ⟨⟨expiresAt, hmark⟩, hnone⟩ := hs
  cases e with
  | change directory => exact ⟨⟨expiresAt, hmark⟩, hnone⟩
  | wait seconds => exact ⟨⟨expiresAt, hmark⟩, hnone⟩
  | arrive r =>
    show Stuck codec (arrive codec s r) k
    unfold arrive
    split
    next hproceed =>
      have hk : (s.flight codec r).cacheKey? codec ≠ some k := by
        intro hk
        have hconflict := lookup_eq_conflict.mpr ⟨k, hk, expiresAt, hmark⟩
        rw [hproceed] at hconflict
        cases hconflict
      refine ⟨⟨expiresAt, (putEntry_of_ne hk).trans hmark⟩, fun i f hf => ?_⟩
      by_cases hi : i = s.next
      · rw [markInProgress_flights, hi, Function.update_self] at hf
        exact Option.some.inj hf ▸ hk
      · rw [markInProgress_flights, Function.update_of_ne hi] at hf
        exact hnone i f hf
    next => exact ⟨⟨expiresAt, hmark⟩, hnone⟩
  | finish i h =>
    cases hflight : s.flights i with
    | none =>
      have hsame : Gateway.step codec api s (.finish i h) = s := by
        simp only [Gateway.step, hflight]
      rw [hsame]
      exact ⟨⟨expiresAt, hmark⟩, hnone⟩
    | some flight =>
      have hstep : Gateway.step codec api s (.finish i h) =
          Gateway.finish codec api s i flight h := by
        simp only [Gateway.step, hflight]
      rw [hstep]
      refine ⟨⟨expiresAt, (putEntry_of_ne (hnone i flight hflight)).trans hmark⟩, fun j f hf => ?_⟩
      by_cases hj : j = i
      · rw [finish_flights, hj, Function.update_self] at hf
        cases hf
      · rw [finish_flights, Function.update_of_ne hj] at hf
        exact hnone j f hf

/-- Whatever happens afterwards, a request with the key is answered that one is in progress. -/
theorem Stuck.forever {k : String} (hs : Stuck codec s k) (later : List Event) {r : Request}
    (hk : ((later.foldl (Gateway.step codec api) s).flight codec r).cacheKey? codec = some k) :
    lookup codec (later.foldl (Gateway.step codec api) s)
      ((later.foldl (Gateway.step codec api) s).flight codec r) = .conflict := by
  have hlater : Stuck codec (later.foldl (Gateway.step codec api) s) k := by
    induction later generalizing s with
    | nil => exact hs
    | cons e later ih => exact ih (hs.step e) hk
  exact lookup_eq_conflict.mpr ⟨k, hk, hlater.1⟩

/-! ## Runs -/

/-- In every state of a run the keys are exclusive, stored answers go back to their own key in time,
and no key is blocked but by a request in flight, exactly if every request with a key ends with a
success or an exception. -/
theorem key_law (codec : Codec) (api : Api) (directory : Directory) (now : ℤ) (events : List Event) :
    Along (step codec api) (fun s e => KeyLaw codec (step codec api s e)) (start directory now)
        events ↔
      Along (step codec api) (Concludes codec api) (start directory now) events := by
  refine Along.congr (I := fun s => Kept codec s ∧ Released codec s) ?_ ?_ ?_
  · intro s e hs hlaw
    exact ⟨hs.1.step e, hlaw.released⟩
  · intro s e hs
    exact keyLaw_step_iff hs
  · exact ⟨Kept.start codec directory now, fun k hblocked => nomatch hblocked.choose_spec⟩

/-! ### A key after a 401 -/

/-- An access token of user 2 in tenant 1. -/
def sampleToken : TokenPayload where
  userId := Uuid.text 2
  tenantId := some (Uuid.text 1)
  tenantSchema := some (schemaOf 1)
  exp := some 1800

def emptyDigest : String := "e3b0c44298fc1c149afbf4c8996fb92427ae41e4649b934ca495991b7852b855"

/-- The key of `k-1` without a token, and for user 2, for the same request. -/
def anonymousText : String := "anonymous:anonymous:POST:/api/v1/orders:" ++ emptyDigest ++ ":k-1"
def userText : String :=
  schemaOf 1 ++ ":" ++ Uuid.text 2 ++ ":POST:/api/v1/orders:" ++ emptyDigest ++ ":k-1"

def sampleDigest (bytes : ByteArray) : String :=
  if bytes = anonymousText.toUTF8 then
    "a7be4b4ccb8fe2ca6c1a7573d9c340e7baae75010f902c5e1843cb4a7def1656"
  else if bytes = userText.toUTF8 then
    "2b90a77e52e0d1bab5bbbb928d06b91f0216317180bf0712c7369d22f901c9ff"
  else emptyDigest

/-- One token is signed, and digests are as `sha256` has them where they are needed. -/
def sampleCodec : Codec where
  decode := fun now raw => if raw = "header.payload.signature" ∧ now ≤ 1800 then some sampleToken
    else none
  signed := by
    intro now raw token h
    obtain rfl := Option.some.inj (Option.ite_none_right_eq_some.mp h).2
    exact ⟨⟨2, rfl⟩, fun _ => ⟨1, rfl, rfl⟩⟩
  identity := by
    intro now raw token h hidentity
    obtain rfl := Option.some.inj (Option.ite_none_right_eq_some.mp h).2
    cases hidentity
  decode_empty := fun now => if_neg (by simp)
  decode_earlier := by
    intro now later raw token hnow h
    obtain ⟨⟨hraw, hlater⟩, htoken⟩ := Option.ite_none_right_eq_some.mp h
    exact Option.ite_none_right_eq_some.mpr ⟨⟨hraw, hnow.trans hlater⟩, htoken⟩
  hexdigest := sampleDigest
  length_hexdigest := by
    intro bytes
    unfold sampleDigest
    split
    · decide
    · split <;> decide

/-- Every endpoint asks for a token. -/
def sampleApi : Api := fun _ _ => [.authenticated]

def orderRequest (authorization : Option String) : Request where
  method := "POST"
  path := "/api/v1/orders"
  authorization := authorization
  idempotencyKey := some "k-1"

def noDirectory : Directory where
  wholesalers := Table.empty
  registrations := []
  bindings := []
  retailers := Table.empty
  schemas := fun _ => none

/-- A request with a key but without a token is answered 401. -/
def refusedRun : List Event :=
  [.arrive (orderRequest none), .finish 0 { outcome := .raised, directory := noDirectory }]

theorem key_law_broken_refusedRun :
    ¬Along (step sampleCodec sampleApi) (fun s e => KeyLaw sampleCodec (step sampleCodec sampleApi s e))
      (start noDirectory 0) refusedRun := by
  rintro ⟨harrived, hfinished, -⟩
  have hkept : Kept sampleCodec
      (step sampleCodec sampleApi (start noDirectory 0) (.arrive (orderRequest none))) :=
    (Kept.start sampleCodec noDirectory 0).step _
  have hconcludes := (keyLaw_step_iff ⟨hkept, harrived.released⟩).mp hfinished
  have hends := hconcludes ⟨orderRequest none, none⟩ rfl (by decide +kernel)
  have houtcome : (callNext sampleCodec sampleApi
      (step sampleCodec sampleApi (start noDirectory 0) (.arrive (orderRequest none)))
      (orderRequest none) { outcome := .raised, directory := noDirectory }).1 = .answered 401 "" := rfl
  rw [houtcome] at hends
  rcases hends with hraised | ⟨status, body, hanswered, hsuccess⟩
  · cases hraised
  · cases hanswered
    exact absurd hsuccess (by decide)

end Mpango.Gateway
