import Mpango.Access.Logins
import Mpango.Gateway.Keys

/-!
# A success is for the authorised

Behind the store every success has passed the authentication layer and the requirements of its
endpoint. An answer from the store has not: what it comes with is its key. The scope and the method
are read back from the text of a key, so they are those of the request the answer was stored for;
path, body digest and idempotency key share a separator that may stand in a path, and are told apart
only where the idempotency keys are the same.
-/

namespace Mpango.Gateway

open Access Tenancy

variable {codec : Codec} {api : Api} {s : State} {directory : Directory} {now : ℤ} {r : Request}

/-! ## The token of a request -/

theorem toLower_eq_blank {c : Char} : c.toLower = ' ' ↔ c = ' ' := by
  constructor
  · intro h
    unfold Char.toLower at h
    split at h
    next hupper =>
      have hval := congrArg (fun c : Char => c.val.toNat) h
      have hlow := UInt32.le_iff_toNat_le.mp hupper.1
      have hhigh := UInt32.le_iff_toNat_le.mp hupper.2
      simp at hval hlow hhigh
      omega
    next => exact h
  · rintro rfl
    rfl

/-- The two middlewares look for the scheme in different ways, and find it in the same headers. -/
theorem isPrefixOf_bearer_iff {header : String} :
    "bearer ".toList.isPrefixOf header.toLower.toList = true ↔
      (partition ' ' header).1.toLower = "bearer" ∧ ' ' ∈ header.toList := by
  have hsplit : header.toList.takeWhile (· ≠ ' ') ++ header.toList.dropWhile (· ≠ ' ') =
      header.toList := List.takeWhile_append_dropWhile
  have htext : "bearer ".toList = "bearer".toList ++ [' '] := rfl
  rw [List.isPrefixOf_iff_prefix, htext, String.toLower, String.toList_map]
  constructor
  · rintro ⟨rest, hrest⟩
    rw [List.append_assoc, eq_comm, List.map_eq_append_iff] at hrest
    obtain ⟨scheme, after, hheader, hscheme, hafter⟩ := hrest
    rw [List.singleton_append, List.map_eq_cons_iff] at hafter
    obtain ⟨blank, credentials, rfl, hblank, -⟩ := hafter
    obtain rfl := toLower_eq_blank.mp hblank
    have hnone : ∀ c ∈ scheme, c ≠ ' ' := by
      rintro c hc rfl
      have hmem := List.mem_map_of_mem (f := Char.toLower) hc
      rw [hscheme] at hmem
      exact absurd hmem (by decide)
    refine ⟨?_, by rw [hheader]; simp⟩
    rw [partition, hheader, List.takeWhile_append_of_pos (by simpa using hnone)]
    rw [List.takeWhile_cons_of_neg (by simp), List.append_nil, ← String.toList_inj, String.toLower,
      String.toList_map, String.toList_ofList, hscheme]
  · rintro ⟨hscheme, hblank⟩
    rw [partition, ← String.toList_inj, String.toLower, String.toList_map, String.toList_ofList]
      at hscheme
    cases hafter : header.toList.dropWhile (· ≠ ' ') with
    | nil =>
      rw [List.dropWhile_eq_nil_iff] at hafter
      simpa using hafter ' ' hblank
    | cons c credentials =>
      have hc : c = ' ' := by
        have hhead := List.head?_dropWhile_not (· ≠ ' ') header.toList
        rw [hafter] at hhead
        simpa using hhead
      refine ⟨credentials.map Char.toLower, ?_⟩
      rw [← hsplit, hafter, List.map_append, hscheme, hc]
      rfl

theorem partition_snd_ne_empty {header : String} (h : (partition ' ' header).2 ≠ "") :
    ' ' ∈ header.toList := by
  by_contra hblank
  refine h ?_
  have hafter : header.toList.dropWhile (· ≠ ' ') = [] := by
    rw [List.dropWhile_eq_nil_iff]
    intro c hc
    simpa using fun heq : c = ' ' => hblank (heq ▸ hc)
  rw [partition, hafter]
  rfl

/-- A request presents a token exactly if the authentication layer reads one from it. -/
theorem presentedToken_eq_some {token : TokenPayload} :
    presentedToken codec now r = some token ↔ ∃ raw,
      extractBearerToken r.authorization = .ok (some raw) ∧ codec.decode now raw = some token := by
  unfold presentedToken extractBearerToken
  cases r.authorization with
  | none =>
    rw [Option.bind_none]
    refine iff_of_false nofun ?_
    rintro ⟨raw, hraw, -⟩
    cases hraw
  | some header =>
    rw [Option.bind_some]
    by_cases hempty : header = ""
    · subst hempty
      simp only [if_pos, Except.ok.injEq, reduceCtorEq, false_and, exists_false, iff_false]
      rw [if_neg fun h => List.not_mem_nil (isPrefixOf_bearer_iff.mp h).2]
      nofun
    · simp only [if_neg hempty]
      by_cases hcredentials : (partition ' ' header).2 = ""
      · have hstrip : strip "" = "" := by decide
        refine iff_of_false ?_ ?_
        · rw [hcredentials, hstrip, codec.decode_empty, ite_self]
          nofun
        · rw [if_pos (Or.inr hcredentials)]
          rintro ⟨raw, hraw, -⟩
          cases hraw
      · by_cases hscheme : (partition ' ' header).1.toLower = "bearer"
        · rw [if_pos (isPrefixOf_bearer_iff.mpr ⟨hscheme, partition_snd_ne_empty hcredentials⟩),
            if_neg (by simp [hscheme, hcredentials])]
          simp
        · rw [if_neg (fun h => hscheme (isPrefixOf_bearer_iff.mp h).1), if_pos (.inl hscheme)]
          simp

/-- A token that is accepted later was accepted before. -/
theorem presentedToken_earlier {later : ℤ} {token : TokenPayload} (hnow : now ≤ later)
    (h : presentedToken codec later r = some token) : presentedToken codec now r = some token := by
  obtain ⟨raw, hraw, hdecode⟩ := presentedToken_eq_some.mp h
  exact presentedToken_eq_some.mpr ⟨raw, hraw, codec.decode_earlier hnow hdecode⟩

theorem presentedToken_signed {token : TokenPayload}
    (h : presentedToken codec now r = some token) :
    Signed token ∧ (token.isIdentityOnly = true → token.tenantSchema = none) := by
  obtain ⟨raw, -, hdecode⟩ := presentedToken_eq_some.mp h
  exact ⟨codec.signed hdecode, codec.identity hdecode⟩

/-! ## The authentication layer -/

theorem authenticate_eq_some {caller : Caller} :
    authenticate codec directory now r = .ok (some caller) ↔
      presentedToken codec now r = some caller.token ∧
        directory.tenantContext caller.token = .ok caller.context := by
  obtain ⟨token, context⟩ := caller
  rw [presentedToken_eq_some]
  simp only [authenticate, bind_eq_ok]
  constructor
  · rintro ⟨raw?, hraw, h⟩
    cases raw? with
    | none => cases h
    | some raw =>
      simp only [bind_eq_ok, orRefuse_eq_ok, pure_eq_ok, Option.some.injEq, Caller.mk.injEq] at h
      obtain ⟨token', hdecode, context', hcontext, rfl, rfl⟩ := h
      exact ⟨⟨raw, hraw, hdecode⟩, hcontext⟩
  · rintro ⟨⟨raw, hraw, hdecode⟩, hcontext⟩
    refine ⟨some raw, hraw, ?_⟩
    simp only [bind_eq_ok, orRefuse_eq_ok, pure_eq_ok, Option.some.injEq, Caller.mk.injEq]
    exact ⟨token, hdecode, context, hcontext, rfl, rfl⟩

/-- Nobody meets a requirement without a token. -/
theorem Requirement.check_none {requirement : Requirement} :
    requirement.check none ≠ .ok () := by
  cases requirement with
  | authenticated => nofun
  | tenant => nofun
  | permission code => nofun
  | platformAdmin => nofun

theorem authorised_iff (hguarded : api r.method r.path ≠ []) :
    Authorised codec api directory now r ↔ ∃ token, presentedToken codec now r = some token ∧
      Grants directory token (api r.method r.path) := by
  constructor
  · rintro ⟨caller?, hauth, hmet⟩
    cases caller? with
    | none =>
      obtain ⟨requirement, hmem⟩ := List.exists_mem_of_ne_nil _ hguarded
      exact absurd (hmet requirement hmem) Requirement.check_none
    | some caller =>
      obtain ⟨htoken, hcontext⟩ := authenticate_eq_some.mp hauth
      exact ⟨caller.token, htoken, caller.context, hcontext, hmet⟩
  · rintro ⟨token, htoken, context, hcontext, hmet⟩
    exact ⟨some ⟨token, context⟩, authenticate_eq_some.mpr ⟨htoken, hcontext⟩, hmet⟩

/-! ## Successes behind the store -/

theorem refusesOnly_authenticate :
    RefusesOnly (fun code => 400 ≤ code) (authenticate codec directory now r) := by
  have hraw : RefusesOnly (fun code => 400 ≤ code) (extractBearerToken r.authorization) := by
    unfold extractBearerToken
    split
    next => simp
    next =>
      split
      · simp
      · split <;> simp
  unfold authenticate
  refine refusesOnly_bind.mpr ⟨hraw, fun raw? _ => ?_⟩
  cases raw? with
  | none => simp
  | some raw =>
    refine refusesOnly_bind.mpr ⟨by simp, fun token _ => refusesOnly_bind.mpr ⟨?_, by simp⟩⟩
    unfold Directory.tenantContext
    split
    · simp
    · exact refusesOnly_map.mpr
        (by simp [Directory.resolveTenantContext, Directory.assertTenantActive])

theorem refusesOnly_check {caller : Option Caller} {requirement : Requirement} :
    RefusesOnly (fun code => 400 ≤ code) (requirement.check caller) := by
  cases requirement with
  | authenticated => simp [Requirement.check]
  | tenant => simp [Requirement.check]
  | permission code =>
    simp only [Requirement.check, refusesOnly_bind, refusesOnly_orRefuse]
    refine ⟨by simp, fun caller _ => ?_⟩
    split
    · simp
    · simp
  | platformAdmin => simp [Requirement.check]

theorem forM_eq_ok {caller : Option Caller} {requirements : List Requirement}
    (h : requirements.forM (Requirement.check caller) = .ok ()) :
    ∀ requirement ∈ requirements, requirement.check caller = .ok () := by
  induction requirements with
  | nil => exact fun _ hmem => absurd hmem List.not_mem_nil
  | cons first rest ih =>
    have hboth : (first.check caller >>= fun _ => rest.forM (Requirement.check caller)) = .ok () := h
    simp only [bind_eq_ok, exists_unit_ok] at hboth
    intro requirement hmem
    rcases List.mem_cons.mp hmem with rfl | hrest
    · exact hboth.1
    · exact ih hboth.2 requirement hrest

/-- Every refusal of the layers behind the store is a failure. -/
theorem callNext_authorised {h : Handling} {answer : Answer}
    (hanswer : (callNext codec api s r h).1.answer = some answer) (hsuccess : answer.isSuccess) :
    Authorised codec api s.directory s.now r := by
  have hfailure : ∀ code body, 400 ≤ code →
      (Outcome.answered code body).answer = some answer → False := by
    rintro code body hcode heq
    obtain rfl := Option.some.inj heq
    exact absurd hsuccess.2 (by simp only; omega)
  unfold callNext at hanswer
  split at hanswer
  next code hauth =>
    have hcode := refusesOnly_authenticate code hauth
    unfold refused at hanswer
    split at hanswer
    · obtain rfl := Option.some.inj hanswer
      exact absurd hsuccess.2 (by decide)
    · refine (hfailure _ _ ?_ hanswer).elim
      split <;> omega
  next caller hauth =>
    split at hanswer
    · exact (hfailure 429 _ (by decide) hanswer).elim
    · split at hanswer
      next code hcheck =>
        exact (hfailure code _ (refusesOnly_forM (fun _ _ => refusesOnly_check) code hcheck)
          hanswer).elim
      next hmet => exact ⟨caller, hauth, forM_eq_ok hmet⟩

/-! ## Reading a key back -/

/-- A token that the middlewares have decoded, if there is one. -/
def Decoded (token : Option TokenPayload) : Prop :=
  ∀ t, token = some t → Signed t ∧ (t.isIdentityOnly = true → t.tenantSchema = none)

theorem decoded_presentedToken : Decoded (presentedToken codec now r) :=
  fun _ h => presentedToken_signed h

@[simp] theorem orAnonymous_none : orAnonymous none = "anonymous" := rfl

/-- The tenant of a decoded token: none, or a schema of the usual form. -/
theorem Decoded.tenantSchema {token : Option TokenPayload} (h : Decoded token) :
    token.bind TokenPayload.tenantSchema = none ∨
      ∃ id, token.bind TokenPayload.tenantSchema = some (schemaOf id) := by
  cases token with
  | none => exact .inl rfl
  | some t =>
    obtain ⟨hsigned, hidentity⟩ := h t rfl
    cases hkind : t.isIdentityOnly with
    | true => exact .inl (hidentity hkind)
    | false =>
      obtain ⟨id, -, hschema⟩ := hsigned.2 hkind
      exact .inr ⟨id, hschema⟩

theorem Decoded.userId {token : Option TokenPayload} (h : Decoded token) :
    token = none ∨ ∃ id : Uuid, token.map TokenPayload.userId = some id.text := by
  cases token with
  | none => exact .inl rfl
  | some t =>
    obtain ⟨id, huser⟩ := (h t rfl).1.1
    exact .inr ⟨id, congrArg some huser⟩

/-- What holds of the store and the requests in every run. -/
structure Recorded (codec : Codec) (api : Api) (s : State) : Prop where
  kept : Kept codec s
  /-- The token of a request in flight was read when it arrived. -/
  flying : ∀ i f, s.flights i = some f → ∃ arrival ≤ s.now,
    f.token = presentedToken codec arrival f.request
  /-- A stored answer was given to somebody, where the endpoint asks for one. -/
  stored : ∀ k answer expiresAt origin, s.store k = some (.finished answer expiresAt) →
    s.origin k = some origin → Decoded origin.flight.token ∧
      (api origin.flight.request.method origin.flight.request.path ≠ [] →
        ∃ t, origin.flight.token = some t)

theorem Recorded.start (codec : Codec) (api : Api) (directory : Directory) (now : ℤ) :
    Recorded codec api (start directory now) where
  kept := Kept.start codec directory now
  flying _ _ h := nomatch h
  stored _ _ _ _ h := nomatch h

theorem Recorded.markInProgress {r : Request} (hs : Recorded codec api s)
    (hproceed : lookup codec s (s.flight codec r) = .proceed) :
    Recorded codec api (markInProgress codec s (s.flight codec r)) := by
  constructor
  · refine hs.kept.markInProgress fun k hk hblocked => ?_
    have hconflict := lookup_eq_conflict.mpr ⟨k, hk, hblocked⟩
    rw [hproceed] at hconflict
    cases hconflict
  · intro i f hf
    by_cases hi : i = s.next
    · rw [markInProgress_flights, hi, Function.update_self] at hf
      obtain rfl := Option.some.inj hf
      exact ⟨s.now, le_rfl, rfl⟩
    · rw [markInProgress_flights, Function.update_of_ne hi] at hf
      exact hs.flying i f hf
  · intro k answer expiresAt origin hentry horigin
    by_cases hk : (s.flight codec r).cacheKey? codec = some k
    · rw [markInProgress_store, hk, putEntry_some, Function.update_self] at hentry
      cases hentry
    · rw [markInProgress_store, putEntry_of_ne hk] at hentry
      exact hs.stored k answer expiresAt origin hentry horigin

theorem Recorded.finish {i : ℕ} {flight : Flight} {h : Handling} (hs : Recorded codec api s)
    (hflight : s.flights i = some flight) :
    Recorded codec api (finish codec api s i flight h) := by
  constructor
  · exact hs.kept.finish hflight
  · intro j f hf
    by_cases hj : j = i
    · rw [finish_flights, hj, Function.update_self] at hf
      cases hf
    · rw [finish_flights, Function.update_of_ne hj] at hf
      exact hs.flying j f hf
  · intro k answer expiresAt origin hentry horigin
    by_cases hk : flight.cacheKey? codec = some k
    · obtain ⟨mark, hmark⟩ := hs.kept.marked i flight k hflight hk
      rw [finish_store, hk, putEntry_some, Function.update_self] at hentry
      obtain ⟨hanswer, hsuccess, -⟩ := settle_eq_finished
        (by rw [Option.bind_some, hmark]; nofun) hentry
      have hself : s.putOrigin codec flight (callNext codec api s flight.request h).1 k =
          some ⟨flight, answer, s.now⟩ := by
        rw [State.putOrigin, hk, hanswer]
        exact Function.update_self _ _ _
      obtain rfl := Option.some.inj (hself.symm.trans horigin)
      obtain ⟨arrival, harrival, htoken⟩ := hs.flying i flight hflight
      refine ⟨htoken ▸ decoded_presentedToken, fun hguarded => ?_⟩
      obtain ⟨t, ht, -⟩ := (authorised_iff hguarded).mp (callNext_authorised hanswer hsuccess)
      exact ⟨t, htoken.trans (presentedToken_earlier harrival ht)⟩
    · rw [finish_store, putEntry_of_ne hk] at hentry
      rw [finish_origin, putOrigin_of_ne hk] at horigin
      exact hs.stored k answer expiresAt origin hentry horigin

theorem Recorded.step (hs : Recorded codec api s) (e : Event) :
    Recorded codec api (step codec api s e) := by
  cases e with
  | change directory =>
    exact ⟨⟨hs.kept.fresh, hs.kept.marked, hs.kept.exclusive, hs.kept.stored⟩, hs.flying, hs.stored⟩
  | wait seconds =>
    refine ⟨⟨hs.kept.fresh, hs.kept.marked, hs.kept.exclusive, hs.kept.stored⟩, fun i f hf => ?_,
      hs.stored⟩
    obtain ⟨arrival, harrival, htoken⟩ := hs.flying i f hf
    exact ⟨arrival, harrival.trans (le_add_of_nonneg_right (Int.natCast_nonneg seconds)), htoken⟩
  | arrive r =>
    show Recorded codec api (arrive codec s r)
    unfold arrive
    split
    next hproceed => exact hs.markInProgress hproceed
    next => exact hs
  | finish i h =>
    cases hflight : s.flights i with
    | none =>
      have hsame : Gateway.step codec api s (.finish i h) = s := by
        simp only [Gateway.step, hflight]
      rw [hsame]
      exact hs
    | some flight =>
      have hstep : Gateway.step codec api s (.finish i h) =
          Gateway.finish codec api s i flight h := by
        simp only [Gateway.step, hflight]
      rw [hstep]
      exact hs.finish hflight

/-! ## When a stored answer may be given -/

end Mpango.Gateway
