import Mpango.Access.Logins
import Mpango.Gateway.Replay
import Mpango.Library.Numbering
import Mpango.Model.RateLimits

/-!
# The bucket of a request

A request that comes to the limiter is counted once, under the verified tenant and user, or under
the first entry of `X-Forwarded-For`. The gateway puts the address of the peer last, so that entry
is the address exactly if the client has sent no other one before it (`clientIp_eq`). Requests that
the idempotency middleware answers, and those on which the database fails, are not counted.
-/

namespace Mpango.Gateway

open Access Numbering Tenancy

variable {codec : Codec} {visit : Visit}

/-! ## The address -/

theorem takeWhile_append_cons {α : Type} {p : α → Bool} {c : α} (hc : p c = false)
    (front rest : List α) : (front ++ c :: rest).takeWhile p = front.takeWhile p := by
  induction front with
  | nil => simp [hc]
  | cons a front ih =>
    rw [List.cons_append, List.takeWhile_cons, List.takeWhile_cons, ih]

theorem firstEntry_address (peer : Peer) : Visit.firstEntry peer.address = peer.address := by
  have hall : ∀ c ∈ peer.address.toList, decide (c ≠ ',') = true := fun c hc =>
    decide_eq_true (peer.plain c hc).1
  have hfirst : (partition ',' peer.address).1 = peer.address := by
    unfold partition
    rw [List.takeWhile_eq_self_iff.mpr hall, String.ofList_toList]
  rw [Visit.firstEntry, hfirst, strip_of_not_blank fun c hc => (peer.plain c hc).2]

/-- The limiter sees what the client has written first, and the peer only if that is nothing. -/
theorem clientIp_eq (visit : Visit) : visit.clientIp =
    match visit.hit.forwardedFor with
    | [] => visit.hit.peer.address
    | first :: _ => Visit.firstEntry first := by
  unfold Visit.clientIp Hit.proxyHeaders
  cases visit.hit.forwardedFor with
  | nil =>
    have hne := visit.hit.peer.nonempty
    have haddress := firstEntry_address visit.hit.peer
    simp only [List.nil_append, String.intercalate_singleton, getClientIp, Option.filter_some,
      decide_eq_true_eq, ne_eq, hne, not_false_eq_true, if_true]
    exact haddress
  | cons first rest =>
    obtain ⟨second, others, hrest⟩ : ∃ second others,
        rest ++ [visit.hit.peer.address] = second :: others :=
      List.exists_cons_of_ne_nil (by simp)
    have hlist : (String.intercalate ", " (first :: second :: others)).toList =
        first.toList ++ ',' :: (' ' :: (String.intercalate ", " (second :: others)).toList) := by
      rw [String.intercalate_cons_cons, String.toList_append, String.toList_append,
        List.append_assoc]
      rfl
    have hne : String.intercalate ", " (first :: second :: others) ≠ "" := by
      intro hempty
      rw [hempty] at hlist
      simp at hlist
    simp only [List.cons_append, hrest, getClientIp, Option.filter_some, decide_eq_true_eq, ne_eq,
      hne, not_false_eq_true, if_true]
    unfold Visit.firstEntry partition
    rw [hlist, takeWhile_append_cons rfl]

/-! ## The verified caller -/

theorem tenantContext_isSome {directory : Directory} {token : TokenPayload}
    {context : Option (TenantTables × User)} (h : directory.tenantContext token = .ok context) :
    context.isSome = true ↔ token.isIdentityOnly = false := by
  unfold Directory.tenantContext at h
  split at h
  · next hidentity =>
    cases h
    simp [hidentity]
  · next hidentity =>
    cases hresolve : directory.resolveTenantContext token with
    | error code =>
      rw [hresolve] at h
      cases h
    | ok found =>
      rw [hresolve] at h
      cases h
      simpa using hidentity

theorem contextualToken_eq_some {token : TokenPayload} :
    visit.contextualToken codec = some token ↔
      presentedToken codec visit.state.now visit.hit.request = some token ∧
        token.isIdentityOnly = false := by
  rw [presentedToken_eq_some]
  unfold Visit.contextualToken
  split
  · next raw hraw =>
    rw [hraw, Option.filter_eq_some_iff]
    simp
  · next hno =>
    refine iff_of_false nofun ?_
    rintro ⟨⟨raw, hraw, -⟩, -⟩
    exact hno raw hraw

/-- The authentication layer never fails on a token that was signed. -/
theorem authenticate_ne_500 (codec : Codec) (visit : Visit) : RefusesOnly (fun code => code ≠ 500)
    (authenticate codec visit.state.directory visit.state.now visit.hit.request) := by
  have hraw : RefusesOnly (fun code => code ≠ 500)
      (extractBearerToken visit.hit.request.authorization) := by
    unfold extractBearerToken
    split
    · simp
    · split
      · simp
      · split <;> simp
  unfold authenticate
  refine refusesOnly_bind.mpr ⟨hraw, fun raw? _ => ?_⟩
  cases raw? with
  | none => simp
  | some raw =>
    refine refusesOnly_bind.mpr ⟨by simp, fun token hdecode => refusesOnly_bind.mpr ⟨?_, by simp⟩⟩
    rw [orRefuse_eq_ok] at hdecode
    unfold Directory.tenantContext
    split
    · simp
    · next hidentity =>
      obtain ⟨id, -, hschema⟩ := (codec.signed hdecode).2 (Bool.eq_false_iff.mpr hidentity)
      refine refusesOnly_map.mpr ?_
      simp [Directory.resolveTenantContext, Directory.assertTenantActive, hschema,
        isSafeIdentifier_schemaOf]

/-! ## The bucket -/

/-- What the limiter counts a request under. -/
def Visit.seenBucket (codec : Codec) (visit : Visit) : String × ℕ :=
  match visit.verified codec with
  | some (tenantId, userId) =>
    ("rate_limit:tenant:" ++ tenantId ++ ":" ++ userId, defaultTenantLimit)
  | none => ("rate_limit:ip:" ++ visit.clientIp, defaultIpLimit)

/-- The names in a contextual token that was signed are never empty, so they make the bucket. -/
theorem getRateLimitKey_caller {caller : Caller}
    (h : authenticate codec visit.state.directory visit.state.now visit.hit.request =
      .ok (some caller)) (hcontext : caller.context.isSome = true) :
    getRateLimitKey { tenantId := caller.token.tenantId, userId := some caller.token.userId }
      visit.clientIp = visit.seenBucket codec := by
  obtain ⟨htoken, hfound⟩ := authenticate_eq_some.mp h
  have hidentity := (tenantContext_isSome hfound).mp hcontext
  obtain ⟨⟨⟨user, huser⟩, htenant⟩, -⟩ := presentedToken_signed htoken
  obtain ⟨tenant, hid, -⟩ := htenant hidentity
  have hverified : visit.verified codec = some (tenant.text, user.text) := by
    simp [Visit.verified, h, hcontext, hid, huser]
  have htext (u : Uuid) : (some u.text).filter (· ≠ "") = some u.text := by
    simp [Option.filter_some, Uuid.text_ne_empty]
  simp only [getRateLimitKey, hid, huser, htext, Visit.seenBucket, hverified]

theorem counted_eq : visit.counted codec =
    if lookup codec visit.state (visit.state.flight codec visit.hit.request) = .proceed ∧
      ¬visit.Exempt ∧ (visit.databaseAnswers = true ∨ visit.contextualToken codec = none) then
      some (visit.seenBucket codec)
    else none := by
  unfold Visit.counted
  by_cases hlookup : lookup codec visit.state (visit.state.flight codec visit.hit.request) = .proceed
  swap
  · simp [hlookup]
  by_cases hexempt : visit.Exempt
  · simp [hlookup, hexempt, show visit.hit.request.path ∈ rateLimitExemptPaths from hexempt]
  have hpath : visit.hit.request.path ∉ rateLimitExemptPaths := hexempt
  simp only [hlookup, hexempt, hpath, ne_eq, not_true_eq_false, not_false_eq_true, if_false,
    true_and]
  by_cases hanswers : visit.databaseAnswers = false ∧ (visit.contextualToken codec).isSome = true
  · rw [Visit.admission, if_pos hanswers, if_neg (by simpa [← Option.isSome_iff_ne_none] using hanswers)]
  have hresolved : visit.databaseAnswers = true ∨ visit.contextualToken codec = none := by
    simpa [Classical.or_iff_not_imp_left] using hanswers
  rw [Visit.admission, if_neg hanswers, if_pos hresolved]
  have hcodes := authenticate_ne_500 codec visit
  cases hauth : authenticate codec visit.state.directory visit.state.now visit.hit.request with
  | error code =>
    simp [hcodes code hauth, getRateLimitKey, Visit.seenBucket, Visit.verified, hauth]
  | ok caller? =>
    cases caller? with
    | none => simp [getRateLimitKey, Visit.seenBucket, Visit.verified, hauth]
    | some caller =>
      by_cases hcontext : caller.context.isSome = true
      · simp [hcontext, getRateLimitKey_caller hauth hcontext]
      · simp [hcontext, getRateLimitKey, Visit.seenBucket, Visit.verified, hauth]

theorem toList_ip (address : String) : ("rate_limit:ip:" ++ address).toList =
    "rate_limit:ip:".toList ++ address.toList := String.toList_append

/-- A request reaches the bucket it belongs to exactly if it is plain. -/
theorem seenBucket_eq_iff : (visit.seenBucket codec).1 = visit.bucket codec ↔
    (visit.verified codec = none →
      ∀ first ∈ visit.hit.forwardedFor.head?, Visit.firstEntry first = visit.hit.peer.address) := by
  cases hverified : visit.verified codec with
  | some caller => simp [Visit.seenBucket, Visit.bucket, hverified]
  | none =>
    have hkeys : (visit.seenBucket codec).1 = visit.bucket codec ↔
        visit.clientIp = visit.hit.peer.address := by
      simp only [Visit.seenBucket, Visit.bucket, hverified]
      exact String.append_right_inj _
    rw [hkeys, clientIp_eq]
    cases visit.hit.forwardedFor <;> simp

variable {s : Limits}

theorem serve_of_none (h : visit.counted codec = none) :
    s.serve codec visit = { s with served := ⟨visit, [], true⟩ :: s.served } := by
  rw [Limits.serve, h]

theorem serve_of_some {key : String} {limit : ℕ} (h : visit.counted codec = some (key, limit)) :
    s.serve codec visit =
      { counters := Function.update s.counters (visit.redisKey key)
          (s.counters (visit.redisKey key) + 1)
        served := ⟨visit, [visit.redisKey key],
          decide (s.counters (visit.redisKey key) + 1 ≤ limit)⟩ :: s.served } := by
  rw [Limits.serve, h]

/-- Every request is served in its turn, and moves the counter it is counted under. -/
theorem serve_served (codec : Codec) (s : Limits) (visit : Visit) : ∃ passed, (s.serve codec visit).served =
    ⟨visit, ((visit.counted codec).map fun counted => visit.redisKey counted.1).toList, passed⟩ ::
      s.served := by
  cases hcounted : visit.counted codec with
  | none => exact ⟨_, by rw [serve_of_none hcounted]; rfl⟩
  | some counted => exact ⟨_, by rw [serve_of_some hcounted]; rfl⟩

/-- The unauthenticated requests of a peer that the limiter has let pass in a window. -/
def Limits.passes (codec : Codec) (s : Limits) (peer : Peer) (window : ℕ) : ℕ :=
  s.served.countP fun served => served.passed && served.visit.Anonymous codec peer window

/-- The counter of a peer has seen every one of them. -/
def Limits.Bounded (codec : Codec) (s : Limits) : Prop :=
  ∀ peer window, s.passes codec peer window ≤ s.counters (peerKey peer window) ∧
    s.passes codec peer window ≤ defaultIpLimit

theorem counters_le_serve (codec : Codec) (s : Limits) (visit : Visit) (k : String) : s.counters k ≤ (s.serve codec visit).counters k := by
  cases hcounted : visit.counted codec with
  | none => rw [serve_of_none hcounted]
  | some counted =>
    rw [serve_of_some hcounted]
    rcases eq_or_ne k (visit.redisKey counted.1) with rfl | hother
    · simp
    · simp [Function.update_of_ne hother]

theorem counted_anonymous {peer : Peer} {window : ℕ} (h : visit.Anonymous codec peer window)
    (hplain : visit.Plain codec) :
    ∃ key, visit.counted codec = some (key, defaultIpLimit) ∧
      visit.redisKey key = peerKey peer window := by
  obtain ⟨hexempt, hverified, rfl, rfl⟩ := h
  refine ⟨visit.bucket codec, ?_, by simp [Visit.bucket, hverified, Visit.redisKey, peerKey]⟩
  have hbucket := seenBucket_eq_iff.mpr hplain.2.2
  rw [counted_eq, if_pos ⟨hplain.1, hexempt, hplain.2.1⟩, ← hbucket]
  simp [Visit.seenBucket, hverified]

theorem Limits.Bounded.serve (hs : s.Bounded codec)
    (hplain : ¬visit.Exempt → visit.Plain codec) : (s.serve codec visit).Bounded codec := by
  intro peer window
  obtain ⟨hseen, hlimit⟩ := hs peer window
  unfold Limits.passes at hseen hlimit ⊢
  by_cases hanonymous : visit.Anonymous codec peer window
  · -- A plain request moves the counter of its peer before it passes.
    obtain ⟨key, hcounted, hkey⟩ := counted_anonymous hanonymous (hplain hanonymous.1)
    rw [serve_of_some hcounted, hkey]
    simp only [List.countP_cons, hanonymous, decide_true, Bool.and_true, decide_eq_true_eq,
      Function.update_self]
    split <;> omega
  · obtain ⟨passed, hserved⟩ := serve_served codec s visit
    have hcounters := counters_le_serve codec s visit (peerKey peer window)
    rw [hserved]
    simp only [List.countP_cons, hanonymous, decide_false, Bool.and_false, Bool.false_eq_true,
      if_false, add_zero]
    omega

theorem plain_of_all {address : String}
    (h : (address.toList.all fun c => c ≠ ',' && !isBlank c) = true) :
    ∀ c ∈ address.toList, c ≠ ',' ∧ isBlank c = false := by
  intro c hc
  simpa using List.all_eq_true.mp h c hc

/-- The peer of the request, and the one it names. -/
def sender : Peer := { address := "203.0.113.9", plain := plain_of_all (by decide +kernel) }
def named : Peer := { address := "1.1.1.1", plain := plain_of_all (by decide +kernel) }

end Mpango.Gateway