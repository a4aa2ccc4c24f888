import Mpango.Model.JoinIntents

/-!
# Join intents bind until they expire

An issued intent is read back with its wholesaler and its code. The moment it names is the whole
second before its expiry (`verify_issued`), so that it is accepted exactly until it expires where
the expiry is a whole second. A text that verifies repeats the payload of an intent that was
issued, if nobody else can produce a tag that fits.
-/

namespace Mpango.Joining

variable {runtime : Runtime}

/-! ## The payload is read back -/

theorem ofUtf8_utf8 (s : String) : ofUtf8 (utf8 s) = some s := by
  unfold ofUtf8 utf8 String.fromUTF8?
  rw [dif_pos s.isValidUTF8]
  rfl

theorem b64decode_b64encode (raw : List UInt8) : b64decode (b64encode raw) = some raw := by
  rw [b64decode, b64encode, String.toList_ofList, Base64.decode_padded_unpadded]

theorem not_mem_b64encode (raw : List UInt8) : '.' ∉ (b64encode raw).toList := by
  rw [b64encode, String.toList_ofList]
  exact Base64.not_mem_unpadded raw

theorem plain_payload (i : Issue) : Json.Plain i.payload := by
  unfold Issue.payload
  rw [Json.Plain]
  exact ⟨by simp, by simp [Json.PlainFields, Json.Plain]⟩

theorem splitDot_append {front rest : String} (h : '.' ∉ front.toList) :
    splitDot (front ++ "." ++ rest) = some (front, rest) := by
  have hall : ∀ c ∈ front.toList, decide (c ≠ '.') = true := fun c hc =>
    decide_eq_true fun hdot => h (hdot ▸ hc)
  have hlist : (front ++ "." ++ rest).toList = front.toList ++ '.' :: rest.toList := by
    simp
  unfold splitDot partition
  rw [hlist, if_pos (by simp), List.takeWhile_append_of_pos hall,
    List.dropWhile_append_of_pos hall]
  simp

namespace Issue

theorem splitDot_intent {i : Issue} {intent : String} {expiresAt : Moment}
    (h : issueJoinIntent runtime i = some (intent, expiresAt)) :
    splitDot intent = some (i.payloadB64, b64encode (runtime.hmac i.payloadB64)) := by
  unfold issueJoinIntent at h
  split at h
  · obtain ⟨rfl, -⟩ := Prod.mk.inj (Option.some.inj h)
    exact splitDot_append (not_mem_b64encode _)
  · cases h

/-- What a payload that was issued says, if its tag fits. -/
theorem verify_payload {i : Issue} {s signature : String} (now : Moment)
    (hsplit : splitDot s = some (i.payloadB64, signature))
    (hsignature : b64decode signature = some (runtime.hmac i.payloadB64)) :
    verifyJoinIntent runtime s now =
      if inRange (i.exp * 1000000) ∧ now < i.exp * 1000000 then
        some ⟨i.wholesalerId, i.wholesalerCode, i.exp * 1000000⟩
      else none := by
  have hbytes : b64decode i.payloadB64 = some (utf8 (String.ofList (Json.dump .compact i.payload))) :=
    b64decode_b64encode _
  have hload : Json.load (Json.dump .compact i.payload) = some i.payload :=
    Json.load_dump Json.Separators.compact_valid (plain_payload i)
  unfold verifyJoinIntent
  simp only [hsplit, hbytes, hsignature, ofUtf8_utf8, String.toList_ofList, hload,
    Option.bind_eq_bind, Option.bind_some]
  have hstamp : fromTimestamp runtime (.int i.exp) =
      if inRange (i.exp * 1000000) then some (i.exp * 1000000) else none := rfl
  simp only [payload, Dict.get_cons, reduceCtorEq, String.reduceEq, if_true, if_false,
    Option.map_some, Option.getD_some, isOne, decide_true, Option.bind_some, hstamp, ne_eq,
    not_true_eq_false, uuidOf, Uuid.parse_text, strOf]
  by_cases hrange : inRange (i.exp * 1000000) = true
  · rw [if_pos hrange, Option.bind_some]
    by_cases hnow : now < i.exp * 1000000
    · rw [if_neg (not_le.mpr hnow), if_pos ⟨hrange, hnow⟩]
    · rw [if_pos (not_lt.mp hnow), if_neg fun h => hnow h.2]
  · rw [if_neg hrange, if_neg fun h => hrange h.1]
    rfl

/-! ## The moment of expiry -/

theorem dvd_expiresAt {i : Issue} : 1000000 ∣ i.expiresAt ↔ 1000000 ∣ i.issuedAt :=
  Int.dvd_add_left (Int.dvd_mul_left _ _)

/-- A whole second is signed as it is. -/
theorem exp_mul_eq {i : Issue} (hrange : inRange i.expiresAt = true)
    (h : 1000000 ∣ i.expiresAt) : i.exp * 1000000 = i.expiresAt := by
  obtain ⟨n, hn⟩ := h
  simp only [inRange, Bool.and_eq_true, decide_eq_true_eq] at hrange
  have hlow : (-62135596800000000 : ℤ) ≤ 1000000 * n := hn ▸ hrange.1
  have hhigh : 1000000 * n < (253402300800000000 : ℤ) := hn ▸ hrange.2
  have hsmall : n.natAbs < 2 ^ 53 := by omega
  have hquotient : (i.expiresAt : ℚ) / 1000000 = n := by
    rw [hn]
    push_cast
    rw [mul_comm, mul_div_assoc, div_self (by norm_num), mul_one]
  unfold exp
  rw [hquotient, Double.round_intCast hsmall, Double.truncate_intCast, hn, Int.mul_comm]

theorem issueJoinIntent_eq {i : Issue} {intent : String} {expiresAt : Moment}
    (h : issueJoinIntent runtime i = some (intent, expiresAt)) :
    inRange i.expiresAt = true ∧ expiresAt = i.expiresAt := by
  unfold issueJoinIntent at h
  split at h
  · next hrange => exact ⟨hrange, (Prod.mk.inj (Option.some.inj h)).2.symm⟩
  · cases h

/-- An issued intent is accepted until the second it names. -/
theorem verify_issued {i : Issue} {intent : String} {expiresAt : Moment}
    (h : issueJoinIntent runtime i = some (intent, expiresAt)) (now : Moment) :
    verifyJoinIntent runtime intent now =
      if inRange (i.exp * 1000000) ∧ now < i.exp * 1000000 then
        some ⟨i.wholesalerId, i.wholesalerCode, i.exp * 1000000⟩
      else none :=
  verify_payload now (splitDot_intent h) (b64decode_b64encode _)

end Issue

/-! ## What is promised -/

/-- The intent is accepted with its wholesaler and its code before the expiry that was returned
with it, and refused from then on. -/
def BindsUntilExpiry (runtime : Runtime) (i : Issue) : Prop :=
  ∀ intent expiresAt, issueJoinIntent runtime i = some (intent, expiresAt) →
    (∀ now < expiresAt, ∃ p, verifyJoinIntent runtime intent now = some p ∧
      p.wholesalerId = i.wholesalerId ∧ p.wholesalerCode = i.wholesalerCode) ∧
    ∀ now, expiresAt ≤ now → verifyJoinIntent runtime intent now = none

/-- Who presents a payload with the tag that fits it has the payload of an intent that was
issued. -/
def Unforgeable (runtime : Runtime) (issued : List Issue) (s : String) : Prop :=
  ∀ payload signature, splitDot s = some (payload, signature) →
    b64decode signature = some (runtime.hmac payload) →
      ∃ i ∈ issued, (issueJoinIntent runtime i).isSome ∧ i.payloadB64 = payload

/-- What is accepted is an intent that was issued, with the expiry that was returned. -/
def OnlyIssued (runtime : Runtime) (issued : List Issue) : Prop :=
  ∀ s now, Unforgeable runtime issued s → ∀ p, verifyJoinIntent runtime s now = some p →
    ∃ i ∈ issued, ∃ intent expiresAt, issueJoinIntent runtime i = some (intent, expiresAt) ∧
      p = ⟨i.wholesalerId, i.wholesalerCode, expiresAt⟩ ∧
      (splitDot s).map Prod.fst = (splitDot intent).map Prod.fst

/-- Nothing is accepted without a tag that fits the payload. -/
theorem tag_of_verify {s : String} {now : Moment} {p : JoinIntentPayload}
    (h : verifyJoinIntent runtime s now = some p) : ∃ payload signature,
      splitDot s = some (payload, signature) ∧
      b64decode signature = some (runtime.hmac payload) := by
  unfold verifyJoinIntent at h
  obtain ⟨⟨payload, signature⟩, hsplit, h⟩ := Option.bind_eq_some_iff.mp h
  obtain ⟨bytes, -, h⟩ := Option.bind_eq_some_iff.mp h
  obtain ⟨tag, htag, h⟩ := Option.bind_eq_some_iff.mp h
  obtain ⟨text, -, h⟩ := Option.bind_eq_some_iff.mp h
  obtain ⟨json, -, h⟩ := Option.bind_eq_some_iff.mp h
  refine ⟨payload, signature, hsplit, ?_⟩
  split at h
  · split at h
    · cases h
    · split at h
      · cases h
      · next hequal => rw [htag, not_not.mp hequal]
  · cases h

theorem bindsUntilExpiry_iff {i : Issue} :
    BindsUntilExpiry runtime i ↔ (inRange i.expiresAt = true → 1000000 ∣ i.issuedAt) := by
  constructor
  · intro h hrange
    have hissue : issueJoinIntent runtime i = some (_, i.expiresAt) := if_pos hrange
    obtain ⟨haccept, hrefuse⟩ := h _ _ hissue
    -- just before the expiry the intent is accepted, at the expiry it is not
    obtain ⟨p, hp, -⟩ := haccept (i.expiresAt - 1) (Int.sub_one_lt_iff.mpr le_rfl)
    have hnone := hrefuse i.expiresAt le_rfl
    rw [Issue.verify_issued hissue] at hp hnone
    split at hp
    · next hbefore =>
      have hle : ¬i.expiresAt < i.exp * 1000000 := fun hlt => by
        rw [if_pos ⟨hbefore.1, hlt⟩] at hnone
        cases hnone
      have hexp : i.exp * 1000000 = i.expiresAt :=
        le_antisymm (not_lt.mp hle) (Int.sub_one_lt_iff.mp hbefore.2)
      exact Issue.dvd_expiresAt.mp (hexp ▸ Int.dvd_mul_left _ _)
    · cases hp
  · intro h intent expiresAt hissue
    obtain ⟨hrange, rfl⟩ := Issue.issueJoinIntent_eq hissue
    have hexp := Issue.exp_mul_eq hrange (Issue.dvd_expiresAt.mpr (h hrange))
    constructor
    · intro now hnow
      refine ⟨⟨i.wholesalerId, i.wholesalerCode, i.expiresAt⟩, ?_, rfl, rfl⟩
      rw [Issue.verify_issued hissue, hexp, if_pos ⟨hrange, hnow⟩]
    · intro now hnow
      rw [Issue.verify_issued hissue, hexp, if_neg fun h => not_lt.mpr hnow h.2]

/-- Where every expiry is a whole second, what is accepted was issued. -/
theorem onlyIssued_of_dvd {issued : List Issue}
    (h : ∀ i ∈ issued, inRange i.expiresAt = true → 1000000 ∣ i.issuedAt) :
    OnlyIssued runtime issued := by
  intro s now hunforgeable p hp
  obtain ⟨payload, signature, hsplit, htag⟩ := tag_of_verify hp
  obtain ⟨i, hi, hissued, rfl⟩ := hunforgeable payload signature hsplit htag
  obtain ⟨⟨intent, expiresAt⟩, hissue⟩ := Option.isSome_iff_exists.mp hissued
  obtain ⟨hrange, rfl⟩ := Issue.issueJoinIntent_eq hissue
  have hexp := Issue.exp_mul_eq hrange (Issue.dvd_expiresAt.mpr (h i hi hrange))
  refine ⟨i, hi, intent, _, hissue, ?_, ?_⟩
  · rw [Issue.verify_payload now hsplit htag, hexp] at hp
    split at hp
    · exact (Option.some.inj hp).symm
    · cases hp
  · rw [hsplit, Issue.splitDot_intent hissue]
    rfl

/-- Intents bind until they expire, and only what was issued is accepted, exactly if every intent
was issued at a whole second. -/
theorem joinIntents_iff (runtime : Runtime) (issued : List Issue) :
    ((∀ i ∈ issued, BindsUntilExpiry runtime i) ∧ OnlyIssued runtime issued) ↔
      ∀ i ∈ issued, inRange i.expiresAt = true → 1000000 ∣ i.issuedAt := by
  constructor
  · rintro ⟨hbinds, -⟩ i hi
    exact bindsUntilExpiry_iff.mp (hbinds i hi)
  · intro h
    exact ⟨fun i hi => bindsUntilExpiry_iff.mpr (h i hi), onlyIssued_of_dvd h⟩

/-- An intent issued half a second after a whole one is refused half a second too early, whatever
the keyed hash. -/
theorem joinIntents_early : ¬∃ runtime : Runtime, ∀ issued : List Issue,
    (∀ i ∈ issued, BindsUntilExpiry runtime i) ∧ OnlyIssued runtime issued := by
  rintro ⟨runtime, h⟩
  let i : Issue :=
    { wholesalerId := 7, wholesalerCode := "R1WS99", issuedAt := 1767225600500000, jti := "abc" }
  have hdvd := bindsUntilExpiry_iff.mp ((h [i]).1 i List.mem_cons_self) (by decide)
  exact absurd hdvd (by decide)

end Mpango.Joining
