import Mpango.Model.BatchRunner

/-!
# Batch verdicts

A batch report keeps the order and the number of its missions, and a batch stops where it should,
whatever the attempts come to. That a batch in execute mode has really run what it reports as
passed is a matter of the reports it resumes from: `batches_honest_iff` says which chains of
batches are safe from a rehearsal that is carried over as if it had been a run.
-/

namespace Mpango

namespace BatchRunner

open Worktree (normalizePath normalizePath_normalizePath)

variable {plan : Plan} {resumeDone : Dict String Verdict} {outcome : ℕ → ℕ → Attempt} {idx : ℕ}
  {mission : String} {missions rest : List String} {mode : Mode} {runs own : List Run} {r : Run}

/-! ## One mission -/

theorem runMission_ok {attempt : Attempt} {res : MissionResult}
    (h : runMission mission mode attempt = .ok res) :
    res.mission = normalizePath mission ∧ (res.verdict = .passed ∨ res.verdict = .failed) := by
  cases attempt with
  | raised error => cases h
  | read issues failures report executed =>
    simp only [runMission] at h
    split at h
    · cases h
      exact ⟨rfl, .inr rfl⟩
    · split at h
      · cases h
        exact ⟨rfl, .inr rfl⟩
      · split at h
        · cases h
          exact ⟨rfl, .inl rfl⟩
        · cases h
        · cases h
          exact ⟨rfl, .inl rfl⟩
        · cases h
          exact ⟨rfl, .inr rfl⟩

/-- In execute mode nothing but the executor makes an attempt pass. -/
theorem Run.Passed.executorPassed (h : r.Passed) (hmode : r.mode = .execute) :
    r.ExecutorPassed := by
  obtain ⟨res, hres, hpassed⟩ := h
  refine ⟨hmode, ?_⟩
  rw [hmode] at hres
  cases hattempt : r.attempt with
  | raised error =>
    rw [hattempt] at hres
    cases hres
  | read issues failures report executed =>
    simp only [hattempt, runMission] at hres
    split at hres
    · cases hres
      cases hpassed
    · next hissues =>
      split at hres
      · cases hres
        cases hpassed
      · next hfailures =>
        rw [not_not.mp hissues, not_not.mp hfailures]
        cases executed with
        | raised error => cases hres
        | returned verdict changedFiles failure =>
          cases verdict with
          | passed => exact ⟨report, changedFiles, failure, rfl⟩
          | failed =>
            cases hres
            cases hpassed

/-- None of the attempts at this mission passed. -/
def Run.Failed (runs : List Run) (r : Run) : Prop :=
  ∀ r' ∈ runs, r'.position = r.position → ¬r'.Passed

/-- The attempts at one mission. -/
structure Tried (position : ℕ) (mission : String) (mode : Mode) (outcome : ℕ → Attempt)
    (runs : List Run) (answer : Except String MissionResult) : Prop where
  run : ∀ r ∈ runs, r.position = position ∧ r.mission = mission ∧ r.mode = mode ∧
    ∃ attempts, r.attempt = outcome attempts
  ran : runs ≠ []
  mission : ∀ res, answer = .ok res → res.mission = normalizePath mission
  success : ∀ res, answer = .ok res → res.verdict.success = true → ∃ r ∈ runs, r.Passed
  failure : ∀ res, answer = .ok res → res.verdict.success = false →
    res.verdict = .failed ∧ ∀ r ∈ runs, ¬r.Passed
  raised : ∀ error, answer = .error error → ∃ r ∈ runs, ¬r.Passed

theorem Tried.of_raised {position attempts : ℕ} {outcome : ℕ → Attempt} {error : String}
    (h : runMission mission mode (outcome attempts) = .error error) :
    Tried position mission mode outcome [⟨position, mission, mode, outcome attempts⟩]
      (.error error) where
  run := by
    intro r hr
    rw [List.mem_singleton.mp hr]
    exact ⟨rfl, rfl, rfl, attempts, rfl⟩
  ran := List.cons_ne_nil _ _
  mission := by
    intro res hres
    cases hres
  success := by
    intro res hres
    cases hres
  failure := by
    intro res hres
    cases hres
  raised := by
    intro error' _
    refine ⟨_, List.mem_singleton_self _, ?_⟩
    rintro ⟨res, hres, hpassed⟩
    cases h.symm.trans hres

/-- The last attempt decides. -/
theorem Tried.of_ok {position attempts : ℕ} {outcome : ℕ → Attempt} {res last : MissionResult}
    (h : runMission mission mode (outcome attempts) = .ok last)
    (hmission : res.mission = last.mission)
    (hverdict : if last.verdict = .passed then res.verdict.success = true
      else res.verdict = last.verdict) :
    Tried position mission mode outcome [⟨position, mission, mode, outcome attempts⟩]
      (.ok res) where
  run := by
    intro r hr
    rw [List.mem_singleton.mp hr]
    exact ⟨rfl, rfl, rfl, attempts, rfl⟩
  ran := List.cons_ne_nil _ _
  mission := by
    intro res' hres
    cases hres
    rw [hmission, (runMission_ok h).1]
  success := by
    intro res' hres hsuccess
    cases hres
    refine ⟨_, List.mem_singleton_self _, last, h, ?_⟩
    rcases (runMission_ok h).2 with hpassed | hfailed
    · exact hpassed
    · rw [if_neg (by simp [hfailed]), hfailed] at hverdict
      rw [hverdict] at hsuccess
      cases hsuccess
  failure := by
    intro res' hres hfailure
    cases hres
    rcases (runMission_ok h).2 with hpassed | hfailed
    · rw [if_pos hpassed, hfailure] at hverdict
      cases hverdict
    · rw [if_neg (by simp [hfailed]), hfailed] at hverdict
      refine ⟨hverdict, ?_⟩
      intro r hr
      rw [List.mem_singleton.mp hr]
      rintro ⟨res', hres', hpassed⟩
      cases h.symm.trans hres'
      rw [hfailed] at hpassed
      cases hpassed
  raised := by
    intro error herror
    cases herror

/-- An attempt that did not pass, before others. -/
theorem Tried.cons {position attempts : ℕ} {outcome : ℕ → Attempt} {res : MissionResult}
    {answer : Except String MissionResult}
    (h : runMission mission mode (outcome attempts) = .ok res) (hnot : res.verdict ≠ .passed)
    (htried : Tried position mission mode outcome runs answer) :
    Tried position mission mode outcome (⟨position, mission, mode, outcome attempts⟩ :: runs)
      answer where
  run := by
    intro r hr
    rcases List.mem_cons.mp hr with rfl | hr
    · exact ⟨rfl, rfl, rfl, attempts, rfl⟩
    · exact htried.run r hr
  ran := List.cons_ne_nil _ _
  mission := htried.mission
  success := by
    intro res' hres hsuccess
    obtain ⟨r, hr, hpassed⟩ := htried.success res' hres hsuccess
    exact ⟨r, List.mem_cons_of_mem _ hr, hpassed⟩
  failure := by
    intro res' hres hfailure
    obtain ⟨hverdict, hall⟩ := htried.failure res' hres hfailure
    refine ⟨hverdict, ?_⟩
    intro r hr
    rcases List.mem_cons.mp hr with rfl | hr
    · rintro ⟨res'', hres'', hpassed⟩
      cases h.symm.trans hres''
      exact hnot hpassed
    · exact hall r hr
  raised := by
    intro error herror
    obtain ⟨r, hr, hraised⟩ := htried.raised error herror
    exact ⟨r, List.mem_cons_of_mem _ hr, hraised⟩

theorem runMissionWithRetries_tried (position : ℕ) (mission : String) (mode : Mode)
    (maxRetries : ℤ) (outcome : ℕ → Attempt) (attempts : ℕ) :
    Tried position mission mode outcome
      (runMissionWithRetries position mission mode maxRetries outcome attempts).1
      (runMissionWithRetries position mission mode maxRetries outcome attempts).2 := by
  fun_induction runMissionWithRetries position mission mode maxRetries outcome attempts with
  | case1 attempts run error hrun => exact Tried.of_raised hrun
  | case2 attempts run last hrun res hpassed =>
    refine Tried.of_ok hrun (by rfl) ?_
    rw [if_pos hpassed]
    show (if 0 < attempts then Verdict.retried else .passed).success = true
    split
    · rfl
    · rfl
  | case3 attempts run last hrun res hnot hlast =>
    refine Tried.of_ok hrun (by rfl) ?_
    rw [if_neg hnot]
  | case4 attempts run last hrun res hnot hmore runs answer hrest ih =>
    rw [hrest] at ih
    exact ih.cons hrun hnot

/-! ## The loop over the missions -/

/-- The attempts of the loop from `idx` on. -/
structure Attempted (plan : Plan) (resumeDone : Dict String Verdict)
    (outcome : ℕ → ℕ → Attempt) (idx : ℕ) (missions : List String) (runs : List Run) : Prop where
  mode : ∀ r ∈ runs, r.mode = plan.mode
  attempt : ∀ r ∈ runs, ∃ attempts, r.attempt = outcome r.position attempts
  notDone : ∀ r ∈ runs, resumeDone.get (normalizePath r.mission) = none
  position : ∀ r ∈ runs, idx ≤ r.position
  stopped : plan.continueOnFailure = false → ∀ r ∈ runs, r.Failed runs →
    ∀ r' ∈ runs, r'.position ≤ r.position

theorem Attempted.nil : Attempted plan resumeDone outcome idx missions [] := by
  constructor <;> simp

theorem Attempted.skip (h : Attempted plan resumeDone outcome (idx + 1) rest runs) :
    Attempted plan resumeDone outcome idx (mission :: rest) runs :=
  ⟨h.mode, h.attempt, h.notDone, fun r hr => Nat.le_of_succ_le (h.position r hr), h.stopped⟩

/-- The attempts at one mission only. -/
theorem Attempted.of_tried {answer : Except String MissionResult}
    (hnone : resumeDone.get (normalizePath mission) = none)
    (h : Tried idx mission plan.mode (outcome idx) own answer) :
    Attempted plan resumeDone outcome idx (mission :: rest) own where
  mode r hr := (h.run r hr).2.2.1
  attempt r hr := by
    rw [(h.run r hr).1]
    exact (h.run r hr).2.2.2
  notDone r hr := by
    rw [(h.run r hr).2.1]
    exact hnone
  position r hr := Nat.le_of_eq (h.run r hr).1.symm
  stopped _ r hr _ r' hr' := by
    exact Nat.le_of_eq ((h.run r' hr').1.trans (h.run r hr).1.symm)

/-- The attempts at one mission and those that follow, where the batch may go on. -/
theorem Attempted.append {answer : Except String MissionResult}
    (hnone : resumeDone.get (normalizePath mission) = none)
    (hown : Tried idx mission plan.mode (outcome idx) own answer)
    (hon : plan.continueOnFailure = false → ∃ r ∈ own, r.Passed)
    (h : Attempted plan resumeDone outcome (idx + 1) rest runs) :
    Attempted plan resumeDone outcome idx (mission :: rest) (own ++ runs) := by
  have hfirst : Attempted plan resumeDone outcome idx (mission :: rest) own :=
    .of_tried hnone hown
  have hlater : Attempted plan resumeDone outcome idx (mission :: rest) runs := h.skip
  refine ⟨?_, ?_, ?_, ?_, ?_⟩
  · exact fun r hr => (List.mem_append.mp hr).elim (hfirst.mode r) (hlater.mode r)
  · exact fun r hr => (List.mem_append.mp hr).elim (hfirst.attempt r) (hlater.attempt r)
  · exact fun r hr => (List.mem_append.mp hr).elim (hfirst.notDone r) (hlater.notDone r)
  · exact fun r hr => (List.mem_append.mp hr).elim (hfirst.position r) (hlater.position r)
  · intro hstop r hr hfailed r' hr'
    rcases List.mem_append.mp hr with hr | hr
    · obtain ⟨passing, hmem, hpassed⟩ := hon hstop
      refine absurd hpassed (hfailed passing (List.mem_append_left _ hmem) ?_)
      rw [(hown.run passing hmem).1, (hown.run r hr).1]
    · rcases List.mem_append.mp hr' with hr' | hr'
      · rw [(hown.run r' hr').1]
        exact Nat.le_of_succ_le (h.position r hr)
      · exact h.stopped hstop r hr (fun s hs => hfailed s (List.mem_append_right _ hs)) r' hr'

theorem runMissions_attempted (plan : Plan) (resumeDone : Dict String Verdict)
    (outcome : ℕ → ℕ → Attempt) (idx : ℕ) (missions : List String) :
    Attempted plan resumeDone outcome idx missions
      (runMissions plan resumeDone outcome idx missions).1 := by
  fun_induction runMissions plan resumeDone outcome idx missions with
  | case1 idx => exact .nil
  | case2 idx mission rest verdict hdone runs answer hrest ih =>
    rw [hrest] at ih
    exact ih.skip
  | case3 idx mission rest hnone own error hown =>
    have htried := runMissionWithRetries_tried idx mission plan.mode plan.maxRetries (outcome idx) 0
    rw [hown] at htried
    exact .of_tried hnone htried
  | case4 idx mission rest hnone own res hown hsuccess runs answer hrest ih =>
    have htried := runMissionWithRetries_tried idx mission plan.mode plan.maxRetries (outcome idx) 0
    rw [hown] at htried
    rw [hrest] at ih
    exact ih.append hnone htried fun _ => htried.success res rfl hsuccess
  | case5 idx mission rest hnone own res hown hfailed hcontinue runs answer hrest ih =>
    have htried := runMissionWithRetries_tried idx mission plan.mode plan.maxRetries (outcome idx) 0
    rw [hown] at htried
    rw [hrest] at ih
    refine ih.append hnone htried fun hstop => ?_
    rw [hstop] at hcontinue
    cases hcontinue
  | case6 idx mission rest hnone own res hown hfailed hstop =>
    have htried := runMissionWithRetries_tried idx mission plan.mode plan.maxRetries (outcome idx) 0
    rw [hown] at htried
    exact .of_tried hnone htried

/-- What the loop has come to, after these attempts. -/
structure Answered (resumeDone : Dict String Verdict) (missions : List String) (runs : List Run)
    (loop : Loop) : Prop where
  missions : loop.results.map (·.mission) = missions.map normalizePath
  aggregate : loop.aggregate = .failed ↔ ∃ res ∈ loop.results, res.verdict = .failed
  success : ∀ res ∈ loop.results, res.verdict.success = true →
    (resumeDone.get res.mission).isSome = true ∨
      ∃ r ∈ runs, normalizePath r.mission = res.mission ∧ r.Passed
  failure : ∀ res ∈ loop.results, res.verdict.success = false → ∃ r ∈ runs, ¬r.Passed
  passed : loop.aggregate = .passed → ∀ res ∈ loop.results, res.verdict.success = true

theorem Answered.nil : Answered resumeDone [] [] ⟨[], .passed, false⟩ := by
  constructor <;> simp

theorem Answered.resumed {loop : Loop} {verdict : Verdict}
    (hdone : resumeDone.get (normalizePath mission) = some verdict)
    (hsuccess : verdict.success = true) (h : Answered resumeDone rest runs loop) :
    Answered resumeDone (mission :: rest) runs
      { loop with results := resumedResult mission mode verdict :: loop.results } where
  missions := by
    rw [List.map_cons, List.map_cons, h.missions]
    rfl
  aggregate := by
    have hnot : (resumedResult mission mode verdict).verdict ≠ .failed := by
      rintro rfl
      cases hsuccess
    rw [List.exists_mem_cons_iff, or_iff_right hnot]
    exact h.aggregate
  success := by
    intro res hres hsuccess
    rcases List.mem_cons.mp hres with rfl | hres
    · left
      show (resumeDone.get (normalizePath mission)).isSome = true
      rw [hdone]
      rfl
    · exact h.success res hres hsuccess
  failure := by
    intro res hres hfailure
    rcases List.mem_cons.mp hres with rfl | hres
    · rw [show (resumedResult mission mode verdict).verdict = verdict from rfl, hsuccess]
        at hfailure
      cases hfailure
    · exact h.failure res hres hfailure
  passed := by
    intro hpassed res hres
    rcases List.mem_cons.mp hres with rfl | hres
    · exact hsuccess
    · exact h.passed hpassed res hres

/-- The result of the attempts at one mission, before what follows. -/
theorem Answered.cons {position : ℕ} {attempts : ℕ → Attempt} {res : MissionResult} {loop : Loop}
    {aggregate : BatchVerdict}
    (hown : Tried position mission mode attempts own (.ok res))
    (h : Answered resumeDone rest runs loop)
    (haggregate : aggregate = if res.verdict.success then loop.aggregate else .failed) :
    Answered resumeDone (mission :: rest) (own ++ runs)
      { loop with results := res :: loop.results, aggregate } where
  missions := by
    rw [List.map_cons, List.map_cons, h.missions, hown.mission res rfl]
  aggregate := by
    rw [List.exists_mem_cons_iff]
    cases hsuccess : res.verdict.success with
    | false =>
      rw [hsuccess] at haggregate
      simp [haggregate, (hown.failure res rfl hsuccess).1]
    | true =>
      have hnot : res.verdict ≠ .failed := by
        intro hfailed
        rw [hfailed] at hsuccess
        cases hsuccess
      rw [or_iff_right hnot]
      simp [haggregate, hsuccess, h.aggregate]
  success := by
    intro res' hres hsuccess
    rcases List.mem_cons.mp hres with rfl | hres
    · obtain ⟨r, hr, hpassed⟩ := hown.success _ rfl hsuccess
      refine .inr ⟨r, List.mem_append_left _ hr, ?_, hpassed⟩
      rw [(hown.run r hr).2.1, hown.mission _ rfl]
    · rcases h.success res' hres hsuccess with hdone | ⟨r, hr, hpassed⟩
      · exact .inl hdone
      · exact .inr ⟨r, List.mem_append_right _ hr, hpassed⟩
  failure := by
    intro res' hres hfailure
    rcases List.mem_cons.mp hres with rfl | hres
    · obtain ⟨r, hr⟩ := List.exists_mem_of_ne_nil own hown.ran
      exact ⟨r, List.mem_append_left _ hr, (hown.failure _ rfl hfailure).2 r hr⟩
    · obtain ⟨r, hr, hnot⟩ := h.failure res' hres hfailure
      exact ⟨r, List.mem_append_right _ hr, hnot⟩
  passed := by
    intro hpassed res' hres
    change aggregate = .passed at hpassed
    rw [haggregate] at hpassed
    split at hpassed
    · next hsuccess =>
      rcases List.mem_cons.mp hres with rfl | hres
      · exact hsuccess
      · exact h.passed hpassed res' hres
    · cases hpassed

/-- A mission failed, and the batch stopped. -/
theorem Answered.stopped {position : ℕ} {attempts : ℕ → Attempt} {res : MissionResult}
    (hown : Tried position mission mode attempts own (.ok res))
    (hfailed : res.verdict.success = false) (rest : List String) :
    Answered resumeDone (mission :: rest) own
      ⟨res :: rest.map (skippedResult · mode), .failed, true⟩ where
  missions := by
    rw [List.map_cons, List.map_cons, List.map_map, hown.mission res rfl]
    rfl
  aggregate := by simp [(hown.failure res rfl hfailed).1]
  success := by
    intro res' hres hsuccess
    rcases List.mem_cons.mp hres with rfl | hres
    · rw [hfailed] at hsuccess
      cases hsuccess
    · obtain ⟨skipped, -, rfl⟩ := List.mem_map.mp hres
      cases hsuccess
  failure := by
    intro _ _ _
    obtain ⟨r, hr⟩ := List.exists_mem_of_ne_nil own hown.ran
    exact ⟨r, hr, (hown.failure res rfl hfailed).2 r hr⟩
  passed := by
    intro hpassed
    cases hpassed

theorem runMissions_answered (plan : Plan) {resumeDone : Dict String Verdict}
    (hdone : ∀ m verdict, resumeDone.get m = some verdict → verdict.success = true)
    (outcome : ℕ → ℕ → Attempt) (idx : ℕ) (missions : List String) {loop : Loop}
    (h : (runMissions plan resumeDone outcome idx missions).2 = .ok loop) :
    Answered resumeDone missions (runMissions plan resumeDone outcome idx missions).1 loop := by
  fun_induction runMissions plan resumeDone outcome idx missions generalizing loop with
  | case1 idx =>
    cases h
    exact .nil
  | case2 idx mission rest verdict hcarried runs answer hrest ih =>
    rw [hrest] at ih
    cases answer with
    | error error => cases h
    | ok loop =>
      cases h
      exact (ih rfl).resumed hcarried (hdone _ _ hcarried)
  | case3 idx mission rest hnone own error hown => cases h
  | case4 idx mission rest hnone own res hown hsuccess runs answer hrest ih =>
    have htried := runMissionWithRetries_tried idx mission plan.mode plan.maxRetries (outcome idx) 0
    rw [hown] at htried
    rw [hrest] at ih
    cases answer with
    | error error => cases h
    | ok loop =>
      cases h
      exact .cons htried (ih rfl) (by rw [if_pos hsuccess])
  | case5 idx mission rest hnone own res hown hfailed hcontinue runs answer hrest ih =>
    have htried := runMissionWithRetries_tried idx mission plan.mode plan.maxRetries (outcome idx) 0
    rw [hown] at htried
    rw [hrest] at ih
    cases answer with
    | error error => cases h
    | ok loop =>
      cases h
      exact .cons htried (ih rfl) (by rw [if_neg hfailed])
  | case6 idx mission rest hnone own res hown hfailed hstop =>
    have htried := runMissionWithRetries_tried idx mission plan.mode plan.maxRetries (outcome idx) 0
    rw [hown] at htried
    cases h
    exact .stopped htried (by simpa using hfailed) rest

theorem runMissions_raised (plan : Plan) (resumeDone : Dict String Verdict)
    (outcome : ℕ → ℕ → Attempt) (idx : ℕ) (missions : List String) {error : String}
    (h : (runMissions plan resumeDone outcome idx missions).2 = .error error) :
    ∃ r ∈ (runMissions plan resumeDone outcome idx missions).1, ¬r.Passed := by
  fun_induction runMissions plan resumeDone outcome idx missions with
  | case1 idx => cases h
  | case2 idx mission rest verdict hcarried runs answer hrest ih =>
    rw [hrest] at ih
    cases answer with
    | error error' => exact ih (by cases h; rfl)
    | ok loop => cases h
  | case3 idx mission rest hnone own error' hown =>
    have htried := runMissionWithRetries_tried idx mission plan.mode plan.maxRetries (outcome idx) 0
    rw [hown] at htried
    exact htried.raised error' rfl
  | case4 idx mission rest hnone own res hown hsuccess runs answer hrest ih =>
    rw [hrest] at ih
    cases answer with
    | error error' =>
      obtain ⟨r, hr, hnot⟩ := ih (by cases h; rfl)
      exact ⟨r, List.mem_append_right _ hr, hnot⟩
    | ok loop => cases h
  | case5 idx mission rest hnone own res hown hfailed hcontinue runs answer hrest ih =>
    rw [hrest] at ih
    cases answer with
    | error error' =>
      obtain ⟨r, hr, hnot⟩ := ih (by cases h; rfl)
      exact ⟨r, List.mem_append_right _ hr, hnot⟩
    | ok loop => cases h
  | case6 idx mission rest hnone own res hown hfailed hstop => cases h

/-! ## The batch -/

theorem loadResumeState_success {prior : Option Payload} {m : String} {verdict : Verdict}
    (h : (loadResumeState prior).get m = some verdict) :
    ∃ data, prior = some data ∧ ∃ entry ∈ data.missions,
      normalizePath entry.mission = m ∧ entry.verdict = verdict ∧ verdict.success = true := by
  cases prior with
  | none => cases h
  | some data =>
    unfold loadResumeState at h
    rw [Dict.get_ofPairs] at h
    have hmem := Dict.mem_of_get h
    rw [List.mem_reverse] at hmem
    obtain ⟨entry, hentry, heq⟩ := List.mem_map.mp hmem
    obtain ⟨rfl, rfl⟩ := Prod.mk.inj heq
    obtain ⟨hentry, hsuccess⟩ := List.mem_filter.mp hentry
    exact ⟨data, rfl, entry, hentry, rfl, rfl, hsuccess⟩

theorem loadResumeState_isSome {data : Payload} {entry : Entry} (hentry : entry ∈ data.missions)
    (hsuccess : entry.verdict.success = true) :
    ((loadResumeState (some data)).get (normalizePath entry.mission)).isSome = true := by
  rw [Option.isSome_iff_ne_none]
  unfold loadResumeState
  rw [Ne, Dict.get_ofPairs_eq_none, not_not, List.map_map]
  exact List.mem_map.mpr ⟨entry, List.mem_filter.mpr ⟨hentry, hsuccess⟩, rfl⟩

/-- The entries of a report are the results of its loop. -/
theorem mem_buildBatchPayload {loop : Loop} {res : MissionResult} :
    (∃ entry ∈ (buildBatchPayload plan loop).missions, entry.toMissionResult = res) ↔
      res ∈ loop.results := by
  unfold buildBatchPayload
  simp only [List.mem_map]
  constructor
  · rintro ⟨entry, ⟨⟨res', order⟩, hmem, rfl⟩, rfl⟩
    exact (List.mem_zipIdx' hmem).2 ▸ List.getElem_mem _
  · intro hres
    obtain ⟨order, hlt, hget⟩ := List.mem_iff_getElem.mp hres
    refine ⟨_, ⟨(res, order), ?_, rfl⟩, rfl⟩
    rw [List.mk_mem_zipIdx_iff_getElem?, List.getElem?_eq_getElem hlt, hget]

variable {prior : Option Payload} {happening : Happening} {payload : Payload}

theorem runBatch_runs (plan : Plan) (prior : Option Payload) (happening : Happening) :
    (runBatch plan prior happening).runs =
      (runMissions plan (loadResumeState prior) happening.outcome 0 plan.manifest.missions).1 := by
  unfold runBatch
  split
  · next heq => rw [heq]
  · next heq =>
    rw [heq]
    dsimp only
    split <;> rfl

theorem runBatch_answered {verdict : BatchVerdict}
    (h : (runBatch plan prior happening).answer = .ok (verdict, payload)) :
    ∃ loop, verdict = loop.aggregate ∧ payload = buildBatchPayload plan loop ∧
      Answered (loadResumeState prior) plan.manifest.missions
        (runBatch plan prior happening).runs loop := by
  rw [runBatch_runs]
  have hdone : ∀ m verdict, (loadResumeState prior).get m = some verdict →
      verdict.success = true := by
    intro m verdict hverdict
    obtain ⟨-, -, -, -, -, -, hsuccess⟩ := loadResumeState_success hverdict
    exact hsuccess
  have hanswered (loop : Loop) (hloop : (runMissions plan (loadResumeState prior)
      happening.outcome 0 plan.manifest.missions).2 = .ok loop) :=
    runMissions_answered plan hdone happening.outcome 0 plan.manifest.missions hloop
  unfold runBatch at h
  split at h
  · cases h
  · next runs loop heq =>
    refine ⟨loop, ?_, ?_, hanswered loop (by rw [heq])⟩
    · dsimp only at h
      split at h
      · cases h; rfl
      · cases h; rfl
      · cases h
    · dsimp only at h
      split at h
      · cases h; rfl
      · cases h; rfl
      · cases h

theorem runBatch_filed (h : (runBatch plan prior happening).filed = some payload) :
    ∃ verdict, (runBatch plan prior happening).answer = .ok (verdict, payload) := by
  unfold runBatch at h ⊢
  split at h
  · cases h
  · next runs loop heq =>
    dsimp only at h ⊢
    split at h
    · cases h
      exact ⟨_, rfl⟩
    · cases h
    · cases h

/-! ## Honest batches -/

/-- What a batch promises. -/
structure Honest (world : World) (plan : Plan) (older : Chain) : Prop where
  /-- What passes in execute mode has been executed, here or in a batch it was resumed from. -/
  executed : ∀ payload, (latest world plan older).answer = .ok (.passed, payload) →
    plan.mode = .execute → ∀ m ∈ plan.manifest.missions,
      ∃ r ∈ Chain.runs world (plan :: older),
        normalizePath r.mission = normalizePath m ∧ r.ExecutorPassed
  /-- Every mission is reported once, in its order. -/
  ordered : ∀ verdict payload, (latest world plan older).answer = .ok (verdict, payload) →
    payload.missions.map (fun entry => (entry.mission, entry.order)) =
      (plan.manifest.missions.map normalizePath).zipIdx
  counted : ∀ verdict payload, (latest world plan older).answer = .ok (verdict, payload) →
    payload.passed + payload.retried + payload.failed + payload.skipped =
      plan.manifest.missions.length
  aggregate : ∀ verdict payload, (latest world plan older).answer = .ok (verdict, payload) →
    payload.aggregateVerdict = verdict ∧
      (verdict = .failed ↔ ∃ entry ∈ payload.missions, entry.verdict = .failed)
  /-- After a mission none of whose attempts passed, no other is attempted. -/
  stopped : plan.continueOnFailure = false → ∀ r ∈ (latest world plan older).runs,
    r.Failed (latest world plan older).runs →
      ∀ r' ∈ (latest world plan older).runs, r'.position ≤ r.position

theorem sum_countP (results : List MissionResult) :
    results.countP (·.verdict = .passed) + results.countP (·.verdict = .retried) +
      results.countP (·.verdict = .failed) + results.countP (·.verdict = .skipped) =
      results.length := by
  induction results with
  | nil => rfl
  | cons res results ih =>
    simp only [List.countP_cons, List.length_cons]
    rw [← ih]
    cases hverdict : res.verdict <;> simp <;> omega

theorem Answered.length {loop : Loop} (h : Answered resumeDone missions runs loop) :
    loop.results.length = missions.length := by
  have hlength := congrArg List.length h.missions
  rwa [List.length_map, List.length_map] at hlength

/-- All but the first promise is kept whatever is resumed. -/
theorem honest_iff_executed (world : World) (plan : Plan) (older : Chain) :
    Honest world plan older ↔ ∀ payload, (latest world plan older).answer = .ok (.passed, payload) →
      plan.mode = .execute → ∀ m ∈ plan.manifest.missions,
        ∃ r ∈ Chain.runs world (plan :: older),
          normalizePath r.mission = normalizePath m ∧ r.ExecutorPassed := by
  refine ⟨Honest.executed, fun hexecuted => ⟨hexecuted, ?_, ?_, ?_, ?_⟩⟩
  · intro verdict payload hanswer
    obtain ⟨loop, rfl, rfl, hloop⟩ := runBatch_answered hanswer
    unfold buildBatchPayload
    rw [List.map_map, ← hloop.missions, List.zipIdx_map]
    rfl
  · intro verdict payload hanswer
    obtain ⟨loop, rfl, rfl, hloop⟩ := runBatch_answered hanswer
    rw [← hloop.length]
    exact sum_countP loop.results
  · intro verdict payload hanswer
    obtain ⟨loop, rfl, rfl, hloop⟩ := runBatch_answered hanswer
    refine ⟨rfl, hloop.aggregate.trans ?_⟩
    constructor
    · rintro ⟨res, hres, hfailed⟩
      obtain ⟨entry, hentry, rfl⟩ := mem_buildBatchPayload.mpr hres
      exact ⟨entry, hentry, hfailed⟩
    · rintro ⟨entry, hentry, hfailed⟩
      exact ⟨_, mem_buildBatchPayload.mp ⟨entry, hentry, rfl⟩, hfailed⟩
  · unfold latest
    rw [runBatch_runs]
    exact (runMissions_attempted plan _ _ 0 _).stopped

/-! ## Chains -/

/-- No batch in execute mode takes over a mission that its prior report had only rehearsed. -/
def Genuine (chain : Chain) : Prop :=
  ∀ plan prior older, plan :: prior :: older <:+ chain → plan.mode = .execute →
    prior.mode = .dryRun → ∀ m ∈ plan.manifest.missions, ∀ m' ∈ prior.manifest.missions,
      normalizePath m ≠ normalizePath m'

theorem Genuine.of_suffix {chain older : Chain} (h : Genuine chain) (hsuffix : older <:+ chain) :
    Genuine older :=
  fun plan prior rest hrest => h plan prior rest (hrest.trans hsuffix)

theorem entry_mission {verdict : BatchVerdict}
    (h : (runBatch plan prior happening).answer = .ok (verdict, payload)) {entry : Entry}
    (hentry : entry ∈ payload.missions) :
    ∃ m ∈ plan.manifest.missions, normalizePath m = entry.mission := by
  obtain ⟨loop, rfl, rfl, hloop⟩ := runBatch_answered h
  have hres : entry.toMissionResult ∈ loop.results :=
    mem_buildBatchPayload.mp ⟨entry, hentry, rfl⟩
  have hmem : entry.mission ∈ loop.results.map (·.mission) := List.mem_map.mpr ⟨_, hres, rfl⟩
  rw [hloop.missions] at hmem
  exact List.mem_map.mp hmem

/-- An entry that counts as done has passed in this batch, or counts as done in the report the
batch resumes from. -/
theorem entry_success {verdict : BatchVerdict}
    (h : (runBatch plan prior happening).answer = .ok (verdict, payload)) {entry : Entry}
    (hentry : entry ∈ payload.missions) (hsuccess : entry.verdict.success = true) :
    (∃ r ∈ (runBatch plan prior happening).runs,
      normalizePath r.mission = entry.mission ∧ r.mode = plan.mode ∧ r.Passed) ∨
    ∃ data, prior = some data ∧ ∃ before ∈ data.missions,
      normalizePath before.mission = entry.mission ∧ before.verdict.success = true := by
  obtain ⟨loop, rfl, rfl, hloop⟩ := runBatch_answered h
  have hres : entry.toMissionResult ∈ loop.results :=
    mem_buildBatchPayload.mp ⟨entry, hentry, rfl⟩
  rcases hloop.success _ hres hsuccess with hdone | ⟨r, hr, hmission, hpassed⟩
  · obtain ⟨before, hbefore⟩ := Option.isSome_iff_exists.mp hdone
    obtain ⟨data, hdata, entry', hentry', hmission, rfl, hsuccess'⟩ :=
      loadResumeState_success hbefore
    exact .inr ⟨data, hdata, entry', hentry', hmission, hsuccess'⟩
  · refine .inl ⟨r, hr, hmission, ?_, hpassed⟩
    rw [runBatch_runs] at hr
    exact (runMissions_attempted plan _ _ 0 _).mode r hr

theorem mem_runs_of_latest {world : World} {older : Chain}
    (hr : r ∈ (latest world plan older).runs) : r ∈ Chain.runs world (plan :: older) :=
  List.mem_append_left _ hr

theorem mem_runs_of_older {world : World} {older : Chain} {data : Payload}
    (hfiled : Chain.filed world older = some data) (hr : r ∈ Chain.runs world older) :
    r ∈ Chain.runs world (plan :: older) := by
  unfold Chain.runs
  rw [hfiled]
  exact List.mem_append_right _ hr

/-- In execute mode a report of a genuine chain counts as done only what has been executed. -/
theorem executed_of_success {world : World} {older : Chain} (hgenuine : Genuine (plan :: older))
    (hmode : plan.mode = .execute) {verdict : BatchVerdict} {payload : Payload}
    (hanswer : (latest world plan older).answer = .ok (verdict, payload)) :
    ∀ entry ∈ payload.missions, entry.verdict.success = true →
      ∃ r ∈ Chain.runs world (plan :: older),
        normalizePath r.mission = entry.mission ∧ r.ExecutorPassed := by
  induction older generalizing plan verdict payload with
  | nil =>
    intro entry hentry hsuccess
    rcases entry_success hanswer hentry hsuccess with ⟨r, hr, hmission, hrun, hpassed⟩ | hdone
    · exact ⟨r, mem_runs_of_latest hr, hmission, hpassed.executorPassed (hrun.trans hmode)⟩
    · obtain ⟨data, hdata, -⟩ := hdone
      cases hdata
  | cons prior older ih =>
    intro entry hentry hsuccess
    rcases entry_success hanswer hentry hsuccess with ⟨r, hr, hmission, hrun, hpassed⟩ | hdone
    · exact ⟨r, mem_runs_of_latest hr, hmission, hpassed.executorPassed (hrun.trans hmode)⟩
    · obtain ⟨data, hdata, before, hbefore, hsame, hsuccess'⟩ := hdone
      obtain ⟨verdict', hanswer'⟩ := runBatch_filed hdata
      obtain ⟨m, hm, hentryMission⟩ := entry_mission hanswer hentry
      obtain ⟨m', hm', hbeforeMission⟩ := entry_mission hanswer' hbefore
      have hnormal : normalizePath before.mission = before.mission := by
        rw [← hbeforeMission, normalizePath_normalizePath]
      rw [hnormal] at hsame
      cases hprior : prior.mode with
      | dryRun =>
        refine absurd ?_ (hgenuine plan prior older (List.suffix_refl _) hmode hprior m hm m' hm')
        rw [hentryMission, hbeforeMission, hsame]
      | execute =>
        obtain ⟨r, hr, hmission, hexecuted⟩ :=
          ih (hgenuine.of_suffix (List.suffix_cons _ _)) hprior hanswer' before hbefore hsuccess'
        exact ⟨r, mem_runs_of_older hdata hr, hmission.trans hsame, hexecuted⟩

theorem Genuine.honest {older : Chain} (hgenuine : Genuine (plan :: older)) (world : World) :
    Honest world plan older := by
  rw [honest_iff_executed]
  intro payload hanswer hmode m hm
  obtain ⟨loop, haggregate, rfl, hloop⟩ := runBatch_answered hanswer
  have hmem : normalizePath m ∈ loop.results.map (·.mission) := by
    rw [hloop.missions]
    exact List.mem_map_of_mem hm
  obtain ⟨res, hres, hmission⟩ := List.mem_map.mp hmem
  obtain ⟨entry, hentry, rfl⟩ := mem_buildBatchPayload.mpr hres
  have hsuccess : entry.verdict.success = true := hloop.passed haggregate.symm _ hres
  obtain ⟨r, hr, hsame, hexecuted⟩ :=
    executed_of_success hgenuine hmode hanswer entry hentry hsuccess
  exact ⟨r, hr, hsame.trans hmission, hexecuted⟩

/-! ## A rehearsal taken for a run -/

/-- A mission whose file cannot be read. -/
def unreadable : Attempt := .read ["could not read mission JSON"] [] "" (.raised "")

/-- A mission that passes, rehearsed or executed. -/
def passing : Attempt := .read [] [] "" (.returned .passed 0 none)

/-- Up to the `n`-th batch of a chain nothing passes, from there on everything does. -/
def turningAt (n : ℕ) : World := fun batch =>
  { outcome := fun _ _ => if batch < n then unreadable else passing
    filing := .written }

theorem not_passed_of_unreadable (h : r.attempt = unreadable) : ¬r.Passed := by
  rintro ⟨res, hres, hpassed⟩
  rw [h] at hres
  simp only [unreadable, runMission] at hres
  cases hres
  cases hpassed

theorem passed_of_passing (h : r.attempt = passing) : r.Passed := by
  unfold Run.Passed
  rw [h]
  cases r.mode with
  | dryRun => exact ⟨_, rfl, rfl⟩
  | execute => exact ⟨_, rfl, rfl⟩

theorem attempt_of_latest {world : World} {older : Chain} {attempt : Attempt}
    (hworld : ∀ position attempts, (world older.length).outcome position attempts = attempt)
    (hr : r ∈ (latest world plan older).runs) : r.attempt = attempt := by
  unfold latest at hr
  rw [runBatch_runs] at hr
  obtain ⟨attempts, hattempt⟩ := (runMissions_attempted plan _ _ 0 _).attempt r hr
  rw [hattempt, hworld]

theorem turningAt_before {n batch : ℕ} (h : batch < n) (position attempts : ℕ) :
    ((turningAt n) batch).outcome position attempts = unreadable :=
  if_pos h

theorem turningAt_after {n batch : ℕ} (h : n ≤ batch) (position attempts : ℕ) :
    ((turningAt n) batch).outcome position attempts = passing :=
  if_neg (Nat.not_lt.mpr h)

theorem not_passed_of_older {n : ℕ} {older : Chain} (hlength : older.length ≤ n)
    (hr : r ∈ Chain.runs (turningAt n) older) : ¬r.Passed := by
  induction older with
  | nil => cases hr
  | cons plan older ih =>
    rcases List.mem_append.mp hr with hr | hr
    · exact not_passed_of_unreadable (attempt_of_latest (turningAt_before hlength) hr)
    · split at hr
      · cases hr
      · exact ih (Nat.le_of_succ_le hlength) hr

theorem not_success_of_older {n : ℕ} {older : Chain} (hlength : older.length ≤ n)
    {data : Payload} (hfiled : Chain.filed (turningAt n) older = some data) {entry : Entry}
    (hentry : entry ∈ data.missions) : entry.verdict.success = false := by
  induction older generalizing data entry with
  | nil => cases hfiled
  | cons plan older ih =>
    by_contra hsuccess
    rw [Bool.not_eq_false] at hsuccess
    obtain ⟨verdict, hanswer⟩ := runBatch_filed hfiled
    rcases entry_success hanswer hentry hsuccess with ⟨r, hr, -, -, hpassed⟩ | hdone
    · exact not_passed_of_unreadable (attempt_of_latest (turningAt_before hlength) hr) hpassed
    · obtain ⟨data', hdata, before, hbefore, -, hsuccess'⟩ := hdone
      rw [ih (Nat.le_of_succ_le hlength) hdata hbefore] at hsuccess'
      cases hsuccess'

theorem runBatch_written {loop : Loop} (hfiling : happening.filing = .written)
    (h : (runMissions plan (loadResumeState prior) happening.outcome 0
      plan.manifest.missions).2 = .ok loop) :
    (runBatch plan prior happening).answer = .ok (loop.aggregate, buildBatchPayload plan loop) ∧
      (runBatch plan prior happening).filed = some (buildBatchPayload plan loop) := by
  unfold runBatch
  split
  · next heq =>
    rw [heq] at h
    cases h
  · next heq =>
    rw [heq] at h
    cases h
    rw [hfiling]
    exact ⟨rfl, rfl⟩

/-- A batch in which every attempt passes reports every mission as done. -/
theorem runBatch_of_passed (hfiling : happening.filing = .written)
    (h : ∀ r ∈ (runBatch plan prior happening).runs, r.Passed) :
    ∃ payload, (runBatch plan prior happening).answer = .ok (.passed, payload) ∧
      (runBatch plan prior happening).filed = some payload ∧
      ∀ m ∈ plan.manifest.missions, ∃ entry ∈ payload.missions,
        entry.mission = normalizePath m ∧ entry.verdict.success = true := by
  cases hloop : (runMissions plan (loadResumeState prior) happening.outcome 0
      plan.manifest.missions).2 with
  | error error =>
    obtain ⟨r, hr, hnot⟩ := runMissions_raised plan _ _ 0 _ hloop
    rw [← runBatch_runs] at hr
    exact absurd (h r hr) hnot
  | ok loop =>
    obtain ⟨hanswer, hfiled⟩ := runBatch_written hfiling hloop
    obtain ⟨loop', hverdict, hpayload, hanswered⟩ := runBatch_answered hanswer
    have hsuccess : ∀ res ∈ loop'.results, res.verdict.success = true := by
      intro res hres
      by_contra hnot
      obtain ⟨r, hr, hfailed⟩ := hanswered.failure res hres (by simpa using hnot)
      exact hfailed (h r hr)
    have hpassed : loop'.aggregate = .passed := by
      cases haggregate : loop'.aggregate with
      | passed => rfl
      | failed =>
        obtain ⟨res, hres, hfailed⟩ := hanswered.aggregate.mp haggregate
        have hcontra := hsuccess res hres
        rw [hfailed] at hcontra
        cases hcontra
    rw [hverdict, hpassed] at hanswer
    refine ⟨_, hanswer, hfiled, ?_⟩
    intro m hm
    have hmem : normalizePath m ∈ loop'.results.map (·.mission) := by
      rw [hanswered.missions]
      exact List.mem_map_of_mem hm
    obtain ⟨res, hres, hmission⟩ := List.mem_map.mp hmem
    rw [hpayload]
    obtain ⟨entry, hentry, rfl⟩ := mem_buildBatchPayload.mpr hres
    exact ⟨entry, hentry, hmission, hsuccess _ hres⟩

/-- A mission that was only rehearsed passes in execute mode without a run. -/
theorem not_honest_of_dryRun {prior : Plan} {older : Chain} (hmode : plan.mode = .execute)
    (hprior : prior.mode = .dryRun) {m m' : String} (hm : m ∈ plan.manifest.missions)
    (hm' : m' ∈ prior.manifest.missions) (hsame : normalizePath m = normalizePath m') :
    ¬Honest (turningAt older.length) plan (prior :: older) := by
  intro hhonest
  have hpriorRuns : ∀ r ∈ (latest (turningAt older.length) prior older).runs, r.Passed :=
    fun r hr => passed_of_passing (attempt_of_latest (turningAt_after (Nat.le_refl _)) hr)
  obtain ⟨data, -, hfiled, hdone⟩ := runBatch_of_passed rfl hpriorRuns
  have hruns : ∀ r ∈ (latest (turningAt older.length) plan (prior :: older)).runs, r.Passed :=
    fun r hr => passed_of_passing (attempt_of_latest (turningAt_after (Nat.le_succ _)) hr)
  obtain ⟨payload, hanswer, -, -⟩ := runBatch_of_passed rfl hruns
  obtain ⟨r, hr, hmission, hexecuted⟩ := hhonest.executed payload hanswer hmode m hm
  obtain ⟨entry, hentry, hentryMission, hsuccess⟩ := hdone m' hm'
  rcases List.mem_append.mp hr with hr | hr
  · -- the batch itself attempts only what its prior report does not count as done
    unfold latest at hr
    rw [runBatch_runs] at hr
    have hnone := (runMissions_attempted plan _ _ 0 _).notDone r hr
    have hcarried := loadResumeState_isSome hentry hsuccess
    rw [hentryMission, normalizePath_normalizePath, ← hsame, ← hmission] at hcarried
    rw [show Chain.filed (turningAt older.length) (prior :: older) = some data from hfiled] at hnone
    rw [hnone] at hcarried
    cases hcarried
  · split at hr
    · cases hr
    · rcases List.mem_append.mp hr with hr | hr
      · -- the report it resumes from was a rehearsal
        unfold latest at hr
        rw [runBatch_runs] at hr
        have hrehearsed := (runMissions_attempted prior _ _ 0 _).mode r hr
        rw [hexecuted.1, hprior] at hrehearsed
        cases hrehearsed
      · -- and before it nothing passed
        split at hr
        · cases hr
        · refine not_passed_of_older (Nat.le_refl _) hr ?_
          obtain ⟨hrun, report, changedFiles, failure, hattempt⟩ := hexecuted
          unfold Run.Passed
          rw [hrun, hattempt]
          exact ⟨_, rfl, rfl⟩

/-! ## The law -/

/-- Every batch of a chain is honest whatever its attempts come to, exactly when no batch in
execute mode takes over a mission from a report that was written in a dry run. -/
theorem batches_honest_iff (chain : Chain) :
    (∀ world plan older, plan :: older <:+ chain → Honest world plan older) ↔ Genuine chain := by
  constructor
  · intro hhonest plan prior older hsuffix hmode hprior m hm m' hm' hsame
    exact not_honest_of_dryRun hmode hprior hm hm' hsame
      (hhonest (turningAt older.length) plan (prior :: older) hsuffix)
  · intro hgenuine world plan older hsuffix
    exact (hgenuine.of_suffix hsuffix).honest world

/-- One mission, rehearsed. -/
def rehearsal : Plan :=
  { manifest :=
      { phase := "P16"
        missions := ["ai-ledger/platform/a.json"]
        report := "ai-ledger/platform/batch.json"
        notes := none }
    mode := .dryRun
    continueOnFailure := false
    maxRetries := 0 }

/-- The same mission in execute mode, resumed from the rehearsal. -/
def resumption : Plan := { rehearsal with mode := .execute }

/-- The mission passes, and no executor has run it. -/
theorem batches_honest_broken_rehearsal : ¬Honest (turningAt 0) resumption [rehearsal] := by
  have hmission : "ai-ledger/platform/a.json" ∈ rehearsal.manifest.missions :=
    List.mem_singleton_self _
  show ¬Honest (turningAt ([] : Chain).length) resumption (rehearsal :: [])
  apply not_honest_of_dryRun
  · rfl
  · rfl
  · exact hmission
  · exact hmission
  · rfl

end BatchRunner

end Mpango
