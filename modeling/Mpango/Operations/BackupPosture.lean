import Mpango.Model.BackupPosture

/-!
# An honest backup posture

The views and the probe read the same verdicts from the same rows. What they say of a tenant is true
when no successful row that is read lies in the future, and the rows that are the latest agree.
-/

namespace Mpango.Backups

variable {s : Source} {u : Uuid} {ids : List Uuid} {now now' : Instant} {kind : JobKind}
  {o o' : Outcome}

/-! ## Applicable rows -/

/-- The completed rows of a kind, of a tenant or of the platform. -/
def completed (s : Source) (tenantId : Option Uuid) (kind : JobKind) : List Outcome :=
  s.outcomes.filter fun o => o.tenantId = tenantId && o.jobKind = kind && o.completedAt.isSome

/-- The rows that apply to a tenant: its own, or the platform's if it has none. -/
def applicable (s : Source) (u : Uuid) (kind : JobKind) : List Outcome :=
  if completed s (some u) kind = [] then completed s none kind else completed s (some u) kind

/-- A latest row that applies to a tenant. -/
abbrev Applies (s : Source) (u : Uuid) (kind : JobKind) (o : Outcome) : Prop :=
  Latest.IsLatest Outcome.completedKey (applicable s u kind) o

/-- The policy that applies to a tenant. -/
def policyFor (s : Source) (u : Uuid) : Option Policy :=
  (s.policies.find? fun p => p.tenantId = some u).or (s.policies.find? fun p => p.tenantId = none)

theorem Applies.exists_completedAt (h : Applies s u kind o) : ∃ t, o.completedAt = some t := by
  have hmem := h.mem
  unfold applicable at hmem
  split at hmem
  all_goals
    have hcond := (List.mem_filter.mp hmem).2
    rw [Bool.and_eq_true] at hcond
    exact Option.isSome_iff_exists.mp hcond.2

/-- The latest rows were completed at one time. -/
theorem Applies.completedAt_eq (h : Applies s u kind o) (h' : Applies s u kind o') :
    o.completedAt = o'.completedAt := h.key_eq h'

namespace Rows

variable (r : Rows s ids)

/-- The rows of a tenant that a query for it returns. -/
theorem filter_perm (kind : JobKind) {t : Option Uuid} (ht : ∀ u ∈ t, u ∈ ids) :
    (r.outcomes.filter fun o => o.tenantId = t && o.jobKind = kind).Perm (completed s t kind) := by
  refine (r.outcomes_perm.filter _).trans ?_
  rw [List.filter_filter]
  refine List.Perm.of_eq (List.filter_congr fun o _ => ?_)
  by_cases htenant : o.tenantId = t
  · have hall : (o.tenantId.all fun u => ids.contains u) = true := by
      rw [htenant, Option.all_eq_true]
      exact fun u hu => List.contains_iff_mem.mpr (ht u hu)
    rw [hall, Bool.true_and]
  · simp [htenant]

theorem latestOf_cases (kind : JobKind) {t : Option Uuid} (ht : ∀ u ∈ t, u ∈ ids) :
    (completed s t kind = [] ∧ latestOf r.outcomes t kind = none) ∨
      ∃ o, latestOf r.outcomes t kind = some o ∧
        Latest.IsLatest Outcome.completedKey (completed s t kind) o := by
  have hperm := r.filter_perm kind ht
  cases hlatest : latestOf r.outcomes t kind with
  | none =>
    have hnil := Latest.latest_eq_none.mp hlatest
    rw [hnil] at hperm
    exact .inl ⟨List.nil_perm.mp hperm, rfl⟩
  | some o => exact .inr ⟨o, rfl, (Latest.isLatest_of_latest hlatest).of_perm hperm⟩

/-- The row of a kind that is read for a tenant. -/
def row (u : Uuid) (kind : JobKind) : Option Outcome :=
  (latestOf r.outcomes (some u) kind).or (latestOf r.outcomes none kind)

/-- It is a latest one, if one applies. -/
theorem row_cases (hu : u ∈ ids) (kind : JobKind) :
    (applicable s u kind = [] ∧ r.row u kind = none) ∨
      ∃ o, r.row u kind = some o ∧ Applies s u kind o := by
  have htenant : ∀ v ∈ some u, v ∈ ids := by
    intro v hv
    rw [← Option.some.inj hv]
    exact hu
  unfold row Applies applicable
  rcases r.latestOf_cases kind htenant with ⟨hnil, hnone⟩ | ⟨o, hsome, hlatest⟩
  · rw [hnone, Option.none_or, if_pos hnil]
    exact r.latestOf_cases kind nofun
  · have hne : completed s (some u) kind ≠ [] := List.ne_nil_of_mem hlatest.mem
    rw [hsome, if_neg hne]
    exact .inr ⟨o, rfl, hlatest⟩

theorem find_policy {t : Option Uuid} (ht : ∀ u ∈ t, u ∈ ids) :
    (r.policies.find? fun p => p.tenantId = t) = s.policies.find? fun p => p.tenantId = t := by
  have hmem : ∀ p, p.tenantId = t → (p ∈ r.policies ↔ p ∈ s.policies) := by
    intro p hp
    rw [r.policies_perm.mem_iff, List.mem_filter, and_iff_left]
    rw [hp, Option.all_eq_true]
    exact fun u hu => List.contains_iff_mem.mpr (ht u hu)
  cases hfind : s.policies.find? fun p => p.tenantId = t with
  | none =>
    rw [List.find?_eq_none] at hfind ⊢
    intro p hp hpt
    exact hfind p ((hmem p (of_decide_eq_true hpt)).mp hp) hpt
  | some p =>
    have hp : p.tenantId = t := by simpa using List.find?_some hfind
    have hps := List.mem_of_find?_eq_some hfind
    cases hread : r.policies.find? fun p => p.tenantId = t with
    | none => exact absurd (decide_eq_true hp) (List.find?_eq_none.mp hread p ((hmem p hp).mpr hps))
    | some q =>
      have hq : q.tenantId = t := by simpa using List.find?_some hread
      have hqs := (hmem q hq).mp (List.mem_of_find?_eq_some hread)
      rw [List.inj_on_of_nodup_map s.unique hqs hps (hq.trans hp.symm)]

/-- What is read for a tenant. -/
def status (u : Uuid) (now : Instant) : Option TenantBackupStatus :=
  buildBackupStatus (some (resolve r.outcomes r.policies u.text)) now

theorem policyRow_eq (hu : u ∈ ids) :
    (r.policies.find? fun p => p.tenantId = some u).or
      (r.policies.find? fun p => p.tenantId = none) = policyFor s u := by
  have htenant : ∀ v ∈ some u, v ∈ ids := by
    intro v hv
    rw [← Option.some.inj hv]
    exact hu
  unfold policyFor
  rw [r.find_policy htenant, r.find_policy (t := none) nofun]

/-- The status of a tenant, of its two rows. -/
theorem status_eq (hu : u ∈ ids) (now : Instant) : r.status u now =
    if (r.row u .backupJob).isSome || (r.row u .restoreTestJob).isSome then
      buildBackupStatus
        (some ⟨.available, r.row u .backupJob, r.row u .restoreTestJob, policyFor s u⟩) now
    else none := by
  have hread : resolve r.outcomes r.policies u.text =
      if (r.row u .backupJob).isSome || (r.row u .restoreTestJob).isSome then
        ⟨.available, r.row u .backupJob, r.row u .restoreTestJob, policyFor s u⟩
      else ⟨.unknown, none, none, none⟩ := by
    unfold resolve
    rw [Uuid.parse_text, ← r.policyRow_eq hu]
    rfl
  unfold status
  rw [hread]
  split
  · rfl
  · rfl

/-- A latest row that is listed first is taken. -/
theorem latestOf_first {t : Option Uuid} (ht : ∀ u ∈ t, u ∈ ids) {rest : List Outcome}
    (hfirst : r.outcomes = o :: rest)
    (h : Latest.IsLatest Outcome.completedKey (completed s t kind) o) :
    latestOf r.outcomes t kind = some o := by
  have hperm := r.filter_perm kind ht
  have hcond : (decide (o.tenantId = t) && decide (o.jobKind = kind)) = true := by
    have hmem := (List.mem_filter.mp h.mem).2
    rw [Bool.and_eq_true] at hmem
    exact hmem.1
  rw [hfirst, List.filter_cons, if_pos hcond] at hperm
  unfold latestOf
  rw [hfirst, List.filter_cons, if_pos hcond]
  apply Latest.latest_cons
  intro y hy
  exact h.le y (hperm.subset (List.mem_cons_of_mem o hy))

/-- Any latest row can be the one that is read. -/
theorem exists_row (hu : u ∈ ids) (h : Applies s u kind o) :
    ∃ r : Rows s ids, r.row u kind = some o := by
  classical
  have htenant : ∀ v ∈ some u, v ∈ ids := by
    intro v hv
    rw [← Option.some.inj hv]
    exact hu
  have hread : o ∈ s.outcomes.filter fun o =>
      (o.tenantId.all fun u => ids.contains u) && o.completedAt.isSome := by
    have hmem := h.mem
    unfold applicable at hmem
    split at hmem
    · obtain ⟨hrow, hcond⟩ := List.mem_filter.mp hmem
      simp only [Bool.and_eq_true, decide_eq_true_eq] at hcond
      exact List.mem_filter.mpr ⟨hrow, by rw [hcond.1.1, hcond.2]; rfl⟩
    · obtain ⟨hrow, hcond⟩ := List.mem_filter.mp hmem
      simp only [Bool.and_eq_true, decide_eq_true_eq] at hcond
      refine List.mem_filter.mpr ⟨hrow, ?_⟩
      rw [hcond.1.1, hcond.2, Option.all_some, Bool.and_true]
      exact List.contains_iff_mem.mpr hu
  let r : Rows s ids := ⟨_, _, (List.perm_cons_erase hread).symm, List.Perm.refl _⟩
  refine ⟨r, ?_⟩
  unfold Applies applicable at h
  unfold row
  split at h
  · next hnil =>
    rcases r.latestOf_cases kind htenant with ⟨-, hnone⟩ | ⟨o', -, hlatest⟩
    · rw [hnone, Option.none_or]
      exact r.latestOf_first nofun rfl h
    · rw [hnil] at hlatest
      exact absurd hlatest.mem List.not_mem_nil
  · rw [r.latestOf_first htenant rfl h]
    rfl

end Rows

theorem get_loadBackupStatusMap (outcomes : List Outcome) (policies : List Policy)
    {tenantIds : List String} {tid : String} (h : tid ∈ tenantIds) :
    Dict.get (loadBackupStatusMap outcomes policies tenantIds) tid =
      some (resolve outcomes policies tid) := by
  unfold loadBackupStatusMap
  cases hget : Dict.get (Dict.ofPairs (tenantIds.map fun tid =>
      (tid, resolve outcomes policies tid))) tid with
  | none =>
    rw [Dict.get_ofPairs_eq_none, List.map_map] at hget
    exact absurd (List.mem_map.mpr ⟨tid, h, rfl⟩) hget
  | some read =>
    rw [Dict.get_ofPairs] at hget
    have hmem := List.mem_reverse.mp (Dict.mem_of_get hget)
    obtain ⟨tid', -, heq⟩ := List.mem_map.mp hmem
    obtain ⟨rfl, rfl⟩ := Prod.mk.inj heq
    rfl

theorem getTenantRegistry_eq (r : Rows s [u]) :
    getTenantRegistry r.outcomes r.policies u.text now = r.status u now := by
  unfold getTenantRegistry
  rw [get_loadBackupStatusMap _ _ List.mem_cons_self]
  rfl

theorem mem_listTenantRegistries (r : Rows s ids) {x : String × Option TenantBackupStatus} :
    x ∈ listTenantRegistries r.outcomes r.policies (ids.map Uuid.text) now ↔
      ∃ u ∈ ids, x = (u.text, r.status u now) := by
  unfold listTenantRegistries
  constructor
  · intro h
    obtain ⟨tid, htid, rfl⟩ := List.mem_map.mp h
    obtain ⟨u, hu, rfl⟩ := List.mem_map.mp htid
    rw [get_loadBackupStatusMap _ _ htid]
    exact ⟨u, hu, rfl⟩
  · rintro ⟨u, hu, rfl⟩
    have htid : u.text ∈ ids.map Uuid.text := List.mem_map.mpr ⟨u, hu, rfl⟩
    refine List.mem_map.mpr ⟨u.text, htid, ?_⟩
    rw [get_loadBackupStatusMap _ _ htid]
    rfl

theorem readBackupCheckSource_eq (r : Rows s [u]) :
    readBackupCheckSource r.outcomes r.policies (some u.text) now =
      buildRead (r.status u now) now := by
  have hscope : scopeId (some u.text) = u.text := by
    unfold scopeId
    rw [Option.filter_some, if_pos (by simpa using Uuid.text_ne_empty u)]
    rfl
  unfold readBackupCheckSource
  rw [hscope]
  dsimp only
  rw [get_loadBackupStatusMap _ _ List.mem_cons_self]
  rfl

/-! ## Verdicts -/

theorem OutcomeStatus.raw_inj {a b : OutcomeStatus} (h : a.raw = b.raw) : a = b := by
  revert h
  cases a <;> cases b <;> decide

theorem OutcomeStatus.raw_ne_stale (a : OutcomeStatus) : a.raw ≠ .stale := by
  cases a <;> decide

/-- The verdict on a completed backup. -/
theorem enforceBackupFreshness_some (a : OutcomeStatus) (t now : Instant) :
    enforceBackupFreshness a.raw (some t) now =
      if a = .success ∧ backupFreshnessWindow < now - t then .stale else a.raw := by
  unfold enforceBackupFreshness
  cases a with
  | success =>
    rw [if_neg (by decide)]
    simp only [true_and]
    rfl
  | _ => rfl

/-- A success is reported for a success that is not older than the window. -/
theorem enforceBackupFreshness_eq_success {a : OutcomeStatus} {t : Instant} :
    enforceBackupFreshness a.raw (some t) now = .success ↔
      a = .success ∧ now - t ≤ backupFreshnessWindow := by
  rw [enforceBackupFreshness_some]
  split
  · next h => exact iff_of_false nofun fun hfresh => absurd h.2 (not_lt.mpr hfresh.2)
  · next h =>
    constructor
    · intro hraw
      obtain rfl : a = .success := OutcomeStatus.raw_inj hraw
      exact ⟨rfl, not_lt.mp fun hold => h ⟨rfl, hold⟩⟩
    · rintro ⟨rfl, -⟩
      rfl

/-- Completed backups of one time whose verdicts agree have one status. -/
theorem status_of_enforced {a b : OutcomeStatus} {t : Instant}
    (h : enforceBackupFreshness a.raw (some t) now = enforceBackupFreshness b.raw (some t) now) :
    a = b := by
  rw [enforceBackupFreshness_some, enforceBackupFreshness_some] at h
  split at h
  · next ha =>
    split at h
    · next hb => exact ha.1.trans hb.1.symm
    · exact absurd h.symm b.raw_ne_stale
  · split at h
    · exact absurd h a.raw_ne_stale
    · exact OutcomeStatus.raw_inj h

/-- The verdict on a completed test. -/
theorem enforceRestoreTestFreshness_some (a : OutcomeStatus) (t now : Instant)
    (policy : Option Policy) :
    enforceRestoreTestFreshness a.restoreBase (some t) policy now =
      if (a = .success ∨ a = .failed) ∧ restoreTestCadence policy < now - t then .stale
      else a.restoreBase := by
  unfold enforceRestoreTestFreshness
  cases a with
  | success =>
    rw [if_neg (by decide)]
    simp only [true_or, true_and]
  | failed =>
    rw [if_neg (by decide)]
    simp only [or_true, true_and]
  | _ => rfl

/-- A test has passed that succeeded, and is not older than its cadence. -/
theorem enforceRestoreTestFreshness_eq_passed {a : OutcomeStatus} {t : Instant}
    {policy : Option Policy} :
    enforceRestoreTestFreshness a.restoreBase (some t) policy now = .passed ↔
      a = .success ∧ now - t ≤ restoreTestCadence policy := by
  rw [enforceRestoreTestFreshness_some]
  split
  · next h => exact iff_of_false nofun fun hfresh => absurd h.2 (not_lt.mpr hfresh.2)
  · next h =>
    cases a with
    | success => exact iff_of_true rfl ⟨rfl, not_lt.mp fun hold => h ⟨.inl rfl, hold⟩⟩
    | _ => exact iff_of_false nofun nofun

/-- Two statuses of tests that are told alike: one status, or verdicts that are both too old. -/
def ToldAlike (policy : Option Policy) (now t : Instant) (a b : OutcomeStatus) : Prop :=
  a = b ∨ ((a = .success ∨ a = .failed) ∧ (b = .success ∨ b = .failed) ∧
    restoreTestCadence policy < now - t)

theorem toldAlike_iff {a b : OutcomeStatus} {t : Instant} {policy : Option Policy}
    (ha : a ≠ .inProgress) (hb : b ≠ .inProgress) :
    enforceRestoreTestFreshness a.restoreBase (some t) policy now =
        enforceRestoreTestFreshness b.restoreBase (some t) policy now ↔
      ToldAlike policy now t a b := by
  rw [enforceRestoreTestFreshness_some, enforceRestoreTestFreshness_some]
  unfold ToldAlike
  by_cases hold : restoreTestCadence policy < now - t
  · simp only [hold, and_true]
    revert ha hb
    cases a <;> cases b <;> decide
  · simp only [hold, and_false, if_false, or_false]
    revert ha hb
    cases a <;> cases b <;> decide

/-! ## Statuses -/

namespace Rows

variable (r : Rows s ids)

theorem lastBackupStatus_eq (hu : u ∈ ids) :
    (r.status u now).bind TenantBackupStatus.lastBackupStatus =
      (r.row u .backupJob).map fun o => enforceBackupFreshness o.status.raw o.completedAt now := by
  rw [r.status_eq hu]
  split
  · rfl
  · next h =>
    simp only [Bool.or_eq_true, not_or, Bool.not_eq_true, Option.isSome_eq_false_iff,
      Option.isNone_iff_eq_none] at h
    rw [h.1]
    rfl

theorem restoreTestStatus_eq (hu : u ∈ ids) :
    (r.status u now).bind TenantBackupStatus.restoreTestStatus =
      (r.row u .restoreTestJob).map fun o => enforceRestoreTestFreshness o.status.restoreBase
        o.completedAt (policyFor s u) now := by
  rw [r.status_eq hu]
  split
  · rfl
  · next h =>
    simp only [Bool.or_eq_true, not_or, Bool.not_eq_true, Option.isSome_eq_false_iff,
      Option.isNone_iff_eq_none] at h
    rw [h.2]
    rfl

theorem failureReasonRedacted_eq (hu : u ∈ ids) :
    (r.status u now).bind TenantBackupStatus.failureReasonRedacted =
      (r.row u .backupJob).bind Outcome.reason := by
  rw [r.status_eq hu]
  split
  · rfl
  · next h =>
    simp only [Bool.or_eq_true, not_or, Bool.not_eq_true, Option.isSome_eq_false_iff,
      Option.isNone_iff_eq_none] at h
    rw [h.1]
    rfl

/-- The success of a backup that is read. -/
theorem success_iff (hu : u ∈ ids) :
    (r.status u now).bind TenantBackupStatus.lastBackupStatus = some .success ↔
      ∃ o, r.row u .backupJob = some o ∧ o.status = .success ∧
        ∃ t ∈ o.completedAt, now - t ≤ backupFreshnessWindow := by
  rw [r.lastBackupStatus_eq hu, Option.map_eq_some_iff]
  refine exists_congr fun o => and_congr_right fun ho => ?_
  obtain ⟨o', ho', happlies⟩ := (r.row_cases hu .backupJob).resolve_left fun h => by
    rw [h.2] at ho
    cases ho
  obtain rfl := Option.some.inj (ho.symm.trans ho')
  obtain ⟨t, ht⟩ := happlies.exists_completedAt
  rw [ht, enforceBackupFreshness_eq_success]
  simp

/-- The pass of a test that is read. -/
theorem passed_iff (hu : u ∈ ids) :
    (r.status u now).bind TenantBackupStatus.restoreTestStatus = some .passed ↔
      ∃ o, r.row u .restoreTestJob = some o ∧ o.status = .success ∧
        ∃ t ∈ o.completedAt, now - t ≤ restoreTestCadence (policyFor s u) := by
  rw [r.restoreTestStatus_eq hu, Option.map_eq_some_iff]
  refine exists_congr fun o => and_congr_right fun ho => ?_
  obtain ⟨o', ho', happlies⟩ := (r.row_cases hu .restoreTestJob).resolve_left fun h => by
    rw [h.2] at ho
    cases ho
  obtain rfl := Option.some.inj (ho.symm.trans ho')
  obtain ⟨t, ht⟩ := happlies.exists_completedAt
  rw [ht, enforceRestoreTestFreshness_eq_passed]
  simp

end Rows

/-- The probe knows of a success when the status says so. -/
theorem buildRead_known (bs : Option TenantBackupStatus) (now : Instant) :
    ((buildRead bs now).sourceStatus = .known ∧ (buildRead bs now).sourceSummary = .freshSuccess) ↔
      bs.bind TenantBackupStatus.lastBackupStatus = some .success := by
  unfold buildRead classifyBackupStatus
  cases bs with
  | none => exact iff_of_false nofun nofun
  | some bs =>
    cases hlast : bs.lastBackupStatus with
    | none => simp [hlast]
    | some last => cases last <;> simp [hlast]

/-! ## Honesty -/

/-- What the posture of a tenant promises, whatever order the queries return their rows in. -/
structure Honest (s : Source) (u : Uuid) (now : Instant) : Prop where
  fresh : ∀ r : Rows s [u],
    ((readBackupCheckSource r.outcomes r.policies (some u.text) now).sourceStatus = .known ∧
      (readBackupCheckSource r.outcomes r.policies (some u.text) now).sourceSummary =
        .freshSuccess) ↔
    ∃ o, Applies s u .backupJob o ∧ o.status = .success ∧
      ∃ t ∈ o.completedAt, now - backupFreshnessWindow ≤ t ∧ t ≤ now
  passed : ∀ r : Rows s [u],
    (getTenantRegistry r.outcomes r.policies u.text now).bind
        TenantBackupStatus.restoreTestStatus = some .passed →
      ∃ o, Applies s u .restoreTestJob o ∧ o.status = .success ∧
        ∃ t ∈ o.completedAt, now - restoreTestCadence (policyFor s u) ≤ t ∧ t ≤ now
  success_mono : ∀ (r r' : Rows s [u]) {now'}, now ≤ now' →
    (getTenantRegistry r'.outcomes r'.policies u.text now').bind
        TenantBackupStatus.lastBackupStatus = some .success →
      (getTenantRegistry r.outcomes r.policies u.text now).bind
        TenantBackupStatus.lastBackupStatus = some .success
  passed_mono : ∀ (r r' : Rows s [u]) {now'}, now ≤ now' →
    (getTenantRegistry r'.outcomes r'.policies u.text now').bind
        TenantBackupStatus.restoreTestStatus = some .passed →
      (getTenantRegistry r.outcomes r.policies u.text now).bind
        TenantBackupStatus.restoreTestStatus = some .passed
  list : ∀ {ids}, u ∈ ids → ∀ (r : Rows s ids) (r' : Rows s [u]) {status},
    (u.text, status) ∈ listTenantRegistries r.outcomes r.policies (ids.map Uuid.text) now →
      status = getTenantRegistry r'.outcomes r'.policies u.text now
  probe : ∀ r r' : Rows s [u],
    readBackupCheckSource r.outcomes r.policies (some u.text) now =
      buildRead (getTenantRegistry r'.outcomes r'.policies u.text now) now

/-- No success that applies lies in the future, unless it counts as too old already, and the latest
rows agree. -/
structure Settled (s : Source) (u : Uuid) (now : Instant) : Prop where
  backup_past : ∀ {o}, Applies s u .backupJob o → o.status = .success →
    ∀ t ∈ o.completedAt, t ≤ now
  restore_past : ∀ {o}, Applies s u .restoreTestJob o → o.status = .success →
    ∀ t ∈ o.completedAt, t ≤ now ∨ restoreTestCadence (policyFor s u) < now - t
  backup_ties : ∀ {o o'}, Applies s u .backupJob o → Applies s u .backupJob o' →
    o.status = o'.status ∧ o.failureReasonCode = o'.failureReasonCode
  restore_ties : ∀ {o o'}, Applies s u .restoreTestJob o → Applies s u .restoreTestJob o' →
    ∀ t ∈ o.completedAt, ToldAlike (policyFor s u) now t o.status o'.status

/-- A row's reason is told as it stands. -/
theorem Outcome.reason_eq (o : Outcome) : o.reason = o.failureReasonCode := by
  unfold Outcome.reason redactFailureReason
  split
  · cases hcode : o.failureReasonCode with
    | none => rfl
    | some r => exact congrArg some (if_pos (List.contains_iff_mem.mpr (o.reason_listed r hcode)))
  · next h =>
    have hnone := mt o.reason_scope.mp h
    exact (Option.not_isSome_iff_eq_none.mp hnone).symm

theorem Outcome.exportable_eq (o : Outcome) : o.exportable = decide (o.status = .success) := by
  unfold Outcome.exportable
  by_cases h : o.status = .success
  · obtain ⟨n, hn, hpos⟩ := o.success_bytes h
    rw [show o.bytesWritten = some n from hn]
    simpa [h] using hpos
  · simp [h]

/-- Two reads find a latest row each, or neither finds one. -/
theorem Rows.row_alike {ids' : List Uuid} (r : Rows s ids) (r' : Rows s ids') (hu : u ∈ ids)
    (hu' : u ∈ ids') (kind : JobKind) :
    (r.row u kind = none ∧ r'.row u kind = none) ∨
      ∃ o o', r.row u kind = some o ∧ r'.row u kind = some o' ∧ Applies s u kind o ∧
        Applies s u kind o' := by
  rcases r.row_cases hu kind with ⟨hnil, hnone⟩ | ⟨o, hrow, ho⟩
  · rcases r'.row_cases hu' kind with ⟨-, hnone'⟩ | ⟨o', -, ho'⟩
    · exact .inl ⟨hnone, hnone'⟩
    · exact absurd (hnil ▸ ho'.mem) List.not_mem_nil
  · rcases r'.row_cases hu' kind with ⟨hnil, -⟩ | ⟨o', hrow', ho'⟩
    · exact absurd (hnil ▸ ho.mem) List.not_mem_nil
    · exact .inr ⟨o, o', hrow, hrow', ho, ho'⟩

theorem Applies.ne_inProgress (h : Applies s u kind o) : o.status ≠ .inProgress := by
  obtain ⟨t, ht⟩ := h.exists_completedAt
  intro hprogress
  rw [o.completed_iff.mp hprogress] at ht
  cases ht

namespace Settled

variable (h : Settled s u now)
include h

/-- A tenant has one status, whoever reads it. -/
theorem status_congr {ids' : List Uuid} (r : Rows s ids) (r' : Rows s ids') (hu : u ∈ ids)
    (hu' : u ∈ ids') : r.status u now = r'.status u now := by
  have hbackup : ∀ {o o'}, Applies s u .backupJob o → Applies s u .backupJob o' →
      o.completedAt = o'.completedAt ∧ o.status = o'.status ∧ o.exportable = o'.exportable ∧
        o.reason = o'.reason := by
    intro o o' ho ho'
    obtain ⟨hstatus, hcode⟩ := h.backup_ties ho ho'
    refine ⟨ho.completedAt_eq ho', hstatus, ?_, ?_⟩
    · rw [o.exportable_eq, o'.exportable_eq, hstatus]
    · rw [o.reason_eq, o'.reason_eq, hcode]
  have hrestore : ∀ {o o'}, Applies s u .restoreTestJob o → Applies s u .restoreTestJob o' →
      o.completedAt = o'.completedAt ∧
        enforceRestoreTestFreshness o.status.restoreBase o.completedAt (policyFor s u) now =
          enforceRestoreTestFreshness o'.status.restoreBase o'.completedAt (policyFor s u) now := by
    intro o o' ho ho'
    have htime := ho.completedAt_eq ho'
    obtain ⟨t, ht⟩ := ho.exists_completedAt
    refine ⟨htime, ?_⟩
    rw [← htime, ht]
    exact (toldAlike_iff ho.ne_inProgress ho'.ne_inProgress).mpr (h.restore_ties ho ho' t ht)
  rw [r.status_eq hu, r'.status_eq hu']
  rcases r.row_alike r' hu hu' .backupJob with ⟨hb, hb'⟩ | ⟨o, o', hb, hb', ho, ho'⟩
  · rw [hb, hb']
    rcases r.row_alike r' hu hu' .restoreTestJob with ⟨hr, hr'⟩ | ⟨p, p', hr, hr', hp, hp'⟩
    · rw [hr, hr']
    · obtain ⟨htime, hverdict⟩ := hrestore hp hp'
      rw [hr, hr']
      simp only [buildBackupStatus, Option.map_some, Option.bind_some, Option.isSome_some]
      rw [hverdict, htime]
  · obtain ⟨htime, hstatus, hexport, hreason⟩ := hbackup ho ho'
    rw [hb, hb']
    rcases r.row_alike r' hu hu' .restoreTestJob with ⟨hr, hr'⟩ | ⟨p, p', hr, hr', hp, hp'⟩
    · rw [hr, hr']
      simp only [buildBackupStatus, Option.map_some, Option.bind_some, Option.any_some, htime,
        hstatus, hexport, hreason, Option.isSome_some]
    · obtain ⟨htime', hverdict⟩ := hrestore hp hp'
      rw [hr, hr']
      simp only [buildBackupStatus, Option.map_some, Option.bind_some, Option.any_some,
        Option.isSome_some]
      rw [hverdict, htime', htime, hstatus, hexport, hreason]

theorem honest : Honest s u now := by
  have hu : u ∈ [u] := List.mem_cons_self
  refine ⟨?_, ?_, ?_, ?_, ?_, ?_⟩
  · intro r
    rw [readBackupCheckSource_eq, buildRead_known, r.success_iff hu]
    constructor
    · rintro ⟨o, hrow, hsuccess, t, ht, hfresh⟩
      obtain ⟨o', hrow', happlies⟩ := (r.row_cases hu .backupJob).resolve_left fun hnone => by
        rw [hnone.2] at hrow
        cases hrow
      obtain rfl := Option.some.inj (hrow.symm.trans hrow')
      exact ⟨o, happlies, hsuccess, t, ht, sub_le_comm.mp hfresh,
        h.backup_past happlies hsuccess t ht⟩
    · rintro ⟨o, happlies, hsuccess, t, ht, hfresh, -⟩
      obtain ⟨o', hrow', happlies'⟩ := (r.row_cases hu .backupJob).resolve_left fun hnone =>
        List.not_mem_nil (hnone.1 ▸ happlies.mem)
      refine ⟨o', hrow', ?_, t, ?_, sub_le_comm.mp hfresh⟩
      · rw [← (h.backup_ties happlies happlies').1, hsuccess]
      · rw [← happlies.completedAt_eq happlies']
        exact ht
  · intro r
    rw [getTenantRegistry_eq, r.passed_iff hu]
    rintro ⟨o, hrow, hsuccess, t, ht, hfresh⟩
    obtain ⟨o', hrow', happlies⟩ := (r.row_cases hu .restoreTestJob).resolve_left fun hnone => by
      rw [hnone.2] at hrow
      cases hrow
    obtain rfl := Option.some.inj (hrow.symm.trans hrow')
    refine ⟨o, happlies, hsuccess, t, ht, sub_le_comm.mp hfresh, ?_⟩
    exact (h.restore_past happlies hsuccess t ht).resolve_right (not_lt.mpr hfresh)
  · intro r r' now' hle
    rw [getTenantRegistry_eq, getTenantRegistry_eq, h.status_congr r r' hu hu, r'.success_iff hu,
      r'.success_iff hu]
    rintro ⟨o, hrow, hsuccess, t, ht, hfresh⟩
    exact ⟨o, hrow, hsuccess, t, ht, (sub_le_sub_right hle t).trans hfresh⟩
  · intro r r' now' hle
    rw [getTenantRegistry_eq, getTenantRegistry_eq, h.status_congr r r' hu hu, r'.passed_iff hu,
      r'.passed_iff hu]
    rintro ⟨o, hrow, hsuccess, t, ht, hfresh⟩
    exact ⟨o, hrow, hsuccess, t, ht, (sub_le_sub_right hle t).trans hfresh⟩
  · intro ids hids r r' status hmem
    obtain ⟨v, -, heq⟩ := (mem_listTenantRegistries r).mp hmem
    obtain ⟨htext, rfl⟩ := Prod.mk.inj heq
    obtain rfl := Uuid.text_inj.mp htext
    rw [getTenantRegistry_eq]
    exact h.status_congr r r' hids hu
  · intro r r'
    rw [readBackupCheckSource_eq, getTenantRegistry_eq, h.status_congr r r' hu hu]

end Settled

theorem Honest.settled (h : Honest s u now) : Settled s u now := by
  have hu : u ∈ [u] := List.mem_cons_self
  have hsame : ∀ r r' : Rows s [u], r.status u now = r'.status u now := by
    intro r r'
    rw [← getTenantRegistry_eq r']
    exact h.list hu r r' ((mem_listTenantRegistries r).mpr ⟨u, hu, rfl⟩)
  refine ⟨?_, ?_, ?_, ?_⟩
  · intro o happlies hsuccess t ht
    obtain ⟨r, hrow⟩ := Rows.exists_row hu happlies
    by_contra hfuture
    have hwindow : now - t ≤ backupFreshnessWindow :=
      (sub_nonpos.mpr (le_of_not_ge hfuture)).trans (by decide)
    have hknown := h.fresh r
    rw [readBackupCheckSource_eq, buildRead_known, r.success_iff hu] at hknown
    obtain ⟨o', happlies', -, t', ht', -, hpast⟩ := hknown.mp ⟨o, hrow, hsuccess, t, ht, hwindow⟩
    rw [← happlies.completedAt_eq happlies', show o.completedAt = some t from ht] at ht'
    exact hfuture (Option.some.inj ht' ▸ hpast)
  · intro o happlies hsuccess t ht
    obtain ⟨r, hrow⟩ := Rows.exists_row hu happlies
    by_contra hfuture
    rw [not_or, not_lt] at hfuture
    have hpassed := h.passed r
    rw [getTenantRegistry_eq, r.passed_iff hu] at hpassed
    obtain ⟨o', happlies', -, t', ht', -, hpast⟩ := hpassed ⟨o, hrow, hsuccess, t, ht, hfuture.2⟩
    rw [← happlies.completedAt_eq happlies', show o.completedAt = some t from ht] at ht'
    exact hfuture.1 (Option.some.inj ht' ▸ hpast)
  · intro o o' happlies happlies'
    obtain ⟨r, hrow⟩ := Rows.exists_row hu happlies
    obtain ⟨r', hrow'⟩ := Rows.exists_row hu happlies'
    have hstatus := congrArg (fun status => status.bind TenantBackupStatus.lastBackupStatus)
      (hsame r r')
    have hreason := congrArg (fun status => status.bind TenantBackupStatus.failureReasonRedacted)
      (hsame r r')
    simp only [r.lastBackupStatus_eq hu, r'.lastBackupStatus_eq hu, hrow, hrow', Option.map_some,
      Option.some.injEq] at hstatus
    simp only [r.failureReasonRedacted_eq hu, r'.failureReasonRedacted_eq hu, hrow, hrow',
      Option.bind_some, Outcome.reason_eq] at hreason
    obtain ⟨t, ht⟩ := happlies.exists_completedAt
    rw [← happlies.completedAt_eq happlies', ht] at hstatus
    exact ⟨status_of_enforced hstatus, hreason⟩
  · intro o o' happlies happlies' t ht
    obtain ⟨r, hrow⟩ := Rows.exists_row hu happlies
    obtain ⟨r', hrow'⟩ := Rows.exists_row hu happlies'
    have hstatus := congrArg (fun status => status.bind TenantBackupStatus.restoreTestStatus)
      (hsame r r')
    simp only [r.restoreTestStatus_eq hu, r'.restoreTestStatus_eq hu, hrow, hrow', Option.map_some,
      Option.some.injEq] at hstatus
    rw [← happlies.completedAt_eq happlies', show o.completedAt = some t from ht] at hstatus
    exact (toldAlike_iff happlies.ne_inProgress happlies'.ne_inProgress).mp hstatus

/-- **Posture.** The views and the probe are honest of a tenant exactly when no success that applies
to it lies in the future and its latest rows agree. -/
theorem honest_iff (s : Source) (u : Uuid) (now : Instant) : Honest s u now ↔ Settled s u now :=
  ⟨Honest.settled, Settled.honest⟩

/-- A backup of the platform that succeeded at some time. -/
def succeeded (t : Instant) : Outcome where
  tenantId := none
  jobKind := .backupJob
  status := .success
  completedAt := some t
  bytesWritten := some 1
  failureReasonCode := none
  completed_iff := iff_of_false nofun nofun
  reason_scope := by decide
  bytes_scope := by decide
  success_bytes := fun _ => ⟨1, rfl, by decide⟩
  reason_listed := nofun

/-- One that failed. -/
def timedOut (t : Instant) : Outcome where
  tenantId := none
  jobKind := .backupJob
  status := .failed
  completedAt := some t
  bytesWritten := none
  failureReasonCode := some "backup_job_timeout"
  completed_iff := iff_of_false nofun nofun
  reason_scope := by decide
  bytes_scope := by decide
  success_bytes := nofun
  reason_listed := by decide

/-- A backup that will have succeeded in an hour, and one that succeeded and failed at one time. -/
theorem dishonest_future_and_tie :
    ¬Honest ⟨[succeeded hour], [], List.nodup_nil⟩ 1 0 ∧
      ¬Honest ⟨[succeeded 0, timedOut 0], [], List.nodup_nil⟩ 1 hour := by
  constructor
  · intro h
    have hlatest : Applies ⟨[succeeded hour], [], List.nodup_nil⟩ 1 .backupJob (succeeded hour) :=
      ⟨List.mem_cons_self, fun o ho => by rw [List.mem_singleton.mp ho]⟩
    exact absurd (h.settled.backup_past hlatest rfl hour rfl) (by decide)
  · intro h
    have hle : ∀ o ∈ [succeeded 0, timedOut 0], o.completedKey ≤ ((0 : ℤ) : WithBot ℤ) := by
      intro o ho
      rcases List.mem_pair.mp ho with rfl | rfl <;> exact le_rfl
    have hsucceeded : Applies ⟨[succeeded 0, timedOut 0], [], List.nodup_nil⟩ 1 .backupJob
        (succeeded 0) := ⟨List.mem_cons_self, hle⟩
    have hfailed : Applies ⟨[succeeded 0, timedOut 0], [], List.nodup_nil⟩ 1 .backupJob
        (timedOut 0) := ⟨List.mem_cons_of_mem _ List.mem_cons_self, hle⟩
    cases (h.settled.backup_ties hsucceeded hfailed).1

end Mpango.Backups
