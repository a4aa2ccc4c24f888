import Mpango.Model.Governance

/-!
# The law of the policy engine

The engine asks its rules in turn, but every rule after the first only grants. So what it
allows is a set: the assets in the subject's reach, for which the subject holds one of four grants.
Isolation, the ceiling on management and monotonicity are read off the grants. The owner's privilege
is not among them: the role matrix grants without looking at the asset.
-/

namespace Mpango.Governance

variable {subject subject' : PolicySubject} {action : BIAction} {asset asset' : BIAsset}

/-! ## Grants -/

/-- The four ways to be granted an action. -/
inductive Grant (subject : PolicySubject) (action : BIAction) (asset : BIAsset) : Prop
  | admin (hadmin : subject.isAdmin = true)
  | owner (htenant : asset.tenantId = some subject.tenantId)
      (howner : asset.isOwnedBy subject.userId = true)
  | shared (haction : action ≠ .manage)
      (hmatch : asset.checkAcl subject.userId subject.roles = true)
  | role (role : String) (hrole : role ∈ subject.roles) (hgrant : action ∈ getAllowedActions role)

/-- An asset of the whole system, or of the subject's own tenant. -/
def InReach (subject : PolicySubject) (asset : BIAsset) : Prop :=
  ∀ tenant ∈ asset.tenantId, tenant = subject.tenantId

/-- `evaluate_policy` answers with a result that allows the action. -/
def Allows (subject : PolicySubject) (action : BIAction) (argument : AssetArgument) : Prop :=
  ∃ result, evaluatePolicy subject action argument = .ok result ∧ result.allowed = true

theorem mem_aclMaxActions : action ∈ aclMaxActions ↔ action ≠ .manage := by
  cases action <;> decide

/-- No role of the matrix manages assets. -/
theorem manage_not_mem_getAllowedActions (role : String) :
    BIAction.manage ∉ getAllowedActions role := by
  unfold getAllowedActions
  cases hfound : defaultBiPermissions.lookup role with
  | none => exact List.not_mem_nil
  | some actions =>
    have hmem : (role, actions) ∈ defaultBiPermissions := by
      rw [List.lookup_eq_some_iff] at hfound
      obtain ⟨l₁, l₂, hsplit, -⟩ := hfound
      rw [hsplit]
      exact List.mem_append_right _ List.mem_cons_self
    have hall : ∀ row ∈ defaultBiPermissions, BIAction.manage ∉ row.2 := by decide
    exact hall _ hmem

theorem checkTenantIsolation_iff : checkTenantIsolation subject asset = true ↔
    InReach subject asset := by
  unfold checkTenantIsolation InReach BIAsset.isSystemWide
  cases asset.tenantId <;> simp

theorem checkOwnerBypass_isSome : (checkOwnerBypass subject action asset).isSome = true ↔
    asset.tenantId = some subject.tenantId ∧ asset.isOwnedBy subject.userId = true := by
  unfold checkOwnerBypass BIAsset.isSystemWide BIAsset.hasOwner BIAsset.isOwnedBy
  cases asset.tenantId <;> cases asset.ownerId <;> grind

theorem allowed_of_checkOwnerBypass {r : Ruling}
    (h : checkOwnerBypass subject action asset = some r) : r.allowed = true := by
  unfold checkOwnerBypass at h
  grind

theorem isShared_of_checkAcl {userId : String} {roles : Finset String}
    (h : asset.checkAcl userId roles = true) : asset.isShared = true := by
  obtain ⟨entry, hmem, -⟩ := List.any_eq_true.mp h
  simpa [BIAsset.isShared] using List.length_pos_of_mem hmem

theorem checkAcl_isSome : (checkAcl subject action asset).isSome = true ↔
    action ≠ .manage ∧ asset.checkAcl subject.userId subject.roles = true := by
  unfold checkAcl
  rw [← mem_aclMaxActions]
  have hshared := @isShared_of_checkAcl asset subject.userId subject.roles
  grind

theorem allowed_of_checkAcl {r : Ruling} (h : checkAcl subject action asset = some r) :
    r.allowed = true := by
  unfold checkAcl at h
  grind

theorem checkRoleMatrix_isSome : (checkRoleMatrix subject action).isSome = true ↔
    ∃ role ∈ subject.roles, action ∈ getAllowedActions role := by
  simp [checkRoleMatrix, List.find?_isSome]

/-- After the tenant check the rules only grant, so their order does not matter. -/
theorem ruling_allowed_iff : (ruling subject action asset).allowed = true ↔
    InReach subject asset ∧ Grant subject action asset := by
  unfold ruling
  by_cases hreach : checkTenantIsolation subject asset = true
  · have hin : InReach subject asset := checkTenantIsolation_iff.mp hreach
    simp only [hreach, Bool.true_eq_false, if_false, hin, true_and]
    by_cases hadmin : subject.isAdmin = true
    · simp only [hadmin, if_true, true_iff]
      exact .admin hadmin
    rw [if_neg hadmin]
    have howner := @checkOwnerBypass_isSome subject action asset
    cases ho : checkOwnerBypass subject action asset with
    | some r =>
      obtain ⟨htenant, hself⟩ := howner.mp (by rw [ho]; rfl)
      exact iff_of_true (allowed_of_checkOwnerBypass ho) (.owner htenant hself)
    | none =>
      have hacl := @checkAcl_isSome subject action asset
      cases ha : checkAcl subject action asset with
      | some r =>
        obtain ⟨haction, hmatch⟩ := hacl.mp (by rw [ha]; rfl)
        exact iff_of_true (allowed_of_checkAcl ha) (.shared haction hmatch)
      | none =>
        have hroles := @checkRoleMatrix_isSome subject action
        cases hr : checkRoleMatrix subject action with
        | some role =>
          obtain ⟨role, hrole, hgrant⟩ := hroles.mp (by rw [hr]; rfl)
          exact iff_of_true rfl (.role role hrole hgrant)
        | none =>
          refine iff_of_false Bool.false_ne_true fun hgrant => ?_
          rw [ho] at howner
          rw [ha] at hacl
          rw [hr] at hroles
          cases hgrant with
          | admin h => exact hadmin h
          | owner htenant hself => exact absurd (howner.mpr ⟨htenant, hself⟩) (by simp)
          | shared haction hmatch => exact absurd (hacl.mpr ⟨haction, hmatch⟩) (by simp)
          | role role hrole hgrant => exact absurd (hroles.mpr ⟨role, hrole, hgrant⟩) (by simp)
  · have hout : ¬ InReach subject asset := fun h => hreach (checkTenantIsolation_iff.mpr h)
    rw [Bool.not_eq_true] at hreach
    simp [hreach, hout]

theorem allows_iff : Allows subject action (.asset asset) ↔
    InReach subject asset ∧ Grant subject action asset := by
  rw [← ruling_allowed_iff]
  constructor
  · rintro ⟨result, h, hallowed⟩
    obtain rfl := Except.ok.inj h
    exact hallowed
  · intro h
    exact ⟨_, rfl, h⟩

/-- An empty list shares with nobody, which leaves the roles. -/
theorem Grant.of_acl_nil (hacl : asset.acl = []) (h : Grant subject action asset) :
    (subject.isAdmin = true ∨ asset.isOwnedBy subject.userId = true) ∨
      ∃ role ∈ subject.roles, action ∈ getAllowedActions role := by
  cases h with
  | admin h => exact .inl (.inl h)
  | owner _ h => exact .inl (.inr h)
  | shared _ h =>
    unfold BIAsset.checkAcl at h
    rw [hacl] at h
    exact absurd h Bool.false_ne_true
  | role role hrole hgrant => exact .inr ⟨role, hrole, hgrant⟩

/-! ## Registered assets -/

/-- What a URN resolves to belongs to the whole system and is shared with nobody by name. -/
theorem of_getAsset {urn : String} (h : getAsset urn = some asset) :
    asset.tenantId = none ∧ asset.acl = [] := by
  have hall : ∀ a ∈ allAssets, a.tenantId = none ∧ a.acl = [] := by decide
  exact hall asset (List.mem_of_find?_eq_some h)

/-- A registered asset is the administrators' and the roles'. -/
theorem allows_urn_iff {urn : String} : Allows subject action (.urn urn) ↔
    (getAsset urn).isSome = true ∧ (subject.isAdmin = true ∨
      ∃ role ∈ subject.roles, action ∈ getAllowedActions role) := by
  cases hfound : getAsset urn with
  | none =>
    refine iff_of_false ?_ (fun h => absurd h.1 Bool.false_ne_true)
    rintro ⟨result, h, -⟩
    simp [evaluatePolicy, resolveAsset, hfound, bind, Except.bind] at h
  | some asset =>
    obtain ⟨htenant, hacl⟩ := of_getAsset hfound
    have hsame : Allows subject action (.urn urn) ↔ Allows subject action (.asset asset) := by
      simp [Allows, evaluatePolicy, resolveAsset, hfound]
    rw [hsame, allows_iff]
    constructor
    · rintro ⟨-, hgrant⟩
      refine ⟨rfl, ?_⟩
      cases hgrant with
      | admin h => exact .inl h
      | owner h _ => simp [htenant] at h
      | shared _ h => simp [BIAsset.checkAcl, hacl] at h
      | role role hrole haction => exact .inr ⟨role, hrole, haction⟩
    · rintro ⟨-, h⟩
      refine ⟨by simp [InReach, htenant], ?_⟩
      rcases h with h | ⟨role, hrole, haction⟩
      · exact .admin h
      · exact .role role hrole haction

/-! ## Growth -/

/-- The same subject with more roles. -/
structure PolicySubject.Grows (subject subject' : PolicySubject) : Prop where
  userId : subject'.userId = subject.userId
  tenantId : subject'.tenantId = subject.tenantId
  roles : subject.roles ⊆ subject'.roles

/-- The same asset with more entries on its access list. -/
structure BIAsset.Grows (asset asset' : BIAsset) : Prop where
  urn : asset'.urn = asset.urn
  tenantId : asset'.tenantId = asset.tenantId
  ownerId : asset'.ownerId = asset.ownerId
  acl : asset.acl ⊆ asset'.acl

/-- More roles match no fewer entries. -/
theorem BIAsset.checkAcl_mono {userId : String} {roles roles' : Finset String}
    (hacl : asset.acl ⊆ asset'.acl) (hroles : roles ⊆ roles')
    (h : asset.checkAcl userId roles = true) : asset'.checkAcl userId roles' = true := by
  obtain ⟨entry, hmem, hmatch⟩ := List.any_eq_true.mp h
  refine List.any_eq_true.mpr ⟨entry, hacl hmem, ?_⟩
  have hrole := @hroles (String.ofList (entry.toList.drop 5))
  grind

theorem Grant.mono (hs : subject.Grows subject') (ha : asset.Grows asset')
    (h : Grant subject action asset) : Grant subject' action asset' := by
  cases h with
  | admin h =>
    apply Grant.admin
    simpa [PolicySubject.isAdmin] using hs.roles (by simpa [PolicySubject.isAdmin] using h)
  | owner htenant howner =>
    apply Grant.owner
    · rw [ha.tenantId, hs.tenantId, htenant]
    · unfold BIAsset.isOwnedBy
      rw [ha.ownerId, hs.userId]
      exact howner
  | shared haction hmatch =>
    apply Grant.shared haction
    rw [hs.userId]
    exact BIAsset.checkAcl_mono ha.acl hs.roles hmatch
  | role role hrole hgrant => exact .role role (hs.roles hrole) hgrant

theorem Allows.mono (hs : subject.Grows subject') (ha : asset.Grows asset')
    (h : Allows subject action (.asset asset)) : Allows subject' action (.asset asset') := by
  rw [allows_iff] at h ⊢
  refine ⟨?_, h.2.mono hs ha⟩
  unfold InReach
  rw [ha.tenantId, hs.tenantId]
  exact h.1

/-! ## The law -/

/-- What the engine promises of one subject, action and asset. -/
structure PolicyLaw (subject : PolicySubject) (action : BIAction) (asset : BIAsset) : Prop where
  /-- No asset of another tenant. -/
  isolated : ∀ tenant, asset.tenantId = some tenant → tenant ≠ subject.tenantId →
    ¬ Allows subject action (.asset asset)
  /-- An unshared asset of a tenant is its owner's. -/
  ownerOnly : asset.isSystemWide = false → asset.acl = [] →
    Allows subject action (.asset asset) →
      subject.isAdmin = true ∨ asset.isOwnedBy subject.userId = true
  /-- Only the owner and the administrators manage an asset. -/
  manage : action = .manage → Allows subject action (.asset asset) →
    subject.isAdmin = true ∨ asset.isOwnedBy subject.userId = true
  /-- More roles allow no less. -/
  roles : ∀ subject', subject.Grows subject' → Allows subject action (.asset asset) →
    Allows subject' action (.asset asset)
  /-- A longer access list allows no less. -/
  acl : ∀ asset', asset.Grows asset' → Allows subject action (.asset asset) →
    Allows subject action (.asset asset')

/-- The subject is neither an administrator nor the owner, and the tenant's asset is not shared,
but some role of the subject grants the action on every asset. -/
structure RoleOnly (subject : PolicySubject) (action : BIAction) (asset : BIAsset) : Prop where
  tenant : asset.tenantId = some subject.tenantId
  acl : asset.acl = []
  notAdmin : subject.isAdmin = false
  notOwner : asset.isOwnedBy subject.userId = false
  role : ∃ role ∈ subject.roles, action ∈ getAllowedActions role

theorem Grant.adminOrOwner_of_manage (h : Grant subject .manage asset) :
    subject.isAdmin = true ∨ asset.isOwnedBy subject.userId = true := by
  cases h with
  | admin h => exact .inl h
  | owner _ h => exact .inr h
  | shared h _ => exact absurd rfl h
  | role role _ h => exact absurd h (manage_not_mem_getAllowedActions role)

theorem PolicySubject.Grows.refl (subject : PolicySubject) : subject.Grows subject :=
  ⟨rfl, rfl, Finset.Subset.refl _⟩

theorem BIAsset.Grows.refl (asset : BIAsset) : asset.Grows asset :=
  ⟨rfl, rfl, rfl, List.Subset.refl _⟩

/-- The role matrix grants the action without looking at the owner or the access list. -/
theorem RoleOnly.not_policyLaw (honly : RoleOnly subject action asset) :
    ¬ PolicyLaw subject action asset := by
  intro law
  have hgrant : Allows subject action (.asset asset) := by
    obtain ⟨role, hrole, haction⟩ := honly.role
    refine allows_iff.mpr ⟨?_, .role role hrole haction⟩
    intro tenant htenant
    rw [honly.tenant] at htenant
    exact (Option.some.inj htenant).symm
  have hscoped : asset.isSystemWide = false := by
    unfold BIAsset.isSystemWide
    rw [honly.tenant]
    rfl
  rcases law.ownerOnly hscoped honly.acl hgrant with h | h
  · rw [honly.notAdmin] at h
    exact Bool.false_ne_true h
  · rw [honly.notOwner] at h
    exact Bool.false_ne_true h

/-- The law holds except where a role alone opens an unshared asset of the tenant. -/
theorem policyLaw_iff (subject : PolicySubject) (action : BIAction) (asset : BIAsset) :
    PolicyLaw subject action asset ↔ ¬ RoleOnly subject action asset := by
  constructor
  · intro law honly
    exact honly.not_policyLaw law
  · intro honly
    constructor
    · intro tenant htenant hne hallows
      exact hne ((allows_iff.mp hallows).1 tenant htenant)
    · intro hscoped hacl hallows
      obtain ⟨hreach, hgrant⟩ := allows_iff.mp hallows
      rcases hgrant.of_acl_nil hacl with h | hrole
      · exact h
      · by_contra hneither
        rw [not_or, Bool.not_eq_true, Bool.not_eq_true] at hneither
        obtain ⟨tenant, htenant⟩ := Option.isSome_iff_exists.mp (by
          simpa [BIAsset.isSystemWide] using hscoped)
        refine honly ⟨?_, hacl, hneither.1, hneither.2, hrole⟩
        rw [htenant, hreach tenant htenant]
    · rintro rfl hallows
      exact (allows_iff.mp hallows).2.adminOrOwner_of_manage
    · intro subject' hs hallows
      exact hallows.mono hs (BIAsset.Grows.refl asset)
    · intro asset' ha hallows
      exact hallows.mono (PolicySubject.Grows.refl subject) ha

/-- Somebody of the finance team. -/
def financeUser : PolicySubject where
  userId := "user-123"
  tenantId := "tenant-abc"
  roles := {"finance"}
  userId_valid := by decide
  tenantId_valid := by decide

theorem acl_valid_nil : ∀ entry ∈ ([] : List String), isAclEntry entry = true :=
  List.forall_mem_nil _

/-- A report of another user of the tenant, shared with nobody. -/
def privateReport : BIAsset where
  urn := ⟨.report, .sales, "my_custom_report", by decide⟩
  tenantId := some "tenant-abc"
  ownerId := some "owner-001"
  acl := []
  tenantId_valid := by decide
  acl_valid := acl_valid_nil

theorem policyLaw_broken_privateReport : ¬ PolicyLaw financeUser .exportData privateReport := by
  apply RoleOnly.not_policyLaw
  exact ⟨rfl, rfl, by decide, by decide, "finance", by decide, by decide⟩

end Mpango.Governance
