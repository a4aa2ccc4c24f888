import Mpango.Model.TenantFilter

/-!
# What the tenant filter keeps apart

The filter adds its conditions to the plain class of each entity in the result rows. So a
tenant-scoped class is cut down to the rows of the tenant where it stands plain in the statement and
is also in the result rows, and then also through outer joins. An alias, an entity that is only
joined, and a class that only an inner query reads are not cut down, and no tenant id is asked for
them (`barrier_iff`).
-/

namespace Mpango.TenantFilter

open Joins

variable {ρ : Type} {scope : Scope} {shape : Shape} {stmt : Statement ρ} {tenantId : String}
  {cls : ModelClass} {row : Row} {db db' : Database}

/-! ## The context -/

theorem criterion_isSome (hscoped : cls.scoped = true)
    (h : cls.hasWholesalerId = true → (Uuid.parse tenantId).isSome = true) :
    (criterion tenantId cls).isSome = true := by
  unfold criterion
  split
  · rfl
  · next hno =>
    have hwholesaler : cls.hasWholesalerId = true := by
      simpa [ModelClass.scoped, hno] using hscoped
    rw [if_pos hwholesaler, Option.isSome_map]
    exact h hwholesaler

/-- A statement is refused exactly if the context lacks what it needs. -/
theorem requireTenantContext_eq_ok :
    shape.requireTenantContext scope = .ok () ↔ ¬shape.Unmet scope := by
  unfold Shape.requireTenantContext Shape.Unmet
  split
  · next hschema => simp [hschema]
  · next hschema =>
    split
    · next hscoped =>
      obtain ⟨cls, hcls, hscoped⟩ := List.any_eq_true.mp hscoped
      split
      · next htenant =>
        refine iff_of_false nofun (not_not.mpr (.inr ⟨cls, hcls, hscoped, ?_⟩))
        rintro ⟨tenantId, hsome, -⟩
        rw [htenant] at hsome
        cases hsome
      · next tenantId htenant =>
        split
        · next hinvalid =>
          obtain ⟨hwholesaler, hparse⟩ := hinvalid
          obtain ⟨other, hother, hwholesaler⟩ := List.any_eq_true.mp hwholesaler
          refine iff_of_false nofun (not_not.mpr (.inr ⟨other, hother, ?_, ?_⟩))
          · simp [ModelClass.scoped, hwholesaler]
          · rintro ⟨tenantId', hsome, hvalid⟩
            obtain rfl := Option.some.inj (htenant.symm.trans hsome)
            simpa [hparse] using hvalid hwholesaler
        · next hvalid =>
          refine iff_of_true rfl ?_
          rintro (hnone | ⟨other, hother, -, hbad⟩)
          · exact hschema hnone
          · refine hbad ⟨tenantId, htenant, fun hwholesaler => ?_⟩
            rw [Option.isSome_iff_ne_none]
            exact fun hparse => hvalid ⟨List.any_eq_true.mpr ⟨other, hother, hwholesaler⟩, hparse⟩
    · next hunscoped =>
      refine iff_of_true rfl ?_
      rintro (hnone | ⟨cls, hcls, hscoped, -⟩)
      · exact hschema hnone
      · exact hunscoped (List.any_eq_true.mpr ⟨cls, hcls, hscoped⟩)

/-! ## The added conditions -/

/-- What the conditions ask of a source. -/
def check (tenantId : String) (mappers : List ModelClass) : Source → Option Row → Bool
  | .entity cls none, row? =>
    if cls ∈ mappers then (criterion tenantId cls).all fun p => row?.any p else true
  | _, _ => true

theorem lenient_check (tenantId : String) (mappers : List ModelClass) :
    Lenient (check tenantId mappers) := by
  intro s hnone row
  match s with
  | .subquery _ => rfl
  | .entity _ (some _) => rfl
  | .entity cls none =>
    simp only [check] at hnone ⊢
    split
    · next hmem =>
      rw [if_pos hmem] at hnone
      cases hcriterion : criterion tenantId cls with
      | none => rfl
      | some p =>
        rw [hcriterion] at hnone
        cases hnone
    · rfl

/-- A query with the conditions of some classes added. -/
structure Filtered (tenantId : String) (mappers : List ModelClass) (q q' : Query) : Prop where
  distinct : q.tree.sources.Nodup → q'.tree.sources.Nodup
  kept : ∀ s ∈ q.tree.sources, s ∈ q'.tree.sources
  added : ∀ s ∈ q'.tree.sources, s ∈ q.tree.sources ∨ ∃ cls ∈ mappers, s = .entity cls none ∧
    (criterion tenantId cls).isSome = true
  plain : ∀ cls ∈ mappers, (criterion tenantId cls).isSome = true →
    .entity cls none ∈ q'.tree.sources
  criteria : ∀ env, q'.criteria env = true ↔ q.criteria env = true ∧ ∀ cls ∈ mappers, ∀ p,
    criterion tenantId cls = some p → (env (.entity cls none)).any p = true

/-- `Select.where` on a column of a class. -/
theorem mem_whereColumn {q : Query} {p : Row → Bool} {s : Source} :
    s ∈ (q.whereColumn cls p).tree.sources ↔ s ∈ q.tree.sources ∨ s = .entity cls none := by
  unfold Query.whereColumn
  split
  · next hmem =>
    refine ⟨.inl, ?_⟩
    rintro (h | rfl)
    · exact h
    · exact hmem
  · simp [JoinTree.sources]

theorem whereColumn_distinct {q : Query} {p : Row → Bool} (h : q.tree.sources.Nodup) :
    (q.whereColumn cls p).tree.sources.Nodup := by
  unfold Query.whereColumn
  split
  · exact h
  · next hnew =>
    refine List.nodup_append'.mpr ⟨h, List.nodup_singleton _, ?_⟩
    intro s hs hnew'
    exact hnew (List.mem_singleton.mp hnew' ▸ hs)

/-- The loop over the mappers. -/
theorem filtered_foldl (tenantId : String) (mappers : List ModelClass) (q : Query) :
    Filtered tenantId mappers q (mappers.foldl (fun q cls =>
      match criterion tenantId cls with
      | some p => q.whereColumn cls p
      | none => q) q) := by
  induction mappers generalizing q with
  | nil => exact ⟨id, fun _ => id, fun _ => .inl, nofun, fun _ => by simp⟩
  | cons cls mappers ih =>
    rw [List.foldl_cons]
    cases hcriterion : criterion tenantId cls with
    | none =>
      have hrest := ih q
      refine ⟨hrest.distinct, hrest.kept, fun s hs => ?_, fun other hother hsome => ?_, ?_⟩
      · refine (hrest.added s hs).imp_right ?_
        rintro ⟨other, hother, hs⟩
        exact ⟨other, List.mem_cons_of_mem _ hother, hs⟩
      · rcases List.mem_cons.mp hother with rfl | hother
        · rw [hcriterion] at hsome
          cases hsome
        · exact hrest.plain other hother hsome
      · intro env
        rw [hrest.criteria, List.forall_mem_cons]
        simp [hcriterion]
    | some p =>
      have hrest := ih (q.whereColumn cls p)
      refine ⟨fun h => hrest.distinct (whereColumn_distinct h),
        fun s hs => hrest.kept s (mem_whereColumn.mpr (.inl hs)), fun s hs => ?_,
        fun other hother hsome => ?_, ?_⟩
      · rcases hrest.added s hs with hold | ⟨other, hother, hs⟩
        · refine (mem_whereColumn.mp hold).imp_right ?_
          rintro rfl
          exact ⟨cls, List.mem_cons_self, rfl, by simp [hcriterion]⟩
        · exact .inr ⟨other, List.mem_cons_of_mem _ hother, hs⟩
      · rcases List.mem_cons.mp hother with rfl | hother
        · exact hrest.kept _ (mem_whereColumn.mpr (.inr rfl))
        · exact hrest.plain other hother hsome
      · intro env
        rw [hrest.criteria, List.forall_mem_cons, Query.whereColumn, Bool.and_eq_true, and_assoc]
        simp [hcriterion]

theorem filtered_apply (htenant : scope.tenantId = some tenantId) :
    Filtered tenantId shape.allMappers { tree := shape.tree }
      (applyTenantIdCriteria scope shape) := by
  unfold applyTenantIdCriteria
  rw [htenant]
  exact filtered_foldl tenantId shape.allMappers _

/-- The added conditions ask one thing of each source. -/
theorem Filtered.criteria_eq {mappers : List ModelClass} {tree : JoinTree Source} {q : Query}
    (h : Filtered tenantId mappers { tree := tree } q) (env : Env Source Row) :
    q.criteria env = passes (check tenantId mappers) q.tree.sources env := by
  rw [Bool.eq_iff_iff, h.criteria, passes, List.all_eq_true]
  constructor
  · rintro ⟨-, hcriteria⟩ s -
    cases s with
    | subquery _ => rfl
    | entity cls alias? =>
      cases alias? with
      | some _ => rfl
      | none =>
        simp only [check]
        split
        · next hmem =>
          cases hcriterion : criterion tenantId cls with
          | none => rfl
          | some p => exact hcriteria cls hmem p hcriterion
        · rfl
  · intro hall
    refine ⟨rfl, fun cls hcls p hcriterion => ?_⟩
    have hplain := hall _ (h.plain cls hcls (by simp [hcriterion]))
    simpa only [check, if_pos hcls, hcriterion, Option.all_some] using hplain

/-! ## Rows of the tenant -/

theorem not_foreign_of_criterion {p : Row → Bool} (h : criterion tenantId cls = some p)
    (hrow : p row = true) : foreign tenantId cls row = false := by
  unfold criterion at h
  unfold foreign
  split at h
  · next htenant =>
    cases h
    rw [if_pos htenant, of_decide_eq_true hrow]
    simp
  · next htenant =>
    rw [if_neg htenant]
    split at h
    · next hwholesaler =>
      obtain ⟨tenantUuid, hparse, rfl⟩ := Option.map_eq_some_iff.mp h
      rw [if_pos hwholesaler, of_decide_eq_true hrow, hparse]
      simp
    · cases h

theorem not_foreign_of_unscoped (h : cls.scoped = false) : foreign tenantId cls row = false := by
  simp only [ModelClass.scoped, Bool.or_eq_false_iff] at h
  simp [foreign, h.1, h.2]

/-- A class without tenants has the same rows in both databases. -/
theorem SameFor.unscoped (h : SameFor tenantId db db') (hcls : cls.scoped = false) :
    db cls = db' cls := by
  have hsame := h cls
  simpa [not_foreign_of_unscoped hcls] using hsame

/-- The databases have the same rows that meet the condition of a class. -/
theorem SameFor.criterion (h : SameFor tenantId db db') {p : Row → Bool}
    (hp : criterion tenantId cls = some p) : (db cls).filter p = (db' cls).filter p := by
  have hkept (rows : List Row) :
      (rows.filter fun row => !foreign tenantId cls row).filter p = rows.filter p := by
    rw [List.filter_filter]
    refine List.filter_congr fun row _ => ?_
    cases hrow : p row with
    | false => rfl
    | true => rw [not_foreign_of_criterion hp hrow]; rfl
  rw [← hkept (db cls), ← hkept (db' cls), h cls]

theorem SameFor.only (h : SameFor tenantId db db') {inner : List ModelClass}
    (hinner : ∀ cls ∈ inner, cls.scoped = false) : db.only inner = db'.only inner := by
  funext cls
  unfold Database.only
  split
  · next hmem => exact h.unscoped (hinner cls hmem)
  · rfl

/-! ## The covered statements -/

/-- A source of a covered statement has the same rows of the tenant in both databases. -/
theorem SameFor.sourceRows (h : SameFor tenantId db db') (hcovered : shape.Covered) {q : Query}
    (hq : Filtered tenantId shape.allMappers { tree := shape.tree } q)
    (hvalid : ∀ cls ∈ shape.allMappers, cls.scoped = true →
      (TenantFilter.criterion tenantId cls).isSome = true)
    (s : Source) (hs : s ∈ q.tree.sources) :
    (sourceRows shape stmt db s).filter (fun row => check tenantId shape.allMappers s (some row)) =
      (sourceRows shape stmt db' s).filter
        fun row => check tenantId shape.allMappers s (some row) := by
  cases s with
  | subquery name => simp only [TenantFilter.sourceRows, h.only hcovered.2]
  | entity cls aliasName =>
    simp only [TenantFilter.sourceRows]
    cases hscoped : cls.scoped with
    | false => rw [h.unscoped hscoped]
    | true =>
      obtain ⟨rfl, hmem⟩ : aliasName = none ∧ cls ∈ shape.allMappers := by
        rcases hq.added _ hs with hold | ⟨other, hother, heq, -⟩
        · exact hcovered.1 cls aliasName hold hscoped
        · obtain ⟨rfl, rfl⟩ := Source.entity.inj heq
          exact ⟨rfl, hother⟩
      obtain ⟨p, hp⟩ := Option.isSome_iff_exists.mp (hvalid cls hmem hscoped)
      simp only [check, if_pos hmem, hp, Option.all_some, Option.any_some]
      exact h.criterion hp

/-- What a covered statement selects does not depend on other tenants. -/
theorem SameFor.selected (h : SameFor tenantId db db') (hcovered : shape.Covered) {q : Query}
    (hq : Filtered tenantId shape.allMappers { tree := shape.tree } q)
    (hvalid : ∀ cls ∈ shape.allMappers, cls.scoped = true →
      (TenantFilter.criterion tenantId cls).isSome = true) :
    selected shape stmt q db = selected shape stmt q db' := by
  have hcriteria : q.criteria = passes (check tenantId shape.allMappers) q.tree.sources :=
    funext hq.criteria_eq
  unfold TenantFilter.selected
  rw [h.only hcovered.2, hcriteria, ← List.filter_filter, ← List.filter_filter]
  congr 1
  exact (lenient_check tenantId shape.allMappers).filter_envs_congr _ q.tree
    (hq.distinct shape.distinct) (h.sourceRows hcovered hq hvalid)

/-- A row that a covered statement changes or deletes is not one of another tenant. -/
theorem after_foreign (hcovered : shape.Covered) {q : Query}
    (hq : Filtered tenantId shape.allMappers { tree := shape.tree } q)
    (hvalid : ∀ cls ∈ shape.allMappers, cls.scoped = true →
      (criterion tenantId cls).isSome = true)
    (hforeign : foreign tenantId cls row = true) : after shape stmt q db cls row = some row := by
  have hmiss (aliasName : Option String) (htarget : .entity cls aliasName ∈ shape.verb.entities) :
      (selected shape stmt q db).find? (fun env => env (.entity cls aliasName) = some row) =
        none := by
    rw [List.find?_eq_none]
    intro env henv hrow
    have hscoped : cls.scoped = true := by
      by_contra hno
      rw [not_foreign_of_unscoped (Bool.eq_false_iff.mpr hno)] at hforeign
      cases hforeign
    obtain ⟨rfl, hmem⟩ := hcovered.1 cls aliasName (shape.placed _ htarget) hscoped
    obtain ⟨p, hp⟩ := Option.isSome_iff_exists.mp (hvalid cls hmem hscoped)
    have hcriteria := (Bool.and_eq_true_iff.mp (List.mem_filter.mp henv).2).2
    have hmeets := ((hq.criteria env).mp hcriteria).2 cls hmem p hp
    rw [of_decide_eq_true hrow, Option.any_some] at hmeets
    rw [not_foreign_of_criterion hp hmeets] at hforeign
    cases hforeign
  unfold after
  cases hverb : shape.verb with
  | select entities => rfl
  | update target aliasName =>
    by_cases hcls : cls = target
    · subst hcls
      dsimp only
      rw [hmiss aliasName (by rw [hverb]; exact List.mem_singleton.mpr rfl)]
    · simp only [if_neg hcls]
      split <;> rfl
  | delete target aliasName =>
    by_cases hcls : cls = target
    · subst hcls
      refine if_neg ?_
      rintro ⟨-, hhit⟩
      dsimp only at hhit
      rw [hmiss aliasName (by rw [hverb]; exact List.mem_singleton.mpr rfl)] at hhit
      cases hhit
    · simp [hcls]

/-! ## Refusals -/

theorem execute_of_bypass_false (h : scope.isSystemScopeBypass = false) :
    execute scope shape stmt db = match shape.requireTenantContext scope with
      | .error detail => .refused detail
      | .ok () => .ran
        (stmt.result (db.only shape.inner)
          (selected shape stmt (applyTenantIdCriteria scope shape) db))
        (after shape stmt (applyTenantIdCriteria scope shape) db) := by
  unfold execute doOrmExecute
  rw [h, if_neg Bool.false_ne_true]
  cases shape.requireTenantContext scope <;> rfl

theorem execute_of_unmet (h : scope.isSystemScopeBypass = false) (hunmet : shape.Unmet scope) :
    ∃ detail, ∀ (stmt : Statement ρ) db, execute scope shape stmt db = .refused detail := by
  cases hrequire : shape.requireTenantContext scope with
  | error detail => exact ⟨detail, fun stmt db => by rw [execute_of_bypass_false h, hrequire]⟩
  | ok u => exact absurd hunmet (requireTenantContext_eq_ok.mp hrequire)

theorem execute_of_met (h : scope.isSystemScopeBypass = false) (hmet : ¬shape.Unmet scope) :
    execute scope shape stmt db = .ran
      (stmt.result (db.only shape.inner)
        (selected shape stmt (applyTenantIdCriteria scope shape) db))
      (after shape stmt (applyTenantIdCriteria scope shape) db) := by
  rw [execute_of_bypass_false h, requireTenantContext_eq_ok.mpr hmet]

theorem barrier_of_unmet (h : scope.isSystemScopeBypass = false) (hunmet : shape.Unmet scope)
    (stmt : Statement ρ) : Barrier scope shape stmt := by
  obtain ⟨detail, hrefused⟩ := execute_of_unmet (ρ := ρ) h hunmet
  refine ⟨fun tenantId _ db db' _ => ?_, fun tenantId _ db cls row _ _ => ?_, fun _ => ?_⟩
  · rw [hrefused, hrefused]
  · rw [hrefused]
    rfl
  · exact ⟨detail, hrefused stmt⟩

theorem mem_involved {shape : Shape} : cls ∈ shape.involved ↔
    (∃ aliasName, .entity cls aliasName ∈ shape.tree.sources) ∨ cls ∈ shape.inner := by
  rw [Shape.involved, List.mem_append, List.mem_filterMap]
  refine or_congr_left ⟨?_, ?_⟩
  · rintro ⟨s, hs, hcls⟩
    cases s with
    | entity other aliasName =>
      obtain rfl := Option.some.inj hcls
      exact ⟨aliasName, hs⟩
    | subquery name => cases hcls
  · rintro ⟨aliasName, hs⟩
    exact ⟨_, hs, rfl⟩

theorem barrier_of_covered (h : scope.isSystemScopeBypass = false) (hmet : ¬shape.Unmet scope)
    (hcovered : shape.Covered) (stmt : Statement ρ) : Barrier scope shape stmt := by
  have hvalid {tenantId : String} (htenant : scope.tenantId = some tenantId) :
      ∀ cls ∈ shape.allMappers, cls.scoped = true → (criterion tenantId cls).isSome = true := by
    intro cls hcls hscoped
    refine criterion_isSome hscoped ?_
    by_contra hno
    refine hmet (.inr ⟨cls, hcls, hscoped, ?_⟩)
    rintro ⟨tenantId', htenant', hvalid⟩
    obtain rfl := Option.some.inj (htenant.symm.trans htenant')
    exact hno hvalid
  refine ⟨fun tenantId htenant db db' hsame => ?_, fun tenantId htenant db cls row _ hforeign => ?_,
    ?_⟩
  · rw [execute_of_met h hmet, execute_of_met h hmet]
    simp only [Outcome.returned]
    rw [hsame.only hcovered.2, hsame.selected hcovered (filtered_apply htenant) (hvalid htenant)]
  · rw [execute_of_met h hmet]
    exact after_foreign hcovered (filtered_apply htenant) (hvalid htenant) hforeign
  · rintro ⟨cls, hcls, hscoped, hinvalid⟩
    refine absurd (Or.inr ⟨cls, ?_, hscoped, hinvalid⟩) hmet
    rcases mem_involved.mp hcls with ⟨aliasName, hs⟩ | hinner
    · exact (hcovered.1 cls aliasName hs hscoped).2
    · rw [hcovered.2 cls hinner] at hscoped
      cases hscoped

/-! ## The other statements -/

/-- A row of the tenant, whatever its class. -/
def ownRow (tenantId : String) : Row := { tenantId := tenantId, wholesalerId := Uuid.parse tenantId }

/-- A row of another tenant. -/
def foreignRow (tenantId : String) : Row where
  tenantId := some (tenantId ++ "-")
  wholesalerId := some (if Uuid.parse tenantId = some 0 then 1 else 0)

theorem ownRow_criterion {p : Row → Bool} (h : criterion tenantId cls = some p) :
    p (ownRow tenantId) = true := by
  unfold criterion at h
  split at h
  · cases h
    simp [ownRow]
  · split at h
    · obtain ⟨tenantUuid, hparse, rfl⟩ := Option.map_eq_some_iff.mp h
      simp [ownRow, hparse]
    · cases h

theorem foreign_ownRow : foreign tenantId cls (ownRow tenantId) = false := by
  unfold foreign ownRow
  split
  · simp
  · split
    · cases Uuid.parse tenantId <;> simp
    · rfl

theorem foreign_foreignRow (h : cls.scoped = true) :
    foreign tenantId cls (foreignRow tenantId) = true := by
  unfold foreign foreignRow
  split
  · simp
  · next htenant =>
    have hwholesaler : cls.hasWholesalerId = true := by
      simpa [ModelClass.scoped, htenant] using h
    rw [if_pos hwholesaler]
    by_cases hzero : Uuid.parse tenantId = some 0
    · rw [if_pos hzero, hzero]
      rfl
    · rw [if_neg hzero, Option.any_some, decide_eq_true_eq]
      exact hzero

theorem ownRow_ne_foreignRow (h : cls.scoped = true) : ownRow tenantId ≠ foreignRow tenantId := by
  intro heq
  have hforeign : foreign tenantId cls (foreignRow tenantId) = true := foreign_foreignRow h
  rw [← heq, foreign_ownRow] at hforeign
  cases hforeign

/-- Every class has a row of the tenant. -/
def ownRows (tenantId : String) : Database := fun _ => [ownRow tenantId]

/-- One class has a row of another tenant as well. -/
def mixedRows (tenantId : String) (cls : ModelClass) : Database := fun other =>
  if other = cls then [ownRow tenantId, foreignRow tenantId] else [ownRow tenantId]

theorem sameFor_mixedRows (h : cls.scoped = true) :
    SameFor tenantId (ownRows tenantId) (mixedRows tenantId cls) := by
  intro other
  unfold ownRows mixedRows
  split
  · next heq =>
    subst heq
    simp [foreign_ownRow, foreign_foreignRow h]
  · rfl

/-- Ask whether a source stands for a row of another tenant. -/
def probe (tenantId : String) (s : Source) : Statement Bool where
  subquery _ _ := [ownRow tenantId]
  condition _ env := env s = some (foreignRow tenantId)
  result _ envs := envs.isEmpty

/-- Ask whether an inner query finds a row of another tenant. -/
def innerProbe (tenantId : String) (cls : ModelClass) : Statement Bool where
  result db _ := foreignRow tenantId ∈ db cls

theorem choice_mem {aliasName : Option String} (s : Source) :
    (if s = .entity cls aliasName then foreignRow tenantId else ownRow tenantId) ∈
      sourceRows shape (probe tenantId (.entity cls aliasName)) (mixedRows tenantId cls) s := by
  cases s with
  | subquery name =>
    rw [if_neg nofun]
    exact List.mem_singleton.mpr rfl
  | entity other otherAlias =>
    simp only [sourceRows, mixedRows]
    by_cases hother : other = cls
    · rw [if_pos hother]
      split <;> simp
    · rw [if_neg hother, if_neg fun h => hother (Source.entity.inj h).1]
      exact List.mem_singleton.mpr rfl

/-- A source that is not covered lets the row of another tenant through. -/
theorem probe_sees {aliasName : Option String} {q : Query}
    (hq : Filtered tenantId shape.allMappers { tree := shape.tree } q)
    (hs : .entity cls aliasName ∈ shape.tree.sources) (hscoped : cls.scoped = true)
    (huncovered : ¬(aliasName = none ∧ cls ∈ shape.allMappers)) :
    (selected shape (probe tenantId (.entity cls aliasName)) q (ownRows tenantId)).isEmpty ≠
      (selected shape (probe tenantId (.entity cls aliasName)) q
        (mixedRows tenantId cls)).isEmpty := by
  have hnone : selected shape (probe tenantId (.entity cls aliasName)) q (ownRows tenantId) = [] := by
    rw [selected, List.filter_eq_nil_iff]
    intro env henv hmeets
    have hrow := of_decide_eq_true (Bool.and_eq_true_iff.mp hmeets).1
    have hmem := (JoinTree.mem_of_mem_envs henv hrow).2
    exact ownRow_ne_foreignRow hscoped (List.mem_singleton.mp hmem).symm
  -- Every source stands for a row of the tenant, only the one that is asked does not.
  obtain ⟨env, henv, hchoice⟩ := JoinTree.exists_mem_envs
    (sourceRows shape (probe tenantId (.entity cls aliasName)) (mixedRows tenantId cls)) q.tree
    (hq.distinct shape.distinct)
    (fun s => if s = .entity cls aliasName then foreignRow tenantId else ownRow tenantId)
    (fun s _ => choice_mem s)
  have hsome : env ∈ selected shape (probe tenantId (.entity cls aliasName)) q
      (mixedRows tenantId cls) := by
    have hasked : env (.entity cls aliasName) = some (foreignRow tenantId) := by
      rw [hchoice _ (hq.kept _ hs), if_pos rfl]
    refine List.mem_filter.mpr ⟨henv, Bool.and_eq_true_iff.mpr ⟨decide_eq_true hasked, ?_⟩⟩
    refine (hq.criteria env).mpr ⟨rfl, fun other hother p hp => ?_⟩
    have hne : (.entity other none : Source) ≠ .entity cls aliasName := by
      intro heq
      obtain ⟨rfl, rfl⟩ := Source.entity.inj heq
      exact huncovered ⟨rfl, hother⟩
    rw [hchoice _ (hq.plain other hother (by rw [hp]; rfl)), if_neg hne, Option.any_some]
    exact ownRow_criterion hp
  rw [hnone]
  cases hselected : selected shape (probe tenantId (.entity cls aliasName)) q
      (mixedRows tenantId cls) with
  | nil =>
    rw [hselected] at hsome
    cases hsome
  | cons => nofun

/-! ## The law -/

theorem covered_of_barrier (h : scope.isSystemScopeBypass = false) (hmet : ¬shape.Unmet scope)
    (hbarrier : ∀ stmt : Statement Bool, Barrier scope shape stmt) : shape.Covered := by
  -- The statement runs, so whatever it involves has a tenant id to be compared with.
  have hvalid : ∀ cls ∈ shape.involved, cls.scoped = true → scope.ValidFor cls := by
    intro cls hcls hscoped
    by_contra hno
    obtain ⟨detail, hrefused⟩ := (hbarrier { result := fun _ _ => true }).refused
      ⟨cls, hcls, hscoped, hno⟩
    have hran := hrefused fun _ => []
    rw [execute_of_met h hmet] at hran
    cases hran
  have hreturned {tenantId : String} (htenant : scope.tenantId = some tenantId)
      (stmt : Statement Bool) {db db' : Database} (hsame : SameFor tenantId db db') :
      stmt.result (db.only shape.inner)
          (selected shape stmt (applyTenantIdCriteria scope shape) db) =
        stmt.result (db'.only shape.inner)
          (selected shape stmt (applyTenantIdCriteria scope shape) db') := by
    have hconfined := (hbarrier stmt).confined tenantId htenant db db' hsame
    rw [execute_of_met h hmet, execute_of_met h hmet] at hconfined
    exact Except.ok.inj hconfined
  constructor
  · intro cls aliasName hs hscoped
    obtain ⟨tenantId, htenant, -⟩ :=
      hvalid cls (mem_involved.mpr (.inl ⟨aliasName, hs⟩)) hscoped
    by_contra huncovered
    exact probe_sees (filtered_apply htenant) hs hscoped huncovered
      (hreturned htenant (probe tenantId (.entity cls aliasName)) (sameFor_mixedRows hscoped))
  · intro cls hinner
    by_contra hno
    have hscoped : cls.scoped = true := by simpa using hno
    obtain ⟨tenantId, htenant, -⟩ := hvalid cls (mem_involved.mpr (.inr hinner)) hscoped
    have hseen := hreturned htenant (innerProbe tenantId cls) (sameFor_mixedRows hscoped)
    simp only [innerProbe, Database.only, if_pos hinner, ownRows, mixedRows, if_true,
      List.mem_cons, List.not_mem_nil, or_false, (ownRow_ne_foreignRow hscoped).symm, or_true,
      decide_true, decide_false, reduceCtorEq] at hseen

/-- The filter is a barrier for the statements of a shape exactly if they bypass it, are refused, or
have all their tenant-scoped classes plain among their results. -/
theorem barrier_iff (scope : Scope) (shape : Shape) :
    (scope.isSystemScopeBypass = false →
      ∀ (ρ : Type) (stmt : Statement ρ), Barrier scope shape stmt) ↔
      (scope.isSystemScopeBypass = false → ¬shape.Unmet scope → shape.Covered) := by
  refine forall_congr' fun h => ⟨fun hbarrier hmet => ?_, fun hcovered ρ stmt => ?_⟩
  · exact covered_of_barrier h hmet (hbarrier Bool)
  · by_cases hunmet : shape.Unmet scope
    · exact barrier_of_unmet h hunmet stmt
    · exact barrier_of_covered h hunmet (hcovered hunmet) stmt

/-! ### An alias -/

def order : ModelClass := { name := "Order", hasWholesalerId := true }

/-- `o = aliased(Order); select(o)` -/
def aliasedOrders : Shape where
  verb := .select [.entity order (some "o")]
  tree := .source (.entity order (some "o"))

def listOrders : Statement (List (Option Row)) where
  result _ envs := envs.map fun env => env (.entity order (some "o"))

/-- A session of tenant 1. -/
def tenantSession : Scope where
  infoTenantId := some (Uuid.text 1)
  infoTenantSchema := some "t_00000000000000000000000000000001"

theorem barrier_broken_aliasedOrders : ¬Barrier tenantSession aliasedOrders listOrders := by
  intro hbarrier
  have hconfined := hbarrier.confined (Uuid.text 1) (by decide +kernel) _ _
    (sameFor_mixedRows (show order.scoped = true from rfl))
  have hrows : ((execute tenantSession aliasedOrders listOrders
      (ownRows (Uuid.text 1))).returned).toOption.map List.length = some 1 := by decide +kernel
  rw [hconfined] at hrows
  revert hrows
  decide +kernel

end Mpango.TenantFilter