import Mathlib.Data.Fintype.EquivFin
import Mathlib.Data.Set.Finite.List
import Mpango.Harness.Sync

/-!
# A tree compared with itself

After a change is accepted its head is the next baseline, and an empty change compares the two. Then
no path is changed, no node is gone or moved, and no delta is eligible unless two share an id. What
is left are the fields that tell of the last change: a node still says what it was renamed from, and
the delta for it is still there.
-/

namespace Mpango

namespace Harness

/-- Ids do not move within their own order. -/
theorem movedIds_self (ids : List String) : movedIds ids ids = [] := by
  have hall : ids.filter (· ∈ ids) = ids := by
    rw [List.filter_eq_self]
    simp
  have hlcs : lcs ids ids = ids :=
    (lcs_sublist_right ids ids).eq_of_length_le
      (length_le_of_sublist (List.Sublist.refl _) (List.Sublist.refl _))
  rw [movedIds]
  simp only [hall, hlcs]
  rw [List.dedup_eq_nil, List.filter_eq_nil_iff]
  intro id hid
  simpa using hid

namespace Comparison

/-- There is always a base that no delta is bound to. -/
theorem exists_unbound (deltas : List Delta) :
    ∃ sha : String, ∀ d ∈ deltas, d.baseSha ≠ some sha := by
  obtain ⟨sha, hsha⟩ := Infinite.exists_notMem_finset (deltas.filterMap (·.baseSha)).toFinset
  refine ⟨sha, fun d hd hbound => hsha ?_⟩
  rw [List.mem_toFinset, List.mem_filterMap]
  exact ⟨d, hd, hbound⟩

end Comparison

namespace Change

variable {classes : CharClasses} {c : Change}

/-- The drift, the status and the sync check emit nothing. -/
def Silent (classes : CharClasses) (c : Change) : Prop :=
  c.toComparison.violations = [] ∧
    checkSemanticSync classes c.baseline c.records c.governedPrefixes c.waivers c.today
      c.authorizer = []

/-- The head compared with itself, with no path changed. -/
def againstItself (c : Change) (sha : String) : Change :=
  { c with
    baseline :=
      { governancePresent := true
        changed := []
        inventory := some c.nodes
        records := c.records
        deltas := c.deltas
        baseSha := some sha } }

/-- The head has nothing left to tell of its last change: what its nodes were renamed from is still
there, without a delta for the renaming, and no two records of one id disagree on their status. -/
structure Settled (c : Change) : Prop where
  renamed : ∀ n ∈ c.nodes, ∀ previous, n.previous = some previous →
    previous ∈ c.headIds ∧ ¬c.Proposed .rename [previous, n.id]
  nodes : ∀ n ∈ c.nodes, ∀ was, baseStatus c.nodes n.id = some was →
    n.status = some was ∨ executes was n.status = true
  debts : ∀ d ∈ c.debts, ∀ was, baseDebtStatus c.debts d.debtId = some was →
    d.status = some was ∨ d.status = some .closed ∨ was ≠ .closed

theorem checkSemanticSync_againstItself (sha : String) :
    checkSemanticSync classes (c.againstItself sha).baseline (c.againstItself sha).records
      (c.againstItself sha).governedPrefixes (c.againstItself sha).waivers
      (c.againstItself sha).today (c.againstItself sha).authorizer = [] := by
  rw [checkSemanticSync_eq_nil_iff rfl]
  rintro path ⟨hchanged, -⟩
  cases hchanged

/-- Where no two nodes and no two debts share an id, only renamings are left to tell of. -/
theorem settled_iff_of_nodup (hnodes : c.headIds.Nodup) (hdebts : (c.debts.map (·.debtId)).Nodup) :
    c.Settled ↔ ∀ n ∈ c.nodes, ∀ previous, n.previous = some previous →
      previous ∈ c.headIds ∧ ¬c.Proposed .rename [previous, n.id] := by
  constructor
  · intro h
    exact h.renamed
  · intro hrenamed
    refine ⟨hrenamed, fun n hn was hwas => ?_, fun d hd was hwas => ?_⟩
    · rw [Comparison.baseStatus_of_mem hnodes hn] at hwas
      exact .inl hwas
    · rw [baseDebtStatus, filter_key_eq hdebts hd] at hwas
      exact .inl hwas

/-- What is left to check of a head against itself. -/
theorem silent_againstItself (sha : String) :
    (c.againstItself sha).Silent classes ↔
      (∀ n ∈ c.nodes, ∀ previous, n.previous = some previous → previous ∈ c.headIds ∧
        (c.Proposed .rename [previous, n.id] →
          (c.againstItself sha).Named sha .rename [previous, n.id])) ∧
      (∀ n ∈ c.nodes, ∀ was, baseStatus c.nodes n.id = some was →
        n.status = some was ∨ executes was n.status = true ∨
          (c.againstItself sha).Named sha .reclassify [n.id]) ∧
      ∀ d ∈ c.debts, ∀ was, baseDebtStatus c.debts d.debtId = some was →
        d.status = some was ∨ d.status = some .closed ∨ was ≠ .closed ∨
          (c.againstItself sha).Named sha .reclassify [d.debtId] := by
  rw [Silent, and_iff_left (checkSemanticSync_againstItself sha), Comparison.violations,
    List.append_eq_nil_iff, Comparison.checkDrift_eq_nil_iff rfl rfl rfl,
    Comparison.checkStatusTransitions_eq_nil_iff rfl rfl]
  refine and_congr_left fun _ => ?_
  constructor
  · exact fun h => h.2.1
  · intro h
    refine ⟨fun id hid hout => absurd hid hout, h, fun id hid => ?_⟩
    rw [show (c.againstItself sha).baseIds = (c.againstItself sha).headIds from rfl,
      movedIds_self] at hid
    cases hid

/-- A head is accepted against itself, whatever the comparison is bound to, exactly when nothing of
its last change is left in it. -/
theorem silent_againstItself_iff (classes : CharClasses) (c : Change) :
    (∀ sha, (c.againstItself sha).Silent classes) ↔ c.Settled := by
  constructor
  · intro hsilent
    obtain ⟨sha, hsha⟩ := Comparison.exists_unbound c.deltas
    have hnone : ∀ kind ids, ¬(c.againstItself sha).Named sha kind ids := by
      rintro kind ids ⟨d, hd, -⟩
      exact hsha d hd.head hd.bound
    obtain ⟨hrenamed, hnodes, hdebts⟩ := (silent_againstItself sha).mp (hsilent sha)
    refine ⟨fun n hn previous hprevious => ?_, fun n hn was hwas => ?_, fun d hd was hwas => ?_⟩
    · obtain ⟨hin, hdelta⟩ := hrenamed n hn previous hprevious
      exact ⟨hin, fun hproposed => hnone _ _ (hdelta hproposed)⟩
    · have hkept := hnodes n hn was hwas
      rwa [or_iff_left (hnone _ _)] at hkept
    · have hkept := hdebts d hd was hwas
      rwa [or_iff_left (hnone _ _)] at hkept
  · intro h sha
    rw [silent_againstItself]
    refine ⟨fun n hn previous hprevious => ?_, fun n hn was hwas => ?_, fun d hd was hwas => ?_⟩
    · obtain ⟨hin, hno⟩ := h.renamed n hn previous hprevious
      exact ⟨hin, fun hproposed => absurd hproposed hno⟩
    · exact (h.nodes n hn was hwas).imp_right .inl
    · exact (h.debts d hd was hwas).imp_right fun h => h.imp_right .inl

/-- A node renamed with its delta. -/
def renamedChange : Change where
  toComparison := .proposedRun
  interactions := []
  governedPrefixes := ["backend/"]
  waivers := []
  today := ⟨2025, 6, 1⟩

/-- The accepted renaming is refused the next time. -/
theorem silent_againstItself_broken_renamedChange :
    renamedChange.baseline.governancePresent = true ∧
      renamedChange.Silent CharClasses.ascii ∧
        ¬(renamedChange.againstItself "5eee").Silent CharClasses.ascii := by
  refine ⟨rfl, ⟨by decide +kernel, by decide +kernel⟩, fun h => ?_⟩
  have hgone := ((silent_againstItself "5eee").mp h).1 _ (List.mem_singleton_self _) "AUTH-1"
    (by decide)
  exact absurd hgone.1 (by decide)

end Change

end Harness

end Mpango
