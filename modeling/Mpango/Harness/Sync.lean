import Mpango.Harness.Drift
import Mathlib.Logic.Relation

/-!
# What the sync check lets through

A changed path that is governed needs a changed record, an eligible delta or a waiver. A protected
path needs an eligible delta of the kind governance, says the source; the check takes any eligible
delta and any changed record for it (`ProtectedByGovernance`).
-/

namespace Mpango

namespace Harness

/-! ## Paths -/

/-- A place without its last slashes. -/
def trimmed (place : String) : List Char := place.toList.rdropWhile (· = '/')

section Records
variable {classes : CharClasses} {head head' base : Records} {path : String}

namespace Content

def key : Content → RecordKind × String
  | node n => (.node, n.id)
  | interaction i => (.interaction, i.interactionId)
  | debt d => (.debt, d.debtId)

def semanticView : Content → Content
  | node n => .node n.semanticView
  | interaction i => .interaction i.semanticView
  | debt d => .debt d.semanticView

def coverage (classes : CharClasses) : Content → Coverage
  | node n => ⟨anchorFiles classes n.sourceAnchors, []⟩
  | interaction i => ⟨anchorFiles classes i.sourceAnchors, affectedPlaces i.affectedPaths⟩
  | debt d => ⟨[], affectedPlaces d.affectedPaths⟩

@[simp] theorem key_semanticView (r : Content) : r.semanticView.key = r.key := by cases r <;> rfl

@[simp] theorem coverage_semanticView (r : Content) :
    r.semanticView.coverage classes = r.coverage classes := by cases r <;> rfl

/-- The path is one of the anchors, or under an affected path. -/
def Covers (classes : CharClasses) (r : Content) (path : String) : Prop :=
  path ∈ (r.coverage classes).anchors ∨
    ∃ place ∈ (r.coverage classes).affected, pathMatches path place = true

theorem covers_congr {r r' : Content} (h : r.semanticView = r'.semanticView) :
    r.Covers classes path ↔ r'.Covers classes path := by
  rw [Covers, Covers, ← coverage_semanticView r, ← coverage_semanticView r', h]

end Content

/-- The records with an id. -/
def Records.all (records : Records) : List Content :=
  (records.nodes.filter (·.id ≠ "")).map .node ++
    (records.interactions.filter (·.interactionId ≠ "")).map .interaction ++
    (records.debts.filter (·.debtId ≠ "")).map .debt

theorem headRecords_eq (classes : CharClasses) (records : Records) :
    headRecords classes records = records.all.map fun r => (r.key, r.coverage classes) := by
  simp only [headRecords, Records.all, List.map_append, List.map_map]
  rfl

theorem rawRecords_eq (records : Records) :
    rawRecords records = records.all.map fun r => (r.key, r.semanticView) := by
  simp only [rawRecords, Records.all, List.map_append, List.map_map]
  rfl

/-- The record of a key: the last one with it. -/
def effective (rs : List Content) (key : RecordKind × String) : Option Content :=
  (rs.filter (·.key = key)).getLast?

theorem lookup?_map {β : Type} (f : Content → β) (rs : List Content) (key : RecordKind × String) :
    lookup? (rs.map fun r => (r.key, f r)) key = (effective rs key).map f := by
  rw [lookup?, effective, List.filter_map, List.getLast?_map, Option.map_map]
  rfl

theorem mem_of_effective {rs : List Content} {key : RecordKind × String} {r : Content}
    (h : effective rs key = some r) : r ∈ rs ∧ r.key = key := by
  have hr := List.mem_filter.mp (List.mem_of_getLast? h)
  exact ⟨hr.1, by simpa using hr.2⟩

/-- The record is new, or differs from that of the baseline beyond its notes. -/
def Changed (base : Records) (r : Content) : Prop :=
  (effective base.all r.key).map Content.semanticView ≠ some r.semanticView

theorem coveredByRecords_iff : coveredByRecords classes head base path = true ↔
    ∃ key r, effective head.all key = some r ∧ Changed base r ∧ r.Covers classes path := by
  simp only [coveredByRecords, changedKeys, headRecords_eq, rawRecords_eq, lookup?_map,
    List.any_eq_true, List.mem_filter, Option.any_eq_true, Option.map_eq_some_iff,
    decide_eq_true_eq, List.map_map, List.mem_map]
  constructor
  · rintro ⟨key, ⟨-, hchanged⟩, _, ⟨r, hr, rfl⟩, hcovers⟩
    refine ⟨key, r, hr, ?_, by simpa [Content.Covers] using hcovers⟩
    rw [Changed, (mem_of_effective hr).2]
    rwa [hr] at hchanged
  · rintro ⟨key, r, hr, hchanged, hcovers⟩
    obtain ⟨hmem, hkey⟩ := mem_of_effective hr
    rw [Changed, hkey] at hchanged
    refine ⟨key, ⟨⟨r, hmem, hkey⟩, ?_⟩, _, ⟨r, hr, rfl⟩, by simpa [Content.Covers] using hcovers⟩
    rwa [hr]

end Records

/-! ## Deltas and waivers -/

/-- What the sync and the waiver checks compare. -/
structure Change extends Comparison where
  interactions : List Interaction
  governedPrefixes : List String
  waivers : List Waiver
  today : Date

namespace Change

def records (c : Change) : Records := ⟨c.nodes, c.interactions, c.debts⟩

/-- What the two checks emit. -/
def violations (classes : CharClasses) (c : Change) : List Violation :=
  checkSemanticSync classes c.baseline c.records c.governedPrefixes c.waivers c.today
    c.authorizer ++ checkWaivers c.waivers c.today

/-- The path changed, and is governed. -/
def Governed (c : Change) (path : String) : Prop :=
  path ∈ c.baseline.changed ∧
    ∃ place ∈ c.governedPrefixes ++ protectedPaths, pathMatches path place = true

variable {classes : CharClasses} {c c' : Change} {sha path : String}

theorem mem_governedChanged :
    path ∈ governedChanged c.governedPrefixes c.baseline.changed ↔ c.Governed path := by
  rw [governedChanged, List.mem_mergeSort, List.mem_filter, List.any_eq_true]
  exact Iff.rfl

/-- An eligible delta has the path under an affected path. -/
def DeltaCovers (c : Change) (sha : String) (d : Delta) (path : String) : Prop :=
  c.Eligible sha d ∧ ∃ place ∈ d.affectedPaths, pathMatches path place = true

theorem coveredByDelta_iff (hsha : c.baseline.baseSha = some sha) :
    coveredByDelta c.authorizer path = true ↔ ∃ d, c.DeltaCovers sha d path := by
  simp only [coveredByDelta, DeltaAuthorizer.coveredPaths, List.any_eq_true, List.mem_flatMap]
  constructor
  · rintro ⟨place, ⟨d, hd, hplace⟩, hmatch⟩
    exact ⟨d, (Comparison.mem_usable_iff hsha).mp (List.mem_filter.mp hd).1, place, hplace, hmatch⟩
  · rintro ⟨d, heligible, place, hplace, hmatch⟩
    refine ⟨place, ⟨d, List.mem_filter.mpr ⟨?_, by simp⟩, hplace⟩, hmatch⟩
    exact (Comparison.mem_usable_iff hsha).mpr heligible

/-- A changed record of the head covers the path. -/
def RecordCovers (classes : CharClasses) (c : Change) (path : String) : Prop :=
  ∃ r ∈ c.records.all, Changed c.baseline.records r ∧ r.Covers classes path

/-- A waiver that has not expired waives the path, and no protected one. -/
def WaiverCovers (c : Change) (w : Waiver) (path : String) : Prop :=
  w.scope = "inventory-sync" ∧
    (∃ expires, w.expiresOn.bind Date.parse = some expires ∧
      c.today.position ≤ expires.position) ∧
    (∀ place ∈ w.paths, ∀ x, isProtected x = true → pathMatches x place = false) ∧
    ∃ place ∈ w.paths, pathMatches path place = true

theorem checkSemanticSync_eq_nil_iff (hgov : c.baseline.governancePresent = true) :
    checkSemanticSync classes c.baseline c.records c.governedPrefixes c.waivers c.today
        c.authorizer = [] ↔
      ∀ path, c.Governed path →
        coveredByDelta c.authorizer path = true ∨
          coveredByRecords classes c.records c.baseline.records path = true ∨
          isProtected path = false ∧ coveredByWaivers c.waivers c.today path = true := by
  rw [checkSemanticSync, if_pos hgov]
  simp only [List.append_eq_nil_iff, List.map_eq_nil_iff, ite_eq_left_iff, reduceCtorEq, imp_false,
    not_not, List.filter_eq_nil_iff, mem_governedChanged, decide_eq_true_eq]
  rw [← forall₂_and]
  refine forall₂_congr fun path _ => ?_
  rw [← Bool.not_eq_true]
  tauto

/-! ## Edits that must not help -/

/-- The rest of a comparison after an edit. The edit may change further paths. -/
structure SameRest (c c' : Change) : Prop where
  baseline : c'.baseline = { c.baseline with changed := c'.baseline.changed }
  changed : c.baseline.changed ⊆ c'.baseline.changed
  prefixes : c'.governedPrefixes = c.governedPrefixes
  waivers : c'.waivers = c.waivers
  today : c'.today = c.today

/-- An edit of notes, the return of a historical delta, or a new or an edited record that covers no
governed path that changed. -/
inductive CheapEdit (classes : CharClasses) (c c' : Change) : Prop
  | notes (rest : SameRest c c')
      (records : c'.records.all.map Content.semanticView = c.records.all.map Content.semanticView)
      (deltas : c'.deltas.map Delta.semanticView = c.deltas.map Delta.semanticView)
  | historical (rest : SameRest c c') (records : c'.records = c.records) (before after : List Delta)
      (d : Delta) (old : c.deltas = before ++ after) (new : c'.deltas = before ++ d :: after)
      (isHistorical : d.isHistorical c.baseline.deltas = true)
  | record (rest : SameRest c c') (deltas : c'.deltas = c.deltas) (before after : List Content)
      (r : Content)
      (old : c.records.all = before ++ after ∨
        ∃ r₀, r₀.key = r.key ∧ c.records.all = before ++ r₀ :: after)
      (new : c'.records.all = before ++ r :: after)
      (unrelated : ∀ path, c'.Governed path → ¬r.Covers classes path)

theorem SameRest.governed (h : SameRest c c') (hpath : c.Governed path) : c'.Governed path := by
  refine ⟨h.changed hpath.1, ?_⟩
  rw [h.prefixes]
  exact hpath.2

theorem SameRest.baseSha (h : SameRest c c') : c'.baseline.baseSha = c.baseline.baseSha := by
  rw [h.baseline]

theorem SameRest.deltas (h : SameRest c c') : c'.baseline.deltas = c.baseline.deltas := by
  rw [h.baseline]

theorem SameRest.records (h : SameRest c c') : c'.baseline.records = c.baseline.records := by
  rw [h.baseline]

theorem SameRest.governancePresent (h : SameRest c c') :
    c'.baseline.governancePresent = c.baseline.governancePresent := by
  rw [h.baseline]

theorem CheapEdit.rest (h : CheapEdit classes c c') : SameRest c c' := by
  cases h <;> assumption

theorem effective_append (l₁ l₂ : List Content) (key : RecordKind × String) :
    effective (l₁ ++ l₂) key = (effective l₂ key).or (effective l₁ key) := by
  rw [effective, List.filter_append, List.getLast?_append]
  rfl

theorem effective_semanticView (rs : List Content) (key : RecordKind × String) :
    effective (rs.map Content.semanticView) key = (effective rs key).map Content.semanticView := by
  rw [effective, List.filter_map, List.getLast?_map]
  simp only [Function.comp_def, Content.key_semanticView]
  rfl

/-- A record put among others is that of its key, or hides none of another. -/
theorem effective_of_insert {before after old : List Content} {r s : Content}
    {key : RecordKind × String}
    (hold : old = before ++ after ∨ ∃ r₀, r₀.key = r.key ∧ old = before ++ r₀ :: after)
    (h : effective (before ++ r :: after) key = some s) : s = r ∨ effective old key = some s := by
  have hcons (r : Content) : effective (before ++ r :: after) key =
      (effective after key).or ((effective [r] key).or (effective before key)) := by
    rw [effective_append, ← List.singleton_append, effective_append, Option.or_assoc]
  rw [hcons] at h
  by_cases hkey : r.key = key
  · have hr : effective [r] key = some r := by simp [effective, hkey]
    cases hafter : effective after key with
    | none =>
      rw [hafter, hr] at h
      exact .inl (Option.some.inj h).symm
    | some t =>
      rw [hafter] at h
      right
      rcases hold with rfl | ⟨r₀, -, rfl⟩
      · rw [effective_append, hafter]
        exact h
      · rw [hcons, hafter]
        exact h
  · have hout {r : Content} (hkey : r.key ≠ key) : effective [r] key = none := by
      simp [effective, hkey]
    right
    rw [hout hkey] at h
    rcases hold with rfl | ⟨r₀, hr₀, rfl⟩
    · rw [effective_append]
      exact h
    · rw [hcons, hout (hr₀ ▸ hkey)]
      exact h

/-- A cheap edit adds no eligible delta. -/
theorem CheapEdit.deltaCovers (h : CheapEdit classes c c') {d : Delta}
    (hd : c'.DeltaCovers sha d path) : ∃ d, c.DeltaCovers sha d path := by
  obtain ⟨⟨hhead, hid, hchanged, hbound⟩, hpath⟩ := hd
  rw [h.rest.deltas] at hchanged
  cases h with
  | notes rest records deltas =>
    have hview : d.semanticView ∈ c.deltas.map Delta.semanticView := by
      rw [← deltas]
      exact List.mem_map_of_mem hhead
    obtain ⟨d₀, hd₀, heq⟩ := List.mem_map.mp hview
    have hsame {β : Type} (f : Delta → β) (hf : ∀ d : Delta, f d.semanticView = f d) :
        f d₀ = f d := by rw [← hf d₀, heq, hf d]
    have hid₀ : d₀.deltaId = d.deltaId := hsame Delta.deltaId fun _ => rfl
    have hsha₀ : d₀.baseSha = d.baseSha := hsame Delta.baseSha fun _ => rfl
    have hpaths₀ : d₀.affectedPaths = d.affectedPaths := hsame Delta.affectedPaths fun _ => rfl
    refine ⟨d₀, ⟨hd₀, hid₀ ▸ hid, ?_, hsha₀.trans hbound⟩, hpaths₀ ▸ hpath⟩
    rw [hid₀, heq]
    exact hchanged
  | historical rest records before after d' old new isHistorical =>
    rw [new, List.mem_append, List.mem_cons] at hhead
    have hne : d ≠ d' := by
      rintro rfl
      exact hchanged (by simpa [Delta.isHistorical] using isHistorical)
    refine ⟨d, ⟨?_, hid, hchanged, hbound⟩, hpath⟩
    rw [old, List.mem_append]
    exact hhead.imp_right (·.resolve_left hne)
  | record rest deltas => exact ⟨d, ⟨deltas ▸ hhead, hid, hchanged, hbound⟩, hpath⟩

/-- A cheap edit adds no record that covers a governed path. -/
theorem CheapEdit.coveredByRecords (h : CheapEdit classes c c') (hpath : c.Governed path)
    (hcovered : coveredByRecords classes c'.records c'.baseline.records path = true) :
    coveredByRecords classes c.records c.baseline.records path = true := by
  rw [h.rest.records] at hcovered
  cases h with
  | notes rest records deltas =>
    rw [coveredByRecords_iff] at hcovered ⊢
    obtain ⟨key, r, hr, hchanged, hcovers⟩ := hcovered
    have hview : (effective c.records.all key).map Content.semanticView = some r.semanticView := by
      rw [← effective_semanticView, ← records, effective_semanticView, hr]
      rfl
    obtain ⟨r₀, hr₀, heq⟩ := Option.map_eq_some_iff.mp hview
    refine ⟨key, r₀, hr₀, ?_, (Content.covers_congr heq).mpr hcovers⟩
    rwa [Changed, heq, (mem_of_effective hr₀).2, ← (mem_of_effective hr).2]
  | historical rest records => rwa [records] at hcovered
  | record rest deltas before after r old new unrelated =>
    rw [coveredByRecords_iff] at hcovered ⊢
    obtain ⟨key, s, hs, hchanged, hcovers⟩ := hcovered
    rw [new] at hs
    rcases effective_of_insert old hs with rfl | hold
    · exact absurd hcovers (unrelated path (rest.governed hpath))
    · exact ⟨key, s, hold, hchanged, hcovers⟩

/-- A comparison with governance in the baseline and a base, of which nothing is emitted. -/
structure Accepted (classes : CharClasses) (c : Change) (sha : String) : Prop where
  governance : c.baseline.governancePresent = true
  baseSha : c.baseline.baseSha = some sha
  silent : c.violations classes = []

/-- What is accepted after a cheap edit was accepted before. -/
theorem CheapEdit.accepted (h : CheapEdit classes c c') (haccepted : c'.Accepted classes sha) :
    c.Accepted classes sha := by
  have hrest := h.rest
  obtain ⟨hgov', hsha', hsilent⟩ := haccepted
  obtain ⟨hsync, hwaivers⟩ := List.append_eq_nil_iff.mp hsilent
  have hgov : c.baseline.governancePresent = true := hrest.governancePresent ▸ hgov'
  have hsha : c.baseline.baseSha = some sha := hrest.baseSha ▸ hsha'
  rw [checkSemanticSync_eq_nil_iff hgov'] at hsync
  refine ⟨hgov, hsha, List.append_eq_nil_iff.mpr ⟨?_, ?_⟩⟩
  · rw [checkSemanticSync_eq_nil_iff hgov]
    intro path hpath
    rcases hsync path (hrest.governed hpath) with hdelta | hrecords | ⟨hunprotected, hwaived⟩
    · obtain ⟨d, hd⟩ := (coveredByDelta_iff hsha').mp hdelta
      exact .inl ((coveredByDelta_iff hsha).mpr (h.deltaCovers hd))
    · exact .inr (.inl (h.coveredByRecords hpath hrecords))
    · rw [hrest.waivers, hrest.today] at hwaived
      exact .inr (.inr ⟨hunprotected, hwaived⟩)
  · rwa [hrest.waivers, hrest.today] at hwaivers

/-- Protected paths changed with a governance delta, other governed ones with a changed record, a
delta or a waiver; and nothing cheap was needed for it. -/
structure Covered (classes : CharClasses) (c : Change) (sha : String) : Prop where
  protectedPath : ∀ path ∈ c.baseline.changed, isProtected path = true →
    ∃ d, c.DeltaCovers sha d path ∧ d.kind = some .governance
  otherPath : ∀ path, c.Governed path → isProtected path = false →
    c.RecordCovers classes path ∨ (∃ d, c.DeltaCovers sha d path) ∨
      ∃ w ∈ c.waivers, c.WaiverCovers w path
  uncheap : ∀ c₀, Relation.ReflTransGen (CheapEdit classes) c₀ c → c₀.violations classes = []

end Change

end Harness

end Mpango
