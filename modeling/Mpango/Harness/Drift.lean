import Mpango.Model.Harness

/-!
# What the drift checks let through

A comparison of which the drift and the status checks emit nothing has been seen to be in order in
the ways of `Checked`. That accounts for the nodes that keep their ids. Of a node that says it is
another one renamed they only see that no delta for it is unusable: `RenamesAccounted` says what
they leave to the head.
-/

namespace Mpango

namespace Harness

open scoped List

/-! ## Orders -/

/-- Of two ids that stand the other way round in the head, one has moved. -/
theorem moved_of_swap {base head : List String} (hbase : base.Nodup) (hhead : head.Nodup)
    {id₁ id₂ : String} (h₁₂ : [id₁, id₂] <+ base) (h₂₁ : [id₂, id₁] <+ head) :
    id₁ ∈ movedIds base head ∨ id₂ ∈ movedIds base head := by
  have hbase₁ : id₁ ∈ base := h₁₂.subset (by simp)
  have hbase₂ : id₂ ∈ base := h₁₂.subset (by simp)
  have hhead₁ : id₁ ∈ head := h₂₁.subset (by simp)
  have hhead₂ : id₂ ∈ head := h₂₁.subset (by simp)
  have hcommonBase : [id₁, id₂] <+ base.filter (· ∈ head) := by
    have hfilter := h₁₂.filter (· ∈ head)
    rwa [List.filter_cons_of_pos (by simpa using hhead₁),
      List.filter_cons_of_pos (by simpa using hhead₂)] at hfilter
  have hcommonHead : [id₂, id₁] <+ head.filter (· ∈ base) := by
    have hfilter := h₂₁.filter (· ∈ base)
    rwa [List.filter_cons_of_pos (by simpa using hbase₂),
      List.filter_cons_of_pos (by simpa using hbase₁)] at hfilter
  by_contra hstable
  obtain ⟨hstable₁, hstable₂⟩ := not_or.mp hstable
  have hlcs {id : String} (hb : id ∈ base) (hh : id ∈ head) (hm : id ∉ movedIds base head) :
      id ∈ lcs (base.filter (· ∈ head)) (head.filter (· ∈ base)) := by
    by_contra hoff
    apply hm
    rw [movedIds, List.mem_dedup, List.mem_filter]
    exact ⟨List.mem_filter.mpr ⟨hh, by simpa using hb⟩, by simpa using hoff⟩
  have hsame : [id₁, id₂] <+ head.filter (· ∈ base) :=
    sublist_pair_of_common (lcs_sublist_left _ _) (lcs_sublist_right _ _) (hbase.filter _)
      (hlcs hbase₁ hhead₁ hstable₁) (hlcs hbase₂ hhead₂ hstable₂) hcommonBase
  exact not_sublist_swap (hhead.filter _) hsame hcommonHead

/-- Nothing has moved exactly when the ids of both orders stand in the same order. -/
theorem movedIds_eq_nil_iff {base head : List String} (hbase : base.Nodup) (hhead : head.Nodup) :
    movedIds base head = [] ↔ base.filter (· ∈ head) = head.filter (· ∈ base) := by
  constructor
  · intro hmoved
    have hperm : (base.filter (· ∈ head)).Perm (head.filter (· ∈ base)) := by
      rw [List.perm_ext_iff_of_nodup (hbase.filter _) (hhead.filter _)]
      intro id
      simp only [List.mem_filter, decide_eq_true_eq]
      exact and_comm
    have hall : head.filter (· ∈ base) ⊆ lcs (base.filter (· ∈ head)) (head.filter (· ∈ base)) := by
      intro id hid
      by_contra hoff
      have hin : id ∈ movedIds base head := by
        rw [movedIds, List.mem_dedup, List.mem_filter]
        exact ⟨hid, by simpa using hoff⟩
      rw [hmoved] at hin
      cases hin
    have hlength := ((hhead.filter (· ∈ base)).subperm hall).length_le
    have hright := (lcs_sublist_right _ _).eq_of_length_le hlength
    have hleft := (lcs_sublist_left (base.filter (· ∈ head)) (head.filter (· ∈ base))).eq_of_length_le
      (hperm.length_eq.trans_le hlength)
    exact hleft.symm.trans hright
  · intro hsame
    have hlcs : lcs (base.filter (· ∈ head)) (head.filter (· ∈ base)) = head.filter (· ∈ base) := by
      rw [hsame]
      exact (lcs_sublist_right _ _).eq_of_length_le
        (length_le_of_sublist (List.Sublist.refl _) (List.Sublist.refl _))
    rw [movedIds]
    simp only [hlcs]
    rw [List.dedup_eq_nil, List.filter_eq_nil_iff]
    intro id hid
    simpa using hid

/-! ## Lists of records -/

theorem forall_mem_zipIdx {α : Type} {xs : List α} {P : α → Prop} :
    (∀ p ∈ xs.zipIdx, P p.1) ↔ ∀ x ∈ xs, P x := by
  constructor
  · intro h x hx
    obtain ⟨idx, hidx⟩ := List.getElem?_of_mem hx
    exact h (x, idx) (List.mk_mem_zipIdx_iff_getElem?.mpr hidx)
  · rintro h ⟨x, idx⟩ hx
    exact h x (List.mem_of_getElem? (List.mk_mem_zipIdx_iff_getElem?.mp hx))

/-- Where keys do not repeat, a record is the only one with its key. -/
theorem filter_key_eq {α : Type} {key : α → String} {xs : List α} (hkeys : (xs.map key).Nodup)
    {x : α} (hx : x ∈ xs) : xs.filter (fun y => key y = key x) = [x] := by
  induction xs with
  | nil => cases hx
  | cons y ys ih =>
    obtain ⟨hy, hkeys⟩ := List.nodup_cons.mp hkeys
    rcases List.mem_cons.mp hx with rfl | hx
    · have hrest : ys.filter (fun y => key y = key x) = [] := by
        rw [List.filter_eq_nil_iff]
        intro z hz hsame
        exact hy (List.mem_map.mpr ⟨z, hz, by simpa using hsame⟩)
      rw [List.filter_cons_of_pos (by simp), hrest]
    · have hne : key y ≠ key x := fun h => hy (List.mem_map.mpr ⟨x, hx, h.symm⟩)
      rw [List.filter_cons_of_neg (by simpa using hne)]
      exact ih hkeys hx

/-! ## Comparisons -/

/-- A delta of a kind that names ids. -/
def Delta.Names (d : Delta) (kind : DeltaKind) (ids : List String) : Prop :=
  d.kind = some kind ∧ ∀ id ∈ ids, id ∈ d.affectedIds

theorem isMatch_iff {d : Delta} {kind : DeltaKind} {ids : List String} :
    DeltaAuthorizer.isMatch d kind (some ids) none = true ↔ d.Names kind ids := by
  simp [DeltaAuthorizer.isMatch, Delta.Names]

/-- A node of the head is one of the baseline, under its own id or under a new one. -/
def Node.Succeeds (n b : Node) : Prop := n.id = b.id ∨ n.previous = some b.id

/-- What the drift and the status checks compare. -/
structure Comparison where
  baseline : Baseline
  nodes : List Node
  debts : List Debt
  deltas : List Delta

/-- A node of the examples. -/
def exampleNode (id : String) (status : NodeStatus) (renamedFrom : Option String) : Node :=
  ⟨id, some status, renamedFrom, [], [], none⟩

namespace Comparison

def authorizer (c : Comparison) : DeltaAuthorizer :=
  .make c.deltas c.baseline.deltas c.baseline.baseSha

/-- What the two checks emit. -/
def violations (c : Comparison) : List Violation :=
  checkDrift c.authorizer c.baseline c.nodes ++
    checkStatusTransitions c.authorizer c.baseline c.nodes c.debts

def baseNodes (c : Comparison) : List Node := c.baseline.inventory.getD []

def baseIds (c : Comparison) : List String := c.baseNodes.map (·.id)

def headIds (c : Comparison) : List String := c.nodes.map (·.id)

variable {c : Comparison} {sha : String} {kind : DeltaKind} {ids : List String}

/-! ## Eligible deltas -/

/-- A delta that was added or changed in this comparison and is bound to its base. -/
structure Eligible (c : Comparison) (sha : String) (d : Delta) : Prop where
  head : d ∈ c.deltas
  identified : d.deltaId ≠ ""
  changed : baseById c.baseline.deltas d.deltaId ≠ some d.semanticView
  bound : d.baseSha = some sha

/-- Some eligible delta of a kind names ids. -/
def Named (c : Comparison) (sha : String) (kind : DeltaKind) (ids : List String) : Prop :=
  ∃ d, c.Eligible sha d ∧ d.Names kind ids

/-- Some delta of a kind in the head names ids, eligible or not. -/
def Proposed (c : Comparison) (kind : DeltaKind) (ids : List String) : Prop :=
  ∃ d ∈ c.deltas, d.deltaId ≠ "" ∧ d.Names kind ids

theorem Named.proposed (h : c.Named sha kind ids) : c.Proposed kind ids := by
  obtain ⟨d, hd, hnames⟩ := h
  exact ⟨d, hd.head, hd.identified, hnames⟩

/-- The deltas a request may use are the eligible ones. -/
theorem mem_usable_iff (hsha : c.baseline.baseSha = some sha) {d : Delta} :
    d ∈ c.authorizer.new.filter (· ∉ c.authorizer.baseMismatch) ↔ c.Eligible sha d := by
  simp only [authorizer, DeltaAuthorizer.make, Delta.isHistorical, hsha, List.mem_filter,
    decide_eq_true_eq, Bool.not_eq_true', decide_eq_false_iff_not, not_and, not_not]
  constructor
  · rintro ⟨⟨⟨hhead, hid⟩, hchanged⟩, hbound⟩
    exact ⟨hhead, hid, hchanged, hbound ⟨⟨hhead, hid⟩, hchanged⟩⟩
  · rintro ⟨hhead, hid, hchanged, hbound⟩
    exact ⟨⟨⟨hhead, hid⟩, hchanged⟩, fun _ => hbound⟩

theorem authorize_eq_authorized (hsha : c.baseline.baseSha = some sha) :
    c.authorizer.authorize kind (some ids) none = .authorized ↔ c.Named sha kind ids := by
  have hany : (c.authorizer.new.filter (· ∉ c.authorizer.baseMismatch)).any
      (DeltaAuthorizer.isMatch · kind (some ids) none) = true ↔ c.Named sha kind ids := by
    rw [List.any_eq_true]
    exact exists_congr fun d => and_congr (mem_usable_iff hsha) isMatch_iff
  rw [DeltaAuthorizer.authorize, ← hany]
  split
  · next h => exact iff_of_true rfl h
  · next h =>
    refine iff_of_false ?_ h
    split
    · nofun
    · split <;> nofun

/-- Every delta of the head with an id is usable, bound to another base, or of the baseline. -/
theorem proposed_iff :
    c.Proposed kind ids ↔
      (c.authorizer.new.filter (· ∉ c.authorizer.baseMismatch)).any
          (DeltaAuthorizer.isMatch · kind (some ids) none) = true ∨
        c.authorizer.baseMismatch.any (DeltaAuthorizer.isMatch · kind (some ids) none) = true ∨
        c.authorizer.historical.any (DeltaAuthorizer.isMatch · kind (some ids) none) = true := by
  simp only [List.any_eq_true, isMatch_iff]
  constructor
  · rintro ⟨d, hhead, hid, hnames⟩
    have hidentified : d ∈ c.deltas.filter (·.deltaId ≠ "") := by simpa using ⟨hhead, hid⟩
    by_cases hhist : d.isHistorical c.baseline.deltas = true
    · exact .inr (.inr ⟨d, List.mem_filter.mpr ⟨hidentified, hhist⟩, hnames⟩)
    · have hnew : d ∈ c.authorizer.new := List.mem_filter.mpr ⟨hidentified, by simpa using hhist⟩
      by_cases hmis : d ∈ c.authorizer.baseMismatch
      · exact .inr (.inl ⟨d, hmis, hnames⟩)
      · exact .inl ⟨d, List.mem_filter.mpr ⟨hnew, by simpa using hmis⟩, hnames⟩
  · have hof {d : Delta} (hd : d ∈ c.deltas.filter (·.deltaId ≠ "")) (hnames : d.Names kind ids) :
        c.Proposed kind ids := by
      obtain ⟨hhead, hid⟩ := List.mem_filter.mp hd
      exact ⟨d, hhead, by simpa using hid, hnames⟩
    have hnew {d : Delta} (hd : d ∈ c.authorizer.new) : d ∈ c.deltas.filter (·.deltaId ≠ "") :=
      (List.mem_filter.mp hd).1
    rintro (⟨d, hd, hnames⟩ | ⟨d, hd, hnames⟩ | ⟨d, hd, hnames⟩)
    · exact hof (hnew (List.mem_filter.mp hd).1) hnames
    · exact hof (hnew (List.mem_filter.mp hd).1) hnames
    · exact hof (List.mem_filter.mp hd).1 hnames

theorem authorize_eq_missing :
    c.authorizer.authorize kind (some ids) none = .missing ↔ ¬c.Proposed kind ids := by
  rw [proposed_iff, DeltaAuthorizer.authorize]
  split
  · next h => exact iff_of_false nofun (not_not.mpr (.inl h))
  · next h =>
    split
    · next h' => exact iff_of_false nofun (not_not.mpr (.inr (.inl h')))
    · next h' =>
      split
      · next h'' => exact iff_of_false nofun (not_not.mpr (.inr (.inr h'')))
      · next h'' => exact iff_of_true rfl (not_or.mpr ⟨h, not_or.mpr ⟨h', h''⟩⟩)

/-- Nothing is wrong with the deltas for a request when one is eligible or there is none. -/
theorem authorize_ne_unusable (hsha : c.baseline.baseSha = some sha) :
    (∀ code, c.authorizer.authorize kind (some ids) none ≠ .unusable code) ↔
      (c.Proposed kind ids → c.Named sha kind ids) := by
  rw [← authorize_eq_authorized hsha]
  cases hanswer : c.authorizer.authorize kind (some ids) none with
  | authorized => exact iff_of_true nofun fun _ => rfl
  | missing => exact iff_of_true nofun fun h => absurd h (authorize_eq_missing.mp hanswer)
  | unusable code =>
    refine iff_of_false (fun h => h code rfl) fun h => ?_
    have hproposed : c.Proposed kind ids := by
      by_contra hnot
      rw [authorize_eq_missing.mpr hnot] at hanswer
      cases hanswer
    cases h hproposed

theorem demand_eq_nil_iff (hsha : c.baseline.baseSha = some sha) {id : String} {v : Violation} :
    demand c.authorizer kind id v = [] ↔ c.Named sha kind [id] := by
  rw [← authorize_eq_authorized hsha, demand]
  cases c.authorizer.authorize kind (some [id]) none with
  | authorized => exact iff_of_true rfl rfl
  | unusable code => exact iff_of_false (by nofun) (by nofun)
  | missing => exact iff_of_false (by nofun) (by nofun)

/-! ## What the checks have seen -/

/-- The ids that nodes of the head say were theirs. -/
def renamedAway (c : Comparison) : List String := c.nodes.filterMap (·.previous)

/-- What has been seen of a comparison of which nothing is emitted. -/
structure Checked (c : Comparison) (sha : String) : Prop where
  removed : ∀ id ∈ c.baseIds, id ∉ c.headIds → id ∉ c.renamedAway → c.Named sha .removal [id]
  renamed : ∀ n ∈ c.nodes, ∀ previous ∈ c.baseIds, n.previous = some previous →
    c.Proposed .rename [previous, n.id] → c.Named sha .rename [previous, n.id]
  moved : ∀ id ∈ movedIds c.baseIds c.headIds, c.Named sha .reorder [id]
  status : ∀ n ∈ c.nodes, ∀ was, baseStatus c.baseNodes n.id = some was →
    n.status = some was ∨ executes was n.status = true ∨ c.Named sha .reclassify [n.id]

/-- The drift check goes through the ids of the baseline, the renamed nodes and the moved ids. -/
theorem checkDrift_eq_nil_iff (hgov : c.baseline.governancePresent = true)
    (hsha : c.baseline.baseSha = some sha) (hinv : c.baseline.inventory = some c.baseNodes) :
    checkDrift c.authorizer c.baseline c.nodes = [] ↔
      (∀ id ∈ c.baseIds, id ∉ c.headIds → id ∉ c.renamedAway → c.Named sha .removal [id]) ∧
      (∀ n ∈ c.nodes, ∀ previous, n.previous = some previous → previous ∈ c.baseIds ∧
        (c.Proposed .rename [previous, n.id] → c.Named sha .rename [previous, n.id])) ∧
      ∀ id ∈ movedIds c.baseIds c.headIds, c.Named sha .reorder [id] := by
  rw [checkDrift, hgov, hinv]
  simp only [List.append_eq_nil_iff, List.flatMap_eq_nil_iff, and_assoc]
  refine and_congr ?_ (and_congr ?_ ?_)
  · refine forall₂_congr fun id _ => ?_
    rw [ite_eq_left_iff, not_or, and_imp, demand_eq_nil_iff hsha]
    exact Iff.rfl
  · refine forall₂_congr fun n _ => ?_
    cases hprevious : n.previous with
    | none => exact iff_of_true rfl nofun
    | some previous =>
      simp only [Option.some.injEq, forall_eq']
      rw [← authorize_ne_unusable hsha]
      split
      · next hout => exact iff_of_false nofun fun h => hout h.1
      · next hin =>
        rw [not_not] at hin
        cases c.authorizer.authorize .rename (some [previous, n.id]) none with
        | authorized => exact iff_of_true rfl ⟨hin, nofun⟩
        | missing => exact iff_of_true rfl ⟨hin, nofun⟩
        | unusable code => exact iff_of_false nofun fun h => h.2 code rfl
  · simp only [List.mem_mergeSort, demand_eq_nil_iff hsha]
    exact Iff.rfl

/-- The status check goes through the nodes and the debts of the head. -/
theorem checkStatusTransitions_eq_nil_iff (hgov : c.baseline.governancePresent = true)
    (hsha : c.baseline.baseSha = some sha) :
    checkStatusTransitions c.authorizer c.baseline c.nodes c.debts = [] ↔
      (∀ n ∈ c.nodes, ∀ was, baseStatus c.baseNodes n.id = some was →
        n.status = some was ∨ executes was n.status = true ∨ c.Named sha .reclassify [n.id]) ∧
      ∀ d ∈ c.debts, ∀ was, baseDebtStatus c.baseline.records.debts d.debtId = some was →
        d.status = some was ∨ d.status = some .closed ∨ was ≠ .closed ∨
          c.Named sha .reclassify [d.debtId] := by
  rw [checkStatusTransitions, if_pos hgov, List.append_eq_nil_iff, List.flatMap_eq_nil_iff,
    List.flatMap_eq_nil_iff]
  refine and_congr ?_ ?_
  · refine Iff.trans ?_ forall_mem_zipIdx
    refine forall₂_congr fun p _ => ?_
    rw [← baseNodes]
    cases hwas : baseStatus c.baseNodes p.1.id with
    | none => simp [hwas]
    | some was =>
      simp only [hwas, Option.some.injEq, forall_eq', ite_eq_left_iff, demand_eq_nil_iff hsha]
      rw [@eq_comm _ (some was)]
      tauto
  · refine Iff.trans ?_ forall_mem_zipIdx
    refine forall₂_congr fun p _ => ?_
    cases hwas : baseDebtStatus c.baseline.records.debts p.1.debtId with
    | none => simp [hwas]
    | some was =>
      simp only [hwas, Option.some.injEq, forall_eq', ite_eq_left_iff, demand_eq_nil_iff hsha]
      rw [@eq_comm _ (some was)]
      tauto

theorem checked_of_violations_eq_nil (hgov : c.baseline.governancePresent = true)
    (hsha : c.baseline.baseSha = some sha) (h : c.violations = []) : c.Checked sha := by
  obtain ⟨hdrift, hstatus⟩ := List.append_eq_nil_iff.mp h
  have hnode := ((checkStatusTransitions_eq_nil_iff hgov hsha).mp hstatus).1
  cases hinv : c.baseline.inventory with
  | none =>
    -- A baseline without an inventory has no nodes to compare.
    have hids : c.baseIds = [] := by rw [baseIds, baseNodes, hinv]; rfl
    refine ⟨?_, ?_, ?_, hnode⟩ <;> rw [hids]
    · nofun
    · intro n _
      nofun
    · simp [movedIds]
  | some baseNodes =>
    have hbase : c.baseline.inventory = some c.baseNodes := by rw [Comparison.baseNodes, hinv]; rfl
    obtain ⟨hremoved, hrenamed, hmoved⟩ := (checkDrift_eq_nil_iff hgov hsha hbase).mp hdrift
    exact ⟨hremoved, fun n hn previous _ hfrom => (hrenamed n hn previous hfrom).2, hmoved, hnode⟩

/-! ## The law -/

/-- A node keeps its status, is executed, or is named by an eligible delta. -/
def StatusKept (c : Comparison) (sha : String) (b n : Node) : Prop :=
  ∀ was, b.status = some was → n.status = some was ∨ executes was n.status = true ∨
    ∃ id ∈ [b.id, n.id], c.Named sha .reclassify [id]

/-- No node disappears, gets another name, place or status without an eligible delta. -/
structure Accounted (c : Comparison) (sha : String) : Prop where
  kept : ∀ b ∈ c.baseNodes, b.id ∈ c.headIds ∨ c.Named sha .removal [b.id] ∨
    ∃ n ∈ c.nodes, n.previous = some b.id ∧ c.Named sha .rename [b.id, n.id]
  status : ∀ b ∈ c.baseNodes, ∀ n ∈ c.nodes, n.Succeeds b → c.StatusKept sha b n
  moved : ∀ id ∈ movedIds c.baseIds c.headIds, c.Named sha .reorder [id]
  order : ∀ b₁ b₂ n₁ n₂, [b₁, b₂] <+ c.baseNodes → [n₂, n₁] <+ c.nodes → n₁.Succeeds b₁ →
    n₂.Succeeds b₂ → ∃ id ∈ [b₁.id, n₁.id, b₂.id, n₂.id], c.Named sha .reorder [id]

/-- What is left to the head: a delta in it for a rename, and the status and the place of a node
under its new id. -/
structure RenamesAccounted (c : Comparison) (sha : String) : Prop where
  kept : ∀ b ∈ c.baseNodes, b.id ∉ c.headIds → b.id ∈ c.renamedAway →
    c.Named sha .removal [b.id] ∨
      ∃ n ∈ c.nodes, n.previous = some b.id ∧ c.Proposed .rename [b.id, n.id]
  status : ∀ b ∈ c.baseNodes, ∀ n ∈ c.nodes, n.previous = some b.id → n.id ≠ b.id →
    c.StatusKept sha b n
  order : ∀ b₁ b₂ n₁ n₂, [b₁, b₂] <+ c.baseNodes → [n₂, n₁] <+ c.nodes → n₁.Succeeds b₁ →
    n₂.Succeeds b₂ → ¬(n₁.id = b₁.id ∧ n₂.id = b₂.id) →
    ∃ id ∈ [b₁.id, n₁.id, b₂.id, n₂.id], c.Named sha .reorder [id]

theorem baseStatus_of_mem {baseNodes : List Node} (hids : (baseNodes.map (·.id)).Nodup) {b : Node}
    (hb : b ∈ baseNodes) : baseStatus baseNodes b.id = b.status := by
  rw [baseStatus, filter_key_eq hids hb]
  rfl

theorem Checked.order (h : c.Checked sha) (hbase : c.baseIds.Nodup) (hhead : c.headIds.Nodup)
    {b₁ b₂ n₁ n₂ : Node} (hb : [b₁, b₂] <+ c.baseNodes) (hn : [n₂, n₁] <+ c.nodes)
    (h₁ : n₁.id = b₁.id) (h₂ : n₂.id = b₂.id) :
    ∃ id ∈ [b₁.id, n₁.id, b₂.id, n₂.id], c.Named sha .reorder [id] := by
  have hbs : [b₁.id, b₂.id] <+ c.baseIds := hb.map Node.id
  have hns : [b₂.id, b₁.id] <+ c.headIds := by
    rw [← h₁, ← h₂]
    exact hn.map Node.id
  rcases moved_of_swap hbase hhead hbs hns with hmoved | hmoved
  · exact ⟨b₁.id, by simp, h.moved _ hmoved⟩
  · exact ⟨b₂.id, by simp, h.moved _ hmoved⟩

/-- Of a comparison of which nothing is emitted the nodes are accounted for exactly when the
renamed ones are. -/
theorem drift_accounted (hgov : c.baseline.governancePresent = true)
    (hsha : c.baseline.baseSha = some sha) (hbase : c.baseIds.Nodup) (hhead : c.headIds.Nodup)
    (h : c.violations = []) : c.Accounted sha ↔ c.RenamesAccounted sha := by
  have hchecked := checked_of_violations_eq_nil hgov hsha h
  constructor
  · intro hlaw
    refine ⟨?_, fun b hb n hn hprevious _ => hlaw.status b hb n hn (.inr hprevious),
      fun b₁ b₂ n₁ n₂ hb hn h₁ h₂ _ => hlaw.order b₁ b₂ n₁ n₂ hb hn h₁ h₂⟩
    intro b hb hgone _
    rcases hlaw.kept b hb with hid | hremoval | ⟨n, hn, hprevious, hrename⟩
    · exact absurd hid hgone
    · exact .inl hremoval
    · exact .inr ⟨n, hn, hprevious, hrename.proposed⟩
  · intro hrenames
    refine ⟨?_, ?_, hchecked.moved, ?_⟩
    · intro b hb
      have hid : b.id ∈ c.baseIds := List.mem_map_of_mem hb
      by_cases hgone : b.id ∈ c.headIds
      · exact .inl hgone
      by_cases haway : b.id ∈ c.renamedAway
      · rcases hrenames.kept b hb hgone haway with hremoval | ⟨n, hn, hprevious, hproposed⟩
        · exact .inr (.inl hremoval)
        · exact .inr (.inr ⟨n, hn, hprevious, hchecked.renamed n hn b.id hid hprevious hproposed⟩)
      · exact .inr (.inl (hchecked.removed b.id hid hgone haway))
    · intro b hb n hn hsucceeds was hwas
      by_cases hsame : n.id = b.id
      · have hbaseStatus : baseStatus c.baseNodes n.id = some was := by
          rw [hsame, baseStatus_of_mem hbase hb, hwas]
        refine (hchecked.status n hn was hbaseStatus).imp_right fun hrest => ?_
        exact hrest.imp_right fun hnamed => ⟨n.id, by simp, hnamed⟩
      · exact hrenames.status b hb n hn (hsucceeds.resolve_left hsame) hsame was hwas
    · intro b₁ b₂ n₁ n₂ hb hn h₁ h₂
      by_cases hsame : n₁.id = b₁.id ∧ n₂.id = b₂.id
      · exact hchecked.order hbase hhead hb hn hsame.1 hsame.2
      · exact hrenames.order b₁ b₂ n₁ n₂ hb hn h₁ h₂ hsame

/-- A comparison of one node with one, under another id. -/
def onlyNode (b n : Node) (deltas : List Delta) : Comparison where
  baseline := ⟨true, [], some [b], ⟨[b], [], []⟩, [], some "5eed"⟩
  nodes := [n]
  debts := []
  deltas

/-- A renamed node with its delta. -/
def proposedRun : Comparison :=
  onlyNode (exampleNode "AUTH-1" .fail none) (exampleNode "AUTH-2" .fail (some "AUTH-1"))
    [⟨"PD-1", some .rename, ["AUTH-1", "AUTH-2"], [], some "5eed", [], none⟩]

theorem drift_accounted_proposedRun :
    proposedRun.violations = [] ∧ proposedRun.Accounted "5eed" := by
  have hnone : proposedRun.violations = [] := by decide +kernel
  refine ⟨hnone, (drift_accounted rfl rfl (by decide) (by decide) hnone).mpr ⟨?_, ?_, ?_⟩⟩
  · intro b hb _ _
    refine .inr ⟨_, List.mem_singleton_self _, ?_⟩
    rw [List.mem_singleton.mp hb]
    exact ⟨rfl, _, List.mem_singleton_self _, by decide, rfl, by decide⟩
  · intro b hb n hn _ _ was hwas
    rw [List.mem_singleton.mp hb] at hwas
    rw [List.mem_singleton.mp hn]
    exact .inl hwas
  · intro b₁ b₂ _ _ hb
    exact absurd hb.length_le (show ¬2 ≤ 1 by decide)

/-- A node that failed comes back under another id as passed. -/
def relabelledRun : Comparison :=
  onlyNode (exampleNode "AUTH-1" .fail none) (exampleNode "AUTH-2" .pass (some "AUTH-1")) []

theorem drift_accounted_broken_relabelledRun :
    relabelledRun.baseline.governancePresent = true ∧ relabelledRun.baseline.baseSha = some "5eed" ∧
      relabelledRun.baseIds.Nodup ∧ relabelledRun.headIds.Nodup ∧ relabelledRun.violations = [] ∧
      ¬relabelledRun.Accounted "5eed" := by
  refine ⟨rfl, rfl, by decide, by decide, by decide +kernel, fun hlaw => ?_⟩
  rcases hlaw.kept _ (List.mem_singleton_self _) with hid | ⟨_, hd, _⟩ | ⟨_, _, _, _, hd, _⟩
  · revert hid
    decide
  · cases hd.head
  · cases hd.head

end Comparison

end Harness

end Mpango
