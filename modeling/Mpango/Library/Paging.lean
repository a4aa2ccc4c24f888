import Mathlib.Data.List.Count
import Mathlib.Data.List.Nodup
import Mathlib.Data.List.Sort
import Mathlib.Order.Basic

/-!
# Paging by offsets

A query that is ordered by a key, the greatest first, may return rows with equal keys in any order.
A row stands behind the rows with a greater key, anywhere among those with its own key
(`Arrangement.idxOf_bounds`, `exists_arrangement_idxOf`), so a window of the result surely has it if
the window has all rows with its key, and surely has it not if it has none of them.

When the windows of a read are taken of different results, a row is read exactly once, whatever
order ties come in, exactly if one window has all rows with its key and the others have none of them
(`forall_reads_iff_captured`).
-/

namespace Mpango.Paging

variable {α κ : Type} [LinearOrder κ] {key : α → κ}

/-- A result for the rows of a table: `ORDER BY key DESC`. -/
structure Arrangement (key : α → κ) (table result : List α) : Prop where
  perm : result.Perm table
  sorted : result.Pairwise fun a b => key b ≤ key a

/-- How many rows have a greater key. -/
def above (key : α → κ) (table : List α) (a : α) : ℕ := table.countP fun b => key a < key b

/-- How many rows have this key. -/
def ties (key : α → κ) (table : List α) (a : α) : ℕ := table.countP fun b => key b = key a

/-! ## Positions -/

section Positions
variable {table result : List α} {a : α}

/-- A result exists. -/
theorem exists_arrangement (key : α → κ) (table : List α) :
    ∃ result, Arrangement key table result := by
  have hsorted : (table.mergeSort fun a b => decide (key b ≤ key a)).Pairwise
      fun a b => decide (key b ≤ key a) = true := by
    refine List.pairwise_mergeSort ?_ ?_ table
    · intro a b c hab hbc
      exact decide_eq_true (le_trans (of_decide_eq_true hbc) (of_decide_eq_true hab))
    · intro a b
      simpa using le_total (key b) (key a)
  exact ⟨_, List.mergeSort_perm _ _, hsorted.imp of_decide_eq_true⟩

theorem above_add_ties (key : α → κ) (table : List α) (a : α) :
    above key table a + ties key table a = table.countP fun b => key a ≤ key b := by
  unfold above ties
  induction table with
  | nil => rfl
  | cons b table ih =>
    simp only [List.countP_cons, decide_eq_true_eq]
    rcases lt_trichotomy (key a) (key b) with hlt | heq | hgt
    · simp only [hlt, hlt.le, hlt.ne', if_true, if_false]
      omega
    · simp only [heq.symm, lt_irrefl, le_refl, if_true, if_false] at ih ⊢
      omega
    · simp only [hgt.not_gt, hgt.not_ge, hgt.ne, if_false]
      omega

variable [DecidableEq α]

/-- A row stands among those with its key. -/
theorem Arrangement.idxOf_bounds (h : Arrangement key table result) (ha : a ∈ table) :
    above key table a ≤ result.idxOf a ∧
      result.idxOf a < above key table a + ties key table a := by
  have hmem := h.perm.mem_iff.mpr ha
  have hsplit := List.take_append_drop (result.idxOf a) result
  obtain ⟨rest, hrest⟩ : ∃ rest, result.drop (result.idxOf a) = a :: rest := by
    rw [List.drop_eq_getElem_cons (List.idxOf_lt_length_iff.mpr hmem), List.getElem_idxOf]
    exact ⟨_, rfl⟩
  have hlength : (result.take (result.idxOf a)).length = result.idxOf a :=
    List.length_take_of_le (List.idxOf_lt_length_iff.mpr hmem).le
  have hsorted := h.sorted
  rw [← hsplit, hrest, List.pairwise_append, List.pairwise_cons] at hsorted
  obtain ⟨-, ⟨hbehind, -⟩, hbefore⟩ := hsorted
  constructor
  · -- No row behind has a greater key.
    have hnone : (a :: rest).countP (fun b => key a < key b) = 0 := by
      rw [List.countP_eq_zero]
      intro b hb
      rcases List.mem_cons.mp hb with rfl | hb
      · simp
      · simpa using hbehind b hb
    calc above key table a = result.countP fun b => key a < key b := (h.perm.countP_eq _).symm
      _ = (result.take (result.idxOf a)).countP fun b => key a < key b := by
        conv_lhs => rw [← hsplit, hrest, List.countP_append, hnone, Nat.add_zero]
      _ ≤ (result.take (result.idxOf a)).length := List.countP_le_length
      _ = result.idxOf a := hlength
  · -- All rows before have at least the key.
    have hall : (result.take (result.idxOf a)).countP (fun b => key a ≤ key b) =
        result.idxOf a := by
      refine Eq.trans (List.countP_eq_length.mpr fun b hb => ?_) hlength
      simpa using hbefore b hb a List.mem_cons_self
    rw [above_add_ties, ← h.perm.countP_eq]
    conv_rhs => rw [← hsplit, hrest, List.countP_append, hall, List.countP_cons_of_pos (by simp)]
    omega

/-- A table falls into the rows with a greater, the same and a smaller key. -/
theorem perm_split (key : α → κ) (table : List α) (a : α) :
    ((table.filter fun b => key a < key b) ++ ((table.filter fun b => key b = key a) ++
      table.filter fun b => key b < key a)).Perm table := by
  refine List.perm_iff_count.mpr fun b => ?_
  have hcount (p : α → Bool) : (table.filter p).count b = if p b then table.count b else 0 := by
    split
    · next hp => exact List.count_filter hp
    · next hp => exact List.count_eq_zero.mpr fun hmem => hp (List.mem_filter.mp hmem).2
  simp only [List.count_append, hcount, decide_eq_true_eq]
  rcases lt_trichotomy (key a) (key b) with hlt | heq | hgt
  · simp [hlt, hlt.ne', hlt.not_gt]
  · simp [heq]
  · simp [hgt, hgt.ne, hgt.not_gt]

/-- A row may stand anywhere among those with its key. -/
theorem exists_arrangement_idxOf (hnodup : table.Nodup) (ha : a ∈ table) {k : ℕ}
    (hk : k < ties key table a) :
    ∃ result, Arrangement key table result ∧ result.idxOf a = above key table a + k := by
  obtain ⟨higher, hhigher⟩ := exists_arrangement key (table.filter fun b => key a < key b)
  obtain ⟨lower, hlower⟩ := exists_arrangement key (table.filter fun b => key b < key a)
  obtain ⟨others, hothers⟩ : ∃ others, (a :: others).Perm (table.filter fun b => key b = key a) :=
    ⟨_, (List.perm_cons_erase (List.mem_filter.mpr ⟨ha, by simp⟩)).symm⟩
  have hequal : (others.take k ++ a :: others.drop k).Perm
      (table.filter fun b => key b = key a) := by
    refine List.perm_middle.trans (List.Perm.trans ?_ hothers)
    rw [List.take_append_drop]
  have hkeys : ∀ b ∈ others.take k ++ a :: others.drop k, key b = key a := fun b hb =>
    of_decide_eq_true (List.mem_filter.mp (hequal.mem_iff.mp hb)).2
  have hgreater : ∀ b ∈ higher, key a < key b := fun b hb =>
    of_decide_eq_true (List.mem_filter.mp (hhigher.perm.mem_iff.mp hb)).2
  have hsmaller : ∀ b ∈ lower, key b < key a := fun b hb =>
    of_decide_eq_true (List.mem_filter.mp (hlower.perm.mem_iff.mp hb)).2
  refine ⟨higher ++ ((others.take k ++ a :: others.drop k) ++ lower), ⟨?_, ?_⟩, ?_⟩
  · exact (hhigher.perm.append (hequal.append hlower.perm)).trans (perm_split key table a)
  · refine List.pairwise_append.mpr ⟨hhigher.sorted, List.pairwise_append.mpr ⟨?_, hlower.sorted,
      fun b hb c hc => ?_⟩, fun b hb c hc => ?_⟩
    · exact List.pairwise_of_forall_mem_list fun b hb c hc => by rw [hkeys b hb, hkeys c hc]
    · exact (hsmaller c hc).le.trans (hkeys b hb).ge
    · rcases List.mem_append.mp hc with hc | hc
      · exact (hkeys c hc).le.trans (hgreater b hb).le
      · exact (hsmaller c hc).le.trans (hgreater b hb).le
  · have hfirst : a ∉ higher := fun hmem => (hgreater a hmem).false
    have hrest : a ∉ others.take k := by
      have hdistinct : (a :: others).Nodup := hothers.nodup_iff.mpr (hnodup.filter _)
      exact fun hmem => (List.nodup_cons.mp hdistinct).1 (List.mem_of_mem_take hmem)
    have habove : higher.length = above key table a := by
      rw [hhigher.perm.length_eq, above, List.countP_eq_length_filter]
    have hties : others.length + 1 = ties key table a := by
      rw [← List.length_cons, hothers.length_eq, ties, List.countP_eq_length_filter]
    rw [List.idxOf_append_of_notMem hfirst, List.append_assoc, List.idxOf_append_of_notMem hrest,
      List.cons_append, List.idxOf_cons_self, List.length_take_of_le (by omega), habove]
    omega

end Positions

/-! ## Windows -/

section Windows
variable {table result : List α} {a : α}

theorem ties_pos (ha : a ∈ table) : 0 < ties key table a :=
  List.countP_pos_iff.mpr ⟨a, ha, by simp⟩

/-- A page of a result: `OFFSET offset LIMIT size`. -/
def window (offset size : ℕ) (result : List α) : List α := (result.drop offset).take size

theorem mem_window [DecidableEq α] {offset size : ℕ} (hnodup : result.Nodup) (ha : a ∈ result) :
    a ∈ window offset size result ↔ offset ≤ result.idxOf a ∧ result.idxOf a < offset + size := by
  have hat (i : ℕ) : result[i]? = some a ↔ i = result.idxOf a := by
    rw [List.getElem?_eq_some_iff]
    constructor
    · rintro ⟨hi, rfl⟩
      exact (hnodup.idxOf_getElem i hi).symm
    · rintro rfl
      exact ⟨List.idxOf_lt_length_iff.mpr ha, List.getElem_idxOf _⟩
  rw [List.mem_iff_getElem?]
  simp only [window, List.getElem?_take, List.getElem?_drop]
  constructor
  · rintro ⟨k, hk⟩
    split at hk
    · next hsize =>
      rw [hat] at hk
      omega
    · cases hk
  · rintro ⟨hlow, hhigh⟩
    refine ⟨result.idxOf a - offset, ?_⟩
    rw [if_pos (by omega), hat]
    omega

/-- The window has all rows with the key. -/
def Inside (key : α → κ) (offset size : ℕ) (table : List α) (a : α) : Prop :=
  offset ≤ above key table a ∧ above key table a + ties key table a ≤ offset + size

/-- The window has no row with the key. -/
def Outside (key : α → κ) (offset size : ℕ) (table : List α) (a : α) : Prop :=
  above key table a + ties key table a ≤ offset ∨ offset + size ≤ above key table a

variable [DecidableEq α]

theorem forall_mem_window_iff {offset size : ℕ} (hnodup : table.Nodup) (ha : a ∈ table) :
    (∀ result, Arrangement key table result → a ∈ window offset size result) ↔
      Inside key offset size table a := by
  have hties : 0 < ties key table a := ties_pos ha
  constructor
  · intro hall
    obtain ⟨first, hfirst, hfirstAt⟩ := exists_arrangement_idxOf hnodup ha hties
    obtain ⟨last, hlast, hlastAt⟩ := exists_arrangement_idxOf hnodup ha
      (Nat.sub_lt hties one_pos)
    have hlow := (mem_window (hfirst.perm.nodup_iff.mpr hnodup) (hfirst.perm.mem_iff.mpr ha)).mp
      (hall first hfirst)
    have hhigh := (mem_window (hlast.perm.nodup_iff.mpr hnodup) (hlast.perm.mem_iff.mpr ha)).mp
      (hall last hlast)
    unfold Inside
    omega
  · rintro ⟨hlow, hhigh⟩ result hresult
    have hbounds := hresult.idxOf_bounds ha
    rw [mem_window (hresult.perm.nodup_iff.mpr hnodup) (hresult.perm.mem_iff.mpr ha)]
    omega

theorem forall_not_mem_window_iff {offset size : ℕ} (hsize : 0 < size) (hnodup : table.Nodup)
    (ha : a ∈ table) :
    (∀ result, Arrangement key table result → a ∉ window offset size result) ↔
      Outside key offset size table a := by
  constructor
  · intro hall
    by_contra hno
    unfold Outside at hno
    have hties : 0 < ties key table a := ties_pos ha
    -- The first place of the row that is in the window.
    obtain ⟨result, hresult, hat⟩ := exists_arrangement_idxOf hnodup ha
      (show offset - above key table a < ties key table a by omega)
    refine hall result hresult ?_
    rw [mem_window (hresult.perm.nodup_iff.mpr hnodup) (hresult.perm.mem_iff.mpr ha)]
    omega
  · intro houtside result hresult hmem
    have hbounds := hresult.idxOf_bounds ha
    rw [mem_window (hresult.perm.nodup_iff.mpr hnodup) (hresult.perm.mem_iff.mpr ha)] at hmem
    unfold Outside at houtside
    omega

end Windows

/-! ## Reads -/

section Reads
variable {tables : List (List α)} {a : α}

/-- The windows of a read, one after another, from results that come one after another. -/
def windows (size : ℕ) : ℕ → List (List α) → List α
  | _, [] => []
  | offset, result :: results => window offset size result ++ windows size (offset + size) results

/-- The windows have no row with the key. -/
def Missed (key : α → κ) (size : ℕ) (a : α) : ℕ → List (List α) → Prop
  | _, [] => True
  | offset, table :: tables => Outside key offset size table a ∧
    Missed key size a (offset + size) tables

/-- One window has all rows with the key, and the others have none of them. -/
def Captured (key : α → κ) (size : ℕ) (a : α) : ℕ → List (List α) → Prop
  | _, [] => False
  | offset, table :: tables =>
    Inside key offset size table a ∧ Missed key size a (offset + size) tables ∨
      Outside key offset size table a ∧ Captured key size a (offset + size) tables

/-- The results of the queries of a read, one for each state of the table. -/
abbrev Arranged (key : α → κ) (tables results : List (List α)) : Prop :=
  List.Forall₂ (fun table result => Arrangement key table result) tables results

theorem exists_arranged (key : α → κ) (tables : List (List α)) :
    ∃ results, Arranged key tables results := by
  induction tables with
  | nil => exact ⟨[], .nil⟩
  | cons table tables ih =>
    obtain ⟨results, hresults⟩ := ih
    obtain ⟨result, hresult⟩ := exists_arrangement key table
    exact ⟨result :: results, .cons hresult hresults⟩

/-- A window has a row at most once. -/
theorem count_window [DecidableEq α] {offset size : ℕ} {result : List α} (hnodup : result.Nodup) (a : α) :
    (window offset size result).count a = if a ∈ window offset size result then 1 else 0 :=
  ((hnodup.sublist (List.drop_sublist _ _)).sublist (List.take_sublist _ _)).count

variable [DecidableEq α] {size : ℕ} (hsize : 0 < size)
include hsize

theorem forall_reads_iff_missed (key : α → κ) (hnodup : ∀ table ∈ tables, table.Nodup)
    (ha : ∀ table ∈ tables, a ∈ table) (offset : ℕ) :
    (∀ results, Arranged key tables results → (windows size offset results).count a = 0) ↔
      Missed key size a offset tables := by
  induction tables generalizing offset with
  | nil =>
    refine iff_of_true (fun results h => ?_) trivial
    cases h
    rfl
  | cons table tables ih =>
    have hrest := ih (fun t ht => hnodup t (List.mem_cons_of_mem _ ht))
      (fun t ht => ha t (List.mem_cons_of_mem _ ht)) (offset + size)
    have htable := hnodup table List.mem_cons_self
    rw [Missed, ← hrest, ← forall_not_mem_window_iff hsize htable (ha table List.mem_cons_self)]
    constructor
    · intro hall
      constructor
      · intro result hresult
        obtain ⟨results, hresults⟩ := exists_arranged key tables
        have hzero := hall (result :: results) (.cons hresult hresults)
        rw [windows, List.count_append] at hzero
        exact List.count_eq_zero.mp (by omega)
      · intro results hresults
        obtain ⟨result, hresult⟩ := exists_arrangement key table
        have hzero := hall (result :: results) (.cons hresult hresults)
        rw [windows, List.count_append] at hzero
        omega
    · rintro ⟨hout, hmissed⟩ results hresults
      cases hresults with
      | cons hresult hresults =>
        rw [windows, List.count_append, List.count_eq_zero.mpr (hout _ hresult),
          hmissed _ hresults]

/-- A row is read once, in whatever order ties come, exactly if it is captured. -/
theorem forall_reads_iff_captured (key : α → κ) (hnodup : ∀ table ∈ tables, table.Nodup)
    (ha : ∀ table ∈ tables, a ∈ table) (offset : ℕ) :
    (∀ results, Arranged key tables results → (windows size offset results).count a = 1) ↔
      Captured key size a offset tables := by
  induction tables generalizing offset with
  | nil =>
    refine iff_of_false (fun h => ?_) id
    cases h [] .nil
  | cons table tables ih =>
    have hnodup' : ∀ t ∈ tables, t.Nodup := fun t ht => hnodup t (List.mem_cons_of_mem _ ht)
    have ha' : ∀ t ∈ tables, a ∈ t := fun t ht => ha t (List.mem_cons_of_mem _ ht)
    have hrest := ih hnodup' ha' (offset + size)
    have hmissed := forall_reads_iff_missed hsize key hnodup' ha' (offset + size)
    have htable := hnodup table List.mem_cons_self
    have hmem := ha table List.mem_cons_self
    rw [Captured, ← hrest, ← hmissed, ← forall_mem_window_iff htable hmem,
      ← forall_not_mem_window_iff hsize htable hmem]
    have hcount {result : List α} {results : List (List α)}
        (hresult : Arrangement key table result) :
        (windows size offset (result :: results)).count a =
          (if a ∈ window offset size result then 1 else 0) +
            (windows size (offset + size) results).count a := by
      rw [windows, List.count_append, count_window (hresult.perm.nodup_iff.mpr htable)]
    constructor
    · intro hall
      by_cases hsome : ∃ result, Arrangement key table result ∧ a ∈ window offset size result
      · -- The row may come in this window, so it never comes in another one.
        left
        obtain ⟨first, hfirst, hin⟩ := hsome
        have hzero : ∀ results, Arranged key tables results →
            (windows size (offset + size) results).count a = 0 := by
          intro results hresults
          have hone := hall (first :: results) (.cons hfirst hresults)
          rw [hcount hfirst, if_pos hin] at hone
          omega
        refine ⟨fun result hresult => ?_, hzero⟩
        obtain ⟨results, hresults⟩ := exists_arranged key tables
        have hone := hall (result :: results) (.cons hresult hresults)
        rw [hcount hresult, hzero results hresults] at hone
        by_contra hout
        rw [if_neg hout] at hone
        omega
      · right
        have hout : ∀ result, Arrangement key table result → a ∉ window offset size result :=
          fun result hresult hin => hsome ⟨result, hresult, hin⟩
        refine ⟨hout, fun results hresults => ?_⟩
        obtain ⟨result, hresult⟩ := exists_arrangement key table
        have hone := hall (result :: results) (.cons hresult hresults)
        rw [hcount hresult, if_neg (hout result hresult)] at hone
        omega
    · rintro (⟨hin, hzero⟩ | ⟨hout, hone⟩) results hresults
      · cases hresults with
        | cons hresult hresults =>
          rw [hcount hresult, if_pos (hin _ hresult), hzero _ hresults]
      · cases hresults with
        | cons hresult hresults =>
          rw [hcount hresult, if_neg (hout _ hresult), hone _ hresults]

end Reads

end Mpango.Paging
