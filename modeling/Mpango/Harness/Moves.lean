import Mathlib.Data.Finset.Card
import Mpango.Model.Moves

/-!
# Moved ids are a least set of moves

The table holds the length of the longest common subsequence of every two rests (`fillTable_eq`),
so that reading it back gives the recursive `lcs` (`lcs_eq`) with all that is known of it. A set of
ids whose removal leaves one order behind is the complement of a common subsequence, and a longest
one has the least complement.
-/

namespace Mpango

namespace Moves

open scoped List

variable {α : Type} [DecidableEq α] {a b : List α} {dp : Lengths} {i j : ℕ}

/-! ## The table -/

theorem Lengths.set_same (dp : Lengths) (i j length : ℕ) : dp.set i j length i j = length := by
  simp [Lengths.set]

theorem Lengths.set_of_ne {row column length : ℕ} (hne : ¬(row = i ∧ column = j)) :
    dp.set i j length row column = dp row column :=
  if_neg hne

/-- The rows from `i` on are right. -/
def FilledFrom (a b : List α) (i : ℕ) (dp : Lengths) : Prop :=
  ∀ row column, i ≤ row → row ≤ a.length → column ≤ b.length →
    dp row column = lcsLength (a.drop row) (b.drop column)

/-- So are, in row `i`, the columns from `j` on. -/
def RowFilledFrom (a b : List α) (i j : ℕ) (dp : Lengths) : Prop :=
  ∀ column, j ≤ column → column ≤ b.length → dp i column = lcsLength (a.drop i) (b.drop column)

theorem lcsLength_drop (hi : i < a.length) (hj : j < b.length) :
    lcsLength (a.drop i) (b.drop j) = if a[i]? = b[j]? then
      lcsLength (a.drop (i + 1)) (b.drop (j + 1)) + 1
      else max (lcsLength (a.drop (i + 1)) (b.drop j)) (lcsLength (a.drop i) (b.drop (j + 1))) := by
  have ha : a.drop i = a[i] :: a.drop (i + 1) := List.drop_eq_getElem_cons hi
  have hb : b.drop j = b[j] :: b.drop (j + 1) := List.drop_eq_getElem_cons hj
  rw [ha, hb, lcsLength_cons, List.getElem?_eq_getElem hi, List.getElem?_eq_getElem hj]
  simp only [Option.some.injEq]

/-- One round of the inner loop moves the filled part by a column and leaves the rows below. -/
theorem filled_set (hi : i < a.length) (hj : j < b.length) (hbelow : FilledFrom a b (i + 1) dp)
    (hrow : RowFilledFrom a b i (j + 1) dp) {length : ℕ}
    (hlength : length = if a[i]? = b[j]? then dp (i + 1) (j + 1) + 1
      else max (dp (i + 1) j) (dp i (j + 1))) :
    FilledFrom a b (i + 1) (dp.set i j length) ∧ RowFilledFrom a b i j (dp.set i j length) := by
  constructor
  · intro row column hle hrows hcolumns
    rw [Lengths.set_of_ne (by omega)]
    exact hbelow row column hle hrows hcolumns
  · intro column hle hcolumns
    rcases Nat.eq_or_lt_of_le hle with rfl | hlt
    · rw [Lengths.set_same, hlength, lcsLength_drop hi hj,
        hbelow (i + 1) (j + 1) (le_refl _) hi hj, hbelow (i + 1) j (le_refl _) hi hcolumns,
        hrow (j + 1) (le_refl _) hj]
    · rw [Lengths.set_of_ne (by omega)]
      exact hrow column hlt hcolumns

theorem fillRow_filled (hi : i < a.length) (hj : j ≤ b.length)
    (hbelow : FilledFrom a b (i + 1) dp) (hrow : RowFilledFrom a b i j dp) :
    FilledFrom a b (i + 1) (fillRow a b i j dp) ∧ RowFilledFrom a b i 0 (fillRow a b i j dp) := by
  induction j generalizing dp with
  | zero => exact ⟨hbelow, hrow⟩
  | succ j ih =>
    rw [fillRow]
    obtain ⟨hbelow', hrow'⟩ := filled_set hi hj hbelow hrow rfl
    exact ih (Nat.le_of_succ_le hj) hbelow' hrow'

theorem fillRow_of_ne {row column : ℕ} (hne : row ≠ i) :
    fillRow a b i j dp row column = dp row column := by
  induction j generalizing dp with
  | zero => rfl
  | succ j ih => rw [fillRow, ih, Lengths.set_of_ne fun heq => hne heq.1]

theorem fillRows_filled (hi : i ≤ a.length) (hdp : FilledFrom a b i dp)
    (hzero : ∀ row, row < i → dp row b.length = 0) : FilledFrom a b 0 (fillRows a b i dp) := by
  induction i generalizing dp with
  | zero => exact hdp
  | succ i ih =>
    rw [fillRows]
    have hlast : RowFilledFrom a b i b.length dp := by
      intro column hle hcolumns
      obtain rfl : column = b.length := le_antisymm hcolumns hle
      rw [hzero i (Nat.lt_succ_self i), List.drop_length, lcsLength_nil_right]
    obtain ⟨hbelow, hrow⟩ := fillRow_filled hi (le_refl _) hdp hlast
    apply ih (Nat.le_of_succ_le hi)
    · intro row column hle hrows hcolumns
      rcases Nat.eq_or_lt_of_le hle with rfl | hlt
      · exact hrow column (Nat.zero_le _) hcolumns
      · exact hbelow row column hlt hrows hcolumns
    · intro row hlt
      rw [fillRow_of_ne (Nat.ne_of_lt hlt)]
      exact hzero row (Nat.lt_succ_of_lt hlt)

theorem fillTable_eq (hi : i ≤ a.length) (hj : j ≤ b.length) :
    fillTable a b i j = lcsLength (a.drop i) (b.drop j) := by
  have hempty : FilledFrom a b a.length fun _ _ => 0 := by
    intro row column hle hrows _
    obtain rfl : row = a.length := le_antisymm hrows hle
    rw [List.drop_length, lcsLength_nil_left]
  exact fillRows_filled (le_refl _) hempty (fun _ _ => rfl) i j (Nat.zero_le _) hi hj

/-! ## Reading it back -/

theorem readBack_eq (a b : List α) (i j : ℕ) :
    readBack a b (fillTable a b) i j = Mpango.lcs (a.drop i) (b.drop j) := by
  fun_induction readBack a b (fillTable a b) i j with
  | case1 i j h heq ih =>
    rw [ih, List.drop_eq_getElem_cons h.1, List.drop_eq_getElem_cons h.2, lcs_cons, if_pos heq]
  | case2 i j h hne hle ih =>
    rw [fillTable_eq h.1.le h.2, fillTable_eq h.1 h.2.le] at hle
    rw [ih, List.drop_eq_getElem_cons h.1, List.drop_eq_getElem_cons h.2, lcs_cons, if_neg hne,
      if_pos]
    rwa [← List.drop_eq_getElem_cons h.1, ← List.drop_eq_getElem_cons h.2]
  | case3 i j h hne hlt ih =>
    rw [fillTable_eq h.1.le h.2, fillTable_eq h.1 h.2.le] at hlt
    rw [ih, List.drop_eq_getElem_cons h.1, List.drop_eq_getElem_cons h.2, lcs_cons, if_neg hne,
      if_neg]
    rwa [← List.drop_eq_getElem_cons h.1, ← List.drop_eq_getElem_cons h.2]
  | case4 i j h =>
    rcases not_and_or.mp h with hi | hj
    · rw [List.drop_eq_nil_of_le (not_lt.mp hi), lcs_nil_left]
    · rw [List.drop_eq_nil_of_le (not_lt.mp hj), lcs_nil_right]

theorem lcs_eq (a b : List α) : lcs a b = Mpango.lcs a b :=
  readBack_eq a b 0 0

/-- The checks of the validator see the same moved ids. -/
theorem toFinset_movedIds (base head : List String) :
    (Harness.movedIds base head).toFinset = movedIds base head := by
  ext id
  simp only [Harness.movedIds, movedIds, lcs_eq, List.mem_toFinset, List.mem_dedup,
    List.mem_filter]

/-! ## Orders -/

/-- `x` stands before `y`. -/
def Before (order : List α) (x y : α) : Prop :=
  [x, y] <+ order

/-- The ids common to both orders stand in the same order there, those of `S` apart. -/
def SameOrderBut (S : Finset α) (base head : List α) : Prop :=
  ∀ x y, x ∈ base → x ∈ head → x ∉ S → y ∈ base → y ∈ head → y ∉ S →
    (Before base x y ↔ Before head x y)

/-- What both orders have of each other, in the order of the first. -/
def common (order other : List α) : List α :=
  order.filter (· ∈ other)

variable {base head : List α} {S : Finset α}

theorem mem_common {x : α} : x ∈ common base head ↔ x ∈ base ∧ x ∈ head := by
  simp [common]

theorem mem_movedIds {x : α} : x ∈ movedIds base head ↔
    (x ∈ head ∧ x ∈ base) ∧ x ∉ Mpango.lcs (common base head) (common head base) := by
  simp only [movedIds, lcs_eq, common, List.mem_toFinset, List.mem_filter, decide_eq_true_eq]

/-- The ids left stand in one order in both lists, as a subsequence of each. -/
theorem SameOrderBut.filter_eq (hbase : base.Nodup) (hhead : head.Nodup)
    (hsame : SameOrderBut S base head) :
    (common base head).filter (· ∉ S) = (common head base).filter (· ∉ S) := by
  have hleft : (common base head).filter (· ∉ S) <+ base :=
    List.filter_sublist.trans List.filter_sublist
  have hright : (common head base).filter (· ∉ S) <+ head :=
    List.filter_sublist.trans List.filter_sublist
  have hmem {x : α} : x ∈ (common base head).filter (· ∉ S) ↔
      x ∈ (common head base).filter (· ∉ S) := by
    simp only [List.mem_filter, mem_common, and_comm (a := x ∈ base)]
  have hperm : (common base head).filter (· ∉ S) ~ (common head base).filter (· ∉ S) := by
    rw [List.perm_ext_iff_of_nodup (hbase.sublist hleft) (hhead.sublist hright)]
    exact fun x => hmem
  refine hperm.eq_of_pairwise (fun x y _ _ hxy hyx => ?_) ?_
    (List.pairwise_of_forall_sublist fun hxy => hxy.trans hright)
  · by_contra hne
    exact not_sublist_swap hhead hxy hyx
  · apply List.pairwise_of_forall_sublist
    intro x y hxy
    have hx : x ∈ (common base head).filter (· ∉ S) := hxy.subset (by simp)
    have hy : y ∈ (common base head).filter (· ∉ S) := hxy.subset (by simp)
    simp only [List.mem_filter, mem_common, decide_eq_true_eq] at hx hy
    exact (hsame x y hx.1.1 hx.1.2 hx.2 hy.1.1 hy.1.2 hy.2).mp (hxy.trans hleft)

/-- What has not moved stands on a common subsequence, and that keeps the order. -/
theorem sameOrderBut_movedIds (hbase : base.Nodup) (hhead : head.Nodup) :
    SameOrderBut (movedIds base head) base head := by
  have hleft : Mpango.lcs (common base head) (common head base) <+ base :=
    (lcs_sublist_left _ _).trans List.filter_sublist
  have hright : Mpango.lcs (common base head) (common head base) <+ head :=
    (lcs_sublist_right _ _).trans List.filter_sublist
  have hstable {x : α} (hb : x ∈ base) (hh : x ∈ head) (hx : x ∉ movedIds base head) :
      x ∈ Mpango.lcs (common base head) (common head base) := by
    by_contra hoff
    exact hx (mem_movedIds.mpr ⟨⟨hh, hb⟩, hoff⟩)
  intro x y hxb hxh hxm hyb hyh hym
  constructor
  · exact sublist_pair_of_common hleft hright hbase (hstable hxb hxh hxm) (hstable hyb hyh hym)
  · exact sublist_pair_of_common hright hleft hhead (hstable hxb hxh hxm) (hstable hyb hyh hym)

theorem card_movedIds (base : List α) (hhead : head.Nodup) : (movedIds base head).card +
    (Mpango.lcs (common base head) (common head base)).length = (common head base).length := by
  have hcommon : (common head base).Nodup := hhead.filter _
  have hlcs : (Mpango.lcs (common base head) (common head base)).Nodup :=
    hcommon.sublist (lcs_sublist_right _ _)
  have hmoved : movedIds base head = (common head base).toFinset \
      (Mpango.lcs (common base head) (common head base)).toFinset := by
    ext x
    simp [mem_movedIds, mem_common]
  have hsubset : (Mpango.lcs (common base head) (common head base)).toFinset ⊆
      (common head base).toFinset := by
    intro x hx
    exact List.mem_toFinset.mpr ((lcs_sublist_right _ _).subset (List.mem_toFinset.mp hx))
  rw [hmoved, ← List.toFinset_card_of_nodup hlcs, Finset.card_sdiff_add_card_eq_card hsubset,
    List.toFinset_card_of_nodup hcommon]

/-- The ids left by another such set are a common subsequence, so no longer than the longest. -/
theorem card_movedIds_le (hbase : base.Nodup) (hhead : head.Nodup)
    (hsame : SameOrderBut S base head) : (movedIds base head).card ≤ S.card := by
  have hcommon : (common head base).Nodup := hhead.filter _
  have hkept : ((common head base).filter (· ∉ S)).length ≤
      (Mpango.lcs (common base head) (common head base)).length := by
    apply length_le_of_sublist
    · rw [← hsame.filter_eq hbase hhead]
      exact List.filter_sublist
    · exact List.filter_sublist
  have hdropped : ((common head base).filter (· ∈ S)).length ≤ S.card := by
    rw [← List.toFinset_card_of_nodup (hcommon.filter _)]
    apply Finset.card_le_card
    intro x hx
    simpa using (List.mem_filter.mp (List.mem_toFinset.mp hx)).2
  have hsplit := List.length_eq_length_filter_add (l := common head base) (· ∈ S)
  have hcard := card_movedIds base hhead
  simp only [← decide_not] at hsplit
  omega

/-! ## The two helpers -/

/-- `lcs` returns a longest common subsequence, and the moved ids are a least set of common ids
whose removal leaves the others in one order. -/
theorem lcs_longest_movedIds_least :
    (∀ a b : List α, lcs a b <+ a ∧ lcs a b <+ b ∧
      ∀ l, l <+ a → l <+ b → l.length ≤ (lcs a b).length) ∧
    ∀ base head : List α, base.Nodup → head.Nodup →
      (∀ x ∈ movedIds base head, x ∈ base ∧ x ∈ head) ∧
      SameOrderBut (movedIds base head) base head ∧
      (∀ S, SameOrderBut S base head → (movedIds base head).card ≤ S.card) ∧
      (movedIds base head = ∅ ↔ SameOrderBut ∅ base head) := by
  refine ⟨fun a b => ?_, fun base head hbase hhead => ⟨?_, ?_, ?_, ?_, ?_⟩⟩
  · rw [lcs_eq]
    exact ⟨lcs_sublist_left a b, lcs_sublist_right a b, fun l => length_le_of_sublist⟩
  · intro x hx
    exact (mem_movedIds.mp hx).1.symm
  · exact sameOrderBut_movedIds hbase hhead
  · exact fun S => card_movedIds_le hbase hhead
  · intro hnone
    rw [← hnone]
    exact sameOrderBut_movedIds hbase hhead
  · intro hsame
    apply Finset.card_eq_zero.mp
    exact Nat.le_zero.mp (card_movedIds_le hbase hhead hsame)

/-- Of three ids turned round, two have moved, and no single one accounts for it. -/
theorem lcs_longest_movedIds_least_turned :
    [1, 2, 3].Nodup ∧ [3, 2, 1].Nodup ∧
      ∀ S, SameOrderBut S [1, 2, 3] [3, 2, 1] → (movedIds [1, 2, 3] [3, 2, 1]).card ≤ S.card :=
  ⟨by decide, by decide,
    (lcs_longest_movedIds_least.2 [1, 2, 3] [3, 2, 1] (by decide) (by decide)).2.2.1⟩

end Moves

end Mpango
