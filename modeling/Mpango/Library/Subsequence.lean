import Mathlib.Data.List.Nodup
import Mathlib.Data.List.Sublists
import Mathlib.Data.List.Infix
import Mathlib.Tactic.Common
import Mathlib.Order.MinMax

/-!
# Longest common subsequences

The table of `lcsLength` has a row for every rest of the first list and a column for every rest of
the second; `lcs` walks through it from the front of both. What it returns is a subsequence of both
lists (`lcs_sublist_left`, `lcs_sublist_right`), and none is longer (`length_le_of_sublist`). Two
elements of a subsequence stand in the same order in every list without repetitions that has it
(`sublist_pair_of_common`).
-/

namespace Mpango

open scoped List

variable {α : Type} [DecidableEq α]

/-! ## The algorithm -/

/-- A row of the table, over the row below it. -/
def lcsLengthRow (a : α) (below : List α → ℕ) : List α → ℕ
  | [] => 0
  | b :: bs => if a = b then below bs + 1 else max (below (b :: bs)) (lcsLengthRow a below bs)

/-- The length of the longest common subsequences of two lists. -/
def lcsLength : List α → List α → ℕ
  | [] => fun _ => 0
  | a :: as => lcsLengthRow a (lcsLength as)

def lcsRow (a : α) (as : List α) (below : List α → List α) : List α → List α
  | [] => []
  | b :: bs =>
    if a = b then a :: below bs
    else if lcsLength (a :: as) bs ≤ lcsLength as (b :: bs) then below (b :: bs)
    else lcsRow a as below bs

/-- A longest common subsequence of two lists. -/
def lcs : List α → List α → List α
  | [] => fun _ => []
  | a :: as => lcsRow a as (lcs as)

variable {a b : α} {as bs : List α}

@[simp] theorem lcsLength_nil_left : lcsLength [] bs = 0 := rfl

@[simp] theorem lcsLength_nil_right : lcsLength as [] = 0 := by cases as <;> rfl

theorem lcsLength_cons : lcsLength (a :: as) (b :: bs) = if a = b then lcsLength as bs + 1
    else max (lcsLength as (b :: bs)) (lcsLength (a :: as) bs) := rfl

@[simp] theorem lcs_nil_left : lcs [] bs = [] := rfl

@[simp] theorem lcs_nil_right : lcs as [] = [] := by cases as <;> rfl

theorem lcs_cons : lcs (a :: as) (b :: bs) = if a = b then a :: lcs as bs
    else if lcsLength (a :: as) bs ≤ lcsLength as (b :: bs) then lcs as (b :: bs)
    else lcs (a :: as) bs := rfl

/-! ## It is a common subsequence -/

theorem lcs_sublist_left (as bs : List α) : lcs as bs <+ as := by
  induction as generalizing bs with
  | nil => exact List.Sublist.refl _
  | cons a as ih =>
    induction bs with
    | nil =>
      rw [lcs_nil_right]
      exact List.nil_sublist _
    | cons b bs ihb =>
      rw [lcs_cons]
      split
      · exact (ih bs).cons_cons a
      · split
        · exact (ih (b :: bs)).cons a
        · exact ihb

theorem lcs_sublist_right (as bs : List α) : lcs as bs <+ bs := by
  induction as generalizing bs with
  | nil => exact List.nil_sublist _
  | cons a as ih =>
    induction bs with
    | nil =>
      rw [lcs_nil_right]
    | cons b bs ihb =>
      rw [lcs_cons]
      split
      · next heq =>
        subst heq
        exact (ih bs).cons_cons a
      · split
        · exact ih (b :: bs)
        · exact ihb.cons b

/-! ## It is a longest one -/

theorem length_lcs (as bs : List α) : (lcs as bs).length = lcsLength as bs := by
  induction as generalizing bs with
  | nil => rfl
  | cons a as ih =>
    induction bs with
    | nil => rfl
    | cons b bs ihb =>
      rw [lcs_cons, lcsLength_cons]
      split
      · rw [List.length_cons, ih]
      · split
        · next hle => rw [ih, max_eq_left hle]
        · next hlt => rw [ihb, max_eq_right (le_of_not_ge hlt)]

theorem length_le_lcsLength {l : List α} (hl : l <+ as) (hr : l <+ bs) :
    l.length ≤ lcsLength as bs := by
  induction as generalizing l bs with
  | nil =>
    rw [List.sublist_nil.mp hl]
    exact Nat.zero_le _
  | cons a as ih =>
    induction bs generalizing l with
    | nil =>
      rw [List.sublist_nil.mp hr]
      exact Nat.zero_le _
    | cons b bs ihb =>
      rw [lcsLength_cons]
      split
      · next heq =>
        subst heq
        cases l with
        | nil => exact Nat.zero_le _
        | cons c l =>
          rw [List.length_cons, Nat.add_le_add_iff_right]
          exact ih hl.of_cons_cons hr.of_cons_cons
      · next hne =>
        rw [le_max_iff]
        cases hl with
        | cons _ hl => exact .inl (ih hl hr)
        | cons_cons _ hl' =>
          cases hr with
          | cons _ hr => exact .inr (ihb (hl'.cons_cons a) hr)
          | cons_cons _ hr => exact absurd rfl hne

/-- No common subsequence is longer. -/
theorem length_le_of_sublist {l : List α} (hl : l <+ as) (hr : l <+ bs) :
    l.length ≤ (lcs as bs).length := by
  rw [length_lcs]
  exact length_le_lcsLength hl hr

/-! ## Order -/

omit [DecidableEq α] in
/-- Two elements of a list stand in it one before the other. -/
theorem sublist_pair_or_swap {l : List α} (ha : a ∈ l) (hb : b ∈ l) (hne : a ≠ b) :
    [a, b] <+ l ∨ [b, a] <+ l := by
  induction l with
  | nil => cases ha
  | cons c l ih =>
    rcases List.mem_cons.mp ha with rfl | ha'
    · rcases List.mem_cons.mp hb with rfl | hb'
      · exact absurd rfl hne
      · exact .inl ((List.singleton_sublist.mpr hb').cons_cons a)
    · rcases List.mem_cons.mp hb with rfl | hb'
      · exact .inr ((List.singleton_sublist.mpr ha').cons_cons b)
      · exact (ih ha' hb').imp (·.cons c) (·.cons c)

omit [DecidableEq α] in
/-- In a list without repetitions they stand in one order. -/
theorem not_sublist_swap {l : List α} (hl : l.Nodup) (hab : [a, b] <+ l) : ¬[b, a] <+ l := by
  intro hba
  have htwice : [a, b] <+ l ∧ [b, a] <+ l := ⟨hab, hba⟩
  induction l with
  | nil => cases hab
  | cons c l ih =>
    obtain ⟨hc, hl⟩ := List.nodup_cons.mp hl
    cases hab with
    | cons _ hab =>
      cases hba with
      | cons _ hba => exact ih hl hab hba ⟨hab, hba⟩
      | cons_cons _ hba => exact hc (hab.subset (by simp))
    | cons_cons _ hab =>
      cases hba with
      | cons _ hba => exact hc (hba.subset (by simp))
      | cons_cons _ hba => exact hc (List.singleton_sublist.mp hab)

omit [DecidableEq α] in
/-- A common subsequence keeps the order of its elements. -/
theorem sublist_pair_of_common {l as bs : List α} (hl : l <+ as) (hr : l <+ bs) (has : as.Nodup)
    (ha : a ∈ l) (hb : b ∈ l) (hab : [a, b] <+ as) : [a, b] <+ bs := by
  have hne : a ≠ b := by
    rintro rfl
    exact not_sublist_swap has hab hab
  rcases sublist_pair_or_swap ha hb hne with hpair | hswap
  · exact hpair.trans hr
  · exact absurd (hswap.trans hl) (not_sublist_swap has hab)

example : lcs [1, 2, 3, 4] [2, 4, 3, 1] = [2, 4] := by decide

end Mpango
