import Mathlib.Data.List.MinMax

/-!
# The latest of some rows

`max` with a key takes the first row of the greatest key. Which one that is among rows of one key
depends on the order in which they are listed, and any of them can come first.
-/

namespace Mpango.Latest

variable {α τ : Type} [LinearOrder τ] {key : α → τ} {xs ys : List α} {x y : α}

/-- The first item of the greatest key. -/
def latest (key : α → τ) (xs : List α) : Option α := xs.argmax key

/-- An item of the greatest key. -/
structure IsLatest (key : α → τ) (xs : List α) (x : α) : Prop where
  mem : x ∈ xs
  le : ∀ y ∈ xs, key y ≤ key x

theorem isLatest_of_latest (h : latest key xs = some x) : IsLatest key xs x :=
  ⟨List.argmax_mem h, fun _ hy => List.le_of_mem_argmax hy h⟩

theorem latest_eq_none : latest key xs = none ↔ xs = [] := List.argmax_eq_none

/-- Two items of the greatest key have the same key. -/
theorem IsLatest.key_eq (hx : IsLatest key xs x) (hy : IsLatest key xs y) : key x = key y :=
  le_antisymm (hy.le x hx.mem) (hx.le y hy.mem)

theorem IsLatest.of_perm (h : IsLatest key xs x) (hperm : xs.Perm ys) : IsLatest key ys x :=
  ⟨hperm.subset h.mem, fun y hy => h.le y (hperm.symm.subset hy)⟩

/-- An item of the greatest key that is listed first is taken. -/
theorem latest_cons (h : ∀ y ∈ xs, key y ≤ key x) : latest key (x :: xs) = some x := by
  unfold latest
  rw [List.argmax_cons]
  cases hmax : xs.argmax key with
  | none => rfl
  | some y => exact if_neg (not_lt.mpr (h y (List.argmax_mem hmax)))

end Mpango.Latest
