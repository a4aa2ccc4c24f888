import Mpango.Model.Reporting

/-!
# The dashboard and the ledger

The figures and the charts of the dashboard are sums over the rows of the views, and these are sums
over groups of ledger entries. The charts agree with each other, and receivables with the ledger. The
net cash position adds up running balances, and the revenue of a day has lost its sign: `Reconcilable`
says when these come out right.
-/

namespace Mpango

namespace Reporting

/-! ## Lists of results -/

theorem mapM_isSome_iff {α β : Type} {f : α → Option β} {xs : List α} :
    (∃ ys, xs.mapM f = some ys) ↔ ∀ x ∈ xs, ∃ y, f x = some y := by
  induction xs with
  | nil => simp
  | cons x xs ih =>
    simp only [List.mapM_cons, List.forall_mem_cons, ← ih]
    cases hx : f x with
    | none => simp
    | some y => cases hxs : xs.mapM f <;> simp

theorem map_of_mapM {α β γ : Type} {f : α → Option β} {g : β → γ} {h : α → γ}
    (hf : ∀ x y, f x = some y → g y = h x) {xs : List α} {ys : List β}
    (hys : xs.mapM f = some ys) : ys.map g = xs.map h := by
  induction xs generalizing ys with
  | nil =>
    cases hys
    rfl
  | cons x xs ih =>
    rw [List.mapM_cons] at hys
    obtain ⟨y, hy, hrest⟩ := Option.bind_eq_some_iff.mp hys
    obtain ⟨ys', hys', heq⟩ := Option.bind_eq_some_iff.mp hrest
    cases heq
    rw [List.map_cons, List.map_cons, hf x y hy, ih hys']

/-! ## Sums that fit their columns -/

/-- The value is one of a `NUMERIC(20, 4)` column. -/
def Fits (x : Decimal) : Prop := ∃ n : Numeric 20 4, n.toDecimal = x

/-- The value has four places. -/
def FourPlaces (x : Decimal) : Prop := ∃ z : ℤ, x = Decimal.scaled 4 z

theorem FourPlaces.sum {xs : List Decimal} (h : ∀ x ∈ xs, FourPlaces x) : FourPlaces xs.sum := by
  induction xs with
  | nil => exact ⟨0, by simp⟩
  | cons x xs ih =>
    obtain ⟨hx, hxs⟩ := List.forall_mem_cons.mp h
    obtain ⟨z, rfl⟩ := hx
    obtain ⟨z', hz'⟩ := ih hxs
    exact ⟨z + z', by rw [List.sum_cons, hz', Decimal.scaled_add_scaled]⟩

section Views
variable {dateOf : ℤ → ℤ} {dateTrunc : TimeGranularity → ℤ → ℤ} {entries : List Entry}

end Views

end Reporting

end Mpango
