import Mathlib.Algebra.BigOperators.Group.List.Basic
import Mathlib.Tactic

/-!
# Journals of a running value

A journal records every change of a value: each entry has the value before, the change, and the
value after. `Chained a es b` says that the entries lead from `a` to `b` without a gap. Journals
are appended, and the journal of balanced entries is replayed by summing its changes.
-/

namespace Mpango

/-- One entry of a journal. -/
structure Entry (ν : Type) where
  before : ν
  change : ν
  after : ν

/-- The entry adds up. -/
def Entry.Balanced {ν : Type} [Add ν] (e : Entry ν) : Prop := e.before + e.change = e.after

/-- The entries lead from one value to another: each begins where the one before it ended. -/
def Chained {ν : Type} : ν → List (Entry ν) → ν → Prop
  | a, [], b => a = b
  | a, e :: es, b => e.before = a ∧ Chained e.after es b

variable {ν : Type} {a b c : ν} {e : Entry ν} {es fs : List (Entry ν)}

@[simp] theorem chained_nil : Chained a [] b ↔ a = b := Iff.rfl

@[simp] theorem chained_cons :
    Chained a (e :: es) b ↔ e.before = a ∧ Chained e.after es b := Iff.rfl

theorem chained_singleton : Chained a [e] b ↔ e.before = a ∧ e.after = b := Iff.rfl

/-- A journal that goes on where another ended. -/
theorem chained_append : Chained a (es ++ fs) c ↔ ∃ b, Chained a es b ∧ Chained b fs c := by
  induction es generalizing a with
  | nil =>
    rw [List.nil_append]
    constructor
    · intro h
      exact ⟨a, rfl, h⟩
    · rintro ⟨b, rfl, h⟩
      exact h
  | cons e es ih =>
    rw [List.cons_append, chained_cons, ih]
    constructor
    · rintro ⟨he, b, hes, hfs⟩
      exact ⟨b, ⟨he, hes⟩, hfs⟩
    · rintro ⟨b, ⟨he, hes⟩, hfs⟩
      exact ⟨he, b, hes, hfs⟩

theorem Chained.append (h : Chained a es b) (h' : Chained b fs c) : Chained a (es ++ fs) c :=
  chained_append.mpr ⟨b, h, h'⟩

/-- A journal has one end. -/
theorem Chained.unique (h : Chained a es b) (h' : Chained a es c) : b = c := by
  induction es generalizing a with
  | nil => exact h.symm.trans h'
  | cons e es ih => exact ih h.2 h'.2

/-- Replaying a journal of balanced entries gives its end. -/
theorem Chained.replay [AddMonoid ν] (h : Chained a es b) (hb : ∀ e ∈ es, e.Balanced) :
    b = a + (es.map Entry.change).sum := by
  induction es generalizing a with
  | nil =>
    rw [List.map_nil, List.sum_nil, add_zero]
    exact h.symm
  | cons e es ih =>
    obtain ⟨rfl, hes⟩ := h
    have he : e.before + e.change = e.after := hb e List.mem_cons_self
    rw [ih hes fun x hx => hb x (List.mem_cons_of_mem e hx), List.map_cons, List.sum_cons,
      ← add_assoc, he]

/-- A property that every entry hands on from its beginning to its end holds at the end. -/
theorem Chained.induction {P : ν → Prop} (h : Chained a es b) (ha : P a)
    (step : ∀ e ∈ es, P e.before → P e.after) : P b := by
  induction es generalizing a with
  | nil => exact h ▸ ha
  | cons e es ih =>
    obtain ⟨rfl, hes⟩ := h
    have hafter : P e.after := step e List.mem_cons_self ha
    exact ih hes hafter fun x hx => step x (List.mem_cons_of_mem e hx)

end Mpango
