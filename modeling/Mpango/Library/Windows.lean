import Mathlib

/-!
# Windows of a history

A history is a list of items, each at a time and of a value. What comes before a time and what lies
in a half-open window are sublists of it, and adjacent windows tile: nothing at the boundary is
counted twice or dropped.
-/

namespace Mpango.Windows

variable {α τ M : Type} [LinearOrder τ] [AddCommMonoid M] (time : α → τ) (value : α → M)

/-- The items before a time. -/
def before (t : τ) (xs : List α) : List α := xs.filter fun x => time x < t

/-- The items from a time on and before another. -/
def window (start stop : τ) (xs : List α) : List α :=
  xs.filter fun x => start ≤ time x ∧ time x < stop

variable {time} {start middle stop : τ} {xs : List α} {x : α}

@[simp]
theorem mem_window : x ∈ window time start stop xs ↔ x ∈ xs ∧ start ≤ time x ∧ time x < stop := by
  simp [window]

/-- A history that lies before a window has nothing in it. -/
theorem window_eq_nil (h : ∀ x ∈ xs, time x < start) : window time start stop xs = [] := by
  rw [window, List.filter_eq_nil_iff]
  intro x hx hin
  exact absurd (h x hx) (not_lt_of_ge (of_decide_eq_true hin).1)

theorem before_eq_self (h : ∀ x ∈ xs, time x < stop) : before time stop xs = xs := by
  rw [before, List.filter_eq_self]
  intro x hx
  exact decide_eq_true (h x hx)

/-- A condition that splits into two exclusive ones splits a sum. -/
theorem sum_filter_add_filter {p q r : α → Prop} [DecidablePred p] [DecidablePred q]
    [DecidablePred r] (hsplit : ∀ x, r x ↔ p x ∨ q x) (hexclusive : ∀ x, p x → ¬q x)
    (xs : List α) :
    ((xs.filter (p ·)).map value).sum + ((xs.filter (q ·)).map value).sum =
      ((xs.filter (r ·)).map value).sum := by
  induction xs with
  | nil => simp
  | cons x xs ih =>
    by_cases hp : p x
    · have hq : ¬q x := hexclusive x hp
      have hr : r x := (hsplit x).mpr (.inl hp)
      simp only [List.filter_cons, hp, hq, hr, decide_true, decide_false, if_true,
        Bool.false_eq_true, if_false, List.map_cons, List.sum_cons]
      rw [add_assoc, ih]
    · by_cases hq : q x
      · have hr : r x := (hsplit x).mpr (.inr hq)
        simp only [List.filter_cons, hp, hq, hr, decide_true, decide_false, if_true,
          Bool.false_eq_true, if_false, List.map_cons, List.sum_cons]
        rw [add_left_comm, ih]
      · have hr : ¬r x := fun h => ((hsplit x).mp h).elim hp hq
        simpa only [List.filter_cons, hp, hq, hr, decide_false, Bool.false_eq_true, if_false]
          using ih

/-- What comes before a window and what lies in it is what comes before its end. -/
theorem sum_before_add_window (time : α → τ) (value : α → M) (h : start ≤ stop) (xs : List α) :
    ((before time start xs).map value).sum + ((window time start stop xs).map value).sum =
      ((before time stop xs).map value).sum := by
  apply sum_filter_add_filter
  · intro x
    constructor
    · intro hx
      rcases lt_or_ge (time x) start with hlt | hge
      · exact .inl hlt
      · exact .inr ⟨hge, hx⟩
    · rintro (hx | hx)
      · exact lt_of_lt_of_le hx h
      · exact hx.2
  · exact fun x hx hwindow => absurd hx (not_lt_of_ge hwindow.1)

/-- A window is its two parts, for the items of it that a condition picks. -/
theorem sum_window_add_window (hstart : start ≤ middle) (hstop : middle ≤ stop)
    (p : α → Prop) [DecidablePred p] (xs : List α) :
    (((window time start middle xs).filter (p ·)).map value).sum +
        (((window time middle stop xs).filter (p ·)).map value).sum =
      (((window time start stop xs).filter (p ·)).map value).sum := by
  simp only [window, List.filter_filter, ← Bool.decide_and]
  apply sum_filter_add_filter
  · intro x
    constructor
    · rintro ⟨hp, hge, hlt⟩
      rcases lt_or_ge (time x) middle with hx | hx
      · exact .inl ⟨hp, hge, hx⟩
      · exact .inr ⟨hp, hx, hlt⟩
    · rintro (⟨hp, hge, hlt⟩ | ⟨hp, hge, hlt⟩)
      · exact ⟨hp, hge, lt_of_lt_of_le hlt hstop⟩
      · exact ⟨hp, le_trans hstart hge, hlt⟩
  · rintro x ⟨-, -, hlt⟩ ⟨-, hge, -⟩
    exact absurd hlt (not_lt_of_ge hge)

end Mpango.Windows
