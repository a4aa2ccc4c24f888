import Mathlib.Data.List.Pairwise
import Mathlib.Logic.Function.Basic
import Mathlib.Tactic

/-!
# Transactions at READ COMMITTED

Any number of transactions write to one database. What a transaction has flushed stays its own until
it commits; until then it holds the entries of the unique indexes and the rows it has written, so a
write that contends with it has to wait. A write is judged against what is committed when it is
flushed.

The one law an `Isolation` has to satisfy is that an admitted write stays admitted when another that
does not contend with it is applied. From it follows what every argument about such a system needs:
whatever is in flight would still be admitted by the committed state (`Sound.flush`,
`Sound.commit`, `Sound.rollback`), so a commit never applies a write that a constraint forbids.
-/

namespace Mpango

/-- A database: what a write does, when it is admitted, and which two writes cannot be in flight
together. -/
structure Isolation (δ ω : Type) where
  apply : δ → ω → δ
  Admits : δ → ω → Prop
  Contends : ω → ω → Prop
  symm : ∀ {w w'}, Contends w w' → Contends w' w
  admits_apply : ∀ {d w w'}, ¬Contends w w' → Admits d w → Admits d w' → Admits (apply d w') w

/-- The committed state, and what each transaction has flushed, in order. -/
structure Sessions (ι δ ω : Type) where
  committed : δ
  flushed : ι → List ω

namespace Sessions

variable {ι δ ω : Type} [DecidableEq ι] (I : Isolation δ ω)

/-- Transaction `i` flushes one more write. -/
def flush (s : Sessions ι δ ω) (i : ι) (w : ω) : Sessions ι δ ω :=
  { s with flushed := Function.update s.flushed i (s.flushed i ++ [w]) }

/-- Transaction `i` commits what it has flushed. -/
def commit (s : Sessions ι δ ω) (i : ι) : Sessions ι δ ω :=
  ⟨(s.flushed i).foldl I.apply s.committed, Function.update s.flushed i []⟩

/-- Transaction `i` gives up what it has flushed. -/
def rollback (s : Sessions ι δ ω) (i : ι) : Sessions ι δ ω :=
  { s with flushed := Function.update s.flushed i [] }

section Views
variable {I} {s : Sessions ι δ ω} {i j : ι} {w : ω}

@[simp] theorem flush_committed : (s.flush i w).committed = s.committed := rfl

@[simp] theorem flush_self : (s.flush i w).flushed i = s.flushed i ++ [w] := Function.update_self ..

theorem flush_of_ne (h : j ≠ i) : (s.flush i w).flushed j = s.flushed j := Function.update_of_ne h ..

@[simp] theorem rollback_committed : (s.rollback i).committed = s.committed := rfl

@[simp] theorem rollback_self : (s.rollback i).flushed i = [] := Function.update_self ..

theorem rollback_of_ne (h : j ≠ i) : (s.rollback i).flushed j = s.flushed j :=
  Function.update_of_ne h ..

@[simp] theorem commit_committed :
    (s.commit I i).committed = (s.flushed i).foldl I.apply s.committed := rfl

@[simp] theorem commit_self : (s.commit I i).flushed i = [] := Function.update_self ..

theorem commit_of_ne (h : j ≠ i) : (s.commit I i).flushed j = s.flushed j :=
  Function.update_of_ne h ..

end Views

/-- Whatever is in flight is admitted by the committed state, and no two writes in flight
contend. -/
structure Sound (s : Sessions ι δ ω) : Prop where
  admitted : ∀ i, ∀ w ∈ s.flushed i, I.Admits s.committed w
  apart : ∀ i j, i ≠ j → ∀ w ∈ s.flushed i, ∀ w' ∈ s.flushed j, ¬I.Contends w w'
  own : ∀ i, (s.flushed i).Pairwise fun w w' => ¬I.Contends w w'

variable {I} {s : Sessions ι δ ω} {i : ι} {w : ω}

omit [DecidableEq ι] in
theorem sound_init (d : δ) : Sound I (⟨d, fun _ => []⟩ : Sessions ι δ ω) :=
  ⟨fun _ _ h => absurd h List.not_mem_nil, fun _ _ _ _ h => absurd h List.not_mem_nil,
    fun _ => List.Pairwise.nil⟩

/-- A write that is admitted and waits for none goes out. -/
theorem Sound.flush (h : Sound I s) (hw : I.Admits s.committed w)
    (hfree : ∀ j, ∀ w' ∈ s.flushed j, ¬I.Contends w' w) : Sound I (s.flush i w) := by
  have hmem : ∀ j x, x ∈ (s.flush i w).flushed j → x ∈ s.flushed j ∨ (j = i ∧ x = w) := by
    intro j x hx
    by_cases hj : j = i
    · subst hj
      rw [flush_self, List.mem_append, List.mem_singleton] at hx
      exact hx.imp id fun hx => ⟨rfl, hx⟩
    · rw [flush_of_ne hj] at hx
      exact .inl hx
  refine ⟨?_, ?_, ?_⟩
  · intro j x hx
    rcases hmem j x hx with hx | ⟨-, rfl⟩
    · exact h.admitted j x hx
    · exact hw
  · intro j k hjk x hx x' hx'
    rcases hmem j x hx with hxj | ⟨rfl, rfl⟩
    · rcases hmem k x' hx' with hx' | ⟨rfl, rfl⟩
      · exact h.apart j k hjk x hxj x' hx'
      · exact hfree j x hxj
    · rcases hmem k x' hx' with hx' | ⟨rfl, -⟩
      · exact fun hc => hfree k x' hx' (I.symm hc)
      · exact absurd rfl hjk
  · intro j
    by_cases hj : j = i
    · subst hj
      rw [flush_self, List.pairwise_append]
      refine ⟨h.own j, List.pairwise_singleton _ _, fun x hx x' hx' => ?_⟩
      rw [List.mem_singleton.mp hx']
      exact hfree j x hx
    · rw [flush_of_ne hj]
      exact h.own j

/-- Giving up writes keeps the rest. -/
theorem Sound.rollback (h : Sound I s) : Sound I (s.rollback i) := by
  have hmem : ∀ j x, x ∈ (s.rollback i).flushed j → x ∈ s.flushed j := by
    intro j x hx
    by_cases hj : j = i
    · subst hj
      rw [rollback_self] at hx
      exact absurd hx List.not_mem_nil
    · rwa [rollback_of_ne hj] at hx
  refine ⟨fun j x hx => h.admitted j x (hmem j x hx),
    fun j k hjk x hx x' hx' => h.apart j k hjk x (hmem j x hx) x' (hmem k x' hx'), fun j => ?_⟩
  by_cases hj : j = i
  · subst hj
    rw [rollback_self]
    exact List.Pairwise.nil
  · rw [rollback_of_ne hj]
    exact h.own j

/-- A write stays admitted while writes that do not contend with it are applied. -/
theorem admits_foldl {d : δ} {ws : List ω} (hws : ∀ x ∈ ws, I.Admits d x)
    (hown : ws.Pairwise fun x x' => ¬I.Contends x x') (hw : I.Admits d w)
    (hfree : ∀ x ∈ ws, ¬I.Contends w x) : I.Admits (ws.foldl I.apply d) w := by
  induction ws generalizing d with
  | nil => exact hw
  | cons x xs ih =>
    rw [List.pairwise_cons] at hown
    have hx : I.Admits d x := hws x List.mem_cons_self
    refine ih (fun y hy => ?_) hown.2 ?_ fun y hy => hfree y (List.mem_cons_of_mem _ hy)
    · exact I.admits_apply (fun hc => hown.1 y hy (I.symm hc)) (hws y (List.mem_cons_of_mem _ hy)) hx
    · exact I.admits_apply (hfree x List.mem_cons_self) hw hx

/-- A commit leaves the others admitted. -/
theorem Sound.commit (h : Sound I s) : Sound I (s.commit I i) := by
  have hrest : Sound I (s.rollback i) := h.rollback
  refine ⟨fun j x hx => ?_, hrest.apart, hrest.own⟩
  by_cases hj : j = i
  · subst hj
    rw [commit_self] at hx
    exact absurd hx List.not_mem_nil
  · rw [commit_of_ne hj] at hx
    exact admits_foldl (h.admitted i) (h.own i) (h.admitted j x hx)
      fun y hy => h.apart j i hj x hx y hy

end Sessions

end Mpango
