import Mathlib.Data.List.Basic
import Mathlib.Data.List.Induction

/-!
# Properties along a run

A system whose every step succeeds: a state and a list of commands determine the run. `Along` says
that a property of a state and the command executed in it holds at every step. Two properties that
an invariant makes equivalent step by step are equivalent along every run (`Along.congr`).
-/

namespace Mpango

variable {σ κ : Type} (step : σ → κ → σ)

/-- The property holds of every command of a run, in the state the run has reached. -/
def Along (P : σ → κ → Prop) : σ → List κ → Prop
  | _, [] => True
  | s, c :: cs => P s c ∧ Along P (step s c) cs

variable {step} {P Q : σ → κ → Prop} {I : σ → Prop}

@[simp] theorem along_nil {s : σ} : Along step P s [] := trivial

@[simp] theorem along_cons {s : σ} {c : κ} {cs : List κ} :
    Along step P s (c :: cs) ↔ P s c ∧ Along step P (step s c) cs := Iff.rfl

/-- A step of a run stands after the commands before it. -/
theorem along_iff_forall {s : σ} {cs : List κ} :
    Along step P s cs ↔ ∀ before c after, cs = before ++ c :: after → P (before.foldl step s) c := by
  induction cs generalizing s with
  | nil =>
    refine iff_of_true trivial fun before c after h => ?_
    cases before <;> cases h
  | cons d ds ih =>
    rw [along_cons, ih]
    constructor
    · rintro ⟨hd, hds⟩ before c after h
      cases before with
      | nil =>
        obtain ⟨rfl, -⟩ := List.cons.inj h
        exact hd
      | cons b bs =>
        obtain ⟨rfl, htail⟩ := List.cons.inj h
        exact hds bs c after htail
    · intro h
      refine ⟨h [] d ds rfl, fun before c after hds => ?_⟩
      exact h (d :: before) c after (by rw [hds, List.cons_append])

/-- Two properties that hold at every step of a run hold together. -/
theorem Along.and {s : σ} {cs : List κ} (hP : Along step P s cs) (hQ : Along step Q s cs) :
    Along step (fun s c => P s c ∧ Q s c) s cs := by
  rw [along_iff_forall] at hP hQ ⊢
  intro before c after h
  exact ⟨hP before c after h, hQ before c after h⟩

/-- An invariant of the steps that have a property is an invariant of the runs that have it. -/
theorem Along.foldl_induction (hstep : ∀ s c, I s → P s c → I (step s c)) {s : σ} {cs : List κ}
    (hs : I s) (h : Along step P s cs) : I (cs.foldl step s) := by
  induction cs generalizing s with
  | nil => exact hs
  | cons c cs ih => exact ih (hstep s c hs h.1) h.2

/-- Equivalent in every state of an invariant that the steps with the first property keep, so
equivalent along every run. -/
theorem Along.congr (hI : ∀ s c, I s → P s c → I (step s c)) (h : ∀ s c, I s → (P s c ↔ Q s c))
    {s : σ} {cs : List κ} (hs : I s) : Along step P s cs ↔ Along step Q s cs := by
  induction cs generalizing s with
  | nil => exact Iff.rfl
  | cons c cs ih =>
    constructor
    · rintro ⟨hc, hcs⟩
      exact ⟨(h s c hs).mp hc, (ih (hI s c hs hc)).mp hcs⟩
    · rintro ⟨hc, hcs⟩
      have hc' : P s c := (h s c hs).mpr hc
      exact ⟨hc', (ih (hI s c hs hc')).mpr hcs⟩

/-- The same for a run that satisfies an assumption, which the invariant may use. -/
theorem Along.congr_of_along {A : σ → κ → Prop} (hI : ∀ s c, I s → A s c → I (step s c))
    (h : ∀ s c, I s → A s c → (P s c ↔ Q s c)) {s : σ} {cs : List κ} (hs : I s)
    (hA : Along step A s cs) : Along step P s cs ↔ Along step Q s cs := by
  induction cs generalizing s with
  | nil => exact Iff.rfl
  | cons c cs ih =>
    obtain ⟨hc, hcs⟩ := hA
    exact and_congr (h s c hs hc) (ih (hI s c hs hc) hcs)

/-- What every step does, the steps of a run do. -/
theorem Along.of_forall (h : ∀ s c, P s c) {s : σ} {cs : List κ} : Along step P s cs :=
  along_iff_forall.mpr fun _ _ _ _ => h _ _

end Mpango
