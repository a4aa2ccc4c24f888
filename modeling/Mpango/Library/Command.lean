import Mathlib.Data.List.Basic
import Mathlib.Tactic

/-!
# Commands that may refuse

A command is a function into `Except`: it returns the new state or refuses with an error, and a
refused command leaves the state as it was. The first half of this file is the small calculus
such functions are read with: what it means for a sequence, a guard, a lookup or a loop to
succeed, and to fail. The second half is about runs: a `run` executes a list of commands and
skips the refused ones, and an invariant of the single command is an invariant of every
reachable state (`Reachable.induction`) and of every accepted step (`trace`).
-/

namespace Mpango

variable {α β ε : Type}

/-! ## Sequences -/

@[simp] theorem bind_eq_ok {x : Except ε α} {f : α → Except ε β} {b : β} :
    (x >>= f) = .ok b ↔ ∃ a, x = .ok a ∧ f a = .ok b := by
  cases x <;> simp [bind, Except.bind]

/-- A sequence refuses when its first part does, or when the rest does after it. -/
@[simp] theorem bind_eq_error {x : Except ε α} {f : α → Except ε β} {e : ε} :
    (x >>= f) = .error e ↔ x = .error e ∨ ∃ a, x = .ok a ∧ f a = .error e := by
  cases x <;> simp [bind, Except.bind]

@[simp] theorem ok_bind {a : α} {f : α → Except ε β} : (Except.ok a >>= f) = f a := rfl

@[simp] theorem error_bind {e : ε} {f : α → Except ε β} :
    ((Except.error e : Except ε α) >>= f) = .error e := rfl

@[simp] theorem pure_eq_ok {a b : α} : (pure a : Except ε α) = .ok b ↔ a = b := by
  simp [pure, Except.pure]

@[simp] theorem pure_ne_error {a : α} {e : ε} : (pure a : Except ε α) ≠ .error e := by
  simp [pure, Except.pure]

@[simp] theorem exists_unit_ok {x : Except ε Unit} {p : Prop} :
    (∃ u : Unit, x = .ok u ∧ p) ↔ x = .ok () ∧ p :=
  ⟨fun ⟨(), h⟩ => h, fun h => ⟨(), h⟩⟩

/-! ## Guards and lookups -/

/-- Refuse when a condition holds. -/
def refuseIf (c : Prop) [Decidable c] (e : ε) : Except ε Unit :=
  if c then .error e else .ok ()

/-- The value of a lookup, or a refusal when there is none. -/
def orRefuse (o : Option α) (e : ε) : Except ε α :=
  match o with
  | some a => .ok a
  | none => .error e

/-- Refuse because of what a search found. -/
def refuseFirst (o : Option α) (e : α → ε) : Except ε Unit :=
  match o with
  | some a => .error (e a)
  | none => .ok ()

section Guard
variable {c : Prop} [Decidable c] {e e' : ε}

@[simp] theorem refuseIf_eq_ok {u : Unit} : refuseIf c e = .ok u ↔ ¬c := by
  by_cases h : c <;> simp [refuseIf, h]

@[simp] theorem refuseIf_eq_error : refuseIf c e = .error e' ↔ c ∧ e = e' := by
  by_cases h : c <;> simp [refuseIf, h]

theorem refuseIf_neg (h : ¬c) : refuseIf c e = .ok () := if_neg h

@[simp] theorem orRefuse_eq_ok {o : Option α} {a : α} : orRefuse o e = .ok a ↔ o = some a := by
  cases o <;> simp [orRefuse]

@[simp] theorem orRefuse_eq_error {o : Option α} :
    orRefuse o e = .error e' ↔ o = none ∧ e = e' := by
  cases o <;> simp [orRefuse]

@[simp] theorem refuseFirst_eq_ok {o : Option α} {f : α → ε} {u : Unit} :
    refuseFirst o f = .ok u ↔ o = none := by
  cases o <;> simp [refuseFirst]

@[simp] theorem orRefuse_some {a : α} : orRefuse (some a) e = .ok a := rfl

/-- A decidable property of an accepted result can be evaluated. -/
theorem exists_ok_of_any {x : Except ε α} {P : α → Prop} [DecidablePred P]
    (h : x.toOption.any (P ·) = true) : ∃ a, x = .ok a ∧ P a := by
  cases x with
  | error e => simp [Except.toOption] at h
  | ok a => exact ⟨a, rfl, by simpa [Except.toOption] using h⟩

@[simp] theorem mapError_eq_ok {ε' : Type} {x : Except ε α} {f : ε → ε'} {a : α} :
    x.mapError f = .ok a ↔ x = .ok a := by
  cases x <;> simp [Except.mapError]

@[simp] theorem mapError_eq_error {ε' : Type} {x : Except ε α} {f : ε → ε'} {e' : ε'} :
    x.mapError f = .error e' ↔ ∃ e, x = .error e ∧ f e = e' := by
  cases x <;> simp [Except.mapError]

end Guard

/-! ## Refusals -/

/-- Every refusal of a computation has a property. -/
def RefusesOnly (Q : ε → Prop) (x : Except ε α) : Prop := ∀ e, x = .error e → Q e

section Refusals
variable {Q : ε → Prop}

@[simp] theorem refusesOnly_ok {a : α} : RefusesOnly Q (.ok a) := by
  intro e h
  cases h

@[simp] theorem refusesOnly_pure {a : α} : RefusesOnly Q (pure a) := refusesOnly_ok

@[simp] theorem refusesOnly_error {e : ε} : RefusesOnly Q (.error e : Except ε α) ↔ Q e := by
  constructor
  · intro h
    exact h e rfl
  · rintro h _ ⟨⟩
    exact h

/-- A sequence: the first part, and the rest after it. -/
@[simp] theorem refusesOnly_bind {x : Except ε α} {f : α → Except ε β} :
    RefusesOnly Q (x >>= f) ↔ RefusesOnly Q x ∧ ∀ a, x = .ok a → RefusesOnly Q (f a) := by
  cases x with
  | error e => simp
  | ok a => simp

@[simp] theorem refusesOnly_refuseIf {c : Prop} [Decidable c] {e : ε} :
    RefusesOnly Q (refuseIf c e) ↔ (c → Q e) := by
  unfold refuseIf
  split <;> simp_all

@[simp] theorem refusesOnly_orRefuse {o : Option α} {e : ε} :
    RefusesOnly Q (orRefuse o e) ↔ (o = none → Q e) := by
  cases o <;> simp [orRefuse]

@[simp] theorem refusesOnly_mapError {ε' : Type} {Q : ε' → Prop} {x : Except ε α} {f : ε → ε'} :
    RefusesOnly Q (x.mapError f) ↔ RefusesOnly (fun e => Q (f e)) x := by
  cases x <;> simp [Except.mapError]

@[simp] theorem refusesOnly_map {x : Except ε α} {f : α → β} :
    RefusesOnly Q (f <$> x) ↔ RefusesOnly Q x := by
  cases x <;> simp [Functor.map, Except.map]

theorem RefusesOnly.mono {Q' : ε → Prop} {x : Except ε α} (h : RefusesOnly Q x)
    (hQ : ∀ e, Q e → Q' e) : RefusesOnly Q' x := by
  intro e he
  exact hQ e (h e he)

end Refusals

/-! ## Loops -/

section Loop
variable {f : β → α → Except ε β} {I : List α → β → Prop}

/-- A loop that completes: `I` relates the items still to come to the state reached. -/
theorem foldlM_ok_induction
    (step : ∀ x rest b b', I (x :: rest) b → f b x = .ok b' → I rest b') :
    ∀ {l : List α} {b b' : β}, I l b → l.foldlM f b = .ok b' → I [] b' := by
  intro l
  induction l with
  | nil =>
    intro b b' hI h
    rw [List.foldlM_nil, pure_eq_ok] at h
    exact h ▸ hI
  | cons x rest ih =>
    intro b b' hI h
    rw [List.foldlM_cons, bind_eq_ok] at h
    obtain ⟨c, hc, h⟩ := h
    exact ih (step x rest b c hI hc) h

/-- A loop that refuses does so at one of its items, in a state that still satisfies `I`. -/
theorem foldlM_error_induction
    (step : ∀ x rest b b', I (x :: rest) b → f b x = .ok b' → I rest b') {e : ε} :
    ∀ {l : List α} {b : β}, I l b → l.foldlM f b = .error e →
      ∃ x rest b', I (x :: rest) b' ∧ f b' x = .error e := by
  intro l
  induction l with
  | nil => intro b _ h; simp at h
  | cons x rest ih =>
    intro b hI h
    rw [List.foldlM_cons, bind_eq_error] at h
    rcases h with h | ⟨c, hc, h⟩
    · exact ⟨x, rest, b, hI, h⟩
    · exact ih (step x rest b c hI hc) h

/-- The refusals of a loop are refusals of its steps, in states that satisfy `I`. -/
theorem refusesOnly_foldlM {Q : ε → Prop}
    (step : ∀ x rest b b', I (x :: rest) b → f b x = .ok b' → I rest b')
    (refuse : ∀ x rest b, I (x :: rest) b → RefusesOnly Q (f b x)) {l : List α} {b : β}
    (hI : I l b) : RefusesOnly Q (l.foldlM f b) := by
  intro e h
  obtain ⟨x, rest, b', hI', hf⟩ := foldlM_error_induction step hI h
  exact refuse x rest b' hI' e hf

/-- The refusals of a traversal are refusals of its items. -/
theorem refusesOnly_mapM {γ : Type} {Q : ε → Prop} {g : α → Except ε γ} {l : List α}
    (h : ∀ x ∈ l, RefusesOnly Q (g x)) : RefusesOnly Q (l.mapM g) := by
  induction l with
  | nil => simp
  | cons x rest ih =>
    rw [List.mapM_cons]
    have hx := h x List.mem_cons_self
    have hrest := ih fun y hy => h y (List.mem_cons_of_mem x hy)
    simp [hx, hrest]

theorem refusesOnly_forM {Q : ε → Prop} {g : α → Except ε Unit} {l : List α}
    (h : ∀ x ∈ l, RefusesOnly Q (g x)) : RefusesOnly Q (l.forM g) := by
  induction l with
  | nil => simp
  | cons x rest ih =>
    show RefusesOnly Q (g x >>= fun _ => rest.forM g)
    have hx := h x List.mem_cons_self
    have hrest := ih fun y hy => h y (List.mem_cons_of_mem x hy)
    exact refusesOnly_bind.mpr ⟨hx, fun _ _ => hrest⟩

/-- A loop none of whose steps refuses completes. -/
theorem foldlM_total
    (step : ∀ x rest b, I (x :: rest) b → ∃ b', f b x = .ok b' ∧ I rest b') :
    ∀ {l : List α} {b : β}, I l b → ∃ b', l.foldlM f b = .ok b' ∧ I [] b' := by
  intro l
  induction l with
  | nil => exact fun hI => ⟨_, rfl, hI⟩
  | cons x rest ih =>
    intro b hI
    obtain ⟨c, hc, hIc⟩ := step x rest b hI
    obtain ⟨b', hb', hI'⟩ := ih hIc
    exact ⟨b', by rw [List.foldlM_cons, hc]; exact hb', hI'⟩

end Loop

/-! ## Traversals -/

section Traversal
variable {g : α → Except ε β}

theorem mapM_total {l : List α} (h : ∀ x ∈ l, ∃ y, g x = .ok y) : ∃ ys, l.mapM g = .ok ys := by
  induction l with
  | nil => exact ⟨[], rfl⟩
  | cons x rest ih =>
    obtain ⟨y, hy⟩ := h x List.mem_cons_self
    obtain ⟨ys, hys⟩ := ih fun x hx => h x (List.mem_cons_of_mem _ hx)
    exact ⟨y :: ys, by rw [List.mapM_cons, hy, ok_bind, hys]; rfl⟩

/-- A column of the results is a column of the items. -/
theorem map_of_mapM {γ : Type} {f : β → γ} {k : α → γ} {l : List α} {ys : List β}
    (hf : ∀ x ∈ l, ∀ y, g x = .ok y → f y = k x) (h : l.mapM g = .ok ys) :
    ys.map f = l.map k := by
  induction l generalizing ys with
  | nil =>
    rw [List.mapM_nil, pure_eq_ok] at h
    subst h
    rfl
  | cons x rest ih =>
    rw [List.mapM_cons, bind_eq_ok] at h
    obtain ⟨y, hy, h⟩ := h
    rw [bind_eq_ok] at h
    obtain ⟨zs, hzs, h⟩ := h
    rw [pure_eq_ok] at h
    subst h
    rw [List.map_cons, List.map_cons, hf x List.mem_cons_self y hy,
      ih (fun z hz => hf z (List.mem_cons_of_mem x hz)) hzs]

/-- The results of a traversal are the results of its items. -/
theorem mem_mapM {l : List α} {ys : List β} (h : l.mapM g = .ok ys) {y : β} :
    y ∈ ys ↔ ∃ x ∈ l, g x = .ok y := by
  induction l generalizing ys with
  | nil =>
    rw [List.mapM_nil, pure_eq_ok] at h
    subst h
    simp
  | cons x rest ih =>
    rw [List.mapM_cons, bind_eq_ok] at h
    obtain ⟨z, hz, h⟩ := h
    rw [bind_eq_ok] at h
    obtain ⟨zs, hzs, h⟩ := h
    rw [pure_eq_ok] at h
    subst h
    simp [ih hzs, hz, eq_comm]

end Traversal

/-! ## Runs -/

section Run
variable {σ κ ρ : Type} (execute : σ → κ → Except ε (σ × ρ))

/-- One transaction: the new state when the command is accepted, the old one when it is refused. -/
def commit (s : σ) (c : κ) : σ :=
  match execute s c with
  | .ok (s', _) => s'
  | .error _ => s

/-- The state after a list of commands. -/
def run (s : σ) (cs : List κ) : σ := cs.foldl (commit execute) s

/-- An accepted command with the states around it. -/
structure Accepted (σ κ ρ : Type) where
  before : σ
  command : κ
  after : σ
  result : ρ

/-- The accepted steps of a run, in order. -/
def trace (s : σ) : List κ → List (Accepted σ κ ρ)
  | [] => []
  | c :: cs =>
    match execute s c with
    | .ok (s', r) => ⟨s, c, s', r⟩ :: trace s' cs
    | .error _ => trace s cs

/-- The states reached from an initial one by admitted commands. -/
def Reachable (init : σ → Prop) (admitted : κ → Prop) (s : σ) : Prop :=
  ∃ s₀ cs, init s₀ ∧ (∀ c ∈ cs, admitted c) ∧ run execute s₀ cs = s

variable {execute} {init : σ → Prop} {admitted : κ → Prop} {P : σ → Prop}

theorem commit_of_ok {s s' : σ} {c : κ} {r : ρ} (h : execute s c = .ok (s', r)) :
    commit execute s c = s' := by
  simp only [commit, h]

theorem commit_of_error {s : σ} {c : κ} {e : ε} (h : execute s c = .error e) :
    commit execute s c = s := by
  simp only [commit, h]

/-- What accepted commands preserve, a transaction preserves. -/
theorem commit_induction {s : σ} {c : κ} (hs : P s)
    (step : ∀ s' r, execute s c = .ok (s', r) → P s') : P (commit execute s c) := by
  cases h : execute s c with
  | error e => rwa [commit_of_error h]
  | ok r => rw [commit_of_ok h]; exact step r.1 r.2 h

theorem run_induction
    (step : ∀ s c s' r, P s → admitted c → execute s c = .ok (s', r) → P s') :
    ∀ (cs : List κ) (s : σ), P s → (∀ c ∈ cs, admitted c) → P (run execute s cs)
  | [], _, hs, _ => hs
  | c :: cs, s, hs, hcs => by
    refine run_induction step cs _ ?_ fun c hc => hcs c (List.mem_cons_of_mem _ hc)
    exact commit_induction hs fun s' r h => step s c s' r hs (hcs c List.mem_cons_self) h

/-- An invariant: true initially and kept by every admitted command, so true of every reachable
state. -/
theorem Reachable.induction {s : σ} (h : Reachable execute init admitted s)
    (start : ∀ s, init s → P s)
    (step : ∀ s c s' r, P s → admitted c → execute s c = .ok (s', r) → P s') : P s := by
  obtain ⟨s₀, cs, h₀, hcs, rfl⟩ := h
  exact run_induction step cs s₀ (start s₀ h₀) hcs

/-- Every step of a trace was executed as recorded. -/
theorem execute_of_mem_trace {t : Accepted σ κ ρ} :
    ∀ {cs : List κ} {s : σ}, t ∈ trace execute s cs →
      execute t.before t.command = .ok (t.after, t.result) ∧ t.command ∈ cs
  | c :: cs, s, h => by
    unfold trace at h
    split at h
    · next s' r hc =>
      rcases List.mem_cons.mp h with rfl | h
      · exact ⟨hc, List.mem_cons_self⟩
      · exact (execute_of_mem_trace h).imp id (List.mem_cons_of_mem _)
    · exact (execute_of_mem_trace h).imp id (List.mem_cons_of_mem _)

/-- An invariant that holds where a run starts holds on both sides of each of its steps. -/
theorem trace_induction
    (step : ∀ s c s' r, P s → admitted c → execute s c = .ok (s', r) → P s')
    {t : Accepted σ κ ρ} :
    ∀ {cs : List κ} {s : σ}, P s → (∀ c ∈ cs, admitted c) → t ∈ trace execute s cs →
      P t.before ∧ P t.after
  | c :: cs, s, hs, hcs, h => by
    have hcs' : ∀ c ∈ cs, admitted c := fun c hc => hcs c (List.mem_cons_of_mem _ hc)
    unfold trace at h
    split at h
    · next s' r hc =>
      have hs' : P s' := step s c s' r hs (hcs c List.mem_cons_self) hc
      rcases List.mem_cons.mp h with rfl | h
      · exact ⟨hs, hs'⟩
      · exact trace_induction step hs' hcs' h
    · exact trace_induction step hs hcs' h

/-- The same for steps that are admitted one by one, in the state they start from. -/
theorem trace_induction_of {Q : Accepted σ κ ρ → Prop}
    (step : ∀ t : Accepted σ κ ρ, P t.before → execute t.before t.command = .ok (t.after, t.result) →
      Q t → P t.after) :
    ∀ {cs : List κ} {s : σ}, P s → (∀ t ∈ trace execute s cs, Q t) →
      ∀ t ∈ trace execute s cs, P t.before ∧ P t.after
  | c :: cs, s, hs, hQ, t, ht => by
    unfold trace at ht hQ
    split at ht
    · next s' r hc =>
      simp only [hc] at hQ
      have hs' : P s' := step ⟨s, c, s', r⟩ hs hc (hQ _ List.mem_cons_self)
      rcases List.mem_cons.mp ht with rfl | ht
      · exact ⟨hs, hs'⟩
      · exact trace_induction_of step hs' (fun t ht => hQ t (List.mem_cons_of_mem _ ht)) t ht
    · next e hc =>
      simp only [hc] at hQ
      exact trace_induction_of step hs hQ t ht

end Run

/-! ## Serial histories -/

/-- A state is reached from another by the effects of a log, one after the other. -/
inductive Serial {σ α : Type} (effect : α → σ → σ → Prop) (s₀ : σ) : List α → σ → Prop
  | nil : Serial effect s₀ [] s₀
  | snoc {log : List α} {s s' : σ} {a : α} :
      Serial effect s₀ log s → effect a s s' → Serial effect s₀ (log ++ [a]) s'

/-- What every effect preserves, a history preserves. -/
theorem Serial.induction {σ α : Type} {effect : α → σ → σ → Prop} {P : σ → Prop} {s₀ s : σ}
    {log : List α} (h : Serial effect s₀ log s) (start : P s₀)
    (step : ∀ a s s', P s → effect a s s' → P s') : P s := by
  induction h with
  | nil => exact start
  | snoc _ he ih => exact step _ _ _ ih he

/-- Every entry of a history took effect. -/
theorem Serial.of_mem {σ α : Type} {effect : α → σ → σ → Prop} {s₀ s : σ} {log : List α} {a : α}
    (h : Serial effect s₀ log s) (ha : a ∈ log) : ∃ before after, effect a before after := by
  induction h with
  | nil => exact absurd ha List.not_mem_nil
  | snoc _ he ih =>
    rcases List.mem_append.mp ha with ha | ha
    · exact ih ha
    · exact ⟨_, _, List.mem_singleton.mp ha ▸ he⟩

end Mpango
