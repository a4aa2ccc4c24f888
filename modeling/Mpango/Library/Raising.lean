import Mathlib.Tactic.Common

/-!
# Stateful programs that may raise

A program takes a state to a value or an error, and to the state it leaves behind in either case:
what was done before an error stays done. `Ends` is the weakest precondition of a program for two
postconditions, one for its values and one for its errors, with one rule for each way of composing
programs.
-/

namespace Mpango

/-- A program over the states `σ` that may raise an `ε`. -/
def Raising (σ ε α : Type) : Type := σ → Except ε α × σ

variable {σ ε α β : Type}

namespace Raising

instance : Monad (Raising σ ε) where
  pure a := fun s => (.ok a, s)
  bind p f := fun s =>
    match p s with
    | (.ok a, s') => f a s'
    | (.error e, s') => (.error e, s')

instance : MonadExceptOf ε (Raising σ ε) where
  throw e := fun s => (.error e, s)
  tryCatch p handle := fun s =>
    match p s with
    | (.ok a, s') => (.ok a, s')
    | (.error e, s') => handle e s'

/-- Run `last` however the program ends; an error of `last` takes the place of its end. -/
def always (p : Raising σ ε α) (last : Raising σ ε Unit) : Raising σ ε α := fun s =>
  match p s with
  | (r, s') =>
    match last s' with
    | (.ok _, s'') => (r, s'')
    | (.error e, s'') => (.error e, s'')

/-- However the program ends, its postcondition for that end holds. -/
def Ends (p : Raising σ ε α) (s : σ) (value : α → σ → Prop) (error : ε → σ → Prop) : Prop :=
  match p s with
  | (.ok a, s') => value a s'
  | (.error e, s') => error e s'

variable {p : Raising σ ε α} {s : σ} {value value' : α → σ → Prop} {error error' : ε → σ → Prop}

theorem Ends.mono (h : p.Ends s value error) (hvalue : ∀ a s', value a s' → value' a s')
    (herror : ∀ e s', error e s' → error' e s') : p.Ends s value' error' := by
  unfold Ends at h ⊢
  split
  · next heq =>
    rw [heq] at h
    exact hvalue _ _ h
  · next heq =>
    rw [heq] at h
    exact herror _ _ h

theorem Ends.of_ok (h : p.Ends s value error) {a : α} {s' : σ} (hp : p s = (.ok a, s')) :
    value a s' := by
  unfold Ends at h
  rwa [hp] at h

theorem Ends.of_error (h : p.Ends s value error) {e : ε} {s' : σ} (hp : p s = (.error e, s')) :
    error e s' := by
  unfold Ends at h
  rwa [hp] at h

@[simp] theorem ends_pure {a : α} :
    (pure a : Raising σ ε α).Ends s value error ↔ value a s := Iff.rfl

@[simp] theorem ends_throw {e : ε} :
    (throw e : Raising σ ε α).Ends s value error ↔ error e s := Iff.rfl

theorem bind_of_ok {f : α → Raising σ ε β} {a : α} {s' : σ} (hp : p s = (.ok a, s')) :
    (p >>= f) s = f a s' := by
  show (match p s with
    | (Except.ok a, s') => f a s'
    | (Except.error e, s') => (Except.error e, s')) = f a s'
  rw [hp]

theorem bind_of_error {f : α → Raising σ ε β} {e : ε} {s' : σ} (hp : p s = (.error e, s')) :
    (p >>= f) s = (.error e, s') := by
  show (match p s with
    | (Except.ok a, s') => f a s'
    | (Except.error e, s') => (Except.error e, s')) = (.error e, s')
  rw [hp]

theorem ends_bind {f : α → Raising σ ε β} {value : β → σ → Prop} :
    (p >>= f).Ends s value error ↔ p.Ends s (fun a s' => (f a).Ends s' value error) error := by
  unfold Ends
  cases hp : p s with
  | mk r s' =>
    cases r with
    | ok a => rw [bind_of_ok hp]
    | error e => rw [bind_of_error hp]

theorem ends_tryCatch {handle : ε → Raising σ ε α} :
    (tryCatch p handle).Ends s value error ↔
      p.Ends s value (fun e s' => (handle e).Ends s' value error) := by
  unfold Ends
  cases hp : p s with
  | mk r s' =>
    cases r with
    | ok a =>
      have hcatch : (tryCatch p handle : Raising σ ε α) s = (Except.ok a, s') := by
        show (match p s with
          | (Except.ok a, s') => (Except.ok a, s')
          | (Except.error e, s') => handle e s') = (Except.ok a, s')
        rw [hp]
      rw [hcatch]
    | error e =>
      have hcatch : (tryCatch p handle : Raising σ ε α) s = handle e s' := by
        show (match p s with
          | (Except.ok a, s') => (Except.ok a, s')
          | (Except.error e, s') => handle e s') = handle e s'
        rw [hp]
      rw [hcatch]

theorem ends_always {last : Raising σ ε Unit} :
    (p.always last).Ends s value error ↔
      p.Ends s (fun a s' => last.Ends s' (fun _ s'' => value a s'') error)
        (fun e s' => last.Ends s' (fun _ s'' => error e s'') error) := by
  unfold Ends always
  cases hp : p s with
  | mk r s' =>
    cases hlast : last s' with
    | mk r' s'' => cases r <;> cases r' <;> simp [hlast]

theorem ends_ite {c : Prop} [Decidable c] {q : Raising σ ε α} (hpos : c → p.Ends s value error)
    (hneg : ¬c → q.Ends s value error) : (if c then p else q).Ends s value error := by
  split
  · next h => exact hpos h
  · next h => exact hneg h

end Raising

end Mpango
