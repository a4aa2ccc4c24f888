import Mathlib.Data.List.Nodup
import Mathlib.Data.List.Basic

/-!
# Joined sources

A query reads a tree of joins over sources of rows. What comes out of the tree is a list of
environments: which row stands for which source, and none where an outer join found no partner. The
clauses of the joins are named, so that a tree says how the sources are joined but not on what.

A condition that asks one thing of each source cuts a join down to the join of what the sources
themselves are cut down to (`Lenient.filter_envs_congr`), also through outer joins, as long as a
source that is asked anything may not be missing.
-/

namespace Mpango.Joins

inductive JoinKind where
  | inner
  | left
  | full
deriving DecidableEq

/-- A tree of joins. A join without a clause pairs everything. -/
inductive JoinTree (σ : Type) where
  | nothing
  | source (s : σ)
  | join (kind : JoinKind) (clause : Option ℕ) (left right : JoinTree σ)
deriving DecidableEq

variable {σ ρ : Type}

/-- The row that stands for each source. -/
abbrev Env (σ ρ : Type) := σ → Option ρ

namespace Env

def empty : Env σ ρ := fun _ => none

def single [DecidableEq σ] (s : σ) (r : ρ) : Env σ ρ := Function.update empty s (some r)

def merge (e e' : Env σ ρ) : Env σ ρ := fun s => (e s).or (e' s)

@[simp] theorem empty_apply (s : σ) : (empty : Env σ ρ) s = none := rfl

@[simp] theorem single_self [DecidableEq σ] (s : σ) (r : ρ) : single s r s = some r :=
  Function.update_self ..

theorem single_of_ne [DecidableEq σ] {s s' : σ} (h : s' ≠ s) (r : ρ) : single s r s' = none :=
  Function.update_of_ne h _ _

@[simp] theorem merge_apply (e e' : Env σ ρ) (s : σ) : e.merge e' s = (e s).or (e' s) := rfl

@[simp] theorem merge_empty (e : Env σ ρ) : e.merge empty = e := by
  funext s
  simp

@[simp] theorem empty_merge (e : Env σ ρ) : empty.merge e = e := by
  funext s
  simp

end Env

/-! ## Joins of lists -/

section Lists

variable (on : Env σ ρ → Bool) (l r : List (Env σ ρ))

/-- The pairs that meet the clause. -/
def matched : List (Env σ ρ) :=
  l.flatMap fun e => (r.filter fun e' => on (e.merge e')).map e.merge

/-- What has no partner on the other side. -/
def unmatchedLeft : List (Env σ ρ) := l.filter fun e => r.all fun e' => !on (e.merge e')

def unmatchedRight : List (Env σ ρ) := r.filter fun e' => l.all fun e => !on (e.merge e')

def JoinKind.join : JoinKind → List (Env σ ρ)
  | .inner => matched on l r
  | .left => matched on l r ++ unmatchedLeft on l r
  | .full => matched on l r ++ unmatchedLeft on l r ++ unmatchedRight on l r

end Lists

section Pieces
variable {on : Env σ ρ → Bool} {l r : List (Env σ ρ)}

theorem mem_join {kind : JoinKind} {e : Env σ ρ}
    (h : e ∈ kind.join on l r) :
    (∃ a ∈ l, ∃ b ∈ r, e = a.merge b) ∨ e ∈ l ∨ e ∈ r := by
  have hmatched : e ∈ matched on l r → ∃ a ∈ l, ∃ b ∈ r, e = a.merge b := by
    intro he
    obtain ⟨a, ha, hb⟩ := List.mem_flatMap.mp he
    obtain ⟨b, hmem, rfl⟩ := List.mem_map.mp hb
    exact ⟨a, ha, b, (List.mem_filter.mp hmem).1, rfl⟩
  have hleft : e ∈ unmatchedLeft on l r → e ∈ l := fun he => (List.mem_filter.mp he).1
  have hright : e ∈ unmatchedRight on l r → e ∈ r := fun he => (List.mem_filter.mp he).1
  cases kind with
  | inner => exact .inl (hmatched h)
  | left =>
    rcases List.mem_append.mp h with h | h
    · exact .inl (hmatched h)
    · exact .inr (.inl (hleft h))
  | full =>
    rcases List.mem_append.mp h with h | h
    · rcases List.mem_append.mp h with h | h
      · exact .inl (hmatched h)
      · exact .inr (.inl (hleft h))
    · exact .inr (.inr (hright h))

variable {P Pl Pr : Env σ ρ → Bool}

theorem filter_matched (h : ∀ a ∈ l, ∀ b ∈ r, P (a.merge b) = (Pl a && Pr b)) :
    (matched on l r).filter P = matched on (l.filter Pl) (r.filter Pr) := by
  unfold matched
  induction l with
  | nil => rfl
  | cons a l ih =>
    have hrest := ih fun a ha => h a (List.mem_cons_of_mem _ ha)
    have hhead := h a List.mem_cons_self
    rw [List.flatMap_cons, List.filter_append, hrest, List.filter_map, List.filter_filter]
    cases hp : Pl a with
    | true =>
      rw [List.filter_cons_of_pos hp, List.flatMap_cons, List.filter_filter]
      congr 2
      refine List.filter_congr fun b hb => ?_
      simp [hhead b hb, hp, Bool.and_comm]
    | false =>
      rw [List.filter_cons_of_neg (by simp [hp]), List.filter_eq_nil_iff.mpr, List.map_nil,
        List.nil_append]
      intro b hb
      simp [hhead b hb, hp]

/-- What passes alone has no partner among what is left on the other side. -/
theorem filter_unmatchedLeft {free : Bool} (h : ∀ a ∈ l, P a = (Pl a && free))
    (hfree : free = true → ∀ b, Pr b = true) :
    (unmatchedLeft on l r).filter P =
      if free then unmatchedLeft on (l.filter Pl) (r.filter Pr) else [] := by
  unfold unmatchedLeft
  cases free with
  | false =>
    rw [if_neg Bool.false_ne_true, List.filter_eq_nil_iff]
    intro a ha
    simp [h a (List.mem_filter.mp ha).1]
  | true =>
    rw [if_pos rfl, List.filter_eq_self.mpr fun b _ => hfree rfl b, List.filter_filter,
      List.filter_filter]
    refine List.filter_congr fun a ha => ?_
    rw [h a ha, Bool.and_true, Bool.and_comm]

theorem filter_unmatchedRight {free : Bool} (h : ∀ b ∈ r, P b = (free && Pr b))
    (hfree : free = true → ∀ a, Pl a = true) :
    (unmatchedRight on l r).filter P =
      if free then unmatchedRight on (l.filter Pl) (r.filter Pr) else [] := by
  unfold unmatchedRight
  cases free with
  | false =>
    rw [if_neg Bool.false_ne_true, List.filter_eq_nil_iff]
    intro b hb
    simp [h b (List.mem_filter.mp hb).1]
  | true =>
    rw [if_pos rfl, List.filter_eq_self.mpr fun a _ => hfree rfl a, List.filter_filter,
      List.filter_filter]
    refine List.filter_congr fun b hb => ?_
    rw [h b hb, Bool.true_and, Bool.and_comm]

end Pieces


namespace JoinTree

def sources : JoinTree σ → List σ
  | nothing => []
  | source s => [s]
  | join _ _ left right => left.sources ++ right.sources

/-- Whether a pair meets a clause, if there is one. -/
def meets (on : ℕ → Env σ ρ → Bool) (clause : Option ℕ) (e : Env σ ρ) : Bool :=
  clause.all fun c => on c e

variable [DecidableEq σ]

/-- The environments of a tree. -/
def envs (rows : σ → List ρ) (on : ℕ → Env σ ρ → Bool) : JoinTree σ → List (Env σ ρ)
  | nothing => [Env.empty]
  | source s => (rows s).map (Env.single s)
  | join kind clause left right =>
    kind.join (meets on clause) (left.envs rows on) (right.envs rows on)

variable {rows rows' : σ → List ρ} {on : ℕ → Env σ ρ → Bool}

/-! ## What an environment holds -/

/-- A row stands for a source of the tree, and is one of its rows. -/
theorem mem_of_mem_envs {t : JoinTree σ} {e : Env σ ρ} (h : e ∈ t.envs rows on) {s : σ} {r : ρ}
    (hs : e s = some r) : s ∈ t.sources ∧ r ∈ rows s := by
  induction t generalizing e with
  | nothing =>
    obtain rfl := List.mem_singleton.mp h
    cases hs
  | source s' =>
    obtain ⟨r', hr', rfl⟩ := List.mem_map.mp h
    rcases eq_or_ne s s' with rfl | hne
    · rw [Env.single_self, Option.some.injEq] at hs
      subst hs
      exact ⟨List.mem_singleton.mpr rfl, hr'⟩
    · rw [Env.single_of_ne hne] at hs
      cases hs
  | join kind clause left right ihl ihr =>
    have hl {a : Env σ ρ} (ha : a ∈ left.envs rows on) (hs : a s = some r) :
        s ∈ left.sources ++ right.sources ∧ r ∈ rows s :=
      (ihl ha hs).imp_left (List.mem_append_left _)
    have hr {b : Env σ ρ} (hb : b ∈ right.envs rows on) (hs : b s = some r) :
        s ∈ left.sources ++ right.sources ∧ r ∈ rows s :=
      (ihr hb hs).imp_left (List.mem_append_right _)
    rcases mem_join h with ⟨a, ha, b, hb, rfl⟩ | ha | hb
    · rw [Env.merge_apply, Option.or_eq_some_iff] at hs
      rcases hs with hs | ⟨-, hs⟩
      · exact hl ha hs
      · exact hr hb hs
    · exact hl ha hs
    · exact hr hb hs

theorem eq_none_of_mem_envs {t : JoinTree σ} {e : Env σ ρ} (h : e ∈ t.envs rows on) {s : σ}
    (hs : s ∉ t.sources) : e s = none := by
  by_contra hne
  obtain ⟨r, hr⟩ := Option.ne_none_iff_exists'.mp hne
  exact hs (mem_of_mem_envs h hr).1

/-- Without clauses, any choice of rows comes out of the tree. -/
theorem exists_mem_envs (rows : σ → List ρ) (t : JoinTree σ) (ht : t.sources.Nodup)
    (choice : σ → ρ) (h : ∀ s ∈ t.sources, choice s ∈ rows s) :
    ∃ e ∈ t.envs rows fun _ _ => true, ∀ s ∈ t.sources, e s = some (choice s) := by
  induction t with
  | nothing => exact ⟨_, List.mem_singleton.mpr rfl, nofun⟩
  | source s =>
    refine ⟨Env.single s (choice s), List.mem_map_of_mem (h s (List.mem_singleton.mpr rfl)), ?_⟩
    intro s' hs'
    rw [List.mem_singleton.mp hs', Env.single_self]
  | join kind clause left right ihl ihr =>
    obtain ⟨hl, hr, hdisjoint⟩ := List.nodup_append'.mp ht
    obtain ⟨a, ha, hchoice⟩ := ihl hl fun s hs => h s (List.mem_append_left _ hs)
    obtain ⟨b, hb, hchoice'⟩ := ihr hr fun s hs => h s (List.mem_append_right _ hs)
    have hmatched : a.merge b ∈ matched (meets (fun _ _ => true) clause)
        (left.envs rows fun _ _ => true) (right.envs rows fun _ _ => true) := by
      refine List.mem_flatMap.mpr ⟨a, ha, List.mem_map_of_mem (List.mem_filter.mpr ⟨hb, ?_⟩)⟩
      cases clause <;> rfl
    refine ⟨a.merge b, ?_, ?_⟩
    · cases kind with
      | inner => exact hmatched
      | left => exact List.mem_append_left _ hmatched
      | full => exact List.mem_append_left _ (List.mem_append_left _ hmatched)
    · intro s hs
      rcases List.mem_append.mp hs with hs | hs
      · rw [Env.merge_apply, hchoice s hs, Option.some_or]
      · have hnone : a s = none := eq_none_of_mem_envs ha fun hmem => hdisjoint hmem hs
        rw [Env.merge_apply, hnone, Option.none_or, hchoice' s hs]

end JoinTree

/-! ## Conditions on each source -/

/-- An environment meets a condition on each of the sources. -/
def passes (check : σ → Option ρ → Bool) (sources : List σ) (e : Env σ ρ) : Bool :=
  sources.all fun s => check s (e s)

/-- A source that may be missing is not asked anything. -/
def Lenient (check : σ → Option ρ → Bool) : Prop :=
  ∀ s, check s none = true → ∀ r, check s (some r) = true

section Passes
variable {check : σ → Option ρ → Bool} {ls rs : List σ} {l r : List (Env σ ρ)}

theorem passes_merge {a b : Env σ ρ} (hdisjoint : ls.Disjoint rs) (ha : ∀ s ∉ ls, a s = none)
    (hb : ∀ s ∉ rs, b s = none) :
    passes check (ls ++ rs) (a.merge b) = (passes check ls a && passes check rs b) := by
  unfold passes
  rw [List.all_append]
  congr 1
  · rw [Bool.eq_iff_iff, List.all_eq_true, List.all_eq_true]
    refine forall₂_congr fun s hs => ?_
    rw [Env.merge_apply, hb s fun hmem => hdisjoint hs hmem, Option.or_none]
  · rw [Bool.eq_iff_iff, List.all_eq_true, List.all_eq_true]
    refine forall₂_congr fun s hs => ?_
    rw [Env.merge_apply, ha s fun hmem => hdisjoint hmem hs, Option.none_or]

theorem passes_left {a : Env σ ρ} (hdisjoint : ls.Disjoint rs) (ha : ∀ s ∉ ls, a s = none) :
    passes check (ls ++ rs) a = (passes check ls a && passes check rs Env.empty) := by
  have h : passes check (ls ++ rs) (a.merge Env.empty) = _ :=
    passes_merge hdisjoint ha fun _ _ => Env.empty_apply _
  rwa [Env.merge_empty] at h

theorem passes_right {b : Env σ ρ} (hdisjoint : ls.Disjoint rs) (hb : ∀ s ∉ rs, b s = none) :
    passes check (ls ++ rs) b = (passes check ls Env.empty && passes check rs b) := by
  have h : passes check (ls ++ rs) (Env.empty.merge b) = _ :=
    passes_merge hdisjoint (fun _ _ => Env.empty_apply _) hb
  rwa [Env.empty_merge] at h

/-- A side that may be missing is not asked anything. -/
theorem Lenient.passes_of_empty (hcheck : Lenient check) (h : passes check ls Env.empty = true)
    (e : Env σ ρ) : passes check ls e = true := by
  unfold passes at h ⊢
  rw [List.all_eq_true] at h ⊢
  intro s hs
  cases he : e s with
  | none => exact h s hs
  | some r => exact hcheck s (h s hs) r

/-- What passes of a join, from what passes of its sides. -/
def JoinKind.passing (kind : JoinKind) (on : Env σ ρ → Bool) (leftFree rightFree : Bool)
    (l r : List (Env σ ρ)) : List (Env σ ρ) :=
  let missing := (if rightFree then unmatchedLeft on l r else [])
  match kind with
  | .inner => matched on l r
  | .left => matched on l r ++ missing
  | .full => matched on l r ++ missing ++ (if leftFree then unmatchedRight on l r else [])

/-- The condition is asked of the two sides of a join apart. -/
theorem Lenient.filter_join (hcheck : Lenient check) (hdisjoint : ls.Disjoint rs)
    (hl : ∀ a ∈ l, ∀ s ∉ ls, a s = none) (hr : ∀ b ∈ r, ∀ s ∉ rs, b s = none) (kind : JoinKind)
    (on : Env σ ρ → Bool) :
    (kind.join on l r).filter (passes check (ls ++ rs)) =
      kind.passing on (passes check ls Env.empty) (passes check rs Env.empty)
        (l.filter (passes check ls)) (r.filter (passes check rs)) := by
  have hmatched : (matched on l r).filter (passes check (ls ++ rs)) =
      matched on (l.filter (passes check ls)) (r.filter (passes check rs)) :=
    filter_matched fun a ha b hb => passes_merge hdisjoint (hl a ha) (hr b hb)
  have hleft : (unmatchedLeft on l r).filter (passes check (ls ++ rs)) = _ :=
    filter_unmatchedLeft (fun a ha => passes_left hdisjoint (hl a ha)) hcheck.passes_of_empty
  have hright : (unmatchedRight on l r).filter (passes check (ls ++ rs)) = _ :=
    filter_unmatchedRight (fun b hb => passes_right hdisjoint (hr b hb)) hcheck.passes_of_empty
  cases kind with
  | inner => exact hmatched
  | left => simp only [JoinKind.join, JoinKind.passing, List.filter_append, hmatched, hleft]
  | full => simp only [JoinKind.join, JoinKind.passing, List.filter_append, hmatched, hleft, hright]

end Passes

/-- Rows that do not pass make no difference to what passes of a tree. -/
theorem Lenient.filter_envs_congr [DecidableEq σ] {check : σ → Option ρ → Bool}
    (hcheck : Lenient check) {rows rows' : σ → List ρ} (on : ℕ → Env σ ρ → Bool) (t : JoinTree σ)
    (ht : t.sources.Nodup) (h : ∀ s ∈ t.sources,
      (rows s).filter (fun r => check s (some r)) = (rows' s).filter (fun r => check s (some r))) :
    (t.envs rows on).filter (passes check t.sources) =
      (t.envs rows' on).filter (passes check t.sources) := by
  induction t with
  | nothing => rfl
  | source s =>
    have hsingle : passes check [s] ∘ Env.single s = fun r => check s (some r) := by
      funext r
      simp [passes]
    simp only [JoinTree.envs, JoinTree.sources, List.filter_map, hsingle]
    rw [h s (List.mem_singleton.mpr rfl)]
  | join kind clause left right ihl ihr =>
    obtain ⟨hl, hr, hdisjoint⟩ := List.nodup_append'.mp ht
    have hleft := ihl hl fun s hs => h s (List.mem_append_left _ hs)
    have hright := ihr hr fun s hs => h s (List.mem_append_right _ hs)
    have hnone {rows : σ → List ρ} {t : JoinTree σ} : ∀ e ∈ t.envs rows on, ∀ s ∉ t.sources,
        e s = none := fun e he s hs => JoinTree.eq_none_of_mem_envs he hs
    simp only [JoinTree.envs, JoinTree.sources]
    rw [hcheck.filter_join hdisjoint hnone hnone, hcheck.filter_join hdisjoint hnone hnone, hleft,
      hright]

end Mpango.Joins
