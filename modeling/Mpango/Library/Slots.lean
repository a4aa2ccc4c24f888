import Mathlib.Data.List.Basic

/-!
# Slots that hold keys

A list of slots, each of which holds a key or none: the workers of a pool, each with the item it works
on. `held` counts the slots with a key and `busy` those with any; a change of one slot moves both by
what it puts in and takes out, and a key that is held once is held by no other slot.
-/

namespace Mpango

variable {σ κ : Type} {slots : List σ} {i j : ℕ} {slot other new : σ}

/-! ## Counting -/

theorem countP_set_add (p : σ → Bool) (h : slots[i]? = some slot) (new : σ) :
    (slots.set i new).countP p + (if p slot then 1 else 0) =
      slots.countP p + if p new then 1 else 0 := by
  obtain ⟨hi, rfl⟩ := List.getElem?_eq_some_iff.mp h
  rw [List.countP_set hi]
  have hpos : p slots[i] = true → 0 < slots.countP p := fun hp =>
    List.countP_pos_iff.mpr ⟨slots[i], List.getElem_mem hi, hp⟩
  split
  next hp =>
    have := hpos hp
    omega
  next => omega

/-- Two places of a list are counted as two. -/
theorem two_le_countP {p : σ → Bool} (hij : i ≠ j) (hi : slots[i]? = some slot)
    (hj : slots[j]? = some other) (hp : p slot) (hp' : p other) : 2 ≤ slots.countP p := by
  induction slots generalizing i j with
  | nil => cases hi
  | cons x xs ih =>
    rw [List.countP_cons]
    cases i with
    | zero =>
      cases j with
      | zero => exact absurd rfl hij
      | succ j =>
        obtain rfl := Option.some.inj hi
        have hrest : 0 < xs.countP p :=
          List.countP_pos_iff.mpr ⟨other, List.mem_of_getElem? hj, hp'⟩
        rw [if_pos hp]
        omega
    | succ i =>
      cases j with
      | zero =>
        obtain rfl := Option.some.inj hj
        have hrest : 0 < xs.countP p :=
          List.countP_pos_iff.mpr ⟨slot, List.mem_of_getElem? hi, hp⟩
        rw [if_pos hp']
        omega
      | succ j =>
        have := ih (fun h => hij (congrArg (· + 1) h)) hi hj
        omega

/-! ## Busy slots -/

section

variable {key : σ → Option κ}

variable (key) in
/-- How many slots hold some key. -/
def busy (slots : List σ) : ℕ := slots.countP fun slot => (key slot).isSome

variable (key) in
theorem busy_set (h : slots[i]? = some slot) (new : σ) :
    busy key (slots.set i new) + (if (key slot).isSome then 1 else 0) =
      busy key slots + if (key new).isSome then 1 else 0 :=
  countP_set_add (fun slot => (key slot).isSome) h new

theorem busy_append (slots slots' : List σ) :
    busy key (slots ++ slots') = busy key slots + busy key slots' :=
  List.countP_append

theorem busy_eq_zero : busy key slots = 0 ↔ ∀ slot ∈ slots, key slot = none := by
  simp [busy, List.countP_eq_zero]

end

/-! ## The slots that hold a key -/

variable [DecidableEq κ] {key : σ → Option κ} {k : κ}

variable (key) in
/-- How many slots hold a key. -/
def held (slots : List σ) (k : κ) : ℕ := slots.countP fun slot => decide (key slot = some k)

variable (key) in
theorem held_set (h : slots[i]? = some slot) (new : σ) (k : κ) :
    held key (slots.set i new) k + (if key slot = some k then 1 else 0) =
      held key slots k + if key new = some k then 1 else 0 := by
  have := countP_set_add (fun slot => decide (key slot = some k)) h new
  simp only [decide_eq_true_eq] at this
  exact this

theorem held_append (slots slots' : List σ) (k : κ) :
    held key (slots ++ slots') k = held key slots k + held key slots' k :=
  List.countP_append

theorem held_pos (hmem : slot ∈ slots) (hk : key slot = some k) : 0 < held key slots k :=
  List.countP_pos_iff.mpr ⟨slot, hmem, decide_eq_true hk⟩

theorem held_eq_zero (h : ∀ slot ∈ slots, key slot = none) : held key slots k = 0 := by
  refine List.countP_eq_zero.mpr fun slot hslot => ?_
  simp [h slot hslot]

/-- The other slots do not hold a key that is held once. -/
theorem mem_set_of_held (h : slots[i]? = some slot) (hk : key slot = some k)
    (honce : held key slots k ≤ 1) (hmem : other ∈ slots.set i new) :
    other = new ∨ other ∈ slots ∧ key other ≠ some k := by
  obtain ⟨j, hj⟩ := List.mem_iff_getElem?.mp hmem
  rw [List.getElem?_set] at hj
  split at hj
  · split at hj
    · exact .inl (Option.some.inj hj).symm
    · cases hj
  next hij =>
    refine .inr ⟨List.mem_of_getElem? hj, fun hother => ?_⟩
    have htwo : 2 ≤ held key slots k :=
      two_le_countP hij h hj (decide_eq_true hk) (decide_eq_true hother)
    omega

end Mpango
