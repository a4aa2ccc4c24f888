import Mathlib.Data.List.Nodup

/-!
# Dictionaries

A dictionary keeps its entries in the order their keys were first written. Writing a key again
replaces its value where it stands.
-/

namespace Mpango

abbrev Dict (α β : Type) := List (α × β)

namespace Dict

variable {α β : Type} [DecidableEq α]

def get (d : Dict α β) (k : α) : Option β := d.lookup k

def set : Dict α β → α → β → Dict α β
  | [], k, v => [(k, v)]
  | (k', v') :: d, k, v => if k' = k then (k, v) :: d else (k', v') :: set d k v

/-- The entries written one after the other. -/
def ofPairs (ps : List (α × β)) : Dict α β := ps.foldl (fun d p => set d p.1 p.2) []

@[simp]
theorem get_nil (k : α) : get ([] : Dict α β) k = none := rfl

theorem get_cons (k k' : α) (v : β) (d : Dict α β) :
    get ((k', v) :: d) k = if k = k' then some v else get d k := by
  unfold get
  rw [List.lookup_cons]
  by_cases h : k = k'
  · simp [h]
  · simp [h, beq_false_of_ne h]

theorem get_append (d d' : Dict α β) (k : α) :
    get (d ++ d') k = (get d k).or (get d' k) := List.lookup_append

theorem get_set (d : Dict α β) (k k' : α) (v : β) :
    get (set d k v) k' = if k' = k then some v else get d k' := by
  induction d with
  | nil => exact get_cons k' k v []
  | cons p d ih =>
    obtain ⟨j, w⟩ := p
    unfold set
    by_cases hj : j = k
    · rw [if_pos hj, get_cons, get_cons, hj]
      by_cases hk : k' = k
      · rw [if_pos hk, if_pos hk]
      · rw [if_neg hk, if_neg hk, if_neg hk]
    · rw [if_neg hj, get_cons, get_cons, ih]
      by_cases hk : k' = j
      · rw [if_pos hk, if_pos hk, if_neg (by rw [hk]; exact hj)]
      · rw [if_neg hk, if_neg hk]

/-- The entries without those of a key. -/
theorem get_filter_ne (d : Dict α β) (k k' : α) :
    get (d.filter fun p => p.1 ≠ k) k' = if k' = k then none else get d k' := by
  induction d with
  | nil => simp
  | cons p d ih =>
    obtain ⟨j, w⟩ := p
    rw [List.filter_cons, get_cons]
    by_cases hj : j = k
    · rw [if_neg (by simp [hj]), ih, hj]
      split <;> rfl
    · rw [if_pos (by simp [hj]), get_cons, ih]
      by_cases hk : k' = j
      · rw [if_pos hk, if_pos hk, if_neg (by rw [hk]; exact hj)]
      · rw [if_neg hk, if_neg hk]

theorem get_eq_none {d : Dict α β} {k : α} : get d k = none ↔ k ∉ d.map Prod.fst := by
  induction d with
  | nil => simp
  | cons p d ih =>
    obtain ⟨j, w⟩ := p
    rw [get_cons, List.map_cons, List.mem_cons, not_or, ← ih]
    by_cases h : k = j
    · simp [h]
    · simp [h]

theorem mem_of_get {d : Dict α β} {k : α} {v : β} (h : get d k = some v) : (k, v) ∈ d := by
  induction d with
  | nil => cases h
  | cons p d ih =>
    obtain ⟨j, w⟩ := p
    rw [get_cons] at h
    split at h
    · next hk =>
      obtain rfl := Option.some.inj h
      rw [hk]
      exact List.mem_cons_self
    · exact List.mem_cons_of_mem _ (ih h)

/-- Where no key repeats, an entry is what its key is looked up as. -/
theorem get_of_mem {d : Dict α β} {k : α} {v : β} (hd : (d.map Prod.fst).Nodup)
    (h : (k, v) ∈ d) : get d k = some v := by
  induction d with
  | nil => cases h
  | cons p d ih =>
    obtain ⟨j, w⟩ := p
    obtain ⟨hj, hd⟩ := List.nodup_cons.mp hd
    rw [get_cons]
    rcases List.mem_cons.mp h with heq | hmem
    · obtain ⟨rfl, rfl⟩ := Prod.mk.inj heq
      exact if_pos rfl
    · have hne : k ≠ j := by
        rintro rfl
        exact hj (List.mem_map.mpr ⟨_, hmem, rfl⟩)
      rw [if_neg hne]
      exact ih hd hmem

/-- Where no key is written twice, the order of the entries does not matter. -/
theorem get_of_perm {d d' : Dict α β} (h : d.Perm d') (hd : (d.map Prod.fst).Nodup) (k : α) :
    get d k = get d' k := by
  cases hk : get d k with
  | none =>
    rw [get_eq_none, (h.map Prod.fst).mem_iff] at hk
    exact (get_eq_none.mpr hk).symm
  | some v =>
    have hmem : (k, v) ∈ d' := h.mem_iff.mp (mem_of_get hk)
    exact (get_of_mem ((h.map Prod.fst).nodup_iff.mp hd) hmem).symm

theorem set_of_not_mem {d : Dict α β} {k : α} (v : β) (h : k ∉ d.map Prod.fst) :
    set d k v = d ++ [(k, v)] := by
  induction d with
  | nil => rfl
  | cons p d ih =>
    obtain ⟨j, w⟩ := p
    rw [List.map_cons, List.mem_cons, not_or] at h
    unfold set
    rw [if_neg fun heq => h.1 heq.symm, ih h.2]
    rfl

theorem foldl_set_of_nodup (ps : List (α × β)) (d : Dict α β)
    (h : ((d ++ ps).map Prod.fst).Nodup) :
    ps.foldl (fun d p => set d p.1 p.2) d = d ++ ps := by
  induction ps generalizing d with
  | nil => exact (List.append_nil d).symm
  | cons p ps ih =>
    have hp : p.1 ∉ d.map Prod.fst := by
      rw [List.map_append, List.map_cons] at h
      exact fun hmem => (List.nodup_append.mp h).2.2 _ hmem _ List.mem_cons_self rfl
    rw [List.foldl_cons, set_of_not_mem p.2 hp, ih _ (by simpa using h)]
    simp

/-- Entries whose keys do not repeat are kept as they are. -/
theorem ofPairs_of_nodup {ps : List (α × β)} (h : (ps.map Prod.fst).Nodup) : ofPairs ps = ps :=
  foldl_set_of_nodup ps [] h

theorem get_foldl_set (ps : List (α × β)) (d : Dict α β) (k : α) :
    get (ps.foldl (fun d p => set d p.1 p.2) d) k = (get ps.reverse k).or (get d k) := by
  induction ps generalizing d with
  | nil => rfl
  | cons p ps ih =>
    rw [List.foldl_cons, ih, get_set, List.reverse_cons, get_append, get_cons, get_nil]
    cases get ps.reverse k with
    | some v => rfl
    | none =>
      by_cases h : k = p.1
      · simp [h]
      · simp [h]

/-- The last entry written for a key is the one that stays. -/
theorem get_ofPairs (ps : List (α × β)) (k : α) : get (ofPairs ps) k = get ps.reverse k := by
  unfold ofPairs
  rw [get_foldl_set, get_nil, Option.or_none]

theorem get_ofPairs_eq_none {ps : List (α × β)} {k : α} :
    get (ofPairs ps) k = none ↔ k ∉ ps.map Prod.fst := by
  rw [get_ofPairs, get_eq_none, List.map_reverse, List.mem_reverse]

theorem mem_keys_ofPairs {ps : List (α × β)} {k : α} :
    k ∈ (ofPairs ps).map Prod.fst ↔ k ∈ ps.map Prod.fst := by
  rw [← not_iff_not, ← get_eq_none, get_ofPairs_eq_none]

theorem get_ofPairs_append_cons {before after : List (α × β)} {k : α} {v : β}
    (h : k ∉ after.map Prod.fst) : get (ofPairs (before ++ (k, v) :: after)) k = some v := by
  have hnone : get after.reverse k = none := by
    rw [get_eq_none, List.map_reverse, List.mem_reverse]
    exact h
  rw [get_ofPairs, List.reverse_append, List.reverse_cons, get_append, get_append, hnone,
    get_cons, if_pos rfl]
  rfl

end Dict

end Mpango
