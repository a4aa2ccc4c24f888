import Mpango.Library.Table

/-!
# Registries

What is often kept next to a dictionary of records. An index maps the key of every live record to
the id it is stored under (`Indexes`). A journal numbers the entries of each record from one
(`Numbers`); `Registered` is a table with both. A second dictionary holds an item for every record
that owes one (`Paired`). Each comes with the ways it follows when a record enters, moves on or
retires.
-/

namespace Mpango

/-! ## An index of the live records -/

section Index
variable {δ ι : Type}

/-- The index finds an id under a key exactly when the record with the id is live and shows the
key. -/
def Indexes (index : δ → Option ι) (shown : ι → Option δ) : Prop :=
  ∀ d i, index d = some i ↔ shown i = some d

variable {index : δ → Option ι} {shown : ι → Option δ} {d : δ} {i : ι}

theorem Indexes.empty : Indexes (fun _ : δ => (none : Option ι)) fun _ => none :=
  fun _ _ => iff_of_false nofun nofun

/-- What is not in the index is shown by no record. -/
theorem Indexes.shown_ne (h : Indexes index shown) (hd : index d = none) (j : ι) :
    shown j ≠ some d := by
  rw [Ne, ← h d j, hd]
  nofun

variable [DecidableEq δ] [DecidableEq ι]

/-- A record enters, under an id and a key that are not in use. -/
theorem Indexes.enter (h : Indexes index shown) (hi : shown i = none) (hd : index d = none) :
    Indexes (Function.update index d (some i)) (Function.update shown i (some d)) := by
  intro e j
  by_cases he : e = d
  · subst he
    rw [Function.update_self]
    by_cases hj : j = i
    · subst hj
      rw [Function.update_self]
      exact iff_of_true rfl rfl
    · rw [Function.update_of_ne hj]
      exact iff_of_false (fun hij => hj (Option.some.inj hij).symm) (h.shown_ne hd j)
  · rw [Function.update_of_ne he]
    by_cases hj : j = i
    · subst hj
      rw [Function.update_self, h e j, hi]
      exact iff_of_false nofun fun hde => he (Option.some.inj hde).symm
    · rw [Function.update_of_ne hj]
      exact h e j

/-- A live record retires. -/
theorem Indexes.retire (h : Indexes index shown) (hi : shown i = some d) :
    Indexes (Function.update index d none) (Function.update shown i none) := by
  have hself : index d = some i := (h d i).mpr hi
  intro e j
  by_cases he : e = d
  · subst he
    rw [Function.update_self]
    refine iff_of_false nofun ?_
    by_cases hj : j = i
    · subst hj
      rw [Function.update_self]
      nofun
    · rw [Function.update_of_ne hj, ← h e j, hself]
      exact fun hij => hj (Option.some.inj hij).symm
  · rw [Function.update_of_ne he]
    by_cases hj : j = i
    · subst hj
      rw [Function.update_self, h e j, hi]
      exact iff_of_false (fun hde => he (Option.some.inj hde).symm) nofun
    · rw [Function.update_of_ne hj]
      exact h e j

end Index

/-! ## A numbered journal -/

section Journal
variable {ε ι : Type} [DecidableEq ι] {about : ε → ι} {number : ε → ℕ}

/-- The entries about each record are numbered from one to its counter. -/
def Numbers (about : ε → ι) (number : ε → ℕ) (journal : List ε) (count : ι → ℕ) : Prop :=
  ∀ i, (journal.filter fun e => about e = i).map number = List.range' 1 (count i)

variable {journal : List ε} {count : ι → ℕ}

theorem Numbers.empty : Numbers about number [] fun _ => 0 := fun _ => rfl

/-- An entry with the next number. -/
theorem Numbers.append (h : Numbers about number journal count) {e : ε}
    (he : number e = count (about e) + 1) :
    Numbers about number (journal ++ [e])
      (Function.update count (about e) (count (about e) + 1)) := by
  intro i
  rw [List.filter_append, List.map_append, h i]
  by_cases hi : i = about e
  · subst hi
    rw [Function.update_self, List.range'_concat]
    simp [he, Nat.add_comm]
  · have hother : ¬about e = i := fun heq => hi heq.symm
    rw [Function.update_of_ne hi]
    simp [hother]

/-- Where a journal says nothing about a record, the counter is zero. -/
theorem Numbers.count_eq_zero (h : Numbers about number journal count) {i : ι}
    (hnone : ∀ e ∈ journal, about e ≠ i) : count i = 0 := by
  have hfilter : journal.filter (fun e => about e = i) = [] := by
    rw [List.filter_eq_nil_iff]
    intro e he hi
    exact hnone e he (of_decide_eq_true hi)
  have hrange := h i
  rw [hfilter, List.map_nil] at hrange
  have hlength := congrArg List.length hrange
  rw [List.length_nil, List.length_range'] at hlength
  exact hlength.symm

end Journal

/-! ## A table with both -/

section Registry
variable {ρ κ δ ε : Type} [Keyed ρ κ] [DecidableEq κ]

/-- The digest an active record of a table shows. -/
def shown (active : ρ → Bool) (digest : ρ → δ) (t : Table ρ) (k : κ) : Option δ :=
  (t.find? k).bind fun r => if active r then some (digest r) else none

/-- The index has the active records of the table, and the journal has entries for every record. -/
structure Registered (active : ρ → Bool) (digest : ρ → δ) (about : ε → κ) (number : ε → ℕ)
    (t : Table ρ) (index : δ → Option κ) (journal : List ε) (count : κ → ℕ) : Prop where
  indexed : Indexes index (shown active digest t)
  numbered : Numbers about number journal count
  recorded : ∀ e ∈ journal, t.find? (about e) ≠ none
  counted : ∀ r ∈ t, count (key r) ≠ 0

variable {active : ρ → Bool} {digest : ρ → δ} {about : ε → κ} {number : ε → ℕ} {t : Table ρ}
  {index : δ → Option κ} {journal : List ε} {count : κ → ℕ}

theorem shown_eq_some {k : κ} {d : δ} : shown active digest t k = some d ↔
    ∃ r ∈ t, key r = k ∧ active r = true ∧ digest r = d := by
  rw [shown, Option.bind_eq_some_iff]
  constructor
  · rintro ⟨r, hfind, hshown⟩
    obtain ⟨hr, hk⟩ := Table.find?_eq_some.mp hfind
    split at hshown
    · next hactive => exact ⟨r, hr, hk, hactive, Option.some.inj hshown⟩
    · cases hshown
  · rintro ⟨r, hr, rfl, hactive, rfl⟩
    exact ⟨r, Table.find?_key hr, if_pos hactive⟩

theorem shown_of_mem {r : ρ} (hr : r ∈ t) :
    shown active digest t (key r) = if active r then some (digest r) else none := by
  rw [shown, Table.find?_key hr, Option.bind_some]

theorem shown_put {r : ρ} : shown active digest (t.put r) =
    Function.update (shown active digest t) (key r)
      (if active r then some (digest r) else none) := by
  funext k
  rw [shown, Table.find?_put]
  by_cases hk : k = key r
  · subst hk
    rw [Function.update_self, Function.update_self, Option.bind_some]
  · rw [Function.update_of_ne hk, Function.update_of_ne hk, shown]

theorem find?_put_ne_none {r : ρ} {k : κ} (h : t.find? k ≠ none) : (t.put r).find? k ≠ none := by
  rw [Table.find?_put]
  by_cases hk : k = key r
  · subst hk
    rw [Function.update_self]
    nofun
  · rw [Function.update_of_ne hk]
    exact h

theorem Registered.empty : Registered active digest about number Table.empty (fun _ => none) []
    fun _ => 0 where
  indexed := Indexes.empty
  numbered := Numbers.empty
  recorded := fun _ he => absurd he List.not_mem_nil
  counted := fun _ hr => absurd hr Table.not_mem_empty

/-- An index entry is a record. -/
theorem Registered.find (h : Registered active digest about number t index journal count) {d : δ}
    {k : κ} (hd : index d = some k) : ∃ r ∈ t, key r = k ∧ active r = true ∧ digest r = d :=
  shown_eq_some.mp ((h.indexed d k).mp hd)

/-- One more entry about a record. -/
theorem Registered.append (h : Registered active digest about number t index journal count) {r : ρ}
    {e : ε} (hr : r ∈ t) (habout : about e = key r) (hnumber : number e = count (key r) + 1) :
    Registered active digest about number t index (journal ++ [e])
      (Function.update count (key r) (count (key r) + 1)) where
  indexed := h.indexed
  numbered := by
    rw [← habout] at hnumber ⊢
    exact h.numbered.append hnumber
  recorded := by
    intro x hx
    rcases List.mem_append.mp hx with hx | hx
    · exact h.recorded x hx
    · rw [List.mem_singleton] at hx
      subst hx
      rw [habout, Table.find?_key hr]
      nofun
  counted := by
    intro x hx
    by_cases hk : key x = key r
    · rw [hk, Function.update_self]
      exact Nat.succ_ne_zero _
    · rw [Function.update_of_ne hk]
      exact h.counted x hx

/-- A record is written again: active as it was, or retired if it was active. -/
theorem Registered.rewrite (h : Registered active digest about number t index journal count)
    {r r' : ρ} {index' : δ → Option κ} (hr : r ∈ t) (hkey : key r' = key r)
    (hindexed : Indexes index' (Function.update (shown active digest t) (key r)
      (if active r' then some (digest r') else none))) :
    Registered active digest about number (t.put r') index' journal count where
  indexed := by
    rw [shown_put, hkey]
    exact hindexed
  numbered := h.numbered
  recorded := fun e he => find?_put_ne_none (h.recorded e he)
  counted := by
    intro x hx
    rcases Table.mem_put.mp hx with ⟨hx, -⟩ | rfl
    · exact h.counted x hx
    · rw [hkey]
      exact h.counted r hr

/-- A note on a record. -/
theorem Registered.note (h : Registered active digest about number t index journal count)
    {r r' : ρ} (hr : r ∈ t) (hkey : key r' = key r) (hdigest : digest r' = digest r)
    (hactive : active r' = active r) :
    Registered active digest about number (t.put r') index journal count := by
  refine h.rewrite hr hkey ?_
  rw [hactive, hdigest, ← shown_of_mem hr, Function.update_eq_self]
  exact h.indexed

variable [DecidableEq δ]

/-- An active record moves on: it leaves the index when it is not active any more. -/
theorem Registered.move (h : Registered active digest about number t index journal count)
    {r r' : ρ} (hr : r ∈ t) (hkey : key r' = key r) (hdigest : digest r' = digest r)
    (hactive : active r = true) :
    Registered active digest about number (t.put r')
      (if active r' then index else Function.update index (digest r) none) journal count := by
  have hshown : shown active digest t (key r) = some (digest r) := by
    rw [shown_of_mem hr, if_pos hactive]
  refine h.rewrite hr hkey ?_
  rw [hdigest]
  cases active r' with
  | true =>
    rw [if_pos rfl, if_pos rfl, ← hshown, Function.update_eq_self]
    exact h.indexed
  | false =>
    rw [if_neg nofun, if_neg nofun]
    exact h.indexed.retire hshown

/-- A record enters under a new key, with its first entry. -/
theorem Registered.enter (h : Registered active digest about number t index journal count) {r : ρ}
    {e : ε} (hfresh : t.find? (key r) = none) (hactive : active r = true)
    (hindex : index (digest r) = none) (habout : about e = key r) (hnumber : number e = 1) :
    Registered active digest about number (t.put r)
      (Function.update index (digest r) (some (key r))) (journal ++ [e])
      (Function.update count (key r) 1) where
  indexed := by
    rw [shown_put, if_pos hactive]
    refine h.indexed.enter ?_ hindex
    rw [shown, hfresh, Option.bind_none]
  numbered := by
    have hnew : ∀ x ∈ journal, about x ≠ key r := fun x hx heq => h.recorded x hx (heq ▸ hfresh)
    have hzero : count (about e) = 0 := habout ▸ h.numbered.count_eq_zero hnew
    have happend := h.numbered.append (hnumber.trans (by rw [hzero]))
    rw [hzero, habout] at happend
    exact happend
  recorded := by
    intro x hx
    rcases List.mem_append.mp hx with hx | hx
    · exact find?_put_ne_none (h.recorded x hx)
    · rw [List.mem_singleton] at hx
      subst hx
      rw [habout, Table.find?_put_self]
      nofun
  counted := by
    intro x hx
    by_cases hk : key x = key r
    · rw [hk, Function.update_self]
      exact Nat.one_ne_zero
    · rw [Function.update_of_ne hk]
      rcases Table.mem_put.mp hx with ⟨hx, -⟩ | rfl
      · exact h.counted x hx
      · exact absurd rfl hk

end Registry

/-! ## Owners and their items -/

section Pairing
variable {ι κ : Type}

/-- An owner shows whether it owes an item and the item it is linked to; an item shows whether it is
live. Owners that owe and live items correspond one to one, and what an owner is still linked to
when it owes nothing is over. -/
structure Paired (owner : ι → Option (Bool × Option κ)) (live : κ → Option Bool) : Prop where
  owing : ∀ i link, owner i = some (true, link) → ∃ k, link = some k ∧ live k = some true
  settled : ∀ i k, owner i = some (false, some k) → live k = some false
  apart : ∀ i j link, owner i = some (true, link) → owner j = some (true, link) → i = j
  owned : ∀ k, live k = some true → ∃ i, owner i = some (true, some k)

variable {owner : ι → Option (Bool × Option κ)} {live : κ → Option Bool} {i : ι} {k : κ}

theorem Paired.empty : Paired (fun _ : ι => none) fun _ : κ => none :=
  ⟨nofun, nofun, nofun, nofun⟩

variable [DecidableEq ι] [DecidableEq κ]

/-- An owner that owes nothing comes to owe a new item. -/
theorem Paired.enter (h : Paired owner live) (hi : ∀ link, owner i ≠ some (true, link))
    (hk : live k = none) :
    Paired (Function.update owner i (some (true, some k)))
      (Function.update live k (some true)) where
  owing := by
    intro j link hj
    by_cases hji : j = i
    · subst hji
      rw [Function.update_self] at hj
      cases hj
      exact ⟨k, rfl, Function.update_self ..⟩
    · rw [Function.update_of_ne hji] at hj
      obtain ⟨k', rfl, hk'⟩ := h.owing j link hj
      refine ⟨k', rfl, ?_⟩
      rw [Function.update_of_ne, hk']
      rintro rfl
      rw [hk] at hk'
      cases hk'
  settled := by
    intro j k' hj
    by_cases hji : j = i
    · subst hji
      rw [Function.update_self] at hj
      cases hj
    · rw [Function.update_of_ne hji] at hj
      have hk' := h.settled j k' hj
      rw [Function.update_of_ne, hk']
      rintro rfl
      rw [hk] at hk'
      cases hk'
  apart := by
    -- the new item is linked to by nobody else
    have hnew : ∀ j, owner j ≠ some (true, some k) := by
      intro j hj
      obtain ⟨k', heq, hk'⟩ := h.owing j _ hj
      cases heq
      rw [hk] at hk'
      cases hk'
    intro j j' link hj hj'
    by_cases hji : j = i
    · by_cases hji' : j' = i
      · rw [hji, hji']
      · subst hji
        rw [Function.update_self] at hj
        rw [Function.update_of_ne hji'] at hj'
        cases hj
        exact absurd hj' (hnew j')
    · rw [Function.update_of_ne hji] at hj
      by_cases hji' : j' = i
      · subst hji'
        rw [Function.update_self] at hj'
        cases hj'
        exact absurd hj (hnew j)
      · rw [Function.update_of_ne hji'] at hj'
        exact h.apart j j' link hj hj'
  owned := by
    intro k' hk'
    by_cases hkk : k' = k
    · subst hkk
      exact ⟨i, Function.update_self ..⟩
    · rw [Function.update_of_ne hkk] at hk'
      obtain ⟨j, hj⟩ := h.owned k' hk'
      refine ⟨j, ?_⟩
      rw [Function.update_of_ne, hj]
      rintro rfl
      exact hi _ hj

/-- An owner settles: its item is over. -/
theorem Paired.settle (h : Paired owner live) (hi : owner i = some (true, some k)) :
    Paired (Function.update owner i (some (false, some k)))
      (Function.update live k (some false)) where
  owing := by
    intro j link hj
    by_cases hji : j = i
    · subst hji
      rw [Function.update_self] at hj
      cases hj
    · rw [Function.update_of_ne hji] at hj
      obtain ⟨k', rfl, hk'⟩ := h.owing j link hj
      refine ⟨k', rfl, ?_⟩
      rw [Function.update_of_ne, hk']
      rintro rfl
      exact hji (h.apart j i _ hj hi)
  settled := by
    intro j k' hj
    by_cases hji : j = i
    · subst hji
      rw [Function.update_self] at hj
      cases hj
      exact Function.update_self ..
    · rw [Function.update_of_ne hji] at hj
      by_cases hkk : k' = k
      · subst hkk
        exact Function.update_self ..
      · rw [Function.update_of_ne hkk]
        exact h.settled j k' hj
  apart := by
    intro j j' link hj hj'
    have hold : ∀ j, Function.update owner i (some (false, some k)) j = some (true, link) →
        owner j = some (true, link) := by
      intro j hj
      by_cases hji : j = i
      · subst hji
        rw [Function.update_self] at hj
        cases hj
      · rwa [Function.update_of_ne hji] at hj
    exact h.apart j j' link (hold j hj) (hold j' hj')
  owned := by
    intro k' hk'
    by_cases hkk : k' = k
    · subst hkk
      rw [Function.update_self] at hk'
      cases hk'
    · rw [Function.update_of_ne hkk] at hk'
      obtain ⟨j, hj⟩ := h.owned k' hk'
      refine ⟨j, ?_⟩
      rw [Function.update_of_ne, hj]
      rintro rfl
      rw [hi] at hj
      cases hj
      exact hkk rfl

omit [DecidableEq κ] in
/-- An owner enters that owes nothing, in the place of none that did. -/
theorem Paired.join (h : Paired owner live) (hi : ∀ link, owner i ≠ some (true, link)) :
    Paired (Function.update owner i (some (false, none))) live where
  owing := by
    intro j link hj
    by_cases hji : j = i
    · subst hji
      rw [Function.update_self] at hj
      cases hj
    · rw [Function.update_of_ne hji] at hj
      exact h.owing j link hj
  settled := by
    intro j k' hj
    by_cases hji : j = i
    · subst hji
      rw [Function.update_self] at hj
      cases hj
    · rw [Function.update_of_ne hji] at hj
      exact h.settled j k' hj
  apart := by
    intro j j' link hj hj'
    have hold : ∀ j, Function.update owner i (some (false, none)) j = some (true, link) →
        owner j = some (true, link) := by
      intro j hj
      by_cases hji : j = i
      · subst hji
        rw [Function.update_self] at hj
        cases hj
      · rwa [Function.update_of_ne hji] at hj
    exact h.apart j j' link (hold j hj) (hold j' hj')
  owned := by
    intro k' hk'
    obtain ⟨j, hj⟩ := h.owned k' hk'
    refine ⟨j, ?_⟩
    rw [Function.update_of_ne, hj]
    rintro rfl
    exact hi _ hj

end Pairing

end Mpango
