import Mathlib.Data.List.Nodup
import Mathlib.Algebra.BigOperators.Group.List.Basic
import Mathlib.Tactic

/-!
# Tables with a primary key

A `Table` is a list of rows no two of which have the same key; the uniqueness is a field, so a
table that violates its primary key cannot be built. `insert?` is the only operation that can
fail. Reading is by key (`find?`) or by a filter (`select`); `total f` is the sum a query
`SELECT SUM(f)` returns.

Every operation comes with what it does to each of the three reads, so that a proof about a
program over tables never looks at the list.
-/

namespace Mpango

/-- The primary key of a row type. -/
class Keyed (ρ : Type) (κ : outParam Type) where
  key : ρ → κ

export Keyed (key)

/-- Rows with pairwise different keys, in insertion order. -/
@[ext] structure Table (ρ : Type) {κ : Type} [Keyed ρ κ] where
  rows : List ρ
  nodup : (rows.map key).Nodup

namespace Table

variable {ρ κ : Type} [Keyed ρ κ]

instance [DecidableEq ρ] : DecidableEq (Table ρ) := fun t u =>
  decidable_of_iff (t.rows = u.rows) Table.ext_iff.symm

instance : Membership ρ (Table ρ) where
  mem t r := r ∈ t.rows

@[simp] theorem mem_rows {t : Table ρ} {r : ρ} : r ∈ t.rows ↔ r ∈ t := Iff.rfl

/-- The table without rows. -/
def empty : Table ρ := ⟨[], by simp⟩

@[simp] theorem not_mem_empty {r : ρ} : r ∉ (empty : Table ρ) := List.not_mem_nil

/-! ## Reading -/

/-- The rows that satisfy a condition, in insertion order. -/
def select (t : Table ρ) (p : ρ → Bool) : List ρ := t.rows.filter p

/-- The sum of a column over the whole table. -/
def total (t : Table ρ) (f : ρ → ℤ) : ℤ := (t.rows.map f).sum

@[simp] theorem mem_select {t : Table ρ} {p : ρ → Bool} {r : ρ} :
    r ∈ t.select p ↔ r ∈ t ∧ p r = true := List.mem_filter

theorem select_eq_nil {t : Table ρ} {p : ρ → Bool} : t.select p = [] ↔ ∀ r ∈ t, p r = false := by
  simp [select, List.filter_eq_nil_iff]

@[simp] theorem select_empty (p : ρ → Bool) : (empty : Table ρ).select p = [] := rfl

@[simp] theorem total_empty (f : ρ → ℤ) : (empty : Table ρ).total f = 0 := rfl

theorem select_congr {t : Table ρ} {p q : ρ → Bool} (h : ∀ r ∈ t, p r = q r) :
    t.select p = t.select q := List.filter_congr h

theorem total_congr {t : Table ρ} {f g : ρ → ℤ} (h : ∀ r ∈ t, f r = g r) :
    t.total f = t.total g := by
  unfold total
  rw [List.map_congr_left h]

theorem total_nonneg {t : Table ρ} {f : ρ → ℤ} (h : ∀ r ∈ t, 0 ≤ f r) : 0 ≤ t.total f :=
  List.sum_nonneg (by simpa using h)

/-- A single row contributes at most the total of a non-negative column. -/
theorem le_total {t : Table ρ} {f : ρ → ℤ} {r : ρ} (hr : r ∈ t) (h : ∀ x ∈ t, 0 ≤ f x) :
    f r ≤ t.total f :=
  List.single_le_sum (by simpa using h) _ (List.mem_map_of_mem hr)

/-- A column that is zero outside a condition may be summed over the selected rows only. -/
theorem total_ite (t : Table ρ) (p : ρ → Bool) (f : ρ → ℤ) :
    t.total (fun r => if p r then f r else 0) = ((t.select p).map f).sum := by
  unfold total select
  induction t.rows with
  | nil => simp
  | cons r l ih =>
    by_cases h : p r
    · simp [h, ih]
    · simp [h, ih]

theorem total_eq_zero {t : Table ρ} {f : ρ → ℤ} (h : ∀ r ∈ t, 0 ≤ f r) :
    t.total f = 0 ↔ ∀ r ∈ t, f r = 0 := by
  constructor
  · intro hzero r hr
    exact le_antisymm (hzero ▸ le_total hr h) (h r hr)
  · intro hzero
    rw [total_congr hzero]
    simp [total]

theorem total_add (t : Table ρ) (f g : ρ → ℤ) :
    t.total (fun r => f r + g r) = t.total f + t.total g := List.sum_map_add

/-- Rows with the same key are the same row. -/
theorem eq_of_key_eq {t : Table ρ} {r r' : ρ} (h : r ∈ t) (h' : r' ∈ t) (hk : key r = key r') :
    r = r' := List.inj_on_of_nodup_map t.nodup h h' hk

variable [DecidableEq κ]

/-- The row with a given key. -/
def find? (t : Table ρ) (k : κ) : Option ρ := t.rows.find? fun r => key r = k

theorem find?_eq_some {t : Table ρ} {k : κ} {r : ρ} :
    t.find? k = some r ↔ r ∈ t ∧ key r = k := by
  constructor
  · intro h
    exact ⟨List.mem_of_find?_eq_some h, by simpa using List.find?_some h⟩
  · rintro ⟨hr, rfl⟩
    cases h : t.find? (key r) with
    | none =>
      have hne := List.find?_eq_none.mp h r hr
      simp at hne
    | some r' =>
      have hmem : r' ∈ t := List.mem_of_find?_eq_some h
      have hkey : key r' = key r := by simpa using List.find?_some h
      rw [List.inj_on_of_nodup_map t.nodup hmem hr hkey]

theorem find?_eq_none {t : Table ρ} {k : κ} : t.find? k = none ↔ ∀ r ∈ t, key r ≠ k := by
  unfold find?
  rw [List.find?_eq_none]
  simp

theorem mem_of_find? {t : Table ρ} {k : κ} {r : ρ} (h : t.find? k = some r) : r ∈ t :=
  (find?_eq_some.mp h).1

theorem key_of_find? {t : Table ρ} {k : κ} {r : ρ} (h : t.find? k = some r) : key r = k :=
  (find?_eq_some.mp h).2

theorem find?_key {t : Table ρ} {r : ρ} (h : r ∈ t) : t.find? (key r) = some r :=
  find?_eq_some.mpr ⟨h, rfl⟩

@[simp] theorem find?_empty (k : κ) : (empty : Table ρ).find? k = none := rfl

/-! ## Inserting -/

/-- Insert a row; `none` is a violation of the primary key. -/
def insert? (t : Table ρ) (r : ρ) : Option (Table ρ) :=
  if h : key r ∉ t.rows.map key then
    some ⟨t.rows ++ [r], by
      rw [List.map_append, List.map_singleton, List.nodup_append']
      exact ⟨t.nodup, List.nodup_singleton _, by simpa using h⟩⟩
  else none

theorem insert?_eq_some {t t' : Table ρ} {r : ρ} :
    t.insert? r = some t' ↔ t.find? (key r) = none ∧ t'.rows = t.rows ++ [r] := by
  have hfree : key r ∉ t.rows.map key ↔ t.find? (key r) = none := by
    rw [find?_eq_none]
    simp
  unfold insert?
  split
  · next h =>
    rw [Option.some.injEq, Table.ext_iff]
    exact ⟨fun he => ⟨hfree.mp h, he.symm⟩, fun he => he.2.symm⟩
  · next h =>
    simp only [reduceCtorEq, false_iff, not_and]
    exact fun hnone => absurd (hfree.mpr hnone) h

section Insert
variable {t t' : Table ρ} {r : ρ}

theorem exists_insert? (h : t.find? (key r) = none) : ∃ t', t.insert? r = some t' := by
  unfold insert?
  rw [dif_pos]
  · exact ⟨_, rfl⟩
  · rw [find?_eq_none] at h
    rw [List.mem_map]
    rintro ⟨x, hx, hk⟩
    exact h x hx hk

theorem mem_insert? (h : t.insert? r = some t') {x : ρ} : x ∈ t' ↔ x ∈ t ∨ x = r := by
  rw [← mem_rows, (insert?_eq_some.mp h).2, List.mem_append, List.mem_singleton, mem_rows]

theorem find?_insert? (h : t.insert? r = some t') (k : κ) :
    t'.find? k = if k = key r then some r else t.find? k := by
  obtain ⟨hnew, hrows⟩ := insert?_eq_some.mp h
  split
  · next hk =>
    subst hk
    exact find?_key ((mem_insert? h).mpr (.inr rfl))
  · next hk =>
    unfold find?
    rw [hrows, List.find?_append]
    simp [Ne.symm hk]

theorem select_insert? (h : t.insert? r = some t') (p : ρ → Bool) :
    t'.select p = t.select p ++ if p r then [r] else [] := by
  unfold select
  rw [(insert?_eq_some.mp h).2, List.filter_append]
  by_cases hp : p r <;> simp [hp]

theorem total_insert? (h : t.insert? r = some t') (f : ρ → ℤ) : t'.total f = t.total f + f r := by
  unfold total
  rw [(insert?_eq_some.mp h).2, List.map_append, List.sum_append]
  simp

end Insert

/-- `INSERT … SELECT`: insert rows one after the other. -/
def insertAll? (t : Table ρ) (rows : List ρ) : Option (Table ρ) := rows.foldlM insert? t

/-- Rows with keys of their own are all inserted. -/
theorem exists_insertAll? {rows : List ρ} : ∀ {t : Table ρ}, (rows.map key).Nodup →
    (∀ r ∈ rows, t.find? (key r) = none) →
    ∃ t', t.insertAll? rows = some t' ∧ t'.rows = t.rows ++ rows := by
  induction rows with
  | nil => exact fun _ _ => ⟨_, rfl, (List.append_nil _).symm⟩
  | cons r rows ih =>
    intro t hnodup hfree
    rw [List.map_cons, List.nodup_cons] at hnodup
    obtain ⟨t₁, ht₁⟩ := exists_insert? (hfree r List.mem_cons_self)
    have hrest : ∀ x ∈ rows, t₁.find? (key x) = none := by
      intro x hx
      have hne : key x ≠ key r := fun hk => hnodup.1 (hk ▸ List.mem_map_of_mem hx)
      rw [find?_insert? ht₁, if_neg hne]
      exact hfree x (List.mem_cons_of_mem r hx)
    obtain ⟨t', ht', hrows⟩ := ih hnodup.2 hrest
    refine ⟨t', ?_, ?_⟩
    · unfold insertAll? at ht' ⊢
      rw [List.foldlM_cons, ht₁]
      exact ht'
    · rw [hrows, (insert?_eq_some.mp ht₁).2, List.append_assoc]
      rfl

/-! ## A row of another type for every row -/

section Map
variable {σ : Type} [Keyed σ κ] {t : Table ρ} {f : ρ → σ} {hf : ∀ r, key (f r) = key r}

/-- `SELECT`: a row of another type under every key. -/
def map (t : Table ρ) (f : ρ → σ) (hf : ∀ r, key (f r) = key r) : Table σ where
  rows := t.rows.map f
  nodup := by
    have hkey : (key ∘ f) = (key : ρ → κ) := funext hf
    rw [List.map_map, hkey]
    exact t.nodup

omit [DecidableEq κ] in
theorem mem_map {x : σ} : x ∈ t.map f hf ↔ ∃ r ∈ t, f r = x := List.mem_map

theorem find?_map (k : κ) : (t.map f hf).find? k = (t.find? k).map f := by
  cases h : t.find? k with
  | none =>
    rw [Option.map_none, find?_eq_none]
    intro x hx
    obtain ⟨r, hr, rfl⟩ := mem_map.mp hx
    rw [hf]
    exact find?_eq_none.mp h r hr
  | some r =>
    obtain ⟨hr, hkey⟩ := find?_eq_some.mp h
    rw [Option.map_some, find?_eq_some]
    exact ⟨mem_map.mpr ⟨r, hr, rfl⟩, (hf r).trans hkey⟩

end Map

/-! ## Updating one row -/

/-- `UPDATE … WHERE key = …`: put a row in the place of the row with its key, if there is one. -/
def set (t : Table ρ) (r : ρ) : Table ρ where
  rows := t.rows.map fun x => if key x = key r then r else x
  nodup := by
    rw [List.map_map]
    have : (key ∘ fun x => if key x = key r then r else x) = (key : ρ → κ) := by
      funext x
      simp only [Function.comp]
      split
      · next h => exact h.symm
      · rfl
    rw [this]
    exact t.nodup

section Set
variable {t : Table ρ} {r old : ρ}

theorem mem_set {x : ρ} :
    x ∈ t.set r ↔ (x ∈ t ∧ key x ≠ key r) ∨ (x = r ∧ ∃ y ∈ t, key y = key r) := by
  rw [← mem_rows]
  simp only [set, List.mem_map, mem_rows]
  constructor
  · rintro ⟨y, hy, rfl⟩
    split
    · next hk => exact .inr ⟨rfl, y, hy, hk⟩
    · next hk => exact .inl ⟨hy, hk⟩
  · rintro (⟨hx, hk⟩ | ⟨rfl, y, hy, hk⟩)
    · exact ⟨x, hx, if_neg hk⟩
    · exact ⟨y, hy, if_pos hk⟩

theorem find?_set_self (h : t.find? (key r) = some old) : (t.set r).find? (key r) = some r := by
  refine find?_key (mem_set.mpr (.inr ⟨rfl, old, ?_⟩))
  exact find?_eq_some.mp h

theorem find?_set_of_ne {k : κ} (hk : k ≠ key r) : (t.set r).find? k = t.find? k := by
  cases h : t.find? k with
  | none =>
    rw [find?_eq_none] at h ⊢
    intro x hx
    rcases mem_set.mp hx with ⟨hx, _⟩ | ⟨rfl, _⟩
    · exact h x hx
    · exact Ne.symm hk
  | some x =>
    obtain ⟨hx, rfl⟩ := find?_eq_some.mp h
    exact find?_key (mem_set.mpr (.inl ⟨hx, hk⟩))

/-- Writing a row back unchanged changes nothing. -/
theorem set_of_mem (h : r ∈ t) : t.set r = t := by
  refine Table.ext ((List.map_congr_left fun x hx => ?_).trans (List.map_id _))
  split
  · next hk => exact (eq_of_key_eq hx h hk).symm
  · rfl

/-- The total after an update: the old row's value leaves, the new row's enters. The column may
change with the update as long as it agrees on the other rows. -/
theorem total_set_of_agree (h : t.find? (key r) = some old) {f g : ρ → ℤ}
    (hag : ∀ x ∈ t, key x ≠ key r → g x = f x) :
    (t.set r).total g = t.total f - f old + g r := by
  obtain ⟨hmem, hkey⟩ := find?_eq_some.mp h
  obtain ⟨l₁, l₂, hsplit⟩ := List.append_of_mem hmem
  have hnd := t.nodup
  rw [hsplit, List.map_append, List.map_cons, List.nodup_append'] at hnd
  obtain ⟨-, hnd₂, hdisj⟩ := hnd
  have hside : ∀ l : List ρ, (∀ x ∈ l, x ∈ t ∧ key x ≠ key r) →
      (l.map fun x => g (if key x = key r then r else x)) = l.map f := by
    intro l hl
    refine List.map_congr_left fun x hx => ?_
    obtain ⟨hxt, hxk⟩ := hl x hx
    rw [if_neg hxk, hag x hxt hxk]
  have h₁ : ∀ x ∈ l₁, x ∈ t ∧ key x ≠ key r := fun x hx =>
    ⟨by rw [← mem_rows, hsplit]; simp [hx], fun hk =>
      hdisj (List.mem_map_of_mem hx) (by rw [hk, hkey]; exact List.mem_cons_self)⟩
  have h₂ : ∀ x ∈ l₂, x ∈ t ∧ key x ≠ key r := fun x hx =>
    ⟨by rw [← mem_rows, hsplit]; simp [hx], fun hk =>
      (List.nodup_cons.mp hnd₂).1 (by rw [hkey, ← hk]; exact List.mem_map_of_mem hx)⟩
  have htot : t.total f = (l₁.map f).sum + (f old + (l₂.map f).sum) := by
    unfold total
    rw [hsplit, List.map_append, List.sum_append, List.map_cons, List.sum_cons]
  have hset : (t.set r).total g = (l₁.map f).sum + (g r + (l₂.map f).sum) := by
    unfold total set
    rw [List.map_map, hsplit, List.map_append, List.sum_append, List.map_cons, List.sum_cons]
    simp only [Function.comp_def]
    rw [hside l₁ h₁, hside l₂ h₂, if_pos hkey]
  rw [htot, hset]
  ring

theorem total_set (h : t.find? (key r) = some old) (f : ρ → ℤ) :
    (t.set r).total f = t.total f - f old + f r :=
  total_set_of_agree h fun _ _ _ => rfl

end Set

/-! ## Assigning a key -/

/-- `table[key] = row`, as a dictionary does it: in the place of the row with its key, or at the
end. -/
def put (t : Table ρ) (r : ρ) : Table ρ := (t.insert? r).getD (t.set r)

section Put
variable {t : Table ρ} {r : ρ}

theorem put_of_find? {old : ρ} (h : t.find? (key r) = some old) : t.put r = t.set r := by
  have hnone : t.insert? r = none := by
    cases hins : t.insert? r with
    | none => rfl
    | some t' => simp [(insert?_eq_some.mp hins).1] at h
  rw [put, hnone, Option.getD_none]

theorem put_of_not_find? (h : t.find? (key r) = none) : (t.put r).rows = t.rows ++ [r] := by
  obtain ⟨t', ht'⟩ := exists_insert? h
  rw [put, ht', Option.getD_some, (insert?_eq_some.mp ht').2]

theorem mem_put {x : ρ} : x ∈ t.put r ↔ (x ∈ t ∧ key x ≠ key r) ∨ x = r := by
  cases h : t.find? (key r) with
  | none =>
    rw [← mem_rows, put_of_not_find? h, List.mem_append, List.mem_singleton, mem_rows]
    rw [find?_eq_none] at h
    exact or_congr_left ⟨fun hx => ⟨hx, h x hx⟩, fun hx => hx.1⟩
  | some old =>
    rw [put_of_find? h, mem_set]
    obtain ⟨hold, hkey⟩ := find?_eq_some.mp h
    exact or_congr_right ⟨fun hx => hx.1, fun hx => ⟨hx, old, hold, hkey⟩⟩

@[simp] theorem find?_put_self : (t.put r).find? (key r) = some r :=
  find?_key (mem_put.mpr (.inr rfl))

theorem find?_put_of_ne {k : κ} (hk : k ≠ key r) : (t.put r).find? k = t.find? k := by
  cases h : t.find? (key r) with
  | none =>
    obtain ⟨t', ht'⟩ := exists_insert? h
    rw [put, ht', Option.getD_some, find?_insert? ht', if_neg hk]
  | some old => rw [put_of_find? h, find?_set_of_ne hk]

/-- Assigning a key changes what is found under it alone. -/
theorem find?_put : (t.put r).find? = Function.update t.find? (key r) (some r) := by
  funext k
  by_cases hk : k = key r
  · subst hk
    rw [find?_put_self, Function.update_self]
  · rw [find?_put_of_ne hk, Function.update_of_ne hk]

/-- Assigning a row that is there changes nothing. -/
theorem put_of_mem (h : r ∈ t) : t.put r = t := by
  rw [put_of_find? (find?_key h), set_of_mem h]

/-- Of two assignments to one key the second counts. -/
theorem put_put {r' : ρ} (hk : key r' = key r) : (t.put r).put r' = t.put r' := by
  have hself : (t.put r).find? (key r') = some r := by rw [hk, find?_put_self]
  rw [put_of_find? hself]
  apply Table.ext
  cases h : t.find? (key r) with
  | none =>
    have hother : ∀ x ∈ t.rows, (if key x = key r' then r' else x) = x := by
      intro x hx
      rw [hk]
      exact if_neg (find?_eq_none.mp h x hx)
    have hnone : t.find? (key r') = none := hk ▸ h
    rw [put_of_not_find? hnone]
    show ((t.put r).rows.map fun x => if key x = key r' then r' else x) = t.rows ++ [r']
    rw [put_of_not_find? h, List.map_append, List.map_congr_left hother, List.map_id',
      List.map_singleton, if_pos hk.symm]
  | some old =>
    have hsome : t.find? (key r') = some old := hk ▸ h
    rw [put_of_find? h, put_of_find? hsome]
    show ((t.rows.map fun x => if key x = key r then r else x).map
      fun x => if key x = key r' then r' else x) = t.rows.map fun x => if key x = key r' then r' else x
    rw [List.map_map]
    refine List.map_congr_left fun x _ => ?_
    rw [Function.comp_apply, hk]
    split
    · rw [if_pos rfl]
    · rfl

end Put

/-! ## Updating many rows -/

/-- `UPDATE … SET … WHERE p`, for an assignment that leaves the key alone. -/
def updateWhere (t : Table ρ) (p : ρ → Bool) (f : ρ → ρ) (hf : ∀ r, key (f r) = key r) :
    Table ρ where
  rows := t.rows.map fun r => if p r then f r else r
  nodup := by
    rw [List.map_map]
    have : (key ∘ fun r => if p r then f r else r) = (key : ρ → κ) := by
      funext r
      simp only [Function.comp]
      split
      · exact hf r
      · rfl
    rw [this]
    exact t.nodup

section UpdateWhere
variable {t : Table ρ} {p : ρ → Bool} {f : ρ → ρ} {hf : ∀ r, key (f r) = key r}

omit [DecidableEq κ] in
theorem mem_updateWhere {x : ρ} :
    x ∈ t.updateWhere p f hf ↔ ∃ r ∈ t, x = if p r then f r else r := by
  rw [← mem_rows]
  simp only [updateWhere, List.mem_map, mem_rows]
  exact ⟨fun ⟨r, hr, he⟩ => ⟨r, hr, he.symm⟩, fun ⟨r, hr, he⟩ => ⟨r, hr, he.symm⟩⟩

omit [DecidableEq κ] in
/-- A condition that the assignment cannot change selects the updated rows in their places. -/
theorem select_updateWhere {q : ρ → Bool} (hq : ∀ r, q (f r) = q r) :
    (t.updateWhere p f hf).select q = (t.select q).map fun r => if p r then f r else r := by
  unfold select updateWhere
  rw [List.filter_map]
  congr 1
  refine List.filter_congr fun r _ => ?_
  simp only [Function.comp]
  split
  · exact hq r
  · rfl

omit [DecidableEq κ] in
/-- A column the assignment does not touch reads the same. -/
theorem map_select_updateWhere {β : Type} (hf : ∀ r, key (f r) = key r) {q : ρ → Bool} {g : ρ → β}
    (hq : ∀ r, q (f r) = q r) (hg : ∀ r, g (f r) = g r) :
    ((t.updateWhere p f hf).select q).map g = (t.select q).map g := by
  rw [select_updateWhere hq, List.map_map]
  refine List.map_congr_left fun r _ => ?_
  simp only [Function.comp]
  split
  · exact hg r
  · rfl

theorem find?_updateWhere (k : κ) :
    (t.updateWhere p f hf).find? k = (t.find? k).map fun r => if p r then f r else r := by
  cases h : t.find? k with
  | none =>
    rw [find?_eq_none] at h
    rw [Option.map_none, find?_eq_none]
    intro x hx
    obtain ⟨r, hr, rfl⟩ := mem_updateWhere.mp hx
    split
    · rw [hf]; exact h r hr
    · exact h r hr
  | some r =>
    obtain ⟨hr, rfl⟩ := find?_eq_some.mp h
    rw [Option.map_some, find?_eq_some]
    refine ⟨mem_updateWhere.mpr ⟨r, hr, rfl⟩, ?_⟩
    split
    · exact hf r
    · rfl

end UpdateWhere

/-! ## Computing every row anew -/

/-- `UPDATE … SET … FROM …`, for an assignment that can fail and leaves the key alone: one row that
fails refuses the whole statement. -/
def update? (t : Table ρ) (f : ρ → Option ρ) (hf : ∀ r r', f r = some r' → key r' = key r) :
    Option (Table ρ) :=
  if t.rows.all fun r => (f r).isSome then
    some <| t.updateWhere (fun _ => true) (fun r => (f r).getD r) fun r => by
      cases h : f r with
      | none => rfl
      | some r' => exact hf r r' h
  else none

section Update
variable {t t' : Table ρ} {f : ρ → Option ρ} {hf : ∀ r r', f r = some r' → key r' = key r}

omit [DecidableEq κ] in
/-- The statement succeeds when no row fails. -/
theorem exists_update? : (∃ t', t.update? f hf = some t') ↔ ∀ r ∈ t, (f r).isSome := by
  unfold update?
  split
  · next h => simpa using h
  · next h => simpa using h

omit [DecidableEq κ] in
/-- The updated rows are the results of the old ones. -/
theorem mem_update? (h : t.update? f hf = some t') {x : ρ} : x ∈ t' ↔ ∃ r ∈ t, f r = some x := by
  have hall : ∀ r ∈ t, (f r).isSome := exists_update?.mp ⟨t', h⟩
  unfold update? at h
  split at h
  · obtain rfl := Option.some.inj h
    rw [mem_updateWhere]
    refine exists_congr fun r => and_congr_right fun hr => ?_
    obtain ⟨r', hr'⟩ := Option.isSome_iff_exists.mp (hall r hr)
    rw [if_pos rfl, hr', Option.getD_some, Option.some.injEq]
    exact eq_comm
  · cases h

end Update

/-! ## Joining two tables on their keys -/

section Join
variable {σ : Type} [Keyed σ κ]

/-- Of all rows only the one with the key counts. -/
theorem total_ite_key (t : Table ρ) (k : κ) (g : ρ → ℤ) :
    t.total (fun x => if key x = k then g x else 0) = (t.find? k).elim 0 g := by
  cases h : t.find? k with
  | none =>
    rw [find?_eq_none] at h
    rw [total_congr fun x hx => if_neg (h x hx)]
    simp [total]
  | some r =>
    obtain ⟨hr, rfl⟩ := find?_eq_some.mp h
    -- overwrite the row's value by zero: what is left has no row with the key
    have hother := total_set_of_agree h (f := fun x => if key x = key r then g x else 0)
      (g := fun _ => 0) fun x _ hx => (if_neg hx).symm
    simp only [if_true, add_zero] at hother
    have hzero : (t.set r).total (fun _ => 0) = 0 := by simp [total]
    rw [hzero] at hother
    show _ = g r
    omega

omit [DecidableEq κ] in
theorem total_comm (t : Table ρ) (u : Table σ) (f : ρ → σ → ℤ) :
    t.total (fun x => u.total (f x)) = u.total fun y => t.total fun x => f x y := by
  unfold total
  induction t.rows with
  | nil => simp
  | cons x l ih => simp only [List.map_cons, List.sum_cons, ih, List.sum_map_add]

/-- A sum over one table of values found in another is the sum over the other table of values
found in the one. -/
theorem total_join (t : Table ρ) (u : Table σ) (f : ρ → σ → ℤ) :
    u.total (fun y => (t.find? (key y)).elim 0 fun x => f x y) =
      t.total fun x => (u.find? (key x)).elim 0 (f x) := by
  have hleft : ∀ y ∈ u, ((t.find? (key y)).elim 0 fun x => f x y) =
      t.total fun x => if key x = key y then f x y else 0 := by
    intro y _
    exact (total_ite_key t (key y) fun x => f x y).symm
  have hright : ∀ x ∈ t, (u.find? (key x)).elim 0 (f x) =
      u.total fun y => if key x = key y then f x y else 0 := by
    intro x _
    rw [← total_ite_key u (key x) (f x)]
    exact total_congr fun y _ => if_congr eq_comm rfl rfl
  rw [total_congr hleft, total_congr hright, total_comm]

end Join

end Table

end Mpango
