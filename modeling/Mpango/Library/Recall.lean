import Mathlib.Logic.Basic
import Mathlib.Data.List.Basic

/-!
# Rows recalled under a key

A memory of rows answers a repeated call from the row it finds under the key of the call. It
recalls a key with a print if it has a row with the key and every row with the key carries that
print; what is kept is said of its rows alone, whatever they are held in.
-/

namespace Mpango

variable {ρ κ δ : Type} {rows rows' : ρ → Prop} {key : ρ → κ} {print : ρ → δ} {k : κ} {d : δ}

/-- The rows with a key, at least one, all carry the print. -/
structure Recalls (rows : ρ → Prop) (key : ρ → κ) (print : ρ → δ) (k : κ) (d : δ) : Prop where
  found : ∃ r, rows r ∧ key r = k
  print : ∀ r, rows r → key r = k → print r = d

/-- What is looked up under the key carries the print. -/
theorem Recalls.find? [DecidableEq κ] {l : List ρ} (h : Recalls (· ∈ l) key print k d) :
    ∃ r, l.find? (fun r => key r = k) = some r ∧ print r = d := by
  obtain ⟨r, hr, hkey⟩ := h.found
  obtain ⟨x, hx⟩ : ∃ x, l.find? (fun r => key r = k) = some x :=
    Option.isSome_iff_exists.mp (List.find?_isSome.mpr ⟨r, hr, decide_eq_true hkey⟩)
  have hxkey : key x = k := of_decide_eq_true (List.find?_some (p := fun r => key r = k) hx)
  exact ⟨x, hx, h.print x (List.mem_of_find?_eq_some hx) hxkey⟩

/-- A row that is added under a key none had is recalled. -/
theorem Recalls.added (hnone : ∀ r, rows r → key r ≠ k) {r : ρ} (hkey : key r = k)
    (hrows : ∀ x, rows' x ↔ rows x ∨ x = r) : Recalls rows' key print k (print r) := by
  constructor
  · exact ⟨r, (hrows r).mpr (.inr rfl), hkey⟩
  · intro x hx hxkey
    rcases (hrows x).mp hx with hold | rfl
    · exact absurd hxkey (hnone x hold)
    · rfl

/-- A row with another key leaves what is recalled. -/
theorem Recalls.add (h : Recalls rows key print k d) {r : ρ} (hkey : key r ≠ k)
    (hrows : ∀ x, rows' x ↔ rows x ∨ x = r) : Recalls rows' key print k d := by
  constructor
  · obtain ⟨x, hx, hxkey⟩ := h.found
    exact ⟨x, (hrows x).mpr (.inl hx), hxkey⟩
  · intro x hx hxkey
    rcases (hrows x).mp hx with hold | rfl
    · exact h.print x hold hxkey
    · exact absurd hxkey hkey

/-- A row that is rewritten with its key and its print leaves what is recalled. -/
theorem Recalls.rewrite (h : Recalls rows key print k d) {r r' : ρ} (hr : rows r)
    (hkey : key r' = key r) (hprint : print r' = print r)
    (hrows : ∀ x, rows' x → rows x ∨ x = r') (hkeep : ∀ x, rows x → rows' x ∨ x = r)
    (hnew : rows' r') : Recalls rows' key print k d := by
  constructor
  · obtain ⟨x, hx, hxkey⟩ := h.found
    rcases hkeep x hx with hx' | rfl
    · exact ⟨x, hx', hxkey⟩
    · exact ⟨r', hnew, hkey.trans hxkey⟩
  · intro x hx hxkey
    rcases hrows x hx with hold | rfl
    · exact h.print x hold hxkey
    · rw [hprint]
      exact h.print r hr (hkey.symm.trans hxkey)

end Mpango
