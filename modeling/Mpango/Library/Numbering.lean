import Mathlib.Data.List.Nodup
import Mathlib.Logic.Function.Basic
import Mpango.Library.Text

/-!
# Numbering repeated names

A list of names is made distinct by a label that depends on how often a name occurred before. Every
occurrence is a pair of a name and its number, and these pairs never repeat. So the labels repeat
only where the label of a later occurrence is itself a name of the list.
-/

namespace Mpango.Numbering

variable {α : Type} [DecidableEq α] (label : α → ℕ → α)

/-- One more occurrence of `a`. -/
def count (used : α → ℕ) (a : α) : α → ℕ := Function.update used a (used a + 1)

/-- Each name with the number of its occurrences before it. -/
def occurrences (used : α → ℕ) : List α → List (α × ℕ)
  | [] => []
  | a :: as => (a, used a) :: occurrences (count used a) as

/-- The labels of the names, one after the other. -/
def number (names : List α) : List α :=
  (occurrences (fun _ => 0) names).map fun p => label p.1 p.2

@[simp]
theorem length_occurrences (used : α → ℕ) (names : List α) :
    (occurrences used names).length = names.length := by
  induction names generalizing used with
  | nil => rfl
  | cons a as ih => simp [occurrences, ih]

@[simp]
theorem length_number (names : List α) : (number label names).length = names.length := by
  simp [number]

/-- The occurrences of a name are numbered on from those it had. -/
theorem mem_occurrences {used : α → ℕ} {names : List α} {a : α} {k : ℕ} :
    (a, k) ∈ occurrences used names ↔ used a ≤ k ∧ k < used a + names.count a := by
  induction names generalizing used with
  | nil =>
    simp [occurrences]
  | cons b bs ih =>
    rw [occurrences, List.mem_cons, ih, Prod.mk.injEq]
    by_cases h : a = b
    · subst h
      rw [List.count_cons_self, count, Function.update_self]
      constructor
      · rintro (⟨-, rfl⟩ | hk)
        · omega
        · omega
      · intro hk
        by_cases heq : k = used a
        · exact .inl ⟨rfl, heq⟩
        · exact .inr (by omega)
    · rw [List.count_cons_of_ne (Ne.symm h), count, Function.update_of_ne h]
      simp [h]

theorem nodup_occurrences (used : α → ℕ) (names : List α) : (occurrences used names).Nodup := by
  induction names generalizing used with
  | nil => exact List.nodup_nil
  | cons a as ih =>
    refine List.nodup_cons.mpr ⟨?_, ih _⟩
    rw [mem_occurrences, count, Function.update_self]
    omega

/-- A first occurrence keeps its name, and labels of later ones tell name and number apart. -/
structure Labels : Prop where
  zero : ∀ a, label a 0 = a
  inj : ∀ a b k m, k ≠ 0 → m ≠ 0 → label a k = label b m → a = b ∧ k = m

variable {label}

/-- The labels are distinct unless a generated one is already there. -/
theorem number_nodup_iff (hlabel : Labels label) (names : List α) :
    (number label names).Nodup ↔ ∀ a k, 1 ≤ k → k < names.count a → label a k ∉ names := by
  have hmem : ∀ a k, (a, k) ∈ occurrences (fun _ => 0) names ↔ k < names.count a := by
    intro a k
    rw [mem_occurrences]
    omega
  have hfirst : ∀ a ∈ names, (a, 0) ∈ occurrences (fun _ => 0) names := by
    intro a ha
    exact (hmem a 0).mpr (List.count_pos_iff.mpr ha)
  rw [number, List.nodup_map_iff_inj_on (nodup_occurrences _ names)]
  constructor
  · intro hinj a k hk hlt hin
    have heq := hinj (a, k) ((hmem a k).mpr hlt) (label a k, 0) (hfirst _ hin)
      (hlabel.zero _).symm
    have hzero : k = 0 := congrArg Prod.snd heq
    omega
  · rintro hfree ⟨a, k⟩ hak ⟨b, m⟩ hbm heq
    change label a k = label b m at heq
    rw [hmem] at hak hbm
    have hin : ∀ c n, n < names.count c → c ∈ names := by
      intro c n hn
      exact List.count_pos_iff.mp (by omega)
    -- A first occurrence is the name itself, so only its label can be generated elsewhere.
    rcases Nat.eq_zero_or_pos k with rfl | hk
    · rw [hlabel.zero] at heq
      rcases Nat.eq_zero_or_pos m with rfl | hm
      · rw [hlabel.zero] at heq
        rw [heq]
      · exact absurd (heq ▸ hin a 0 hak) (hfree b m hm hbm)
    · rcases Nat.eq_zero_or_pos m with rfl | hm
      · rw [hlabel.zero] at heq
        exact absurd (heq ▸ hin b 0 hbm) (hfree a k hk hak)
      · obtain ⟨rfl, rfl⟩ := hlabel.inj a b k m (by omega) (by omega) heq
        rfl

/-! ## Numbers as suffixes -/

/-- The later occurrences of a name are told by a suffix, from 2 on. -/
def suffixed (sep name : String) (k : ℕ) : String :=
  if k = 0 then name else name ++ sep ++ toString (k + 1)

theorem toList_toString (n : ℕ) : (toString n).toList = Nat.toDigits 10 n := by
  simp [Nat.repr]

theorem isDigit_of_mem_toString {n : ℕ} {c : Char} (h : c ∈ (toString n).toList) :
    c.isDigit = true := by
  rw [toList_toString] at h
  exact Nat.isDigit_of_mem_toDigits (by decide) (by decide) h

theorem not_mem_toString {c : Char} (hc : c.isDigit = false) (n : ℕ) : c ∉ (toString n).toList := by
  intro h
  rw [isDigit_of_mem_toString h] at hc
  cases hc

/-- A number is read back from its digits. -/
theorem toString_inj {m n : ℕ} : (toString m).toList = (toString n).toList ↔ m = n := by
  refine ⟨fun h => ?_, fun h => by rw [h]⟩
  have hvalue := congrArg (fun cs => Nat.ofDigitChars 10 cs 0) h
  simpa only [toList_toString, Nat.ofDigitChars_ten_toDigits] using hvalue

/-- A number behind a character that is no digit is the digits at the end. -/
theorem append_number_inj {c : Char} (hc : c.isDigit = false) {name name' : List Char} {m n : ℕ} :
    name ++ c :: (toString m).toList = name' ++ c :: (toString n).toList ↔
      name = name' ∧ m = n := by
  have hout (k : ℕ) : c ∉ (toString k).toList.reverse := fun hmem =>
    not_mem_toString hc k (List.mem_reverse.mp hmem)
  rw [← List.reverse_inj]
  simp only [List.reverse_append, List.reverse_cons, List.append_assoc, List.singleton_append]
  rw [append_sep_inj (hout m) (hout n), List.reverse_inj, List.reverse_inj, toString_inj, and_comm]

theorem labels_suffixed {sep : String} {front : List Char} {c : Char}
    (hsep : sep.toList = front ++ [c]) (hc : c.isDigit = false) : Labels (suffixed sep) := by
  constructor
  · intro name
    rfl
  · intro a b k m hk hm h
    have hread : (a.toList ++ front) ++ c :: (toString (k + 1)).toList =
        (b.toList ++ front) ++ c :: (toString (m + 1)).toList := by
      have hlist := congrArg String.toList h
      simpa [suffixed, hk, hm, hsep] using hlist
    obtain ⟨hname, hnumber⟩ := (append_number_inj hc).mp hread
    constructor
    · exact String.toList_inj.mp (List.append_cancel_right hname)
    · omega

/-- Suffixed names are distinct unless one is already there. -/
theorem nodup_suffixed_iff {sep : String} (h : Labels (suffixed sep)) (names : List String) :
    (number (suffixed sep) names).Nodup ↔
      ∀ name k, 2 ≤ k → k ≤ names.count name → name ++ sep ++ toString k ∉ names := by
  rw [number_nodup_iff h]
  constructor
  · intro hfree name k hk hle
    have hlabel := hfree name (k - 1) (by omega) (by omega)
    rw [suffixed, if_neg (by omega), Nat.sub_add_cancel (by omega)] at hlabel
    exact hlabel
  · intro hfree name k hk hlt
    rw [suffixed, if_neg (by omega)]
    exact hfree name (k + 1) (by omega) (by omega)

end Mpango.Numbering
