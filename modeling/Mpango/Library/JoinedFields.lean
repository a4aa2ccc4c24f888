import Mathlib.Data.List.Count
import Mathlib.Data.String.Basic

/-!
# Joined fields

The fields of a record are often joined to one text with a separator between them. Fields that may
themselves contain the separator are not read back from that: all that is left of them is the
sequence of their `pieces`, and two records with the same pieces are the same record only if each
field holds as many separators in both.

A field that is missing is joined as the empty text. Two records are `Separated` if their joined
texts tell them apart.
-/

namespace Mpango

namespace JoinedFields

/-! ## Lists -/

section Lists

variable {α : Type} [DecidableEq α] (sep : α)

/-- What stands between the separators once the fields are joined. -/
def pieces (fields : List (List α)) : List (List α) := fields.flatMap (List.splitOn sep)

@[simp] theorem pieces_nil : pieces sep ([] : List (List α)) = [] := rfl

@[simp] theorem pieces_cons (x : List α) (xs : List (List α)) :
    pieces sep (x :: xs) = x.splitOn sep ++ pieces sep xs :=
  List.flatMap_cons

/-- A field falls into one more piece than it has separators. -/
theorem length_splitOn (x : List α) : (x.splitOn sep).length = x.count sep + 1 := by
  induction x with
  | nil => rfl
  | cons a x ih =>
    rw [List.splitOn_cons_eq_if_modifyHead, List.count_cons]
    split <;> simp [ih]

/-- A field is read back from its own pieces. -/
theorem splitOn_inj {x y : List α} : x.splitOn sep = y.splitOn sep ↔ x = y := by
  constructor
  · intro h
    calc x = [sep].intercalate (x.splitOn sep) := (List.intercalate_splitOn sep).symm
      _ = [sep].intercalate (y.splitOn sep) := by rw [h]
      _ = y := List.intercalate_splitOn sep
  · rintro rfl
    rfl

/-- Joined fields fall apart into their pieces. -/
theorem splitOn_intercalate (x : List α) (xs : List (List α)) :
    ([sep].intercalate (x :: xs)).splitOn sep = pieces sep (x :: xs) := by
  induction xs generalizing x with
  | nil => simp
  | cons y ys ih =>
    rw [List.intercalate_cons_cons, List.append_assoc, List.singleton_append,
      List.splitOn_append_cons_self, ih, pieces_cons sep x]

/-- Fields that are joined are known up to their pieces. -/
theorem intercalate_inj {x y : List α} {xs ys : List (List α)} :
    [sep].intercalate (x :: xs) = [sep].intercalate (y :: ys) ↔
      pieces sep (x :: xs) = pieces sep (y :: ys) := by
  rw [← splitOn_intercalate, ← splitOn_intercalate, splitOn_inj]

/-- The first field is read back if it holds as many separators in both. -/
theorem pieces_cons_inj {x y : List α} {xs ys : List (List α)} (h : x.count sep = y.count sep) :
    pieces sep (x :: xs) = pieces sep (y :: ys) ↔ x = y ∧ pieces sep xs = pieces sep ys := by
  have hlength : (x.splitOn sep).length = (y.splitOn sep).length := by
    rw [length_splitOn, length_splitOn, h]
  constructor
  · intro heq
    rw [pieces_cons, pieces_cons] at heq
    obtain ⟨hhead, htail⟩ := List.append_inj heq hlength
    exact ⟨(splitOn_inj sep).mp hhead, htail⟩
  · rintro ⟨rfl, htail⟩
    rw [pieces_cons, pieces_cons, htail]

end Lists

/-! ## Texts -/

section Texts

variable (sep : Char)

/-- How many separators a text holds. -/
def seps (s : String) : ℕ := s.toList.count sep

/-- The pieces of texts. -/
def textPieces (parts : List String) : List (List Char) := pieces sep (parts.map String.toList)

theorem join_inj {p q : String} {ps qs : List String} :
    (String.singleton sep).intercalate (p :: ps) = (String.singleton sep).intercalate (q :: qs) ↔
      textPieces sep (p :: ps) = textPieces sep (q :: qs) := by
  rw [← String.toList_inj, String.toList_intercalate, String.toList_intercalate,
    String.toList_singleton]
  exact intercalate_inj sep

theorem textPieces_cons_inj {p q : String} {ps qs : List String} (h : seps sep p = seps sep q) :
    textPieces sep (p :: ps) = textPieces sep (q :: qs) ↔
      p = q ∧ textPieces sep ps = textPieces sep qs := by
  rw [textPieces, textPieces, List.map_cons, List.map_cons, pieces_cons_inj sep h,
    String.toList_inj]
  rfl

/-- A field that is alone is read back. -/
theorem textPieces_singleton_inj {p q : String} :
    textPieces sep [p] = textPieces sep [q] ↔ p = q := by
  rw [textPieces, textPieces, List.map_singleton, List.map_singleton, pieces_cons, pieces_cons,
    pieces_nil, List.append_nil, List.append_nil, splitOn_inj, String.toList_inj]

/-! ## Fields that may be missing -/

/-- The texts that are joined: a field that is missing is empty. -/
def texts (fs : List (Option String)) : List String := fs.map fun f => f.getD ""

theorem eq_of_getD {a b : Option String} (h : a.getD "" = b.getD "")
    (hsome : a.isSome = b.isSome) : a = b := by
  cases a with
  | none =>
    cases b with
    | none => rfl
    | some b => exact absurd hsome Bool.false_ne_true
  | some a =>
    cases b with
    | none => exact absurd hsome.symm Bool.false_ne_true
    | some b => exact congrArg some h

/-- Whether two records are told apart by what they are joined to: if they have the same pieces, each
field holds as many separators in both, and is missing in both or in none. -/
def Separated (fs gs : List (Option String)) : Prop :=
  textPieces sep (texts fs) = textPieces sep (texts gs) →
    (texts fs).map (seps sep) = (texts gs).map (seps sep) ∧
      fs.map Option.isSome = gs.map Option.isSome

/-- Records with the same pieces, as many separators in each field and the same fields missing are
the same. -/
theorem eq_of_pieces {fs gs : List (Option String)}
    (hpieces : textPieces sep (texts fs) = textPieces sep (texts gs))
    (hseps : (texts fs).map (seps sep) = (texts gs).map (seps sep))
    (hsome : fs.map Option.isSome = gs.map Option.isSome) : fs = gs := by
  induction fs generalizing gs with
  | nil => exact (List.map_eq_nil_iff.mp hsome.symm).symm
  | cons f fs ih =>
    cases gs with
    | nil => exact absurd hsome (List.cons_ne_nil _ _)
    | cons g gs =>
      obtain ⟨hsep, hseps⟩ := List.cons.inj hseps
      obtain ⟨hf, hsome⟩ := List.cons.inj hsome
      obtain ⟨hfield, hpieces⟩ := (textPieces_cons_inj sep hsep).mp hpieces
      rw [eq_of_getD hfield hf, ih hpieces hseps hsome]

/-- Two records are told apart by what they are joined to exactly when they are separated. -/
theorem separated_iff {fs gs : List (Option String)} (hfs : fs ≠ []) (hgs : gs ≠ []) :
    Separated sep fs gs ↔
      ((String.singleton sep).intercalate (texts fs) =
        (String.singleton sep).intercalate (texts gs) → fs = gs) := by
  have hjoin : (String.singleton sep).intercalate (texts fs) =
      (String.singleton sep).intercalate (texts gs) ↔
      textPieces sep (texts fs) = textPieces sep (texts gs) := by
    obtain ⟨f, fs, rfl⟩ := List.exists_cons_of_ne_nil hfs
    obtain ⟨g, gs, rfl⟩ := List.exists_cons_of_ne_nil hgs
    exact join_inj sep
  rw [hjoin]
  constructor
  · intro h hpieces
    obtain ⟨hseps, hsome⟩ := h hpieces
    exact eq_of_pieces sep hpieces hseps hsome
  · intro h hpieces
    rw [h hpieces]
    exact ⟨rfl, rfl⟩

end Texts

end JoinedFields

end Mpango
