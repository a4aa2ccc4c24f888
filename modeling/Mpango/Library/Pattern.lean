import Mathlib.Data.List.Basic
import Mathlib.Data.String.Basic

/-!
# Text patterns

The part of a regular expression engine that searching a text for a secret needs: one character of
a class, sequences, alternatives, options, bounded or unbounded runs of one class, and word edges.
`Pattern.ends` follows every way a pattern can match from one position; `Pattern.occurs` looks for
a position with at least one. A pattern that cannot match without a character of some class does
not occur in a text that has none (`not_occurs_of_needs`), which is how a text is shown to be clean.
-/

namespace Mpango

/-- The classes of characters the engine takes from the Unicode data base: `\d`, and the word
characters that `\b` looks at. Both agree with ASCII on ASCII characters. -/
structure CharClasses where
  decimal : Char → Bool
  word : Char → Bool
  decimal_ascii : ∀ c : Char, c.toNat < 128 → decimal c = c.isDigit
  word_ascii : ∀ c : Char, c.toNat < 128 → word c = (c.isAlphanum || c = '_')

/-- The classes of a text that is ASCII throughout. -/
def CharClasses.ascii : CharClasses where
  decimal := Char.isDigit
  word := fun c => c.isAlphanum || c = '_'
  decimal_ascii := fun _ _ => rfl
  word_ascii := fun _ _ => rfl

inductive Pattern
  | one (p : Char → Bool)
  | seq (first second : Pattern)
  | alt (first second : Pattern)
  | opt (body : Pattern)
  | run (p : Char → Bool) (least : ℕ) (most : Option ℕ)
  | edge (word : Char → Bool)

namespace Pattern

/-- A character as the engine compares it when case is ignored. The four characters outside ASCII
are those whose case pairs with an ASCII letter. -/
def foldCase (c : Char) : Char :=
  if 'A' ≤ c ∧ c ≤ 'Z' then Char.ofNat (c.toNat + 32)
  else if c = '\u0130' ∨ c = '\u0131' then 'i'
  else if c = '\u017f' then 's'
  else if c = '\u212a' then 'k'
  else c

/-- One character, whatever its case. -/
def letter (c : Char) : Pattern := one fun x => foldCase x == c

/-- A sequence of patterns. -/
def all : List Pattern → Pattern
  | [] => opt (one fun _ => false)
  | [p] => p
  | p :: ps => seq p (all ps)

/-- One of several patterns. -/
def any : List Pattern → Pattern
  | [] => one fun _ => false
  | [p] => p
  | p :: ps => alt p (any ps)

/-- A literal text, whatever its case; the text is given in lower case. -/
def literal (s : String) : Pattern := all (s.toList.map letter)

/-! ## Matching -/

/-- A position in a text: the character before it and the characters after it. -/
abbrev Position := Option Char × List Char

/-- Every position a run of a class can end at; `skipped` characters are behind it already. -/
def runEnds (p : Char → Bool) (least : ℕ) (most : Option ℕ) :
    ℕ → Option Char → List Char → List Position
  | skipped, before, [] => if least ≤ skipped then [(before, [])] else []
  | skipped, before, c :: cs =>
    let here := if least ≤ skipped then [(before, c :: cs)] else []
    if p c ∧ most.all (skipped < ·) then here ++ runEnds p least most (skipped + 1) (some c) cs
    else here

/-- Whether exactly one side of a position is a word character. -/
def atEdge (word : Char → Bool) (at_ : Position) : Bool :=
  at_.1.any word != at_.2.head?.any word

/-- Every position a match that starts at a given position can end at. -/
def ends : Pattern → Position → List Position
  | one p, (_, c :: cs) => if p c then [(some c, cs)] else []
  | one _, (_, []) => []
  | seq first second, at_ => (first.ends at_).flatMap second.ends
  | alt first second, at_ => first.ends at_ ++ second.ends at_
  | opt body, at_ => at_ :: body.ends at_
  | run p least most, at_ => runEnds p least most 0 at_.1 at_.2
  | edge word, at_ => if atEdge word at_ then [at_] else []

/-- Whether the pattern matches at some position from here on. -/
def occursFrom (r : Pattern) : Option Char → List Char → Bool
  | before, [] => !(r.ends (before, [])).isEmpty
  | before, c :: cs => !(r.ends (before, c :: cs)).isEmpty || occursFrom r (some c) cs

/-- Whether the pattern matches anywhere in a text. -/
def occurs (r : Pattern) (s : String) : Bool := r.occursFrom none s.toList

/-! ## Patterns that need a character -/

/-- A match of the pattern contains a character of the class `q`. -/
def Needs (q : Char → Bool) : Pattern → Prop
  | one p => ∀ c, p c → q c
  | seq first second => first.Needs q ∨ second.Needs q
  | alt first second => first.Needs q ∧ second.Needs q
  | opt _ => False
  | run p least _ => 0 < least ∧ ∀ c, p c → q c
  | edge _ => False

theorem runEnds_suffix {p : Char → Bool} {least : ℕ} {most : Option ℕ} {skipped : ℕ}
    {before : Option Char} {cs : List Char} {x : Position}
    (h : x ∈ runEnds p least most skipped before cs) : x.2 <:+ cs := by
  induction cs generalizing skipped before with
  | nil =>
    rw [runEnds] at h
    split at h <;> simp_all
  | cons c cs ih =>
    rw [runEnds] at h
    split at h
    · rcases List.mem_append.mp h with h | h
      · split at h <;> simp_all
      · exact (ih h).trans (List.suffix_cons c cs)
    · split at h <;> simp_all

/-- A match ends further on in the same text. -/
theorem ends_suffix {r : Pattern} {at_ x : Position} (h : x ∈ r.ends at_) : x.2 <:+ at_.2 := by
  induction r generalizing at_ x with
  | one p =>
    obtain ⟨before, cs⟩ := at_
    cases cs with
    | nil => simp [ends] at h
    | cons c cs =>
      rw [ends] at h
      split at h <;> simp_all
  | seq first second ihf ihs =>
    rw [ends, List.mem_flatMap] at h
    obtain ⟨y, hy, hx⟩ := h
    exact (ihs hx).trans (ihf hy)
  | alt first second ihf ihs =>
    rw [ends, List.mem_append] at h
    exact h.elim (fun h => ihf h) fun h => ihs h
  | opt body ih =>
    rw [ends, List.mem_cons] at h
    rcases h with rfl | h
    · exact List.suffix_rfl
    · exact ih h
  | run p least most => exact runEnds_suffix h
  | edge word =>
    rw [ends] at h
    split at h <;> simp_all

/-- A pattern that needs a character the text does not have matches nowhere. -/
theorem ends_eq_nil {q : Char → Bool} {r : Pattern} (hr : r.Needs q) {at_ : Position}
    (hcs : ∀ c ∈ at_.2, q c = false) : r.ends at_ = [] := by
  induction r generalizing at_ with
  | one p =>
    obtain ⟨before, cs⟩ := at_
    cases cs with
    | nil => rfl
    | cons c cs =>
      have hc : q c = false := hcs c List.mem_cons_self
      have hp : ¬ p c = true := fun hp => by simp [hr c hp] at hc
      rw [ends, if_neg hp]
  | seq first second ihf ihs =>
    rw [ends, List.flatMap_eq_nil_iff]
    intro x hx
    rcases hr with hr | hr
    · rw [ihf hr hcs] at hx
      exact absurd hx List.not_mem_nil
    · exact ihs hr fun c hc => hcs c ((ends_suffix hx).subset hc)
  | alt first second ihf ihs =>
    rw [ends, ihf hr.1 hcs, ihs hr.2 hcs, List.nil_append]
  | opt body => exact hr.elim
  | run p least most =>
    obtain ⟨before, cs⟩ := at_
    have hleast : ¬ least ≤ 0 := Nat.not_le.mpr hr.1
    cases cs with
    | nil => rw [ends, runEnds, if_neg hleast]
    | cons c cs =>
      have hc : q c = false := hcs c List.mem_cons_self
      have hp : ¬ p c = true := fun hp => by simp [hr.2 c hp] at hc
      simp only [ends, runEnds, if_neg hleast, hp, false_and, Bool.false_eq_true, if_false]
  | edge word => exact hr.elim

theorem occursFrom_eq_false {q : Char → Bool} {r : Pattern} (hr : r.Needs q)
    {before : Option Char} {cs : List Char} (hcs : ∀ c ∈ cs, q c = false) :
    r.occursFrom before cs = false := by
  induction cs generalizing before with
  | nil =>
    have hnil : r.ends (before, []) = [] := ends_eq_nil hr hcs
    rw [occursFrom, hnil]
    rfl
  | cons c cs ih =>
    have hnil : r.ends (before, c :: cs) = [] := ends_eq_nil hr hcs
    rw [occursFrom, hnil, ih fun x hx => hcs x (List.mem_cons_of_mem _ hx)]
    rfl

/-- A pattern that needs a character of a class does not occur in a text without one. -/
theorem not_occurs_of_needs {q : Char → Bool} {r : Pattern} (hr : r.Needs q) {s : String}
    (hs : ∀ c ∈ s.toList, q c = false) : r.occurs s = false :=
  occursFrom_eq_false hr hs

/-! ## Patterns over a class of characters -/

/-- Two patterns that differ in what they say of characters outside a class alone. -/
def Agree (q : Char → Prop) : Pattern → Pattern → Prop
  | one p, one p' => ∀ c, q c → p c = p' c
  | seq first second, seq first' second' => first.Agree q first' ∧ second.Agree q second'
  | alt first second, alt first' second' => first.Agree q first' ∧ second.Agree q second'
  | opt body, opt body' => body.Agree q body'
  | run p least most, run p' least' most' =>
    (∀ c, q c → p c = p' c) ∧ least = least' ∧ most = most'
  | edge word, edge word' => ∀ c, q c → word c = word' c
  | _, _ => False

/-- The characters on both sides of a position are of the class. -/
structure Within (q : Char → Prop) (at_ : Position) : Prop where
  before : ∀ c, at_.1 = some c → q c
  after : ∀ c ∈ at_.2, q c

section Agree
variable {q : Char → Prop}

theorem Agree.refl (r : Pattern) : r.Agree q r := by
  induction r with
  | one p => exact fun _ _ => rfl
  | seq first second ihf ihs => exact ⟨ihf, ihs⟩
  | alt first second ihf ihs => exact ⟨ihf, ihs⟩
  | opt body ih => exact ih
  | run p least most => exact ⟨fun _ _ => rfl, rfl, rfl⟩
  | edge word => exact fun _ _ => rfl

theorem Within.tail {before : Option Char} {c : Char} {cs : List Char}
    (h : Within q (before, c :: cs)) : Within q (some c, cs) := by
  refine ⟨fun d hd => ?_, fun d hd => h.after d (List.mem_cons_of_mem c hd)⟩
  obtain rfl := Option.some.inj hd
  exact h.after c List.mem_cons_self

theorem within_of_mem_runEnds {p : Char → Bool} {least : ℕ} {most : Option ℕ} {skipped : ℕ}
    {before : Option Char} {cs : List Char} (h : Within q (before, cs)) {x : Position}
    (hx : x ∈ runEnds p least most skipped before cs) : Within q x := by
  induction cs generalizing skipped before with
  | nil =>
    rw [runEnds] at hx
    split at hx
    · exact List.mem_singleton.mp hx ▸ h
    · exact absurd hx List.not_mem_nil
  | cons c cs ih =>
    rw [runEnds] at hx
    have hhere : x ∈ (if least ≤ skipped then [(before, c :: cs)] else []) → Within q x := by
      intro hx
      split at hx
      · exact List.mem_singleton.mp hx ▸ h
      · exact absurd hx List.not_mem_nil
    split at hx
    · rcases List.mem_append.mp hx with hx | hx
      · exact hhere hx
      · exact ih h.tail hx
    · exact hhere hx

theorem within_of_mem_ends {r : Pattern} {at_ x : Position} (h : Within q at_)
    (hx : x ∈ r.ends at_) : Within q x := by
  induction r generalizing at_ x with
  | one p =>
    obtain ⟨before, cs⟩ := at_
    cases cs with
    | nil => exact absurd hx List.not_mem_nil
    | cons c cs =>
      rw [ends] at hx
      split at hx
      · exact List.mem_singleton.mp hx ▸ h.tail
      · exact absurd hx List.not_mem_nil
  | seq first second ihf ihs =>
    rw [ends, List.mem_flatMap] at hx
    obtain ⟨y, hy, hx⟩ := hx
    exact ihs (ihf h hy) hx
  | alt first second ihf ihs =>
    rw [ends, List.mem_append] at hx
    exact hx.elim (ihf h) (ihs h)
  | opt body ih =>
    rw [ends, List.mem_cons] at hx
    rcases hx with rfl | hx
    · exact h
    · exact ih h hx
  | run p least most => exact within_of_mem_runEnds h hx
  | edge word =>
    rw [ends] at hx
    split at hx
    · exact List.mem_singleton.mp hx ▸ h
    · exact absurd hx List.not_mem_nil

theorem runEnds_congr {p p' : Char → Bool} (hp : ∀ c, q c → p c = p' c) {least : ℕ}
    {most : Option ℕ} {skipped : ℕ} {before : Option Char} {cs : List Char}
    (h : ∀ c ∈ cs, q c) :
    runEnds p least most skipped before cs = runEnds p' least most skipped before cs := by
  induction cs generalizing skipped before with
  | nil => rfl
  | cons c cs ih =>
    rw [runEnds, runEnds, hp c (h c List.mem_cons_self),
      ih fun d hd => h d (List.mem_cons_of_mem c hd)]

theorem atEdge_congr {word word' : Char → Bool} (hword : ∀ c, q c → word c = word' c)
    {at_ : Position} (h : Within q at_) : atEdge word at_ = atEdge word' at_ := by
  obtain ⟨before, cs⟩ := at_
  have hbefore : before.any word = before.any word' := by
    cases before with
    | none => rfl
    | some c => exact hword c (h.before c rfl)
  have hafter : cs.head?.any word = cs.head?.any word' := by
    cases cs with
    | nil => rfl
    | cons c cs => exact hword c (h.after c List.mem_cons_self)
  unfold atEdge
  rw [hbefore, hafter]

/-- Patterns that agree on a class match a text of that class alike. -/
theorem ends_congr {r r' : Pattern} (hr : r.Agree q r') {at_ : Position} (h : Within q at_) :
    r.ends at_ = r'.ends at_ := by
  induction r generalizing r' at_ with
  | one p =>
    cases r' with
    | one p' =>
      obtain ⟨before, cs⟩ := at_
      cases cs with
      | nil => rfl
      | cons c cs => rw [ends, ends, hr c (h.after c List.mem_cons_self)]
    | _ => exact hr.elim
  | seq first second ihf ihs =>
    cases r' with
    | seq first' second' =>
      rw [ends, ends, ← ihf hr.1 h]
      exact List.flatMap_congr fun x hx => ihs hr.2 (within_of_mem_ends h hx)
    | _ => exact hr.elim
  | alt first second ihf ihs =>
    cases r' with
    | alt first' second' => rw [ends, ends, ihf hr.1 h, ihs hr.2 h]
    | _ => exact hr.elim
  | opt body ih =>
    cases r' with
    | opt body' => rw [ends, ends, ih hr h]
    | _ => exact hr.elim
  | run p least most =>
    cases r' with
    | run p' least' most' =>
      obtain ⟨hp, rfl, rfl⟩ := hr
      exact runEnds_congr hp h.after
    | _ => exact hr.elim
  | edge word =>
    cases r' with
    | edge word' => rw [ends, ends, atEdge_congr hr h]
    | _ => exact hr.elim

theorem occursFrom_congr {r r' : Pattern} (hr : r.Agree q r') {before : Option Char}
    {cs : List Char} (h : Within q (before, cs)) :
    r.occursFrom before cs = r'.occursFrom before cs := by
  induction cs generalizing before with
  | nil => rw [occursFrom, occursFrom, ends_congr hr h]
  | cons c cs ih => rw [occursFrom, occursFrom, ends_congr hr h, ih h.tail]

theorem occurs_congr {r r' : Pattern} (hr : r.Agree q r') {s : String}
    (h : ∀ c ∈ s.toList, q c) : r.occurs s = r'.occurs s :=
  occursFrom_congr hr ⟨fun _ hc => (nomatch hc), h⟩

end Agree

end Pattern

end Mpango
