import Mpango.Library.Substitution

/-!
# What an expression matches

The texts a regular expression matches, as a predicate (`Matches`), and that every match the engine
tries is of one of them (`tries_matches`). `fullmatch` asks for a match of the whole text, `found`
for one anywhere.
-/

namespace Mpango

namespace Regex

/-- The texts an expression matches, whatever stands around them. -/
def Matches : Regex → List Char → Prop
  | one p, w => ∃ c, w = [c] ∧ p c = true
  | seq first second, w => ∃ u v, w = u ++ v ∧ first.Matches u ∧ second.Matches v
  | alt first second, w => first.Matches w ∨ second.Matches w
  | opt body, w => body.Matches w ∨ w = []
  | run p least _, w => least ≤ w.length ∧ ∀ c ∈ w, p c = true
  | plus body, w => ∃ ws : List (List Char), ws ≠ [] ∧ w = ws.flatten ∧ ∀ u ∈ ws, body.Matches u
  | edge _, w => w = []

theorem runEnds_matches {p : Char → Bool} {least : ℕ} {most : Option ℕ} {skipped : ℕ}
    {before : Option Char} {cs : List Char} {x : Pattern.Position}
    (h : x ∈ Pattern.runEnds p least most skipped before cs) :
    ∃ w, cs = w ++ x.2 ∧ least ≤ skipped + w.length ∧ ∀ c ∈ w, p c = true := by
  induction cs generalizing skipped before with
  | nil =>
    rw [Pattern.runEnds] at h
    split at h
    · next hleast =>
      obtain rfl := List.mem_singleton.mp h
      exact ⟨[], rfl, hleast, fun c hc => absurd hc List.not_mem_nil⟩
    · exact absurd h List.not_mem_nil
  | cons c cs ih =>
    rw [Pattern.runEnds] at h
    have hhere : x ∈ (if least ≤ skipped then [(before, c :: cs)] else []) →
        ∃ w, c :: cs = w ++ x.2 ∧ least ≤ skipped + w.length ∧ ∀ c ∈ w, p c = true := by
      intro hx
      split at hx
      · next hleast =>
        obtain rfl := List.mem_singleton.mp hx
        exact ⟨[], rfl, hleast, fun c hc => absurd hc List.not_mem_nil⟩
      · exact absurd hx List.not_mem_nil
    split at h
    · next hc =>
      rcases List.mem_append.mp h with h | h
      · exact hhere h
      · obtain ⟨w, hw, hlen, hall⟩ := ih h
        refine ⟨c :: w, by rw [hw, List.cons_append], ?_, ?_⟩
        · rw [List.length_cons]
          omega
        · rintro d (_ | hd)
          · exact hc.1
          · exact hall d ‹_›
    · exact hhere h

theorem repeated_matches {body : Regex}
    (hbody : ∀ at_ x, x ∈ body.tries at_ → ∃ w, at_.2 = w ++ x.2 ∧ body.Matches w) {n : ℕ}
    {at_ x : Pattern.Position} (h : x ∈ repeated body.tries n at_) :
    ∃ ws : List (List Char), ws ≠ [] ∧ at_.2 = ws.flatten ++ x.2 ∧ ∀ u ∈ ws, body.Matches u := by
  induction n generalizing at_ with
  | zero => exact absurd h List.not_mem_nil
  | succ n ih =>
    rw [repeated, List.mem_flatMap] at h
    obtain ⟨y, hy, hx⟩ := h
    obtain ⟨w, hw, hmatch⟩ := hbody at_ y hy
    rcases List.mem_append.mp hx with hx | hx
    · obtain ⟨ws, -, hws, hall⟩ := ih hx
      refine ⟨w :: ws, List.cons_ne_nil w ws, ?_, ?_⟩
      · rw [hw, hws, List.flatten_cons, List.append_assoc]
      · exact List.forall_mem_cons.mpr ⟨hmatch, hall⟩
    · obtain rfl := List.mem_singleton.mp hx
      refine ⟨[w], List.cons_ne_nil w [], ?_, ?_⟩
      · rw [hw, List.flatten_singleton]
      · exact List.forall_mem_singleton.mpr hmatch

/-- What the engine tries is a match. -/
theorem tries_matches (r : Regex) (at_ x : Pattern.Position) (h : x ∈ r.tries at_) :
    ∃ w, at_.2 = w ++ x.2 ∧ r.Matches w := by
  induction r generalizing at_ x with
  | one p =>
    obtain ⟨before, cs⟩ := at_
    cases cs with
    | nil => exact absurd h List.not_mem_nil
    | cons c cs =>
      rw [tries] at h
      split at h
      · next hc =>
        obtain rfl := List.mem_singleton.mp h
        exact ⟨[c], rfl, c, rfl, hc⟩
      · exact absurd h List.not_mem_nil
  | seq first second ihf ihs =>
    rw [tries, List.mem_flatMap] at h
    obtain ⟨y, hy, hx⟩ := h
    obtain ⟨u, hu, hfirst⟩ := ihf at_ y hy
    obtain ⟨v, hv, hsecond⟩ := ihs y x hx
    exact ⟨u ++ v, by rw [hu, hv, List.append_assoc], u, v, rfl, hfirst, hsecond⟩
  | alt first second ihf ihs =>
    rw [tries, List.mem_append] at h
    rcases h with h | h
    · obtain ⟨w, hw, hmatch⟩ := ihf at_ x h
      exact ⟨w, hw, .inl hmatch⟩
    · obtain ⟨w, hw, hmatch⟩ := ihs at_ x h
      exact ⟨w, hw, .inr hmatch⟩
  | opt body ih =>
    rw [tries, List.mem_append, List.mem_singleton] at h
    rcases h with h | rfl
    · obtain ⟨w, hw, hmatch⟩ := ih at_ x h
      exact ⟨w, hw, .inl hmatch⟩
    · exact ⟨[], rfl, .inr rfl⟩
  | run p least most =>
    obtain ⟨w, hw, hlen, hall⟩ := runEnds_matches (List.mem_reverse.mp h)
    exact ⟨w, hw, by simpa using hlen, hall⟩
  | plus body ih =>
    obtain ⟨ws, hne, hws, hall⟩ := repeated_matches ih h
    exact ⟨ws.flatten, hws, ws, hne, rfl, hall⟩
  | edge word =>
    rw [tries] at h
    split at h
    · obtain rfl := List.mem_singleton.mp h
      exact ⟨[], rfl, rfl⟩
    · exact absurd h List.not_mem_nil

/-! ## Sequences -/

theorem matches_all_cons {r r' : Regex} {rs : List Regex} {w : List Char} :
    (all (r :: r' :: rs)).Matches w ↔
      ∃ u v, w = u ++ v ∧ r.Matches u ∧ (all (r' :: rs)).Matches v := .rfl

theorem matches_text {s : String} (hs : s ≠ "") {w : List Char} :
    (text s).Matches w ↔ w = s.toList := by
  have hlist : ∀ (cs w : List Char), cs ≠ [] →
      ((all (cs.map fun c => one (· = c))).Matches w ↔ w = cs) := by
    intro cs w
    induction cs generalizing w with
    | nil => exact fun h => absurd rfl h
    | cons c cs ih =>
      intro _
      cases cs with
      | nil => simp [all, Matches]
      | cons d cs =>
        rw [List.map_cons, List.map_cons, matches_all_cons]
        constructor
        · rintro ⟨u, v, rfl, ⟨x, rfl, hx⟩, hv⟩
          obtain rfl : x = c := of_decide_eq_true hx
          rw [(ih v (List.cons_ne_nil d cs)).mp hv, List.singleton_append]
        · rintro rfl
          exact ⟨[c], d :: cs, rfl, ⟨c, rfl, decide_eq_true rfl⟩,
            (ih _ (List.cons_ne_nil d cs)).mpr rfl⟩
  exact hlist s.toList w (by simpa using hs)

/-! ## Whole texts, and texts inside -/

/-- `re.fullmatch`, of an expression without groups. -/
def fullmatch (r : Regex) (cs : List Char) : Bool := (r.tries (none, cs)).any fun x => x.2.isEmpty

theorem matches_of_fullmatch {r : Regex} {cs : List Char} (h : r.fullmatch cs = true) :
    r.Matches cs := by
  obtain ⟨x, hx, hend⟩ := List.any_eq_true.mp h
  obtain ⟨w, hw, hmatch⟩ := r.tries_matches _ x hx
  have hrest : x.2 = [] := by simpa using hend
  have hcs : cs = w := by simpa [hrest] using hw
  exact hcs ▸ hmatch

/-- `re.search`: whether there is a match from here on. -/
def foundFrom (r : Regex) : Option Char → List Char → Bool
  | before, [] => !(r.tries (before, [])).isEmpty
  | before, c :: cs => !(r.tries (before, c :: cs)).isEmpty || foundFrom r (some c) cs

def found (r : Regex) (cs : List Char) : Bool := r.foundFrom none cs

theorem matches_of_foundFrom {r : Regex} {before : Option Char} {cs : List Char}
    (h : r.foundFrom before cs = true) : ∃ u w v, cs = u ++ (w ++ v) ∧ r.Matches w := by
  have hhere : ∀ before cs, (r.tries (before, cs)).isEmpty = false →
      ∃ u w v, cs = u ++ (w ++ v) ∧ r.Matches w := by
    intro before cs hsome
    obtain ⟨x, hx⟩ := List.exists_mem_of_ne_nil _ (by simpa using hsome)
    obtain ⟨w, hw, hmatch⟩ := r.tries_matches _ x hx
    exact ⟨[], w, x.2, hw, hmatch⟩
  induction cs generalizing before with
  | nil => exact hhere before [] (by simpa [foundFrom] using h)
  | cons c cs ih =>
    rw [foundFrom, Bool.or_eq_true] at h
    rcases h with h | h
    · exact hhere before (c :: cs) (by simpa using h)
    · obtain ⟨u, w, v, rfl, hmatch⟩ := ih h
      exact ⟨c :: u, w, v, rfl, hmatch⟩

end Regex

end Mpango
