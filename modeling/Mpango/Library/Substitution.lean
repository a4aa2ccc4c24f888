import Mpango.Library.Pattern

/-!
# Substitution

Replacing every match of a regular expression by a marker, from left to right, as a backtracking
engine does it: alternatives in their order, options and repetitions as long as they can be.
`Regex.tries` lists the ends of the matches from one position, the preferred one first. A
substitution with a marker that is not empty empties no text (`sub_eq_empty`).
-/

namespace Mpango

inductive Regex
  | one (p : Char → Bool)
  | seq (first second : Regex)
  | alt (first second : Regex)
  | opt (body : Regex)
  | run (p : Char → Bool) (least : ℕ) (most : Option ℕ)
  | plus (body : Regex)
  | edge (word : Char → Bool)

namespace Regex

/-- A sequence of expressions. -/
def all : List Regex → Regex
  | [] => opt (one fun _ => false)
  | [r] => r
  | r :: rs => seq r (all rs)

/-- One of several expressions. -/
def any : List Regex → Regex
  | [] => one fun _ => false
  | [r] => r
  | r :: rs => alt r (any rs)

/-- A literal text. -/
def text (s : String) : Regex := all (s.toList.map fun c => one (· = c))

/-- A literal text, whatever its case; the text is given in lower case. -/
def literal (s : String) : Regex := all (s.toList.map fun c => one fun x => Pattern.foldCase x = c)

/-- The ends of one or more matches of a body in a row, at most as many as there are characters. -/
def repeated (body : Pattern.Position → List Pattern.Position) :
    ℕ → Pattern.Position → List Pattern.Position
  | 0, _ => []
  | n + 1, at_ => (body at_).flatMap fun x => repeated body n x ++ [x]

/-- The ends of the matches that start at a position, in the order the engine tries them. -/
def tries : Regex → Pattern.Position → List Pattern.Position
  | one p, (_, c :: cs) => if p c then [(some c, cs)] else []
  | one _, (_, []) => []
  | seq first second, at_ => (first.tries at_).flatMap second.tries
  | alt first second, at_ => first.tries at_ ++ second.tries at_
  | opt body, at_ => body.tries at_ ++ [at_]
  | run p least most, at_ => (Pattern.runEnds p least most 0 at_.1 at_.2).reverse
  | plus body, at_ => repeated body.tries at_.2.length at_
  | edge word, at_ => if Pattern.atEdge word at_ then [at_] else []

/-- What is left of a text after the first match at its beginning that takes a character. -/
def rest? (r : Regex) (before : Option Char) (c : Char) (cs : List Char) : Option (List Char) :=
  ((r.tries (before, c :: cs)).head?.map (·.2)).filter fun rest => rest.length ≤ cs.length

/-- The text from a position on, with a marker for every match; the match that is being replaced
still covers `skip` characters. -/
def subFrom (r : Regex) (marker : List Char) : ℕ → Option Char → List Char → List Char
  | _, _, [] => []
  | skip + 1, _, c :: cs => subFrom r marker skip (some c) cs
  | 0, before, c :: cs =>
    match r.rest? before c cs with
    | some rest => marker ++ subFrom r marker (cs.length - rest.length) (some c) cs
    | none => c :: subFrom r marker 0 (some c) cs

/-- A text with a marker in the place of every match. -/
def sub (r : Regex) (marker : String) (s : String) : String :=
  String.ofList (r.subFrom marker.toList 0 none s.toList)

theorem sub_eq_empty {r : Regex} {marker s : String} (hmarker : marker ≠ "") :
    r.sub marker s = "" ↔ s = "" := by
  have hlist : ∀ t : String, t = "" ↔ t.toList = [] := fun t => String.toList_eq_nil_iff.symm
  have hmarker' : marker.toList ≠ [] := fun h => hmarker ((hlist marker).mpr h)
  rw [hlist, hlist, sub, String.toList_ofList]
  cases s.toList with
  | nil => simp [subFrom]
  | cons c cs =>
    rw [subFrom]
    split
    · simp [hmarker']
    · simp

example : (seq (text "a") (run (· = 'b') 1 none)).sub "[x]" "abb cab a" = "[x] c[x] a" := by
  decide +kernel

end Regex

end Mpango
