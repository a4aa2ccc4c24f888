import Mathlib.Data.List.DropRight

/-!
# Money on printed pages

`frontend/src/utils/printFormat.ts`. An amount arrives as a text and stays one: commas are put into
its integer part by one global replacement, and nothing is read as a number.
-/

namespace Mpango

namespace PrintFormat

/-! ## Texts of the browser -/

/-- What `trim` removes: white space, line terminators and the byte order mark. -/
def isTrimmed (c : Char) : Bool :=
  ('\t' ≤ c ∧ c ≤ '\r') ∨ c = ' ' ∨ c = '\u00a0' ∨ c = '\u1680' ∨
    ('\u2000' ≤ c ∧ c ≤ '\u200a') ∨ c = '\u2028' ∨ c = '\u2029' ∨ c = '\u202f' ∨ c = '\u205f' ∨
    c = '\u3000' ∨ c = '\ufeff'

/-- `String.prototype.trim`. -/
def trim (value : List Char) : List Char :=
  (value.dropWhile isTrimmed).rdropWhile isTrimmed

/-- `\w` -/
def isWord (c : Char) : Bool := c.isAlphanum || c = '_'

/-- `\B` between two neighbours: both are word characters, or neither is. -/
def noBoundary (before after : Option Char) : Bool :=
  before.any isWord == after.any isWord

/-- `(?=(\d{3})+(?!\d))` -/
def threes : List Char → Bool
  | a :: b :: c :: rest =>
    a.isDigit && b.isDigit && c.isDigit && (!rest.head?.any Char.isDigit || threes rest)
  | _ => false

/-- The replacement of every place where the pattern matches, from the character `before` on. -/
def insertCommas (before : Option Char) : List Char → List Char
  | [] => []
  | c :: cs =>
    if noBoundary before (some c) && threes (c :: cs) then ',' :: c :: insertCommas (some c) cs
    else c :: insertCommas (some c) cs

/-! ## The amount -/

/-- `sign`. -/
def sign : List Char → List Char
  | c :: _ => if c = '-' ∨ c = '+' then [c] else []
  | [] => []

/-- `body`: what follows the sign. -/
def body (trimmed : List Char) : List Char := trimmed.drop (sign trimmed).length

/-- `integerPart`: the body up to its first point. -/
def integerPart (trimmed : List Char) : List Char := (body trimmed).takeWhile (· ≠ '.')

/-- `fractionPart`, with the point it starts with. -/
def fractionPart (trimmed : List Char) : List Char := (body trimmed).dropWhile (· ≠ '.')

def formatChars (value : List Char) : List Char :=
  let trimmed := trim value
  if trimmed = [] then []
  else if integerPart trimmed ≠ [] ∧ ¬(integerPart trimmed).all Char.isDigit then trimmed
  else sign trimmed ++ insertCommas none (integerPart trimmed) ++ fractionPart trimmed

/-- `formatDecimalMoney`. -/
def formatDecimalMoney (value : Option String) : String :=
  match value with
  | none => ""
  | some value => String.ofList (formatChars value.toList)

/-- `formatKes`. -/
def formatKes (value : Option String) : String :=
  let grouped := formatDecimalMoney value
  if grouped = "" then "" else "KES " ++ grouped

end PrintFormat

end Mpango
