import Mpango.Model.Harness

/-!
# Moved ids

The validator's two helpers as they run. `lcs` fills a table of lengths from its last row and
column, then reads one longest common subsequence back from the front; `movedIds` is what stands
off it. The checks of `Harness` use the recursive form of the same computation.
-/

namespace Mpango

namespace Moves

variable {α : Type} [DecidableEq α]

/-! ## The table -/

/-- `dp`: a length for every row and column. -/
abbrev Lengths := ℕ → ℕ → ℕ

/-- `dp[i][j] = length`. -/
def Lengths.set (dp : Lengths) (i j length : ℕ) : Lengths :=
  fun row column => if row = i ∧ column = j then length else dp row column

/-- The loop over the columns, from `j - 1` down. -/
def fillRow (a b : List α) (i : ℕ) : ℕ → Lengths → Lengths
  | 0, dp => dp
  | j + 1, dp =>
    fillRow a b i j (dp.set i j (if a[i]? = b[j]? then dp (i + 1) (j + 1) + 1
      else max (dp (i + 1) j) (dp i (j + 1))))

/-- The loop over the rows, from `i - 1` down. -/
def fillRows (a b : List α) : ℕ → Lengths → Lengths
  | 0, dp => dp
  | i + 1, dp => fillRows a b i (fillRow a b i b.length dp)

def fillTable (a b : List α) : Lengths :=
  fillRows a b a.length fun _ _ => 0

/-! ## Reading it back -/

/-- The `while` loop; what it appends to `out` from here on. -/
def readBack (a b : List α) (dp : Lengths) (i j : ℕ) : List α :=
  if h : i < a.length ∧ j < b.length then
    if a[i] = b[j] then a[i] :: readBack a b dp (i + 1) (j + 1)
    -- of two ways that are as long, the one that drops from the first list
    else if dp i (j + 1) ≤ dp (i + 1) j then readBack a b dp (i + 1) j
    else readBack a b dp i (j + 1)
  else []
termination_by (a.length - i) + (b.length - j)

/-- `lcs`. -/
def lcs (a b : List α) : List α :=
  readBack a b (fillTable a b) 0 0

/-- `moved_ids`. -/
def movedIds (baselineOrder headOrder : List α) : Finset α :=
  let commonBase := baselineOrder.filter (· ∈ headOrder)
  let commonHead := headOrder.filter (· ∈ baselineOrder)
  let stable := (lcs commonBase commonHead).toFinset
  (commonHead.filter (· ∉ stable)).toFinset

end Moves

end Mpango
