import Mpango.Library.Text

/-!
# Moments as texts

A moment in UTC by its calendar fields. `isoformat` spells it, with the microseconds only where
there are some, and `ofIsoformat` reads that spelling.
-/

namespace Mpango

/-! ## Digits of a fixed width -/

/-- The lowest `w` decimal digits of a number, most significant first. -/
def decimalDigits : ℕ → ℕ → List Char
  | 0, _ => []
  | w + 1, n => decimalDigits w (n / 10) ++ [(n % 10).digitChar]

/-- The number that stands first in a text, with a width. -/
def readDigits (w : ℕ) (cs : List Char) : Option (ℕ × List Char) :=
  let digits := cs.take w
  if digits.length = w ∧ digits.all Char.isDigit then
    some (Nat.ofDigitChars 10 digits 0, cs.drop w)
  else none

/-- The rest of a text after a character. -/
def expect (c : Char) : List Char → Option (List Char)
  | [] => none
  | d :: cs => if d = c then some cs else none

theorem length_decimalDigits (w n : ℕ) : (decimalDigits w n).length = w := by
  induction w generalizing n with
  | zero => rfl
  | succ w ih => rw [decimalDigits, List.length_append, ih, List.length_singleton]

theorem isDigit_digitChar : ∀ d < 10, d.digitChar.isDigit = true := by decide

theorem isDigit_of_mem_decimalDigits {w n : ℕ} {c : Char} (h : c ∈ decimalDigits w n) :
    c.isDigit = true := by
  induction w generalizing n with
  | zero => exact absurd h List.not_mem_nil
  | succ w ih =>
    rw [decimalDigits, List.mem_append, List.mem_singleton] at h
    rcases h with h | rfl
    · exact ih h
    · exact isDigit_digitChar _ (Nat.mod_lt n (by decide))

/-- A number that fits the width is the value of its digits. -/
theorem ofDigitChars_decimalDigits {w n : ℕ} (h : n < 10 ^ w) :
    Nat.ofDigitChars 10 (decimalDigits w n) 0 = n := by
  induction w generalizing n with
  | zero =>
    rw [pow_zero, Nat.lt_one_iff] at h
    rw [h]
    rfl
  | succ w ih =>
    have hfront : n / 10 < 10 ^ w := by
      rw [pow_succ] at h
      exact Nat.div_lt_of_lt_mul (by rwa [Nat.mul_comm])
    have hlast : ∀ d < 10, d.digitChar.toNat - '0'.toNat = d := by decide
    rw [decimalDigits, Nat.ofDigitChars_append, ih hfront, Nat.ofDigitChars_cons,
      Nat.ofDigitChars_nil, hlast _ (Nat.mod_lt n (by decide))]
    omega

theorem readDigits_decimalDigits {w n : ℕ} (h : n < 10 ^ w) (rest : List Char) :
    readDigits w (decimalDigits w n ++ rest) = some (n, rest) := by
  have hlength := length_decimalDigits w n
  have hall : (decimalDigits w n).all Char.isDigit = true :=
    List.all_eq_true.mpr fun c hc => isDigit_of_mem_decimalDigits hc
  unfold readDigits
  simp only [List.take_left' hlength, List.drop_left' hlength, hlength, hall, and_self,
    if_true, ofDigitChars_decimalDigits h]

@[simp] theorem expect_cons (c : Char) (cs : List Char) : expect c (c :: cs) = some cs := if_pos rfl

/-! ## Moments -/

/-- A moment in UTC, to the microsecond. -/
structure UtcTime where
  year : ℕ
  month : ℕ
  day : ℕ
  hour : ℕ
  minute : ℕ
  second : ℕ
  microsecond : ℕ
  year_lt : year < 10 ^ 4 := by decide
  month_lt : month < 13 := by decide
  day_lt : day < 32 := by decide
  hour_lt : hour < 24 := by decide
  minute_lt : minute < 60 := by decide
  second_lt : second < 60 := by decide
  microsecond_lt : microsecond < 10 ^ 6 := by decide
deriving DecidableEq

namespace UtcTime

/-- A number that grows with the moment. -/
def position (t : UtcTime) : ℕ :=
  (((((t.year * 13 + t.month) * 32 + t.day) * 24 + t.hour) * 60 + t.minute) * 60 + t.second) *
    1000000 + t.microsecond

/-- The microseconds of a spelling, and the offset of UTC. -/
def tail (t : UtcTime) : List Char :=
  (if t.microsecond = 0 then [] else '.' :: decimalDigits 6 t.microsecond) ++
    ['+', '0', '0', ':', '0', '0']

/-- `datetime.isoformat`. -/
def isoformat (t : UtcTime) : String :=
  String.ofList (decimalDigits 4 t.year ++ '-' :: (decimalDigits 2 t.month ++
    '-' :: (decimalDigits 2 t.day ++ 'T' :: (decimalDigits 2 t.hour ++
    ':' :: (decimalDigits 2 t.minute ++ ':' :: (decimalDigits 2 t.second ++ t.tail))))))

/-- The microseconds of a spelling, where it has some, and the rest. -/
def readMicrosecond : List Char → Option (ℕ × List Char)
  | '.' :: cs => readDigits 6 cs
  | cs => some (0, cs)

/-- Read what `isoformat` spells. -/
def ofIsoformat (s : String) : Option UtcTime := do
  let (year, cs) ← readDigits 4 s.toList
  let (month, cs) ← readDigits 2 (← expect '-' cs)
  let (day, cs) ← readDigits 2 (← expect '-' cs)
  let (hour, cs) ← readDigits 2 (← expect 'T' cs)
  let (minute, cs) ← readDigits 2 (← expect ':' cs)
  let (second, cs) ← readDigits 2 (← expect ':' cs)
  let (microsecond, cs) ← readMicrosecond cs
  if h : (year < 10 ^ 4 ∧ month < 13 ∧ day < 32 ∧ hour < 24) ∧
      (minute < 60 ∧ second < 60 ∧ microsecond < 10 ^ 6) ∧ cs = ['+', '0', '0', ':', '0', '0'] then
    some ⟨year, month, day, hour, minute, second, microsecond, h.1.1, h.1.2.1, h.1.2.2.1, h.1.2.2.2,
      h.2.1.1, h.2.1.2.1, h.2.1.2.2⟩
  else none

theorem readMicrosecond_tail (t : UtcTime) :
    readMicrosecond t.tail = some (t.microsecond, ['+', '0', '0', ':', '0', '0']) := by
  unfold tail
  split
  · next h =>
    rw [h]
    rfl
  · exact readDigits_decimalDigits t.microsecond_lt _

/-- A moment is read back from its spelling. -/
theorem ofIsoformat_isoformat (t : UtcTime) : ofIsoformat t.isoformat = some t := by
  unfold ofIsoformat isoformat
  rw [String.toList_ofList, readDigits_decimalDigits t.year_lt]
  simp only [Option.bind_eq_bind, Option.bind_some, expect_cons]
  rw [readDigits_decimalDigits (Nat.lt_trans t.month_lt (by decide))]
  simp only [Option.bind_some, expect_cons]
  rw [readDigits_decimalDigits (Nat.lt_trans t.day_lt (by decide))]
  simp only [Option.bind_some, expect_cons]
  rw [readDigits_decimalDigits (Nat.lt_trans t.hour_lt (by decide))]
  simp only [Option.bind_some, expect_cons]
  rw [readDigits_decimalDigits (Nat.lt_trans t.minute_lt (by decide))]
  simp only [Option.bind_some, expect_cons]
  rw [readDigits_decimalDigits (Nat.lt_trans t.second_lt (by decide))]
  simp only [Option.bind_some, readMicrosecond_tail]
  rw [dif_pos ⟨⟨t.year_lt, t.month_lt, t.day_lt, t.hour_lt⟩,
    ⟨t.minute_lt, t.second_lt, t.microsecond_lt⟩, trivial⟩]

end UtcTime

end Mpango
