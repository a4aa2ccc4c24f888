import Mathlib.Data.Int.Log
import Mathlib.Data.Rat.Floor
import Mathlib.Algebra.Order.Floor.Ring
import Mathlib.Tactic

/-!
# Decimal arithmetic at two precisions

A value travels through two number systems on its way to a table. In the program it is a
`Decimal`: exact, except that the result of every arithmetic operation is rounded to 28
*significant* digits, ties to even. In a column it is a `Numeric p s`: at most `p` digits of
which `s` stand after the point, and storing into it rounds ties *away from zero* and fails when
the result is too wide.

Both roundings are the identity on values that already have few enough digits
(`roundToPrecision_scaled`, `Numeric.store_scaled`); `scaled s z`, the decimal `z / 10 ^ s`, is
the normal form those lemmas speak about. Infinities and not-a-number are not values here.
-/

namespace Mpango

/-- A finite decimal value. -/
abbrev Decimal := ℚ

namespace Decimal

/-! ## Rounding to an integer -/

/-- Nearest integer, ties away from zero. -/
def roundHalfAway (x : ℚ) : ℤ :=
  if 0 ≤ x then ⌊x + 1 / 2⌋ else -⌊-x + 1 / 2⌋

/-- Nearest integer, ties to the even neighbour. -/
def roundHalfEven (x : ℚ) : ℤ :=
  if x - ⌊x⌋ < 1 / 2 then ⌊x⌋
  else if 1 / 2 < x - ⌊x⌋ then ⌊x⌋ + 1
  else ⌊x⌋ + ⌊x⌋ % 2

private theorem floor_intCast_add_half (z : ℤ) : ⌊(z : ℚ) + 1 / 2⌋ = z := by
  rw [Int.floor_intCast_add]
  norm_num

@[simp] theorem roundHalfAway_intCast (z : ℤ) : roundHalfAway (z : ℚ) = z := by
  unfold roundHalfAway
  split
  · exact floor_intCast_add_half z
  · have h := floor_intCast_add_half (-z)
    rw [Int.cast_neg] at h
    rw [h, neg_neg]

@[simp] theorem roundHalfEven_intCast (z : ℤ) : roundHalfEven (z : ℚ) = z := by
  simp [roundHalfEven]

/-- A non-negative value rounds half up. -/
theorem roundHalfAway_of_nonneg {x : ℚ} (hx : 0 ≤ x) : roundHalfAway x = ⌊x + 1 / 2⌋ := if_pos hx

theorem roundHalfAway_of_neg {x : ℚ} (hx : x < 0) : roundHalfAway x = -⌊-x + 1 / 2⌋ :=
  if_neg (not_le.mpr hx)

theorem roundHalfAway_nonneg {x : ℚ} (hx : 0 ≤ x) : 0 ≤ roundHalfAway x := by
  rw [roundHalfAway_of_nonneg hx]
  exact Int.floor_nonneg.mpr (by linarith)

/-- Rounding does not cross an integer from above. -/
theorem le_roundHalfEven {n : ℤ} {x : ℚ} (h : (n : ℚ) ≤ x) : n ≤ roundHalfEven x := by
  have hfl : n ≤ ⌊x⌋ := Int.le_floor.mpr h
  unfold roundHalfEven
  split_ifs
  · exact hfl
  · omega
  · omega

/-- Rounding does not cross an integer from below. -/
theorem roundHalfEven_le {n : ℤ} {x : ℚ} (h : x ≤ n) : roundHalfEven x ≤ n := by
  rcases h.eq_or_lt with rfl | hlt
  · rw [roundHalfEven_intCast]
  · have hfl : ⌊x⌋ + 1 ≤ n := Int.floor_lt.mpr hlt
    unfold roundHalfEven
    split_ifs <;> omega

/-! ## The decimal with `s` places -/

/-- The decimal whose digits, read without the point, are `z`: the value `z / 10 ^ s`. -/
def scaled (s : ℕ) (z : ℤ) : Decimal := (z : ℚ) / 10 ^ s

section Scaled
variable {s : ℕ} {a b z : ℤ}

private theorem pow_pos_rat (s : ℕ) : (0 : ℚ) < 10 ^ s := by positivity

@[simp] theorem scaled_le_scaled : scaled s a ≤ scaled s b ↔ a ≤ b := by
  unfold scaled
  rw [div_le_div_iff_of_pos_right (pow_pos_rat s)]
  exact Int.cast_le

@[simp] theorem scaled_lt_scaled : scaled s a < scaled s b ↔ a < b := by
  unfold scaled
  rw [div_lt_div_iff_of_pos_right (pow_pos_rat s)]
  exact Int.cast_lt

@[simp] theorem scaled_inj : scaled s a = scaled s b ↔ a = b := by
  unfold scaled
  rw [div_left_inj' (pow_pos_rat s).ne']
  exact Int.cast_inj

@[simp] theorem scaled_zero : scaled s 0 = 0 := by simp [scaled]

@[simp] theorem scaled_nonneg : 0 ≤ scaled s z ↔ 0 ≤ z := by
  rw [← scaled_zero (s := s), scaled_le_scaled]

@[simp] theorem scaled_nonpos : scaled s z ≤ 0 ↔ z ≤ 0 := by
  rw [← scaled_zero (s := s), scaled_le_scaled]

@[simp] theorem scaled_pos : 0 < scaled s z ↔ 0 < z := by
  rw [← scaled_zero (s := s), scaled_lt_scaled]

@[simp] theorem scaled_neg_iff : scaled s z < 0 ↔ z < 0 := by
  rw [← scaled_zero (s := s), scaled_lt_scaled]

@[simp] theorem scaled_eq_zero : scaled s z = 0 ↔ z = 0 := by
  rw [← scaled_zero (s := s), scaled_inj]

theorem scaled_add_scaled : scaled s a + scaled s b = scaled s (a + b) := by
  simp only [scaled, Int.cast_add, add_div]

theorem scaled_sub_scaled : scaled s a - scaled s b = scaled s (a - b) := by
  simp only [scaled, Int.cast_sub, sub_div]

theorem neg_scaled : -scaled s a = scaled s (-a) := by
  simp only [scaled, Int.cast_neg, neg_div]

theorem scaled_mul_pow : scaled s z * 10 ^ s = z := by
  unfold scaled
  exact div_mul_cancel₀ _ (pow_pos_rat s).ne'

/-- An integer, written with `s` places. -/
theorem intCast_eq_scaled (s : ℕ) (z : ℤ) : (z : ℚ) = scaled s (z * 10 ^ s) := by
  unfold scaled
  rw [Int.cast_mul, Int.cast_pow, Int.cast_ofNat, mul_div_cancel_right₀ _ (pow_pos_rat s).ne']

/-- The same value, written with `t` more places. -/
theorem scaled_eq_scaled_add (s t : ℕ) (z : ℤ) : scaled s z = scaled (s + t) (z * 10 ^ t) := by
  have ht := pow_pos_rat t
  unfold scaled
  rw [pow_add, Int.cast_mul, Int.cast_pow, Int.cast_ofNat, mul_div_mul_right _ _ ht.ne']

theorem sum_map_scaled {α : Type*} (s : ℕ) (f : α → ℤ) (l : List α) :
    (l.map fun x => scaled s (f x)).sum = scaled s (l.map f).sum := by
  induction l with
  | nil => simp
  | cons x l ih =>
    rw [List.map_cons, List.sum_cons, ih, scaled_add_scaled, List.map_cons, List.sum_cons]

end Scaled

/-! ## Arithmetic at a fixed number of significant digits -/

/-- Round to `p` significant digits, ties to even: scale the value so that its leading digit
has weight `10 ^ (p - 1)`, round there and scale back. -/
def roundToPrecision (p : ℕ) (x : ℚ) : Decimal :=
  (roundHalfEven (x * 10 ^ ((p : ℤ) - 1 - Int.log 10 |x|)) : ℚ) /
    10 ^ ((p : ℤ) - 1 - Int.log 10 |x|)

/-- A value of at most `p` digits is not changed. -/
theorem roundToPrecision_scaled {p s : ℕ} {z : ℤ} (hz : z.natAbs < 10 ^ p) :
    roundToPrecision p (scaled s z) = scaled s z := by
  rcases eq_or_ne z 0 with rfl | hz0
  · simp [roundToPrecision, roundHalfEven]
  have hx : 0 < |scaled s z| := abs_pos.mpr (by simpa using hz0)
  have hlt : |scaled s z| < (10 : ℚ) ^ ((p : ℤ) - s) := by
    have hcast : |(z : ℚ)| < 10 ^ p := by
      rw [← Int.cast_abs, Int.abs_eq_natAbs]
      exact_mod_cast hz
    rw [scaled, abs_div, abs_of_pos (pow_pos_rat s), zpow_sub₀ (by norm_num), zpow_natCast,
      zpow_natCast]
    exact div_lt_div_of_pos_right hcast (pow_pos_rat s)
  -- the weight of the leading digit leaves room for all `s` places
  have hlog : Int.log 10 |scaled s z| < (p : ℤ) - s := by
    have hle : (10 : ℚ) ^ Int.log 10 |scaled s z| ≤ |scaled s z| := by
      simpa using Int.zpow_log_le_self (R := ℚ) (b := 10) (by norm_num) hx
    exact (zpow_lt_zpow_iff_right₀ (by norm_num : (1 : ℚ) < 10)).mp (hle.trans_lt hlt)
  obtain ⟨k, hk⟩ : ∃ k : ℕ, (p : ℤ) - 1 - Int.log 10 |scaled s z| = s + k :=
    ⟨((p : ℤ) - 1 - Int.log 10 |scaled s z| - s).toNat, by omega⟩
  have hpow : (10 : ℚ) ^ ((p : ℤ) - 1 - Int.log 10 |scaled s z|) = 10 ^ s * 10 ^ k := by
    rw [hk, zpow_add₀ (by norm_num), zpow_natCast, zpow_natCast]
  have hint : scaled s z * (10 ^ s * 10 ^ k) = ((z * 10 ^ k : ℤ) : ℚ) := by
    rw [← mul_assoc, scaled_mul_pow]
    push_cast
    ring
  unfold roundToPrecision
  rw [hpow, hint, roundHalfEven_intCast, ← hint, mul_div_assoc,
    div_self (mul_pos (pow_pos_rat s) (pow_pos_rat k)).ne', mul_one]

/-- Rounding keeps the sign. -/
theorem roundToPrecision_nonpos {p : ℕ} {x : ℚ} (h : x ≤ 0) : roundToPrecision p x ≤ 0 := by
  have hpow : (0 : ℚ) < 10 ^ ((p : ℤ) - 1 - Int.log 10 |x|) := by positivity
  have hle : roundHalfEven (x * 10 ^ ((p : ℤ) - 1 - Int.log 10 |x|)) ≤ 0 :=
    roundHalfEven_le (by simpa using mul_nonpos_of_nonpos_of_nonneg h hpow.le)
  unfold roundToPrecision
  exact div_nonpos_of_nonpos_of_nonneg (by exact_mod_cast hle) hpow.le

theorem roundToPrecision_nonneg {p : ℕ} {x : ℚ} (h : 0 ≤ x) : 0 ≤ roundToPrecision p x := by
  have hpow : (0 : ℚ) < 10 ^ ((p : ℤ) - 1 - Int.log 10 |x|) := by positivity
  have hle : 0 ≤ roundHalfEven (x * 10 ^ ((p : ℤ) - 1 - Int.log 10 |x|)) :=
    le_roundHalfEven (by simpa using mul_nonneg h hpow.le)
  unfold roundToPrecision
  exact div_nonneg (by exact_mod_cast hle) hpow.le

/-- Rounding keeps the weight of the leading digit. -/
theorem zpow_log_le_roundToPrecision {p : ℕ} (hp : 1 ≤ p) {x : ℚ} (hx : x ≠ 0) :
    (10 : ℚ) ^ Int.log 10 |x| ≤ |roundToPrecision p x| := by
  set L := Int.log 10 |x| with hL
  have hpow : (0 : ℚ) < 10 ^ ((p : ℤ) - 1 - L) := by positivity
  have hlead : (10 : ℚ) ^ (p - 1) ≤ |x| * 10 ^ ((p : ℤ) - 1 - L) := by
    have hle : (10 : ℚ) ^ L ≤ |x| := by
      simpa using Int.zpow_log_le_self (R := ℚ) (b := 10) (by norm_num) (abs_pos.mpr hx)
    calc (10 : ℚ) ^ (p - 1) = 10 ^ L * 10 ^ ((p : ℤ) - 1 - L) := by
          rw [← zpow_add₀ (by norm_num), ← zpow_natCast]
          congr 1
          omega
      _ ≤ |x| * 10 ^ ((p : ℤ) - 1 - L) := mul_le_mul_of_nonneg_right hle hpow.le
  have hround : (10 : ℚ) ^ (p - 1) ≤ |(roundHalfEven (x * 10 ^ ((p : ℤ) - 1 - L)) : ℚ)| := by
    rcases le_total 0 x with hx0 | hx0
    · rw [abs_of_nonneg hx0] at hlead
      have := le_roundHalfEven (n := 10 ^ (p - 1)) (by push_cast; exact hlead)
      exact le_trans (by exact_mod_cast this) (le_abs_self _)
    · rw [abs_of_nonpos hx0] at hlead
      have := roundHalfEven_le (n := -10 ^ (p - 1))
        (x := x * 10 ^ ((p : ℤ) - 1 - L)) (by push_cast; linarith)
      refine le_trans ?_ (neg_le_abs _)
      have hcast : (roundHalfEven (x * 10 ^ ((p : ℤ) - 1 - L)) : ℚ) ≤ -10 ^ (p - 1) := by
        exact_mod_cast this
      linarith
  unfold roundToPrecision
  rw [← hL, abs_div, abs_of_pos hpow, le_div_iff₀ hpow]
  refine le_trans (le_of_eq ?_) hround
  rw [← zpow_add₀ (by norm_num), ← zpow_natCast]
  congr 1
  omega

/-- If rounding gives a value of at most `p` digits with `s` places and the argument has `s`
places, then nothing was rounded off. -/
theorem eq_of_roundToPrecision_eq_scaled {p s : ℕ} (hp : 1 ≤ p) {a z : ℤ}
    (hz : z.natAbs < 10 ^ p) (h : roundToPrecision p (scaled s a) = scaled s z) : a = z := by
  by_cases ha : a.natAbs < 10 ^ p
  · rwa [roundToPrecision_scaled ha, scaled_inj] at h
  exfalso
  have ha0 : scaled s a ≠ 0 := by
    rw [ne_eq, scaled_eq_zero]
    rintro rfl
    simp at ha
  have habs : ∀ w : ℤ, |scaled s w| = (w.natAbs : ℚ) / 10 ^ s := fun w => by
    rw [scaled, abs_div, abs_of_pos (pow_pos_rat s), ← Int.cast_abs, Int.abs_eq_natAbs,
      Int.cast_natCast]
  have hbig : (10 : ℚ) ^ ((p : ℤ) - s) ≤ |scaled s a| := by
    rw [habs, zpow_sub₀ (by norm_num), zpow_natCast, zpow_natCast]
    exact div_le_div_of_nonneg_right (by exact_mod_cast not_lt.mp ha) (pow_pos_rat s).le
  have hsmall : |scaled s z| < (10 : ℚ) ^ ((p : ℤ) - s) := by
    rw [habs, zpow_sub₀ (by norm_num), zpow_natCast, zpow_natCast]
    exact div_lt_div_of_pos_right (by exact_mod_cast hz) (pow_pos_rat s)
  have hlog : (p : ℤ) - s ≤ Int.log 10 |scaled s a| :=
    (Int.zpow_le_iff_le_log (by norm_num) (abs_pos.mpr ha0)).mp (by simpa using hbig)
  have hlow := zpow_log_le_roundToPrecision hp ha0
  rw [h] at hlow
  have hpow : (10 : ℚ) ^ ((p : ℤ) - s) ≤ 10 ^ Int.log 10 |scaled s a| :=
    zpow_le_zpow_right₀ (by norm_num) hlog
  linarith

/-- The number of significant digits the program computes with. -/
def contextPrecision : ℕ := 28

/-- Addition, rounded to the context precision. -/
def add (x y : Decimal) : Decimal := roundToPrecision contextPrecision (x + y)

/-- Subtraction, rounded to the context precision. -/
def sub (x y : Decimal) : Decimal := roundToPrecision contextPrecision (x - y)

/-- Multiplication, rounded to the context precision. -/
def mul (x y : Decimal) : Decimal := roundToPrecision contextPrecision (x * y)

/-- Unary minus is an operation too, and rounds like one. -/
def neg (x : Decimal) : Decimal := roundToPrecision contextPrecision (-x)

section Context
variable {s : ℕ} {a b : ℤ}

theorem add_scaled (h : (a + b).natAbs < 10 ^ contextPrecision) :
    add (scaled s a) (scaled s b) = scaled s (a + b) := by
  rw [add, scaled_add_scaled, roundToPrecision_scaled h]

theorem sub_scaled (h : (a - b).natAbs < 10 ^ contextPrecision) :
    sub (scaled s a) (scaled s b) = scaled s (a - b) := by
  rw [sub, scaled_sub_scaled, roundToPrecision_scaled h]

/-- An integer multiple of a decimal keeps its places. -/
theorem intCast_mul_scaled (h : (a * b).natAbs < 10 ^ contextPrecision) :
    mul (a : ℚ) (scaled s b) = scaled s (a * b) := by
  have hmul : (a : ℚ) * scaled s b = scaled s (a * b) := by
    simp only [scaled, Int.cast_mul, mul_div_assoc]
  rw [mul, hmul, roundToPrecision_scaled h]

/-- A difference that comes out with few enough digits is exact. -/
theorem sub_scaled_eq {z : ℤ} (hz : z.natAbs < 10 ^ contextPrecision)
    (h : sub (scaled s a) (scaled s b) = scaled s z) : a - b = z := by
  rw [sub, scaled_sub_scaled] at h
  exact eq_of_roundToPrecision_eq_scaled (by decide) hz h

/-- A positive difference is positive before it is rounded. -/
theorem lt_of_sub_pos {x y : Decimal} (h : 0 < sub x y) : y < x := by
  by_contra hle
  exact absurd h (not_lt.mpr (roundToPrecision_nonpos (by linarith)))

theorem sub_nonneg_of_le {x y : Decimal} (h : y ≤ x) : 0 ≤ sub x y :=
  roundToPrecision_nonneg (sub_nonneg.mpr h)

theorem neg_scaled_eq (h : a.natAbs < 10 ^ contextPrecision) :
    neg (scaled s a) = scaled s (-a) := by
  rw [neg, neg_scaled, roundToPrecision_scaled (by omega)]

end Context

end Decimal

open Decimal

/-! ## Fixed-width columns -/

/-- A stored `NUMERIC(p, s)` value: its digits without the point, fewer than `p + 1` of them. -/
@[ext] structure Numeric (p s : ℕ) where
  unscaled : ℤ
  bound : unscaled.natAbs < 10 ^ p
  deriving DecidableEq

namespace Numeric

variable {p s : ℕ}

/-- The value a stored column is read back as. -/
def toDecimal (n : Numeric p s) : Decimal := scaled s n.unscaled

/-- The column default `0`. -/
def zero : Numeric p s := ⟨0, by positivity⟩

@[simp] theorem zero_unscaled : (zero : Numeric p s).unscaled = 0 := rfl

/-- Storing a value: round it to `s` places, ties away from zero; `none` is the database's
"numeric field overflow". -/
def store (p s : ℕ) (x : Decimal) : Option (Numeric p s) :=
  if h : (roundHalfAway (x * 10 ^ s)).natAbs < 10 ^ p then
    some ⟨roundHalfAway (x * 10 ^ s), h⟩
  else none

theorem store_eq_some {x : Decimal} {n : Numeric p s} :
    store p s x = some n ↔ n.unscaled = roundHalfAway (x * 10 ^ s) := by
  unfold store
  constructor
  · intro h
    split at h
    · simp only [Option.some.injEq] at h
      rw [← h]
    · simp at h
  · intro h
    have hb : (roundHalfAway (x * 10 ^ s)).natAbs < 10 ^ p := h ▸ n.bound
    rw [dif_pos hb, Option.some.injEq]
    exact Numeric.ext h.symm

/-- A value that already has at most `s` places is stored as it is. -/
theorem store_scaled {z : ℤ} {n : Numeric p s} :
    store p s (scaled s z) = some n ↔ n.unscaled = z := by
  rw [store_eq_some, scaled_mul_pow, roundHalfAway_intCast]

theorem store_scaled_of_lt {z : ℤ} (h : z.natAbs < 10 ^ p) :
    store p s (scaled s z) = some ⟨z, h⟩ := store_scaled.mpr rfl

@[simp] theorem store_toDecimal (n : Numeric p s) : store p s n.toDecimal = some n :=
  store_scaled.mpr rfl

theorem toDecimal_inj {m n : Numeric p s} : m.toDecimal = n.toDecimal ↔ m = n := by
  unfold toDecimal
  rw [scaled_inj, Numeric.ext_iff]

end Numeric

end Mpango
