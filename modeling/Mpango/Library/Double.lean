import Mpango.Library.Decimal

/-!
# Binary floating point

A quotient of integers is rounded to 53 binary digits, ties to even. Integers of at most that many
digits are not changed. Values too large or too small for the exponent do not occur here.
-/

namespace Mpango.Double

open Decimal (roundHalfEven)

/-- The nearest double. -/
def round (x : ℚ) : ℚ :=
  roundHalfEven (x * 2 ^ (52 - Int.log 2 |x|)) / 2 ^ (52 - Int.log 2 |x|)

/-- `int` of a double: towards zero. -/
def truncate (x : ℚ) : ℤ := if 0 ≤ x then ⌊x⌋ else ⌈x⌉

@[simp] theorem truncate_intCast (z : ℤ) : truncate (z : ℚ) = z := by
  simp [truncate]

/-- An integer of at most 53 binary digits is a double. -/
theorem round_intCast {z : ℤ} (hz : z.natAbs < 2 ^ 53) : round (z : ℚ) = z := by
  rcases eq_or_ne z 0 with rfl | hz0
  · simp [round, roundHalfEven]
  have hx : 0 < |(z : ℚ)| := abs_pos.mpr (by exact_mod_cast hz0)
  have hlt : |(z : ℚ)| < 2 ^ (53 : ℤ) := by
    rw [← Int.cast_abs, Int.abs_eq_natAbs]
    exact_mod_cast hz
  have hlog : Int.log 2 |(z : ℚ)| < 53 := by
    have hle : (2 : ℚ) ^ Int.log 2 |(z : ℚ)| ≤ |(z : ℚ)| := by
      simpa using Int.zpow_log_le_self (R := ℚ) (b := 2) (by norm_num) hx
    exact (zpow_lt_zpow_iff_right₀ (by norm_num : (1 : ℚ) < 2)).mp (hle.trans_lt hlt)
  obtain ⟨k, hk⟩ : ∃ k : ℕ, 52 - Int.log 2 |(z : ℚ)| = k :=
    ⟨(52 - Int.log 2 |(z : ℚ)|).toNat, by omega⟩
  have hint : (z : ℚ) * 2 ^ k = ((z * 2 ^ k : ℤ) : ℚ) := by push_cast; ring
  unfold round
  rw [hk, zpow_natCast, hint, Decimal.roundHalfEven_intCast, ← hint, mul_div_assoc,
    div_self (by positivity), mul_one]

end Mpango.Double
