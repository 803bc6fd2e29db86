import Mathlib.Data.Int.Log
import Mathlib.Data.Rat.Floor
import Mathlib.Tactic.Linarith
import Mathlib.Tactic.Ring

/-!
# Rounding to a binary floating-point format

The correctly rounded result of an operation is the nearest number of the format, the even one of
two that are equally near.  Here a format is its precision, the number of its significant bits;
numbers are positive and neither overflow nor underflow, so their exponents are not bounded.

`abs_round_sub_le` bounds the error of an operation, and `round_eq_natCast` says when an integer is
met exactly.
-/

namespace BinaryFloat

/-- The nearest integer, the even one of two that are equally near. -/
def roundHalfEven (x : ℚ) : ℤ :=
  if x - ⌊x⌋ < 1 / 2 then ⌊x⌋
  else if 1 / 2 < x - ⌊x⌋ then ⌊x⌋ + 1
  else if ⌊x⌋ % 2 = 0 then ⌊x⌋ else ⌊x⌋ + 1

lemma abs_roundHalfEven_sub_le (x : ℚ) : |(roundHalfEven x : ℚ) - x| ≤ 1 / 2 := by
  have hlow := Int.floor_le x
  have hhigh := Int.lt_floor_add_one x
  rw [roundHalfEven, abs_le]
  split_ifs with hbelow habove heven
  · constructor <;> linarith
  · push_cast
    constructor <;> linarith
  · constructor <;> linarith
  · push_cast
    constructor <;> linarith

/-- An integer that is nearer than a half is the nearest. -/
lemma roundHalfEven_eq {x : ℚ} {m : ℤ} (h : |(m : ℚ) - x| < 1 / 2) : roundHalfEven x = m := by
  have hround := abs_roundHalfEven_sub_le x
  have hclose : |((roundHalfEven x - m : ℤ) : ℚ)| < 1 := by
    push_cast
    rw [abs_lt] at h ⊢
    rw [abs_le] at hround
    constructor <;> linarith
  have hzero : |roundHalfEven x - m| < 1 := by exact_mod_cast hclose
  rw [Int.abs_lt_one_iff] at hzero
  omega

/-- The distance between neighbours of the format near a number. -/
def ulp (precision : ℕ) (x : ℚ) : ℚ := 2 ^ (Int.log 2 x + 1 - precision)

/-- The nearest number of the format. -/
def round (precision : ℕ) (x : ℚ) : ℚ := roundHalfEven (x / ulp precision x) * ulp precision x

variable {precision : ℕ} {x : ℚ}

lemma ulp_pos (precision : ℕ) (x : ℚ) : 0 < ulp precision x := zpow_pos two_pos _

lemma ulp_eq (precision : ℕ) (x : ℚ) : ulp precision x = 2 * 2 ^ Int.log 2 x / 2 ^ precision := by
  rw [ulp, zpow_sub₀ two_ne_zero, zpow_add₀ two_ne_zero, zpow_one, zpow_natCast]
  ring

/-- A number has its place among the powers of two. -/
lemma zpow_log_le (hx : 0 < x) : (2 : ℚ) ^ Int.log 2 x ≤ x ∧ x < 2 * 2 ^ Int.log 2 x := by
  refine ⟨by exact_mod_cast Int.zpow_log_le_self (by norm_num) hx, ?_⟩
  have hnext := Int.lt_zpow_succ_log_self (b := 2) (by norm_num) x
  rw [zpow_add₀ (by norm_num), zpow_one] at hnext
  push_cast at hnext
  linarith

/-- **The error of a rounded operation.** -/
lemma abs_round_sub_le (precision : ℕ) (hx : 0 < x) :
    |round precision x - x| ≤ x / 2 ^ precision := by
  have hpos := ulp_pos precision x
  have hround := abs_roundHalfEven_sub_le (x / ulp precision x)
  have hscaled : round precision x - x =
      (roundHalfEven (x / ulp precision x) - x / ulp precision x) * ulp precision x := by
    rw [round, sub_mul, div_mul_cancel₀ _ hpos.ne']
  have hulp : 1 / 2 * ulp precision x ≤ x / 2 ^ precision := by
    rw [ulp_eq, ← mul_div_assoc]
    apply div_le_div_of_nonneg_right _ (by positivity)
    linarith [(zpow_log_le hx).1]
  rw [hscaled, abs_mul, abs_of_pos hpos]
  exact (mul_le_mul_of_nonneg_right hround hpos.le).trans hulp

/-- **An integer is met** by a number that is nearer to it than half the distance of neighbours. -/
lemma round_eq_natCast {m : ℕ} (hx : 0 < x) (hsmall : x < 2 ^ precision)
    (hnear : |(m : ℚ) - x| < ulp precision x / 2) : round precision x = m := by
  have hpos := ulp_pos precision x
  -- the neighbours of a small number are at most one apart, so integers are numbers of the format
  obtain ⟨k, hk⟩ : ∃ k : ℕ, ulp precision x * 2 ^ k = 1 := by
    have hlog : Int.log 2 x < precision := by
      by_contra hlarge
      have hle : (2 : ℚ) ^ (precision : ℤ) ≤ 2 ^ Int.log 2 x :=
        zpow_le_zpow_right₀ (by norm_num) (not_lt.mp hlarge)
      rw [zpow_natCast] at hle
      exact absurd (hsmall.trans_le (hle.trans (zpow_log_le hx).1)) (lt_irrefl x)
    refine ⟨(precision - (Int.log 2 x + 1)).toNat, ?_⟩
    rw [ulp, ← zpow_natCast, ← zpow_add₀ two_ne_zero, Int.toNat_of_nonneg (by omega)]
    ring_nf
    simp
  have hexact : ((m * 2 ^ k : ℤ) : ℚ) * ulp precision x = m := by
    push_cast
    rw [mul_assoc, mul_comm _ (ulp precision x), hk, mul_one]
  have hdistance : |((m * 2 ^ k : ℤ) : ℚ) - x / ulp precision x| < 1 / 2 := by
    have hscaled : ((m * 2 ^ k : ℤ) : ℚ) - x / ulp precision x = (m - x) / ulp precision x := by
      rw [eq_div_iff hpos.ne', sub_mul, div_mul_cancel₀ _ hpos.ne', hexact]
    rw [hscaled, abs_div, abs_of_pos hpos, div_lt_iff₀ hpos]
    linarith
  rw [round, roundHalfEven_eq hdistance, hexact]

end BinaryFloat
