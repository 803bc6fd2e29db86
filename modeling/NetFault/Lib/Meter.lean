import Mathlib.Algebra.Order.Ring.Int
import Mathlib.Tactic.Linarith
import Mathlib.Tactic.Ring

/-!
# Credit with a ceiling

A meter holds a level of credit.  Time adds credit at a constant rate up to a ceiling, and
spending takes it away.  However the additions are spread over time, what is spent during a
window is at most the ceiling plus the income of the window.

`Meter.Accounts` is the invariant behind that bound, for a window that opens at `opening`:
before the first reading inside the window nothing has been spent in it, and from then on the
spending and the credit still held are covered by one full meter and the income since the
opening.  `Accounts.income` and `Accounts.spend` are its two rules.
-/

namespace Meter

/-- A meter's last reading time, its credit, and what was spent since the window opened. -/
structure Reading where
  time : ℤ
  level : ℤ
  spent : ℤ

/-- The account of a window that opens at `opening`. -/
structure Accounts (ceiling rate opening : ℤ) (r : Reading) : Prop where
  level_le : r.level ≤ ceiling
  before : r.time < opening → r.spent = 0
  after : opening ≤ r.time → r.spent + r.level ≤ ceiling + rate * (r.time - opening)

variable {ceiling rate opening : ℤ} {r : Reading}

/-- A meter read for the first time with nothing spent. -/
lemma accounts_start (opening time : ℤ) {level : ℤ} (hrate : 0 ≤ rate) (hlevel : level ≤ ceiling) :
    Accounts ceiling rate opening ⟨time, level, 0⟩ := by
  refine ⟨hlevel, fun _ => rfl, fun hopen => ?_⟩
  have := mul_nonneg hrate (sub_nonneg.mpr hopen)
  dsimp only at *
  linarith

/-- Reading the meter later adds at most the income of the time between, up to the ceiling. -/
lemma Accounts.income (h : Accounts ceiling rate opening r) {time level : ℤ} (hrate : 0 ≤ rate)
    (htime : r.time ≤ time) (hceil : level ≤ ceiling)
    (hincome : level ≤ r.level + rate * (time - r.time)) :
    Accounts ceiling rate opening ⟨time, level, r.spent⟩ := by
  refine ⟨hceil, fun hlt => h.before (htime.trans_lt hlt), fun hopen => ?_⟩
  dsimp only at hopen ⊢
  by_cases hbefore : r.time < opening
  · -- the window opened since the last reading: at most one full meter is held
    have := mul_nonneg hrate (sub_nonneg.mpr hopen)
    rw [h.before hbefore]
    linarith
  · have hacc := h.after (not_lt.mp hbefore)
    have hsplit : rate * (time - r.time) + rate * (r.time - opening) = rate * (time - opening) := by
      ring
    linarith

/-- Spending moves credit into the account of the window. -/
lemma Accounts.spend (h : Accounts ceiling rate opening r) {amount : ℤ} (hamount : 0 ≤ amount)
    (hopen : opening ≤ r.time) :
    Accounts ceiling rate opening ⟨r.time, r.level - amount, r.spent + amount⟩ := by
  refine ⟨by have := h.level_le; dsimp only; linarith,
    fun hlt => absurd hlt (not_lt.mpr hopen), fun _ => ?_⟩
  have hacc := h.after hopen
  dsimp only
  linarith

/-- Spending before the window opens is not counted in it. -/
lemma Accounts.spend_before (h : Accounts ceiling rate opening r) {amount : ℤ}
    (hamount : 0 ≤ amount) :
    Accounts ceiling rate opening ⟨r.time, r.level - amount, r.spent⟩ := by
  refine ⟨by have := h.level_le; dsimp only; linarith, h.before, fun hopen => ?_⟩
  have hacc := h.after hopen
  dsimp only
  linarith

/-- **The window bound.** -/
lemma Accounts.spent_le (h : Accounts ceiling rate opening r) (close : ℤ) (hceil : 0 ≤ ceiling)
    (hrate : 0 ≤ rate) (hlevel : 0 ≤ r.level) (hwin : opening ≤ close) (htime : r.time ≤ close) :
    r.spent ≤ ceiling + rate * (close - opening) := by
  by_cases hbefore : r.time < opening
  · have := mul_nonneg hrate (sub_nonneg.mpr hwin)
    rw [h.before hbefore]
    linarith
  · have hacc := h.after (not_lt.mp hbefore)
    have hmono : rate * (r.time - opening) ≤ rate * (close - opening) :=
      mul_le_mul_of_nonneg_left (by linarith) hrate
    linarith

end Meter
