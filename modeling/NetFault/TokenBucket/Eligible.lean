import NetFault.TokenBucket.Exact
import Mathlib.Algebra.Order.Floor.Div

/-!
# When `eligible_at` is the earliest time

`refill` keeps the progress towards the next byte in `carry_product_`; `eligible_at` computes its
wait from the missing whole tokens alone and does not count that progress.  The two therefore
agree only where the carry is too small to save a nanosecond (`dueTime_eq_iff`), and otherwise the
reported time is late.  A wait from `2 ^ 63` nanoseconds on, which only one byte per second can
produce, becomes a negative duration, and the reported time lies in the past.

`credit` is the level the bucket reaches by `now`, computed from the state before the call, and
`dueTime` the exact time still to go.
-/

namespace NetFault

namespace TokenBucket

variable (b : TokenBucket)

/-- The credit at `now`, in billionths of a byte: the level grown by the income and capped. -/
def credit (now : ℤ) : ℕ :=
  min (b.burst * nsPerSecond) (b.level + b.rate * (now - b.lastRefill).toNat)

/-- The whole tokens still missing at `now` for `min bytes burst`. -/
def missingTokens (bytes : ℕ) (now : ℤ) : ℕ :=
  min bytes b.burst - b.credit now / nsPerSecond

/-- Nanoseconds from `now` until `min bytes burst` tokens exist, the carry counted. -/
def dueTime (bytes : ℕ) (now : ℤ) : ℕ :=
  (min bytes b.burst * nsPerSecond - b.credit now) ⌈/⌉ b.rate

/-- The states and arguments for which `eligible_at` is the earliest time.  Either the tokens
exist already.  Or the wait for the missing whole tokens is a duration and the carry saves no
nanosecond of it; a carry that does save one goes unnoticed only if the clock ends before the
tokens exist. -/
def EligibleOnTime (bytes : ℕ) (now : ℤ) : Prop :=
  min bytes b.burst * nsPerSecond ≤ b.credit now ∨
    ((b.missingTokens bytes now * nsPerSecond) ⌈/⌉ b.rate < 2 ^ 63 ∧
      (b.credit now % nsPerSecond ≤ (b.missingTokens bytes now * nsPerSecond - 1) % b.rate ∨
        2 ^ 63 ≤ now + b.dueTime bytes now))

instance (bytes : ℕ) (now : ℤ) : Decidable (b.EligibleOnTime bytes now) :=
  inferInstanceAs (Decidable (_ ∨ _ ∧ (_ ∨ _)))

variable {b}

/-! ## Rounding a wait up -/

/-- The rounded-up quotient of a positive dividend. -/
lemma ceilDiv_eq_succ {need rate : ℕ} (hneed : 0 < need) (hrate : 0 < rate) :
    need ⌈/⌉ rate = (need - 1) / rate + 1 := by
  have hsplit : need + rate - 1 = (need - 1) + rate := by omega
  rw [Nat.ceilDiv_eq_add_pred_div, hsplit, Nat.add_div_right _ hrate]

/-- A head start saves no nanosecond exactly if it stays within the last one. -/
lemma sub_div_eq_iff {total saved rate : ℕ} (hrate : 0 < rate) (hsaved : saved ≤ total) :
    (total - saved) / rate = total / rate ↔ saved ≤ total % rate := by
  have htotal := Nat.div_add_mod total rate
  constructor
  · intro heq
    have hrest := Nat.div_add_mod (total - saved) rate
    rw [heq] at hrest
    omega
  · intro hle
    have hmod := Nat.mod_lt total hrate
    refine Nat.div_eq_of_lt_le ?_ ?_
    · rw [Nat.mul_comm]
      omega
    · rw [Nat.succ_mul, Nat.mul_comm]
      omega

/-- Two waits that are not the same are told apart by the instant the shorter one ends, unless the
clock ends first. -/
lemma waits_agree_iff {due wait : ℕ} {now limit : ℤ} (hle : due ≤ wait) :
    (∀ t, now ≤ t → t < limit → (now + due ≤ t ↔ now + wait ≤ t)) ↔
      due = wait ∨ limit ≤ now + due := by
  constructor
  · intro hall
    by_contra hlate
    rw [not_or, not_le] at hlate
    have hat := (hall (now + due) (by omega) hlate.2).1 le_rfl
    omega
  · rintro (rfl | hend) t hnow hlt
    · rfl
    · exact iff_of_false (by omega) (by omega)

/-! ## The exact wait -/

section Due

variable {bytes : ℕ} {now : ℤ}

/-- Whole tokens and carry together are the credit. -/
lemma missingTokens_mul (hshort : b.credit now < min bytes b.burst * nsPerSecond) :
    0 < b.missingTokens bytes now ∧
      b.missingTokens bytes now * nsPerSecond =
        min bytes b.burst * nsPerSecond - b.credit now + b.credit now % nsPerSecond := by
  have hdiv := Nat.div_add_mod' (b.credit now) nsPerSecond
  have hlt : b.credit now / nsPerSecond < min bytes b.burst :=
    (Nat.div_lt_iff_lt_mul nsPerSecond_pos).2 hshort
  refine ⟨Nat.sub_pos_of_lt hlt, ?_⟩
  rw [missingTokens, Nat.sub_mul]
  omega

/-- The wait without the carry is never shorter than the exact one. -/
lemma dueTime_le (hrate : 0 < b.rate)
    (hshort : b.credit now < min bytes b.burst * nsPerSecond) :
    b.dueTime bytes now ≤ (b.missingTokens bytes now * nsPerSecond) ⌈/⌉ b.rate := by
  have hmul := (missingTokens_mul hshort).2
  unfold dueTime
  rw [ceilDiv_le_iff_le_mul hrate]
  have hcover := (ceilDiv_le_iff_le_mul hrate).1
    (le_refl ((b.missingTokens bytes now * nsPerSecond) ⌈/⌉ b.rate))
  omega

/-- It is the exact one exactly if the carry saves no nanosecond. -/
lemma dueTime_eq_iff (hrate : 0 < b.rate)
    (hshort : b.credit now < min bytes b.burst * nsPerSecond) :
    b.dueTime bytes now = (b.missingTokens bytes now * nsPerSecond) ⌈/⌉ b.rate ↔
      b.credit now % nsPerSecond ≤ (b.missingTokens bytes now * nsPerSecond - 1) % b.rate := by
  obtain ⟨hpos, hmul⟩ := missingTokens_mul hshort
  have hneed : 0 < b.missingTokens bytes now * nsPerSecond := Nat.mul_pos hpos nsPerSecond_pos
  have hdue : min bytes b.burst * nsPerSecond - b.credit now - 1 =
      b.missingTokens bytes now * nsPerSecond - 1 - b.credit now % nsPerSecond := by omega
  rw [← sub_div_eq_iff hrate (by omega), ← hdue, dueTime,
    ceilDiv_eq_succ (Nat.sub_pos_of_lt hshort) hrate, ceilDiv_eq_succ hneed hrate,
    Nat.add_right_cancel_iff]

lemma credit_mono (b : TokenBucket) {t : ℤ} (hnow : now ≤ t) : b.credit now ≤ b.credit t := by
  have helapsed : (now - b.lastRefill).toNat ≤ (t - b.lastRefill).toNat :=
    Int.toNat_le_toNat (sub_le_sub_right hnow _)
  exact min_le_min_left _ (Nat.add_le_add_left (Nat.mul_le_mul_left b.rate helapsed) b.level)

/-- Tokens exist once the credit covers them. -/
lemma Sound.le_tokens_iff (hs : b.Sound) {bytes : ℕ} :
    bytes ≤ b.tokens ↔ bytes * nsPerSecond ≤ b.level := by
  rw [← hs.level_div, Nat.le_div_iff_mul_le nsPerSecond_pos]

/-- A short bucket is not full, so its credit still grows with the time. -/
lemma le_credit_iff (hrate : 0 < b.rate) (hlast : b.lastRefill ≤ now)
    (hshort : b.credit now < min bytes b.burst * nsPerSecond) {t : ℤ} (hnow : now ≤ t) :
    min bytes b.burst * nsPerSecond ≤ b.credit t ↔ now + b.dueTime bytes now ≤ t := by
  have hcap : min bytes b.burst * nsPerSecond ≤ b.burst * nsPerSecond :=
    Nat.mul_le_mul_right _ (min_le_right _ _)
  have hcredit : b.credit now = b.level + b.rate * (now - b.lastRefill).toNat := by
    unfold credit at hshort ⊢
    omega
  have htime : (t - b.lastRefill).toNat = (now - b.lastRefill).toNat + (t - now).toNat := by omega
  have hdue := ceilDiv_le_iff_le_mul hrate
    (b := min bytes b.burst * nsPerSecond - b.credit now) (c := (t - now).toNat)
  calc min bytes b.burst * nsPerSecond ≤ b.credit t
      ↔ min bytes b.burst * nsPerSecond ≤ b.credit now + b.rate * (t - now).toNat := by
        rw [credit, le_min_iff, and_iff_right hcap, htime, Nat.mul_add, ← Nat.add_assoc, hcredit]
    _ ↔ min bytes b.burst * nsPerSecond - b.credit now ≤ b.rate * (t - now).toNat := by omega
    _ ↔ b.dueTime bytes now ≤ (t - now).toNat := hdue.symm
    _ ↔ now + b.dueTime bytes now ≤ t := by omega

end Due

/-! ## What the call reports -/

section Reached

variable {rate burst bytes : ℕ} {start now : ℤ}

lemma Tracks.level_eq_credit (h : Tracks rate burst start b) (hfits : Fits rate burst)
    (hrate : rate ≤ nsPerSecond) (hclock : now - start < 2 ^ 64) :
    (b.refill now).level = b.credit now := by
  rw [h.refill_level hfits hrate hclock, credit, h.rate_eq, h.burst_eq]

/-- What a later `available` answers depends on the credit alone. -/
lemma Tracks.le_available_iff (h : Tracks rate burst start b) (hfits : Fits rate burst)
    (hrate : rate ≤ nsPerSecond) {t : ℤ} (hnow : now ≤ t) (hclock : t - start < 2 ^ 64) :
    min bytes burst ≤ ((b.eligibleAt bytes now).2.available t).1 ↔
      min bytes b.burst * nsPerSecond ≤ b.credit t := by
  rw [eligibleAt_snd, available, h.refill_refill_of_le hfits hrate hnow hclock,
    (h.refill hfits hclock).sound.le_tokens_iff, h.level_eq_credit hfits hrate hclock, h.burst_eq]

lemma Tracks.missingTokens_le (h : Tracks rate burst start b) (bytes : ℕ) (now : ℤ) :
    b.missingTokens bytes now ≤ burst :=
  (Nat.sub_le _ _).trans ((min_le_right _ _).trans h.burst_eq.le)

/-- The computed wait does not wrap. -/
lemma Tracks.wait_lt (h : Tracks rate burst start b) (hfits : Fits rate burst)
    (hrate : rate ≤ nsPerSecond) (bytes : ℕ) (now : ℤ) :
    (b.missingTokens bytes now * nsPerSecond) ⌈/⌉ b.rate < 2 ^ 64 := by
  have hterm := h.earnTerm_lt hfits hrate (h.missingTokens_le bytes now)
  rw [Nat.ceilDiv_eq_add_pred_div]
  exact (Nat.div_le_self _ _).trans_lt hterm

/-- The reported time, from the state before the call. -/
lemma Tracks.eligibleAt_fst (h : Tracks rate burst start b) (hfits : Fits rate burst)
    (hrate : rate ≤ nsPerSecond) (bytes : ℕ) (hclock : now - start < 2 ^ 64) :
    (b.eligibleAt bytes now).1 =
      if min bytes b.burst * nsPerSecond ≤ b.credit now then now
      else now + i64 ((b.missingTokens bytes now * nsPerSecond) ⌈/⌉ b.rate : ℕ) := by
  have hafter := h.refill hfits hclock
  have hlevel := h.level_eq_credit hfits hrate hclock
  have hmissing : min bytes (b.refill now).burst - (b.refill now).tokens =
      b.missingTokens bytes now := by
    rw [missingTokens, ← hafter.sound.level_div, hlevel, refill_burst]
  have hwait : (b.refill now).earnTime (b.missingTokens bytes now) =
      (b.missingTokens bytes now * nsPerSecond) ⌈/⌉ b.rate := by
    have hterm := hafter.earnTerm_lt hfits hrate (h.missingTokens_le bytes now)
    unfold earnTerm at hterm
    rw [earnTime, u64_of_lt hterm, refill_rate, Nat.ceilDiv_eq_add_pred_div]
  have htarget : min bytes (b.refill now).burst ≤ (b.refill now).tokens ↔
      min bytes b.burst * nsPerSecond ≤ b.credit now := by
    rw [hafter.sound.le_tokens_iff, hlevel, refill_burst]
  simp only [eligibleAt, htarget, hmissing, hwait]
  split_ifs <;> rfl

/-- A wait that is no duration is reported as a time before `now`. -/
lemma i64_wait_neg {wait : ℕ} (hlong : 2 ^ 63 ≤ wait) (hfit : wait < 2 ^ 64) :
    i64 (wait : ℤ) < 0 := by
  have hlong' : (2 ^ 63 : ℤ) ≤ wait := by exact_mod_cast hlong
  have hfit' : (wait : ℤ) < 2 ^ 64 := by exact_mod_cast hfit
  unfold i64
  rw [Int.bmod_def]
  norm_num at hlong' hfit' ⊢
  omega

/-- **When `eligible_at` is the earliest time.**  Take any rate up to 10⁹, any burst up to
18 · 10⁹, a bucket reached by any calls, and any request made at or after its last refill.  That
`min bytes burst` tokens exist from the reported time on and not before holds exactly if the
tokens are there already, or the wait is a duration and the carry does not shorten it (or shortens
it only beyond the end of the clock). -/
theorem eligibleAt_earliest_iff {calls : List Call} (hrate : 1 ≤ rate ∧ rate ≤ 1000000000)
    (hburst : 1 ≤ burst ∧ burst ≤ 18000000000)
    (hint : ∀ t ∈ start :: calls.filterMap Call.time?, IsInt64 t)
    (hrun : run rate burst start calls = .ok b) (bytes : ℕ) (hlast : b.lastRefill ≤ now)
    (hnow : now < 2 ^ 63) :
    (∀ t, now ≤ t → t < 2 ^ 63 →
        (min bytes burst ≤ ((b.eligibleAt bytes now).2.available t).1 ↔
          (b.eligibleAt bytes now).1 ≤ t)) ↔
      b.EligibleOnTime bytes now := by
  have hfits : Fits rate burst := fits_of_le hrate.2 hburst.2
  have htrack := tracks_run hrate.1 hburst.1 hfits hint hrun
  have hpos : 0 < b.rate := htrack.sound.rate_pos
  have hclock : ∀ t, t < 2 ^ 63 → t - start < 2 ^ 64 := by
    intro t ht
    have hstart := (hint start (List.mem_cons_self ..)).1
    omega
  have havail : ∀ t, now ≤ t → t < 2 ^ 63 →
      (min bytes burst ≤ ((b.eligibleAt bytes now).2.available t).1 ↔
        min bytes b.burst * nsPerSecond ≤ b.credit t) := fun t hle hlt =>
    htrack.le_available_iff hfits hrate.2 hle (hclock t hlt)
  have htime := htrack.eligibleAt_fst hfits hrate.2 bytes (hclock now hnow)
  by_cases hready : min bytes b.burst * nsPerSecond ≤ b.credit now
  · -- the tokens exist already
    rw [if_pos hready] at htime
    refine iff_of_true (fun t hle hlt => ?_) (Or.inl hready)
    rw [htime, havail t hle hlt]
    exact iff_of_true (hready.trans (b.credit_mono hle)) hle
  rw [if_neg hready] at htime
  have hshort := not_le.mp hready
  have hduele := dueTime_le hpos hshort
  have hdueeq := dueTime_eq_iff hpos hshort
  have hfit := htrack.wait_lt hfits hrate.2 bytes now
  unfold EligibleOnTime
  rw [or_iff_right hready]
  generalize (b.missingTokens bytes now * nsPerSecond) ⌈/⌉ b.rate = wait at *
  by_cases hlong : 2 ^ 63 ≤ wait
  · -- the wait wraps: the reported time has passed, the tokens are missing
    refine iff_of_false (fun hall => ?_) (fun hcond => absurd hcond.1 (not_lt.mpr hlong))
    have hneg := i64_wait_neg hlong hfit
    have hnone := (hall now le_rfl hnow).2 (by rw [htime]; linarith)
    exact hready ((havail now le_rfl hnow).1 hnone)
  · -- the tokens exist from `dueTime` on, the call reports `wait`
    have hlt := not_le.mp hlong
    have hi64 : i64 (wait : ℤ) = wait := i64_of_abs_lt (by omega) (by exact_mod_cast hlt)
    rw [hi64] at htime
    rw [and_iff_right hlt, ← hdueeq, ← waits_agree_iff hduele]
    apply forall₃_congr
    intro t hle hend
    rw [havail t hle hend, le_credit_iff hpos hlast hshort hle, htime]

/-- A drained bucket asked at once has no carry, and its answer is exact. -/
theorem eligibleAt_earliest_drained :
    run 1000 2000 0 [.consume 2000] = .ok ⟨1000, 2000, 0, 0, 0⟩ ∧
      ∀ t : ℤ, 0 ≤ t → t < 2 ^ 63 →
        (min 500 2000 ≤
            (((⟨1000, 2000, 0, 0, 0⟩ : TokenBucket).eligibleAt 500 0).2.available t).1 ↔
          ((⟨1000, 2000, 0, 0, 0⟩ : TokenBucket).eligibleAt 500 0).1 ≤ t) := by
  have hrun : run 1000 2000 0 [.consume 2000] = .ok ⟨1000, 2000, 0, 0, 0⟩ := by decide
  refine ⟨hrun, ?_⟩
  exact (eligibleAt_earliest_iff (by decide) (by decide) (by decide) hrun 500 (by decide)
    (by decide)).2 (by decide)

/-- Three bytes a second, drained and asked a third of a second later: the bucket is one billionth
short of a byte, which the next nanosecond brings, while `eligible_at` reports a third of a second
more. -/
theorem eligibleAt_late :
    run 3 5 0 [.consume 5, .available 333333333] = .ok ⟨3, 5, 0, 333333333, 999999999⟩ ∧
      ((⟨3, 5, 0, 333333333, 999999999⟩ : TokenBucket).eligibleAt 1 333333333).1 = 666666667 ∧
      ¬∀ t : ℤ, 333333333 ≤ t → t < 2 ^ 63 →
        (min 1 5 ≤
            (((⟨3, 5, 0, 333333333, 999999999⟩ : TokenBucket).eligibleAt 1 333333333).2.available
              t).1 ↔
          ((⟨3, 5, 0, 333333333, 999999999⟩ : TokenBucket).eligibleAt 1 333333333).1 ≤ t) := by
  refine ⟨by decide, by decide, fun hall => ?_⟩
  have hnext := (hall 333333334 (by decide) (by decide)).1 (by decide)
  exact absurd hnext (by decide)

end Reached

end TokenBucket

end NetFault
