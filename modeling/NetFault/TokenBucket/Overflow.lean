import NetFault.FaultPlan
import NetFault.TokenBucket.Exact
import Mathlib.Data.Int.GCD

/-!
# Which validated plans overflow the token bucket

`FaultPlan::validate` bounds the rate but not the burst, so an accepted plan can make the products
of the bucket exceed 64 bits.  `Fits` is the exact bound: below it nothing wraps
(`Tracks.terms_lt`), and beyond it some calls in clock order do.  The second half is proved with
two sequences: emptying the bucket at once, which reaches the fill time, and emptying it, letting
it earn up to the largest carry, emptying it again and asking at the last instant before the
long-idle branch, which reaches the product.
-/

namespace NetFault

namespace TokenBucket

/-- No expression of a bucket of this rate and burst wraps, whatever it is asked in clock order. -/
def Wrapless (rate burst : ℕ) : Prop :=
  ∀ (start : ℤ) (calls : List Call) (call : Call) (b : TokenBucket),
    Clocked start (calls ++ [call]) → run rate burst start calls = .ok b →
      ∀ v ∈ call.terms b, v < 2 ^ 64

variable {rate burst : ℕ}

lemma Clocked.of_append {start : ℤ} {calls rest : List Call}
    (h : Clocked start (calls ++ rest)) : Clocked start calls := by
  obtain ⟨hsorted, hint⟩ := h
  rw [List.filterMap_append] at hsorted hint
  refine ⟨(List.pairwise_append.1 hsorted).1, fun t ht => hint t ?_⟩
  rw [← List.cons_append]
  exact List.mem_append_left _ ht

lemma Fits.wrapless (hfits : Fits rate burst) (hpos : 0 < rate) (hburst : 0 < burst)
    (hrate : rate ≤ nsPerSecond) : Wrapless rate burst := by
  intro start calls call b hclock hrun
  have htrack := tracks_run hpos hburst hfits hclock.of_append.int64 hrun
  refine htrack.terms_lt hfits hrate fun t ht => ?_
  have hmem : t ∈ (calls ++ [call]).filterMap Call.time? :=
    List.mem_filterMap.2 ⟨call, List.mem_append_right _ (List.mem_singleton_self _), ht⟩
  have hstart := hclock.int64 start (List.mem_cons_self ..)
  have hnow := hclock.int64 t (List.mem_cons_of_mem _ hmem)
  omega

/-! ## The calls that wrap -/

/-- The first reading of the clock's type. -/
def clockMin : ℤ := -(2 ^ 63)

/-- A bucket without tokens. -/
def drained (rate burst : ℕ) (last : ℤ) (carry : ℕ) : TokenBucket :=
  ⟨rate, burst, 0, last, carry⟩

lemma run_drain (hpos : 0 < rate) (hburst : 0 < burst) :
    run rate burst clockMin [.consume burst] = .ok (drained rate burst clockMin 0) := by
  simp [run, create, execAll, Call.exec, consume, drained, hpos.ne', hburst.ne',
    bind, Except.bind]

lemma fillTerms_mem {b : TokenBucket} {now : ℤ} (hpast : ¬now ≤ b.lastRefill) :
    b.earnTerm (b.burst - b.tokens) ∈ b.refillTerms now ∧ b.longIdleTerm ∈ b.refillTerms now := by
  rw [refillTerms, if_neg hpast]
  split_ifs <;> simp

lemma productTerm_mem {b : TokenBucket} {now : ℤ} (hpast : ¬now ≤ b.lastRefill)
    (hslow : ¬u64 b.longIdleTerm ≤ b.elapsedNs now) : b.productTerm now ∈ b.refillTerms now := by
  rw [refillTerms, if_neg hpast, if_neg hslow]
  simp

lemma drained_longIdleTerm {last : ℤ} {carry : ℕ}
    (hearn : burst * nsPerSecond + rate - 1 < 2 ^ 64) :
    (drained rate burst last carry).longIdleTerm =
      fillTime rate burst + nsPerSecond / rate + 1 := by
  simp only [longIdleTerm, drained, earnTime, fillTime, Nat.sub_zero, u64_of_lt hearn]

/-- The terms of the first refill of a drained bucket bound the burst. -/
lemma Wrapless.drained_lt (hw : Wrapless rate burst) (hpos : 0 < rate) (hburst : 0 < burst) :
    burst * nsPerSecond + rate - 1 < 2 ^ 64 ∧
      fillTime rate burst + nsPerSecond / rate + 1 < 2 ^ 64 := by
  have hclock : Clocked clockMin ([.consume burst] ++ [.available (clockMin + 1)]) := by
    refine ⟨List.pairwise_singleton _ _, ?_⟩
    change ∀ t ∈ [clockMin, clockMin + 1], _
    decide
  have hterms := hw _ _ _ _ hclock (run_drain hpos hburst)
  have hpast : ¬clockMin + 1 ≤ (drained rate burst clockMin 0).lastRefill := by
    change ¬clockMin + 1 ≤ clockMin
    decide
  obtain ⟨hearn, hidle⟩ := fillTerms_mem hpast
  have hfit : burst * nsPerSecond + rate - 1 < 2 ^ 64 := hterms _ hearn
  exact ⟨hfit, drained_longIdleTerm hfit ▸ hterms _ hidle⟩

/-- A time that earns whole tokens and the largest carry the rate allows. -/
lemma exists_largest_carry (hpos : 0 < rate) :
    ∃ e : ℕ, 0 < e ∧ e ≤ nsPerSecond ∧
      e * rate % nsPerSecond = nsPerSecond - rate.gcd nsPerSecond := by
  have hgcd : 0 < rate.gcd nsPerSecond := Nat.gcd_pos_of_pos_left _ hpos
  have hle : rate.gcd nsPerSecond ≤ nsPerSecond :=
    Nat.le_of_dvd nsPerSecond_pos (Nat.gcd_dvd_right _ _)
  by_cases hfull : rate.gcd nsPerSecond = nsPerSecond
  · refine ⟨nsPerSecond, nsPerSecond_pos, le_rfl, ?_⟩
    rw [hfull, Nat.sub_self, Nat.mul_mod_right]
  · obtain ⟨m, hm, hmod⟩ := Nat.exists_mul_mod_eq_gcd (lt_of_le_of_ne hle hfull)
    have hsplit : (nsPerSecond - m) * rate + rate * m = rate * nsPerSecond := by
      rw [Nat.mul_comm rate m, ← Nat.add_mul, Nat.sub_add_cancel hm.le, Nat.mul_comm]
    refine ⟨nsPerSecond - m, Nat.sub_pos_of_lt hm, Nat.sub_le _ _, ?_⟩
    simp only [nsPerSecond] at hsplit hmod hgcd hle hfull ⊢
    omega

/-- Emptied, refilled for `e`, and emptied again, the bucket keeps the carry earned. -/
lemma Wrapless.run_carry (hw : Wrapless rate burst) (hpos : 0 < rate) (hburst : rate < burst)
    {e : ℕ} (he : 0 < e) (hle : e ≤ nsPerSecond) :
    run rate burst clockMin [.consume burst, .available (clockMin + e),
        .consume (e * rate / nsPerSecond)] =
      .ok (drained rate burst (clockMin + e) (e * rate % nsPerSecond)) := by
  have hclock : Clocked clockMin ([.consume burst] ++ [.available (clockMin + e)]) := by
    refine ⟨List.pairwise_singleton _ _, ?_⟩
    change ∀ t ∈ [clockMin, clockMin + (e : ℤ)], _
    simp only [nsPerSecond] at hle
    simp [clockMin]
    omega
  have hterms := hw _ _ _ _ hclock (run_drain hpos (by omega))
  have hsound : (drained rate burst clockMin 0).Sound :=
    ⟨hpos, by simp only [drained]; omega, Nat.zero_le _, nsPerSecond_pos, fun _ => rfl⟩
  have hearned : e * rate / nsPerSecond < burst := by
    have hmul : e * rate ≤ rate * nsPerSecond := by
      rw [Nat.mul_comm e]
      exact Nat.mul_le_mul_left rate hle
    exact (Nat.div_le_of_le_mul (by rwa [Nat.mul_comm nsPerSecond])).trans_lt hburst
  have hrefill : (drained rate burst clockMin 0).refill (clockMin + e) =
      ⟨rate, burst, e * rate / nsPerSecond, clockMin + e, e * rate % nsPerSecond⟩ := by
    have hpast : ¬clockMin + (e : ℤ) ≤ clockMin := by omega
    have helapsed : (clockMin + (e : ℤ) - clockMin).toNat = e := by omega
    rw [refill_eq_refillExact hsound ?_ hterms]
    · simp only [refillExact, drained, if_neg hpast, helapsed, Nat.add_zero, Nat.zero_add,
        min_eq_left hearned.le, if_neg hearned.ne]
    · simp only [drained]
      simp only [nsPerSecond] at hle
      omega
  simp only [run, create, hpos.ne', (show burst ≠ 0 by omega), or_self, if_false, execAll,
    Call.exec, consume, available, bind, Except.bind, lt_irrefl, Nat.sub_self]
  rw [show (⟨rate, burst, 0, clockMin, 0⟩ : TokenBucket) = drained rate burst clockMin 0 from rfl,
    hrefill]
  simp [drained]

/-- Beyond the bound some calls wrap. -/
lemma Wrapless.fits (hw : Wrapless rate burst) (hpos : 0 < rate) (hburst : 0 < burst)
    (hrate : rate ≤ nsPerSecond) : Fits rate burst := by
  obtain ⟨hearn, hidle⟩ := hw.drained_lt hpos hburst
  unfold Fits
  split_ifs with hone
  · subst hone
    simp only [fillTime, nsPerSecond, Nat.div_one] at hidle
    omega
  by_contra hover
  have hfill := fillTime_mul_le rate burst
  have hquot := Nat.div_mul_le_self nsPerSecond rate
  have htwo := Nat.mul_le_mul_left (fillTime rate burst) (show 2 ≤ rate by omega)
  have hlarge : rate < burst := by
    rw [Nat.add_mul] at hover
    simp only [nsPerSecond] at hover hrate hfill hquot
    omega
  obtain ⟨e, he, hle, hcarry⟩ := exists_largest_carry hpos
  have hrun := hw.run_carry hpos hlarge he hle
  rw [hcarry] at hrun
  -- the last instant before the long-idle branch
  obtain ⟨wait, hwait⟩ : ∃ wait, wait = fillTime rate burst + nsPerSecond / rate := ⟨_, rfl⟩
  have hquotient : 0 < nsPerSecond / rate ∧ nsPerSecond / rate ≤ nsPerSecond :=
    ⟨Nat.div_pos hrate hpos, Nat.div_le_self _ _⟩
  have hrange : 0 < wait ∧ e + wait < 2 ^ 64 := by
    simp only [nsPerSecond] at hquotient hearn hfill hrate hle hwait
    omega
  have hclock : Clocked clockMin ([.consume burst, .available (clockMin + e),
      .consume (e * rate / nsPerSecond)] ++ [.available (clockMin + e + wait)]) := by
    constructor
    · change [clockMin + (e : ℤ), clockMin + e + wait].Pairwise (· ≤ ·)
      simp
    · change ∀ t ∈ [clockMin, clockMin + (e : ℤ), clockMin + e + wait], _
      simp [clockMin]
      omega
  have hterms := hw _ _ _ _ hclock hrun
  have helapsed : (drained rate burst (clockMin + e) (nsPerSecond - rate.gcd nsPerSecond)).elapsedNs
      (clockMin + e + wait) = wait := by
    unfold elapsedNs drained
    rw [show clockMin + (e : ℤ) + wait - (clockMin + e) = wait by omega, Int.toNat_natCast,
      u64_of_lt (by omega)]
  have hpast : ¬clockMin + (e : ℤ) + wait ≤ clockMin + e := by omega
  have hproduct := hterms _ (productTerm_mem hpast ?_)
  · rw [productTerm, helapsed, hwait] at hproduct
    exact hover hproduct
  · rw [drained_longIdleTerm hearn, helapsed, u64_of_lt hidle, hwait]
    exact Nat.not_succ_le_self _

/-- **Which accepted plans cannot overflow the bucket.**  For an accepted plan with a rate, no
64-bit expression of the bucket wraps in any calls in clock order exactly when rate and effective
burst satisfy `Fits`, which `validate` does not check. -/
theorem wrapless_iff_fits (plan : FaultPlan) (hvalid : plan.validate = .ok ())
    (hrate : 0 < plan.rateBytesPerSecond) :
    Wrapless plan.rateBytesPerSecond plan.effectiveBurstBytes ↔
      Fits plan.rateBytesPerSecond plan.effectiveBurstBytes := by
  have hburst := plan.effectiveBurstBytes_pos hrate
  have hlimit : plan.rateBytesPerSecond ≤ nsPerSecond := (plan.validate_spec hvalid).2.2
  constructor
  · intro hw
    exact hw.fits hrate hburst hlimit
  · intro hfits
    exact hfits.wrapless hrate hburst hlimit

/-- A plan within the bound, and one just beyond it at one byte per second. -/
theorem wrapless_iff_fits_bursts :
    Wrapless 1000000000 1000000000 ∧ ¬Wrapless 1 18446744073 := by
  constructor
  · exact (wrapless_iff_fits { rateBytesPerSecond := 1000000000 } (by decide) (by decide)).2
      (by decide)
  · intro hw
    exact absurd ((wrapless_iff_fits { rateBytesPerSecond := 1, burstBytes := 18446744073 }
      (by decide) (by decide)).1 hw) (by decide)

/-- A billion bytes a second with a burst of twenty billion is accepted; once the burst is used,
the next refill computes `20000000000 * 10^9 + 10^9 - 1`, beyond 64 bits. -/
theorem validated_burst_wraps :
    let plan : FaultPlan := { rateBytesPerSecond := 1000000000, burstBytes := 20000000000 }
    plan.validate = .ok () ∧
      ∃ b, run plan.rateBytesPerSecond plan.effectiveBurstBytes 0 [.consume 20000000000] = .ok b ∧
        Clocked 0 ([.consume 20000000000] ++ [.available 1]) ∧
        ∃ v ∈ (Call.available 1).terms b, 2 ^ 64 ≤ v := by
  refine ⟨by decide, ⟨1000000000, 20000000000, 0, 0, 0⟩, by decide, ⟨by decide, by decide⟩, ?_⟩
  decide +kernel

end TokenBucket

end NetFault
