import NetFault.TokenBucket

/-!
# The token bucket is exact

A bucket is built once and then only called: `available` and `eligible_at` refill it to the time
they are given, `consume` takes tokens.  `run` performs a sequence of such calls, `Call.terms`
lists the unsigned expressions a call evaluates, before they are reduced to 64 bits, and
`Fits` is the bound on rate and burst under which none of them reaches `2 ^ 64`.

Where nothing wraps, a refill is saturating addition on `level` (`level_refill`), whichever of its
two branches it takes.  A sound bucket is determined by its level, so refills compose: what was
refilled in between leaves no trace (`refill_refill_of_le`).  `refill_exact` collects this for
every sequence of calls.
-/

namespace NetFault

namespace TokenBucket

/-! ## Calls and the expressions they evaluate -/

/-- A call of the bucket. -/
inductive Call
  | available (now : ℤ)
  | eligibleAt (bytes : ℕ) (now : ℤ)
  | consume (bytes : ℕ)
  deriving DecidableEq, Repr

/-- The reading a call is given; `consume` takes none. -/
def Call.time? : Call → Option ℤ
  | .available now => some now
  | .eligibleAt _ now => some now
  | .consume _ => none

def Call.exec : Call → TokenBucket → Except Fault TokenBucket
  | .available now, b => .ok (b.available now).2
  | .eligibleAt bytes now, b => .ok (b.eligibleAt bytes now).2
  | .consume bytes, b => b.consume bytes

def execAll : List Call → TokenBucket → Except Fault TokenBucket
  | [], b => .ok b
  | call :: calls, b => do execAll calls (← call.exec b)

/-- A bucket built at `start` and called in order; a `consume` beyond the tokens fails. -/
def run (rate burst : ℕ) (start : ℤ) (calls : List Call) : Except Fault TokenBucket := do
  execAll calls (← create rate burst start)

/-- The readings of a sequence of calls do not decrease, and all are values of the clock's 64-bit
type. -/
structure Clocked (start : ℤ) (calls : List Call) : Prop where
  sorted : (calls.filterMap Call.time?).Pairwise (· ≤ ·)
  int64 : ∀ t ∈ start :: calls.filterMap Call.time?, -(2 ^ 63) ≤ t ∧ t < 2 ^ 63

variable (b : TokenBucket)

/-- The dividend of `earnTime`, before its reduction. -/
def earnTerm (bytes : ℕ) : ℕ := bytes * nsPerSecond + b.rate - 1

/-- The nanoseconds since the last refill, as the source converts them. -/
def elapsedNs (now : ℤ) : ℕ := u64 (now - b.lastRefill).toNat

/-- The bound that separates the two branches of `refill`, before its reduction. -/
def longIdleTerm : ℕ := b.earnTime (b.burst - b.tokens) + nsPerSecond / b.rate + 1

/-- The progress made by `now`, before its reduction. -/
def productTerm (now : ℤ) : ℕ := b.elapsedNs now * b.rate + b.carryProduct

/-- The unsigned expressions `refill` evaluates, before their reduction to 64 bits. -/
def refillTerms (now : ℤ) : List ℕ :=
  if now ≤ b.lastRefill then []
  else if u64 b.longIdleTerm ≤ b.elapsedNs now then
    [b.earnTerm (b.burst - b.tokens), b.longIdleTerm]
  else
    [b.earnTerm (b.burst - b.tokens), b.longIdleTerm, b.productTerm now,
      b.tokens + u64 (b.productTerm now) / nsPerSecond]

/-- The unsigned expressions a call evaluates, before their reduction to 64 bits. -/
def Call.terms : Call → TokenBucket → List ℕ
  | .available now, b => b.refillTerms now
  | .eligibleAt bytes now, b =>
      let refilled := b.refill now
      let target := min bytes refilled.burst
      b.refillTerms now ++
        if target ≤ refilled.tokens then [] else [refilled.earnTerm (target - refilled.tokens)]
  | .consume _, _ => []

/-- `refill` without the long-idle branch, over the natural numbers. -/
def refillExact (now : ℤ) : TokenBucket :=
  if now ≤ b.lastRefill then
    b
  else
    let product := (now - b.lastRefill).toNat * b.rate + b.carryProduct
    let tokens := min (b.tokens + product / nsPerSecond) b.burst
    { b with
      tokens
      lastRefill := now
      carryProduct := if tokens = b.burst then 0 else product % nsPerSecond }

variable {b}

lemma nsPerSecond_pos : 0 < nsPerSecond := by simp [nsPerSecond]

/-- `refill` with its expressions named. -/
lemma refill_eq (now : ℤ) :
    b.refill now =
      if now ≤ b.lastRefill then b
      else if u64 b.longIdleTerm ≤ b.elapsedNs now then
        { b with tokens := b.burst, lastRefill := now, carryProduct := 0 }
      else
        { b with
          tokens := min (u64 (b.tokens + u64 (b.productTerm now) / nsPerSecond)) b.burst
          lastRefill := now
          carryProduct :=
            if min (u64 (b.tokens + u64 (b.productTerm now) / nsPerSecond)) b.burst = b.burst
            then 0 else u64 (b.productTerm now) % nsPerSecond } := rfl

/-! ## A refill adds the income of its time, up to the burst -/

lemma Sound.level_div (hs : b.Sound) : b.level / nsPerSecond = b.tokens := by
  rw [level, Nat.add_comm, Nat.add_mul_div_right _ _ nsPerSecond_pos,
    Nat.div_eq_of_lt hs.carry_lt, Nat.zero_add]

lemma Sound.level_mod (hs : b.Sound) : b.level % nsPerSecond = b.carryProduct := by
  rw [level, Nat.mul_add_mod_self_right, Nat.mod_eq_of_lt hs.carry_lt]

/-- A sound bucket is determined by its parameters, its clock and its level. -/
lemma Sound.eq_of_level {b' : TokenBucket} (hs : b.Sound) (hs' : b'.Sound)
    (hrate : b.rate = b'.rate) (hburst : b.burst = b'.burst) (hlast : b.lastRefill = b'.lastRefill)
    (hlevel : b.level = b'.level) : b = b' := by
  have htokens : b.tokens = b'.tokens := by rw [← hs.level_div, ← hs'.level_div, hlevel]
  have hcarry : b.carryProduct = b'.carryProduct := by
    rw [← hs.level_mod, ← hs'.level_mod, hlevel]
  cases b
  cases b'
  simp_all

/-- The level after earning `product` on top of `tokens`, saturated at the burst. -/
lemma saturated_level (tokens burst product : ℕ) :
    min (tokens + product / nsPerSecond) burst * nsPerSecond +
        (if min (tokens + product / nsPerSecond) burst = burst then 0
         else product % nsPerSecond) =
      min (burst * nsPerSecond) (tokens * nsPerSecond + product) := by
  have hdiv := Nat.div_add_mod' product nsPerSecond
  have hmod := Nat.mod_lt product nsPerSecond_pos
  by_cases hfull : burst ≤ tokens + product / nsPerSecond
  · have hcover := Nat.mul_le_mul_right nsPerSecond hfull
    rw [Nat.add_mul] at hcover
    rw [min_eq_right hfull, if_pos rfl, Nat.add_zero, min_eq_left (by omega)]
  · have hnext : (tokens + product / nsPerSecond + 1) * nsPerSecond ≤ burst * nsPerSecond :=
      Nat.mul_le_mul_right _ (by omega)
    rw [Nat.add_mul, Nat.add_mul] at hnext
    rw [min_eq_left (by omega), if_neg (by omega), min_eq_right (by omega), Nat.add_mul]
    omega

/-- Saturating additions compose. -/
lemma saturate_saturate (cap start first second : ℕ) :
    min cap (min cap (start + first) + second) = min cap (start + (first + second)) := by
  omega

lemma level_refillExact {now : ℤ} (hpast : ¬now ≤ b.lastRefill) :
    (b.refillExact now).level =
      min (b.burst * nsPerSecond) (b.level + b.rate * (now - b.lastRefill).toNat) := by
  rw [refillExact, if_neg hpast, level, saturated_level, level, Nat.mul_comm b.rate, Nat.add_assoc,
    Nat.add_comm b.carryProduct]

lemma Sound.refillExact (hs : b.Sound) (now : ℤ) : (b.refillExact now).Sound := by
  simp only [TokenBucket.refillExact]
  split_ifs with hpast htokens
  · exact hs
  · exact ⟨hs.rate_pos, hs.burst_pos, min_le_right _ _, nsPerSecond_pos, fun _ => rfl⟩
  · exact ⟨hs.rate_pos, hs.burst_pos, min_le_right _ _, Nat.mod_lt _ nsPerSecond_pos,
      fun h => absurd h htokens⟩

/-- Past the time that fills the bucket, the saturated sum is the full bucket. -/
lemma full_of_long_idle (hs : b.Sound) {now : ℤ}
    (hearn : b.earnTerm (b.burst - b.tokens) < 2 ^ 64) (hidle : b.longIdleTerm ≤ b.elapsedNs now) :
    b.burst * nsPerSecond ≤ b.level + b.rate * b.elapsedNs now := by
  have hle := le_earnTime_mul hs.rate_pos hearn
  have hlong : b.earnTime (b.burst - b.tokens) ≤ b.elapsedNs now := by
    unfold longIdleTerm at hidle
    exact (Nat.le_add_right _ _).trans ((Nat.le_add_right _ _).trans hidle)
  have hcover := hle.trans (Nat.mul_le_mul_right b.rate hlong)
  have hsplit : (b.burst - b.tokens) * nsPerSecond + b.tokens * nsPerSecond =
      b.burst * nsPerSecond := by
    rw [← Nat.add_mul, Nat.sub_add_cancel hs.tokens_le]
  rw [level]
  linarith [Nat.mul_comm (b.elapsedNs now) b.rate]

/-- **A refill saturates.**  Where no expression of `refill` wraps, the level becomes the old level
plus the income of the elapsed time, capped at the burst, on both of its branches. -/
lemma level_refill (hs : b.Sound) {now : ℤ} (helapsed : now - b.lastRefill < 2 ^ 64)
    (hfit : ∀ v ∈ b.refillTerms now, v < 2 ^ 64) :
    (b.refill now).level =
      min (b.burst * nsPerSecond) (b.level + b.rate * (now - b.lastRefill).toNat) := by
  by_cases hpast : now ≤ b.lastRefill
  · rw [refill_of_le hpast, Int.toNat_of_nonpos (by omega), Nat.mul_zero, Nat.add_zero,
      min_eq_right hs.level_le]
  have hns : b.elapsedNs now = (now - b.lastRefill).toNat := u64_of_lt (by omega)
  rw [refillTerms, if_neg hpast] at hfit
  rw [refill_eq, if_neg hpast, ← hns]
  by_cases hidle : u64 b.longIdleTerm ≤ b.elapsedNs now
  · rw [if_pos hidle] at hfit
    have hlong : u64 b.longIdleTerm = b.longIdleTerm := u64_of_lt (hfit _ (by simp))
    have hfull := full_of_long_idle hs (hfit _ (by simp)) (hlong ▸ hidle)
    rw [if_pos hidle, min_eq_left hfull, level, Nat.add_zero]
  · rw [if_neg hidle] at hfit
    have hproduct : u64 (b.productTerm now) = b.productTerm now := u64_of_lt (hfit _ (by simp))
    have htokens : u64 (b.tokens + u64 (b.productTerm now) / nsPerSecond) =
        b.tokens + u64 (b.productTerm now) / nsPerSecond := u64_of_lt (hfit _ (by simp))
    rw [if_neg hidle, level]
    simp only [htokens]
    rw [hproduct, saturated_level, level, productTerm, Nat.mul_comm b.rate, Nat.add_assoc,
      Nat.add_comm b.carryProduct]

/-- The long-idle branch and the wrapping operators change nothing. -/
lemma refill_eq_refillExact (hs : b.Sound) {now : ℤ} (helapsed : now - b.lastRefill < 2 ^ 64)
    (hfit : ∀ v ∈ b.refillTerms now, v < 2 ^ 64) : b.refill now = b.refillExact now := by
  by_cases hpast : now ≤ b.lastRefill
  · rw [refill_of_le hpast, refillExact, if_pos hpast]
  have hlast : (b.refillExact now).lastRefill = now := by rw [refillExact, if_neg hpast]
  refine (hs.refill now).eq_of_level (hs.refillExact now) ?_ ?_ ?_ ?_
  · rw [refill_rate, refillExact, if_neg hpast]
  · rw [refill_burst, refillExact, if_neg hpast]
  · rw [refill_lastRefill, hlast, max_eq_right (not_le.mp hpast).le]
  · rw [level_refill hs helapsed hfit, level_refillExact hpast]

/-! ## The bound under which nothing wraps -/

/-- Nanoseconds that fill an empty bucket, rounded up. -/
def fillTime (rate burst : ℕ) : ℕ := (burst * nsPerSecond + rate - 1) / rate

/-- Rate and burst for which no expression of the bucket wraps.  The worst product is that of an
empty bucket with the largest carry, refilled at the last instant before the long-idle branch; at
one byte per second that instant lies outside the range of the clock, and the bound of the
long-idle branch itself is the first to wrap. -/
def Fits (rate burst : ℕ) : Prop :=
  if rate = 1 then burst ≤ 18446744072
  else (fillTime rate burst + nsPerSecond / rate) * rate +
    (nsPerSecond - rate.gcd nsPerSecond) < 2 ^ 64

instance (rate burst : ℕ) : Decidable (Fits rate burst) :=
  inferInstanceAs (Decidable (if rate = 1 then _ else _))

/-- What the calls keep of a bucket built at `start`: its parameters, and the two bounds on the
carry, which is a multiple of what rate and second share and was earned since `start`. -/
structure Tracks (rate burst : ℕ) (start : ℤ) (b : TokenBucket) : Prop where
  sound : b.Sound
  rate_eq : b.rate = rate
  burst_eq : b.burst = burst
  start_le : start ≤ b.lastRefill
  carry_dvd : rate.gcd nsPerSecond ∣ b.carryProduct
  carry_le : (b.carryProduct : ℤ) ≤ rate * (b.lastRefill - start)

section Fits

variable {rate burst : ℕ} {start now : ℤ}

lemma mul_le_fillTime_mul (burst : ℕ) (hrate : 0 < rate) :
    burst * nsPerSecond ≤ fillTime rate burst * rate := by
  have hdiv := Nat.lt_div_mul_add (a := burst * nsPerSecond + rate - 1) hrate
  unfold fillTime
  omega

lemma fillTime_mul_le (rate burst : ℕ) :
    fillTime rate burst * rate ≤ burst * nsPerSecond + rate - 1 := Nat.div_mul_le_self _ _

/-- Every dividend of `earnTime` is bounded by that of an empty bucket, and that one fits. -/
lemma Fits.earn_lt (hfits : Fits rate burst) (hpos : 0 < rate) (hrate : rate ≤ nsPerSecond) :
    burst * nsPerSecond + rate - 1 < 2 ^ 64 := by
  unfold Fits at hfits
  split_ifs at hfits with hone
  · simp only [nsPerSecond]
    omega
  · have hfill := mul_le_fillTime_mul burst hpos
    have hquot : 1 * rate ≤ nsPerSecond / rate * rate :=
      Nat.mul_le_mul_right rate ((Nat.one_le_div_iff hpos).2 hrate)
    rw [Nat.add_mul] at hfits
    omega

lemma Fits.longIdle_lt (hfits : Fits rate burst) (hpos : 0 < rate) (hrate : rate ≤ nsPerSecond) :
    fillTime rate burst + nsPerSecond / rate + 1 < 2 ^ 64 := by
  unfold Fits at hfits
  split_ifs at hfits with hone
  · subst hone
    simp only [fillTime, nsPerSecond, Nat.div_one]
    omega
  · have hquot : 1 ≤ nsPerSecond / rate := (Nat.one_le_div_iff hpos).2 hrate
    have htwo := Nat.mul_le_mul_left (fillTime rate burst + nsPerSecond / rate)
      (show 2 ≤ rate by omega)
    omega

/-- The largest product of the slow branch: at one byte per second it is bounded by the clock. -/
lemma Fits.product_lt (hfits : Fits rate burst) {elapsed carry : ℕ}
    (hslow : elapsed ≤ fillTime rate burst + nsPerSecond / rate)
    (hdvd : rate.gcd nsPerSecond ∣ carry) (hcarry : carry < nsPerSecond)
    (hclock : rate = 1 → elapsed + carry < 2 ^ 64) : elapsed * rate + carry < 2 ^ 64 := by
  unfold Fits at hfits
  split_ifs at hfits with hone
  · have hsum := hclock hone
    rwa [hone, Nat.mul_one]
  · have hmul := Nat.mul_le_mul_right rate hslow
    have hgap : rate.gcd nsPerSecond ≤ nsPerSecond - carry :=
      Nat.le_of_dvd (by omega) (Nat.dvd_sub (Nat.gcd_dvd_right _ _) hdvd)
    omega

lemma fits_of_le (hrate : rate ≤ 1000000000) (hburst : burst ≤ 18000000000) :
    Fits rate burst := by
  unfold Fits
  split_ifs with hone
  · omega
  · have hfill := fillTime_mul_le rate burst
    have hquot := Nat.div_mul_le_self nsPerSecond rate
    rw [Nat.add_mul]
    simp only [nsPerSecond] at hfill hquot ⊢
    omega

namespace Tracks

lemma earnTerm_lt (h : Tracks rate burst start b) (hfits : Fits rate burst)
    (hrate : rate ≤ nsPerSecond) {bytes : ℕ} (hbytes : bytes ≤ burst) :
    b.earnTerm bytes < 2 ^ 64 := by
  have hbound := hfits.earn_lt (h.rate_eq ▸ h.sound.rate_pos) hrate
  have hmul := Nat.mul_le_mul_right nsPerSecond hbytes
  rw [earnTerm, h.rate_eq]
  omega

lemma earnTime_le (h : Tracks rate burst start b) {bytes : ℕ} (hbytes : bytes ≤ burst) :
    b.earnTime bytes ≤ fillTime rate burst := by
  have hmul := Nat.mul_le_mul_right nsPerSecond hbytes
  rw [earnTime, fillTime, h.rate_eq]
  exact Nat.div_le_div_right ((u64_le _).trans (by omega))

lemma longIdleTerm_le (h : Tracks rate burst start b) :
    b.longIdleTerm ≤ fillTime rate burst + nsPerSecond / rate + 1 := by
  have hmissing : b.burst - b.tokens ≤ burst := (Nat.sub_le _ _).trans h.burst_eq.le
  rw [longIdleTerm, h.rate_eq]
  exact Nat.add_le_add_right (Nat.add_le_add_right (h.earnTime_le hmissing) _) _

lemma productTerm_lt (h : Tracks rate burst start b) (hfits : Fits rate burst)
    (hclock : now - start < 2 ^ 64) (hslow : ¬u64 b.longIdleTerm ≤ b.elapsedNs now)
    (hpast : ¬now ≤ b.lastRefill) : b.productTerm now < 2 ^ 64 := by
  have helapsed : b.elapsedNs now ≤ fillTime rate burst + nsPerSecond / rate := by
    have hle := (u64_le b.longIdleTerm).trans h.longIdleTerm_le
    omega
  have hns : b.elapsedNs now ≤ (now - b.lastRefill).toNat := u64_le _
  rw [productTerm, h.rate_eq]
  refine hfits.product_lt helapsed h.carry_dvd h.sound.carry_lt fun hone => ?_
  have hcarry := h.carry_le
  rw [hone, Nat.cast_one, one_mul] at hcarry
  omega

/-- **Nothing wraps in a refill** of a bucket whose rate and burst fit. -/
lemma refillTerms_lt (h : Tracks rate burst start b) (hfits : Fits rate burst)
    (hrate : rate ≤ nsPerSecond) (hclock : now - start < 2 ^ 64) :
    ∀ v ∈ b.refillTerms now, v < 2 ^ 64 := by
  have hpos : 0 < rate := h.rate_eq ▸ h.sound.rate_pos
  have hmissing : b.burst - b.tokens ≤ burst := (Nat.sub_le _ _).trans h.burst_eq.le
  have hearn := h.earnTerm_lt hfits hrate hmissing
  have hidle := h.longIdleTerm_le.trans_lt (hfits.longIdle_lt hpos hrate)
  unfold refillTerms
  split_ifs with hpast hslow
  · simp
  · simp only [List.mem_cons, List.not_mem_nil, or_false, forall_eq_or_imp, forall_eq]
    exact ⟨hearn, hidle⟩
  · have hsum : b.tokens + u64 (b.productTerm now) / nsPerSecond < 2 ^ 64 := by
      have htokens := h.sound.tokens_le
      have hburst := hfits.earn_lt hpos hrate
      have hproduct : u64 (b.productTerm now) < 2 ^ 64 := Nat.mod_lt _ (by simp)
      rw [h.burst_eq] at htokens
      simp only [nsPerSecond] at hburst ⊢
      omega
    simp only [List.mem_cons, List.not_mem_nil, or_false, forall_eq_or_imp, forall_eq]
    exact ⟨hearn, hidle, h.productTerm_lt hfits hclock hslow hpast, hsum⟩

/-! ## What a call keeps -/

lemma carry_refill (h : Tracks rate burst start b) (hfits : Fits rate burst)
    (hclock : now - start < 2 ^ 64) :
    rate.gcd nsPerSecond ∣ (b.refill now).carryProduct ∧
      ((b.refill now).carryProduct : ℤ) ≤ rate * ((b.refill now).lastRefill - start) := by
  by_cases hpast : now ≤ b.lastRefill
  · rw [refill_of_le hpast]
    exact ⟨h.carry_dvd, h.carry_le⟩
  have hstart := h.start_le
  have hincome : (0 : ℤ) ≤ rate * (now - start) := mul_nonneg (Int.natCast_nonneg _) (by omega)
  rw [refill_eq, if_neg hpast]
  split_ifs with hslow hfull
  · exact ⟨dvd_zero _, by simpa using hincome⟩
  · exact ⟨dvd_zero _, by simpa using hincome⟩
  · have hproduct := u64_of_lt (h.productTerm_lt hfits hclock hslow hpast)
    rw [hproduct, productTerm, h.rate_eq]
    constructor
    · rw [Nat.dvd_mod_iff (Nat.gcd_dvd_right _ _)]
      exact Nat.dvd_add ((Nat.gcd_dvd_left _ _).mul_left _) h.carry_dvd
    · have hns : (b.elapsedNs now : ℤ) ≤ now - b.lastRefill := by
        have := u64_le (now - b.lastRefill).toNat
        unfold elapsedNs
        omega
      have hearned := mul_le_mul_of_nonneg_right hns (Int.natCast_nonneg rate)
      have hcarry := h.carry_le
      calc (((b.elapsedNs now * rate + b.carryProduct) % nsPerSecond : ℕ) : ℤ)
          ≤ ((b.elapsedNs now * rate + b.carryProduct : ℕ) : ℤ) := by
            exact_mod_cast Nat.mod_le _ _
        _ ≤ (now - b.lastRefill) * rate + rate * (b.lastRefill - start) := by
            push_cast
            exact add_le_add hearned hcarry
        _ = rate * (now - start) := by
            rw [mul_comm (now - b.lastRefill), ← mul_add]
            congr 1
            omega

lemma refill (h : Tracks rate burst start b) (hfits : Fits rate burst)
    (hclock : now - start < 2 ^ 64) : Tracks rate burst start (b.refill now) where
  sound := h.sound.refill now
  rate_eq := by rw [refill_rate, h.rate_eq]
  burst_eq := by rw [refill_burst, h.burst_eq]
  start_le := by
    rw [refill_lastRefill]
    exact h.start_le.trans (le_max_left _ _)
  carry_dvd := (h.carry_refill hfits hclock).1
  carry_le := (h.carry_refill hfits hclock).2

lemma consume (h : Tracks rate burst start b) {bytes : ℕ} {b' : TokenBucket}
    (hok : b.consume bytes = .ok b') : Tracks rate burst start b' := by
  have hbytes : bytes ≤ b.tokens := by
    by_contra hover
    rw [TokenBucket.consume, if_pos (not_le.mp hover)] at hok
    cases hok
  obtain ⟨b₂, hok₂, hs, -, -, -, -⟩ := h.sound.consume hbytes
  obtain rfl : b₂ = b' := Except.ok.inj (hok₂.symm.trans hok)
  rw [TokenBucket.consume, if_neg (not_lt.mpr hbytes)] at hok
  cases hok
  exact { h with sound := hs }

/-- A call keeps the parameters and the bounds on the carry. -/
lemma exec (h : Tracks rate burst start b) (hfits : Fits rate burst) {call : Call}
    {b' : TokenBucket} (hclock : ∀ t, call.time? = some t → t - start < 2 ^ 64)
    (hok : call.exec b = .ok b') : Tracks rate burst start b' := by
  cases call with
  | available t =>
      cases hok
      exact h.refill hfits (hclock t rfl)
  | eligibleAt bytes t =>
      cases hok
      rw [eligibleAt_snd]
      exact h.refill hfits (hclock t rfl)
  | consume bytes => exact h.consume hok

lemma execAll (h : Tracks rate burst start b) (hfits : Fits rate burst) {calls : List Call}
    {b' : TokenBucket} (hclock : ∀ t ∈ calls.filterMap Call.time?, t - start < 2 ^ 64)
    (hok : execAll calls b = .ok b') : Tracks rate burst start b' := by
  induction calls generalizing b with
  | nil =>
      cases hok
      exact h
  | cons call calls ih =>
      unfold TokenBucket.execAll at hok
      cases hexec : call.exec b with
      | error fault =>
          rw [hexec] at hok
          cases hok
      | ok b₁ =>
          rw [hexec] at hok
          refine ih (h.exec hfits (fun t ht => hclock t ?_) hexec) (fun t ht => hclock t ?_) hok
          · exact List.mem_filterMap.2 ⟨call, List.mem_cons_self .., ht⟩
          · obtain ⟨c, hc, htime⟩ := List.mem_filterMap.1 ht
            exact List.mem_filterMap.2 ⟨c, List.mem_cons_of_mem _ hc, htime⟩

/-- Nothing wraps in a call. -/
lemma terms_lt (h : Tracks rate burst start b) (hfits : Fits rate burst)
    (hrate : rate ≤ nsPerSecond) {call : Call}
    (hclock : ∀ t, call.time? = some t → t - start < 2 ^ 64) :
    ∀ v ∈ call.terms b, v < 2 ^ 64 := by
  cases call with
  | available t => exact h.refillTerms_lt hfits hrate (hclock t rfl)
  | eligibleAt bytes t =>
      have hrefill := h.refillTerms_lt hfits hrate (hclock t rfl)
      have hafter := h.refill hfits (hclock t rfl)
      have htarget : min bytes (b.refill t).burst - (b.refill t).tokens ≤ burst :=
        (Nat.sub_le _ _).trans ((min_le_right _ _).trans hafter.burst_eq.le)
      have hearn := hafter.earnTerm_lt hfits hrate htarget
      intro v hv
      simp only [Call.terms, List.mem_append] at hv
      obtain hv | hv := hv
      · exact hrefill v hv
      · split_ifs at hv
        · cases hv
        · rw [List.mem_singleton] at hv
          exact hv ▸ hearn
  | consume bytes => simp [Call.terms]

/-! ## Refills compose -/

lemma refill_level (h : Tracks rate burst start b) (hfits : Fits rate burst)
    (hrate : rate ≤ nsPerSecond) (hclock : now - start < 2 ^ 64) :
    (b.refill now).level =
      min (burst * nsPerSecond) (b.level + rate * (now - b.lastRefill).toNat) := by
  have helapsed : now - b.lastRefill < 2 ^ 64 := by
    have := h.start_le
    omega
  rw [level_refill h.sound helapsed (h.refillTerms_lt hfits hrate hclock), h.rate_eq, h.burst_eq]

/-- A refill in between leaves no trace. -/
lemma refill_refill_of_le (h : Tracks rate burst start b) (hfits : Fits rate burst)
    (hrate : rate ≤ nsPerSecond) {mid : ℤ} (hmid : mid ≤ now) (hclock : now - start < 2 ^ 64) :
    (b.refill mid).refill now = b.refill now := by
  by_cases hpast : mid ≤ b.lastRefill
  · rw [refill_of_le hpast]
  have hbefore : mid - start < 2 ^ 64 := by omega
  have hmiddle := h.refill hfits hbefore
  have hlast : (b.refill mid).lastRefill = mid := by
    rw [refill_lastRefill, max_eq_right (not_le.mp hpast).le]
  refine (hmiddle.sound.refill now).eq_of_level (h.sound.refill now) ?_ ?_ ?_ ?_
  · simp only [refill_rate]
  · simp only [refill_burst]
  · rw [refill_lastRefill, hlast, refill_lastRefill]
    omega
  · have hsplit : (now - b.lastRefill).toNat =
        (mid - b.lastRefill).toNat + (now - mid).toNat := by omega
    rw [hmiddle.refill_level hfits hrate hclock, h.refill_level hfits hrate hbefore,
      h.refill_level hfits hrate hclock, hlast, hsplit, Nat.mul_add, saturate_saturate]

/-- Any refills in between leave no trace. -/
lemma refill_foldl (h : Tracks rate burst start b) (hfits : Fits rate burst)
    (hrate : rate ≤ nsPerSecond) (hclock : now - start < 2 ^ 64) {mids : List ℤ}
    (hmids : ∀ mid ∈ mids, mid ≤ now) :
    (mids.foldl TokenBucket.refill b).refill now = b.refill now := by
  induction mids generalizing b with
  | nil => rfl
  | cons mid mids ih =>
      have hmid : mid ≤ now := hmids mid (List.mem_cons_self ..)
      rw [List.foldl_cons, ih (h.refill hfits (by omega))
        (fun t ht => hmids t (List.mem_cons_of_mem _ ht))]
      exact h.refill_refill_of_le hfits hrate hmid hclock

end Tracks

lemma tracks_create (hrate : 0 < rate) (hburst : 0 < burst)
    (hcreate : create rate burst start = .ok b) : Tracks rate burst start b := by
  obtain ⟨b₀, hok, hs, hrate₀, hburst₀, hlast⟩ := create_spec start hrate hburst
  obtain rfl : b₀ = b := Except.ok.inj (hok.symm.trans hcreate)
  have hcarry : b₀.carryProduct = 0 := by
    rw [create, if_neg (by omega)] at hcreate
    cases hcreate
    rfl
  exact ⟨hs, hrate₀, hburst₀, hlast.ge, hcarry ▸ dvd_zero _, by simp [hcarry, hlast]⟩

/-- A bucket reached by any calls keeps its parameters and the bounds on its carry. -/
lemma tracks_run (hrate : 0 < rate) (hburst : 0 < burst) (hfits : Fits rate burst)
    {calls : List Call}
    (hint : ∀ t ∈ start :: calls.filterMap Call.time?, -(2 ^ 63) ≤ t ∧ t < 2 ^ 63)
    (hrun : run rate burst start calls = .ok b) : Tracks rate burst start b := by
  obtain ⟨b₀, hcreate, -⟩ := create_spec start hrate hburst
  unfold run at hrun
  rw [hcreate] at hrun
  refine (tracks_create hrate hburst hcreate).execAll hfits (fun t ht => ?_) hrun
  have h₁ := hint start (List.mem_cons_self ..)
  have h₂ := hint t (List.mem_cons_of_mem _ ht)
  omega

/-- **The bucket is exact and does not depend on how often it is asked.**  Take any rate up to
10⁹ and any burst up to 18 · 10⁹, and a bucket reached by any calls in clock order.  No 64-bit
expression of the next call wraps, whatever the call.  A refill to `t` adds the income of the time
since the last one, capped at the burst; it does what the branch without the long-idle shortcut
computes over the natural numbers; and refilling at any instants before `t` first makes no
difference. -/
theorem refill_exact {calls : List Call} (hrate : 1 ≤ rate ∧ rate ≤ 1000000000)
    (hburst : 1 ≤ burst ∧ burst ≤ 18000000000) (hclock : Clocked start calls)
    (hrun : run rate burst start calls = .ok b) :
    (∀ call, Clocked start (calls ++ [call]) → ∀ v ∈ call.terms b, v < 2 ^ 64) ∧
      b.carryProduct < 1000000000 ∧ (b.tokens = burst → b.carryProduct = 0) ∧
      ∀ t : ℤ, -(2 ^ 63) ≤ t → t < 2 ^ 63 →
        (((b.refill t).level : ℤ) =
            min ((burst : ℤ) * 1000000000)
              (b.level + rate * (max t b.lastRefill - b.lastRefill))) ∧
          (b.refill t).carryProduct < 1000000000 ∧
          ((b.refill t).tokens = burst → (b.refill t).carryProduct = 0) ∧
          b.refill t = b.refillExact t ∧
          ∀ mids : List ℤ, (∀ mid ∈ mids, mid ≤ t) →
            (mids.foldl refill b).refill t = b.refill t := by
  have hfits : Fits rate burst := fits_of_le hrate.2 hburst.2
  have htrack := tracks_run hrate.1 hburst.1 hfits hclock.int64 hrun
  have hstart := hclock.int64 start (List.mem_cons_self ..)
  refine ⟨fun call hnext => ?_, htrack.sound.carry_lt,
    fun hfull => htrack.sound.carry_full (hfull.trans htrack.burst_eq.symm), fun t hlo hhi => ?_⟩
  · refine htrack.terms_lt hfits hrate.2 fun t ht => ?_
    have hint := hnext.int64 t (List.mem_cons_of_mem _
      (List.mem_filterMap.2 ⟨call, List.mem_append_right _ (List.mem_singleton_self _), ht⟩))
    omega
  · have hspan : t - start < 2 ^ 64 := by omega
    have hlast := htrack.start_le
    have hafter := htrack.refill hfits hspan
    have hlevel := htrack.refill_level hfits hrate.2 hspan
    have htime : ((t - b.lastRefill).toNat : ℤ) = max t b.lastRefill - b.lastRefill := by omega
    refine ⟨?_, hafter.sound.carry_lt,
      fun hfull => hafter.sound.carry_full (hfull.trans hafter.burst_eq.symm),
      refill_eq_refillExact htrack.sound (by omega) (htrack.refillTerms_lt hfits hrate.2 hspan),
      fun mids hmids => htrack.refill_foldl hfits hrate.2 hspan hmids⟩
    rw [hlevel, ← htime]
    push_cast
    rfl

/-- An empty bucket of three bytes a second, asked after a third of a second and after an hour. -/
theorem refill_exact_three_bytes :
    run 3 5 0 [.available 0, .consume 5, .available 333333333] =
        .ok ⟨3, 5, 0, 333333333, 999999999⟩ ∧
      (((⟨3, 5, 0, 333333333, 999999999⟩ : TokenBucket).refill 333333334).level : ℤ) =
        1000000002 ∧
      (⟨3, 5, 0, 333333333, 999999999⟩ : TokenBucket).refill 3600000000000 =
        (⟨3, 5, 0, 333333333, 999999999⟩ : TokenBucket).refillExact 3600000000000 := by
  have hrun : run 3 5 0 [.available 0, .consume 5, .available 333333333] =
      .ok ⟨3, 5, 0, 333333333, 999999999⟩ := by decide +kernel
  have hclock : Clocked 0 [.available 0, .consume 5, .available 333333333] :=
    ⟨by decide, by decide⟩
  obtain ⟨-, -, -, hrefill⟩ := refill_exact (by decide) (by decide) hclock hrun
  obtain ⟨hlevel, -⟩ := hrefill 333333334 (by decide) (by decide)
  obtain ⟨-, -, -, hexact, -⟩ := hrefill 3600000000000 (by decide) (by decide)
  exact ⟨hrun, hlevel.trans (by decide), hexact⟩

end Fits

end TokenBucket

end NetFault
