import NetFault.Basic
import Mathlib.Algebra.Order.Ring.Nat
import Mathlib.Data.Nat.Basic
import Mathlib.Tactic.Linarith
import Mathlib.Tactic.NormNum

/-!
# The token bucket

`TokenBucket` meters the bytes of one direction.  Tokens are whole bytes; `refill` keeps the
progress towards the next byte as a product of bytes and nanoseconds, so the credit held is
`level`, in units of a billionth of a byte.  All arithmetic is on 64-bit unsigned integers and is
written with `u64`, so nothing here assumes that the products fit.

`Sound` holds of every bucket whatever wraps: the tokens never exceed the burst.  The upper bound
on what a refill adds (`level_refill_le`) is the direction of the exact law that rate limiting
needs; it does assume the bounds under which the fill time does not wrap.
-/

namespace NetFault

/-- Nanoseconds in a second, the denominator of the token arithmetic. -/
def nsPerSecond : ℕ := 1000000000

structure TokenBucket where
  rate : ℕ
  burst : ℕ
  tokens : ℕ
  lastRefill : ℤ
  carryProduct : ℕ := 0
  deriving DecidableEq, Repr

namespace TokenBucket

def create (rate burst : ℕ) (start : ℤ) : Except Fault TokenBucket :=
  if rate = 0 ∨ burst = 0 then .error .bucketConfig
  else .ok { rate, burst, tokens := burst, lastRefill := start }

variable (b : TokenBucket)

/-- Nanoseconds needed to earn `bytes` tokens, rounded up, as `refill` and `eligible_at` compute
them. -/
def earnTime (bytes : ℕ) : ℕ := u64 (bytes * nsPerSecond + b.rate - 1) / b.rate

def refill (now : ℤ) : TokenBucket :=
  if now ≤ b.lastRefill then
    b
  else
    let elapsedNs := u64 (now - b.lastRefill).toNat
    let fullNs := b.earnTime (b.burst - b.tokens)
    if u64 (fullNs + nsPerSecond / b.rate + 1) ≤ elapsedNs then
      { b with tokens := b.burst, lastRefill := now, carryProduct := 0 }
    else
      let product := u64 (elapsedNs * b.rate + b.carryProduct)
      let earned := product / nsPerSecond
      let tokens := min (u64 (b.tokens + earned)) b.burst
      { b with
        tokens
        lastRefill := now
        carryProduct := if tokens = b.burst then 0 else product % nsPerSecond }

def available (now : ℤ) : ℕ × TokenBucket := ((b.refill now).tokens, b.refill now)

def consume (bytes : ℕ) : Except Fault TokenBucket :=
  if b.tokens < bytes then .error .bucketConsume
  else .ok { b with tokens := b.tokens - bytes }

/-- The time from which `min bytes burst` tokens exist; the wait is converted to a signed
duration. -/
def eligibleAt (bytes : ℕ) (now : ℤ) : ℤ × TokenBucket :=
  let b := b.refill now
  let target := min bytes b.burst
  if target ≤ b.tokens then (now, b)
  else (now + i64 (b.earnTime (target - b.tokens)), b)

/-- The credit held, in billionths of a byte. -/
def level : ℕ := b.tokens * nsPerSecond + b.carryProduct

/-- What every bucket satisfies. -/
structure Sound : Prop where
  rate_pos : 0 < b.rate
  burst_pos : 0 < b.burst
  tokens_le : b.tokens ≤ b.burst
  carry_lt : b.carryProduct < nsPerSecond
  carry_full : b.tokens = b.burst → b.carryProduct = 0

variable {b}

lemma create_spec {rate burst : ℕ} (start : ℤ) (hrate : 0 < rate) (hburst : 0 < burst) :
    ∃ b, create rate burst start = .ok b ∧ b.Sound ∧ b.rate = rate ∧ b.burst = burst ∧
      b.lastRefill = start := by
  refine ⟨_, if_neg (by omega), ⟨hrate, hburst, le_rfl, ?_, fun _ => rfl⟩, rfl, rfl, rfl⟩
  simp [nsPerSecond]

@[simp] lemma refill_rate (b : TokenBucket) (now : ℤ) : (b.refill now).rate = b.rate := by
  simp only [refill]
  split_ifs <;> rfl

@[simp] lemma refill_burst (b : TokenBucket) (now : ℤ) : (b.refill now).burst = b.burst := by
  simp only [refill]
  split_ifs <;> rfl

lemma refill_lastRefill (b : TokenBucket) (now : ℤ) :
    (b.refill now).lastRefill = max b.lastRefill now := by
  simp only [refill]
  split_ifs with hpast
  · exact (max_eq_left hpast).symm
  all_goals exact (max_eq_right (not_le.mp hpast).le).symm

lemma refill_of_le {now : ℤ} (h : now ≤ b.lastRefill) : b.refill now = b := if_pos h

/-- A second refill at the same time changes nothing. -/
@[simp] lemma refill_refill (b : TokenBucket) (now : ℤ) :
    (b.refill now).refill now = b.refill now :=
  refill_of_le (by rw [refill_lastRefill]; exact le_max_right _ _)

lemma eligibleAt_snd (b : TokenBucket) (bytes : ℕ) (now : ℤ) :
    (b.eligibleAt bytes now).2 = b.refill now := by
  simp only [eligibleAt]
  split_ifs <;> rfl

lemma Sound.refill (hs : b.Sound) (now : ℤ) : (b.refill now).Sound := by
  have hns : 0 < nsPerSecond := by simp [nsPerSecond]
  simp only [TokenBucket.refill]
  split_ifs with hpast hfull htokens
  · exact hs
  · exact ⟨hs.rate_pos, hs.burst_pos, le_rfl, hns, fun _ => rfl⟩
  · exact ⟨hs.rate_pos, hs.burst_pos, min_le_right _ _, hns, fun _ => rfl⟩
  · exact ⟨hs.rate_pos, hs.burst_pos, min_le_right _ _, Nat.mod_lt _ hns,
      fun h => absurd h htokens⟩

lemma Sound.consume (hs : b.Sound) {bytes : ℕ} (h : bytes ≤ b.tokens) :
    ∃ b', b.consume bytes = .ok b' ∧ b'.Sound ∧ b'.rate = b.rate ∧ b'.burst = b.burst ∧
      b'.lastRefill = b.lastRefill ∧ b'.level + bytes * nsPerSecond = b.level := by
  refine ⟨_, if_neg (by omega), ⟨hs.rate_pos, hs.burst_pos, ?_, hs.carry_lt, fun hfull => ?_⟩,
    rfl, rfl, rfl, ?_⟩
  · exact (Nat.sub_le _ _).trans hs.tokens_le
  · exact hs.carry_full (by have := hs.tokens_le; dsimp only at hfull; omega)
  · have hmul : (b.tokens - bytes) * nsPerSecond + bytes * nsPerSecond =
        b.tokens * nsPerSecond := by rw [← Nat.add_mul, Nat.sub_add_cancel h]
    simp only [level]
    omega

lemma Sound.level_le (hs : b.Sound) : b.level ≤ b.burst * nsPerSecond := by
  rcases hs.tokens_le.eq_or_lt with heq | hlt
  · rw [level, hs.carry_full heq, heq, Nat.add_zero]
  · have hnext : (b.tokens + 1) * nsPerSecond ≤ b.burst * nsPerSecond :=
      Nat.mul_le_mul_right _ hlt
    have := hs.carry_lt
    rw [level]
    linarith [Nat.add_mul b.tokens 1 nsPerSecond]

/-! ## What a refill adds -/

/-- The time to earn `bytes` tokens is long enough, unless the product wraps. -/
lemma le_earnTime_mul {bytes : ℕ} (hrate : 0 < b.rate)
    (hfit : bytes * nsPerSecond + b.rate - 1 < 2 ^ 64) :
    bytes * nsPerSecond ≤ b.earnTime bytes * b.rate := by
  rw [earnTime, u64_of_lt hfit]
  have hdiv := Nat.lt_div_mul_add (a := bytes * nsPerSecond + b.rate - 1) hrate
  omega

lemma earnTime_pos {bytes : ℕ} (hbytes : 0 < bytes) (hrate : 0 < b.rate)
    (hfit : bytes * nsPerSecond + b.rate - 1 < 2 ^ 64) : 0 < b.earnTime bytes := by
  have hle := le_earnTime_mul hrate hfit
  have hpos : 0 < bytes * nsPerSecond := Nat.mul_pos hbytes (by simp [nsPerSecond])
  exact Nat.pos_of_mul_pos_right (hpos.trans_le hle)

/-- The long-idle path is taken only past the time that fills the bucket; the bound on the burst
keeps the computed fill time from wrapping. -/
lemma earnTime_le_of_longIdle {elapsed : ℕ} (hrate : b.rate ≤ 1000000000)
    (hburst : b.burst ≤ 18000000000)
    (hidle : u64 (b.earnTime (b.burst - b.tokens) + nsPerSecond / b.rate + 1) ≤ u64 elapsed) :
    b.earnTime (b.burst - b.tokens) ≤ elapsed := by
  have hmissing : b.burst - b.tokens ≤ 18000000000 := (Nat.sub_le _ _).trans hburst
  have hquot : nsPerSecond / b.rate ≤ nsPerSecond := Nat.div_le_self _ _
  have htime : b.earnTime (b.burst - b.tokens) ≤ 18000000000 * nsPerSecond + 1000000000 := by
    rw [earnTime]
    refine (Nat.div_le_self _ _).trans ((u64_le _).trans ?_)
    simp only [nsPerSecond]
    omega
  have hsum : u64 (b.earnTime (b.burst - b.tokens) + nsPerSecond / b.rate + 1) =
      b.earnTime (b.burst - b.tokens) + nsPerSecond / b.rate + 1 := by
    apply u64_of_lt
    simp only [nsPerSecond] at hquot htime ⊢
    omega
  calc b.earnTime (b.burst - b.tokens)
      ≤ b.earnTime (b.burst - b.tokens) + nsPerSecond / b.rate + 1 := by
        rw [Nat.add_assoc]
        exact Nat.le_add_right _ _
    _ ≤ u64 elapsed := by rw [← hsum]; exact hidle
    _ ≤ elapsed := u64_le _

/-- The time that fills the bucket brings in what is missing. -/
lemma Sound.burst_le_of_earnTime_le (hs : b.Sound) (hrate : b.rate ≤ 1000000000)
    (hburst : b.burst ≤ 18000000000) {elapsed : ℕ}
    (hlong : b.earnTime (b.burst - b.tokens) ≤ elapsed) :
    b.burst * nsPerSecond ≤ b.level + b.rate * elapsed := by
  have hfit : (b.burst - b.tokens) * nsPerSecond + b.rate - 1 < 2 ^ 64 := by
    have hmissing : b.burst - b.tokens ≤ 18000000000 := (Nat.sub_le _ _).trans hburst
    simp only [nsPerSecond]
    omega
  have hcover := (le_earnTime_mul hs.rate_pos hfit).trans (Nat.mul_le_mul_right b.rate hlong)
  have hsplit : (b.burst - b.tokens) * nsPerSecond + b.tokens * nsPerSecond =
      b.burst * nsPerSecond := by
    rw [← Nat.add_mul, Nat.sub_add_cancel hs.tokens_le]
  rw [level]
  linarith [Nat.mul_comm elapsed b.rate]

/-- The tokens and the carry that an elapsed time turns into: wrapping and the cap only lose. -/
lemma earned_le (b : TokenBucket) (elapsed : ℕ) :
    min (u64 (b.tokens + u64 (u64 elapsed * b.rate + b.carryProduct) / nsPerSecond)) b.burst *
        nsPerSecond + u64 (u64 elapsed * b.rate + b.carryProduct) % nsPerSecond ≤
      b.level + b.rate * elapsed := by
  have hproduct : u64 (u64 elapsed * b.rate + b.carryProduct) ≤
      elapsed * b.rate + b.carryProduct :=
    (u64_le _).trans (Nat.add_le_add_right (Nat.mul_le_mul_right _ (u64_le _)) _)
  have hdiv := Nat.div_add_mod' (u64 (u64 elapsed * b.rate + b.carryProduct)) nsPerSecond
  have hearned : min (u64 (b.tokens +
      u64 (u64 elapsed * b.rate + b.carryProduct) / nsPerSecond)) b.burst * nsPerSecond ≤
      b.tokens * nsPerSecond +
        u64 (u64 elapsed * b.rate + b.carryProduct) / nsPerSecond * nsPerSecond := by
    rw [← Nat.add_mul]
    exact Nat.mul_le_mul_right _ ((min_le_left _ _).trans (u64_le _))
  have hcomm := Nat.mul_comm elapsed b.rate
  rw [level]
  omega

/-- A refill adds at most the income of the time it covers.  The long-idle path fills the bucket
outright, which is covered because it is taken only past the time that fills it. -/
lemma level_refill_le (hs : b.Sound) (hrate : b.rate ≤ 1000000000) (hburst : b.burst ≤ 18000000000)
    (now : ℤ) :
    ((b.refill now).level : ℤ) ≤ b.level + b.rate * (max b.lastRefill now - b.lastRefill) := by
  by_cases hpast : now ≤ b.lastRefill
  · rw [refill_of_le hpast, max_eq_left hpast]
    simp
  obtain ⟨elapsed, helapsed⟩ := Int.eq_ofNat_of_zero_le (by omega : 0 ≤ now - b.lastRefill)
  have hmax : max b.lastRefill now - b.lastRefill = (elapsed : ℤ) := by omega
  rw [hmax]
  suffices h : (b.refill now).level ≤ b.level + b.rate * elapsed by exact_mod_cast h
  rw [refill, if_neg hpast]
  simp only [helapsed, Int.toNat_natCast]
  split_ifs with hfull htokens
  · have hcover := hs.burst_le_of_earnTime_le hrate hburst
      (earnTime_le_of_longIdle hrate hburst hfull)
    simpa only [level, Nat.add_zero] using hcover
  · -- the cap was reached and the carry is dropped
    exact (Nat.add_le_add_left (Nat.zero_le _) _).trans (b.earned_le elapsed)
  · exact b.earned_le elapsed

end TokenBucket

end NetFault
