import NetFault.Basic
import Mathlib.Algebra.Order.Field.Rat
import Mathlib.Data.Rat.Defs

/-!
# Deterministic fault randomness

The SplitMix64 stream and the seed derivation master → connection → direction, on 64-bit words.
`sampleUnitInterval` is exact: the top 53 bits times `2⁻⁵³` is a double, so the comparison with a
probability is a comparison of rationals.
-/

namespace NetFault

def kSplitMix64Gamma : UInt64 := 0x9E3779B97F4A7C15

def splitmix64Mix (value : UInt64) : UInt64 :=
  let value := value + kSplitMix64Gamma
  let value := (value ^^^ (value >>> 30)) * 0xBF58476D1CE4E5B9
  let value := (value ^^^ (value >>> 27)) * 0x94D049BB133111EB
  value ^^^ (value >>> 31)

structure SplitMix64 where
  state : UInt64
  deriving DecidableEq, Repr

/-- The next word of the stream, and the advanced generator. -/
def SplitMix64.next (rng : SplitMix64) : UInt64 × SplitMix64 :=
  (splitmix64Mix rng.state, ⟨rng.state + kSplitMix64Gamma⟩)

def deriveConnectionSeed (masterSeed connectionId : UInt64) : UInt64 :=
  splitmix64Mix (splitmix64Mix masterSeed ^^^ connectionId)

def deriveDirectionSeed (connectionSeed directionIndex : UInt64) : UInt64 :=
  splitmix64Mix (connectionSeed ^^^ (directionIndex + 1))

def sampleUnitInterval (randomBits : UInt64) : ℚ :=
  (randomBits >>> 11).toNat / 2 ^ 53

/-- A duration in `[-jitter, jitter]`; without jitter no word is drawn. -/
def sampleJitter (rng : SplitMix64) (jitter : ℤ) : ℤ × SplitMix64 :=
  if jitter ≤ 0 then
    (0, rng)
  else
    let range := UInt64.ofNat jitter.toNat * 2 + 1
    let (word, rng) := rng.next
    (i64 (word % range).toNat - jitter, rng)

/-- A sample stays within the jitter, for every jitter whose range `2 * jitter + 1` is a signed
64-bit number. -/
lemma sampleJitter_mem (rng : SplitMix64) {jitter : ℤ} (hnonneg : 0 ≤ jitter)
    (hfit : jitter < 2 ^ 62) :
    -jitter ≤ (sampleJitter rng jitter).1 ∧ (sampleJitter rng jitter).1 ≤ jitter := by
  rw [sampleJitter]
  split_ifs with hz
  · simp only
    omega
  · obtain ⟨j, rfl⟩ := Int.eq_ofNat_of_zero_le hnonneg
    have hj : j < 2 ^ 62 := by exact_mod_cast hfit
    have hrange : (UInt64.ofNat j * 2 + 1).toNat = 2 * j + 1 := by
      simp only [UInt64.toNat_add, UInt64.toNat_mul, UInt64.toNat_ofNat', UInt64.toNat_ofNat]
      omega
    have hlt : (rng.next.1 % (UInt64.ofNat j * 2 + 1)).toNat < 2 * j + 1 := by
      rw [UInt64.toNat_mod, hrange]
      exact Nat.mod_lt _ (by omega)
    simp only [Int.toNat_natCast]
    rw [i64_of_abs_lt (by omega) (by omega)]
    omega

end NetFault
