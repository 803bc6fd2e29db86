import NetFault.Lib.WordMix
import NetFault.Relay.Model
import Mathlib.Data.Fintype.EquivFin
import Mathlib.Logic.Function.Iterate

/-!
# Seeds do not collide and streams do not repeat

`splitmix64_mix` adds a constant and then alternates between a word combined with a shifted copy of
itself and a multiplication by an odd constant, so it is a permutation of the 64-bit words.  What
is derived with it, the seed of a connection and the seed of a direction, therefore identifies what
it was derived from; and since the state of a stream is a counter with an odd step, a stream goes
through all the 64-bit words before it repeats one.
-/

namespace NetFault

/-! ## The mixing function -/

lemma xorShift_injective {s : UInt64} (hs : 0 < s.toNat % 64) :
    Function.Injective fun value : UInt64 => value ^^^ (value >>> s) := by
  intro x y h
  apply UInt64.toBitVec_inj.mp
  apply WordMix.xorShift_injective hs
  have hbits := congrArg UInt64.toBitVec h
  simpa [BitVec.toNat_umod] using hbits

lemma mul_odd_injective {a : UInt64} (ha : Odd a.toNat) :
    Function.Injective fun value : UInt64 => value * a := by
  intro x y h
  apply UInt64.toBitVec_inj.mp
  apply WordMix.mul_odd_injective ha
  have hbits := congrArg UInt64.toBitVec h
  simpa only [UInt64.toBitVec_mul] using hbits

lemma splitmix64Mix_injective : Function.Injective splitmix64Mix := by
  have hgamma : Function.Injective fun value : UInt64 => value + kSplitMix64Gamma := by
    intro x y h
    exact (UInt64.add_left_inj kSplitMix64Gamma).mp h
  have hfirst : Function.Injective fun value : UInt64 => value * 0xBF58476D1CE4E5B9 :=
    mul_odd_injective (by decide)
  have hsecond : Function.Injective fun value : UInt64 => value * 0x94D049BB133111EB :=
    mul_odd_injective (by decide)
  -- the steps in the order of the source, the last one outermost
  exact (xorShift_injective (s := 31) (by decide)).comp <| hsecond.comp <|
    (xorShift_injective (s := 27) (by decide)).comp <| hfirst.comp <|
    (xorShift_injective (s := 30) (by decide)).comp hgamma

/-- The mixing function permutes the words, since there are finitely many of them. -/
lemma splitmix64Mix_bijective : Function.Bijective splitmix64Mix := by
  have hfinite : Finite UInt64 :=
    Finite.of_injective UInt64.toFin fun x y h => UInt64.toFin_inj.mp h
  exact Finite.injective_iff_bijective.mp splitmix64Mix_injective

/-! ## The stream -/

/-- The generator after `n` words were drawn. -/
def SplitMix64.after (n : ℕ) (rng : SplitMix64) : SplitMix64 := (fun rng => rng.next.2)^[n] rng

/-- The word that is drawn after `n` others. -/
def SplitMix64.output (n : ℕ) (rng : SplitMix64) : UInt64 := (rng.after n).next.1

/-- The state is a counter. -/
lemma SplitMix64.after_state (n : ℕ) (rng : SplitMix64) :
    (rng.after n).state = rng.state + UInt64.ofNat n * kSplitMix64Gamma := by
  induction n with
  | zero =>
      show rng.state = rng.state + 0 * kSplitMix64Gamma
      rw [UInt64.zero_mul, UInt64.add_zero]
  | succ n ih =>
      have hstep : (rng.after (n + 1)).state = (rng.after n).state + kSplitMix64Gamma := by
        rw [SplitMix64.after, Function.iterate_succ_apply']
        rfl
      rw [hstep, ih, UInt64.ofNat_add, UInt64.add_mul, UInt64.ofNat_one, UInt64.one_mul,
        UInt64.add_assoc]

/-- Two of the first `2 ^ 64` words are equal only if they are the same one. -/
lemma SplitMix64.output_injOn (rng : SplitMix64) :
    Set.InjOn (fun n => rng.output n) (Set.Iio (2 ^ 64)) := by
  intro n hn m hm h
  have hstate : (rng.after n).state = (rng.after m).state := splitmix64Mix_injective h
  rw [SplitMix64.after_state, SplitMix64.after_state] at hstate
  have hodd : Odd kSplitMix64Gamma.toBitVec.toNat := by decide
  exact WordMix.counter_injOn hodd rng.state.toBitVec hn hm (congrArg UInt64.toBitVec hstate)

/-! ## The seeds -/

lemma deriveConnectionSeed_injective (masterSeed : UInt64) :
    Function.Injective (deriveConnectionSeed masterSeed) := by
  intro x y h
  exact (UInt64.xor_right_inj _).mp (splitmix64Mix_injective h)

lemma deriveConnectionSeed_master_injective (connectionId : UInt64) :
    Function.Injective fun masterSeed => deriveConnectionSeed masterSeed connectionId := by
  intro x y h
  exact splitmix64Mix_injective ((UInt64.xor_left_inj _).mp (splitmix64Mix_injective h))

lemma deriveDirectionSeed_injective (directionIndex : UInt64) :
    Function.Injective fun connectionSeed => deriveDirectionSeed connectionSeed directionIndex := by
  intro x y h
  exact (UInt64.xor_left_inj _).mp (splitmix64Mix_injective h)

/-- The two directions of a connection, by the index the relay gives them. -/
lemma deriveDirectionSeed_side_injective (connectionSeed : UInt64) :
    Function.Injective fun source : Side =>
      deriveDirectionSeed connectionSeed source.directionIndex := by
  intro source source' h
  have hindex := (UInt64.xor_right_inj _).mp (splitmix64Mix_injective h)
  cases source <;> cases source' <;> first | rfl | exact absurd hindex (by decide)

/-- **Seeds do not collide and streams do not repeat.**  The mixing function is a permutation of
the words; the seed of a connection determines its id for every master seed, and the master seed
for every id; the two directions of a connection have different seeds, and so have the same
directions of connections with different seeds; and no word occurs twice among the first `2 ^ 64` of
a stream. -/
theorem seeds_distinct :
    Function.Bijective splitmix64Mix ∧
      (∀ masterSeed, Function.Injective fun connectionId =>
        deriveConnectionSeed masterSeed connectionId) ∧
      (∀ connectionId, Function.Injective fun masterSeed =>
        deriveConnectionSeed masterSeed connectionId) ∧
      (∀ connectionSeed, Function.Injective fun source : Side =>
        deriveDirectionSeed connectionSeed source.directionIndex) ∧
      (∀ directionIndex, Function.Injective fun connectionSeed =>
        deriveDirectionSeed connectionSeed directionIndex) ∧
      ∀ rng : SplitMix64, Set.InjOn (fun n => rng.output n) (Set.Iio (2 ^ 64)) :=
  ⟨splitmix64Mix_bijective, deriveConnectionSeed_injective, deriveConnectionSeed_master_injective,
    deriveDirectionSeed_side_injective, deriveDirectionSeed_injective, SplitMix64.output_injOn⟩

end NetFault
