import Mathlib.Algebra.Ring.Parity
import Mathlib.Data.Int.ModEq
import Mathlib.Data.Nat.Prime.Basic
import Mathlib.Data.Set.Function
import Mathlib.Order.Interval.Set.Defs

/-!
# Mixing steps that lose nothing

The steps from which mixing functions on `w`-bit words are built: a word is combined with a shifted
copy of itself, or multiplied by an odd constant.  Both are injective, and so a mixing function
composed of them is a permutation of the words.  A counter that goes up by an odd constant takes
`2 ^ w` different values before it comes back to the first.
-/

namespace WordMix

variable {w : ℕ}

/-- A word that equals a shifted copy of itself is zero. -/
lemma eq_zero_of_eq_ushiftRight {z : BitVec w} {s : ℕ} (hs : 0 < s) (h : z = z >>> s) :
    z = 0#w := by
  have hnat : z.toNat = z.toNat / 2 ^ s := by
    conv_lhs => rw [h]
    rw [BitVec.toNat_ushiftRight, Nat.shiftRight_eq_div_pow]
  apply BitVec.eq_of_toNat_eq
  rw [BitVec.toNat_zero]
  by_contra hne
  have hlt : z.toNat / 2 ^ s < z.toNat :=
    Nat.div_lt_self (Nat.pos_of_ne_zero hne) (Nat.one_lt_two_pow hs.ne')
  omega

/-- **A word with a shifted copy of itself.**  The difference of two words with the same image
equals its own shifted copy. -/
theorem xorShift_injective {s : ℕ} (hs : 0 < s) :
    Function.Injective fun x : BitVec w => x ^^^ (x >>> s) := by
  intro x y h
  have hxor : x ^^^ y = (x ^^^ y) >>> s := by
    calc x ^^^ y
        = (x ^^^ (x >>> s)) ^^^ (x >>> s) ^^^ y := by
          rw [BitVec.xor_assoc x, BitVec.xor_self, BitVec.xor_zero]
      _ = (y ^^^ (y >>> s)) ^^^ (x >>> s) ^^^ y := by rw [show x ^^^ _ = y ^^^ _ from h]
      _ = (x >>> s) ^^^ (y >>> s) := by
          rw [BitVec.xor_comm, BitVec.xor_assoc, ← BitVec.xor_assoc y, BitVec.xor_self,
            BitVec.zero_xor, BitVec.xor_comm]
      _ = (x ^^^ y) >>> s := (BitVec.ushiftRight_xor_distrib x y s).symm
  have hzero := eq_zero_of_eq_ushiftRight hs hxor
  calc x = x ^^^ (y ^^^ y) := by rw [BitVec.xor_self, BitVec.xor_zero]
    _ = (x ^^^ y) ^^^ y := (BitVec.xor_assoc x y y).symm
    _ = y := by rw [hzero, BitVec.zero_xor]

/-- **An odd multiplier** is prime to the number of words. -/
theorem mul_odd_injective {a : BitVec w} (ha : Odd a.toNat) :
    Function.Injective fun x : BitVec w => x * a := by
  intro x y h
  have hmod : x.toNat * a.toNat ≡ y.toNat * a.toNat [MOD 2 ^ w] := by
    have hnat := congrArg BitVec.toNat h
    rwa [BitVec.toNat_mul, BitVec.toNat_mul] at hnat
  have hcoprime : Nat.gcd (2 ^ w) a.toNat = 1 :=
    Nat.Coprime.pow_left w (Nat.coprime_two_left.mpr ha)
  have hcancel := Nat.ModEq.cancel_right_of_coprime hcoprime hmod
  exact BitVec.eq_of_toNat_eq (Nat.ModEq.eq_of_lt_of_lt hcancel x.isLt y.isLt)

/-- **A counter with an odd step** does not repeat itself before it has taken every value. -/
theorem counter_injOn {a : BitVec w} (ha : Odd a.toNat) (seed : BitVec w) :
    Set.InjOn (fun n => seed + BitVec.ofNat w n * a) (Set.Iio (2 ^ w)) := by
  intro n hn m hm h
  have hmul : BitVec.ofNat w n = BitVec.ofNat w m :=
    mul_odd_injective ha (BitVec.add_right_inj seed |>.mp h)
  have hnat := congrArg BitVec.toNat hmul
  rwa [BitVec.toNat_ofNat, BitVec.toNat_ofNat, Nat.mod_eq_of_lt hn, Nat.mod_eq_of_lt hm] at hnat

end WordMix
