import Mathlib.Data.Int.Order.Basic
import Mathlib.Data.List.Sort
import Mathlib.Order.Bounds.Basic
import Mathlib.Tactic.NormNum
import NetFault.Lib.BinaryFloat

/-!
# Nearest-rank percentiles

The client works out the rank of a percentile with `double`s: it divides, multiplies and rounds up.
Rounding up is not continuous, so a product that should be an integer and comes out a little larger
gives the next rank; of 7 percent of 100 samples, the code would take the eighth.  The shares the
client asks for are 50, 90 and 99 percent, and for these the rank is the right one
(`percentileRank_eq`): the error of the share is so small that the rounding of the product
removes it.
-/

namespace NetFault

/-- An operation on `double`s, with a positive result in the range of normal numbers. -/
def binary64 (x : ℚ) : ℚ := BinaryFloat.round 53 x

namespace Client

/-- The rank of a percentile among `size` samples. -/
def percentileRank (size : ℕ) (p : ℚ) : ℕ :=
  (max 1 ⌈binary64 (binary64 (p / 100) * binary64 size)⌉).toNat

/-- `percentile`, of samples in order; a read behind the last one has no value. -/
def percentile (sorted : List ℤ) (p : ℚ) : Option ℤ := sorted[percentileRank sorted.length p - 1]?

/-! ## The rank -/

lemma binary64_natCast {n : ℕ} (hn : n < 2 ^ 53) : binary64 n = n := by
  rcases Nat.eq_zero_or_pos n with rfl | hpos
  · simp [binary64, BinaryFloat.round, BinaryFloat.roundHalfEven]
  · apply BinaryFloat.round_eq_natCast (by exact_mod_cast hpos) (by exact_mod_cast hn)
    rw [sub_self, abs_zero]
    exact half_pos (BinaryFloat.ulp_pos _ _)

/-- The share of a percentile is closer to the exact one than the format promises. -/
def Sharp (p : ℕ) : Prop := |binary64 (p / 100) - p / 100| ≤ p / 100 / 2 ^ 55

/-- The numbers of the format between a half and one are the multiples of 2^-53. -/
lemma binary64_of_half_le {x : ℚ} (hlow : 1 / 2 ≤ x) (hhigh : x < 1) {m : ℤ}
    (hm : |(m : ℚ) - x * 2 ^ 53| < 1 / 2) : binary64 x = m / 2 ^ 53 := by
  have hpos : 0 < x := by linarith
  have hlog : Int.log 2 x = -1 := by
    have hle := (Int.zpow_le_iff_le_log (b := 2) (by norm_num) hpos (x := -1)).mp
      (by norm_num; linarith)
    have hlt := (Int.lt_zpow_iff_log_lt (b := 2) (by norm_num) hpos (x := 0)).mp
      (by norm_num; linarith)
    omega
  have hulp : BinaryFloat.ulp 53 x = 1 / 2 ^ 53 := by
    rw [BinaryFloat.ulp_eq, hlog]
    norm_num
  rw [binary64, BinaryFloat.round, hulp, BinaryFloat.roundHalfEven_eq (m := m) (by simpa using hm)]
  ring

lemma sharp_of_share {p : ℕ} (h : p = 50 ∨ p = 90 ∨ p = 99) : Sharp p := by
  rw [Sharp]
  rcases h with rfl | rfl | rfl
  · rw [binary64_of_half_le (m := 4503599627370496) (by norm_num) (by norm_num) (by norm_num)]
    norm_num
  · rw [binary64_of_half_le (m := 8106479329266893) (by norm_num) (by norm_num)
      (by norm_num [abs_lt])]
    norm_num [abs_le]
  · rw [binary64_of_half_le (m := 8917127262193582) (by norm_num) (by norm_num)
      (by norm_num [abs_lt])]
    norm_num [abs_le]

/-- Half the distance of neighbours, as a share of the number. -/
lemma lt_ulp_div_two {x : ℚ} (hx : 0 < x) : x / 2 ^ 54 < BinaryFloat.ulp 53 x / 2 := by
  have hupper := (BinaryFloat.zpow_log_le hx).2
  rw [BinaryFloat.ulp_eq]
  linarith

/-- **The rank is the nearest one**: the percentage of the samples, rounded up. -/
lemma percentileRank_eq {p n : ℕ} (hp : 0 < p) (hshare : p ≤ 100) (hsharp : Sharp p) (hn : 0 < n)
    (hbound : n ≤ 2 ^ 44) : percentileRank n p = (p * n + 99) / 100 := by
  have hcount : (1 : ℚ) ≤ n ∧ (n : ℚ) ≤ 2 ^ 44 := ⟨by exact_mod_cast hn, by exact_mod_cast hbound⟩
  have hpercent : (1 : ℚ) ≤ p ∧ (p : ℚ) ≤ 100 := ⟨by exact_mod_cast hp, by exact_mod_cast hshare⟩
  rw [percentileRank, binary64_natCast (by omega)]
  rw [Sharp, abs_le] at hsharp
  generalize binary64 (p / 100) = share at hsharp
  -- the exact product, and the one of the rounded share
  obtain ⟨x, hx⟩ : ∃ x : ℚ, x = p * n / 100 := ⟨_, rfl⟩
  obtain ⟨y, hy⟩ : ∃ y : ℚ, y = share * n := ⟨_, rfl⟩
  have hxpos : 0 < x := by rw [hx]; positivity
  have hxle : x ≤ 2 ^ 44 := by
    rw [hx]
    nlinarith
  have hclose : |y - x| ≤ x / 2 ^ 55 := by
    have hscaled : y - x = (share - p / 100) * n := by rw [hx, hy]; ring
    have hgoal : x / 2 ^ 55 = p / 100 / 2 ^ 55 * n := by rw [hx]; ring
    rw [hscaled, hgoal, abs_mul, abs_of_pos (by linarith : (0 : ℚ) < n)]
    exact mul_le_mul_of_nonneg_right (abs_le.mpr hsharp) (by linarith)
  rw [abs_le] at hclose
  have hypos : 0 < y := by linarith
  have hexact : 100 * x = p * n := by rw [hx]; ring
  have hdivision := Nat.div_add_mod (p * n) 100
  have hremainder := Nat.mod_lt (p * n) (y := 100) (by decide)
  obtain ⟨m, hm⟩ : ∃ m, m = p * n / 100 := ⟨_, rfl⟩
  obtain ⟨r, hr⟩ : ∃ r, r = p * n % 100 := ⟨_, rfl⟩
  rw [← hm, ← hr] at hdivision
  rw [← hr] at hremainder
  have hcast : (100 : ℚ) * m + r = 100 * x := by
    rw [hexact]
    exact_mod_cast hdivision
  rw [← hy]
  suffices hceil : ⌈binary64 y⌉ = ((p * n + 99) / 100 : ℕ) by
    rw [hceil]
    have hpos : 1 ≤ (p * n + 99) / 100 := by
      have := Nat.mul_pos hp hn
      omega
    omega
  rcases Nat.eq_zero_or_pos r with hzero | hrest
  · -- the exact product is an integer, and nearer than half a distance
    have hxm : x = m := by
      rw [hzero] at hcast
      push_cast at hcast
      linarith
    have hround : binary64 y = m := by
      apply BinaryFloat.round_eq_natCast hypos (by linarith)
      have hhalf := lt_ulp_div_two hypos
      rw [← hxm, abs_lt]
      constructor <;> linarith
    rw [hround, Int.ceil_natCast]
    omega
  · -- the exact product is at least a hundredth away from the integers around it
    have herror := BinaryFloat.abs_round_sub_le 53 hypos
    rw [abs_le] at herror
    have hrestBounds : (1 : ℚ) ≤ r ∧ (r : ℚ) ≤ 99 :=
      ⟨by exact_mod_cast hrest, by exact_mod_cast Nat.le_of_lt_succ hremainder⟩
    have hnext : (p * n + 99) / 100 = m + 1 := by omega
    rw [hnext, Int.ceil_eq_iff, binary64]
    push_cast
    constructor <;> linarith

/-! ## The value -/

/-- **The element of a rank**, of a list in order: at least that many are not above it, and of any
smaller value fewer. -/
lemma isLeast_getElem {sorted : List ℤ} (hsorted : sorted.Pairwise (· ≤ ·)) {i : ℕ}
    (hi : i < sorted.length) : IsLeast {v : ℤ | i < sorted.countP (· ≤ v)} sorted[i] := by
  have hmono : ∀ j k (hj : j < sorted.length) (hk : k < sorted.length), j ≤ k →
      sorted[j] ≤ sorted[k] := by
    intro j k hj hk hjk
    rcases hjk.eq_or_lt with rfl | hlt
    · exact le_rfl
    · exact List.pairwise_iff_getElem.mp hsorted j k hj hk hlt
  constructor
  · -- the elements up to the rank are not above
    have hall : (sorted.take (i + 1)).countP (· ≤ sorted[i]) = i + 1 := by
      rw [List.countP_eq_length.mpr, List.length_take, min_eq_left hi]
      intro v hv
      obtain ⟨j, hj, rfl⟩ := List.mem_take_iff_getElem.mp hv
      exact decide_eq_true (hmono j i (by omega) hi (by omega))
    have hcount : (sorted.take (i + 1)).countP (· ≤ sorted[i]) ≤ sorted.countP (· ≤ sorted[i]) :=
      (List.take_sublist _ _).countP_le
    rw [hall] at hcount
    exact hcount
  · -- a smaller value is below all elements from the rank on
    intro v hv
    by_contra hlt
    have hnone : (sorted.drop i).countP (· ≤ v) = 0 := by
      rw [List.countP_eq_zero]
      intro w hw
      obtain ⟨j, hj, rfl⟩ := List.mem_drop_iff_getElem.mp hw
      have hle := hmono i (i + j) hi (by omega) (by omega)
      simp only [decide_eq_true_eq]
      omega
    have hcount : sorted.countP (· ≤ v) ≤ i := by
      rw [← List.take_append_drop i sorted, List.countP_append, hnone, Nat.add_zero]
      exact List.countP_le_length.trans (List.length_take_le _ _)
    exact absurd hv (not_lt.mpr hcount)

/-- `std::sort` of the samples. -/
def sortSamples (samples : List ℤ) : List ℤ := samples.insertionSort (· ≤ ·)

lemma sortSamples_perm (samples : List ℤ) : (sortSamples samples).Perm samples :=
  List.perm_insertionSort _ _

lemma sortSamples_pairwise (samples : List ℤ) : (sortSamples samples).Pairwise (· ≤ ·) :=
  List.pairwise_insertionSort _ _

/-- A percentile of samples: the least value that this percentage of them does not exceed. -/
def IsPercentile (samples : List ℤ) (p : ℕ) (v : ℤ) : Prop :=
  IsLeast {w : ℤ | p * samples.length ≤ 100 * samples.countP (· ≤ w)} v

/-- **Percentiles are nearest ranks.**  For any samples, up to 2^44 of them, and each of the three
percentages of the client, the value that `percentile` returns is one of the samples, and the least
that this percentage of them does not exceed. -/
theorem percentile_nearest_rank (samples : List ℤ) (p : ℕ) (hp : p = 50 ∨ p = 90 ∨ p = 99)
    (hsome : samples ≠ []) (hbound : samples.length ≤ 2 ^ 44) :
    ∃ v ∈ samples, percentile (sortSamples samples) p = some v ∧ IsPercentile samples p v := by
  have hperm := sortSamples_perm samples
  have hlength := hperm.length_eq
  have hpos : 0 < samples.length := List.length_pos_of_ne_nil hsome
  have hshare : 0 < p ∧ p ≤ 100 := by omega
  have hrank := percentileRank_eq hshare.1 hshare.2 (sharp_of_share hp) hpos hbound
  have hproduct := Nat.mul_le_mul_right samples.length hshare.2
  have hproductPos := Nat.mul_pos hshare.1 hpos
  obtain ⟨i, hi⟩ : ∃ i, i + 1 = (p * samples.length + 99) / 100 :=
    ⟨(p * samples.length + 99) / 100 - 1, by omega⟩
  have hlt : i < (sortSamples samples).length := by omega
  have hleast := isLeast_getElem (sortSamples_pairwise samples) hlt
  refine ⟨(sortSamples samples)[i], hperm.mem_iff.mp (List.getElem_mem _), ?_, ?_⟩
  · rw [← hlength] at hrank hi
    rw [percentile, hrank, ← hi, Nat.add_sub_cancel, List.getElem?_eq_getElem hlt]
  · -- a count reaches the rank exactly if it reaches the percentage
    rw [IsPercentile]
    convert hleast using 2
    ext w
    rw [hperm.countP_eq]
    omega

/-- The median of four samples is the second. -/
theorem percentile_nearest_rank_median :
    percentile (sortSamples [40, 10, 30, 20]) (50 : ℕ) = some 20 := by
  obtain ⟨v, hv, hreturned, hreached, hleast⟩ :=
    percentile_nearest_rank [40, 10, 30, 20] 50 (.inl rfl) (by decide) (by decide)
  have hle : v ≤ 20 := hleast (by decide)
  have hne : v ≠ 10 := by
    rintro rfl
    exact absurd hreached (by decide)
  have hmedian : v = 20 := by
    simp only [List.mem_cons, List.not_mem_nil, or_false] at hv
    omega
  rw [hreturned, hmedian]

end Client

end NetFault
