import Mathlib.Algebra.Order.Ring.Int
import Mathlib.Data.Nat.Count

/-!
# Two thresholds and the past

A value is observed from time to time.  What a switch with two thresholds should do is a statement
about the past: it is on exactly if the last observation that was not strictly between the
thresholds was at or above the upper one (`latched`).  The time it has been on up to `now` is the
number of instants, in units of the clock, at which the observations made so far had it on
(`latchedTime`).  `runs` counts how often a condition begins to hold.

Each of the three is determined by its value before the last observation and by that observation
(`latched_append`, `runs_append`, `latchedTime_append`); these are the rules by which a switch that
keeps a flag, a counter and a sum is shown to agree with them.
-/

namespace Hysteresis

/-! ## The state of the switch -/

section Latched

variable {α : Type*} [LinearOrder α]

/-- The last observation that is not strictly between the thresholds is at or above the upper. -/
def latched (low high : α) (observations : List α) : Bool :=
  (observations.reverse.find? fun value => decide (value ≤ low ∨ high ≤ value)).any
    fun value => decide (high ≤ value)

@[simp] lemma latched_nil (low high : α) : latched low high [] = false := rfl

/-- An observation outside of the band decides, one inside keeps what was. -/
lemma latched_append (low high : α) (observations : List α) (value : α) :
    latched low high (observations ++ [value]) =
      if high ≤ value then true else if value ≤ low then false
      else latched low high observations := by
  unfold latched
  rw [List.reverse_append, List.reverse_singleton, List.singleton_append, List.find?_cons]
  by_cases habove : high ≤ value
  · simp [habove]
  · by_cases hbelow : value ≤ low
    · simp [habove, hbelow]
    · simp [habove, hbelow]

end Latched

/-! ## Runs -/

section Runs

variable {α : Type*}

/-- The number of maximal runs of elements with `p`: those elements that do not directly follow
another such element. -/
def runs (p : α → Bool) (values : List α) : ℕ :=
  (values.zip (none :: values.map some)).countP fun pair => p pair.1 && !pair.2.any p

lemma countP_zip_append (p : α → Bool) (values : List α) (before : Option α) (value : α) :
    ((values ++ [value]).zip (before :: (values ++ [value]).map some)).countP
        (fun pair => p pair.1 && !pair.2.any p) =
      (values.zip (before :: values.map some)).countP (fun pair => p pair.1 && !pair.2.any p) +
        if p value && !(values.getLast?.or before).any p then 1 else 0 := by
  induction values generalizing before with
  | nil => simp [List.countP_cons]
  | cons first rest ih =>
      have hlast : (first :: rest).getLast?.or before = rest.getLast?.or (some first) := by
        rw [List.getLast?_cons]
        cases rest.getLast? <;> rfl
      simp only [List.cons_append, List.map_cons, List.zip_cons_cons, List.countP_cons]
      rw [ih (some first), hlast]
      omega

@[simp] lemma runs_nil (p : α → Bool) : runs p [] = 0 := rfl

/-- A run begins where the condition holds and did not hold before. -/
lemma runs_append (p : α → Bool) (values : List α) (value : α) :
    runs p (values ++ [value]) =
      runs p values + if p value && !values.getLast?.any p then 1 else 0 := by
  unfold runs
  rw [countP_zip_append, Option.or_none]

end Runs

/-! ## The time the switch has been on -/

section Time

variable {α : Type*} [LinearOrder α]

/-- The observations made by an instant have the switch on.  An observation is a value and its
time. -/
def latchedAt (low high : α) (observations : List (α × ℤ)) (instant : ℤ) : Bool :=
  latched low high ((observations.filter fun seen => decide (seen.2 ≤ instant)).map Prod.fst)

/-- The number of instants from `start` to `now` at which the switch is on. -/
def latchedTime (low high : α) (observations : List (α × ℤ)) (start now : ℤ) : ℕ :=
  Nat.count (fun elapsed => latchedAt low high observations (start + elapsed) = true)
    (now - start).toNat

@[simp] lemma latchedTime_nil (low high : α) (start now : ℤ) :
    latchedTime low high [] start now = 0 :=
  Nat.count_iff_forall_not.mpr fun _ _ h => by cases h

section Append

variable {low high : α} {observations : List (α × ℤ)} {instant time : ℤ}

/-- Before an observation the earlier ones decide. -/
lemma latchedAt_append_of_lt (value : α) (h : instant < time) :
    latchedAt low high (observations ++ [(value, time)]) instant =
      latchedAt low high observations instant := by
  unfold latchedAt
  rw [List.filter_append, List.filter_cons_of_neg (by simpa using h), List.filter_nil,
    List.append_nil]

/-- From its time on it belongs to them. -/
lemma latchedAt_append_of_le (value : α) (hpast : ∀ seen ∈ observations, seen.2 ≤ time)
    (h : time ≤ instant) :
    latchedAt low high (observations ++ [(value, time)]) instant =
      latched low high (observations.map Prod.fst ++ [value]) := by
  have hall : ∀ seen ∈ observations ++ [(value, time)], decide (seen.2 ≤ instant) = true := by
    intro seen hseen
    rcases List.mem_append.mp hseen with hseen | hseen
    · exact decide_eq_true ((hpast seen hseen).trans h)
    · rw [List.mem_singleton.mp hseen]
      exact decide_eq_true h
  unfold latchedAt
  rw [List.filter_eq_self.mpr hall, List.map_append, List.map_singleton]

/-- The time up to an observation, and the time since. -/
lemma latchedTime_append {start now : ℤ} (value : α) (hstart : start ≤ time) (hnow : time ≤ now)
    (hpast : ∀ seen ∈ observations, seen.2 ≤ time) :
    latchedTime low high (observations ++ [(value, time)]) start now =
      latchedTime low high observations start time +
        if latched low high (observations.map Prod.fst ++ [value]) then (now - time).toNat
        else 0 := by
  have hsplit : (now - start).toNat = (time - start).toNat + (now - time).toNat := by omega
  unfold latchedTime
  rw [hsplit, Nat.count_add]
  congr 1
  · have hbefore : ∀ elapsed < (time - start).toNat,
        (latchedAt low high (observations ++ [(value, time)]) (start + elapsed) = true ↔
          latchedAt low high observations (start + elapsed) = true) := by
      intro elapsed helapsed
      rw [latchedAt_append_of_lt value (by omega)]
    exact le_antisymm (Nat.count_mono_left fun elapsed h => (hbefore elapsed h).mp)
      (Nat.count_mono_left fun elapsed h => (hbefore elapsed h).mpr)
  · have hsince : ∀ elapsed : ℕ,
        latchedAt low high (observations ++ [(value, time)])
            (start + ((time - start).toNat + elapsed : ℕ)) =
          latched low high (observations.map Prod.fst ++ [value]) := by
      intro elapsed
      exact latchedAt_append_of_le value hpast (by omega)
    simp only [hsince]
    split_ifs with hlatched
    · exact Nat.count_iff_forall.mpr fun _ _ => hlatched
    · exact Nat.count_iff_forall_not.mpr fun _ _ => hlatched

end Append

end Time

end Hysteresis
