import NetFault.Relay.Jitter

/-!
# The limits of latency and jitter over the whole 64-bit range

`FaultPlan::validate` adds user-supplied durations before it compares them, so the sums it forms
can leave the millisecond type they are formed in.  `SumsFit` says for which values they do not;
there the limits are enforced as integers, and everything the relay computes from an accepted plan
stays in range.
-/

namespace NetFault

namespace FaultPlan

/-- The sums `validate` forms before it returns or throws, as integers. -/
def validateSums (plan : FaultPlan) : List ℤ :=
  if plan.applyProbability < 0 ∨ plan.applyProbability > 1 then []
  else if plan.latency < 0 ∨ plan.jitter < 0 then []
  else if plan.jitter > i64 (plan.latency + 10000) then [plan.latency + 10000]
  else [plan.latency + 10000, plan.latency + plan.jitter]

/-- The limits of latency and jitter, as integers. -/
structure WithinLimits (plan : FaultPlan) : Prop where
  latency_nonneg : 0 ≤ plan.latency
  jitter_nonneg : 0 ≤ plan.jitter
  jitter_le : plan.jitter ≤ plan.latency + 10000
  sum_le : plan.latency + plan.jitter ≤ 60000

/-- What the relay computes from latency and jitter stays in range: the conversion to nanoseconds,
and for every channel of the plan, wherever its generator stands, the range of a sample, its sum
with the latency, and the stamp at any reading below `2 ^ 62`. -/
structure DelaysFit (plan : FaultPlan) : Prop where
  latency : IsInt64 (plan.latency * 1000000)
  jitter : IsInt64 (plan.jitter * 1000000)
  range : ∀ channel : FaultChannel, channel.Follows plan → IsInt64 (2 * channel.jitter + 1)
  sum : ∀ channel : FaultChannel, channel.Follows plan →
    IsInt64 (channel.latency + (sampleJitter channel.rng channel.jitter).1)
  stamp : ∀ channel : FaultChannel, channel.Follows plan → ∀ now : ℤ, IsInt64 now →
    now < 2 ^ 62 → IsInt64 (now + (drawDelay channel.latency channel.jitter channel.rng).1)

/-- `validate` guards its plan: no sum of its own overflows, what it accepts is within the limits,
and what is computed from it stays in range. -/
structure Guarded (plan : FaultPlan) : Prop where
  sums : ∀ sum ∈ plan.validateSums, IsInt64 sum
  limits : plan.validate = .ok () → plan.WithinLimits
  delays : plan.validate = .ok () → plan.DelaysFit

/-- Either an earlier check fails, or both sums fit: the latency leaves room for ten seconds, and
the jitter either fits on top of the latency or is rejected before it is added. -/
def SumsFit (plan : FaultPlan) : Prop :=
  (plan.applyProbability < 0 ∨ plan.applyProbability > 1) ∨
    plan.latency < 0 ∨ plan.jitter < 0 ∨
    (plan.latency + 10000 < 2 ^ 63 ∧
      (plan.latency + plan.jitter < 2 ^ 63 ∨ plan.latency + 10000 < plan.jitter))

instance (plan : FaultPlan) : Decidable plan.SumsFit :=
  inferInstanceAs (Decidable (_ ∨ _ ∨ _ ∨ (_ ∧ (_ ∨ _))))

variable {plan : FaultPlan}

/-- A sample within the jitter, added to the latency, stays within both. -/
lemma WithinLimits.sample_mem (h : plan.WithinLimits) {channel : FaultChannel}
    (hc : channel.Follows plan) :
    channel.latency = plan.latency * 1000000 ∧ channel.jitter = plan.jitter * 1000000 ∧
      -channel.jitter ≤ (sampleJitter channel.rng channel.jitter).1 ∧
      (sampleJitter channel.rng channel.jitter).1 ≤ channel.jitter := by
  obtain ⟨hlatency, hjitter, hle, hsum⟩ := h
  have hl : channel.latency = plan.latency * 1000000 :=
    hc.latency.trans (i64_of_abs_lt (by omega) (by omega))
  have hj : channel.jitter = plan.jitter * 1000000 :=
    hc.jitter.trans (i64_of_abs_lt (by omega) (by omega))
  exact ⟨hl, hj, sampleJitter_mem channel.rng (by omega) (by omega)⟩

lemma WithinLimits.delaysFit (h : plan.WithinLimits) : plan.DelaysFit := by
  have hbounds := h
  obtain ⟨hlatency, hjitter, hle, hsum⟩ := hbounds
  refine ⟨⟨by omega, by omega⟩, ⟨by omega, by omega⟩, fun channel hc => ?_, fun channel hc => ?_,
    fun channel hc now hnow hsmall => ?_⟩
  · obtain ⟨-, hj, -⟩ := h.sample_mem hc
    constructor <;> omega
  · obtain ⟨hl, hj, hlo, hhi⟩ := h.sample_mem hc
    constructor <;> omega
  · obtain ⟨hl, hj, hlo, hhi⟩ := h.sample_mem hc
    obtain ⟨hmin, -⟩ := hnow
    unfold drawDelay
    dsimp only
    split_ifs <;> constructor <;> omega

/-- What the condition says once the earlier checks have passed. -/
lemma SumsFit.bounds (h : plan.SumsFit)
    (hprob : ¬(plan.applyProbability < 0 ∨ plan.applyProbability > 1))
    (hneg : ¬(plan.latency < 0 ∨ plan.jitter < 0)) :
    plan.latency + 10000 < 2 ^ 63 ∧
      (¬plan.latency + 10000 < plan.jitter → plan.latency + plan.jitter < 2 ^ 63) := by
  obtain hbad | hbad | hbad | ⟨hfirst, hsecond⟩ := h
  · exact absurd hbad hprob
  · exact absurd (.inl hbad) hneg
  · exact absurd (.inr hbad) hneg
  · exact ⟨hfirst, hsecond.resolve_right⟩

/-- Where the sums fit, the two checks compare integers. -/
lemma SumsFit.withinLimits (h : plan.SumsFit) (hvalid : plan.validate = .ok ()) :
    plan.WithinLimits := by
  unfold validate at hvalid
  split_ifs at hvalid with hprob hneg hjitter hlong
  obtain ⟨hfirst, hsecond⟩ := h.bounds hprob hneg
  rw [i64_of_abs_lt (by omega) hfirst] at hjitter
  rw [i64_of_abs_lt (by omega) (hsecond hjitter)] at hlong
  exact ⟨by omega, by omega, not_lt.mp hjitter, not_lt.mp hlong⟩

lemma SumsFit.sums (h : plan.SumsFit) : ∀ sum ∈ plan.validateSums, IsInt64 sum := by
  unfold validateSums
  split_ifs with hprob hneg hjitter
  · simp
  · simp
  · obtain ⟨hfirst, -⟩ := h.bounds hprob hneg
    simp only [List.mem_singleton, forall_eq]
    exact ⟨by omega, hfirst⟩
  · obtain ⟨hfirst, hsecond⟩ := h.bounds hprob hneg
    rw [i64_of_abs_lt (by omega) hfirst] at hjitter
    simp only [List.mem_cons, List.not_mem_nil, or_false, forall_eq_or_imp, forall_eq]
    exact ⟨⟨by omega, hfirst⟩, by omega, hsecond hjitter⟩

lemma Guarded.sumsFit (h : plan.Guarded) : plan.SumsFit := by
  have hsums := h.sums
  unfold validateSums at hsums
  unfold SumsFit
  split_ifs at hsums with hprob hneg hjitter
  · exact .inl hprob
  · exact .inr (or_assoc.1 (.inl hneg))
  · have hfirst : IsInt64 (plan.latency + 10000) := hsums _ (List.mem_singleton_self _)
    rw [i64_of_abs_lt hfirst.1 hfirst.2] at hjitter
    exact .inr (.inr (.inr ⟨hfirst.2, .inr hjitter⟩))
  · have hfirst : IsInt64 (plan.latency + 10000) := hsums _ (by simp)
    have hsecond : IsInt64 (plan.latency + plan.jitter) := hsums _ (by simp)
    exact .inr (.inr (.inr ⟨hfirst.2, .inl hsecond.2⟩))

/-- **Which latencies and jitters `validate` guards.**  Whatever latency and jitter: no sum of
`validate` overflows, it accepts only plans within its limits, and every value the relay computes
from an accepted plan stays in range, exactly when the sums fit. -/
theorem guarded_iff_sumsFit (plan : FaultPlan) : plan.Guarded ↔ plan.SumsFit := by
  constructor
  · intro h
    exact h.sumsFit
  · intro h
    exact ⟨h.sums, h.withinLimits, fun hvalid => (h.withinLimits hvalid).delaysFit⟩

/-- Latency and jitter of `2 ^ 62` milliseconds each are accepted: their sum wraps to a negative
number. -/
theorem validate_accepts_wrapped_sum :
    let plan : FaultPlan := { latency := 2 ^ 62, jitter := 2 ^ 62 }
    IsInt64 plan.latency ∧ IsInt64 plan.jitter ∧ plan.validate = .ok () ∧
      plan.latency + plan.jitter ∈ plan.validateSums ∧ ¬IsInt64 (plan.latency + plan.jitter) ∧
      ¬plan.latency + plan.jitter ≤ 60000 := by
  decide +kernel

end FaultPlan

end NetFault
