import NetFault.Basic
import Mathlib.Algebra.Order.Field.Rat
import Mathlib.Data.Rat.Defs

/-!
# The fault plan and its validation

Latency and jitter are 64-bit millisecond counts, and the sums that `validate` forms are reduced
to that type (`i64`) before they are compared.
-/

namespace NetFault

inductive FaultDirections
  | both
  | clientToUpstream
  | upstreamToClient
  deriving DecidableEq, Repr

/-- `FaultPlan`, with the defaults of the source. -/
structure FaultPlan where
  masterSeed : UInt64 := 0
  applyProbability : ℚ := 1
  directions : FaultDirections := .both
  /-- Milliseconds. -/
  latency : ℤ := 0
  /-- Milliseconds. -/
  jitter : ℤ := 0
  /-- Zero disables the token bucket. -/
  rateBytesPerSecond : ℕ := 0
  /-- Zero with a rate stands for one second of tokens. -/
  burstBytes : ℕ := 0
  /-- Total forwarded bytes, both directions; zero disables. -/
  resetAfterBytes : UInt64 := 0
  /-- Bytes written to the client; zero disables. -/
  halfCloseAfterBytes : UInt64 := 0
  deriving DecidableEq

/-- The checks of `FaultPlan::validate`. -/
inductive FaultPlanError
  | probability
  | negativeDelay
  | jitterAboveLatency
  | delayTooLong
  | burstWithoutRate
  | rateTooHigh
  deriving DecidableEq, Repr

def FaultPlanError.what : FaultPlanError → String
  | .probability => "fault probability must be between 0 and 1"
  | .negativeDelay => "fault latency and jitter must be non-negative"
  | .jitterAboveLatency => "fault jitter must not exceed latency by more than 10 seconds"
  | .delayTooLong => "fault latency plus jitter must be at most 60 seconds"
  | .burstWithoutRate => "fault burst requires a fault rate"
  | .rateTooHigh => "fault rate must be at most 1000000000 bytes per second"

namespace FaultPlan

variable (plan : FaultPlan)

def anyEnabled : Bool :=
  decide (plan.latency > 0) || decide (plan.jitter > 0) ||
    decide (plan.rateBytesPerSecond > 0) || decide (plan.resetAfterBytes > 0) ||
    decide (plan.halfCloseAfterBytes > 0)

def appliesToClientToUpstream : Bool := plan.directions != .upstreamToClient

def appliesToUpstreamToClient : Bool := plan.directions != .clientToUpstream

def effectiveBurstBytes : ℕ :=
  if plan.burstBytes ≠ 0 then plan.burstBytes else plan.rateBytesPerSecond

def validate : Except FaultPlanError Unit :=
  if plan.applyProbability < 0 ∨ plan.applyProbability > 1 then .error .probability
  else if plan.latency < 0 ∨ plan.jitter < 0 then .error .negativeDelay
  else if plan.jitter > i64 (plan.latency + 10000) then .error .jitterAboveLatency
  else if i64 (plan.latency + plan.jitter) > 60000 then .error .delayTooLong
  else if plan.burstBytes ≠ 0 ∧ plan.rateBytesPerSecond = 0 then .error .burstWithoutRate
  else if plan.rateBytesPerSecond > 1000000000 then .error .rateTooHigh
  else .ok ()

/-- Whether the plan delays or meters bytes at all. -/
def paced : Bool :=
  decide (plan.latency > 0) || decide (plan.jitter > 0) || decide (plan.rateBytesPerSecond > 0)

/-- Whether latency, jitter and rate concern the bytes that come from `source`. -/
def appliesTo : Side → Bool
  | .client => plan.appliesToClientToUpstream
  | .upstream => plan.appliesToUpstreamToClient

lemma anyEnabled_of_paced (h : plan.paced = true) : plan.anyEnabled = true := by
  simp only [paced, anyEnabled, Bool.or_eq_true] at h ⊢
  tauto

lemma effectiveBurstBytes_pos (h : 0 < plan.rateBytesPerSecond) : 0 < plan.effectiveBurstBytes := by
  rw [effectiveBurstBytes]
  split_ifs with hb <;> omega

/-- What an accepted plan is known to satisfy without knowing that its sums did not wrap. -/
lemma validate_spec (h : plan.validate = .ok ()) :
    0 ≤ plan.latency ∧ 0 ≤ plan.jitter ∧ plan.rateBytesPerSecond ≤ 1000000000 := by
  simp only [validate] at h
  split_ifs at h
  omega

end FaultPlan

end NetFault
