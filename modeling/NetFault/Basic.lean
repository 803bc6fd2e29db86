import Mathlib.Data.Int.Init
import Mathlib.Data.Nat.Notation
import Mathlib.Data.UInt
import Mathlib.Tactic.TypeStar

/-!
# Clock readings, byte values and the ways the proxy core can fail

Shared vocabulary of the model.  Readings of `std::chrono::steady_clock` and durations are
integers, in nanoseconds unless a name says otherwise.  Sizes (`std::size_t`) are natural
numbers, 64-bit counters are `UInt64`, and where an expression really can leave its machine type
it is written with `u64` or `i64`.

`Fault` names every exception the forwarding core can throw, together with the three things
that would go wrong silently: reading the front of an empty deque, an unsigned subtraction below
zero, and a loop that does not end.  Operations that contain such a point return
`Except Fault`, so that "cannot fail" is a statement about them.
-/

namespace NetFault

/-- A byte of payload. -/
abbrev Byte := UInt8

/-- Reduction of an unsigned expression to 64 bits. -/
def u64 (n : ℕ) : ℕ := n % 2 ^ 64

/-- Reduction of a signed expression to 64 bits, in two's complement. -/
def i64 (n : ℤ) : ℤ := n.bmod (2 ^ 64)

/-- The values of the signed 64-bit type, in which durations and readings are kept. -/
def IsInt64 (n : ℤ) : Prop := -(2 ^ 63) ≤ n ∧ n < 2 ^ 63

instance (n : ℤ) : Decidable (IsInt64 n) := inferInstanceAs (Decidable (_ ∧ _))

lemma u64_of_lt {n : ℕ} (h : n < 2 ^ 64) : u64 n = n := Nat.mod_eq_of_lt h

lemma u64_le (n : ℕ) : u64 n ≤ n := Nat.mod_le _ _

lemma i64_of_abs_lt {n : ℤ} (hlo : -(2 ^ 63) ≤ n) (hhi : n < 2 ^ 63) : i64 n = n := by
  rw [i64]
  exact Int.bmod_eq_of_le (by simpa using hlo) (by simpa using hhi)

/-- One of the two sockets of a proxied connection. -/
inductive Side
  | client
  | upstream
  deriving DecidableEq, Repr

instance {P : Side → Prop} [DecidablePred P] : Decidable (∀ side, P side) :=
  decidable_of_iff (P .client ∧ P .upstream)
    ⟨fun h side => by cases side; exacts [h.1, h.2], fun h => ⟨h .client, h .upstream⟩⟩

/-- The other socket. -/
def Side.peer : Side → Side
  | .client => .upstream
  | .upstream => .client

@[simp] lemma Side.peer_peer (side : Side) : side.peer.peer = side := by cases side <;> rfl

@[simp] lemma Side.peer_ne (side : Side) : side.peer ≠ side := by cases side <;> decide

lemma Side.eq_peer_of_ne {a b : Side} (h : a ≠ b) : a = b.peer := by
  cases a <;> cases b <;> simp_all [Side.peer]

lemma Side.ne_peer_comm {a b : Side} : a ≠ b.peer ↔ b ≠ a.peer := by
  cases a <;> cases b <;> simp [Side.peer]

/-- The exceptions of the forwarding core, and its silent failures. -/
inductive Fault
  /-- `ByteQueue::ByteQueue` with no capacity. -/
  | queueCapacity
  /-- `ByteQueue::commit_write` beyond the free space. -/
  | queueWrite
  /-- `ByteQueue::consume` beyond the stored bytes. -/
  | queueConsume
  /-- `BackpressureTracker::BackpressureTracker` with watermarks out of order. -/
  | watermarks
  /-- `BackpressureTracker::observe` of an impossible occupancy. -/
  | occupancy
  /-- `DelayLine::on_consume` beyond the pending bytes. -/
  | delayConsume
  /-- `DelayLine::on_consume` looking at the front of an empty segment list. -/
  | delayFront
  /-- `TokenBucket::TokenBucket` without rate or burst. -/
  | bucketConfig
  /-- `TokenBucket::consume` beyond the available tokens. -/
  | bucketConsume
  /-- `high_water_bytes() - queue.size()` below zero in `Relay::handle_readable`. -/
  | highWaterUnderflow
  /-- A loop that outlives its budget of trips. -/
  | endlessLoop
  deriving DecidableEq, Repr

end NetFault
