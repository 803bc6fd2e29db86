import NetFault.ConnectionState
import Mathlib.Data.List.Basic

/-!
# The socket seam and the history of a relay

The relay touches the outside through two interfaces: `SocketIo` (receive, send, shutdown) and
`RelayObserver` (lifecycle events).  Every such interaction is recorded, in order, as a
`TraceEvent`; the trace is what the statements about a relay are about.

`SocketIo` is the environment.  Its answers may depend on everything that has happened so far, so
one value of the type is one behaviour of the two sockets, with any mix of short transfers,
`EAGAIN`, end of stream and errors.  The contract of the interface is part of the type: a
transfer moves at least one byte and at most as many as were offered.

Three kinds of events are not calls but notes the model makes on the side, so that statements can
refer to them: the call site of a `shutdown_write`, the eligibility stamp a received block was
given, and the occupancies a backpressure tracker was shown.
-/

namespace NetFault

/-- `IoResult`, with what was transferred or the error number. -/
inductive IoResult (α : Type)
  | transferred (value : α)
  | wouldBlock
  | peerClosed (error : ℤ)
  | error (error : ℤ)
  deriving DecidableEq, Repr

/-- Whether the answer of a receive is the end of the stream: the peer has closed it, or there is
nothing left to read and a hangup was reported. -/
def IoResult.ends {α : Type} (hint : Bool) : IoResult α → Bool
  | .peerClosed _ => true
  | .wouldBlock => hint
  | .transferred _ | .error _ => false

lemma IoResult.ends_iff {α : Type} {hint : Bool} {result : IoResult α} : result.ends hint = true ↔
    (∃ error, result = .peerClosed error) ∨ result = .wouldBlock ∧ hint = true := by
  cases result <;> simp [ends]

/-- The two places of the relay that shut a socket down for writing. -/
inductive ShutdownCause
  /-- `propagate_half_closes`, after the peer's end of stream. -/
  | propagated
  /-- `check_lifecycle_faults`, as a fault. -/
  | injected
  deriving DecidableEq, Repr

/-- The calls of `RelayObserver::on_event`. -/
inductive RelayEvent
  | peerHalfClosed (source : Side)
  | readPaused (source : Side) (queueBytes lowWaterBytes highWaterBytes : ℕ)
  | readResumed (source : Side) (queueBytes lowWaterBytes highWaterBytes : ℕ)
  | halfCloseInjected (afterBytes : UInt64)
  | resetInjected (afterBytes : UInt64)
  | halfCloseForwarded (destination : Side)
  deriving DecidableEq, Repr

/-- One interaction of a relay, or one note about it. -/
inductive TraceEvent
  /-- `receive` on a socket with room for `span` bytes, in a `handle_readable` that was told of a
  hangup or not. -/
  | receive (side : Side) (span : ℕ) (hint : Bool) (result : IoResult (List Byte)) (now : ℤ)
  /-- `send` of a span; a transfer accepts a prefix of it. -/
  | send (side : Side) (data : List Byte) (result : IoResult ℕ) (now : ℤ)
  /-- `shutdown_write`, with its call site and whether it succeeded. -/
  | shutdownWrite (side : Side) (cause : ShutdownCause) (ok : Bool)
  /-- `on_event`, with the state reported in it. -/
  | observed (event : RelayEvent) (state : ConnectionState)
  /-- Note: `bytes` received from `source` may leave from `eligibleAt` on; `delay` was drawn. -/
  | stamped (source : Side) (bytes : ℕ) (delay eligibleAt : ℤ)
  /-- Note: the tracker of `source` was shown this occupancy. -/
  | occupancy (source : Side) (bytes : ℕ) (now : ℤ)
  deriving DecidableEq, Repr

/-- What happened to a relay so far, oldest first. -/
abbrev Trace := List TraceEvent

/-- A behaviour of the two sockets, with the contract of the interface. -/
structure SocketIo where
  receive : Trace → Side → ℕ → IoResult (List Byte)
  send : Trace → Side → List Byte → IoResult ℕ
  shutdownWrite : Trace → Side → Bool
  receive_transferred : ∀ history side span bytes,
    receive history side span = .transferred bytes → 1 ≤ bytes.length ∧ bytes.length ≤ span
  send_transferred : ∀ history side data count,
    send history side data = .transferred count → 1 ≤ count ∧ count ≤ data.length

namespace Trace

/-- What one event delivered from `source`. -/
def receivedIn (source : Side) : TraceEvent → List Byte
  | .receive side _ _ (.transferred bytes) _ => if side = source then bytes else []
  | _ => []

/-- What one event got accepted by `destination`. -/
def sentIn (destination : Side) : TraceEvent → List Byte
  | .send side data (.transferred count) _ => if side = destination then data.take count else []
  | _ => []

/-- The bytes delivered by `receive` on `source`, in order. -/
def received (source : Side) (trace : Trace) : List Byte := trace.flatMap (receivedIn source)

/-- The bytes accepted by `send` on `destination`, in order. -/
def sent (destination : Side) (trace : Trace) : List Byte := trace.flatMap (sentIn destination)

@[simp] lemma received_nil (source : Side) : received source [] = [] := rfl

@[simp] lemma sent_nil (destination : Side) : sent destination [] = [] := rfl

@[simp] lemma received_append (source : Side) (a b : Trace) :
    received source (a ++ b) = received source a ++ received source b := List.flatMap_append

@[simp] lemma sent_append (destination : Side) (a b : Trace) :
    sent destination (a ++ b) = sent destination a ++ sent destination b := List.flatMap_append

@[simp] lemma received_cons (source : Side) (e : TraceEvent) (trace : Trace) :
    received source (e :: trace) = receivedIn source e ++ received source trace := rfl

@[simp] lemma sent_cons (destination : Side) (e : TraceEvent) (trace : Trace) :
    sent destination (e :: trace) = sentIn destination e ++ sent destination trace := rfl

end Trace

/-- Sockets whose peers send `inbound` and fall silent, and that accept everything. -/
def SocketIo.script (inbound : Side → List Byte) : SocketIo where
  receive history side span :=
    let rest := ((inbound side).drop (history.received side).length).take span
    if rest = [] then .wouldBlock else .transferred rest
  send _ _ data := if data = [] then .wouldBlock else .transferred data.length
  shutdownWrite _ _ := true
  receive_transferred history side span bytes h := by
    simp only at h
    split_ifs at h with hne
    obtain rfl : _ = bytes := by simpa using h
    exact ⟨List.length_pos_iff.mpr hne, List.length_take_le _ _⟩
  send_transferred _ _ data count h := by
    split_ifs at h with hne
    obtain rfl : data.length = count := by simpa using h
    exact ⟨List.length_pos_iff.mpr hne, le_rfl⟩

end NetFault
