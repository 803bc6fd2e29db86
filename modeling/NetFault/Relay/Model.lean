import NetFault.Backpressure
import NetFault.ByteQueue
import NetFault.DelayLine
import NetFault.FaultPlan
import NetFault.FaultRng
import NetFault.Lib.Loop
import NetFault.SocketIo
import NetFault.TokenBucket
import Mathlib.Logic.Function.Basic

/-!
# The relay of one proxied connection

`Relay` owns the two directions of a connection: each has a byte queue, a backpressure tracker
and, when the fault plan paces it, a fault channel with a delay line and a token bucket.  It reads
no clock and owns no socket; every method takes the time, and the sockets are an argument.

A method acts on a `Session`, the relay together with its history: `SocketIo` answers from the
history, and every call and every observer event is appended to it.  Methods that contain a
throwing operation return `Except Fault`.  The two `while` loops are `Loop.run` of their bodies,
with a budget of trips that `NetFault.Relay.Moves` shows to be enough.
-/

namespace NetFault

structure RelayConfig where
  bufferBytesPerDirection : ℕ := 65536
  lowWaterBytes : ℕ := 32768
  highWaterBytes : ℕ := 65536
  deriving DecidableEq, Repr

/-- The order the proxy's constructor enforces: `0 ≤ low < high ≤ buffer`. -/
def RelayConfig.Valid (config : RelayConfig) : Prop :=
  config.lowWaterBytes < config.highWaterBytes ∧
    config.highWaterBytes ≤ config.bufferBytesPerDirection

instance (config : RelayConfig) : Decidable config.Valid :=
  inferInstanceAs (Decidable (_ ∧ _))

inductive IoOperation
  | read
  | write
  deriving DecidableEq, Repr

/-- Why a connection is closed, as logged with `connection_closed`. -/
inductive CloseReason
  /-- A `recv` or `send` error, from `Relay::close_for_error`. -/
  | ioError (operation : IoOperation) (error : ℤ)
  /-- The injected reset. -/
  | faultReset
  /-- Both streams ended and drained. -/
  | orderlyShutdown
  | connectTimeout
  | idleTimeout
  /-- The asynchronous connect failed. -/
  | upstreamConnect (error : ℤ)
  /-- `SO_ERROR` after an `EPOLLERR`. -/
  | socketError (error : ℤ)
  | proxyShutdown
  deriving DecidableEq, Repr

/-- The text of a reason; error numbers are rendered by the C library. -/
def CloseReason.text (strerror : ℤ → String) : CloseReason → String
  | .ioError .read error => "read=" ++ strerror error
  | .ioError .write error => "write=" ++ strerror error
  | .faultReset => "fault_reset"
  | .orderlyShutdown => "orderly_shutdown"
  | .connectTimeout => "connect_timeout"
  | .idleTimeout => "idle_timeout"
  | .upstreamConnect error => "upstream_connect=" ++ strerror error
  | .socketError error => strerror error
  | .proxyShutdown => "proxy_shutdown"

/-- `PumpResult`: go on, or close the connection. -/
inductive PumpResult
  | proceed
  | close (finalState : ConnectionState) (reason : CloseReason)
  deriving DecidableEq, Repr

structure InterestSet where
  read : Bool := false
  write : Bool := false
  deriving DecidableEq, Repr

/-- `RelayMetrics`, with the per-socket counters indexed by the socket. -/
structure RelayMetrics where
  bytesRead : Side → UInt64 := fun _ => 0
  bytesWritten : Side → UInt64 := fun _ => 0
  readOperations : UInt64 := 0
  writeOperations : UInt64 := 0
  partialWrites : UInt64 := 0
  eagainEvents : UInt64 := 0

namespace RelayMetrics

/-- The accounting of one successful receive. -/
def countRead (m : RelayMetrics) (source : Side) (bytes : ℕ) : RelayMetrics :=
  { m with
    readOperations := m.readOperations + 1
    bytesRead := Function.update m.bytesRead source (m.bytesRead source + UInt64.ofNat bytes) }

/-- The accounting of one successful send of `bytes` out of `budget` offered. -/
def countWrite (m : RelayMetrics) (destination : Side) (budget bytes : ℕ) : RelayMetrics :=
  { m with
    partialWrites := if bytes < budget then m.partialWrites + 1 else m.partialWrites
    writeOperations := m.writeOperations + 1
    bytesWritten := Function.update m.bytesWritten destination
      (m.bytesWritten destination + UInt64.ofNat bytes) }

def countEagain (m : RelayMetrics) : RelayMetrics :=
  { m with eagainEvents := m.eagainEvents + 1 }

end RelayMetrics

/-- The fault state of one direction. -/
structure FaultChannel where
  delay : Option DelayLine := none
  bucket : Option TokenBucket := none
  rng : SplitMix64
  /-- Nanoseconds. -/
  latency : ℤ
  /-- Nanoseconds. -/
  jitter : ℤ
  delayedSegments : UInt64 := 0
  delayBudget : ℤ := 0
  deriving DecidableEq

/-- One direction of a relay. -/
structure Direction where
  queue : ByteQueue
  backpressure : BackpressureTracker
  fault : Option FaultChannel := none
  deriving DecidableEq

/-- `Relay`.  What the source keeps twice, once for each socket, is indexed by the socket:
`readOpen` and `writeOpen` are its four flags, and `directionFrom source` is the direction whose
bytes come from `source`. -/
structure Relay where
  upstreamConnecting : Bool
  readOpen : Side → Bool := fun _ => true
  writeOpen : Side → Bool := fun _ => true
  faultsActive : Bool := false
  resetAfterBytes : UInt64 := 0
  halfCloseAfterBytes : UInt64 := 0
  halfCloseInjected : Bool := false
  state : ConnectionState
  directionFrom : Side → Direction
  metrics : RelayMetrics := {}
  acceptedAt : ℤ
  lastActivity : ℤ

/-- A relay and what happened to it. -/
structure Session where
  relay : Relay
  trace : Trace := []

/-! ## Construction -/

def Direction.create (config : RelayConfig) : Except Fault Direction := do
  let queue ← ByteQueue.create config.bufferBytesPerDirection
  let backpressure ← BackpressureTracker.create config.lowWaterBytes config.highWaterBytes
  .ok { queue, backpressure }

/-- The `make_channel` of the constructor; milliseconds become nanoseconds in 64 bits. -/
def FaultChannel.create (plan : FaultPlan) (connectionSeed directionIndex : UInt64) (now : ℤ) :
    Except Fault FaultChannel := do
  let bucket ←
    if plan.rateBytesPerSecond > 0 then
      (TokenBucket.create plan.rateBytesPerSecond plan.effectiveBurstBytes now).map some
    else
      .ok none
  .ok { delay := if plan.latency > 0 ∨ plan.jitter > 0 then some {} else none
        bucket
        rng := ⟨deriveDirectionSeed connectionSeed directionIndex⟩
        latency := i64 (plan.latency * 1000000)
        jitter := i64 (plan.jitter * 1000000) }

/-- The index `make_channel` is given for the direction from a socket. -/
def Side.directionIndex : Side → UInt64
  | .client => 0
  | .upstream => 1

/-- The fault channel of a direction, when the plan paces it. -/
def FaultChannel.createFor (plan : FaultPlan) (connectionId : UInt64) (source : Side) (now : ℤ) :
    Except Fault (Option FaultChannel) :=
  if plan.paced && plan.appliesTo source then
    (FaultChannel.create plan (deriveConnectionSeed plan.masterSeed connectionId)
      source.directionIndex now).map some
  else
    .ok none

def Relay.create (config : RelayConfig) (plan : FaultPlan) (connectionId : UInt64)
    (upstreamConnecting : Bool) (now : ℤ) : Except Fault Relay := do
  let clientToUpstream ← Direction.create config
  let upstreamToClient ← Direction.create config
  let relay : Relay :=
    { upstreamConnecting
      state := if upstreamConnecting then .connectingUpstream else .active
      directionFrom := fun | .client => clientToUpstream | .upstream => upstreamToClient
      acceptedAt := now, lastActivity := now }
  if !plan.anyEnabled then
    .ok relay
  else
    let clientFault ← FaultChannel.createFor plan connectionId .client now
    let upstreamFault ← FaultChannel.createFor plan connectionId .upstream now
    .ok { relay with
          faultsActive := true
          resetAfterBytes := plan.resetAfterBytes
          halfCloseAfterBytes := plan.halfCloseAfterBytes
          directionFrom := fun
            | .client => { clientToUpstream with fault := clientFault }
            | .upstream => { upstreamToClient with fault := upstreamFault } }

namespace Relay

variable (r : Relay)

def setDirection (source : Side) (direction : Direction) : Relay :=
  { r with directionFrom := Function.update r.directionFrom source direction }

def closeRead (side : Side) : Relay :=
  { r with readOpen := Function.update r.readOpen side false }

def closeWrite (side : Side) : Relay :=
  { r with writeOpen := Function.update r.writeOpen side false }

def refreshState : Relay :=
  { r with
    state := deriveConnectionState
      { upstreamConnecting := r.upstreamConnecting
        clientReadOpen := r.readOpen .client
        upstreamReadOpen := r.readOpen .upstream } }

def markUpstreamConnected : Relay := { r with upstreamConnecting := false }.refreshState

def fullyDrained : Bool :=
  let clientToUpstreamDone := (r.directionFrom .client).queue.empty || !r.writeOpen .upstream
  let upstreamToClientDone := (r.directionFrom .upstream).queue.empty || !r.writeOpen .client
  !r.readOpen .client && !r.readOpen .upstream && clientToUpstreamDone && upstreamToClientDone

end Relay

/-! ## Fault pacing -/

def kPreferredReleaseBytes : ℕ := 4096

def releaseQuantum (eligibleBytes burstBytes : ℕ) : ℕ :=
  min (min eligibleBytes burstBytes) kPreferredReleaseBytes

/-- Draw a delay for a block of received bytes and enter it in the delay line, if there is one.
The note says which stamp the block was given. -/
def stampFault (source : Side) (fault : Option FaultChannel) (bytes : ℕ) (now : ℤ) :
    Option FaultChannel × Trace :=
  match fault with
  | none => (none, [])
  | some channel =>
      match channel.delay with
      | none => (some channel, [])
      | some line =>
          let (sample, rng) := sampleJitter channel.rng channel.jitter
          let delay := if channel.latency + sample < 0 then 0 else channel.latency + sample
          let line := line.onCommit bytes (now + delay)
          (some { channel with
              delay := some line
              rng
              delayedSegments := channel.delayedSegments + 1
              delayBudget := i64 (channel.delayBudget + delay) },
            [.stamped source bytes delay line.lastEligible])

def stampIngress (source : Side) (direction : Direction) (bytes : ℕ) (now : ℤ) :
    Direction × Trace :=
  let (fault, notes) := stampFault source direction.fault bytes now
  ({ direction with fault }, notes)

/-- Account for `count` sent bytes in the delay line and in the bucket, where they exist. -/
def consumeFault (fault : Option FaultChannel) (count : ℕ) :
    Except Fault (Option FaultChannel) :=
  match fault with
  | none => .ok none
  | some channel => do
      let delay ← match channel.delay with
        | none => .ok none
        | some line => (line.onConsume count).map some
      let bucket ← match channel.bucket with
        | none => .ok none
        | some bucket => (bucket.consume count).map some
      .ok (some { channel with delay, bucket })

/-- The bytes the delay line, if there is one, lets out of the first `limit`. -/
def FaultChannel.released (channel : FaultChannel) (limit : ℕ) (now : ℤ) : ℕ :=
  match channel.delay with
  | some line => min limit (line.releasable now)
  | none => limit

/-- `fault_sendable`: how many of the first `limit` queued bytes may be sent now.  Asking refills
the bucket. -/
def faultSendable (direction : Direction) (limit : ℕ) (now : ℤ) : ℕ × Direction :=
  match direction.fault with
  | none => (limit, direction)
  | some channel =>
      let limit := channel.released limit now
      match channel.bucket with
      | none => (limit, direction)
      | some bucket =>
          let (available, bucket) := bucket.available now
          -- below the quantum: wait for a worthwhile chunk instead of dribbling
          let budget := if available < releaseQuantum limit bucket.burst then 0
            else min limit available
          (budget, { direction with fault := some { channel with bucket := some bucket } })

/-- `close_for_error`; `ECONNRESET` and `EPIPE` count as resets. -/
def closeForError (error : ℤ) (operation : IoOperation) : PumpResult :=
  let reset := error = 104 ∨ error = 32
  .close (if reset then .reset else .failed) (.ioError operation error)

namespace Session

variable (s : Session)

def record (event : TraceEvent) : Session := { s with trace := s.trace ++ [event] }

def notify (event : RelayEvent) : Session := s.record (.observed event s.relay.state)

def countEagain : Session :=
  { s with relay := { s.relay with metrics := s.relay.metrics.countEagain } }

def noteHalfClosedRead (source : Side) : Session :=
  { s with relay := (s.relay.closeRead source).refreshState }.notify (.peerHalfClosed source)

def observeBackpressure (source : Side) (now : ℤ) (s : Session) : Except Fault Session := do
  let direction := s.relay.directionFrom source
  let (transition, backpressure) ←
    direction.backpressure.observe direction.queue.size direction.queue.capacity now
  let s := { s with relay := s.relay.setDirection source { direction with backpressure } }
  let s := s.record (.occupancy source direction.queue.size now)
  match transition with
  | .none => .ok s
  | .paused => .ok (s.notify (.readPaused source direction.queue.size
      backpressure.lowWaterBytes backpressure.highWaterBytes))
  | .resumed => .ok (s.notify (.readResumed source direction.queue.size
      backpressure.lowWaterBytes backpressure.highWaterBytes))

/-! ## Reading -/

/-- The bookkeeping after `receive` has put `bytes` at the front of the writable span. -/
def commitReceived (source : Side) (bytes : List Byte) (now : ℤ) (s : Session) :
    Except Fault Session := do
  let direction := s.relay.directionFrom source
  let queue ← (direction.queue.fill bytes).commitWrite bytes.length
  let (direction, notes) := stampIngress source { direction with queue } bytes.length now
  let relay := { s.relay.setDirection source direction with
    lastActivity := now
    metrics := s.relay.metrics.countRead source bytes.length }
  observeBackpressure source now { relay, trace := s.trace ++ notes }

/-- One trip through the loop of `handle_readable`. -/
def handleReadableBody (io : SocketIo) (source : Side) (hangupHint : Bool) (now : ℤ)
    (s : Session) : Except Fault (Loop.Trip Session PumpResult) :=
  let direction := s.relay.directionFrom source
  if s.relay.readOpen source && !direction.backpressure.readPaused then
    if direction.backpressure.highWaterBytes < direction.queue.size then
      .error .highWaterUnderflow
    else
      let availableToHighWater := direction.backpressure.highWaterBytes - direction.queue.size
      let span := min direction.queue.writableSpan.length availableToHighWater
      let result := io.receive s.trace source span
      let s := s.record (.receive source span hangupHint result now)
      match result with
      | .transferred bytes => (commitReceived source bytes now s).map .again
      | .peerClosed _ => .ok (.exit .proceed (s.noteHalfClosedRead source))
      | .wouldBlock =>
          let s := s.countEagain
          .ok (.exit .proceed (if hangupHint then s.noteHalfClosedRead source else s))
      | .error error => .ok (.exit (closeForError error .read) s)
  else
    .ok (.exit .proceed s)

/-- `handle_readable`.  The budget is one trip for each byte up to the high-water mark and one
to leave. -/
def handleReadable (io : SocketIo) (source : Side) (hangupHint : Bool) (now : ℤ) (s : Session) :
    Except Fault (PumpResult × Session) :=
  let direction := s.relay.directionFrom source
  Loop.run (handleReadableBody io source hangupHint now) .endlessLoop
    (direction.backpressure.highWaterBytes - direction.queue.size + 1) s

/-! ## Writing -/

/-- The bookkeeping after `send` has accepted `count` of the `budget` bytes it was offered. -/
def commitSent (destination : Side) (budget count : ℕ) (now : ℤ) (s : Session) :
    Except Fault Session := do
  let source := destination.peer
  let direction := s.relay.directionFrom source
  let queue ← direction.queue.consume count
  let fault ← consumeFault direction.fault count
  let s := { s with relay := s.relay.setDirection source { direction with queue, fault } }
  let s ← observeBackpressure source now s
  .ok { s with relay := { s.relay with
        lastActivity := now
        metrics := s.relay.metrics.countWrite destination budget count } }

/-- One trip through the loop of `flush`.  Leaving with a result is a `return`, leaving without
one a `break`. -/
def flushBody (io : SocketIo) (destination : Side) (now : ℤ) (s : Session) :
    Except Fault (Loop.Trip Session (Option PumpResult)) :=
  let source := destination.peer
  let direction := s.relay.directionFrom source
  if direction.queue.empty then
    .ok (.exit none s)
  else
    let readable := direction.queue.readableSpan
    let (budget, direction) := faultSendable direction readable.length now
    let s := { s with relay := s.relay.setDirection source direction }
    if budget = 0 then
      .ok (.exit none s)
    else
      let data := readable.take budget
      let result := io.send s.trace destination data
      let s := s.record (.send destination data result now)
      match result with
      | .transferred count => (commitSent destination budget count now s).map .again
      | .wouldBlock => .ok (.exit none s.countEagain)
      | .peerClosed error => .ok (.exit (some (closeForError error .write)) s)
      | .error error => .ok (.exit (some (closeForError error .write)) s)

/-- The injected half-close of `check_lifecycle_faults`. -/
def injectHalfClose (io : SocketIo) (s : Session) : Session :=
  if decide (s.relay.halfCloseAfterBytes > 0) && !s.relay.halfCloseInjected &&
      s.relay.writeOpen .client &&
      decide (s.relay.metrics.bytesWritten .client ≥ s.relay.halfCloseAfterBytes) then
    let ok := io.shutdownWrite s.trace .client
    let s := { s with relay := { s.relay with halfCloseInjected := true } }.record
      (.shutdownWrite .client .injected ok)
    if ok then
      { s with relay := s.relay.closeWrite .client }.notify
        (.halfCloseInjected (s.relay.metrics.bytesWritten .client))
    else
      s
  else
    s

/-- `check_lifecycle_faults`.  The half-close writes nothing, so the total read after it is the
one the source reads before. -/
def checkLifecycleFaults (io : SocketIo) (s : Session) : PumpResult × Session :=
  let totalWritten :=
    s.relay.metrics.bytesWritten .client + s.relay.metrics.bytesWritten .upstream
  let s := injectHalfClose io s
  if decide (s.relay.resetAfterBytes > 0) && decide (totalWritten ≥ s.relay.resetAfterBytes) then
    (.close .reset .faultReset, s.notify (.resetInjected totalWritten))
  else
    (.proceed, s)

/-- `flush`.  The budget is one trip for each queued byte and one to leave. -/
def flush (io : SocketIo) (destination : Side) (now : ℤ) (s : Session) :
    Except Fault (PumpResult × Session) :=
  if !s.relay.writeOpen destination ||
      (decide (destination = .upstream) && s.relay.upstreamConnecting) then
    .ok (.proceed, s)
  else
    match Loop.run (flushBody io destination now) .endlessLoop
        ((s.relay.directionFrom destination.peer).queue.size + 1) s with
    | .error e => .error e
    | .ok (some result, s) => .ok (result, s)
    | .ok (none, s) => .ok (checkLifecycleFaults io s)

/-- One of the two blocks of `propagate_half_closes`: shut `destination` down for writing. -/
def forwardHalfClose (io : SocketIo) (destination : Side) (s : Session) : Session :=
  let ok := io.shutdownWrite s.trace destination
  let s := s.record (.shutdownWrite destination .propagated ok)
  if ok then
    { s with relay := s.relay.closeWrite destination }.notify (.halfCloseForwarded destination)
  else
    s

def propagateHalfCloses (io : SocketIo) (s : Session) : Session :=
  let s :=
    if !s.relay.readOpen .client && (s.relay.directionFrom .client).queue.empty &&
        s.relay.writeOpen .upstream && !s.relay.upstreamConnecting then
      forwardHalfClose io .upstream s
    else
      s
  if !s.relay.readOpen .upstream && (s.relay.directionFrom .upstream).queue.empty &&
      s.relay.writeOpen .client then
    forwardHalfClose io .client s
  else
    s

end Session

/-! ## Queries -/

/-- The earlier of two optional times. -/
def earlier : Option ℤ → Option ℤ → Option ℤ
  | none, right => right
  | left, none => left
  | some left, some right => some (min left right)

namespace Relay

variable (r : Relay)

def nextWake (destination : Side) (now : ℤ) : Option ℤ × Relay :=
  let source := destination.peer
  let direction := r.directionFrom source
  if !r.writeOpen destination || (decide (destination = .upstream) && r.upstreamConnecting) ||
      direction.queue.empty || direction.fault.isNone then
    (none, r)
  else
    let (sendable, direction) := faultSendable direction direction.queue.size now
    let r := r.setDirection source direction
    if sendable > 0 then
      (none, r)
    else
      match direction.fault with
      | none => (none, r)
      | some channel =>
          let releasable := match channel.delay with
            | some line => line.releasable now
            | none => direction.queue.size
          let wake := match channel.delay with
            | some line => if releasable = 0 then line.nextEligible now else none
            | none => none
          match channel.bucket with
          | none => (wake, r)
          | some bucket =>
              if releasable > 0 then
                let (eligible, bucket) :=
                  bucket.eligibleAt (releaseQuantum releasable bucket.burst) now
                (earlier wake (some eligible), r.setDirection source
                  { direction with fault := some { channel with bucket := some bucket } })
              else
                (wake, r)

def desiredInterest (side : Side) (now : ℤ) : InterestSet × Relay :=
  if decide (side = .upstream) && r.upstreamConnecting then
    ({ read := false, write := true }, r)
  else
    let read := r.readOpen side && !(r.directionFrom side).backpressure.readPaused
    let outbound := r.directionFrom side.peer
    if r.writeOpen side && !outbound.queue.empty then
      let (sendable, outbound) := faultSendable outbound outbound.queue.size now
      ({ read, write := decide (sendable > 0) }, r.setDirection side.peer outbound)
    else
      ({ read, write := false }, r)

end Relay

/-! ## Calls and runs -/

/-- A call of a public method of the relay that changes it. -/
inductive Call
  | handleReadable (source : Side) (hangupHint : Bool) (now : ℤ)
  | flush (destination : Side) (now : ℤ)
  | propagateHalfCloses
  | markUpstreamConnected
  | desiredInterest (side : Side) (now : ℤ)
  | nextWake (destination : Side) (now : ℤ)
  deriving DecidableEq, Repr

/-- What a call returns. -/
inductive CallResult
  | pumped (result : PumpResult)
  | done
  | interest (set : InterestSet)
  | wake (time : Option ℤ)
  deriving DecidableEq, Repr

/-- The time a call is made at, for the methods that are told. -/
def Call.time? : Call → Option ℤ
  | .handleReadable _ _ now | .flush _ now | .desiredInterest _ now | .nextWake _ now => some now
  | .propagateHalfCloses | .markUpstreamConnected => none

def Call.exec (io : SocketIo) (call : Call) (s : Session) : Except Fault (CallResult × Session) :=
  match call with
  | .handleReadable source hangupHint now =>
      (s.handleReadable io source hangupHint now).map fun (r, s) => (.pumped r, s)
  | .flush destination now => (s.flush io destination now).map fun (r, s) => (.pumped r, s)
  | .propagateHalfCloses => .ok (.done, s.propagateHalfCloses io)
  | .markUpstreamConnected => .ok (.done, { s with relay := s.relay.markUpstreamConnected })
  | .desiredInterest side now =>
      let (set, relay) := s.relay.desiredInterest side now
      .ok (.interest set, { s with relay })
  | .nextWake destination now =>
      let (time, relay) := s.relay.nextWake destination now
      .ok (.wake time, { s with relay })

/-- Make the calls in order; the results are kept, an exception ends the run. -/
def execAll (io : SocketIo) : List Call → Session → Except Fault (List CallResult × Session)
  | [], s => .ok ([], s)
  | call :: calls, s =>
      match call.exec io s with
      | .error e => .error e
      | .ok (result, s) => (execAll io calls s).map fun (results, s) => (result :: results, s)

/-- Construct a relay and make the calls. -/
def runRelay (io : SocketIo) (config : RelayConfig) (plan : FaultPlan) (connectionId : UInt64)
    (upstreamConnecting : Bool) (start : ℤ) (calls : List Call) :
    Except Fault (List CallResult × Session) := do
  let relay ← Relay.create config plan connectionId upstreamConnecting start
  execAll io calls { relay }

/-- Whether an operation returns a value that passes a test; closed runs are evaluated with it. -/
def returns {α : Type} (operation : Except Fault α) (test : α → Bool) : Bool :=
  match operation with
  | .ok value => test value
  | .error _ => false

lemma of_returns {α : Type} {operation : Except Fault α} {test : α → Bool} {value : α}
    (h : returns operation test = true) (hvalue : operation = .ok value) : test value = true := by
  subst hvalue
  exact h

lemma exists_of_returns {α : Type} {operation : Except Fault α} {test : α → Bool}
    (h : returns operation test = true) : ∃ value, operation = .ok value ∧ test value = true := by
  rcases operation with _ | value
  · cases h
  · exact ⟨value, rfl, h⟩

end NetFault
