import NetFault.Proxy.Config
import NetFault.TimerQueue
import Mathlib.Data.List.AList

/-!
# The proxy's event loop

`ProxyRuntime` owns the connections, the queue of deadlines, one timerfd armed from it, and the
epoll registrations.  An operation of the loop is a function on a `Runtime`; it fails only if a
relay operation fails.  What the kernel answers is part of the input: a `Readiness` is one event
of `epoll_wait` with the answers the runtime gets while it handles it (the clock reading,
`SO_ERROR`, the results of `accept4` and `connect`, the signal that was read), and the sockets of
each connection are a `SocketIo` of their own.

Three things are kept on the side, so that statements can refer to them: the mask the kernel holds
for each socket (`registered`), what `next_wake` returned when a connection was last pumped
(`lastWake`), and the connections that were closed with the state they were closed in.  The calls
of `epoll_ctl` are taken to succeed; when one fails the runtime throws and the run is over.
Connection ids and tokens, 64-bit counters in the source, are natural numbers.  Logging has no
influence on anything else and is left out.
-/

namespace NetFault

def kListenerToken : ℕ := 1

def kSignalToken : ℕ := 2

def kTimerToken : ℕ := 3

/-! ## Masks -/

/-- A set of epoll events. -/
structure EpollMask where
  epollin : Bool := false
  epollout : Bool := false
  epollerr : Bool := false
  epollhup : Bool := false
  epollrdhup : Bool := false
  deriving DecidableEq, Repr

/-- `to_epoll_mask`: `EPOLLRDHUP` goes with interest in reading. -/
def toEpollMask (interest : InterestSet) : EpollMask where
  epollin := interest.read
  epollout := interest.write
  epollerr := true
  epollhup := true
  epollrdhup := interest.read

/-! ## The timerfd -/

/-- `struct itimerspec`, the value part. -/
structure ItimerSpec where
  tvSec : ℤ := 0
  tvNsec : ℤ := 0
  deriving DecidableEq, Repr

/-- A one-shot timer on the absolute clock: the time it is armed for, and the time it was armed
for when it expired, while that expiration has not been read. -/
structure TimerFd where
  armed : Option ℤ := none
  expired : Option ℤ := none
  deriving DecidableEq, Repr

namespace TimerFd

/-- `timerfd_settime` when the clock shows `clock`.  It replaces the setting and discards an unread
expiration; an all-zero value disarms, and a time that has passed expires at once. -/
def settime (spec : ItimerSpec) (clock : ℤ) : TimerFd :=
  if spec.tvSec = 0 ∧ spec.tvNsec = 0 then {}
  else
    let deadline := spec.tvSec * 1000000000 + spec.tvNsec
    if deadline ≤ clock then { expired := some deadline } else { armed := some deadline }

/-- The clock reaches `clock`. -/
def tick (clock : ℤ) (fd : TimerFd) : TimerFd :=
  match fd.armed with
  | some deadline => if deadline ≤ clock then { expired := some deadline } else fd
  | none => fd

/-- `read` clears the expiration; without one it is `EAGAIN`. -/
def read (fd : TimerFd) : TimerFd := { fd with expired := none }

end TimerFd

/-! ## State -/

/-- `Connection`; what the source keeps for each of the two sockets is indexed by the socket. -/
structure Connection where
  token : Side → ℕ
  /-- The last mask applied via `epoll_ctl`, as cached by the runtime. -/
  mask : Side → EpollMask
  /-- Note: the mask held by the kernel. -/
  registered : Side → EpollMask
  scheduledWake : Option ℤ := none
  session : Session
  /-- Note: the values of `next_wake` in the most recent pump. -/
  lastWake : Side → Option ℤ := fun _ => none

structure SocketBinding where
  connectionId : ℕ
  side : Side
  deriving DecidableEq, Repr

/-- Note: a closed connection. -/
structure ClosedConnection where
  connectionId : ℕ
  finalState : ConnectionState
  reason : CloseReason
  session : Session
  now : ℤ

/-- `ProxyRuntime`. -/
structure Runtime where
  config : ProxyConfig
  timerQueue : TimerQueue := {}
  lastArmedDeadline : Option ℤ := none
  timerFd : TimerFd := {}
  nextConnectionId : ℕ := 1
  nextToken : ℕ := 4
  closesFullyClosed : UInt64 := 0
  closesReset : UInt64 := 0
  closesFailed : UInt64 := 0
  closesTimedOut : UInt64 := 0
  connections : AList fun _ : ℕ => Connection := ∅
  bindings : AList fun _ : ℕ => SocketBinding := ∅
  /-- Note: the connections closed so far, oldest first. -/
  closed : List ClosedConnection := []

/-! ## What the kernel answers -/

/-- `getsockopt(SO_ERROR)`: the call failed, or the pending error, zero for none. -/
inductive SocketErrorAnswer
  | failed (errno : ℤ)
  | value (error : ℤ)
  deriving DecidableEq, Repr

/-- What happens to an accepted client: no upstream socket, a connect that fails at once, or a
connection, still connecting or not, created at the clock reading `now`. -/
inductive UpstreamAttempt
  | socketFailed (errno : ℤ)
  | connectFailed (errno : ℤ)
  | opened (connecting : Bool) (now : ℤ)
  deriving DecidableEq, Repr

/-- The result of one `accept4`, other than `EAGAIN`. -/
inductive AcceptResult
  | interrupted
  | failed (errno : ℤ)
  | accepted (upstream : UpstreamAttempt)
  deriving DecidableEq, Repr

/-- What was read from the signalfd. -/
inductive SignalRead
  | incomplete
  | sigusr1
  | other
  deriving DecidableEq, Repr

/-- The clock reading made for an accepted client. -/
def AcceptResult.reading? : AcceptResult → Option ℤ
  | .accepted (.opened _ now) => some now
  | _ => none

/-- One event of `epoll_wait`, with the answers given while it is handled.  Each kind of event uses
its own answers: `accepts` lists the results of `accept4` up to `EAGAIN`. -/
structure Readiness where
  token : ℕ
  events : EpollMask := {}
  now : ℤ := 0
  accepts : List AcceptResult := []
  signal : SignalRead := .other
  /-- `SO_ERROR` of a finished connect. -/
  connectError : SocketErrorAnswer := .value 0
  /-- `SO_ERROR` after an `EPOLLERR`. -/
  socketError : SocketErrorAnswer := .value 0
  deriving DecidableEq, Repr

/-- The clock readings made while an event is handled. -/
def Readiness.readings (event : Readiness) : List ℤ :=
  if event.token = kListenerToken then event.accepts.filterMap AcceptResult.reading?
  else if event.token = kSignalToken then []
  else [event.now]

/-- The error of a connect, if it did not succeed. -/
def SocketErrorAnswer.connectFailure : SocketErrorAnswer → Option ℤ
  | .failed errno => some errno
  | .value error => if error ≠ 0 then some error else none

/-! ## One connection -/

namespace Session

/-- The first block of `socket_ready`: a pending connect has finished. -/
def finishConnect (side : Side) (event : Readiness) (s : Session) : PumpResult × Session :=
  if decide (side = .upstream) && s.relay.upstreamConnecting && event.events.epollout then
    match event.connectError.connectFailure with
    | some error => (.close .failed (.upstreamConnect error), s)
    | none => (.proceed, { s with relay := s.relay.markUpstreamConnected })
  else
    (.proceed, s)

/-- The second block of `socket_ready`: an `EPOLLERR` with a pending error. -/
def checkSocketError (event : Readiness) (s : Session) : PumpResult :=
  if event.events.epollerr && !s.relay.upstreamConnecting then
    match event.socketError with
    | .value error =>
        if error ≠ 0 then .close (if error = 104 then .reset else .failed) (.socketError error)
        else .proceed
    | .failed _ => .proceed
  else
    .proceed

/-- The third block of `socket_ready`. -/
def readIfReady (io : SocketIo) (side : Side) (event : Readiness) (s : Session) :
    Except Fault (PumpResult × Session) :=
  let readableEvent := event.events.epollin || event.events.epollrdhup || event.events.epollhup
  let hangupHint := event.events.epollrdhup || event.events.epollhup
  if readableEvent && !(decide (side = .upstream) && s.relay.upstreamConnecting) then
    s.handleReadable io side hangupHint event.now
  else
    .ok (.proceed, s)

/-- `socket_ready` up to the pump; each block may close the connection. -/
def serveSocket (io : SocketIo) (side : Side) (event : Readiness) (s : Session) :
    Except Fault (PumpResult × Session) :=
  match s.finishConnect side event with
  | (.close finalState reason, s) => .ok (.close finalState reason, s)
  | (.proceed, s) =>
      match s.checkSocketError event with
      | .close finalState reason => .ok (.close finalState reason, s)
      | .proceed => s.readIfReady io side event

/-- The flushes of `pump_connection`, upstream first; nothing is flushed while connecting. -/
def flushBoth (io : SocketIo) (now : ℤ) (s : Session) : Except Fault (PumpResult × Session) :=
  if s.relay.upstreamConnecting then
    .ok (.proceed, s)
  else
    match s.flush io .upstream now with
    | .ok (.proceed, s) => s.flush io .client now
    | outcome => outcome

end Session

namespace Connection

/-- `apply_interest`: `epoll_ctl` is called only when the mask changes. -/
def applyInterest (side : Side) (now : ℤ) (c : Connection) : Connection :=
  let (interest, relay) := c.session.relay.desiredInterest side now
  let c := { c with session := { c.session with relay } }
  let mask := toEpollMask interest
  if mask = c.mask side then c
  else
    { c with
      mask := Function.update c.mask side mask
      registered := Function.update c.registered side mask }

/-- The two queries of `schedule_relay_wake`, with the note of their answers. -/
def computeWakes (now : ℤ) (c : Connection) : Connection :=
  let (upstreamWake, relay) := c.session.relay.nextWake .upstream now
  let (clientWake, relay) := relay.nextWake .client now
  { c with
    session := { c.session with relay }
    lastWake := fun | .upstream => upstreamWake | .client => clientWake }

/-- A wake that is due is no longer scheduled. -/
def resetDueWake (now : ℤ) (c : Connection) : Connection :=
  match c.scheduledWake with
  | some wake => if wake ≤ now then { c with scheduledWake := none } else c
  | none => c

end Connection

/-! ## The runtime -/

namespace Runtime

variable (io : ℕ → SocketIo)

def setConnection (id : ℕ) (c : Connection) (p : Runtime) : Runtime :=
  { p with connections := p.connections.insert id c }

/-- The counter of a final state. -/
def countClose (finalState : ConnectionState) (p : Runtime) : Runtime :=
  match finalState with
  | .reset => { p with closesReset := p.closesReset + 1 }
  | .failed => { p with closesFailed := p.closesFailed + 1 }
  | .timedOut => { p with closesTimedOut := p.closesTimedOut + 1 }
  | _ => { p with closesFullyClosed := p.closesFullyClosed + 1 }

/-- `close_connection` of a connection that was found. -/
def remove (id : ℕ) (c : Connection) (finalState : ConnectionState) (reason : CloseReason)
    (now : ℤ) (p : Runtime) : Runtime :=
  countClose finalState { p with
    bindings := (p.bindings.erase (c.token .client)).erase (c.token .upstream)
    closed := p.closed ++ [{ connectionId := id, finalState, reason, session := c.session, now }]
    connections := p.connections.erase id }

def closeConnection (id : ℕ) (finalState : ConnectionState) (reason : CloseReason) (now : ℤ)
    (p : Runtime) : Runtime :=
  match p.connections.lookup id with
  | none => p
  | some c => p.remove id c finalState reason now

/-- The end of `schedule_relay_wake`: an earlier wake than the scheduled one gets an entry of its
own. -/
def scheduleWake (id : ℕ) (c : Connection) (p : Runtime) : Runtime :=
  match earlier (c.lastWake .upstream) (c.lastWake .client) with
  | none => p.setConnection id c
  | some wake =>
      if c.scheduledWake.all fun scheduled => wake < scheduled then
        setConnection id { c with scheduledWake := some wake }
          { p with timerQueue := p.timerQueue.schedule wake id .pump }
      else
        p.setConnection id c

def scheduleRelayWake (id : ℕ) (now : ℤ) (p : Runtime) : Runtime :=
  match p.connections.lookup id with
  | none => p
  | some c => p.scheduleWake id (c.computeWakes now)

def refreshOrClose (id : ℕ) (now : ℤ) (p : Runtime) : Runtime :=
  match p.connections.lookup id with
  | none => p
  | some c =>
      if c.session.relay.fullyDrained then
        p.closeConnection id .fullyClosed .orderlyShutdown now
      else
        p.setConnection id ((c.applyInterest .client now).applyInterest .upstream now)

def pumpConnection (id : ℕ) (now : ℤ) (p : Runtime) : Except Fault Runtime :=
  match p.connections.lookup id with
  | none => .ok p
  | some c =>
      match c.session.flushBoth (io id) now with
      | .error e => .error e
      | .ok (.close finalState reason, session) =>
          .ok ((p.setConnection id { c with session }).closeConnection id finalState reason now)
      | .ok (.proceed, session) =>
          let session := session.propagateHalfCloses (io id)
          .ok (((p.setConnection id { c with session }).refreshOrClose id now).scheduleRelayWake
            id now)

def socketReady (event : Readiness) (p : Runtime) : Except Fault Runtime :=
  match p.bindings.lookup event.token with
  | none => .ok p
  | some binding =>
      let id := binding.connectionId
      match p.connections.lookup id with
      | none => .ok p
      | some c =>
          match c.session.serveSocket (io id) binding.side event with
          | .error e => .error e
          | .ok (.close finalState reason, session) =>
              .ok ((p.setConnection id { c with session }).closeConnection id finalState reason
                event.now)
          | .ok (.proceed, session) =>
              (p.setConnection id { c with session }).pumpConnection io id event.now

/-! ## Accepting -/

/-- `faults_apply`: the decision is drawn from the connection's own seed. -/
def faultsApply (id : ℕ) (p : Runtime) : Bool :=
  let plan := p.config.faults
  if !plan.anyEnabled then false
  else if plan.applyProbability ≥ 1 then true
  else
    let rng : SplitMix64 := ⟨deriveConnectionSeed plan.masterSeed (UInt64.ofNat id)⟩
    decide (sampleUnitInterval rng.next.1 < plan.applyProbability)

/-- The plan of a connection; `disabled_faults_` is the default plan. -/
def effectiveFaults (id : ℕ) (p : Runtime) : FaultPlan :=
  if p.faultsApply id then p.config.faults else {}

/-- The timers of a new connection. -/
def scheduleTimeouts (id : ℕ) (connecting : Bool) (now : ℤ) (config : ProxyConfig)
    (q : TimerQueue) : TimerQueue :=
  let q := if connecting ∧ config.connectTimeout > 0 then
    q.schedule (now + config.connectTimeoutNs) id .connectTimeout else q
  if config.idleTimeout > 0 then q.schedule (now + config.idleTimeoutNs) id .idleTimeout else q

/-- `accept_ready` from the clock reading on: a new connection, registered with the interest of
its fresh relay. -/
def acceptConnection (connecting : Bool) (now : ℤ) (p : Runtime) : Except Fault Runtime := do
  let id := p.nextConnectionId
  let relay ← Relay.create p.config.relayConfig (p.effectiveFaults id) (UInt64.ofNat id)
    connecting now
  let clientToken := p.nextToken
  let upstreamToken := p.nextToken + 1
  let (clientInterest, relay) := relay.desiredInterest .client now
  let (upstreamInterest, relay) := relay.desiredInterest .upstream now
  let mask : Side → EpollMask
    | .client => toEpollMask clientInterest
    | .upstream => toEpollMask upstreamInterest
  let connection : Connection :=
    { token := fun | .client => clientToken | .upstream => upstreamToken
      mask, registered := mask, session := { relay } }
  .ok { p with
        nextConnectionId := id + 1
        nextToken := p.nextToken + 2
        bindings := (p.bindings.insert clientToken ⟨id, .client⟩).insert upstreamToken
          ⟨id, .upstream⟩
        connections := p.connections.insert id connection
        timerQueue := scheduleTimeouts id connecting now p.config p.timerQueue }

/-- `accept_ready`, on the results of `accept4` up to `EAGAIN`. -/
def acceptReady : List AcceptResult → Runtime → Except Fault Runtime
  | [], p => .ok p
  | .interrupted :: accepts, p => acceptReady accepts p
  | .failed _ :: _, p => .ok p
  | .accepted upstream :: accepts, p =>
      if p.connections.keys.length ≥ p.config.maxConnections then
        acceptReady accepts p
      else
        match upstream with
        | .socketFailed _ | .connectFailed _ => acceptReady accepts p
        | .opened connecting now =>
            match p.acceptConnection connecting now with
            | .error e => .error e
            | .ok p => acceptReady accepts p

/-! ## Timers -/

def drainTimerFd (p : Runtime) : Runtime := { p with timerFd := p.timerFd.read }

/-- The value `arm_timer_fd` sets for a deadline. -/
def timerSpec (deadline : ℤ) : ItimerSpec :=
  let sinceEpoch := if deadline ≤ 0 then 1 else deadline
  let seconds := sinceEpoch.tdiv 1000000000
  let nanoseconds := sinceEpoch - seconds * 1000000000
  { tvSec := seconds
    tvNsec := if seconds = 0 ∧ nanoseconds = 0 then 1 else nanoseconds }

/-- `arm_timer_fd`, with the clock at, and the success of, `timerfd_settime`. -/
def armTimerFd (clock : ℤ) (ok : Bool) (p : Runtime) : Runtime :=
  let deadline := p.timerQueue.nextDeadline
  if deadline = p.lastArmedDeadline then p
  else if ok then
    { p with
      timerFd := TimerFd.settime ((deadline.map timerSpec).getD {}) clock
      lastArmedDeadline := deadline }
  else
    p

/-- What `process_due_timers` does with an entry it has popped. -/
def handleTimer (now : ℤ) (event : TimerEvent) (p : Runtime) : Except Fault Runtime :=
  let id := event.connectionId
  match p.connections.lookup id with
  | none => .ok p
  | some c =>
      match event.kind with
      | .pump => (p.setConnection id (c.resetDueWake now)).pumpConnection io id now
      | .connectTimeout =>
          if c.session.relay.upstreamConnecting then
            .ok (p.closeConnection id .timedOut .connectTimeout now)
          else
            .ok p
      | .idleTimeout =>
          let idleDeadline := c.session.relay.lastActivity + p.config.idleTimeoutNs
          if now ≥ idleDeadline then
            .ok (p.closeConnection id .timedOut .idleTimeout now)
          else
            .ok { p with timerQueue := p.timerQueue.schedule idleDeadline id .idleTimeout }

/-- One trip through the loop of `process_due_timers`, counting the entries. -/
def processDueBody (now : ℤ) : ℕ × Runtime → Except Fault (Loop.Trip (ℕ × Runtime) Unit)
  | (processed, p) =>
      match p.timerQueue.popDue now with
      | none => .ok (.exit () (processed, p))
      | some (event, timerQueue) =>
          (handleTimer io now event { p with timerQueue }).map fun p => .again (processed + 1, p)

/-- `process_due_timers`.  The budget is one trip for each due entry and one to leave. -/
def processDueTimers (now : ℤ) (p : Runtime) : Except Fault (ℕ × Runtime) :=
  (Loop.run (processDueBody io now) .endlessLoop (p.timerQueue.due now + 1)
    (0, { p with lastArmedDeadline := none })).map Prod.snd

/-! ## The loop -/

/-- The handling of one event; the flag is `stopping`. -/
def dispatch (event : Readiness) (p : Runtime) : Except Fault (Bool × Runtime) :=
  if event.token = kListenerToken then
    (p.acceptReady event.accepts).map fun p => (false, p)
  else if event.token = kSignalToken then
    .ok (decide (event.signal ≠ .sigusr1), p)
  else if event.token = kTimerToken then
    (p.drainTimerFd.processDueTimers io event.now).map fun (_, p) => (false, p)
  else
    (p.socketReady io event).map fun p => (false, p)

end Runtime

/-- What happens between two calls of `epoll_wait`: an event of the batch is handled, or the clock
reaches a time, which may make the timerfd expire. -/
inductive LoopStep
  | ready (event : Readiness)
  | tick (clock : ℤ)
  deriving DecidableEq, Repr

/-- One trip through the loop of `run`: `epoll_wait` is interrupted, or returns a batch, after
which the timer is armed. -/
inductive Iteration
  | interrupted (clock : ℤ)
  | batch (steps : List LoopStep) (clock : ℤ) (settimeOk : Bool)
  deriving DecidableEq, Repr

/-- The clock readings made in a step. -/
def LoopStep.readings : LoopStep → List ℤ
  | .ready event => event.readings
  | .tick _ => []

def Iteration.readings : Iteration → List ℤ
  | .interrupted _ => []
  | .batch steps _ _ => steps.flatMap LoopStep.readings

namespace Runtime

variable (io : ℕ → SocketIo)

/-- The rest of a batch is skipped once the loop is stopping. -/
def runStep (step : LoopStep) (stopping : Bool) (p : Runtime) : Except Fault (Bool × Runtime) :=
  match step with
  | .tick clock => .ok (stopping, { p with timerFd := p.timerFd.tick clock })
  | .ready event => if stopping then .ok (stopping, p) else p.dispatch io event

def runSteps : List LoopStep → Bool × Runtime → Except Fault (Bool × Runtime)
  | [], state => .ok state
  | step :: steps, (stopping, p) =>
      match runStep io step stopping p with
      | .error e => .error e
      | .ok state => runSteps steps state

def runIteration (iteration : Iteration) (p : Runtime) : Except Fault (Bool × Runtime) :=
  match iteration with
  | .interrupted clock => .ok (false, { p with timerFd := p.timerFd.tick clock })
  | .batch steps clock settimeOk =>
      (runSteps io steps (false, p)).map fun (stopping, p) =>
        (stopping, p.armTimerFd clock settimeOk)

/-- The `while (!stopping)` of `run`. -/
def runLoop : List Iteration → Bool × Runtime → Except Fault (Bool × Runtime)
  | [], state => .ok state
  | iteration :: iterations, (stopping, p) =>
      if stopping then .ok (stopping, p)
      else
        match runIteration io iteration p with
        | .error e => .error e
        | .ok state => runLoop iterations state

/-- The end of `run`: every remaining connection is closed. -/
def shutDown (now : ℤ) (p : Runtime) : Runtime :=
  p.connections.keys.foldl (fun p id => p.closeConnection id .fullyClosed .proxyShutdown now) p

/-- A moment of a run: some iterations are complete and some steps of the next one are taken. -/
def runTo (config : ProxyConfig) (iterations : List Iteration) (steps : List LoopStep) :
    Except Fault (Bool × Runtime) := do
  let state ← runLoop io iterations (false, { config })
  runSteps io steps state

end Runtime

end NetFault
