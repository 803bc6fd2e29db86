import NetFault.Proxy.Acts

/-!
# The state an error is recorded as

An error number of a socket reaches the proxy in one of three ways: pending in `SO_ERROR` when
`EPOLLERR` is reported, returned by `recv`, or returned by `send`.  The first is turned into a
final state by `socket_ready`, the other two by `Relay::close_for_error`, and the two mappings are
not the same: `EPIPE` is a reset for the relay and a failure for `socket_ready`.  So what an
`EPIPE` is recorded as depends on which way it is found, and no other error number does.

`Session.Reports` says what a call of the relay does with an error that a socket returns in it:
nothing follows it, and the connection is to be closed as `close_for_error` says.
-/

namespace NetFault

/-- The error number a call of `recv` or `send` returned. -/
def TraceEvent.ioError? : TraceEvent → Option (Side × IoOperation × ℤ)
  | .receive side _ _ (.error error) _ => some (side, .read, error)
  | .send side _ (.error error) _ => some (side, .write, error)
  | _ => none

/-- Between `s` and `s'` the operation has returned an error on `side`. -/
def Session.Errs (side : Side) (operation : IoOperation) (error : ℤ) (s s' : Session) : Prop :=
  ∃ added, s'.trace = s.trace ++ added ∧
    ∃ event ∈ added, event.ioError? = some (side, operation, error)

/-- Every error returned between `s` and `s'` is the one the result asks to close for. -/
def Session.Reports (result : PumpResult) (s s' : Session) : Prop :=
  ∃ added, s'.trace = s.trace ++ added ∧ ∀ event ∈ added, ∀ side operation error,
    event.ioError? = some (side, operation, error) → result = closeForError error operation

section Reports

variable {io : SocketIo} {now : ℤ} {s m s' : Session} {result : PumpResult}

lemma Session.Reports.result_eq (h : s.Reports result s') {side : Side} {operation : IoOperation}
    {error : ℤ} (herrs : s.Errs side operation error s') :
    result = closeForError error operation := by
  obtain ⟨added, htrace, hreports⟩ := h
  obtain ⟨added', htrace', event, hmem, herror⟩ := herrs
  obtain rfl : added = added' := List.append_cancel_left (htrace.symm.trans htrace')
  exact hreports event hmem side operation error herror

/-- Nothing but events without an error was added. -/
lemma Session.Reports.of_silent {added : Trace} (htrace : s'.trace = s.trace ++ added)
    (hsilent : ∀ event ∈ added, event.ioError? = none) : s.Reports result s' := by
  refine ⟨added, htrace, fun event hmem side operation error herror => ?_⟩
  rw [hsilent event hmem] at herror
  cases herror

lemma Session.Reports.of_trace_eq (h : s'.trace = s.trace) : s.Reports result s' :=
  ⟨[], by simpa using h, by simp⟩

/-- A part that proceeds has seen no error. -/
lemma Session.Reports.trans (h : s.Reports .proceed m) (h' : m.Reports result s') :
    s.Reports result s' := by
  obtain ⟨before, htrace, hbefore⟩ := h
  obtain ⟨after, htrace', hafter⟩ := h'
  refine ⟨before ++ after, by rw [htrace', htrace, List.append_assoc], fun event hmem => ?_⟩
  rcases List.mem_append.mp hmem with hmem | hmem
  · intro side operation error herror
    cases hbefore event hmem side operation error herror
  · exact hafter event hmem

lemma TraceEvent.ioError?_of_isNote {event : TraceEvent} (h : event.isNote = true) :
    event.ioError? = none := by
  cases event <;> first | rfl | cases h

/-! ## The relay -/

lemma observeBackpressure_reports {source : Side}
    (h : s.observeBackpressure source now = .ok s') : s.Reports .proceed s' := by
  simp only [Session.observeBackpressure, bind, Except.bind] at h
  split at h
  · cases h
  · split at h
    · obtain rfl := Except.ok.inj h
      exact .of_silent rfl (by simp [TraceEvent.ioError?])
    · obtain rfl := Except.ok.inj h
      exact .of_silent (List.append_assoc ..) (by simp [TraceEvent.ioError?])
    · obtain rfl := Except.ok.inj h
      exact .of_silent (List.append_assoc ..) (by simp [TraceEvent.ioError?])

lemma commitReceived_reports {source : Side} {bytes : List Byte}
    (h : s.commitReceived source bytes now = .ok s') : s.Reports .proceed s' := by
  simp only [Session.commitReceived, bind, Except.bind] at h
  split at h
  · cases h
  · refine .trans ?_ (observeBackpressure_reports h)
    exact .of_silent rfl fun event hmem =>
      TraceEvent.ioError?_of_isNote (stampFault_isNote _ _ _ _ event hmem)

lemma commitSent_reports {destination : Side} {budget count : ℕ}
    (h : s.commitSent destination budget count now = .ok s') : s.Reports .proceed s' := by
  simp only [Session.commitSent, bind, Except.bind] at h
  split at h
  · cases h
  split at h
  · cases h
  split at h
  · cases h
  · next m hobserve =>
      obtain rfl := Except.ok.inj h
      refine .trans ?_ ((observeBackpressure_reports hobserve).trans (.of_trace_eq rfl))
      exact .of_trace_eq rfl

/-- One trip of `handle_readable` that goes on. -/
lemma handleReadableBody_again {source : Side} {hangupHint : Bool}
    (h : s.handleReadableBody io source hangupHint now = .ok (.again s')) :
    s.Reports .proceed s' := by
  simp only [Session.handleReadableBody] at h
  split at h
  swap
  · cases h
  split at h
  · cases h
  split at h
  · next bytes hresult =>
      rcases hcommit : Session.commitReceived source bytes now (s.record _) with _ | m
      · rw [hcommit] at h
        cases h
      · rw [hcommit] at h
        obtain rfl := Loop.Trip.again.inj (Except.ok.inj h)
        refine .trans (.of_silent rfl ?_) (commitReceived_reports hcommit)
        simp [TraceEvent.ioError?, hresult]
  all_goals cases h

/-- One trip of `handle_readable` that leaves the loop. -/
lemma handleReadableBody_exit {source : Side} {hangupHint : Bool}
    (h : s.handleReadableBody io source hangupHint now = .ok (.exit result s')) :
    s.Reports result s' := by
  simp only [Session.handleReadableBody] at h
  split at h
  swap
  · obtain ⟨-, rfl⟩ := Loop.Trip.exit.inj (Except.ok.inj h)
    exact .of_trace_eq rfl
  split at h
  · cases h
  split at h
  · next bytes hresult =>
      rcases hcommit : Session.commitReceived source bytes now (s.record _) with _ | m <;>
        rw [hcommit] at h <;> cases h
  · next error hresult =>
      obtain ⟨-, rfl⟩ := Loop.Trip.exit.inj (Except.ok.inj h)
      exact .of_silent (List.append_assoc ..) (by simp [TraceEvent.ioError?, hresult])
  · next hresult =>
      obtain ⟨-, rfl⟩ := Loop.Trip.exit.inj (Except.ok.inj h)
      split_ifs
      · exact .of_silent (List.append_assoc ..) (by simp [TraceEvent.ioError?, hresult])
      · exact .of_silent rfl (by simp [TraceEvent.ioError?, hresult])
  · next error hresult =>
      obtain ⟨rfl, rfl⟩ := Loop.Trip.exit.inj (Except.ok.inj h)
      refine ⟨_, rfl, fun event hmem side operation error' herror => ?_⟩
      rw [List.mem_singleton.mp hmem, hresult] at herror
      cases herror
      rfl

/-- **`handle_readable`** closes for the error `recv` returns. -/
lemma handleReadable_reports {source : Side} {hangupHint : Bool}
    (h : s.handleReadable io source hangupHint now = .ok (result, s')) : s.Reports result s' := by
  obtain ⟨last, hlast, hexit⟩ := Loop.run_exit (fun m => s.Reports .proceed m)
    (fun m m' hm hbody => hm.trans (handleReadableBody_again hbody)) _ s (.of_trace_eq rfl) h
  exact hlast.trans (handleReadableBody_exit hexit)

/-- One trip of `flush` that goes on. -/
lemma flushBody_again {destination : Side}
    (h : s.flushBody io destination now = .ok (.again s')) : s.Reports .proceed s' := by
  simp only [Session.flushBody] at h
  split at h
  · cases h
  split at h
  · cases h
  split at h
  · next count hresult =>
      rcases hcommit : Session.commitSent destination _ count now (Session.record _ _) with _ | m
      · rw [hcommit] at h
        cases h
      · rw [hcommit] at h
        obtain rfl := Loop.Trip.again.inj (Except.ok.inj h)
        refine .trans (.of_silent rfl ?_) (commitSent_reports hcommit)
        simp [TraceEvent.ioError?, hresult]
  all_goals cases h

/-- One trip of `flush` that leaves the loop: with a result for the error that `send` returned, or
without one. -/
lemma flushBody_reports {destination : Side} {outcome : Option PumpResult}
    (h : s.flushBody io destination now = .ok (.exit outcome s')) :
    s.Reports (outcome.getD .proceed) s' := by
  simp only [Session.flushBody] at h
  split at h
  · obtain ⟨-, rfl⟩ := Loop.Trip.exit.inj (Except.ok.inj h)
    exact .of_trace_eq rfl
  split at h
  · obtain ⟨-, rfl⟩ := Loop.Trip.exit.inj (Except.ok.inj h)
    exact .of_trace_eq rfl
  split at h
  · next count hresult =>
      rcases hcommit : Session.commitSent destination _ count now (Session.record _ _) with _ | m
      <;> rw [hcommit] at h <;> cases h
  · next hresult =>
      obtain ⟨-, rfl⟩ := Loop.Trip.exit.inj (Except.ok.inj h)
      exact .of_silent rfl (by simp [TraceEvent.ioError?, hresult])
  · next error hresult =>
      obtain ⟨-, rfl⟩ := Loop.Trip.exit.inj (Except.ok.inj h)
      exact .of_silent rfl (by simp [TraceEvent.ioError?, hresult])
  · next error hresult =>
      obtain ⟨rfl, rfl⟩ := Loop.Trip.exit.inj (Except.ok.inj h)
      refine ⟨_, rfl, fun event hmem side operation error' herror => ?_⟩
      rw [List.mem_singleton.mp hmem, hresult] at herror
      cases herror
      rfl

lemma injectHalfClose_reports : s.Reports result (s.injectHalfClose io) := by
  simp only [Session.injectHalfClose]
  split_ifs
  · exact .of_silent (List.append_assoc ..) (by simp [TraceEvent.ioError?])
  · exact .of_silent rfl (by simp [TraceEvent.ioError?])
  · exact .of_trace_eq rfl

lemma checkLifecycleFaults_reports :
    s.Reports (s.checkLifecycleFaults io).1 (s.checkLifecycleFaults io).2 := by
  simp only [Session.checkLifecycleFaults]
  split_ifs
  · exact injectHalfClose_reports.trans (.of_silent rfl (by simp [TraceEvent.ioError?]))
  · exact injectHalfClose_reports

/-- **`flush`** closes for the error `send` returns. -/
lemma flush_reports {destination : Side}
    (h : s.flush io destination now = .ok (result, s')) : s.Reports result s' := by
  rw [Session.flush] at h
  split at h
  · obtain ⟨-, rfl⟩ := Prod.mk.inj (Except.ok.inj h)
    exact .of_trace_eq rfl
  rcases hrun : Loop.run (Session.flushBody io destination now) .endlessLoop
      ((s.relay.directionFrom destination.peer).queue.size + 1) s with _ | ⟨outcome, last⟩
  · rw [hrun] at h
    cases h
  rw [hrun] at h
  obtain ⟨m, hm, hexit⟩ := Loop.run_exit (fun m => s.Reports .proceed m)
    (fun m m' hm hbody => hm.trans (flushBody_again hbody)) _ s (.of_trace_eq rfl) hrun
  have hlast := hm.trans (flushBody_reports hexit)
  cases outcome with
  | some value =>
      obtain ⟨rfl, rfl⟩ := Prod.mk.inj (Except.ok.inj h)
      exact hlast
  | none =>
      obtain ⟨rfl, rfl⟩ := Prod.mk.inj (Except.ok.inj h)
      exact hlast.trans checkLifecycleFaults_reports

/-- Once upstream has connected, `socket_ready` looks for a pending error and reads. -/
lemma serveSocket_of_connected (hconn : s.relay.upstreamConnecting = false) {side : Side}
    {event : Readiness} :
    s.serveSocket io side event = match s.checkSocketError event with
      | .close finalState reason => .ok (.close finalState reason, s)
      | .proceed => s.readIfReady io side event := by
  rw [Session.serveSocket, Session.finishConnect, hconn, Bool.and_false, Bool.false_and]
  rfl

lemma serveSocket_reports {side : Side} {event : Readiness}
    (hconn : s.relay.upstreamConnecting = false)
    (h : s.serveSocket io side event = .ok (result, s')) : s.Reports result s' := by
  rw [serveSocket_of_connected hconn] at h
  split at h
  · obtain ⟨-, rfl⟩ := Prod.mk.inj (Except.ok.inj h)
    exact .of_trace_eq rfl
  rw [Session.readIfReady] at h
  split at h
  · exact handleReadable_reports h
  · obtain ⟨-, rfl⟩ := Prod.mk.inj (Except.ok.inj h)
    exact .of_trace_eq rfl

lemma flushBoth_reports (h : s.flushBoth io now = .ok (result, s')) : s.Reports result s' := by
  rw [Session.flushBoth] at h
  split_ifs at h
  · obtain ⟨-, rfl⟩ := Prod.mk.inj (Except.ok.inj h)
    exact .of_trace_eq rfl
  split at h
  · next m hupstream => exact (flush_reports hupstream).trans (flush_reports h)
  · exact flush_reports h

end Reports

/-! ## The runtime -/

/-- The three ways an error number is found. -/
inductive ErrorPath
  | socketError
  | receive
  | send
  deriving DecidableEq, Repr

/-- The final state each of the three ways gives an error. -/
def ErrorPath.finalState (error : ℤ) : ErrorPath → ConnectionState
  | .socketError => if error = 104 then .reset else .failed
  | .receive | .send => if error = 104 ∨ error = 32 then .reset else .failed

/-- An error number of a socket of the live connection `c` is found, and what the proxy makes of
it.  The operations are those that `run` and `process_due_timers` call. -/
inductive Discovers (io : ℕ → SocketIo) (p : Runtime) (id : ℕ) (c : Connection) (side : Side)
    (error : ℤ) : ErrorPath → Except Fault Runtime → Prop
  /-- `EPOLLERR` is reported for the socket, and the error is pending. -/
  | socketError (event : Readiness) (bound : p.bindings.lookup event.token = some ⟨id, side⟩)
      (epollerr : event.events.epollerr = true) (pending : event.socketError = .value error) :
      Discovers io p id c side error .socketError (p.socketReady io event)
  /-- `recv` returns it in `handle_readable`. -/
  | receive (event : Readiness) (result : PumpResult) (session : Session)
      (bound : p.bindings.lookup event.token = some ⟨id, side⟩)
      (served : c.session.serveSocket (io id) side event = .ok (result, session))
      (returned : c.session.Errs side .read error session) :
      Discovers io p id c side error .receive (p.socketReady io event)
  /-- `send` returns it in a `flush` after an event of one of the two sockets. -/
  | sendAfterEvent (event : Readiness) (ready : Side) (result : PumpResult) (mid session : Session)
      (bound : p.bindings.lookup event.token = some ⟨id, ready⟩)
      (served : c.session.serveSocket (io id) ready event = .ok (.proceed, mid))
      (flushed : mid.flushBoth (io id) event.now = .ok (result, session))
      (returned : mid.Errs side .write error session) :
      Discovers io p id c side error .send (p.socketReady io event)
  /-- `send` returns it in a `flush` when a wake is due. -/
  | sendAtWake (now : ℤ) (result : PumpResult) (session : Session)
      (flushed : c.session.flushBoth (io id) now = .ok (result, session))
      (returned : c.session.Errs side .write error session) :
      Discovers io p id c side error .send (p.pumpConnection io id now)

namespace Runtime

/-- The four `closes_` counters. -/
def closeCounters (p : Runtime) : UInt64 × UInt64 × UInt64 × UInt64 :=
  (p.closesFullyClosed, p.closesReset, p.closesFailed, p.closesTimedOut)

/-- An operation has closed the connection `id` of `p` and recorded it as `finalState`: there is one
more entry for it, and the counter of that state has gone up. -/
def ClosesAs (p : Runtime) (id : ℕ) (finalState : ConnectionState)
    (outcome : Except Fault Runtime) : Prop :=
  ∃ p', outcome = .ok p' ∧ (∀ c, ¬p'.Live id c) ∧
    (∃ entry, p'.closed = p.closed ++ [entry] ∧ entry.connectionId = id ∧
      entry.finalState = finalState) ∧
    p'.closeCounters = (p.countClose finalState).closeCounters

end Runtime

section Runtime

variable {io : ℕ → SocketIo} {now : ℤ} {id : ℕ} {c : Connection} {p : Runtime} {side : Side}
  {error : ℤ} {path : ErrorPath} {outcome : Except Fault Runtime}
  {finalState finalState' : ConnectionState} {reason : CloseReason}

lemma Runtime.ClosesAs.state_eq (h : p.ClosesAs id finalState outcome)
    (h' : p.ClosesAs id finalState' outcome) : finalState = finalState' := by
  obtain ⟨p', houtcome, -, ⟨entry, hclosed, -, rfl⟩, -⟩ := h
  obtain ⟨p'', houtcome', -, ⟨entry', hclosed', -, rfl⟩, -⟩ := h'
  obtain rfl : p' = p'' := Except.ok.inj (houtcome.symm.trans houtcome')
  obtain rfl : entry = entry' :=
    List.singleton_injective (List.append_cancel_left (hclosed.symm.trans hclosed'))
  rfl

/-- The record does not see what the connection was in the meantime. -/
lemma Runtime.ClosesAs.of_setConnection
    (h : (p.setConnection id c).ClosesAs id finalState outcome) :
    p.ClosesAs id finalState outcome := by
  obtain ⟨p', houtcome, hlive, hclosed, hcounters⟩ := h
  refine ⟨p', houtcome, hlive, hclosed, hcounters.trans ?_⟩
  cases finalState <;> rfl

lemma closesAs_closeConnection {c : Connection} :
    p.ClosesAs id finalState
      (.ok ((p.setConnection id c).closeConnection id finalState reason now)) := by
  rw [Runtime.closeConnection_setConnection]
  refine ⟨_, rfl, fun c' hlive => ?_, ⟨_, Runtime.remove_closed, rfl, rfl⟩, ?_⟩
  · exact (Runtime.live_remove.mp hlive).1 rfl
  · cases finalState <;> rfl

lemma socketReady_closes {event : Readiness} {session : Session} (hlive : p.Live id c)
    (hbound : p.bindings.lookup event.token = some ⟨id, side⟩)
    (hserved : c.session.serveSocket (io id) side event = .ok (.close finalState reason, session)) :
    p.ClosesAs id finalState (p.socketReady io event) := by
  have hlookup : p.connections.lookup id = some c := hlive
  simp only [Runtime.socketReady, hbound, hlookup, hserved]
  exact closesAs_closeConnection

lemma pumpConnection_closes {session : Session} (hlive : p.Live id c)
    (hflushed : c.session.flushBoth (io id) now = .ok (.close finalState reason, session)) :
    p.ClosesAs id finalState (p.pumpConnection io id now) := by
  have hlookup : p.connections.lookup id = some c := hlive
  simp only [Runtime.pumpConnection, hlookup, hflushed]
  exact closesAs_closeConnection

/-- **Every error that is found closes the connection**, as the way it is found says. -/
lemma Discovers.closesAs (h : Discovers io p id c side error path outcome) (hlive : p.Live id c)
    (hconn : c.session.relay.upstreamConnecting = false) (herror : error ≠ 0) :
    p.ClosesAs id (path.finalState error) outcome := by
  cases h with
  | socketError event bound epollerr pending =>
      have hserved : c.session.serveSocket (io id) side event =
          .ok (.close (ErrorPath.finalState error .socketError) (.socketError error),
            c.session) := by
        rw [serveSocket_of_connected hconn, Session.checkSocketError]
        simp [epollerr, hconn, pending, herror, ErrorPath.finalState]
      exact socketReady_closes hlive bound hserved
  | receive event result session bound served returned =>
      obtain rfl := (serveSocket_reports hconn served).result_eq returned
      exact socketReady_closes hlive bound served
  | sendAfterEvent event ready result mid session bound served flushed returned =>
      obtain rfl := (flushBoth_reports flushed).result_eq returned
      have hlookup : p.connections.lookup id = some c := hlive
      simp only [Runtime.socketReady, bound, hlookup, served]
      exact (pumpConnection_closes Runtime.live_setConnection_self flushed).of_setConnection
  | sendAtWake now result session flushed returned =>
      obtain rfl := (flushBoth_reports flushed).result_eq returned
      exact pumpConnection_closes hlive flushed

/-- The two mappings differ on `EPIPE`, and on nothing else. -/
lemma ErrorPath.finalState_eq_iff (path path' : ErrorPath) :
    path.finalState error = path'.finalState error ↔
      error ≠ 32 ∨ (path = .socketError ↔ path' = .socketError) := by
  by_cases hpipe : error = 32
  · subst hpipe
    cases path <;> cases path' <;> decide
  · cases path <;> cases path' <;> simp [ErrorPath.finalState, hpipe]

end Runtime

/-- **One error, one record, unless it is `EPIPE`.**  Take any state of the runtime, between two
events or in the middle of `process_due_timers`, a connection in it whose upstream has connected,
and an error number that may be found in that state in two ways, on either socket.  Both times the
connection is closed; it is recorded with the same final state and on the same counter if and only
if the error is not `EPIPE`, or both ways are `SO_ERROR`, or none of them is. -/
theorem error_states_agree_iff (io io' : ℕ → SocketIo) {p : Runtime} {id : ℕ} {c : Connection}
    (hlive : p.Live id c) (hconn : c.session.relay.upstreamConnecting = false) {side side' : Side}
    {error : ℤ} (herror : error ≠ 0) {path path' : ErrorPath}
    {outcome outcome' : Except Fault Runtime} (h : Discovers io p id c side error path outcome)
    (h' : Discovers io' p id c side' error path' outcome') :
    (∃ finalState, p.ClosesAs id finalState outcome ∧ p.ClosesAs id finalState outcome') ↔
      error ≠ 32 ∨ (path = .socketError ↔ path' = .socketError) := by
  have hcloses := h.closesAs hlive hconn herror
  have hcloses' := h'.closesAs hlive hconn herror
  rw [← ErrorPath.finalState_eq_iff]
  constructor
  · rintro ⟨finalState, hstate, hstate'⟩
    exact (hcloses.state_eq hstate).trans (hstate'.state_eq hcloses')
  · intro heq
    exact ⟨path.finalState error, hcloses, heq ▸ hcloses'⟩

/-- Sockets whose peers send `inbound`, and on which every `send` returns an error. -/
def SocketIo.failing (inbound : Side → List Byte) (error : ℤ) : SocketIo :=
  { SocketIo.script inbound with
    send := fun _ _ _ => .error error
    send_transferred := by
      intro history side data count h
      cases h }

/-- The client has sent one byte, and an upstream that has ended its stream resets the
connection. -/
def resetByUpstream (error : ℤ) : ℕ → SocketIo :=
  fun _ => .failing (fun side => if side = .client then [1] else []) error

/-- The upstream socket is reported with the error pending. -/
def pendingError (error : ℤ) : Readiness :=
  { token := 5, events := { epollerr := true, epollhup := true }, now := 13
    socketError := .value error }

/-- The client socket is reported as readable. -/
def clientReadable : Readiness := { token := 4, events := { epollin := true }, now := 13 }

/-- The run in which upstream ends its stream right after the connect. -/
def halfClosedRun (error : ℤ) : Except Fault (Bool × Runtime) :=
  Runtime.runTo (resetByUpstream error)
    { bufferBytesPerDirection := 1024, lowWaterBytes := 512, highWaterBytes := 1024 }
    [.batch [.ready { token := 1, accepts := [.accepted (.opened false 10)] }] 11 true]
    [.ready { token := 5, events := { epollin := true, epollrdhup := true }, now := 12 }]

/-- A test for the error being found both ways in the last state of that run. -/
def findsBothWays (error : ℤ) : Bool :=
  returns (halfClosedRun error) fun state =>
    decide (state.2.bindings.lookup 4 = some ⟨1, .client⟩) &&
    decide (state.2.bindings.lookup 5 = some ⟨1, .upstream⟩) &&
    (state.2.connections.lookup 1).any fun c => !c.session.relay.upstreamConnecting &&
      returns (c.session.serveSocket (resetByUpstream error 1) .client clientReadable) fun served =>
        decide (served.1 = .proceed) &&
        returns (served.2.flushBoth (resetByUpstream error 1) 13) fun flushed =>
          decide (flushed.2.trace =
            served.2.trace ++ [.send .upstream [1] (.error error) 13])

lemma discovers_of_findsBothWays (error : ℤ) (hfinds : findsBothWays error = true) :
    ∃ stopping p c, halfClosedRun error = .ok (stopping, p) ∧ p.Live 1 c ∧
      c.session.relay.upstreamConnecting = false ∧
      Discovers (resetByUpstream error) p 1 c .upstream error .socketError
        (p.socketReady (resetByUpstream error) (pendingError error)) ∧
      Discovers (resetByUpstream error) p 1 c .upstream error .send
        (p.socketReady (resetByUpstream error) clientReadable) := by
  obtain ⟨⟨stopping, p⟩, hrun, htest⟩ := exists_of_returns hfinds
  simp only [Bool.and_eq_true, Option.any_eq_true, Bool.not_eq_true', decide_eq_true_eq] at htest
  obtain ⟨⟨hclient, hupstream⟩, c, hlive, hconn, hserve⟩ := htest
  obtain ⟨⟨result, mid⟩, hserved, hrest⟩ := exists_of_returns hserve
  simp only [Bool.and_eq_true, decide_eq_true_eq] at hrest
  obtain ⟨rfl, hflush⟩ := hrest
  obtain ⟨⟨result, session⟩, hflushed, htrace⟩ := exists_of_returns hflush
  refine ⟨stopping, p, c, hrun, hlive, hconn, .socketError _ hupstream rfl rfl, ?_⟩
  exact .sendAfterEvent clientReadable .client result mid session hclient hserved hflushed
    ⟨_, of_decide_eq_true htrace, _, List.mem_singleton_self _, rfl⟩

/-- `ECONNRESET` is recorded alike, pending or returned by `send`. -/
theorem error_states_agree_econnreset :
    ∃ stopping p c, halfClosedRun 104 = .ok (stopping, p) ∧ p.Live 1 c ∧
      ∃ finalState,
        p.ClosesAs 1 finalState (p.socketReady (resetByUpstream 104) (pendingError 104)) ∧
        p.ClosesAs 1 finalState (p.socketReady (resetByUpstream 104) clientReadable) := by
  obtain ⟨stopping, p, c, hrun, hlive, hconn, hpending, hsend⟩ :=
    discovers_of_findsBothWays 104 (by decide +kernel)
  have hiff := error_states_agree_iff _ _ hlive hconn (by decide) hpending hsend
  exact ⟨stopping, p, c, hrun, hlive, hiff.mpr (.inl (by decide))⟩

/-- Upstream has ended its stream and then resets the connection, which makes the error `EPIPE`.  If
`EPOLLERR` is handled first the connection has failed, and if the client's byte is flushed first it
was reset. -/
theorem epipe_recorded_two_ways :
    ∃ stopping p c, halfClosedRun 32 = .ok (stopping, p) ∧ p.Live 1 c ∧
      c.session.relay.upstreamConnecting = false ∧
      Discovers (resetByUpstream 32) p 1 c .upstream 32 .socketError
        (p.socketReady (resetByUpstream 32) (pendingError 32)) ∧
      Discovers (resetByUpstream 32) p 1 c .upstream 32 .send
        (p.socketReady (resetByUpstream 32) clientReadable) ∧
      ¬∃ finalState,
        p.ClosesAs 1 finalState (p.socketReady (resetByUpstream 32) (pendingError 32)) ∧
        p.ClosesAs 1 finalState (p.socketReady (resetByUpstream 32) clientReadable) := by
  obtain ⟨stopping, p, c, hrun, hlive, hconn, hpending, hsend⟩ :=
    discovers_of_findsBothWays 32 (by decide +kernel)
  refine ⟨stopping, p, c, hrun, hlive, hconn, hpending, hsend, ?_⟩
  rintro ⟨finalState, hstate, hstate'⟩
  have hfailed := hstate.state_eq (hpending.closesAs hlive hconn (by decide))
  have hreset := hstate'.state_eq (hsend.closesAs hlive hconn (by decide))
  exact absurd (hfailed.symm.trans hreset) (by decide)

end NetFault
