import NetFault.Proxy.Sessions
import NetFault.Relay.Forwarding
import NetFault.Workload.ClientRequests
import NetFault.Workload.ServerGuarantees

/-!
# From the client through the proxy to the echo server and back

The three programs of the lab together: a client that writes a stream and reads one, a connection of
the proxy under any fault plan, and a worker of the server in an echoing mode.  They run in any
interleaving; what joins them are four streams of bytes, and all that is assumed of those is that
they keep order, lose nothing and end when their writer has ended them (`Conveys False`).  A stream
ends for its reader by what the socket answers: a receive of no bytes or, for the proxy, nothing to
read after a hangup (`TraceEvent.isEof`).

At a moment of such a run each program has some history.  Every stage conveys its part of the
stream, so the whole path does: what the client has read is a beginning of what it has written, and
an end that it sees is the end it made, unless one of the stages has cut the stream.
-/

namespace NetFault

open History Process

/-! ## The proxy -/

/-- A history that some connection of the proxy has at a moment of some run.  With a reason the
connection is closed, and its history is complete. -/
def ProxiedAt (io : ℕ → SocketIo) (config : ProxyConfig) (trace : Trace)
    (closed : Option CloseReason) : Prop :=
  ∃ iterations steps stopping p, Runtime.runTo io config iterations steps = .ok (stopping, p) ∧
    ∃ final : Runtime, (final = p ∨ ∃ now, final = p.shutDown now) ∧
      match closed with
      | none => (∃ id c, final.Live id c ∧ trace <+: c.session.trace) ∨
          ∃ entry ∈ final.closed, trace <+: entry.session.trace
      | some reason => ∃ entry ∈ final.closed, entry.reason = reason ∧ entry.session.trace = trace

/-- The stream towards `side` as the proxy makes it; closing the sockets ends it too. -/
def proxyLeaving (trace : Trace) (closed : Option CloseReason) (side : Side) :
    StreamPoint Byte where
  passed := trace.sent side
  Ended := (trace.leaving side).Ended ∨ closed ≠ none

/-- The proxy has closed the connection for a reason other than the end of both streams. -/
def ClosedEarly (closed : Option CloseReason) : Prop :=
  ∃ reason, closed = some reason ∧ reason ≠ .orderlyShutdown

/-- What is known of the history of every session, at every moment. -/
def Session.Conveying (s : Session) : Prop :=
  Guarded Forwards s.trace ∧ Guarded Protocol s.trace

lemma Session.lasting_conveying : Session.Lasting Session.Conveying where
  born _ _ _ _ _ _ := ⟨guarded_nil, guarded_nil⟩
  move _ _ _ _ hintact hlife h hmove :=
    ⟨hmove.forwards hintact h.1, (hlife.move hintact hmove).protocol⟩

section Proxy

variable {io : ℕ → SocketIo} {config : ProxyConfig} {trace : Trace} {closed : Option CloseReason}

lemma Guarded.of_begins {allowed : Trace → TraceEvent → Prop} {whole : Trace}
    (h : Guarded allowed whole) (hle : trace <+: whole) : Guarded allowed trace := by
  obtain ⟨future, rfl⟩ := hle
  exact (guarded_append_iff.mp h).1

/-- The history of a proxied connection is guarded, and complete if it was closed in order. -/
lemma ProxiedAt.guarded (hconfig : config.validate = .ok ())
    (h : ProxiedAt io config trace closed) :
    Guarded Forwards trace ∧ Guarded Protocol trace ∧
      (closed = some .orderlyShutdown → ∃ s : Session, s.trace = trace ∧ s.Complete) := by
  obtain ⟨iterations, steps, stopping, p, hrun, final, hfinal, hwhere⟩ := h
  have hall : p.Every Session.Conveying :=
    (Session.lasting_conveying.invariant io).of_runTo hconfig (Runtime.every_init config) hrun
  have hcomplete : p.ClosesComplete :=
    (Runtime.ClosesComplete.invariant io).of_runTo hconfig (fun entry hentry => by cases hentry)
      hrun
  have hevery : final.Every Session.Conveying ∧ final.ClosesComplete := by
    rcases hfinal with rfl | ⟨now, rfl⟩
    · exact ⟨hall, hcomplete⟩
    · exact ⟨hall.shutDown now, hcomplete.shutDown now⟩
  cases closed with
  | none =>
      rcases hwhere with ⟨id, c, hlive, hle⟩ | ⟨entry, hentry, hle⟩
      · have hconveying := hevery.1.live id c hlive
        exact ⟨Guarded.of_begins hconveying.1 hle, Guarded.of_begins hconveying.2 hle, by simp⟩
      · have hconveying := hevery.1.closed entry hentry
        exact ⟨Guarded.of_begins hconveying.1 hle, Guarded.of_begins hconveying.2 hle, by simp⟩
  | some reason =>
      obtain ⟨entry, hentry, hreason, rfl⟩ := hwhere
      have hconveying := hevery.1.closed entry hentry
      refine ⟨hconveying.1, hconveying.2, fun horderly => ⟨entry.session, rfl, ?_⟩⟩
      exact hevery.2 entry hentry (hreason.trans (by simpa using horderly))

/-- **The proxy conveys both streams**, under any faults: the one towards the server up to an early
close, the one towards the client up to that and to the injected half-close. -/
lemma ProxiedAt.conveys (hconfig : config.validate = .ok ())
    (h : ProxiedAt io config trace closed) (side : Side) :
    Conveys (ClosedEarly closed ∨ side = .client ∧ trace.HalfClosed) (trace.arriving side.peer)
      (proxyLeaving trace closed side) := by
  obtain ⟨hforwards, hprotocol, hcomplete⟩ := h.guarded hconfig
  have hguard := conveys_of_guarded hprotocol hforwards side
  refine ⟨hguard.passed, fun hended hcut => ?_⟩
  rcases hended with hended | hclosed
  · exact hguard.complete hended fun hc => hcut (.inr hc)
  · -- a close that is not early is orderly, and an orderly close is a complete delivery
    obtain ⟨reason, rfl⟩ := Option.ne_none_iff_exists'.mp hclosed
    have horderly : reason = .orderlyShutdown := by
      by_contra hne
      exact hcut (.inl ⟨reason, rfl, hne⟩)
    subst horderly
    obtain ⟨s, rfl, hs⟩ := hcomplete rfl
    refine ⟨(hs.ended side.peer).count_pos, ?_⟩
    show s.trace.sent side = s.trace.received side.peer
    cases side with
    | upstream => exact hs.delivered
    | client => exact hs.answered fun hmem => hcut (.inr ⟨rfl, true, hmem⟩)

end Proxy

/-! ## The server -/

/-- The stream a thread reads. -/
def Calls.arriving (h : Calls) : StreamPoint Byte := ⟨h.received, h.Eof⟩

/-- The stream a thread writes. -/
def Calls.leaving (h : Calls) : StreamPoint Byte := ⟨h.sent, h.ShutDown⟩

/-- A history that a worker of the server has at some moment; a worker that has returned has closed
its socket. -/
def ServedAt (io : BlockingSocket) (config : ServerConfig) (h : Calls) (returned : Bool) : Prop :=
  ∃ budget, h <+: Server.workerCalls io config budget ∧
    (returned = true → h = Server.workerCalls io config budget ∧
      Server.WorkerReturned io config budget)

/-- The stream a worker writes; closing the socket ends it too. -/
def serverLeaving (h : Calls) (returned : Bool) : StreamPoint Byte :=
  ⟨h.sent, h.ShutDown ∨ returned = true⟩

/-- The worker has returned on a request to stop, or after a call that failed. -/
def GaveUp (h : Calls) (returned : Bool) : Prop := returned = true ∧ (h.Stopped ∨ h.Broken)

/-- **An echoing worker conveys what it reads to what it writes**, unless it gives up. -/
lemma ServedAt.conveys {io : BlockingSocket} {config : ServerConfig} {h : Calls} {returned : Bool}
    (hserved : ServedAt io config h returned) (hmode : Server.Echoes config)
    (hchunk : 0 < config.chunkBytes) :
    Conveys (GaveUp h returned) h.arriving (serverLeaving h returned) := by
  obtain ⟨budget, hmoment, hreturned⟩ := hserved
  have hguard := Server.guarded_moment hchunk hmoment
  rw [hmode.discipline] at hguard
  obtain ⟨hbegins, hshut⟩ := Server.echo_of_guarded hguard
  refine ⟨hbegins, ?_⟩
  rintro (hended | hdone) hcut
  · exact hshut hended
  · obtain ⟨rfl, hworker⟩ := hreturned hdone
    have hwhy := hmode.done (Server.done_of_returned hchunk hworker)
    rcases hwhy with hended | hgave
    · exact hshut hended
    · exact absurd ⟨hdone, hgave⟩ hcut

/-! ## The path -/

/-- A moment of a run of the three programs, between the stream a client writes and the one it
reads: the history of a connection of the proxy, the history of a worker of the server, and the four
streams that join them.  That a socket answers with an end only when its peer has made one is part
of what is assumed of the streams. -/
structure EchoPath (sender receiver : StreamPoint Byte) where
  proxyIo : ℕ → SocketIo
  proxyConfig : ProxyConfig
  accepted : proxyConfig.validate = .ok ()
  trace : Trace
  closed : Option CloseReason
  proxied : ProxiedAt proxyIo proxyConfig trace closed
  serverIo : BlockingSocket
  serverConfig : ServerConfig
  echoes : Server.Echoes serverConfig
  chunk : 0 < serverConfig.chunkBytes
  calls : Calls
  returned : Bool
  served : ServedAt serverIo serverConfig calls returned
  toProxy : Conveys False sender (trace.arriving .client)
  toServer : Conveys False (proxyLeaving trace closed .upstream) calls.arriving
  fromServer : Conveys False (serverLeaving calls returned) (trace.arriving .upstream)
  fromProxy : Conveys False (proxyLeaving trace closed .client) receiver

namespace EchoPath

variable {sender receiver : StreamPoint Byte}

/-- A stage of the path has cut the stream: the proxy closed the connection early or injected the
half-close, or the worker gave up. -/
def Cut (path : EchoPath sender receiver) : Prop :=
  ClosedEarly path.closed ∨ path.trace.HalfClosed ∨ GaveUp path.calls path.returned

/-- **The path conveys what the client writes to what it reads.** -/
lemma conveys (path : EchoPath sender receiver) : Conveys path.Cut sender receiver := by
  have hout := path.proxied.conveys path.accepted .upstream
  have hback := path.proxied.conveys path.accepted .client
  have hserver := path.served.conveys path.echoes path.chunk
  have hforth := (path.toProxy.trans hout).trans path.toServer
  have hwhole := (((hforth.trans hserver).trans path.fromServer).trans hback).trans path.fromProxy
  refine hwhole.mono ?_
  unfold Cut
  rintro (((((((hno | hearly | ⟨hside, -⟩) | hno) | hgave) | hno) | hearly | ⟨-, hhalf⟩)) | hno)
  · exact hno.elim
  · exact .inl hearly
  · cases hside
  · exact hno.elim
  · exact .inr (.inr hgave)
  · exact hno.elim
  · exact .inl hearly
  · exact .inr (.inl hhalf)
  · exact hno.elim

end EchoPath

/-! ## What the client can conclude -/

open Client

/-- **A byte stream through the lab is intact.**  For every configuration and fault plan that the
proxy accepts, every echoing mode of the server, every behaviour of the sockets of both and every
interleaving, at every moment: what comes back to a client is a beginning of what the client has
written; and when the client sees the end of the stream, it has ended its own stream and all of it
has come back, unless the proxy has closed the connection early, the half-close fault was injected,
or the server's worker has given up. -/
theorem echo_path_intact (sender receiver : StreamPoint Byte) (path : EchoPath sender receiver) :
    receiver.passed <+: sender.passed ∧
      (receiver.Ended → ¬ClosedEarly path.closed → ¬path.trace.HalfClosed →
        ¬GaveUp path.calls path.returned → sender.Ended ∧ receiver.passed = sender.passed) := by
  have hconveys := path.conveys
  refine ⟨hconveys.passed, fun hended hearly hhalf hgave => hconveys.complete hended ?_⟩
  rintro (hc | hc | hc)
  · exact hearly hc
  · exact hhalf hc
  · exact hgave hc

/-- **The verdict on a bulk connection through the lab.**  Whatever the two threads of the client
get to see: the bytes received are a beginning of the payload, so that the client never reports more
bytes than it sent; and it reports success, or one of its own calls has failed, or a stage of the
path has cut the stream.  So `payload_mismatch` always means a cut. -/
theorem bulk_verdict_through_proxy (io readerIo : BlockingSocket) (budget : ℕ) (payload : List Byte)
    (result : Result) (hreturned : (bulkOutcome io readerIo budget payload).1 = some result)
    (path : EchoPath (Calls.leaving (bulkOutcome io readerIo budget payload).2)
      (Calls.arriving (readerOutcome readerIo budget payload).2)) :
    Calls.received (readerOutcome readerIo budget payload).2 <+: payload ∧
    result.error ≠ some .receivedMoreBytesThanSent ∧
    (result.success = true ∨ path.Cut ∨ ∃ errno, result.error = some (.socket errno) ∨
      result.error = some (.connect errno) ∨ result.error = some (.send errno) ∨
      result.error = some (.shutdown errno) ∨ result.error = some (.recv errno)) := by
  obtain ⟨hguard, -, -, hverdict⟩ := ((runConnection_meets io budget payload
    (readerOutcome readerIo budget payload).1).run rfl).1 result hreturned
  have hconveys := path.conveys
  have hbegins : Calls.received (readerOutcome readerIo budget payload).2 <+: payload :=
    hconveys.passed.trans (sent_of_guarded hguard).1
  rcases hverdict with ⟨-, -, errno, herror⟩ | ⟨hshut, received, failed, hthread, herror, hsuccess⟩
  · refine ⟨hbegins, ?_, .inr (.inr ⟨errno, ?_⟩)⟩
    · rcases herror with herror | herror | herror | herror <;> simp [herror]
    · rcases herror with herror | herror | herror | herror <;> simp [herror]
  · obtain ⟨hreceived, hwhy⟩ := readerDone_of_returned hthread
    have hreceived' : Calls.received (readerOutcome readerIo budget payload).2 = received :=
      hreceived
    cases failed with
    | none =>
        refine ⟨hbegins, ?_, ?_⟩
        · rw [herror]
          split_ifs <;> simp
        · by_cases hcut : path.Cut
          · exact .inr (.inl hcut)
          · obtain ⟨-, heq⟩ := hconveys.complete hwhy hcut
            have hall : Calls.sent (bulkOutcome io readerIo budget payload).2 = payload :=
              (sent_of_guarded hguard).2 _ hshut
            have hwhole : received = payload := hreceived'.symm.trans (heq.trans hall)
            exact .inl (by simp [hsuccess, hwhole])
    | some error =>
        rcases hwhy.2 with ⟨-, hlong⟩ | ⟨errno, rfl⟩
        · -- more than the payload cannot have come back
          have hshort := hbegins.length_le
          rw [hreceived'] at hshort
          exact absurd hlong (not_lt.mpr hshort)
        · exact ⟨hbegins, by simp [herror], .inr (.inr ⟨errno, by simp [herror]⟩)⟩

/-- **The verdict on requests and responses through the lab.**  Whatever the client gets to see, it
never reports `response_mismatch` or `unexpected_data_after_final_response`; and it reports
`unexpected_eof_mid_response` only when a stage of the path has cut the stream. -/
theorem request_verdict_through_proxy (io : BlockingSocket) (budget : ℕ) (plan : Plan)
    (result : Result) (hreturned : (requestOutcome io budget plan).1 = some result)
    (path : EchoPath (Calls.leaving (requestOutcome io budget plan).2)
      (Calls.arriving (requestOutcome io budget plan).2)) :
    result.error ≠ some .responseMismatch ∧
    result.error ≠ some .unexpectedDataAfterFinalResponse ∧
    (result.error = some .unexpectedEofMidResponse → path.Cut) := by
  obtain ⟨-, hverdict⟩ := ((runRequestResponse_meets io budget plan).run rfl).1 result hreturned
  have hconveys := path.conveys
  have hbegins : Calls.received (requestOutcome io budget plan).2 <+:
      Calls.sent (requestOutcome io budget plan).2 := hconveys.passed
  have hexplains : ∀ error, result.error = some error →
      Explains error (requestOutcome io budget plan).2 := by
    intro error herror
    rw [herror] at hverdict
    exact hverdict.2.1
  refine ⟨fun herror => ?_, fun herror => ?_, fun herror => ?_⟩
  · obtain ⟨hlength, hne⟩ := hexplains _ herror
    exact hne (hbegins.eq_of_length hlength)
  · have hlong : (Calls.sent (requestOutcome io budget plan).2).length <
        (Calls.received (requestOutcome io budget plan).2).length := hexplains _ herror
    exact absurd hbegins.length_le (not_le.mpr hlong)
  · obtain ⟨heof, hopen⟩ := hexplains _ herror
    by_contra hcut
    exact hopen (hconveys.complete heof hcut).1

/-! ## A round trip

A run in which three bytes pass the proxy in each direction, five milliseconds late, and both
streams end.  The client, the proxy and the server agree on it, so there is a path. -/

/-- The configuration of the proxy in the round trip. -/
def roundTripConfig : ProxyConfig :=
  { bufferBytesPerDirection := 1024, lowWaterBytes := 512, highWaterBytes := 1024
    faults := { latency := 5 } }

/-- The run of the proxy. -/
def roundTripRun : Except Fault (Bool × Runtime) :=
  Runtime.runTo (fun _ => .script fun _ => [1, 2, 3]) roundTripConfig
    [.batch [.ready { token := 1, accepts := [.accepted (.opened false 10)] }] 11 true]
    [.ready { token := 4, events := { epollin := true, epollrdhup := true }, now := 12 },
      .ready { token := 5, events := { epollin := true, epollrdhup := true }, now := 13 },
      .ready { token := 3, now := 6000000 }]

/-- The history of its only connection, which it closes. -/
@[irreducible] def roundTripTrace : Trace :=
  match roundTripRun with
  | .ok (_, p) => p.closed.flatMap fun entry => entry.session.trace
  | .error _ => []

lemma roundTrip_proxied : ProxiedAt (fun _ => .script fun _ => [1, 2, 3]) roundTripConfig
    roundTripTrace (some .orderlyShutdown) := by
  have hclosed : returns roundTripRun (fun state =>
      state.2.closed.map ClosedConnection.reason = [.orderlyShutdown]) = true := by
    decide +kernel
  unfold roundTripTrace
  rcases hrun : roundTripRun with error | ⟨stopping, p⟩
  · rw [hrun] at hclosed
    cases hclosed
  · rw [hrun] at hclosed
    obtain ⟨entry, hentry, hreason⟩ :=
      List.map_eq_singleton_iff.mp (by simpa [returns] using hclosed)
    exact ⟨_, _, stopping, p, hrun, p, .inl rfl, entry, by simp [hentry], hreason,
      by simp [hentry]⟩

/-- The path of the round trip. -/
def roundTrip : EchoPath
    (Calls.leaving (bulkOutcome (.script [] 0) (.script [1, 2, 3] 0) 4 [1, 2, 3]).2)
    (Calls.arriving (readerOutcome (.script [1, 2, 3] 0) 4 [1, 2, 3]).2) where
  proxyIo := fun _ => .script fun _ => [1, 2, 3]
  proxyConfig := roundTripConfig
  accepted := by decide +kernel
  trace := roundTripTrace
  closed := some .orderlyShutdown
  proxied := roundTrip_proxied
  serverIo := .script [1, 2, 3] 100
  serverConfig := { chunkBytes := 4 }
  echoes := by decide
  chunk := by decide
  calls := Server.workerCalls (.script [1, 2, 3] 100) { chunkBytes := 4 } 9
  returned := true
  served := ⟨9, List.prefix_refl _, fun _ => ⟨rfl, by unfold Server.WorkerReturned; decide +kernel⟩⟩
  toProxy := .of_eq (by decide +kernel) (by show Calls.ShutDown _; decide +kernel)
  toServer := .of_eq (by decide +kernel) (.inr (by simp))
  fromServer := .of_eq (by decide +kernel) (.inr rfl)
  fromProxy := .of_eq (by decide +kernel) (.inr (by simp))

/-- Nothing cuts the stream of the round trip, so the client has got back what it sent. -/
theorem echo_path_intact_round_trip :
    Calls.ShutDown (bulkOutcome (.script [] 0) (.script [1, 2, 3] 0) 4 [1, 2, 3]).2 ∧
      Calls.received (readerOutcome (.script [1, 2, 3] 0) 4 [1, 2, 3]).2 =
        Calls.sent (bulkOutcome (.script [] 0) (.script [1, 2, 3] 0) 4 [1, 2, 3]).2 := by
  have hended : (Calls.arriving (readerOutcome (.script [1, 2, 3] 0) 4 [1, 2, 3]).2).Ended := by
    show Calls.Eof _
    decide +kernel
  have horderly : ¬ClosedEarly roundTrip.closed := by
    rintro ⟨reason, hreason, hne⟩
    exact hne (Option.some.inj hreason).symm
  have hwhole : ¬roundTrip.trace.HalfClosed := by
    have hnone : ∀ ok : Bool, .shutdownWrite .client .injected ok ∉ roundTripTrace := by
      decide +kernel
    exact fun hhalf => hhalf.elim hnone
  have hserved : ¬GaveUp roundTrip.calls roundTrip.returned := by
    unfold GaveUp
    decide +kernel
  obtain ⟨-, hcomplete⟩ := echo_path_intact _ _ roundTrip
  exact hcomplete hended horderly hwhole hserved

/-! ## A shutdown between two requests

One byte passes the lab and comes back; then the proxy is shut down. -/

/-- The configuration of the proxy that is shut down. -/
def shutDownConfig : ProxyConfig :=
  { bufferBytesPerDirection := 1024, lowWaterBytes := 512, highWaterBytes := 1024 }

/-- The run of the proxy up to the shutdown. -/
def shutDownRun : Except Fault (Bool × Runtime) :=
  Runtime.runTo (fun _ => .script fun _ => [167]) shutDownConfig
    [.batch [.ready { token := 1, accepts := [.accepted (.opened false 10)] }] 11 true]
    [.ready { token := 4, events := { epollin := true }, now := 12 },
      .ready { token := 5, events := { epollin := true }, now := 13 }]

/-- The history of its only connection, which the shutdown closes. -/
@[irreducible] def shutDownTrace : Trace :=
  match shutDownRun with
  | .ok (_, p) => (p.shutDown 14).closed.flatMap fun entry => entry.session.trace
  | .error _ => []

lemma shutDown_proxied : ProxiedAt (fun _ => .script fun _ => [167]) shutDownConfig shutDownTrace
    (some .proxyShutdown) := by
  have hclosed : returns shutDownRun (fun state =>
      (state.2.shutDown 14).closed.map ClosedConnection.reason = [.proxyShutdown]) = true := by
    decide +kernel
  unfold shutDownTrace
  rcases hrun : shutDownRun with error | ⟨stopping, p⟩
  · rw [hrun] at hclosed
    cases hclosed
  · rw [hrun] at hclosed
    obtain ⟨entry, hentry, hreason⟩ :=
      List.map_eq_singleton_iff.mp (by simpa [returns] using hclosed)
    exact ⟨_, _, stopping, p, hrun, p.shutDown 14, .inr ⟨14, rfl⟩, entry, by simp [hentry], hreason,
      by simp [hentry]⟩

lemma received_shutDownTrace : shutDownTrace.received .client = [167] := by decide +kernel

lemma sent_shutDownTrace : shutDownTrace.sent .client = [167] := by decide +kernel

/-- A client that has sent more than that byte, and got it back before the shutdown. -/
def shutDownPath (sender : StreamPoint Byte) (h : Calls) (hsent : [167] <+: sender.passed)
    (hreceived : h.received = [167]) : EchoPath sender h.arriving where
  proxyIo := fun _ => .script fun _ => [167]
  proxyConfig := shutDownConfig
  accepted := by decide +kernel
  trace := shutDownTrace
  closed := some .proxyShutdown
  proxied := shutDown_proxied
  serverIo := .script [167] 100
  serverConfig := { chunkBytes := 4 }
  echoes := by decide
  chunk := by decide
  calls := (Server.workerCalls (.script [167] 100) { chunkBytes := 4 } 9).take 4
  returned := false
  served := ⟨9, List.take_prefix _ _, by simp⟩
  toProxy := .of_open (by rw [Trace.arriving_passed, received_shutDownTrace]; exact hsent)
    (by unfold Trace.arriving; decide +kernel)
  toServer := .of_open (by decide +kernel) (by show ¬Calls.Eof _; decide +kernel)
  fromServer := .of_open (by decide +kernel) (by unfold Trace.arriving; decide +kernel)
  fromProxy := .of_eq (hreceived.trans sent_shutDownTrace.symm) (.inr (by simp))

/-- Two bytes are sent and the first comes back: the mismatch means that the path was cut. -/
theorem bulk_verdict_through_proxy_shut_down :
    (bulkOutcome (.script [] 0) (.script [167] 0) 4 [167, 5]).1 =
        some { error := some .payloadMismatch, bytes := 2 } ∧
      (shutDownPath (Calls.leaving (bulkOutcome (.script [] 0) (.script [167] 0) 4 [167, 5]).2)
        (readerOutcome (.script [167] 0) 4 [167, 5]).2 (by decide +kernel)
        (by decide +kernel)).Cut := by
  have hreturned : (bulkOutcome (.script [] 0) (.script [167] 0) 4 [167, 5]).1 =
      some { error := some .payloadMismatch, bytes := 2 } := by decide +kernel
  obtain ⟨-, -, hwhy⟩ := bulk_verdict_through_proxy (.script [] 0) (.script [167] 0) 4 [167, 5] _
    hreturned (shutDownPath _ _ (by decide +kernel) (by decide +kernel))
  refine ⟨hreturned, ?_⟩
  rcases hwhy with hsuccess | hcut | ⟨errno, herror⟩
  · cases hsuccess
  · exact hcut
  · simp at herror

/-- Two requests of one byte: the first is answered, the second is cut off. -/
theorem request_verdict_through_proxy_shut_down :
    (requestOutcome (.script [167] 0) 9 ⟨2, 0, 1, 7⟩).1 =
        some { error := some .unexpectedEofMidResponse, latencySamplesUs := [0] } ∧
      Calls.received (requestOutcome (.script [167] 0) 9 ⟨2, 0, 1, 7⟩).2 = [167] ∧
      (shutDownPath (Calls.leaving (requestOutcome (.script [167] 0) 9 ⟨2, 0, 1, 7⟩).2)
        (requestOutcome (.script [167] 0) 9 ⟨2, 0, 1, 7⟩).2 (by decide +kernel)
        (by decide +kernel)).Cut := by
  have hreturned : (requestOutcome (.script [167] 0) 9 ⟨2, 0, 1, 7⟩).1 =
      some { error := some .unexpectedEofMidResponse, latencySamplesUs := [0] } := by
    decide +kernel
  obtain ⟨-, -, hcut⟩ := request_verdict_through_proxy (.script [167] 0) 9 ⟨2, 0, 1, 7⟩ _
    hreturned (shutDownPath _ _ (by decide +kernel) (by decide +kernel))
  exact ⟨hreturned, by decide +kernel, hcut rfl⟩

end NetFault
