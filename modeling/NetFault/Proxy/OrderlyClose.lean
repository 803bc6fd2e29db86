import NetFault.Proxy.Runs
import NetFault.Relay.Draining

/-!
# An orderly close is a complete delivery

`fully_drained` counts a direction as done when its queue is empty or its destination is shut
down.  For the bytes of the client the second case adds nothing, since the upstream socket is shut
down only when they are all delivered; for the bytes of upstream it adds the injected half-close
and nothing else.  The shutdowns themselves have been attempted by then: `propagate_half_closes`
runs right before the test, in every pump.
-/

namespace NetFault

open TraceEvent

/-- What is known of the history of a connection that was closed in order. -/
structure Session.Complete (s : Session) : Prop where
  ended : ∀ side, s.trace.EndMet side
  delivered : s.trace.sent .upstream = s.trace.received .client
  forwarded : ∃ (past : Trace) (cause : ShutdownCause) (ok : Bool) (future : Trace),
    s.trace = past ++ .shutdownWrite .upstream cause ok :: future ∧
      past.sent .upstream = s.trace.received .client
  returned : ∃ cause ok, .shutdownWrite .client cause ok ∈ s.trace
  answered : .shutdownWrite .client .injected true ∉ s.trace →
    s.trace.sent .client = s.trace.received .upstream

section Complete

variable {io : SocketIo} {now : ℤ} {s s' : Session} {config : ProxyConfig}

/-- Nothing is received from a side whose stream has ended. -/
lemma Session.Lifecycle.received_of_ended (h : s.Lifecycle) {past future : Trace} {side : Side}
    (htrace : s.trace = past ++ future) (hended : past.count (isEof side) = 1) :
    s.trace.received side = past.received side := by
  have hnone : future.received side = [] := by
    refine List.flatMap_eq_nil_iff.mpr fun e he => ?_
    obtain ⟨before, after, rfl⟩ := List.append_of_mem he
    have hallowed := h.protocol (past ++ before) e after (by rw [htrace, List.append_assoc])
    rcases e with ⟨source, span, hint, result, now⟩ | _ | _ | _ | _ | _
    case receive =>
      by_cases hside : source = side
      · subst hside
        have hzero := hallowed.2
        rw [Trace.count_append] at hzero
        omega
      · rcases result with _ | _ | _ | _ <;> simp [Trace.receivedIn, hside]
    all_goals rfl
  rw [htrace, Trace.received_append, hnone, List.append_nil]

lemma forwardHalfClose_trace (io : SocketIo) (s : Session) (destination : Side) :
    ∃ ok future, (s.forwardHalfClose io destination).trace =
      s.trace ++ .shutdownWrite destination .propagated ok :: future := by
  rcases hok : io.shutdownWrite s.trace destination with _ | _
  · rw [Session.forwardHalfClose_of_failed hok]
    exact ⟨false, [], rfl⟩
  · rw [Session.forwardHalfClose_of_ok hok]
    exact ⟨true, _, rfl⟩

/-- A shutdown reopens nothing. -/
lemma writeOpen_of_forwardHalfClose {destination side : Side}
    (h : (s.forwardHalfClose io destination).relay.writeOpen side = true) :
    s.relay.writeOpen side = true := by
  simp only [Session.forwardHalfClose] at h
  split_ifs at h
  · simp only [Session.notify, Session.record, Relay.closeWrite, Function.update_apply] at h
    split_ifs at h
    exact h
  · exact h

/-- A shutdown that is open to the end and may be made has been attempted. -/
lemma forwardable_of_drained {m : Session} (hdrained : s'.relay.fullyDrained = true)
    (hdir : s'.relay.directionFrom = m.relay.directionFrom)
    (hread : ∀ source, m.relay.readOpen source = s'.relay.readOpen source)
    (hconn : m.relay.upstreamConnecting = false) {side : Side}
    (hopen' : s'.relay.writeOpen side = true) (hopen : m.relay.writeOpen side = true) :
    m.Forwardable side := by
  obtain ⟨hended, hdone⟩ := Relay.fullyDrained_iff.mp hdrained side.peer
  refine ⟨(hread _).trans hended, ?_, hopen, fun _ => hconn⟩
  rw [← hdir]
  refine hdone.resolve_right fun hclosed => ?_
  rw [Side.peer_peer, hopen'] at hclosed
  cases hclosed

/-- **What `propagate_half_closes` has attempted** when it leaves a drained relay: every shutdown
that has not succeeded. -/
lemma propagateHalfCloses_attempts
    (hdrained : (s.propagateHalfCloses io).relay.fullyDrained = true)
    (hconn : s.relay.upstreamConnecting = false) {side : Side}
    (hopen : (s.propagateHalfCloses io).relay.writeOpen side = true) :
    ∃ ok, .shutdownWrite side .propagated ok ∈ (s.propagateHalfCloses io).trace := by
  obtain ⟨mid, hfirst, hsecond⟩ := propagateHalfCloses_cases io s
  -- nothing but the write sides and the history is touched on the way
  have hmid : mid.relay.directionFrom = s.relay.directionFrom ∧
      (∀ source, s.KeepsRead source mid) ∧
      (mid.relay.writeOpen side = true → s.relay.writeOpen side = true) := by
    rcases hfirst with ⟨-, rfl⟩ | ⟨-, rfl⟩
    · exact ⟨by simp, forwardHalfClose_keepsRead .upstream, writeOpen_of_forwardHalfClose⟩
    · exact ⟨rfl, fun _ => ⟨rfl, rfl⟩, id⟩
  obtain ⟨last, hlast⟩ : ∃ last, last = s.propagateHalfCloses io := ⟨_, rfl⟩
  rw [← hlast] at hdrained hopen hsecond ⊢
  have hend : last.relay.directionFrom = mid.relay.directionFrom ∧
      (∀ source, mid.KeepsRead source last) ∧
      (last.relay.writeOpen side = true → mid.relay.writeOpen side = true) ∧
      ∀ e ∈ mid.trace, e ∈ last.trace := by
    rcases hsecond with ⟨-, rfl⟩ | ⟨-, rfl⟩
    · obtain ⟨ok, future, htrace⟩ := forwardHalfClose_trace io mid .client
      exact ⟨by simp, forwardHalfClose_keepsRead .client, writeOpen_of_forwardHalfClose,
        fun e he => by rw [htrace]; exact List.mem_append_left _ he⟩
    · exact ⟨rfl, fun _ => ⟨rfl, rfl⟩, id, fun _ he => he⟩
  obtain ⟨hdir, hkeeps, hreopen⟩ := hmid
  obtain ⟨hdir', hkeeps', hreopen', hsub⟩ := hend
  rcases side with _ | _
  · have hforward : mid.Forwardable .client := forwardable_of_drained hdrained hdir'
      (fun source => (hkeeps' source).2.symm) ((hkeeps .client).1.trans hconn) hopen
      (hreopen' hopen)
    rcases hsecond with ⟨-, rfl⟩ | ⟨hnot, -⟩
    · obtain ⟨ok, future, htrace⟩ := forwardHalfClose_trace io mid .client
      exact ⟨ok, by rw [htrace]; simp⟩
    · exact absurd hforward hnot
  · have hforward : s.Forwardable .upstream := forwardable_of_drained hdrained (hdir'.trans hdir)
      (fun source => ((hkeeps' source).2.trans (hkeeps source).2).symm) hconn hopen
      (hreopen (hreopen' hopen))
    rcases hfirst with ⟨-, rfl⟩ | ⟨hnot, -⟩
    · obtain ⟨ok, future, htrace⟩ := forwardHalfClose_trace io s .upstream
      exact ⟨ok, hsub _ (by rw [htrace]; simp)⟩
    · exact absurd hforward hnot

/-- A closed write side was shut down. -/
lemma Session.Lifecycle.exists_shutdown (h : s.Lifecycle) {side : Side}
    (hclosed : s.relay.writeOpen side = false) :
    ∃ cause, .shutdownWrite side cause true ∈ s.trace := by
  have hpos : 0 < s.trace.count (isShutdown side) := by
    rw [h.shutdowns, hclosed]
    exact Nat.one_pos
  obtain ⟨e, he, hshut⟩ := List.countP_pos_iff.mp hpos
  rcases e with _ | _ | ⟨destination, cause, ok⟩ | _ | _ | _ <;> simp [isShutdown] at hshut
  obtain ⟨rfl, rfl⟩ := hshut
  exact ⟨cause, he⟩

/-- Each shutdown of a drained relay has been attempted, successfully or not. -/
lemma Session.Lifecycle.attempted (h : (s.propagateHalfCloses io).Lifecycle)
    (hdrained : (s.propagateHalfCloses io).relay.fullyDrained = true)
    (hconn : s.relay.upstreamConnecting = false) (side : Side) :
    ∃ cause ok, .shutdownWrite side cause ok ∈ (s.propagateHalfCloses io).trace := by
  rcases hopen : (s.propagateHalfCloses io).relay.writeOpen side with _ | _
  · obtain ⟨cause, he⟩ := h.exists_shutdown hopen
    exact ⟨cause, true, he⟩
  · obtain ⟨ok, he⟩ := propagateHalfCloses_attempts hdrained hconn hopen
    exact ⟨.propagated, ok, he⟩

/-- **A shutdown comes after the last byte**, unless it was injected. -/
lemma Session.Lifecycle.delivered_before (h : s.Lifecycle) {side : Side} {cause : ShutdownCause}
    {ok : Bool} (he : .shutdownWrite side cause ok ∈ s.trace)
    (hcause : ¬(side = .client ∧ cause = .injected)) :
    ∃ (past : Trace) (future : Trace),
      s.trace = past ++ .shutdownWrite side cause ok :: future ∧
        past.count (isEof side.peer) = 1 ∧ past.sent side = s.trace.received side.peer := by
  obtain ⟨past, future, htrace⟩ := List.append_of_mem he
  obtain ⟨-, ⟨hending, hsent⟩ | ⟨hside, hinjected, -⟩⟩ := h.protocol past _ future htrace
  · exact ⟨past, future, htrace, hending,
      hsent.trans (h.received_of_ended htrace hending).symm⟩
  · exact absurd ⟨hside, hinjected⟩ hcause

/-- What was delivered before some event was delivered. -/
lemma Session.Intact.sent_eq {side : Side} (h : s.Intact side.peer) {past future : Trace}
    (htrace : s.trace = past ++ future) (hsent : past.sent side = s.trace.received side.peer) :
    s.trace.sent side = s.trace.received side.peer := by
  have hstream := h.stream
  rw [Side.peer_peer] at hstream
  refine List.IsPrefix.eq_of_length_le ⟨_, hstream.symm⟩ ?_
  rw [← hsent, htrace, Trace.sent_append]
  simp

/-- **A drained relay has delivered.** -/
lemma Session.Sound.complete (hs : s.Sound config)
    (hdrained : (s.propagateHalfCloses io).relay.fullyDrained = true) :
    (s.propagateHalfCloses io).Complete := by
  have hs' : (s.propagateHalfCloses io).Sound config :=
    hs.advances (propagateHalfCloses_advances : s.Advances io 0 _)
  have hkeeps : s.KeepsRead .upstream (s.propagateHalfCloses io) :=
    propagateHalfCloses_keepsRead .upstream
  have hconn : s.relay.upstreamConnecting = false := by
    by_contra hc
    have hopen := hs'.unread (hkeeps.1.trans (by simpa using hc))
    rw [(Relay.fullyDrained_iff.mp hdrained .upstream).1] at hopen
    cases hopen
  obtain ⟨last, hlast⟩ : ∃ last, last = s.propagateHalfCloses io := ⟨_, rfl⟩
  have hattempted := hs'.lifecycle.attempted hdrained hconn
  rw [← hlast] at hdrained hs' hattempted ⊢
  have hlife := hs'.lifecycle
  have hended := fun side => (Relay.fullyDrained_iff.mp hdrained side).1
  obtain ⟨cause, ok, he⟩ := hattempted .upstream
  obtain ⟨past, future, htrace, -, hsent⟩ := hlife.delivered_before he (by simp)
  refine ⟨fun side => hlife.endMet (hended side),
    (hs'.intact (Side.peer .upstream)).sent_eq htrace hsent,
    ⟨past, cause, ok, future, htrace, hsent⟩, hattempted .client, fun hnone => ?_⟩
  · rcases (Relay.fullyDrained_iff.mp hdrained .upstream).2 with hempty | hclosed
    · exact (hlife.delivered (hs'.intact (Side.peer .client)) (hended _) hempty).2
    · -- the shutdown that closed the client socket was not the injected one
      obtain ⟨cause, he⟩ := hlife.exists_shutdown hclosed
      obtain ⟨past, future, htrace, -, hsent⟩ := hlife.delivered_before he (by
        rintro ⟨-, rfl⟩
        exact hnone he)
      exact (hs'.intact (Side.peer .client)).sent_eq htrace hsent

end Complete

/-! ## The loop -/

/-- Every connection that was closed in order was complete. -/
def Runtime.ClosesComplete (p : Runtime) : Prop :=
  ∀ entry ∈ p.closed, entry.reason = .orderlyShutdown → entry.session.Complete

section Loop

variable {io : ℕ → SocketIo} {now : ℤ} {p p' mid : Runtime}

lemma Runtime.ClosesComplete.snoc (h : p.ClosesComplete) {entry : ClosedConnection}
    (hclosed : p'.closed = p.closed ++ [entry])
    (hentry : entry.reason = .orderlyShutdown → entry.session.Complete) : p'.ClosesComplete := by
  intro e he
  rw [hclosed] at he
  rcases List.mem_append.mp he with he | he
  · exact h e he
  · obtain rfl := List.mem_singleton.mp he
    exact hentry

lemma Work.closesComplete {io : SocketIo} {id : ℕ} {c : Connection} {config : ProxyConfig}
    (h : Work io now id c p p') (hs : c.session.Sound config) (hp : p.ClosesComplete) :
    p'.ClosesComplete := by
  rcases h.closed_eq with heq | ⟨entry, heq, hentry⟩
  · intro e he
    rw [heq] at he
    exact hp e he
  · refine hp.snoc heq fun hreason => ?_
    rcases hentry with habrupt | ⟨-, session, hadvances, hdrained, hsession⟩
    · rw [hreason] at habrupt
      cases habrupt
    · rw [hsession]
      exact (hs.advances hadvances).complete hdrained

lemma Popped.closesComplete {event : TimerEvent} (h : Popped now event p mid)
    (hp : p.ClosesComplete) : mid.ClosesComplete := by
  rw [h.rest]
  exact hp

lemma Act.closesComplete (h : Act io now p p') (hs : p.Sound) (hp : p.ClosesComplete) :
    p'.ClosesComplete := by
  cases h with
  | accept connecting c newborn token room => exact hp
  | serve id c _ live work => exact work.closesComplete (hs.session id c live) hp
  | fire => exact hp
  | skip event _ popped idle => exact popped.closesComplete hp
  | wake event c mid _ popped live kind work =>
      exact work.closesComplete (hs.resetDueWake live) (popped.closesComplete hp)
  | timeOut event c mid reason popped live due =>
      refine (popped.closesComplete hp).snoc Runtime.remove_closed fun hreason => ?_
      rcases due with ⟨-, rfl, -⟩ | ⟨-, rfl, -⟩ <;> cases hreason
  | postpone event c mid popped live kind active => exact popped.closesComplete hp

lemma Runtime.ClosesComplete.invariant (io : ℕ → SocketIo) :
    LoopInvariant io (fun _ => True) Runtime.ClosesComplete where
  act _ _ _ _ hs hp hact := hact.closesComplete hs hp
  tick _ _ hp := hp
  arm clock ok p hp := by
    intro entry hentry
    exact hp entry (by simpa using hentry)

/-- The shutdown closes nothing in order. -/
lemma Runtime.ClosesComplete.shutDown (hp : p.ClosesComplete) (now : ℤ) :
    (p.shutDown now).ClosesComplete := by
  intro entry hentry hreason
  have hall : entry ∈ (p.closeAll p.connections.keys now).closed := hentry
  rcases Runtime.of_mem_closed_closeAll hall with hold | hshut
  · exact hp entry hold hreason
  · cases hreason.symm.trans hshut

end Loop

/-- **An orderly close is a complete delivery.**  In every run, for every connection that is closed
with the reason `orderly_shutdown`, at any moment of the loop and after a shutdown from there:
* the last receive on each side met the end of its stream;
* every byte received from the client was accepted by the upstream socket;
* a shutdown of the upstream socket was attempted after the last of them;
* a shutdown of the client socket was attempted;
* every byte received from upstream was accepted by the client socket, unless the half-close was
  injected, with success. -/
theorem orderly_close_complete (io : ℕ → SocketIo) (config : ProxyConfig)
    (hconfig : config.validate = .ok ()) (iterations : List Iteration) (steps : List LoopStep) :
    ∃ stopping p, Runtime.runTo io config iterations steps = .ok (stopping, p) ∧
      ∀ final : Runtime, final = p ∨ (∃ now, final = p.shutDown now) →
      ∀ entry ∈ final.closed, entry.reason = .orderlyShutdown →
        (∀ side, entry.session.trace.EndMet side) ∧
        entry.session.trace.sent .upstream = entry.session.trace.received .client ∧
        (∃ (past : Trace) (cause : ShutdownCause) (ok : Bool) (future : Trace),
          entry.session.trace = past ++ .shutdownWrite .upstream cause ok :: future ∧
            past.sent .upstream = entry.session.trace.received .client) ∧
        (∃ cause ok, .shutdownWrite .client cause ok ∈ entry.session.trace) ∧
        (.shutdownWrite .client .injected true ∉ entry.session.trace →
          entry.session.trace.sent .client = entry.session.trace.received .upstream) := by
  obtain ⟨stopping, p, hrun, -, hp⟩ := (Runtime.ClosesComplete.invariant io).runTo hconfig
    (fun entry hentry => by cases hentry) iterations steps (by simp) (by simp)
  refine ⟨stopping, p, hrun, fun final hfinal entry hentry hreason => ?_⟩
  have hcomplete : entry.session.Complete := by
    rcases hfinal with rfl | ⟨now, rfl⟩
    · exact hp entry hentry hreason
    · exact hp.shutDown now entry hentry hreason
  exact ⟨hcomplete.ended, hcomplete.delivered, hcomplete.forwarded, hcomplete.returned,
    hcomplete.answered⟩

/-- Both peers send three bytes and hang up, with a delay of five milliseconds on the bytes; the
connection is closed at the wake of the delayed bytes. -/
theorem orderly_close_complete_delayed :
    ∃ stopping p entry, Runtime.runTo (fun _ => .script fun _ => [1, 2, 3])
        { bufferBytesPerDirection := 1024, lowWaterBytes := 512, highWaterBytes := 1024
          faults := { latency := 5 } }
        [.batch [.ready { token := 1, accepts := [.accepted (.opened false 10)] }] 11 true]
        [.ready { token := 4, events := { epollin := true, epollrdhup := true }, now := 12 },
          .ready { token := 5, events := { epollin := true, epollrdhup := true }, now := 13 },
          .ready { token := 3, now := 6000000 }] = .ok (stopping, p) ∧
      entry ∈ p.closed ∧ entry.reason = .orderlyShutdown ∧
      (∀ side, entry.session.trace.EndMet side) ∧
      entry.session.trace.sent .upstream = entry.session.trace.received .client := by
  have hcheck : returns (Runtime.runTo (fun _ => .script fun _ => [1, 2, 3])
      { bufferBytesPerDirection := 1024, lowWaterBytes := 512, highWaterBytes := 1024
        faults := { latency := 5 } }
      [.batch [.ready { token := 1, accepts := [.accepted (.opened false 10)] }] 11 true]
      [.ready { token := 4, events := { epollin := true, epollrdhup := true }, now := 12 },
        .ready { token := 5, events := { epollin := true, epollrdhup := true }, now := 13 },
        .ready { token := 3, now := 6000000 }])
      (fun state => state.2.closed.map ClosedConnection.reason = [.orderlyShutdown]) = true := by
    decide +kernel
  obtain ⟨stopping, p, hrun, hclosed⟩ := orderly_close_complete
    (fun _ => .script fun _ => [1, 2, 3])
    { bufferBytesPerDirection := 1024, lowWaterBytes := 512, highWaterBytes := 1024
      faults := { latency := 5 } } (by decide +kernel)
    [.batch [.ready { token := 1, accepts := [.accepted (.opened false 10)] }] 11 true]
    [.ready { token := 4, events := { epollin := true, epollrdhup := true }, now := 12 },
      .ready { token := 5, events := { epollin := true, epollrdhup := true }, now := 13 },
      .ready { token := 3, now := 6000000 }]
  have hreasons := of_returns hcheck hrun
  simp only [decide_eq_true_eq, List.map_eq_singleton_iff] at hreasons
  obtain ⟨entry, hentries, hreason⟩ := hreasons
  have hmem : entry ∈ p.closed := by simp [hentries]
  obtain ⟨hended, hsent, -⟩ := hclosed p (.inl rfl) entry hmem hreason
  exact ⟨stopping, p, entry, hrun, hmem, hreason, hended, hsent⟩

end NetFault
