import NetFault.Proxy.OrderlyClose

/-!
# Sockets that hang up for good

`EPOLLHUP` cannot be masked.  Level-triggered epoll reports it at every wait for a socket on which
the end of the stream was received and which the proxy has shut down, for as long as the socket is
registered, and both sockets of a connection stay registered until the connection is closed.  So
the loop spins while a live connection has such a socket.

When that happens is a matter of the traffic alone.  A write side is shut down as soon as the other
stream has ended and was delivered, so a socket hangs up when both streams have ended and one of
them, not both, has been delivered; or when the client's has ended and the injected half-close has
shut the client socket down.
-/

namespace NetFault

open TraceEvent

/-- The socket of `side` was read to its end and shut down for writing: from now on epoll reports a
hangup of it at every wait. -/
def Connection.HangsUp (side : Side) (c : Connection) : Prop :=
  c.session.relay.readOpen side = false ∧ c.session.relay.writeOpen side = false

/-- The traffic that leaves a socket without anything to do: both streams have ended and one was
delivered, or the client's has ended and the half-close was injected. -/
def Trace.Lopsided (trace : Trace) : Prop :=
  (∀ side, trace.count (isEof side) = 1) ∧ (∃ side, trace.sent side = trace.received side.peer) ∨
    trace.count (isEof .client) = 1 ∧ .shutdownWrite .client .injected true ∈ trace

section Sessions

variable {io : SocketIo} {now : ℤ} {s s' : Session} {c c' : Connection} {config : ProxyConfig}
  {side : Side}

lemma Session.Lifecycle.ended_iff (h : s.Lifecycle) :
    s.trace.count (isEof side) = 1 ↔ s.relay.readOpen side = false := by
  rw [h.eofs]
  cases s.relay.readOpen side <;> simp

/-- The stream whose end allowed a shutdown stays ended. -/
lemma Session.Lifecycle.ended_of_past (h : s.Lifecycle) {past future : Trace}
    (htrace : s.trace = past ++ future) (hended : past.count (isEof side) = 1) :
    s.trace.count (isEof side) = 1 := by
  have hle : s.trace.count (isEof side) ≤ 1 := by
    rw [h.eofs]
    split_ifs <;> omega
  have hsum : s.trace.count (isEof side) =
      past.count (isEof side) + future.count (isEof side) := by
    rw [htrace, Trace.count_append]
  omega

/-- **A socket that hangs up has the traffic for it.** -/
lemma Connection.HangsUp.lopsided (h : c.HangsUp side) (hs : c.session.Sound config) :
    c.session.trace.Lopsided := by
  obtain ⟨hread, hwrite⟩ := h
  have hlife := hs.lifecycle
  obtain ⟨cause, he⟩ := hlife.exists_shutdown hwrite
  by_cases hcause : side = .client ∧ cause = .injected
  · obtain ⟨rfl, rfl⟩ := hcause
    exact .inr ⟨hlife.ended_iff.mpr hread, he⟩
  · obtain ⟨past, future, htrace, hending, hsent⟩ := hlife.delivered_before he hcause
    refine .inl ⟨fun side' => ?_, side, (hs.intact side.peer).sent_eq htrace hsent⟩
    by_cases heq : side' = side
    · subst heq
      exact hlife.ended_iff.mpr hread
    · rw [Side.eq_peer_of_ne heq]
      exact hlife.ended_of_past htrace hending

/-- What was delivered has left the queue. -/
lemma Session.Intact.drained (h : s.Intact side.peer)
    (hsent : s.trace.sent side = s.trace.received side.peer) :
    (s.relay.directionFrom side.peer).queue.size = 0 := by
  have hstream := h.stream
  rw [Side.peer_peer, ← hsent] at hstream
  exact (ByteQueue.content_eq_nil_iff _).mp (List.self_eq_append_right.mp hstream)

/-- **The traffic for it makes a socket hang up**, if nothing that may be shut down is open. -/
lemma Trace.Lopsided.hangsUp (h : c.session.trace.Lopsided) (hs : c.session.Sound config)
    (hforward : ∀ side, ¬c.session.Forwardable side) : ∃ side, c.HangsUp side := by
  have hlife := hs.lifecycle
  rcases h with ⟨hended, side, hsent⟩ | ⟨hended, he⟩
  · have hread : ∀ side, c.session.relay.readOpen side = false := fun side =>
      hlife.ended_iff.mp (hended side)
    refine ⟨side, hread side, ?_⟩
    by_contra hopen
    refine hforward side ⟨hread _, (hs.intact side.peer).drained hsent, by simpa using hopen, ?_⟩
    -- nothing is read from upstream while it connects
    intro _
    by_contra hconn
    have hunread := hs.unread (by simpa using hconn)
    rw [hread] at hunread
    cases hunread
  · refine ⟨.client, hlife.ended_iff.mp hended, ?_⟩
    have hpos : 0 < c.session.trace.count (isShutdown .client) :=
      List.countP_pos_iff.mpr ⟨_, he, rfl⟩
    rw [hlife.shutdowns] at hpos
    by_contra hopen
    rw [Bool.not_eq_false] at hopen
    rw [hopen] at hpos
    cases hpos

/-! ## After a pump nothing may be shut down -/

/-- A shutdown that succeeds cannot be made again, and opens the way for no other. -/
lemma not_forwardable_of_forward (hok : ∀ history side, io.shutdownWrite history side = true)
    {destination : Side} (hside : side = destination ∨ ¬s.Forwardable side) :
    ¬(s.forwardHalfClose io destination).Forwardable side := by
  intro h
  have hopen := h.writeOpen
  rw [Session.forwardHalfClose_of_ok (hok _ _)] at h hopen
  rcases hside with rfl | hnot
  · simp [Relay.closeWrite] at hopen
  · refine hnot ⟨h.ended, h.drained, ?_, h.connected⟩
    rw [← Session.forwardHalfClose_of_ok (hok _ _)] at hopen
    exact writeOpen_of_forwardHalfClose hopen

/-- **`propagate_half_closes` leaves nothing to propagate** when its shutdowns succeed. -/
lemma propagateHalfCloses_not_forwardable
    (hok : ∀ history side, io.shutdownWrite history side = true) (side : Side) :
    ¬(s.propagateHalfCloses io).Forwardable side := by
  obtain ⟨mid, hfirst, hsecond⟩ := propagateHalfCloses_cases io s
  have hmid : ¬mid.Forwardable .upstream := by
    rcases hfirst with ⟨-, rfl⟩ | ⟨hnot, rfl⟩
    · exact not_forwardable_of_forward hok (.inl rfl)
    · exact hnot
  rcases hsecond with ⟨-, heq⟩ | ⟨hnot, heq⟩
  · rw [heq]
    cases side with
    | client => exact not_forwardable_of_forward hok (.inl rfl)
    | upstream => exact not_forwardable_of_forward hok (.inr hmid)
  · rw [heq]
    cases side with
    | client => exact hnot
    | upstream => exact hmid

/-- Queries do not change what may be shut down. -/
lemma Refreshed.not_forwardable (h : Refreshed now c c') (hc : ¬c.session.Forwardable side) :
    ¬c'.session.Forwardable side := by
  obtain ⟨hread, hwrite, hconn⟩ := h.refills.flags
  intro hf
  refine hc ⟨?_, ?_, ?_, fun hside => ?_⟩
  · rw [← hread]
    exact hf.ended
  · rw [← h.refills.queue]
    exact hf.drained
  · rw [← hwrite]
    exact hf.writeOpen
  · rw [← hconn]
    exact hf.connected hside

end Sessions

/-! ## The loop -/

/-- No live connection has a half-close that is left to be passed on. -/
def Runtime.Propagated (p : Runtime) : Prop :=
  ∀ id c, p.Live id c → ∀ side, ¬c.session.Forwardable side

section Loop

variable {io : ℕ → SocketIo} {now : ℤ} {p p' mid : Runtime}

lemma Work.propagated {io : SocketIo} {id : ℕ} {c : Connection}
    (hok : ∀ history side, io.shutdownWrite history side = true) (h : Work io now id c p p')
    (hp : p.Propagated) : p'.Propagated := by
  intro id' c' hlive
  by_cases heq : id' = id
  · subst heq
    cases h with
    | closed session finalState reason advances abrupt => simp [Runtime.live_remove] at hlive
    | drained session advances drained => simp [Runtime.live_remove] at hlive
    | settled session advances undrained propagated =>
        obtain ⟨flushed, rfl⟩ := propagated
        obtain ⟨w, q, heq, -⟩ := scheduleWake_spec p id'
          (({ c with session := flushed.propagateHalfCloses io } : Connection).refresh now)
        rw [heq] at hlive
        obtain rfl := Runtime.eq_of_live_setConnection hlive
        have hrefresh := refreshed_refresh now
          { c with session := flushed.propagateHalfCloses io }
        intro side
        exact hrefresh.not_forwardable (propagateHalfCloses_not_forwardable hok side)
  · exact hp id' c' ((h.frame.2.2.2 id' c' heq).mp hlive)

lemma Popped.propagated {event : TimerEvent} (h : Popped now event p mid) (hp : p.Propagated) :
    mid.Propagated :=
  fun id c hlive => hp id c (h.live.mp hlive)

lemma Act.propagated (hok : ∀ id history side, (io id).shutdownWrite history side = true)
    (h : Act io now p p') (hp : p.Propagated) : p'.Propagated := by
  cases h with
  | accept connecting c newborn token room =>
      intro id' c' hlive side hforward
      obtain ⟨-, rfl⟩ | ⟨-, hold⟩ := Runtime.live_accepted.mp hlive
      · have hended := hforward.ended
        rw [newborn.fresh.readOpen] at hended
        cases hended
      · exact hp id' c' hold side hforward
  | serve id c _ live work => exact work.propagated (hok id) hp
  | fire => exact hp
  | skip event _ popped idle => exact popped.propagated hp
  | wake event c mid _ popped live kind work =>
      exact work.propagated (hok event.connectionId) (popped.propagated hp)
  | timeOut event c mid reason popped live due =>
      exact fun id' c' hlive => popped.propagated hp id' c' (Runtime.live_remove.mp hlive).2
  | postpone event c mid popped live kind active => exact popped.propagated hp

/-- The invariant of a loop whose shutdowns succeed. -/
lemma Runtime.Propagated.invariant (io : ℕ → SocketIo) :
    LoopInvariant io (fun _ => True) fun p =>
      (∀ id history side, (io id).shutdownWrite history side = true) → p.Propagated where
  act _ _ _ _ _ hp hact hok := hact.propagated hok (hp hok)
  tick _ _ hp := hp
  arm clock ok p hp hok := by
    intro id c hlive
    exact hp hok id c (by simpa [Runtime.Live] using hlive)

end Loop

/-- **When a socket hangs up for good.**  At every moment of every run, if the traffic of no live
connection is lopsided, then no live connection has a socket that was read to its end and shut
down, so epoll has no hangup to report.  The condition is exact: when the kernel refuses no
shutdown and no live connection has such a socket, the traffic of none is lopsided. -/
theorem no_hangup_iff_not_lopsided (io : ℕ → SocketIo) (config : ProxyConfig)
    (hconfig : config.validate = .ok ()) (iterations : List Iteration) (steps : List LoopStep) :
    ∃ stopping p, Runtime.runTo io config iterations steps = .ok (stopping, p) ∧
      ((∀ id c, p.connections.lookup id = some c → ¬c.session.trace.Lopsided) →
        ∀ id c side, p.connections.lookup id = some c → ¬c.HangsUp side) ∧
      ((∀ id history side, (io id).shutdownWrite history side = true) →
        (∀ id c side, p.connections.lookup id = some c → ¬c.HangsUp side) →
        ∀ id c, p.connections.lookup id = some c → ¬c.session.trace.Lopsided) := by
  obtain ⟨stopping, p, hrun, hs, hp⟩ := (Runtime.Propagated.invariant io).runTo hconfig
    (fun _ id c hlive => by cases hlive) iterations steps (by simp) (by simp)
  refine ⟨stopping, p, hrun, ?_, ?_⟩
  · intro hbalanced id c side hlive hhangs
    exact hbalanced id c hlive (hhangs.lopsided (hs.session id c hlive))
  · intro hok hquiet id c hlive hlopsided
    obtain ⟨side, hhangs⟩ := hlopsided.hangsUp (hs.session id c hlive) (hp hok id c hlive)
    exact hquiet id c side hlive hhangs

/-- Sockets whose peers send `inbound` and end their streams. -/
def SocketIo.closing (inbound : Side → List Byte) : SocketIo :=
  { SocketIo.script inbound with
    receive := fun history side span =>
      let rest := ((inbound side).drop (history.received side).length).take span
      if rest = [] then .peerClosed 0 else .transferred rest
    receive_transferred := by
      intro history side span bytes h
      simp only at h
      split_ifs at h with hne
      obtain rfl : _ = bytes := by simpa using h
      exact ⟨List.length_pos_iff.mpr hne, List.length_take_le _ _⟩ }

/-- The client has sent its request and ended its stream; the answer is under way. -/
theorem no_hangup_while_answering :
    ∃ stopping p c, Runtime.runTo (fun _ => .closing fun _ => [1, 2, 3])
        { bufferBytesPerDirection := 1024, lowWaterBytes := 512, highWaterBytes := 1024 }
        [.batch [.ready { token := 1, accepts := [.accepted (.opened false 10)] }] 11 true]
        [.ready { token := 4, events := { epollin := true, epollrdhup := true }, now := 12 }] =
        .ok (stopping, p) ∧
      p.connections.lookup 1 = some c ∧ c.session.relay.readOpen .client = false ∧
      c.session.relay.writeOpen .upstream = false ∧ ∀ side, ¬c.HangsUp side := by
  have hcheck : returns (Runtime.runTo (fun _ => .closing fun _ => [1, 2, 3])
      { bufferBytesPerDirection := 1024, lowWaterBytes := 512, highWaterBytes := 1024 }
      [.batch [.ready { token := 1, accepts := [.accepted (.opened false 10)] }] 11 true]
      [.ready { token := 4, events := { epollin := true, epollrdhup := true }, now := 12 }])
      (fun state => decide (state.2.connections.keys = [1]) &&
        (state.2.connections.lookup 1).any fun c =>
          !c.session.relay.readOpen .client && !c.session.relay.writeOpen .upstream &&
            decide (c.session.trace.count (isEof .upstream) = 0) &&
            decide (.shutdownWrite .client .injected true ∉ c.session.trace)) = true := by
    decide +kernel
  obtain ⟨⟨stopping, p⟩, hrun, htest⟩ := exists_of_returns hcheck
  simp only [Bool.and_eq_true, Option.any_eq_true, Bool.not_eq_true', decide_eq_true_eq] at htest
  obtain ⟨hkeys, c, hlive, ⟨⟨hread, hwrite⟩, hopen⟩, hplain⟩ := htest
  obtain ⟨stopping', p', hrun', hquiet, -⟩ := no_hangup_iff_not_lopsided
    (fun _ => .closing fun _ => [1, 2, 3])
    { bufferBytesPerDirection := 1024, lowWaterBytes := 512, highWaterBytes := 1024 }
    (by decide +kernel)
    [.batch [.ready { token := 1, accepts := [.accepted (.opened false 10)] }] 11 true]
    [.ready { token := 4, events := { epollin := true, epollrdhup := true }, now := 12 }]
  obtain ⟨rfl, rfl⟩ := Prod.mk.inj (Except.ok.inj (hrun.symm.trans hrun'))
  refine ⟨stopping, p, c, hrun, hlive, hread, hwrite, fun side => ?_⟩
  refine hquiet (fun id c' hlive' => ?_) 1 c side hlive
  have hid : id ∈ p.connections.keys := Runtime.mem_keys_iff.mpr ⟨c', hlive'⟩
  rw [hkeys, List.mem_singleton] at hid
  subst hid
  obtain rfl : c = c' := Option.some.inj (hlive.symm.trans hlive')
  rintro (⟨hended, -⟩ | ⟨-, hinjected⟩)
  · have hone := hended .upstream
    omega
  · exact hplain hinjected

/-- The client hangs up at once, and upstream after an answer of three bytes, which is delayed.  The
upstream socket is shut down by then and its stream has ended, and the connection stays. -/
theorem hangup_during_delayed_answer :
    ∃ stopping p c,
      Runtime.runTo (fun _ => .closing fun side => if side = .client then [] else [1, 2, 3])
        { bufferBytesPerDirection := 1024, lowWaterBytes := 512, highWaterBytes := 1024
          faults := { latency := 5 } }
        [.batch [.ready { token := 1, accepts := [.accepted (.opened false 10)] }] 11 true]
        [.ready { token := 4, events := { epollin := true, epollrdhup := true }, now := 12 },
          .ready { token := 5, events := { epollin := true, epollrdhup := true }, now := 13 }] =
        .ok (stopping, p) ∧
      p.connections.lookup 1 = some c ∧ c.HangsUp .upstream := by
  have hcheck : returns
      (Runtime.runTo (fun _ => .closing fun side => if side = .client then [] else [1, 2, 3])
        { bufferBytesPerDirection := 1024, lowWaterBytes := 512, highWaterBytes := 1024
          faults := { latency := 5 } }
        [.batch [.ready { token := 1, accepts := [.accepted (.opened false 10)] }] 11 true]
        [.ready { token := 4, events := { epollin := true, epollrdhup := true }, now := 12 },
          .ready { token := 5, events := { epollin := true, epollrdhup := true }, now := 13 }])
      (fun state => (state.2.connections.lookup 1).any fun c =>
        !c.session.relay.readOpen .upstream && !c.session.relay.writeOpen .upstream) = true := by
    decide +kernel
  obtain ⟨⟨stopping, p⟩, hrun, htest⟩ := exists_of_returns hcheck
  simp only [Bool.and_eq_true, Option.any_eq_true, Bool.not_eq_true'] at htest
  obtain ⟨c, hlive, hread, hwrite⟩ := htest
  exact ⟨stopping, p, c, hrun, hlive, hread, hwrite⟩

end NetFault
