import NetFault.Proxy.Runs

/-!
# No lost wakeup

A connection is looked at again for one of two reasons: epoll reports one of its sockets, or one
of its entries in the timer queue is due.  Three caches decide whether that happens: the masks,
`scheduled_wake`, and the entries that are dropped only when they are due.  `Connection.Awake`
says that they agree with what the relay is waiting for.  It is broken for one connection while an
entry of that connection is popped, and every pump restores it.
-/

namespace NetFault

/-- A pending wake of the connection `id`. -/
def TimerEvent.Wakes (e : TimerEvent) (id : ℕ) : Prop := e.connectionId = id ∧ e.kind = .pump

instance (e : TimerEvent) (id : ℕ) : Decidable (e.Wakes id) := inferInstanceAs (Decidable (_ ∧ _))

/-- Whatever the connection waits for will be noticed. -/
structure Connection.Awake (id : ℕ) (heap : List TimerEvent) (c : Connection) : Prop where
  cached : c.registered = c.mask
  reads : ∀ side, c.session.relay.readOpen side = true →
    (c.session.relay.directionFrom side).backpressure.readPaused = false →
    (side = .upstream → c.session.relay.upstreamConnecting = false) →
    (c.registered side).epollin = true
  writes : ∀ destination, 0 < (c.session.relay.directionFrom destination.peer).queue.size →
    c.session.relay.writeOpen destination = true → c.session.relay.upstreamConnecting = false →
    (c.registered destination).epollout = true ∨
      ∃ wake, c.lastWake destination = some wake ∧ ∃ e ∈ heap, e.Wakes id ∧ e.deadline ≤ wake
  scheduled : ∀ t, c.scheduledWake = some t → ∃ e ∈ heap, e.Wakes id ∧ e.deadline = t

section Awake

variable {io : SocketIo} {now : ℤ} {id : ℕ} {c c' : Connection} {p p' mid : Runtime}
  {heap heap' : List TimerEvent} {event : TimerEvent}

/-- Only the wakes of the connection matter. -/
lemma Connection.Awake.mono (h : c.Awake id heap)
    (hsub : ∀ e ∈ heap, e.Wakes id → e ∈ heap') : c.Awake id heap' := by
  refine ⟨h.cached, h.reads, fun destination hsize hopen hconn => ?_, fun t ht => ?_⟩
  · rcases h.writes destination hsize hopen hconn with hout | ⟨wake, hlast, e, he, hwakes, hle⟩
    · exact .inl hout
    · exact .inr ⟨wake, hlast, e, hsub e he hwakes, hwakes, hle⟩
  · obtain ⟨e, he, hwakes, hdeadline⟩ := h.scheduled t ht
    exact ⟨e, hsub e he hwakes, hwakes, hdeadline⟩

/-- An entry that is no wake of the connection may be popped. -/
lemma Popped.mem (h : Popped now event p mid) (hother : ¬event.Wakes id) :
    ∀ e ∈ p.timerQueue.heap, e.Wakes id → e ∈ mid.timerQueue.heap := by
  obtain ⟨hheap, -⟩ := TimerQueue.popDue_eq_some h.popped
  intro e he hwakes
  rw [hheap] at he
  rcases List.mem_cons.mp he with rfl | he
  · exact absurd hwakes hother
  · exact he

/-- The mask asked for covers the reads. -/
lemma epollin_of_readOpen {r : Relay} {side : Side} (hread : r.readOpen side = true)
    (hrunning : (r.directionFrom side).backpressure.readPaused = false)
    (hconn : side = .upstream → r.upstreamConnecting = false) :
    (toEpollMask (r.desiredInterest side now).1).epollin = true := by
  rw [desiredInterest_eq hconn]
  simp [toEpollMask, hread, hrunning]

lemma earlier_le {a b : Option ℤ} {t : ℤ} (h : a = some t ∨ b = some t) :
    ∃ wake ≤ t, earlier a b = some wake := by
  rcases h with rfl | rfl
  · rcases b with _ | b
    · exact ⟨t, le_rfl, rfl⟩
    · exact ⟨min t b, min_le_left _ _, rfl⟩
  · rcases a with _ | a
    · exact ⟨t, le_rfl, rfl⟩
    · exact ⟨min a t, min_le_right _ _, rfl⟩

/-- **A refreshed connection is awake** once something is scheduled by the earlier of its wake
times, and what is scheduled has an entry. -/
lemma Refreshed.awake {config : ProxyConfig} {w : Option ℤ} (h : Refreshed now c c')
    (hs : c.session.Sound config) (hcached : c.registered = c.mask)
    (hearly : ∀ wake, earlier (c'.lastWake .upstream) (c'.lastWake .client) = some wake →
      ∃ scheduled ≤ wake, w = some scheduled)
    (hentries : ∀ t, w = some t → ∃ e ∈ heap, e.Wakes id ∧ e.deadline = t) :
    Connection.Awake id heap { c' with scheduledWake := w } := by
  obtain ⟨hread, hwrite, hconnecting⟩ := h.refills.flags
  have hmask : ∀ side, c'.registered side =
      toEpollMask (c.session.relay.desiredInterest side now).1 := fun side =>
    (congrFun (h.registered hcached) side).trans (h.mask side)
  refine ⟨h.registered hcached, fun side hopen hrunning hconn => ?_,
    fun destination hsize hopen hconn => ?_, hentries⟩
  · show (c'.registered side).epollin = true
    rw [hmask]
    refine epollin_of_readOpen (hread ▸ hopen) ?_ (hconnecting ▸ hconn)
    rw [← h.refills.backpressure]
    exact hrunning
  · show (c'.registered destination).epollout = true ∨ _
    have hsize' : 0 < (c.session.relay.directionFrom destination.peer).queue.size := by
      rw [← h.refills.queue]
      exact hsize
    rcases hout : (c.session.relay.desiredInterest destination now).1.write with _ | _
    swap
    · exact .inl (by rw [hmask]; exact hout)
    -- nothing may be sent now, so there is a wake time, and something is scheduled by then
    obtain ⟨t, ht, -⟩ := nextWake_of_not_write hs.inv (hwrite ▸ hopen)
      (fun _ => hconnecting ▸ hconn) hsize' hout
    have hlast : c'.lastWake destination = some t := (h.lastWake destination).trans ht
    obtain ⟨wake, hle, hearlier⟩ : ∃ wake ≤ t,
        earlier (c'.lastWake .upstream) (c'.lastWake .client) = some wake := by
      refine earlier_le ?_
      rcases destination with _ | _
      · exact .inr hlast
      · exact .inl hlast
    obtain ⟨scheduled, hle', hsched⟩ := hearly wake hearlier
    obtain ⟨e, he, hwakes, hdeadline⟩ := hentries scheduled hsched
    exact .inr ⟨t, hlast, e, he, hwakes, by omega⟩

/-- **Work wakes its connection up again**, for everything it leaves undone. -/
lemma Work.awake {config : ProxyConfig} (h : Work io now id c p p') (hs : c.session.Sound config)
    (hcached : c.registered = c.mask)
    (hscheduled : ∀ t, c.scheduledWake = some t →
      ∃ e ∈ p.timerQueue.heap, e.Wakes id ∧ e.deadline = t)
    (hlive : p'.Live id c') : c'.Awake id p'.timerQueue.heap := by
  cases h with
  | closed session finalState reason advances abrupt => simp [Runtime.live_remove] at hlive
  | drained session advances drained => simp [Runtime.live_remove] at hlive
  | settled session advances undrained propagated =>
      have hrefresh := refreshed_refresh now { c with session }
      obtain ⟨w, q, heq, hwake⟩ :=
        scheduleWake_spec p id (({ c with session } : Connection).refresh now)
      rw [heq] at hlive ⊢
      obtain rfl := Runtime.eq_of_live_setConnection hlive
      refine hrefresh.awake (hs.advances advances) hcached (fun wake hearlier => ?_) ?_
      · rcases hwake with ⟨hw, -, hall⟩ | ⟨wake', hwake', -, hw, -⟩
        · rw [hw]
          exact hall wake hearlier
        · exact ⟨wake', (Option.some.inj (hwake'.symm.trans hearlier)).le, hw⟩
      · rintro t rfl
        rcases hwake with ⟨hw, rfl, -⟩ | ⟨wake, -, -, hw, rfl⟩
        · exact hscheduled t (by rw [hw, hrefresh.scheduledWake])
        · obtain rfl : t = wake := Option.some.inj hw
          exact ⟨_, TimerQueue.mem_schedule.mpr (.inl rfl), ⟨rfl, rfl⟩, rfl⟩

/-- Work drops no entry. -/
lemma Work.mem_heap {config : ProxyConfig} (h : Work io now id c p p')
    (hs : c.session.Sound config) :
    ∀ e ∈ p.timerQueue.heap, e ∈ p'.timerQueue.heap := by
  intro e he
  rcases h.timerQueue hs with heq | ⟨wake, -, heq⟩
  · rwa [heq]
  · rw [heq]
    exact TimerQueue.mem_schedule.mpr (.inr he)

lemma mem_scheduleTimeouts (connecting : Bool) (config : ProxyConfig) {q : TimerQueue} :
    ∀ e ∈ q.heap, e ∈ (Runtime.scheduleTimeouts id connecting now config q).heap := by
  intro e he
  rw [Runtime.scheduleTimeouts]
  split_ifs <;> simp [he]

lemma Newborn.awake {config : ProxyConfig} {plan : FaultPlan} {connecting : Bool}
    (h : Newborn config plan connecting now c) : c.Awake id heap := by
  refine ⟨h.registered, fun side hopen hrunning hconn => ?_, fun destination hsize => ?_, ?_⟩
  · rw [h.registered, h.mask]
    exact epollin_of_readOpen hopen hrunning hconn
  · rw [(h.fresh.direction destination.peer).size] at hsize
    exact absurd hsize (lt_irrefl 0)
  · simp [h.scheduledWake]

/-- The wake that stays scheduled when another entry of the connection is due lies in the future,
so it has its entry still. -/
lemma Connection.Awake.resetDueWake (h : c.Awake id p.timerQueue.heap)
    (hpop : Popped now event p mid) {t : ℤ} (ht : (c.resetDueWake now).scheduledWake = some t) :
    ∃ e ∈ mid.timerQueue.heap, e.Wakes id ∧ e.deadline = t := by
  obtain ⟨hsched, hlater⟩ : c.scheduledWake = some t ∧ now < t := by
    rw [Connection.resetDueWake] at ht
    rcases hc : c.scheduledWake with _ | wake
    · simp [hc] at ht
    · simp only [hc] at ht
      split_ifs at ht with hdue
      obtain rfl : wake = t := Option.some.inj (hc.symm.trans ht)
      exact ⟨rfl, not_le.mp hdue⟩
  obtain ⟨hheap, hdue⟩ := TimerQueue.popDue_eq_some hpop.popped
  obtain ⟨e, he, hwakes, hdeadline⟩ := h.scheduled t hsched
  rw [hheap] at he
  rcases List.mem_cons.mp he with rfl | he
  · omega
  · exact ⟨e, he, hwakes, hdeadline⟩

lemma Connection.resetDueWake_masks (now : ℤ) (c : Connection) :
    (c.resetDueWake now).registered = c.registered ∧ (c.resetDueWake now).mask = c.mask := by
  rw [Connection.resetDueWake]
  split
  · split_ifs <;> exact ⟨rfl, rfl⟩
  · exact ⟨rfl, rfl⟩

end Awake

/-! ## The loop -/

/-- Every live connection is awake. -/
def Runtime.Awake (p : Runtime) : Prop :=
  ∀ id c, p.Live id c → c.Awake id p.timerQueue.heap

section Loop

variable {io : ℕ → SocketIo} {now : ℤ} {p p' mid : Runtime} {event : TimerEvent}

/-- After a pop everyone is awake but the connection whose wake it was. -/
lemma Popped.awake (h : Popped now event p mid) (hp : p.Awake) {id : ℕ} {c : Connection}
    (hother : ¬event.Wakes id) (hlive : p.Live id c) : c.Awake id mid.timerQueue.heap :=
  (hp id c hlive).mono (h.mem hother)

/-- **Every act leaves every connection awake.** -/
lemma Act.awake (h : Act io now p p') (hs : p.Sound) (hp : p.Awake) : p'.Awake := by
  cases h with
  | accept connecting c newborn token room =>
      intro id' c' hlive
      obtain ⟨-, rfl⟩ | ⟨-, hold⟩ := Runtime.live_accepted.mp hlive
      · exact newborn.awake
      · exact (hp id' c' hold).mono fun e he _ => mem_scheduleTimeouts connecting p.config e he
  | serve id c _ live work =>
      intro id' c' hlive
      have hsession := hs.session id c live
      by_cases heq : id' = id
      · subst heq
        exact work.awake hsession (hp id' c live).cached (hp id' c live).scheduled hlive
      · exact (hp id' c' ((work.frame.2.2.2 id' c' heq).mp hlive)).mono
          fun e he _ => work.mem_heap hsession e he
  | fire => exact hp
  | skip event _ popped idle =>
      intro id' c' hlive
      refine popped.awake hp ?_ (popped.live.mp hlive)
      rintro ⟨rfl, hpump⟩
      rw [(idle c' (popped.live.mp hlive)).1] at hpump
      cases hpump
  | wake event c mid _ popped live kind work =>
      intro id' c' hlive
      have hsession : (c.resetDueWake now).session.Sound p.config := hs.resetDueWake live
      by_cases heq : id' = event.connectionId
      · subst heq
        have hawake := hp _ c live
        obtain ⟨hregistered, hmask⟩ := c.resetDueWake_masks now
        exact work.awake hsession (by rw [hregistered, hmask, hawake.cached])
          (fun t ht => hawake.resetDueWake popped ht) hlive
      · refine Connection.Awake.mono (popped.awake hp ?_
          (popped.live.mp ((work.frame.2.2.2 id' c' heq).mp hlive)))
          fun e he _ => work.mem_heap hsession e he
        exact fun hwakes => heq hwakes.1.symm
  | timeOut event c mid reason popped live due =>
      intro id' c' hlive
      obtain ⟨hne, hold⟩ := Runtime.live_remove.mp hlive
      rw [Runtime.remove_timerQueue]
      exact popped.awake hp (fun hwakes => hne hwakes.1.symm) (popped.live.mp hold)
  | postpone event c mid popped live kind active =>
      intro id' c' hlive
      refine Connection.Awake.mono (popped.awake hp ?_ (popped.live.mp hlive))
        fun e he _ => TimerQueue.mem_schedule.mpr (.inr he)
      exact fun hwakes => absurd (kind.symm.trans hwakes.2) (by decide)

lemma Runtime.Awake.invariant (io : ℕ → SocketIo) :
    LoopInvariant io (fun _ => True) Runtime.Awake where
  act _ _ _ _ hs hp hact := hact.awake hs hp
  tick _ _ hp := hp
  arm clock ok p hp := by
    intro id c hlive
    rw [Runtime.armTimerFd_timerQueue]
    exact hp id c (by simpa [Runtime.Live] using hlive)

end Loop

/-- **No lost wakeup.**  At every moment of every run, whatever the sockets answer and the clock
shows, for every live connection:
* a side that is open for reading, whose direction is not paused and that is not connecting is
  registered for `EPOLLIN`;
* a destination that is open for writing and has bytes queued, on a connection whose connect has
  finished, is registered for `EPOLLOUT`, or the timer queue holds a pump of the connection that is
  due no later than the wake time computed for it in the most recent pump;
* the wake that `scheduled_wake` speaks of is in the timer queue. -/
theorem event_loop_no_lost_wakeup (io : ℕ → SocketIo) (config : ProxyConfig)
    (hconfig : config.validate = .ok ()) (iterations : List Iteration) (steps : List LoopStep) :
    ∃ stopping p, Runtime.runTo io config iterations steps = .ok (stopping, p) ∧
      ∀ id c, p.connections.lookup id = some c →
        (∀ side, c.session.relay.readOpen side = true →
          (c.session.relay.directionFrom side).backpressure.readPaused = false →
          ¬(side = .upstream ∧ c.session.relay.upstreamConnecting = true) →
          (c.registered side).epollin = true) ∧
        (∀ destination, 0 < (c.session.relay.directionFrom destination.peer).queue.size →
          c.session.relay.writeOpen destination = true →
          c.session.relay.upstreamConnecting = false →
          (c.registered destination).epollout = true ∨
            ∃ wake, c.lastWake destination = some wake ∧
              ∃ e ∈ p.timerQueue.heap, e.connectionId = id ∧ e.kind = .pump ∧ e.deadline ≤ wake) ∧
        (∀ t, c.scheduledWake = some t →
          ∃ e ∈ p.timerQueue.heap, e.connectionId = id ∧ e.kind = .pump ∧ e.deadline = t) := by
  obtain ⟨stopping, p, hrun, -, hp⟩ := (Runtime.Awake.invariant io).runTo hconfig
    (fun id c hlive => by cases hlive) iterations steps (by simp) (by simp)
  refine ⟨stopping, p, hrun, fun id c hlive => ?_⟩
  have hawake := hp id c hlive
  refine ⟨fun side hopen hrunning hconn => ?_, fun destination hsize hopen hconn => ?_,
    fun t ht => ?_⟩
  · refine hawake.reads side hopen hrunning fun hside => ?_
    simpa [hside] using hconn
  · rcases hawake.writes destination hsize hopen hconn with hout | ⟨wake, hlast, e, he, hwakes, hle⟩
    · exact .inl hout
    · exact .inr ⟨wake, hlast, e, he, hwakes.1, hwakes.2, hle⟩
  · obtain ⟨e, he, hwakes, hdeadline⟩ := hawake.scheduled t ht
    exact ⟨e, he, hwakes.1, hwakes.2, hdeadline⟩

/-- A proxy that delays for five milliseconds accepts a client, and three bytes arrive: nobody asks
for the upstream to become writable, so a pump is pending. -/
theorem event_loop_no_lost_wakeup_delayed :
    ∃ stopping p c, Runtime.runTo (fun _ => .script fun _ => [1, 2, 3])
        { bufferBytesPerDirection := 1024, lowWaterBytes := 512, highWaterBytes := 1024
          faults := { latency := 5 } }
        [.batch [.ready { token := 1, accepts := [.accepted (.opened false 10)] }] 11 true]
        [.ready { token := 4, events := { epollin := true }, now := 12 }] = .ok (stopping, p) ∧
      p.connections.lookup 1 = some c ∧ (c.registered .upstream).epollout = false ∧
      ∃ wake, c.lastWake .upstream = some wake ∧
        ∃ e ∈ p.timerQueue.heap, e.connectionId = 1 ∧ e.kind = .pump ∧ e.deadline ≤ wake := by
  have hcheck : returns (Runtime.runTo (fun _ => .script fun _ => [1, 2, 3])
      { bufferBytesPerDirection := 1024, lowWaterBytes := 512, highWaterBytes := 1024
        faults := { latency := 5 } }
      [.batch [.ready { token := 1, accepts := [.accepted (.opened false 10)] }] 11 true]
      [.ready { token := 4, events := { epollin := true }, now := 12 }])
      (fun state => (state.2.connections.lookup 1).any fun c =>
        decide (0 < (c.session.relay.directionFrom .client).queue.size) &&
          c.session.relay.writeOpen .upstream && !c.session.relay.upstreamConnecting &&
          !(c.registered .upstream).epollout) = true := by
    decide +kernel
  obtain ⟨stopping, p, hrun, hawake⟩ := event_loop_no_lost_wakeup
    (fun _ => .script fun _ => [1, 2, 3])
    { bufferBytesPerDirection := 1024, lowWaterBytes := 512, highWaterBytes := 1024
      faults := { latency := 5 } } (by decide +kernel)
    [.batch [.ready { token := 1, accepts := [.accepted (.opened false 10)] }] 11 true]
    [.ready { token := 4, events := { epollin := true }, now := 12 }]
  have htest := of_returns hcheck hrun
  obtain ⟨c, hlive, hwaits⟩ := (Option.any_eq_true _ _).mp htest
  simp only [Bool.and_eq_true, Bool.not_eq_true', decide_eq_true_eq] at hwaits
  obtain ⟨⟨⟨hqueued, hopen⟩, hconnected⟩, hmask⟩ := hwaits
  obtain ⟨-, hwrites, -⟩ := hawake 1 c hlive
  have hpump := (hwrites .upstream hqueued hopen hconnected).resolve_left
    (Bool.eq_false_iff.mp hmask)
  exact ⟨stopping, p, c, hrun, hlive, hmask, hpump⟩

end NetFault
