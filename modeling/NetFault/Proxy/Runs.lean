import NetFault.Proxy.Acts

/-!
# Every run of the event loop is a sequence of acts

The operations of the loop return in every sound state, and a sound state stays sound.  The one
operation whose end has to be argued for is `process_due_timers`: whatever it schedules on the way
lies in the future, so each trip of its loop leaves one due entry less.  `Run` is a run with the
events it has handled, and `runTo_run` shows that the functions of the loop follow one;
`LoopInvariant.runTo` is the rule most results about runs are derived by.
-/

namespace NetFault

section Work

variable {io : SocketIo} {now : ℤ} {id : ℕ} {c : Connection} {p p' : Runtime}

/-- Work leaves everything alone but its own connection, the timers and the record of closes. -/
lemma Work.frame (h : Work io now id c p p') :
    p'.config = p.config ∧ p'.lastArmedDeadline = p.lastArmedDeadline ∧ p'.timerFd = p.timerFd ∧
      ∀ id' c', id' ≠ id → (p'.Live id' c' ↔ p.Live id' c') := by
  cases h with
  | closed session finalState reason advances abrupt =>
      refine ⟨by simp, by simp, by simp, fun id' c' hne => ?_⟩
      simp [Runtime.live_remove, hne]
  | drained session advances drained =>
      refine ⟨by simp, by simp, by simp, fun id' c' hne => ?_⟩
      simp [Runtime.live_remove, hne]
  | settled session advances undrained propagated =>
      obtain ⟨w, q, heq, -⟩ :=
        scheduleWake_spec p id (({ c with session } : Connection).refresh now)
      rw [heq]
      refine ⟨rfl, rfl, rfl, fun id' c' hne => ?_⟩
      rw [Runtime.live_setConnection]
      simp only [hne, ne_eq, not_false_eq_true, false_and, false_or, true_and]
      rfl

/-- The connection that is left after work has a session that advanced. -/
lemma Work.live_self (h : Work io now id c p p') {c' : Connection} (hlive : p'.Live id c') :
    c.session.Advances io now c'.session := by
  cases h with
  | closed session finalState reason advances abrupt => simp [Runtime.live_remove] at hlive
  | drained session advances drained => simp [Runtime.live_remove] at hlive
  | settled session advances undrained propagated =>
      obtain ⟨w, q, heq, -⟩ :=
        scheduleWake_spec p id (({ c with session } : Connection).refresh now)
      rw [heq] at hlive
      obtain rfl := Runtime.eq_of_live_setConnection hlive
      exact advances.trans (refreshed_refresh now { c with session }).advances

/-- Work schedules at most one entry, a wake in the future. -/
lemma Work.timerQueue {config : ProxyConfig} (h : Work io now id c p p')
    (hs : c.session.Sound config) :
    p'.timerQueue = p.timerQueue ∨
      ∃ wake, now < wake ∧ p'.timerQueue = p.timerQueue.schedule wake id .pump := by
  cases h with
  | closed session finalState reason advances abrupt => exact .inl (by simp)
  | drained session advances drained => exact .inl (by simp)
  | settled session advances undrained propagated =>
      obtain ⟨w, q, heq, ⟨-, rfl, -⟩ | ⟨wake, hwake, -, -, rfl⟩⟩ :=
        scheduleWake_spec p id (({ c with session } : Connection).refresh now)
      · exact .inl (by rw [heq]; rfl)
      · exact .inr ⟨wake, (refreshed_refresh now { c with session }).lt_wake
          (hs.advances advances) hwake, by rw [heq]; rfl⟩

/-- What is closed by work. -/
lemma Work.closed_eq (h : Work io now id c p p') :
    p'.closed = p.closed ∨ ∃ entry, p'.closed = p.closed ++ [entry] ∧
      (entry.reason.isAbrupt = true ∨
        entry.reason = .orderlyShutdown ∧ ∃ session, c.session.Advances io now session ∧
          (session.propagateHalfCloses io).relay.fullyDrained = true ∧
          entry.session = session.propagateHalfCloses io) := by
  cases h with
  | closed session finalState reason advances abrupt =>
      exact .inr ⟨_, Runtime.remove_closed, .inl abrupt⟩
  | drained session advances drained =>
      exact .inr ⟨_, Runtime.remove_closed, .inr ⟨rfl, session, advances, drained, rfl⟩⟩
  | settled session advances undrained propagated =>
      obtain ⟨w, q, heq, -⟩ :=
        scheduleWake_spec p id (({ c with session } : Connection).refresh now)
      exact .inl (by rw [heq]; rfl)

end Work

/-! ## Acceptance -/

section Acceptance

variable {io : ℕ → SocketIo} {now : ℤ} {p p' : Runtime} {connecting : Bool}

/-- The queries of a relay without queued bytes change nothing. -/
lemma Relay.Fresh.desiredInterest_snd {config : RelayConfig} {plan : FaultPlan} {start : ℤ}
    {r : Relay} (h : r.Fresh config plan connecting start) (side : Side) :
    (r.desiredInterest side now).2 = r := by
  by_cases hconn : side = .upstream → r.upstreamConnecting = false
  · have hempty : (r.directionFrom side.peer).queue.empty = true :=
      (ByteQueue.empty_iff _).mpr (h.direction side.peer).size
    rw [desiredInterest_eq hconn]
    simp [hempty]
  · obtain ⟨rfl, hc⟩ : side = .upstream ∧ r.upstreamConnecting = true := by simpa using hconn
    rw [desiredInterest_connecting hc]

/-- **An accept succeeds**, with a new connection. -/
lemma acceptConnection_spec (hconfig : p.config.relayConfig.Valid) (connecting : Bool) (now : ℤ) :
    ∃ c, Newborn p.config (p.effectiveFaults p.nextConnectionId) connecting now c ∧
      (c.token .client = p.nextToken ∧ c.token .upstream = p.nextToken + 1) ∧
      p.acceptConnection connecting now = .ok (p.accepted connecting now c) := by
  obtain ⟨r, hok, hfresh⟩ := Relay.create_spec (p.effectiveFaults p.nextConnectionId) hconfig
    (UInt64.ofNat p.nextConnectionId) connecting now
  simp only [Runtime.acceptConnection, hok, bind, Except.bind, hfresh.desiredInterest_snd]
  refine ⟨_, ⟨hfresh, rfl, ?_, rfl, rfl⟩, ⟨rfl, rfl⟩, rfl⟩
  rintro (_ | _) <;> rfl

lemma Runtime.live_accepted {c c' : Connection} {id : ℕ} :
    (p.accepted connecting now c).Live id c' ↔
      id = p.nextConnectionId ∧ c' = c ∨ id ≠ p.nextConnectionId ∧ p.Live id c' :=
  live_setConnection

/-- The timers of a new connection. -/
lemma of_mem_scheduleTimeouts {config : ProxyConfig} {q : TimerQueue} {id : ℕ} {e : TimerEvent}
    (he : e ∈ (Runtime.scheduleTimeouts id connecting now config q).heap) :
    e ∈ q.heap ∨ e.connectionId = id ∧
      (e.kind = .connectTimeout ∧ e.deadline = now + config.connectTimeoutNs ∧
          connecting = true ∧ 0 < config.connectTimeout ∨
        e.kind = .idleTimeout ∧ e.deadline = now + config.idleTimeoutNs ∧
          0 < config.idleTimeout) := by
  rw [Runtime.scheduleTimeouts] at he
  split_ifs at he with hidle hconnect hconnect
  · simp only [TimerQueue.mem_schedule] at he
    obtain rfl | rfl | he := he
    · exact .inr ⟨rfl, .inr ⟨rfl, rfl, hidle⟩⟩
    · exact .inr ⟨rfl, .inl ⟨rfl, rfl, hconnect⟩⟩
    · exact .inl he
  · obtain rfl | he := TimerQueue.mem_schedule.mp he
    · exact .inr ⟨rfl, .inr ⟨rfl, rfl, hidle⟩⟩
    · exact .inl he
  · obtain rfl | he := TimerQueue.mem_schedule.mp he
    · exact .inr ⟨rfl, .inl ⟨rfl, rfl, hconnect⟩⟩
    · exact .inl he
  · exact .inl he

/-- What every timeout that is scheduled keeps is kept. -/
lemma scheduleTimeouts_rule {config : ProxyConfig} {id : ℕ} (P : TimerQueue → Prop)
    (hschedule : ∀ q deadline kind, kind ≠ .pump → P q → P (q.schedule deadline id kind))
    {q : TimerQueue} (hq : P q) : P (Runtime.scheduleTimeouts id connecting now config q) := by
  rw [Runtime.scheduleTimeouts]
  split_ifs
  · exact hschedule _ _ _ (by simp) (hschedule _ _ _ (by simp) hq)
  · exact hschedule _ _ _ (by simp) hq
  · exact hschedule _ _ _ (by simp) hq
  · exact hq

lemma effectiveFaults_rate (hconfig : p.config.validate = .ok ()) (id : ℕ) :
    (p.effectiveFaults id).rateBytesPerSecond ≤ 1000000000 := by
  rw [Runtime.effectiveFaults]
  split_ifs
  · exact (p.config.faults.validate_spec (ProxyConfig.validate_spec hconfig).2.2.2.2).2.2
  · exact Nat.zero_le _

lemma Newborn.sound {c : Connection} (hconfig : p.config.validate = .ok ()) {id : ℕ}
    (h : Newborn p.config (p.effectiveFaults id) connecting now c) :
    c.session.Sound p.config := by
  have hsession : c.session = { relay := c.session.relay } := by rw [← h.trace]
  rw [hsession]
  exact h.fresh.sound (ProxyConfig.validate_spec hconfig).2.1 (effectiveFaults_rate hconfig id)

end Acceptance

/-! ## Sound states stay sound -/

section Sound

variable {io : ℕ → SocketIo} {now : ℤ} {p p' mid : Runtime} {event : TimerEvent}

lemma Popped.live (h : Popped now event p mid) {id : ℕ} {c : Connection} :
    mid.Live id c ↔ p.Live id c := by
  rw [h.rest]
  rfl

lemma Popped.config (h : Popped now event p mid) : mid.config = p.config := by rw [h.rest]

lemma Popped.sound (h : Popped now event p mid) (hs : p.Sound) : mid.Sound :=
  ⟨h.config.symm ▸ hs.config, fun id c hlive => h.config.symm ▸ hs.session id c (h.live.mp hlive)⟩

@[simp] lemma Connection.resetDueWake_session (now : ℤ) (c : Connection) :
    (c.resetDueWake now).session = c.session := by
  rw [Connection.resetDueWake]
  split
  · split_ifs <;> rfl
  · rfl

lemma Runtime.Sound.resetDueWake (hs : p.Sound) {id : ℕ} {c : Connection} (hlive : p.Live id c) :
    (c.resetDueWake now).session.Sound p.config := by
  rw [Connection.resetDueWake_session]
  exact hs.session id c hlive

lemma Work.sound {io : SocketIo} {id : ℕ} {c : Connection} (h : Work io now id c p p')
    (hs : p.Sound) (hc : c.session.Sound p.config) : p'.Sound := by
  obtain ⟨hconfig, -, -, hothers⟩ := h.frame
  refine ⟨hconfig ▸ hs.config, fun id' c' hlive => ?_⟩
  rw [hconfig]
  by_cases heq : id' = id
  · subst heq
    exact hc.advances (h.live_self hlive)
  · exact hs.session id' c' ((hothers id' c' heq).mp hlive)

lemma Runtime.Sound.remove (hs : p.Sound) (id : ℕ) (c : Connection) (finalState : ConnectionState)
    (reason : CloseReason) (now : ℤ) : (p.remove id c finalState reason now).Sound := by
  refine ⟨by simpa using hs.config, fun id' c' hlive => ?_⟩
  rw [Runtime.remove_config]
  exact hs.session id' c' (Runtime.live_remove.mp hlive).2

/-- **Every act keeps the runtime sound.** -/
lemma Act.sound (h : Act io now p p') (hs : p.Sound) : p'.Sound := by
  cases h with
  | accept connecting c newborn token room =>
      refine ⟨hs.config, fun id' c' hlive => ?_⟩
      obtain ⟨-, rfl⟩ | ⟨-, hold⟩ := Runtime.live_accepted.mp hlive
      · exact newborn.sound hs.config
      · exact hs.session id' c' hold
  | serve id c _ live work => exact work.sound hs (hs.session id c live)
  | fire => exact ⟨hs.config, hs.session⟩
  | skip event _ popped idle => exact popped.sound hs
  | wake event c mid _ popped live kind work =>
      exact work.sound (popped.sound hs) (popped.config.symm ▸ hs.resetDueWake live)
  | timeOut event c mid reason popped live due => exact (popped.sound hs).remove _ _ _ _ _
  | postpone event c mid popped live kind active =>
      exact ⟨(popped.sound hs).config, (popped.sound hs).session⟩

lemma Acts.sound {R : ℤ → Prop} (h : Acts io R p p') (hs : p.Sound) : p'.Sound := by
  induction h with
  | refl => exact hs
  | tail _ hlast ih =>
      obtain ⟨now, -, hact⟩ := hlast
      exact hact.sound ih

end Sound

/-! ## Every operation returns -/

section Operations

variable {R : ℤ → Prop} {p p' mid : Runtime}

/-- **`accept_ready` finishes**, and what every accept keeps is kept.  The induction is on the
results of `accept4`. -/
lemma acceptReady_spec (io : ℕ → SocketIo) {P : Runtime → Prop} (haccept : ∀ p connecting now c,
      p.Sound → P p → R now →
      Newborn p.config (p.effectiveFaults p.nextConnectionId) connecting now c →
      (c.token .client = p.nextToken ∧ c.token .upstream = p.nextToken + 1) →
      p.connections.keys.length < p.config.maxConnections → P (p.accepted connecting now c)) :
    ∀ (accepts : List AcceptResult) (p : Runtime), p.Sound → P p →
      (∀ now ∈ accepts.filterMap AcceptResult.reading?, R now) →
      ∃ p', p.acceptReady accepts = .ok p' ∧ P p'
  | [], p, _, hp, _ => ⟨p, rfl, hp⟩
  | .interrupted :: accepts, p, hs, hp, hR => acceptReady_spec io haccept accepts p hs hp hR
  | .failed errno :: accepts, p, hs, hp, hR => ⟨p, rfl, hp⟩
  | .accepted upstream :: accepts, p, hs, hp, hR => by
      have hrest : ∀ now ∈ accepts.filterMap AcceptResult.reading?, R now := fun now hnow =>
        hR now (List.mem_filterMap.mpr (by
          obtain ⟨a, ha, hread⟩ := List.mem_filterMap.mp hnow
          exact ⟨a, List.mem_cons_of_mem _ ha, hread⟩))
      unfold Runtime.acceptReady
      split_ifs with hfull
      · exact acceptReady_spec io haccept accepts p hs hp hrest
      cases upstream with
      | socketFailed errno => exact acceptReady_spec io haccept accepts p hs hp hrest
      | connectFailed errno => exact acceptReady_spec io haccept accepts p hs hp hrest
      | opened connecting now =>
          obtain ⟨c, hborn, htoken, hnew⟩ := acceptConnection_spec
            (ProxyConfig.validate_spec hs.config).2.1 connecting now
          have hnow : R now := hR now (List.mem_filterMap.mpr ⟨_, List.mem_cons_self .., rfl⟩)
          have hact : Act io now p (p.accepted connecting now c) :=
            .accept connecting c hborn htoken (not_le.mp hfull)
          obtain ⟨p', hrun, hp'⟩ := acceptReady_spec io haccept accepts _ (hact.sound hs)
            (haccept p connecting now c hs hp hnow hborn htoken (not_le.mp hfull)) hrest
          exact ⟨p', by simp only [hnew, hrun], hp'⟩

lemma acceptReady_acts (io : ℕ → SocketIo) (accepts : List AcceptResult) (hs : p.Sound)
    (hR : ∀ now ∈ accepts.filterMap AcceptResult.reading?, R now) :
    ∃ p', p.acceptReady accepts = .ok p' ∧ Acts io R p p' :=
  acceptReady_spec io (P := Acts io R p)
    (fun _ connecting now c _ hacts hnow hborn htoken hroom =>
      hacts.tail ⟨now, hnow, .accept connecting c hborn htoken hroom⟩) accepts p hs .refl hR

variable {now : ℤ} {event : TimerEvent}

/-- **A popped entry** is dealt with in one act, and nothing that is scheduled then is due. -/
lemma handleTimer_act (io : ℕ → SocketIo) (hs : p.Sound) (hpop : Popped now event p mid) :
    ∃ p', mid.handleTimer io now event = .ok p' ∧ Act io now p p' ∧
      TimerQueue.Grown now mid.timerQueue p'.timerQueue := by
  simp only [Runtime.handleTimer]
  rcases hlive : mid.connections.lookup event.connectionId with _ | c
  · refine ⟨mid, rfl, .skip event mid hpop fun c hc => ?_, .inl rfl⟩
    cases (hpop.live.mpr hc).symm.trans hlive
  have hold : p.Live event.connectionId c := hpop.live.mp hlive
  have honly : ∀ c', p.Live event.connectionId c' → c' = c := fun c' hc' =>
    Option.some.inj (hc'.symm.trans hold)
  have hsession := hs.session _ c hold
  rcases hkind : event.kind with _ | _ | _
  · obtain ⟨p', hpump, hwork⟩ := pumpConnection_spec io now
      (p := mid.setConnection event.connectionId (c.resetDueWake now))
      Runtime.live_setConnection_self (by simpa using hsession.inv)
    have hwork' : Work (io event.connectionId) now event.connectionId (c.resetDueWake now) mid p' :=
      .of_advances (.refl (c.resetDueWake now).session) hwork
    refine ⟨p', hpump, .wake event c mid p' hpop hold hkind hwork', ?_⟩
    rcases hwork'.timerQueue (by simpa using hsession) with heq | ⟨wake, hlater, heq⟩
    · exact .inl heq
    · exact .inr ⟨wake, event.connectionId, .pump, hlater, heq⟩
  · simp only
    split_ifs with hdue
    · rw [Runtime.closeConnection_of_live hlive]
      exact ⟨_, rfl, .timeOut event c mid .idleTimeout hpop hold
        (.inr ⟨hkind, rfl, hdue⟩), .inl (by simp)⟩
    · exact ⟨_, rfl, .postpone event c mid hpop hold hkind (not_le.mp hdue),
        .inr ⟨_, _, _, not_le.mp hdue, rfl⟩⟩
  · simp only
    split_ifs with hconn
    · rw [Runtime.closeConnection_of_live hlive]
      exact ⟨_, rfl, .timeOut event c mid .connectTimeout hpop hold (.inl ⟨hkind, rfl, hconn⟩),
        .inl (by simp)⟩
    · refine ⟨mid, rfl, .skip event mid hpop fun c' hc' => ⟨hkind, ?_⟩, .inl rfl⟩
      rw [honly c' hc']
      simpa using hconn

/-- **`process_due_timers` finishes**, leaves no due entry behind, and keeps what every entry it
deals with keeps.  The measure is the number of due entries. -/
lemma processDueTimers_spec (io : ℕ → SocketIo) (now : ℤ) {P : Runtime → Prop}
    (hfire : ∀ q q', q.Sound → P q → Act io now q q' →
      q'.timerQueue.due now < q.timerQueue.due now → P q')
    (hs : p.Sound) (hp : P { p with lastArmedDeadline := none }) :
    ∃ processed p', p.processDueTimers io now = .ok (processed, p') ∧ P p' ∧
      ∀ e ∈ p'.timerQueue.heap, now < e.deadline := by
  obtain ⟨⟨⟩, ⟨processed, p'⟩, hrun, hp', hdue⟩ := Loop.run_spec (Runtime.processDueBody io now)
    Fault.endlessLoop (fun state => state.2.Sound ∧ P state.2)
    (fun _ state => P state.2 ∧ ∀ e ∈ state.2.timerQueue.heap, now < e.deadline)
    (fun state => state.2.timerQueue.due now)
    (by
      rintro ⟨processed, q⟩ ⟨hq, hpq⟩
      rw [Runtime.processDueBody]
      rcases hpop : q.timerQueue.popDue now with _ | ⟨event, timerQueue⟩
      · exact .inr ⟨(), (processed, q), rfl, hpq, TimerQueue.popDue_eq_none.mp hpop⟩
      have hpopped : Popped now event q { q with timerQueue } := ⟨hpop, rfl⟩
      obtain ⟨q', hhandle, hact, hgrown⟩ := handleTimer_act io hq hpopped
      have hless : q'.timerQueue.due now < q.timerQueue.due now := by
        rw [TimerQueue.due_popDue hpop, hgrown.due_eq]
        exact Nat.lt_succ_self _
      exact .inl ⟨(processed + 1, q'), by simp only [hhandle, Except.map],
        ⟨hact.sound hq, hfire q q' hq hpq hact hless⟩, hless⟩)
    (p.timerQueue.due now + 1) (0, { p with lastArmedDeadline := none })
    ⟨⟨hs.config, hs.session⟩, hp⟩ (Nat.lt_succ_self _)
  exact ⟨processed, p', by simp only [Runtime.processDueTimers, hrun, Except.map], hp', hdue⟩

lemma processDueTimers_acts (io : ℕ → SocketIo) (hs : p.Sound) (hR : R now) :
    ∃ processed p', p.processDueTimers io now = .ok (processed, p') ∧
      Acts io R { p with lastArmedDeadline := none } p' ∧
      ∀ e ∈ p'.timerQueue.heap, now < e.deadline :=
  processDueTimers_spec io now (P := Acts io R { p with lastArmedDeadline := none })
    (fun _ _ _ hacts hact _ => hacts.tail ⟨now, hR, hact⟩) hs .refl

/-- **What every popped entry keeps** is kept by `process_due_timers`, and no entry is due when it
returns. -/
lemma processDueTimers_rule {io : ℕ → SocketIo} {P : Runtime → Prop} {processed : ℕ}
    (hhandle : ∀ q event mid q', P q → Popped now event q mid →
      mid.handleTimer io now event = .ok q' → P q')
    (hp : P { p with lastArmedDeadline := none })
    (hrun : p.processDueTimers io now = .ok (processed, p')) :
    P p' ∧ ∀ e ∈ p'.timerQueue.heap, now < e.deadline := by
  rw [Runtime.processDueTimers] at hrun
  rcases hloop : Loop.run (Runtime.processDueBody io now) Fault.endlessLoop
      (p.timerQueue.due now + 1) (0, { p with lastArmedDeadline := none }) with e | ⟨⟨⟩, state⟩
  · simp [hloop, Except.map] at hrun
  have hagain : ∀ state state' : ℕ × Runtime, P state.2 →
      Runtime.processDueBody io now state = .ok (.again state') → P state'.2 := by
    rintro ⟨processed, q⟩ state' hq hbody
    rw [Runtime.processDueBody] at hbody
    rcases hpop : q.timerQueue.popDue now with _ | ⟨event, timerQueue⟩
    · simp [hpop] at hbody
    rcases hresult : Runtime.handleTimer io now event { q with timerQueue } with e | q'
    · simp [hpop, hresult, Except.map] at hbody
    · simp only [hpop, hresult, Except.map, Except.ok.injEq, Loop.Trip.again.injEq] at hbody
      rw [← hbody]
      exact hhandle q event { q with timerQueue } q' hq ⟨hpop, rfl⟩ hresult
  obtain ⟨⟨processed', q⟩, hlast, hexit⟩ := Loop.run_exit (fun state => P state.2) hagain _ _ hp
    hloop
  obtain rfl : state.2 = p' := by
    simp only [hloop, Except.map, Except.ok.injEq] at hrun
    rw [hrun]
  -- the trip that leaves the loop changes nothing
  rw [Runtime.processDueBody] at hexit
  rcases hpop : q.timerQueue.popDue now with _ | ⟨event, timerQueue⟩
  · simp only [hpop, Except.ok.injEq, Loop.Trip.exit.injEq] at hexit
    rw [← hexit.2]
    exact ⟨hlast, TimerQueue.popDue_eq_none.mp hpop⟩
  · rcases hresult : Runtime.handleTimer io now event { q with timerQueue } with e | q'
    · simp [hpop, hresult, Except.map] at hexit
    · simp [hpop, hresult, Except.map] at hexit

/-- **What is kept by everything an event can lead to** is kept by its handling: by every accept, by
the firing of the timer and every due entry dealt with after it, and by the work on a socket. -/
lemma dispatch_rule {io : ℕ → SocketIo} (P : Runtime → Prop) {event : Readiness} {stopping : Bool}
    (hs : p.Sound) (hp : P p)
    (haccept : ∀ q connecting now c, q.Sound → P q → now ∈ event.readings →
      Newborn q.config (q.effectiveFaults q.nextConnectionId) connecting now c →
      (c.token .client = q.nextToken ∧ c.token .upstream = q.nextToken + 1) →
      q.connections.keys.length < q.config.maxConnections → P (q.accepted connecting now c))
    (hfire : P { p.drainTimerFd with lastArmedDeadline := none })
    (hdue : ∀ q q', q.Sound → P q → event.readings = [event.now] → Act io event.now q q' →
      q'.timerQueue.due event.now < q.timerQueue.due event.now → P q')
    (hserve : ∀ p', event.readings = [event.now] → p.socketReady io event = .ok p' →
      ∀ id c, p.Live id c → Work (io id) event.now id c p p' → P p')
    (hrun : p.dispatch io event = .ok (stopping, p')) : P p' := by
  rw [Runtime.dispatch] at hrun
  split_ifs at hrun with hlistener hsignal htimer
  · obtain ⟨p'', hready, hp''⟩ := acceptReady_spec (R := (· ∈ event.readings)) io haccept
      event.accepts p hs hp (fun now hnow => by rwa [Readiness.readings, if_pos hlistener])
    rw [hready] at hrun
    cases hrun
    exact hp''
  · cases hrun
    exact hp
  · have hreadings : event.readings = [event.now] := by
      rw [Readiness.readings, if_neg hlistener, if_neg hsignal]
    obtain ⟨processed, p'', hprocess, hp'', -⟩ := processDueTimers_spec (p := p.drainTimerFd) io
      event.now (fun q q' hq h hact hless => hdue q q' hq h hreadings hact hless)
      ⟨hs.config, hs.session⟩ hfire
    rw [hprocess] at hrun
    cases hrun
    exact hp''
  · have hreadings : event.readings = [event.now] := by
      rw [Readiness.readings, if_neg hlistener, if_neg hsignal]
    obtain ⟨p'', hready, hwork⟩ :=
      socketReady_spec io event fun id c hlive => (hs.session id c hlive).inv
    rw [hready] at hrun
    cases hrun
    rcases hwork with rfl | ⟨id, c, hlive, hwork⟩
    · exact hp
    · exact hserve _ hreadings hready id c hlive hwork

/-- **Every event is handled**, in a sequence of acts at the clock readings made for it. -/
lemma dispatch_acts (io : ℕ → SocketIo) (hs : p.Sound) (event : Readiness)
    (hR : ∀ now ∈ event.readings, R now) :
    ∃ stopping p', p.dispatch io event = .ok (stopping, p') ∧ Acts io R p p' := by
  rw [Readiness.readings] at hR
  rw [Runtime.dispatch]
  split_ifs with hlistener hsignal htimer
  · rw [if_pos hlistener] at hR
    obtain ⟨p', haccept, hacts⟩ := acceptReady_acts io event.accepts hs hR
    exact ⟨false, p', by simp only [haccept, Except.map], hacts⟩
  · exact ⟨_, p, rfl, .refl⟩
  · have hnow : R event.now := hR _ (by simp [hlistener, hsignal])
    obtain ⟨processed, p', hdue, hacts, -⟩ := processDueTimers_acts io (p := p.drainTimerFd)
      ⟨hs.config, hs.session⟩ hnow
    exact ⟨false, p', by simp only [hdue, Except.map], .head ⟨event.now, hnow, .fire⟩ hacts⟩
  · have hnow : R event.now := hR _ (by simp [hlistener, hsignal])
    obtain ⟨p', hready, hwork⟩ :=
      socketReady_spec io event fun id c hlive => (hs.session id c hlive).inv
    refine ⟨false, p', by simp only [hready, Except.map], ?_⟩
    rcases hwork with rfl | ⟨id, c, hlive, hwork⟩
    · exact .refl
    · exact .single ⟨event.now, hnow, .serve id c p' hlive hwork⟩

end Operations

/-! ## Runs -/

@[simp] lemma Runtime.armTimerFd_config (clock : ℤ) (ok : Bool) (p : Runtime) :
    (p.armTimerFd clock ok).config = p.config := by
  rw [armTimerFd]
  split_ifs <;> rfl

@[simp] lemma Runtime.armTimerFd_connections (clock : ℤ) (ok : Bool) (p : Runtime) :
    (p.armTimerFd clock ok).connections = p.connections := by
  rw [armTimerFd]
  split_ifs <;> rfl

@[simp] lemma Runtime.armTimerFd_timerQueue (clock : ℤ) (ok : Bool) (p : Runtime) :
    (p.armTimerFd clock ok).timerQueue = p.timerQueue := by
  rw [armTimerFd]
  split_ifs <;> rfl

@[simp] lemma Runtime.armTimerFd_closed (clock : ℤ) (ok : Bool) (p : Runtime) :
    (p.armTimerFd clock ok).closed = p.closed := by
  rw [armTimerFd]
  split_ifs <;> rfl

/-- The event a step handles. -/
def LoopStep.event? : LoopStep → Option Readiness
  | .ready event => some event
  | .tick _ => none

/-- The steps of an iteration. -/
def Iteration.steps : Iteration → List LoopStep
  | .interrupted _ => []
  | .batch steps _ _ => steps

/-- The events that arrive in some iterations and some steps after them. -/
def arrivals (iterations : List Iteration) (steps : List LoopStep) : List Readiness :=
  (iterations.flatMap Iteration.steps ++ steps).filterMap LoopStep.event?

/-- A run of the loop up to some moment: the events handled so far, whether the loop is stopping,
and the runtime.  Each event finds a past and a state in which `allowed` lets it be handled.  How
the events are split into batches does not matter here, so the timer may be armed at any time. -/
inductive Run (io : ℕ → SocketIo) (config : ProxyConfig)
    (allowed : List Readiness → Readiness → Runtime → Prop) :
    List Readiness → Bool → Runtime → Prop
  | start : Run io config allowed [] false { config }
  | ready {past : List Readiness} {p : Runtime} (event : Readiness) (stopping : Bool) (p' : Runtime)
      (before : Run io config allowed past false p) (allows : allowed past event p)
      (handled : p.dispatch io event = .ok (stopping, p')) :
      Run io config allowed (past ++ [event]) stopping p'
  | tick {past : List Readiness} {stopping : Bool} {p : Runtime} (clock : ℤ)
      (before : Run io config allowed past stopping p) :
      Run io config allowed past stopping { p with timerFd := p.timerFd.tick clock }
  | arm {past : List Readiness} {stopping : Bool} {p : Runtime} (clock : ℤ) (ok : Bool)
      (before : Run io config allowed past stopping p) :
      Run io config allowed past stopping (p.armTimerFd clock ok)

section Run

variable {io : ℕ → SocketIo} {config : ProxyConfig} {p : Runtime}
  {allowed : List Readiness → Readiness → Runtime → Prop} {past : List Readiness} {stopping : Bool}

/-- A handled event is a sequence of acts. -/
lemma dispatch_eq_acts {R : ℤ → Prop} {event : Readiness} {p' : Runtime} (hs : p.Sound)
    (hR : ∀ now ∈ event.readings, R now) (hrun : p.dispatch io event = .ok (stopping, p')) :
    Acts io R p p' := by
  obtain ⟨stopping', p'', hrun', hacts⟩ := dispatch_acts io hs event hR
  obtain ⟨-, rfl⟩ := Prod.mk.inj (Except.ok.inj (hrun'.symm.trans hrun))
  exact hacts

lemma Run.sound (h : Run io config allowed past stopping p) (hconfig : config.validate = .ok ()) :
    p.Sound := by
  induction h with
  | start => exact ⟨hconfig, fun id c hlive => by cases hlive⟩
  | ready event stopping p' before allows handled ih =>
      exact (dispatch_eq_acts (R := fun _ => True) ih (fun _ _ => trivial) handled).sound ih
  | tick clock before ih => exact ⟨ih.config, ih.session⟩
  | arm clock ok before ih =>
      refine ⟨by simpa using ih.config, fun id c hlive => ?_⟩
      rw [Runtime.armTimerFd_config]
      exact ih.session id c (by simpa [Runtime.Live] using hlive)

/-- A run that follows a list of events has handled the first of them. -/
lemma Run.isPrefix {all : List Readiness}
    (h : Run io config (fun past event _ => past ++ [event] <+: all) past stopping p) :
    past <+: all := by
  induction h with
  | start => exact List.nil_prefix
  | ready event stopping p' before allows handled ih => exact allows
  | tick clock before ih => exact ih
  | arm clock ok before ih => exact ih

section Functions

variable {all : List Readiness} {permits : List Readiness → Readiness → Prop}

/-- The steps of a batch; the induction is on the steps that are left, with `rest` for the events
after them.  Once the loop is stopping, no more events are handled. -/
lemma runSteps_run (hconfig : config.validate = .ok ())
    (hall : ∀ past event, past ++ [event] <+: all → permits past event) (rest : List Readiness) :
    ∀ (steps : List LoopStep) (past : List Readiness) (stopping : Bool) (p : Runtime),
      Run io config (fun past event _ => permits past event) past stopping p →
      (stopping = false → past ++ (steps.filterMap LoopStep.event? ++ rest) = all) →
      ∃ past' stopping' p', Runtime.runSteps io steps (stopping, p) = .ok (stopping', p') ∧
        Run io config (fun past event _ => permits past event) past' stopping' p' ∧
        (stopping' = false → past' ++ rest = all)
  | [], past, stopping, p, hrun, hrest => ⟨past, stopping, p, rfl, hrun, hrest⟩
  | .tick clock :: steps, past, stopping, p, hrun, hrest =>
      runSteps_run hconfig hall rest steps past stopping _ (.tick clock hrun) hrest
  | .ready event :: steps, past, true, p, hrun, hrest =>
      runSteps_run hconfig hall rest steps past true p hrun (by simp)
  | .ready event :: steps, past, false, p, hrun, hrest => by
      obtain ⟨stopping', p', hdispatch, -⟩ := dispatch_acts (R := fun _ => True) io
        (hrun.sound hconfig) event (fun _ _ => trivial)
      have hsplit : past ++ [event] ++ (steps.filterMap LoopStep.event? ++ rest) = all := by
        rw [← hrest rfl, List.append_assoc]
        rfl
      have hrun' : Run io config (fun past event _ => permits past event) (past ++ [event])
          stopping' p' :=
        .ready event stopping' p' hrun (hall past event ⟨_, hsplit⟩) hdispatch
      simp only [Runtime.runSteps, Runtime.runStep, Bool.false_eq_true, if_false, hdispatch]
      exact runSteps_run hconfig hall rest steps _ stopping' p' hrun' fun _ => hsplit

lemma runIteration_run (hconfig : config.validate = .ok ())
    (hall : ∀ past event, past ++ [event] <+: all → permits past event) (rest : List Readiness)
    (iteration : Iteration)
    (hrun : Run io config (fun past event _ => permits past event) past false p)
    (hrest : past ++ (iteration.steps.filterMap LoopStep.event? ++ rest) = all) :
    ∃ past' stopping' p', Runtime.runIteration io iteration p = .ok (stopping', p') ∧
      Run io config (fun past event _ => permits past event) past' stopping' p' ∧
      (stopping' = false → past' ++ rest = all) := by
  cases iteration with
  | interrupted clock => exact ⟨past, false, _, rfl, .tick clock hrun, fun _ => hrest⟩
  | batch steps clock settimeOk =>
      obtain ⟨past', stopping', p', hsteps, hrun', hrest'⟩ :=
        runSteps_run hconfig hall rest steps past false p hrun fun _ => hrest
      exact ⟨past', stopping', p'.armTimerFd clock settimeOk,
        by simp only [Runtime.runIteration, hsteps, Except.map], .arm clock settimeOk hrun', hrest'⟩

lemma runLoop_run (hconfig : config.validate = .ok ())
    (hall : ∀ past event, past ++ [event] <+: all → permits past event) (rest : List Readiness) :
    ∀ (iterations : List Iteration) (past : List Readiness) (stopping : Bool) (p : Runtime),
      Run io config (fun past event _ => permits past event) past stopping p →
      (stopping = false → past ++ (arrivals iterations [] ++ rest) = all) →
      ∃ past' stopping' p', Runtime.runLoop io iterations (stopping, p) = .ok (stopping', p') ∧
        Run io config (fun past event _ => permits past event) past' stopping' p' ∧
        (stopping' = false → past' ++ rest = all)
  | [], past, stopping, p, hrun, hrest => ⟨past, stopping, p, rfl, hrun, hrest⟩
  | iteration :: iterations, past, true, p, hrun, hrest =>
      ⟨past, true, p, rfl, hrun, by simp⟩
  | iteration :: iterations, past, false, p, hrun, hrest => by
      have hsplit : arrivals (iteration :: iterations) [] ++ rest =
          iteration.steps.filterMap LoopStep.event? ++ (arrivals iterations [] ++ rest) := by
        simp [arrivals]
      obtain ⟨past', stopping', p', hiteration, hrun', hrest'⟩ := runIteration_run hconfig hall
        (arrivals iterations [] ++ rest) iteration hrun (hsplit ▸ hrest rfl)
      simp only [Runtime.runLoop, Bool.false_eq_true, if_false, hiteration]
      exact runLoop_run hconfig hall rest iterations past' stopping' p' hrun' hrest'

/-- **Every run goes on for as long as events arrive**, and is a run in which every event that is
handled comes after those that arrived before it. -/
theorem runTo_run (io : ℕ → SocketIo) (hconfig : config.validate = .ok ())
    (iterations : List Iteration) (steps : List LoopStep)
    (hall : ∀ past event, past ++ [event] <+: arrivals iterations steps → permits past event) :
    ∃ past stopping p, Runtime.runTo io config iterations steps = .ok (stopping, p) ∧
      Run io config (fun past event _ => permits past event) past stopping p := by
  have hsplit : arrivals iterations steps =
      arrivals iterations [] ++ steps.filterMap LoopStep.event? := by
    simp [arrivals]
  obtain ⟨past, stopping, p, hloop, hrun, hrest⟩ := runLoop_run hconfig hall
    (steps.filterMap LoopStep.event?) iterations [] false { config } .start fun _ => hsplit.symm
  obtain ⟨past', stopping', p', hsteps, hrun', -⟩ := runSteps_run hconfig hall [] steps past
    stopping p hrun (by simpa using hrest)
  exact ⟨past', stopping', p',
    by simp only [Runtime.runTo, hloop, bind, Except.bind, hsteps], hrun'⟩

end Functions

end Run

/-- `P` is kept by everything that happens in a run whose clock readings satisfy `R`. -/
structure LoopInvariant (io : ℕ → SocketIo) (R : ℤ → Prop) (P : Runtime → Prop) : Prop where
  act : ∀ now p p', R now → p.Sound → P p → Act io now p p' → P p'
  tick : ∀ clock p, P p → P { p with timerFd := p.timerFd.tick clock }
  arm : ∀ clock ok p, P p → P (p.armTimerFd clock ok)

namespace LoopInvariant

variable {io : ℕ → SocketIo} {R : ℤ → Prop} {P : Runtime → Prop} (h : LoopInvariant io R P)
  {config : ProxyConfig} {p p' : Runtime}

include h

lemma acts (hacts : Acts io R p p') (hs : p.Sound) (hp : P p) : P p' := by
  induction hacts with
  | refl => exact hp
  | tail hbefore hlast ih =>
      obtain ⟨now, hR, hact⟩ := hlast
      exact h.act now _ _ hR (Acts.sound hbefore hs) ih hact

/-- What holds initially and is kept by everything that happens holds at each moment of a run. -/
lemma run {allowed : List Readiness → Readiness → Runtime → Prop} {past : List Readiness}
    {stopping : Bool} (hrun : Run io config allowed past stopping p)
    (hconfig : config.validate = .ok ()) (hinit : P { config })
    (hR : ∀ past event p, allowed past event p → ∀ now ∈ event.readings, R now) : P p := by
  induction hrun with
  | start => exact hinit
  | ready event stopping p' before allows handled ih =>
      have hs := before.sound hconfig
      exact h.acts (dispatch_eq_acts hs (hR _ event _ allows) handled) hs ih
  | tick clock before ih => exact h.tick clock _ ih
  | arm clock ok before ih => exact h.arm clock ok _ ih

/-- The same for the loop as it runs. -/
theorem runTo (hconfig : config.validate = .ok ()) (hinit : P { config })
    (iterations : List Iteration) (steps : List LoopStep)
    (hR : ∀ iteration ∈ iterations, ∀ now ∈ iteration.readings, R now)
    (hR' : ∀ step ∈ steps, ∀ now ∈ step.readings, R now) :
    ∃ stopping p, Runtime.runTo io config iterations steps = .ok (stopping, p) ∧ p.Sound ∧ P p := by
  have hall : ∀ past event, past ++ [event] <+: arrivals iterations steps →
      ∀ now ∈ event.readings, R now := by
    intro past event hfirst now hnow
    obtain ⟨step, hstep, hevent⟩ := List.mem_filterMap.mp
      (hfirst.subset (List.mem_append_right past (List.mem_singleton_self event)))
    obtain rfl : step = .ready event := by
      cases step with
      | ready event' => rw [Option.some.inj hevent]
      | tick clock => cases hevent
    rcases List.mem_append.mp hstep with hstep | hstep
    · obtain ⟨iteration, hiteration, hmem⟩ := List.mem_flatMap.mp hstep
      cases iteration with
      | interrupted clock => cases hmem
      | batch batch clock ok =>
          exact hR _ hiteration now (List.mem_flatMap.mpr ⟨_, hmem, hnow⟩)
    · exact hR' _ hstep now hnow
  obtain ⟨past, stopping, p, hto, hrun⟩ := runTo_run io hconfig iterations steps hall
  exact ⟨stopping, p, hto, hrun.sound hconfig,
    h.run hrun hconfig hinit fun _ _ _ hallowed => hallowed⟩

end LoopInvariant

lemma Runtime.runTo_nil (io : ℕ → SocketIo) (config : ProxyConfig) (iterations : List Iteration) :
    Runtime.runTo io config iterations [] = Runtime.runLoop io iterations (false, { config }) := by
  unfold Runtime.runTo
  cases Runtime.runLoop io iterations (false, { config }) <;> rfl

end NetFault
