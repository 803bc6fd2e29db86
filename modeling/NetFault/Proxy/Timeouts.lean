import NetFault.Proxy.ConnectionTable

/-!
# Idle and connect timeouts are neither missed nor early

A connection has one idle entry from its accept on.  Activity does not touch the entry; it moves the
time the entry is measured against, and a due entry that turns out early is put off to that time.
So the entry never lies after the idle deadline, as long as the clock does not run backwards, and
once no entry is due, no deadline has passed.  The connect entry stays where the accept put it,
for as long as the connection connects.
-/

namespace NetFault

/-- The clock readings made while some events are handled. -/
def readings (events : List Readiness) : List ℤ := events.flatMap Readiness.readings

/-- The entry is the idle timeout of the connection. -/
def TimerEvent.Idles (id : ℕ) (e : TimerEvent) : Prop :=
  e.connectionId = id ∧ e.kind = .idleTimeout

instance (id : ℕ) (e : TimerEvent) : Decidable (e.Idles id) :=
  inferInstanceAs (Decidable (_ ∧ _))

/-- The timeouts of a connection are in the queue, and where they belong. -/
structure Connection.Timed (config : ProxyConfig) (id : ℕ) (heap : List TimerEvent)
    (c : Connection) : Prop where
  idle : 0 < config.idleTimeout → heap.countP (fun e => decide (e.Idles id)) = 1
  idleDeadline : ∀ e ∈ heap, e.Idles id →
    e.deadline ≤ c.session.relay.lastActivity + config.idleTimeoutNs
  connect : 0 < config.connectTimeout → c.session.relay.upstreamConnecting = true →
    ∃ e ∈ heap, e.connectionId = id ∧ e.kind = .connectTimeout
  connectDeadline : ∀ e ∈ heap, e.connectionId = id → e.kind = .connectTimeout →
    e.deadline = c.session.relay.acceptedAt + config.connectTimeoutNs

/-- The timeout that closed a connection, if one did, had passed. -/
structure ClosedConnection.OnTime (config : ProxyConfig) (entry : ClosedConnection) : Prop where
  idle : entry.reason = .idleTimeout →
    entry.session.relay.lastActivity + config.idleTimeoutNs ≤ entry.now
  connect : entry.reason = .connectTimeout → entry.session.relay.upstreamConnecting = true ∧
    entry.session.relay.acceptedAt + config.connectTimeoutNs ≤ entry.now

section Timed

variable {now : ℤ} {id : ℕ} {config : ProxyConfig} {c c' : Connection} {q : TimerQueue}
  {heap : List TimerEvent} {event : TimerEvent}

namespace Connection.Timed

/-- Entries of other connections, and pumps, may be scheduled. -/
lemma schedule (h : c.Timed config id q.heap) {deadline : ℤ} {id' : ℕ} {kind : TimerKind}
    (hother : id' = id → kind = .pump) : c.Timed config id (q.schedule deadline id' kind).heap := by
  have hnew : (q.entry deadline id' kind).connectionId = id →
      (q.entry deadline id' kind).kind = .pump := hother
  refine ⟨fun hon => ?_, fun e he hidles => ?_, fun hon hconn => ?_, fun e he hid hkind => ?_⟩
  · rw [TimerQueue.countP_schedule, if_neg, h.idle hon]
    intro hidles
    obtain ⟨hid, hkind⟩ := of_decide_eq_true hidles
    cases (hnew hid).symm.trans hkind
  · obtain rfl | he := TimerQueue.mem_schedule.mp he
    · cases (hnew hidles.1).symm.trans hidles.2
    · exact h.idleDeadline e he hidles
  · obtain ⟨e, he, hentry⟩ := h.connect hon hconn
    exact ⟨e, TimerQueue.mem_schedule.mpr (.inr he), hentry⟩
  · obtain rfl | he := TimerQueue.mem_schedule.mp he
    · cases (hnew hid).symm.trans hkind
    · exact h.connectDeadline e he hid hkind

/-- An entry that is no idle timeout of the connection may be popped, a connect timeout of it once
it has connected. -/
lemma pop (h : c.Timed config id (event :: heap)) (hidle : ¬event.Idles id)
    (hconn : event.connectionId = id → event.kind = .connectTimeout →
      c.session.relay.upstreamConnecting = false) : c.Timed config id heap := by
  refine ⟨fun hon => ?_, fun e he => h.idleDeadline e (List.mem_cons_of_mem _ he),
    fun hon hconnecting => ?_, fun e he => h.connectDeadline e (List.mem_cons_of_mem _ he)⟩
  · have hone := h.idle hon
    rwa [List.countP_cons_of_neg (by simpa using hidle)] at hone
  · obtain ⟨e, he, hid, hkind⟩ := h.connect hon hconnecting
    obtain rfl | he := List.mem_cons.mp he
    · rw [hconn hid hkind] at hconnecting
      cases hconnecting
    · exact ⟨e, he, hid, hkind⟩

/-- The idle timeout may be popped if it is scheduled again, for the idle deadline. -/
lemma postpone (h : c.Timed config id (event :: q.heap)) (hidle : event.Idles id) :
    c.Timed config id (q.schedule (c.session.relay.lastActivity + config.idleTimeoutNs) id
      .idleTimeout).heap := by
  refine ⟨fun hon => ?_, fun e he hidles => ?_, fun hon hconn => ?_, fun e he hid hkind => ?_⟩
  · have hone := h.idle hon
    rw [List.countP_cons_of_pos (by simpa using hidle)] at hone
    rw [TimerQueue.countP_schedule, if_pos (decide_eq_true ⟨rfl, rfl⟩), hone]
  · obtain rfl | he := TimerQueue.mem_schedule.mp he
    · exact le_rfl
    · exact h.idleDeadline e (List.mem_cons_of_mem _ he) hidles
  · obtain ⟨e, he, hid, hkind⟩ := h.connect hon hconn
    obtain rfl | he := List.mem_cons.mp he
    · cases hidle.2.symm.trans hkind
    · exact ⟨e, TimerQueue.mem_schedule.mpr (.inr he), hid, hkind⟩
  · obtain rfl | he := TimerQueue.mem_schedule.mp he
    · cases hkind
    · exact h.connectDeadline e (List.mem_cons_of_mem _ he) hid hkind

/-- Activity moves the idle deadline away from the entry. -/
lemma ages (h : c.Timed config id heap) (hages : c.session.Ages now c'.session)
    (hlate : c.session.relay.lastActivity ≤ now) : c'.Timed config id heap := by
  refine ⟨h.idle, fun e he hidles => ?_, fun hon hconn => h.connect hon (hages.connecting hconn),
    fun e he hid hkind => ?_⟩
  · have hold := h.idleDeadline e he hidles
    rcases hages.lastActivity with heq | heq <;> omega
  · rw [hages.acceptedAt]
    exact h.connectDeadline e he hid hkind

/-- **The timeouts of a new connection** are where they belong. -/
lemma newborn {plan : FaultPlan} {connecting : Bool} (hborn : Newborn config plan connecting now c)
    (hnone : ∀ e ∈ q.heap, e.connectionId ≠ id) :
    c.Timed config id (Runtime.scheduleTimeouts id connecting now config q).heap := by
  have hzero : q.heap.countP (fun e => decide (e.Idles id)) = 0 := by
    rw [List.countP_eq_zero]
    intro e he hidles
    exact hnone e he (of_decide_eq_true hidles).1
  refine ⟨fun hon => ?_, fun e he hidles => ?_, fun hon hconn => ?_, fun e he hid hkind => ?_⟩
  · rw [Runtime.scheduleTimeouts, if_pos hon, TimerQueue.countP_schedule,
      if_pos (decide_eq_true ⟨rfl, rfl⟩)]
    split_ifs
    · rw [TimerQueue.countP_schedule, if_neg, hzero]
      intro hidles
      cases (of_decide_eq_true hidles).2
    · rw [hzero]
  · rw [hborn.fresh.lastActivity]
    obtain hold | ⟨-, ⟨hkind, -⟩ | ⟨-, hdeadline, -⟩⟩ := of_mem_scheduleTimeouts he
    · exact absurd hidles.1 (hnone e hold)
    · cases hidles.2.symm.trans hkind
    · exact hdeadline.le
  · have hconnecting : connecting = true := hborn.fresh.connecting.symm.trans hconn
    have hguard : connecting = true ∧ config.connectTimeout > 0 := ⟨hconnecting, hon⟩
    simp only [Runtime.scheduleTimeouts, if_pos hguard]
    have hmem : (q.entry (now + config.connectTimeoutNs) id .connectTimeout) ∈
        (q.schedule (now + config.connectTimeoutNs) id .connectTimeout).heap :=
      TimerQueue.mem_schedule.mpr (.inl rfl)
    split_ifs
    · exact ⟨_, TimerQueue.mem_schedule.mpr (.inr hmem), rfl, rfl⟩
    · exact ⟨_, hmem, rfl, rfl⟩
  · rw [hborn.fresh.acceptedAt]
    obtain hold | ⟨-, ⟨-, hdeadline, -⟩ | ⟨hkind', -⟩⟩ := of_mem_scheduleTimeouts he
    · exact absurd hid (hnone e hold)
    · exact hdeadline
    · cases hkind.symm.trans hkind'

/-- When nothing is due, no timeout has passed. -/
lemma on_time (h : c.Timed config id heap) (hdue : ∀ e ∈ heap, now < e.deadline) :
    (0 < config.idleTimeout → now < c.session.relay.lastActivity + config.idleTimeoutNs) ∧
      (0 < config.connectTimeout → c.session.relay.upstreamConnecting = true →
        now < c.session.relay.acceptedAt + config.connectTimeoutNs) := by
  constructor
  · intro hon
    have hpos : 0 < heap.countP fun e => decide (e.Idles id) := by
      rw [h.idle hon]
      exact Nat.one_pos
    obtain ⟨e, he, hidles⟩ := List.countP_pos_iff.mp hpos
    exact (hdue e he).trans_le (h.idleDeadline e he (of_decide_eq_true hidles))
  · intro hon hconn
    obtain ⟨e, he, hid, hkind⟩ := h.connect hon hconn
    exact (hdue e he).trans_eq (h.connectDeadline e he hid hkind)

end Connection.Timed

end Timed

/-! ## Every act keeps the timeouts -/

/-- What is known of the timeouts at every moment; `seen` says which clock readings were made. -/
structure Runtime.Timely (seen : ℤ → Prop) (p : Runtime) : Prop where
  timed : ∀ id c, p.Live id c → c.Timed p.config id p.timerQueue.heap
  active : ∀ id c, p.Live id c → seen c.session.relay.lastActivity
  closed : ∀ entry ∈ p.closed, entry.OnTime p.config

section Acts

variable {io : ℕ → SocketIo} {now : ℤ} {p p' mid : Runtime} {event : TimerEvent}
  {seen seen' : ℤ → Prop} {config : ProxyConfig}

lemma Runtime.Timely.mono (h : p.Timely seen) (hseen : ∀ t, seen t → seen' t) : p.Timely seen' :=
  ⟨h.timed, fun id c hlive => hseen _ (h.active id c hlive), h.closed⟩

lemma ClosedConnection.onTime_of_reason {entry : ClosedConnection}
    (hidle : entry.reason ≠ .idleTimeout) (hconnect : entry.reason ≠ .connectTimeout) :
    entry.OnTime config :=
  ⟨fun h => absurd h hidle, fun h => absurd h hconnect⟩

/-- One more connection was closed. -/
lemma ClosedConnection.onTime_snoc {closed : List ClosedConnection} {entry : ClosedConnection}
    (h : ∀ entry ∈ closed, entry.OnTime config) (hentry : entry.OnTime config) :
    ∀ e ∈ closed ++ [entry], e.OnTime config := by
  intro e he
  rcases List.mem_append.mp he with he | he
  · exact h e he
  · rwa [List.mem_singleton.mp he]

/-- Work closes for other reasons. -/
lemma Work.onTime {io : SocketIo} {id : ℕ} {c : Connection} (h : Work io now id c p p')
    (hp : ∀ entry ∈ p.closed, entry.OnTime config) : ∀ entry ∈ p'.closed, entry.OnTime config := by
  rcases h.closed_eq with heq | ⟨entry, heq, hreason⟩
  · rwa [heq]
  · rw [heq]
    have hother : ∀ reason : CloseReason, reason.isAbrupt = false → reason ≠ .orderlyShutdown →
        entry.reason ≠ reason := by
      rintro _ hquiet hdisorderly rfl
      rcases hreason with habrupt | ⟨horderly, -⟩
      · cases hquiet.symm.trans habrupt
      · exact hdisorderly horderly
    exact ClosedConnection.onTime_snoc hp (ClosedConnection.onTime_of_reason
      (hother .idleTimeout rfl (by simp)) (hother .connectTimeout rfl (by simp)))

/-- **Work keeps the timeouts**: it schedules nothing but a pump, and records no activity but that
of `now`. -/
lemma Work.timely {io : SocketIo} {id : ℕ} {c : Connection} (h : Work io now id c p p')
    (hp : p.Timely seen) (hs : c.session.Sound p.config)
    (htimed : c.Timed p.config id p.timerQueue.heap) (hactive : seen c.session.relay.lastActivity)
    (hnow : seen now) (hlate : c.session.relay.lastActivity ≤ now) : p'.Timely seen := by
  obtain ⟨hconfig, -, -, hothers⟩ := h.frame
  have hheap : ∀ id' (c' : Connection), c'.Timed p.config id' p.timerQueue.heap →
      c'.Timed p.config id' p'.timerQueue.heap := by
    intro id' c' hc'
    rcases h.timerQueue hs with heq | ⟨wake, -, heq⟩
    · rwa [heq]
    · rw [heq]
      exact hc'.schedule fun _ => rfl
  refine ⟨fun id' c' hlive => ?_, fun id' c' hlive => ?_, ?_⟩
  · rw [hconfig]
    by_cases heq : id' = id
    · subst heq
      exact hheap id' c' (htimed.ages (h.live_self hlive).moves.ages hlate)
    · exact hheap id' c' (hp.timed id' c' ((hothers id' c' heq).mp hlive))
  · by_cases heq : id' = id
    · subst heq
      rcases (h.live_self hlive).moves.ages.lastActivity with hsame | hsame
      · rwa [hsame]
      · rwa [hsame]
    · exact hp.active id' c' ((hothers id' c' heq).mp hlive)
  · rw [hconfig]
    exact h.onTime hp.closed

lemma Popped.heap (h : Popped now event p mid) :
    p.timerQueue.heap = event :: mid.timerQueue.heap :=
  (TimerQueue.popDue_eq_some h.popped).1

lemma Popped.closed (h : Popped now event p mid) : mid.closed = p.closed := by rw [h.rest]

/-- The timeouts of a connection whose entry was not popped. -/
lemma Popped.timed (h : Popped now event p mid) (hp : p.Timely seen) {id : ℕ} {c : Connection}
    (hlive : p.Live id c) (hidle : ¬event.Idles id)
    (hconn : event.connectionId = id → event.kind = .connectTimeout →
      c.session.relay.upstreamConnecting = false) :
    c.Timed mid.config id mid.timerQueue.heap := by
  have htimed := hp.timed id c hlive
  rw [h.heap] at htimed
  rw [h.config]
  exact htimed.pop hidle hconn

/-- An entry may be popped that is no idle timeout of a live connection, and no connect timeout of
one that connects. -/
lemma Popped.timely (h : Popped now event p mid) (hp : p.Timely seen)
    (hkeeps : ∀ c, p.Live event.connectionId c → event.kind ≠ .idleTimeout ∧
      (event.kind = .connectTimeout → c.session.relay.upstreamConnecting = false)) :
    mid.Timely seen := by
  refine ⟨fun id c hlive => ?_, fun id c hlive => hp.active id c (h.live.mp hlive), ?_⟩
  · refine h.timed hp (h.live.mp hlive) ?_ ?_
    · rintro ⟨rfl, hkind⟩
      exact (hkeeps c (h.live.mp hlive)).1 hkind
    · rintro rfl
      exact (hkeeps c (h.live.mp hlive)).2
  · rw [h.closed, h.config]
    exact hp.closed

/-- A new connection brings its timeouts along. -/
lemma Runtime.Timely.accepted (hp : p.Timely seen) (htable : p.Consistent) {connecting : Bool}
    {plan : FaultPlan} {c : Connection} (hborn : Newborn p.config plan connecting now c)
    (hnow : seen now) : (p.accepted connecting now c).Timely seen := by
  refine ⟨fun id' c' hlive => ?_, fun id' c' hlive => ?_, hp.closed⟩
  · obtain ⟨rfl, rfl⟩ | ⟨hne, hold⟩ := Runtime.live_accepted.mp hlive
    · exact .newborn hborn htable.no_entry
    · exact scheduleTimeouts_rule (fun q => c'.Timed p.config id' q.heap)
        (fun _ _ _ _ hq => hq.schedule fun heq => absurd heq.symm hne) (hp.timed id' c' hold)
  · obtain ⟨rfl, rfl⟩ | ⟨-, hold⟩ := Runtime.live_accepted.mp hlive
    · rwa [hborn.fresh.lastActivity]
    · exact hp.active id' c' hold

/-- A connection closed by a timeout is closed on time. -/
lemma Popped.timely_remove (h : Popped now event p mid) (hp : p.Timely seen) {c : Connection}
    {reason : CloseReason} (hlive : p.Live event.connectionId c)
    (hdue : event.kind = .connectTimeout ∧ reason = .connectTimeout ∧
        c.session.relay.upstreamConnecting = true ∨
      event.kind = .idleTimeout ∧ reason = .idleTimeout ∧
        c.session.relay.lastActivity + mid.config.idleTimeoutNs ≤ now) :
    (mid.remove event.connectionId c .timedOut reason now).Timely seen := by
  refine ⟨fun id' c' hlive' => ?_, fun id' c' hlive' => ?_, ?_⟩
  · obtain ⟨hne, hother⟩ := Runtime.live_remove.mp hlive'
    rw [Runtime.remove_config, Runtime.remove_timerQueue]
    exact h.timed hp (h.live.mp hother) (fun hidles => hne hidles.1.symm)
      fun hid => absurd hid.symm hne
  · exact hp.active id' c' (h.live.mp (Runtime.live_remove.mp hlive').2)
  · rw [Runtime.remove_closed, Runtime.remove_config, h.closed, h.config]
    refine ClosedConnection.onTime_snoc hp.closed ?_
    rcases hdue with ⟨hkind, rfl, hconn⟩ | ⟨-, rfl, hidle⟩
    · refine ⟨by simp, fun _ => ⟨hconn, ?_⟩⟩
      have hmem : event ∈ p.timerQueue.heap := by
        rw [h.heap]
        exact List.mem_cons_self ..
      have hdeadline := (hp.timed _ c hlive).connectDeadline event hmem rfl hkind
      exact hdeadline.symm.trans_le (TimerQueue.popDue_eq_some h.popped).2
    · rw [h.config] at hidle
      exact ⟨fun _ => hidle, by simp⟩

/-- An idle timeout that comes too early is put off to the time it is due. -/
lemma Popped.timely_postpone (h : Popped now event p mid) (hp : p.Timely seen) {c : Connection}
    (hlive : p.Live event.connectionId c) (hkind : event.kind = .idleTimeout) :
    ({ mid with
      timerQueue := mid.timerQueue.schedule
        (c.session.relay.lastActivity + mid.config.idleTimeoutNs) event.connectionId
        .idleTimeout } : Runtime).Timely seen := by
  refine ⟨fun id' c' hlive' => ?_, fun id' c' hlive' => hp.active id' c' (h.live.mp hlive'), ?_⟩
  · have hold := h.live.mp hlive'
    show c'.Timed mid.config id' _
    by_cases heq : event.connectionId = id'
    · subst heq
      obtain rfl : c = c' := Option.some.inj (hlive.symm.trans hold)
      have htimed := hp.timed _ c hlive
      rw [h.heap] at htimed
      rw [h.config]
      exact htimed.postpone ⟨rfl, hkind⟩
    · exact (h.timed hp hold (fun hidles => heq hidles.1)
        fun hid => absurd hid heq).schedule fun hid => absurd hid heq
  · show ∀ entry ∈ mid.closed, entry.OnTime mid.config
    rw [h.closed, h.config]
    exact hp.closed

/-- **Every act keeps the timeouts**, when the clock has not gone back behind an activity. -/
lemma Act.timely (h : Act io now p p') (hs : p.Sound) (htable : p.Consistent) (hp : p.Timely seen)
    (hnow : seen now) (hlate : ∀ t, seen t → t ≤ now) : p'.Timely seen := by
  cases h with
  | accept connecting c newborn token room => exact hp.accepted htable newborn hnow
  | serve id c _ live work =>
      have hactive := hp.active id c live
      exact work.timely hp (hs.session id c live) (hp.timed id c live) hactive hnow
        (hlate _ hactive)
  | fire => exact ⟨hp.timed, hp.active, hp.closed⟩
  | skip event _ popped idle =>
      refine popped.timely hp fun c hlive => ⟨?_, fun _ => (idle c hlive).2⟩
      rw [(idle c hlive).1]
      exact TimerKind.noConfusion
  | wake event c mid _ popped live kind work =>
      have hmid : mid.Timely seen := by
        refine popped.timely hp fun _ _ => ⟨?_, fun hkind => ?_⟩
        · rw [kind]
          exact TimerKind.noConfusion
        · cases hkind.symm.trans kind
      have hlive : mid.Live event.connectionId c := popped.live.mpr live
      have hsame : c.session.Ages now (c.resetDueWake now).session := by
        rw [Connection.resetDueWake_session]
        exact .refl _
      have hactive := hp.active _ c live
      refine work.timely hmid ?_ ((hmid.timed _ c hlive).ages hsame (hlate _ hactive)) ?_ hnow ?_
      · rw [popped.config]
        exact hs.resetDueWake live
      · rwa [Connection.resetDueWake_session]
      · rw [Connection.resetDueWake_session]
        exact hlate _ hactive
  | timeOut event c mid reason popped live due => exact popped.timely_remove hp live due
  | postpone event c mid popped live kind active => exact popped.timely_postpone hp live kind

end Acts

/-! ## Runs -/

section Runs

variable {io : ℕ → SocketIo} {config : ProxyConfig} {p p' : Runtime} {seen : ℤ → Prop}

/-- **Every event keeps the timeouts**, when the clock has not gone back. -/
lemma dispatch_timely {event : Readiness} {stopping : Bool} (hs : p.Sound) (htable : p.Consistent)
    (hp : p.Timely seen) (hseen : ∀ now ∈ event.readings, seen now)
    (hlate : event.readings = [event.now] → ∀ t, seen t → t ≤ event.now)
    (hrun : p.dispatch io event = .ok (stopping, p')) : p'.Timely seen := by
  have hnow : event.readings = [event.now] → seen event.now := fun hreadings =>
    hseen _ (by rw [hreadings]; exact List.mem_singleton_self _)
  refine (dispatch_rule (fun p => p.Consistent ∧ p.Timely seen) hs ⟨htable, hp⟩ ?_ ?_ ?_ ?_ hrun).2
  · intro q connecting now c _ h hnow hborn htoken hroom
    have hact : Act io now q (q.accepted connecting now c) :=
      .accept connecting c hborn htoken hroom
    exact ⟨hact.consistent h.1, h.2.accepted h.1 hborn (hseen now hnow)⟩
  · have hfire : Act io event.now p { p.drainTimerFd with lastArmedDeadline := none } := .fire
    exact ⟨hfire.consistent htable, hp.timed, hp.active, hp.closed⟩
  · exact fun q q' hq h hreadings hact _ =>
      ⟨hact.consistent h.1, hact.timely hq h.1 h.2 (hnow hreadings) (hlate hreadings)⟩
  · intro p' hreadings _ id c hlive hwork
    have hact : Act io event.now p p' := .serve id c p' hlive hwork
    exact ⟨hact.consistent htable, hact.timely hs htable hp (hnow hreadings) (hlate hreadings)⟩

/-- In a run whose clock does not go back the timeouts are in order at every moment; the induction
is on the run. -/
lemma Run.timely {all past : List Readiness} {stopping : Bool} (hconfig : config.validate = .ok ())
    (hclock : (readings all).Pairwise (· ≤ ·))
    (hrun : Run io config (fun past event _ => past ++ [event] <+: all) past stopping p) :
    p.Timely (· ∈ readings past) := by
  induction hrun with
  | start =>
      refine ⟨fun id c hlive => ?_, fun id c hlive => ?_, fun entry hentry => ?_⟩
      · cases hlive
      · cases hlive
      · cases hentry
  | @ready past p event stopping p' before allows handled ih =>
      have htable := (Runtime.Consistent.invariant io config).run before hconfig
        ⟨Runtime.consistent_init config, rfl⟩ (fun _ _ _ _ _ _ => trivial)
      have hsplit : readings (past ++ [event]) = readings past ++ event.readings := by
        simp [readings]
      have hsorted : (readings (past ++ [event])).Pairwise (· ≤ ·) := by
        obtain ⟨rest, rfl⟩ := allows
        rw [readings, List.flatMap_append] at hclock
        exact (List.pairwise_append.mp hclock).1
      rw [hsplit] at hsorted ⊢
      refine dispatch_timely (before.sound hconfig) htable.1
        (ih.mono fun t ht => List.mem_append_left _ ht)
        (fun now hnow => List.mem_append_right _ hnow) (fun hreadings t ht => ?_) handled
      rw [hreadings] at hsorted ht
      rcases List.mem_append.mp ht with ht | ht
      · exact (List.pairwise_append.mp hsorted).2.2 t ht _ (List.mem_singleton_self _)
      · exact (List.mem_singleton.mp ht).le
  | tick clock before ih => exact ⟨ih.timed, ih.active, ih.closed⟩
  | arm clock ok before ih =>
      refine ⟨fun id c hlive => ?_, fun id c hlive => ?_, ?_⟩
      · rw [Runtime.armTimerFd_config, Runtime.armTimerFd_timerQueue]
        exact ih.timed id c (by simpa [Runtime.Live] using hlive)
      · exact ih.active id c (by simpa [Runtime.Live] using hlive)
      · rw [Runtime.armTimerFd_config, Runtime.armTimerFd_closed]
        exact ih.closed

/-- **`process_due_timers` leaves no timeout that has passed.** -/
lemma processDueTimers_on_time (io : ℕ → SocketIo) {now : ℤ} (hs : p.Sound) (htable : p.Consistent)
    (hp : p.Timely seen) (hnow : seen now) (hlate : ∀ t, seen t → t ≤ now) :
    ∃ processed p', p.drainTimerFd.processDueTimers io now = .ok (processed, p') ∧
      p'.Timely seen ∧ p'.config = p.config ∧ ∀ e ∈ p'.timerQueue.heap, now < e.deadline := by
  have hfire : Act io now p { p.drainTimerFd with lastArmedDeadline := none } := .fire
  obtain ⟨processed, p', hprocess, ⟨-, hp', hconfig⟩, hdue⟩ :=
    processDueTimers_spec (p := p.drainTimerFd) io now
      (P := fun q => q.Consistent ∧ q.Timely seen ∧ q.config = p.config)
      (fun q q' hq h hact _ => ⟨hact.consistent h.1, hact.timely hq h.1 h.2.1 hnow hlate,
        hact.config_eq.trans h.2.2⟩)
      ⟨hs.config, hs.session⟩ ⟨hfire.consistent htable, ⟨hp.timed, hp.active, hp.closed⟩, rfl⟩
  exact ⟨processed, p', hprocess, hp', hconfig, hdue⟩

end Runs

/-- **Timeouts are neither missed nor early.**  In every run whose clock readings do not decrease,
at every moment:
* with an idle timeout, the queue holds one idle entry of each live connection, and it is for the
  idle deadline or earlier;
* with a connect timeout, the queue holds an entry of each connection that connects, for its
  connect deadline;
* a call of `process_due_timers`, at a time not before the readings so far, returns, and leaves no
  live connection whose idle deadline has passed and none that connects after its connect deadline;
* a connection is closed for its idle timeout at its idle deadline or later, and for its connect
  timeout while it connects, at its connect deadline or later, during the run and at its end. -/
theorem timeouts_neither_missed_nor_early (io : ℕ → SocketIo) (config : ProxyConfig)
    (hconfig : config.validate = .ok ()) (iterations : List Iteration) (steps : List LoopStep)
    (hclock : (readings (arrivals iterations steps)).Pairwise (· ≤ ·)) :
    ∃ stopping p, Runtime.runTo io config iterations steps = .ok (stopping, p) ∧
      (0 < config.idleTimeout → ∀ id c, p.connections.lookup id = some c →
        p.timerQueue.heap.countP (fun e => e.connectionId = id ∧ e.kind = .idleTimeout) = 1 ∧
        ∀ e ∈ p.timerQueue.heap, e.connectionId = id → e.kind = .idleTimeout →
          e.deadline ≤ c.session.relay.lastActivity + config.idleTimeoutNs) ∧
      (0 < config.connectTimeout → ∀ id c, p.connections.lookup id = some c →
        c.session.relay.upstreamConnecting = true →
        ∃ e ∈ p.timerQueue.heap, e.connectionId = id ∧ e.kind = .connectTimeout ∧
          e.deadline = c.session.relay.acceptedAt + config.connectTimeoutNs) ∧
      (∀ now, (∀ t ∈ readings (arrivals iterations steps), t ≤ now) →
        ∃ processed p', p.drainTimerFd.processDueTimers io now = .ok (processed, p') ∧
          ∀ id c, p'.connections.lookup id = some c →
            (0 < config.idleTimeout →
              now < c.session.relay.lastActivity + config.idleTimeoutNs) ∧
            (0 < config.connectTimeout → c.session.relay.upstreamConnecting = true →
              now < c.session.relay.acceptedAt + config.connectTimeoutNs)) ∧
      ∀ final : Runtime, final = p ∨ (∃ now, final = p.shutDown now) → ∀ entry ∈ final.closed,
        (entry.reason = .idleTimeout →
          entry.session.relay.lastActivity + config.idleTimeoutNs ≤ entry.now) ∧
        (entry.reason = .connectTimeout → entry.session.relay.upstreamConnecting = true ∧
          entry.session.relay.acceptedAt + config.connectTimeoutNs ≤ entry.now) := by
  obtain ⟨past, stopping, p, hto, hrun⟩ :=
    runTo_run io hconfig iterations steps fun _ _ hfirst => hfirst
  have hp := hrun.timely hconfig hclock
  obtain ⟨htable, hsame⟩ := (Runtime.Consistent.invariant io config).run hrun hconfig
    ⟨Runtime.consistent_init config, rfl⟩ (fun _ _ _ _ _ _ => trivial)
  have htimed : ∀ id c, p.connections.lookup id = some c →
      c.Timed config id p.timerQueue.heap := hsame ▸ hp.timed
  refine ⟨stopping, p, hto, fun hon id c hlive => ?_, fun hon id c hlive hconn => ?_,
    fun now hlate => ?_, fun final hfinal entry hentry => ?_⟩
  · exact ⟨(htimed id c hlive).idle hon,
      fun e he hid hkind => (htimed id c hlive).idleDeadline e he ⟨hid, hkind⟩⟩
  · obtain ⟨e, he, hid, hkind⟩ := (htimed id c hlive).connect hon hconn
    exact ⟨e, he, hid, hkind, (htimed id c hlive).connectDeadline e he hid hkind⟩
  · have hpast : ∀ t ∈ readings past, t ≤ now := fun t ht =>
      hlate t (by
        obtain ⟨rest, heq⟩ := hrun.isPrefix
        rw [← heq, readings, List.flatMap_append]
        exact List.mem_append_left _ ht)
    have hseen : p.Timely fun t => t ∈ readings past ∨ t = now := hp.mono fun _ => .inl
    obtain ⟨processed, p', hprocess, hp', hconfig', hdue⟩ := processDueTimers_on_time io
      (hrun.sound hconfig) htable hseen (.inr rfl) (by
        rintro t (ht | rfl)
        · exact hpast t ht
        · exact le_rfl)
    refine ⟨processed, p', hprocess, fun id c hlive => ?_⟩
    have hc := hp'.timed id c hlive
    rw [hconfig', hsame] at hc
    exact hc.on_time hdue
  · have hontime : ∀ entry ∈ p.closed, entry.OnTime config := hsame ▸ hp.closed
    have hentry' : entry.OnTime config := by
      rcases hfinal with rfl | ⟨now, rfl⟩
      · exact hontime entry hentry
      · have hall : entry ∈ (p.closeAll p.connections.keys now).closed := hentry
        rcases Runtime.of_mem_closed_closeAll hall with hold | hshut
        · exact hontime entry hold
        · exact ClosedConnection.onTime_of_reason (by simp [hshut]) (by simp [hshut])
    exact ⟨hentry'.idle, hentry'.connect⟩

/-- A client that was active after two milliseconds has one idle entry, of its accept; when that is
due, the idle timeout of five milliseconds has not passed. -/
theorem timeouts_neither_missed_nor_early_active :
    ∃ stopping p c processed p',
      Runtime.runTo (fun _ => .script fun _ => [1, 2, 3])
        { bufferBytesPerDirection := 1024, lowWaterBytes := 512, highWaterBytes := 1024
          connectTimeout := 3, idleTimeout := 5 }
        [.batch [.ready { token := 1, accepts := [.accepted (.opened true 10)] }] 11 true]
        [.ready { token := 5, events := { epollout := true }, now := 1000000 },
          .ready { token := 4, events := { epollin := true }, now := 2000000 }] =
        .ok (stopping, p) ∧
      p.connections.lookup 1 = some c ∧ c.session.relay.lastActivity = 2000000 ∧
      p.timerQueue.heap.countP (fun e => e.connectionId = 1 ∧ e.kind = .idleTimeout) = 1 ∧
      p.drainTimerFd.processDueTimers (fun _ => .script fun _ => [1, 2, 3]) 5000010 =
        .ok (processed, p') ∧
      ∀ id c', p'.connections.lookup id = some c' →
        5000010 < c'.session.relay.lastActivity + 5000000 := by
  have hcheck : returns (Runtime.runTo (fun _ => .script fun _ => [1, 2, 3])
      { bufferBytesPerDirection := 1024, lowWaterBytes := 512, highWaterBytes := 1024
        connectTimeout := 3, idleTimeout := 5 }
      [.batch [.ready { token := 1, accepts := [.accepted (.opened true 10)] }] 11 true]
      [.ready { token := 5, events := { epollout := true }, now := 1000000 },
        .ready { token := 4, events := { epollin := true }, now := 2000000 }])
      (fun state => (state.2.connections.lookup 1).any fun c =>
        decide (c.session.relay.lastActivity = 2000000)) = true := by
    decide +kernel
  obtain ⟨stopping, p, hrun, hidle, -, hprocess, -⟩ := timeouts_neither_missed_nor_early
    (fun _ => .script fun _ => [1, 2, 3])
    { bufferBytesPerDirection := 1024, lowWaterBytes := 512, highWaterBytes := 1024
      connectTimeout := 3, idleTimeout := 5 } (by decide +kernel)
    [.batch [.ready { token := 1, accepts := [.accepted (.opened true 10)] }] 11 true]
    [.ready { token := 5, events := { epollout := true }, now := 1000000 },
      .ready { token := 4, events := { epollin := true }, now := 2000000 }] (by decide)
  rw [hrun] at hcheck
  simp only [returns, Option.any_eq_true, decide_eq_true_eq] at hcheck
  obtain ⟨c, hlive, hactive⟩ := hcheck
  obtain ⟨processed, p', hprocessed, hontime⟩ := hprocess 5000010 (by decide)
  exact ⟨stopping, p, c, processed, p', hrun, hlive, hactive, (hidle (by decide) 1 c hlive).1,
    hprocessed, fun id c' hlive' => (hontime id c' hlive').1 (by decide)⟩

end NetFault
