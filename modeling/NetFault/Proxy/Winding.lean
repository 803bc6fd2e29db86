import NetFault.Proxy.Hangups
import NetFault.Proxy.Timeouts
import NetFault.Proxy.Wakeups
import NetFault.Relay.Winding

/-!
# No ended stream is forgotten

Between two events every live connection is as its last pump has left it (`Connection.Rests`): what
its sockets are registered for and the wake that is scheduled are what the relay has answered then.
An event that queued bytes are waiting for therefore finds something to do, however late it comes,
and the pump it leads to takes from the load of a stream that has ended (`dispatch_served`).  No
other event adds to that load, so a stream that is served again and again comes to its end.
-/

namespace NetFault

/-! ## A connection at rest -/

/-- Bytes are queued for a destination that takes them. -/
structure Relay.Queued (r : Relay) (destination : Side) : Prop where
  writeOpen : r.writeOpen destination = true
  connected : r.upstreamConnecting = false
  size : 0 < (r.directionFrom destination.peer).queue.size

lemma Relay.queued_iff {r : Relay} {destination : Side} : r.Queued destination ↔
    r.writeOpen destination = true ∧ r.upstreamConnecting = false ∧
      (r.directionFrom destination.peer).queue.empty = false := by
  rw [ByteQueue.empty_eq_false_iff]
  exact ⟨fun h => ⟨h.writeOpen, h.connected, h.size⟩, fun h => ⟨h.1, h.2.1, h.2.2⟩⟩

/-- The connection is as its last pump has left it, at `time`: for the bytes that are queued, what
was registered and what was scheduled is what the relay has answered then. -/
structure Connection.Rests (time : ℤ) (c : Connection) : Prop where
  undrained : c.session.relay.fullyDrained = false
  tame : c.session.Tame time
  refilled : ∀ destination, c.session.relay.Queued destination →
    (c.session.relay.directionFrom destination.peer).refill time =
      c.session.relay.directionFrom destination.peer
  write : ∀ destination, c.session.relay.Queued destination →
    (c.registered destination).epollout = true →
    0 < (faultSendable (c.session.relay.directionFrom destination.peer)
      (c.session.relay.directionFrom destination.peer).queue.size time).1
  wake : ∀ destination, c.session.relay.Queued destination → ∀ wake,
    c.lastWake destination = some wake →
    (c.session.relay.nextWake destination time).1 = some wake

section Rests

variable {io : SocketIo} {t now : ℤ} {id : ℕ} {c c' : Connection} {p p' : Runtime}
  {destination : Side}

/-- Queries keep a direction that was refilled as it is. -/
lemma Refills.settled {r r' : Relay} (h : Refills now r r') {source : Side}
    (hr : (r.directionFrom source).refill now = r.directionFrom source) :
    (r'.directionFrom source).refill now = r'.directionFrom source := by
  rcases h.direction source with heq | heq
  · rw [heq, hr]
  · rw [heq, Direction.refill_refill]

/-- The question for the interest of a destination refills its direction. -/
lemma desiredInterest_settled {r : Relay} (h : r.Queued destination) :
    (((r.desiredInterest destination now).2.directionFrom destination.peer).refill now) =
      (r.desiredInterest destination now).2.directionFrom destination.peer := by
  have hempty : (r.directionFrom destination.peer).queue.empty = false := by
    simpa using h.size
  rw [desiredInterest_eq fun _ => h.connected]
  simp [h.writeOpen, hempty, Relay.setDirection, Direction.refill_refill]

lemma Refills.queued {r r' : Relay} (h : Refills now r r') (hq : r'.Queued destination) :
    r.Queued destination := by
  obtain ⟨-, hwrite, hconnecting⟩ := h.flags
  refine ⟨hwrite ▸ hq.writeOpen, hconnecting ▸ hq.connected, ?_⟩
  rw [← h.queue]
  exact hq.size

/-- **A refreshed connection is at rest.** -/
lemma refresh_settled (hq : (c.refresh now).session.relay.Queued destination) :
    ((c.refresh now).session.relay.directionFrom destination.peer).refill now =
      (c.refresh now).session.relay.directionFrom destination.peer := by
  obtain ⟨hfirst, -, -⟩ := applyInterest_rest now c .client
  obtain ⟨hsecond, -, -⟩ := applyInterest_rest now (c.applyInterest .client now) .upstream
  rw [hfirst] at hsecond
  obtain ⟨r, hr⟩ : ∃ r, r = (c.session.relay.desiredInterest .client now).2 := ⟨_, rfl⟩
  have hclient : Refills now c.session.relay r := hr ▸ desiredInterest_refills _ _ _
  obtain ⟨r', hr'⟩ : ∃ r', r' = (r.desiredInterest .upstream now).2 := ⟨_, rfl⟩
  have hupstream : Refills now r r' := hr' ▸ desiredInterest_refills _ _ _
  have hwakes : Refills now r' (c.refresh now).session.relay := by
    have heq : (c.refresh now).session.relay =
        ((r'.nextWake .upstream now).2.nextWake .client now).2 := by
      rw [hr', hr]
      show (((c.applyInterest .client now).applyInterest .upstream now).computeWakes
        now).session.relay = _
      rw [Connection.computeWakes, hsecond]
    rw [heq]
    exact (nextWake_refills r' .upstream now).trans (nextWake_refills _ .client now)
  cases destination with
  | client =>
      apply (hupstream.trans hwakes).settled
      rw [hr]
      exact desiredInterest_settled (((hclient.trans hupstream).trans hwakes).queued hq)
  | upstream =>
      apply hwakes.settled
      rw [hr']
      exact desiredInterest_settled ((hupstream.trans hwakes).queued hq)

lemma Refreshed.rests {scheduledWake : Option ℤ} (hdrained : c.session.relay.fullyDrained = false)
    (htame : c.session.Tame t) (hle : t ≤ now) (hs : c.session.Inv)
    (hcached : c.registered = c.mask) :
    Connection.Rests now { c.refresh now with scheduledWake } := by
  have hrefresh := refreshed_refresh now c
  have hmoves : Moves (SocketIo.script fun _ => []) now c.session (c.refresh now).session :=
    hrefresh.advances.moves
  refine ⟨?_, htame.moves hle hs hmoves, fun destination hq => refresh_settled hq,
    fun destination hq hwrite => ?_, fun destination hq wake hwake => ?_⟩
  · obtain ⟨hread, hwrite, -⟩ := hrefresh.refills.flags
    have hqueue := hrefresh.refills.queue
    show (c.refresh now).session.relay.fullyDrained = false
    simpa only [Relay.fullyDrained, hread, hwrite, hqueue] using hdrained
  · have hq' := hrefresh.refills.queued hq
    have hwrite' : ((c.refresh now).registered destination).epollout = true := hwrite
    rw [hrefresh.registered hcached, hrefresh.mask] at hwrite'
    have hpos := (desiredInterest_write (s := c.session) now hq'.writeOpen
      (fun _ => hq'.connected) hq'.size).mp hwrite'
    show 0 < (faultSendable ((c.refresh now).session.relay.directionFrom destination.peer)
      ((c.refresh now).session.relay.directionFrom destination.peer).queue.size now).1
    rwa [hrefresh.refills.queue, hrefresh.refills.sendable]
  · have hlast : (c.session.relay.nextWake destination now).1 = some wake :=
      (hrefresh.lastWake destination).symm.trans hwake
    exact (hrefresh.refills.nextWake destination).trans hlast

/-- Work that leaves its connection live leaves it at rest. -/
lemma Work.rests (h : Work io now id c p p') (hs : c.session.Inv)
    (hcached : c.registered = c.mask) (htame : c.session.Tame t) (hle : t ≤ now)
    (hlive : p'.Live id c') : c'.Rests now := by
  cases h with
  | closed session finalState reason advances abrupt => simp [Runtime.live_remove] at hlive
  | drained session advances drained => simp [Runtime.live_remove] at hlive
  | settled session advances undrained propagated =>
      obtain ⟨w, q, heq, -⟩ :=
        scheduleWake_spec p id (({ c with session } : Connection).refresh now)
      rw [heq] at hlive
      obtain rfl := Runtime.eq_of_live_setConnection hlive
      exact Refreshed.rests (c := { c with session }) undrained
        (htame.moves hle hs advances.moves) le_rfl (advances.moves.inv hs) hcached

/-- A new connection has nothing queued. -/
lemma Newborn.rests {config : ProxyConfig} {plan : FaultPlan} {connecting : Bool}
    (h : Newborn config plan connecting now c) (hrate : plan.rateBytesPerSecond ≤ 1000000000)
    (hburst : plan.effectiveBurstBytes ≤ 18000000000) (hnow : -2 ^ 63 ≤ now) : c.Rests now := by
  have hidle : ∀ destination, ¬c.session.relay.Queued destination := by
    intro destination hq
    have hsize := hq.size
    rw [(h.fresh.direction destination.peer).size] at hsize
    exact absurd hsize (lt_irrefl 0)
  refine ⟨by simp [Relay.fullyDrained, h.fresh.readOpen], fun source channel b hc hb => ?_,
    fun destination hq => absurd hq (hidle destination),
    fun destination hq => absurd hq (hidle destination),
    fun destination hq => absurd hq (hidle destination)⟩
  obtain ⟨-, hrate', hburst', hlast⟩ := ((h.fresh.direction source).channel channel hc).bucket b hb
  refine ⟨?_, ?_, ?_, ?_⟩
  · rwa [hrate']
  · rwa [hburst']
  · rwa [hlast]
  · exact hlast.le

end Rests

/-! ## Every connection is at rest between two events -/

/-- A property of a connection and of the time of its last pump that no later pump breaks.  It says
nothing of connections that come after the one that is `watched`. -/
structure Enduring (io : ℕ → SocketIo) (watched : ℕ) (Q : ℕ → ℤ → Session → Prop) : Prop where
  moves : ∀ id t now s s', t ≤ now → s.Inv → Q id t s → Moves (io id) now s s' → Q id now s'
  newborn : ∀ id now s, watched < id → Q id now s

/-- Every live connection is at rest since a time that satisfies `seen`, and has the property `Q`
since then. -/
structure Runtime.Attended (watched : ℕ) (Q : ℕ → ℤ → Session → Prop) (seen : ℤ → Prop)
    (p : Runtime) : Prop where
  sound : p.Sound
  table : p.Consistent
  awake : p.Awake
  burst : p.config.faults.effectiveBurstBytes ≤ 18000000000
  old : watched < p.nextConnectionId
  rests : ∀ id c, p.Live id c → ∃ time, seen time ∧ c.Rests time ∧ Q id time c.session

section Loop

variable {io : ℕ → SocketIo} {now : ℤ} {watched : ℕ} {Q : ℕ → ℤ → Session → Prop}
  {seen seen' : ℤ → Prop} {p p' mid : Runtime}

lemma Runtime.Attended.mono (h : p.Attended watched Q seen) (hseen : ∀ t, seen t → seen' t) :
    p.Attended watched Q seen' := by
  refine { h with rests := fun id c hlive => ?_ }
  obtain ⟨time, htime, hrests⟩ := h.rests id c hlive
  exact ⟨time, hseen time htime, hrests⟩

lemma effectiveFaults_burst (hburst : p.config.faults.effectiveBurstBytes ≤ 18000000000) (id : ℕ) :
    (p.effectiveFaults id).effectiveBurstBytes ≤ 18000000000 := by
  rw [Runtime.effectiveFaults]
  split_ifs
  · exact hburst
  · decide

/-- Ids are given out in order. -/
lemma Act.nextConnectionId_le (h : Act io now p p') :
    p.nextConnectionId ≤ p'.nextConnectionId := by
  obtain ⟨connecting, c, -, -, rfl⟩ | hsame |
    ⟨mid, id, c, finalState, reason, time, hsame, -, rfl⟩ := h.table
  · exact Nat.le_succ _
  · rw [hsame.rest]
  · rw [Runtime.remove_nextConnectionId, hsame.rest]

/-- Work on a connection that was at rest. -/
lemma Work.attended {id : ℕ} {c c' : Connection} (hQ : Enduring io watched Q)
    (h : Work (io id) now id c p p') (hs : c.session.Inv) (hcached : c.registered = c.mask) {t : ℤ}
    (hle : t ≤ now) (hrests : c.session.Tame t) (hq : Q id t c.session) (hlive : p'.Live id c') :
    c'.Rests now ∧ Q id now c'.session :=
  ⟨h.rests hs hcached hrests hle hlive,
    hQ.moves id t now _ _ hle hs hq (h.live_self hlive).moves⟩

lemma Runtime.Attended.accepted (hQ : Enduring io watched Q) (hp : p.Attended watched Q seen)
    {connecting : Bool} {c : Connection}
    (newborn : Newborn p.config (p.effectiveFaults p.nextConnectionId) connecting now c)
    (token : c.token .client = p.nextToken ∧ c.token .upstream = p.nextToken + 1)
    (room : p.connections.keys.length < p.config.maxConnections) (hnow : seen now)
    (hstart : -2 ^ 63 ≤ now) : (p.accepted connecting now c).Attended watched Q seen := by
  have hact : Act io now p (p.accepted connecting now c) := .accept connecting c newborn token room
  refine ⟨hact.sound hp.sound, hact.consistent hp.table, hact.awake hp.sound hp.awake,
    hact.config_eq ▸ hp.burst, hp.old.trans_le hact.nextConnectionId_le, ?_⟩
  intro id' c' hlive
  obtain ⟨rfl, rfl⟩ | ⟨-, hold⟩ := Runtime.live_accepted.mp hlive
  · exact ⟨now, hnow, newborn.rests (effectiveFaults_rate hp.sound.config _)
      (effectiveFaults_burst hp.burst _) hstart, hQ.newborn _ now _ hp.old⟩
  · exact hp.rests id' c' hold

/-- **Every act attends to its connection.** -/
lemma Act.attended (h : Act io now p p') (hQ : Enduring io watched Q)
    (hp : p.Attended watched Q seen) (hnow : seen now) (hstart : -2 ^ 63 ≤ now)
    (hlate : ∀ t, seen t → t ≤ now) : p'.Attended watched Q seen := by
  refine ⟨h.sound hp.sound, h.consistent hp.table, h.awake hp.sound hp.awake,
    h.config_eq ▸ hp.burst, hp.old.trans_le h.nextConnectionId_le, ?_⟩
  intro id' c' hlive
  cases h with
  | accept connecting c newborn token room =>
      exact (hp.accepted hQ newborn token room hnow hstart).rests id' c' hlive
  | serve id c _ live work =>
      by_cases heq : id' = id
      · subst heq
        obtain ⟨t, ht, hrests, hq⟩ := hp.rests id' c live
        exact ⟨now, hnow, work.attended hQ (hp.sound.session _ c live).inv
          (hp.awake _ c live).cached (hlate t ht) hrests.tame hq hlive⟩
      · exact hp.rests id' c' ((work.frame.2.2.2 id' c' heq).mp hlive)
  | fire => exact hp.rests id' c' hlive
  | skip event _ popped idle => exact hp.rests id' c' (popped.live.mp hlive)
  | wake event c mid _ popped live kind work =>
      by_cases heq : id' = event.connectionId
      · subst heq
        obtain ⟨t, ht, hrests, hq⟩ := hp.rests _ c live
        obtain ⟨hregistered, hmask⟩ := c.resetDueWake_masks now
        rw [← c.resetDueWake_session now] at hq
        refine ⟨now, hnow, work.attended hQ (hp.sound.resetDueWake live).inv ?_ (hlate t ht) ?_ hq
          hlive⟩
        · rw [hregistered, hmask, (hp.awake _ c live).cached]
        · rw [c.resetDueWake_session]
          exact hrests.tame
      · exact hp.rests id' c' (popped.live.mp ((work.frame.2.2.2 id' c' heq).mp hlive))
  | timeOut event c mid reason popped live due =>
      exact hp.rests id' c' (popped.live.mp (Runtime.live_remove.mp hlive).2)
  | postpone event c mid popped live kind active => exact hp.rests id' c' (popped.live.mp hlive)

/-- What is handled between two moments leaves every connection attended to. -/
lemma dispatch_attended {event : Readiness} {stopping : Bool} (hQ : Enduring io watched Q)
    (hp : p.Attended watched Q seen) (hseen : ∀ now ∈ event.readings, seen now)
    (hstart : ∀ t, seen t → -2 ^ 63 ≤ t)
    (hlate : event.readings = [event.now] → ∀ t, seen t → t ≤ event.now)
    (hrun : p.dispatch io event = .ok (stopping, p')) : p'.Attended watched Q seen := by
  have hnow : event.readings = [event.now] → seen event.now := fun hreadings =>
    hseen _ (by rw [hreadings]; exact List.mem_singleton_self _)
  refine dispatch_rule (fun p => p.Attended watched Q seen) hp.sound hp ?_ ?_ ?_ ?_ hrun
  · intro q connecting now c _ h hmem hborn htoken hroom
    exact h.accepted hQ hborn htoken hroom (hseen now hmem) (hstart now (hseen now hmem))
  · have hfire : Act io event.now p { p.drainTimerFd with lastArmedDeadline := none } := .fire
    exact { sound := hfire.sound hp.sound, table := hfire.consistent hp.table,
            awake := hfire.awake hp.sound hp.awake, burst := hp.burst, old := hp.old,
            rests := hp.rests }
  · exact fun q q' _ h hreadings hact _ => hact.attended hQ h (hnow hreadings)
      (hstart _ (hnow hreadings)) (hlate hreadings)
  · intro p' hreadings _ id c hlive hwork
    have hact : Act io event.now p p' := .serve id c p' hlive hwork
    exact hact.attended hQ hp (hnow hreadings) (hstart _ (hnow hreadings)) (hlate hreadings)

end Loop

/-! ## Serving a destination -/

/-- Bytes are waiting to be sent to `destination`. -/
def Connection.waits (destination : Side) (c : Connection) : Bool :=
  c.session.relay.writeOpen destination && !c.session.relay.upstreamConnecting &&
    !(c.session.relay.directionFrom destination.peer).queue.empty

lemma Connection.waits_iff {destination : Side} {c : Connection} :
    c.waits destination = true ↔ c.session.relay.Queued destination := by
  simp only [Connection.waits, Bool.and_eq_true, Bool.not_eq_true', Relay.queued_iff, and_assoc]

/-- An event that the bytes queued for `destination` are waiting for: the socket is ready, as it was
registered for, or the timer fires and the wake time has come. -/
def Connection.serves (destination : Side) (event : Readiness) (c : Connection) : Bool :=
  c.waits destination &&
    (decide (event.token = c.token destination) && event.events.epollout &&
        (c.registered destination).epollout ||
      decide (event.token = kTimerToken) && !(c.registered destination).epollout &&
        (c.lastWake destination).any fun wake => decide (wake ≤ event.now))

/-- Bytes are waiting on the connection `id`. -/
def Runtime.waits (id : ℕ) (destination : Side) (p : Runtime) : Bool :=
  (p.connections.lookup id).any (Connection.waits destination)

/-- The event is one that they are waiting for. -/
def Runtime.serves (id : ℕ) (destination : Side) (event : Readiness) (p : Runtime) : Bool :=
  (p.connections.lookup id).any (Connection.serves destination event)

lemma Runtime.serves_iff {id : ℕ} {destination : Side} {event : Readiness} {p : Runtime} :
    p.serves id destination event = true ↔
      ∃ c, p.Live id c ∧ c.session.relay.Queued destination ∧
        ((event.token = c.token destination ∧ event.events.epollout = true ∧
            (c.registered destination).epollout = true) ∨
          event.token = kTimerToken ∧ (c.registered destination).epollout = false ∧
            ∃ wake, c.lastWake destination = some wake ∧ wake ≤ event.now) := by
  simp only [Runtime.serves, Runtime.Live, Option.any_eq_true, Connection.serves, Bool.or_eq_true,
    Bool.and_eq_true, Bool.not_eq_true', decide_eq_true_eq, Connection.waits_iff, and_assoc]

section Serving

variable {io : SocketIo} {destination : Side} {t now : ℤ} {bound : ℕ} {start : Trace}
  {s s' : Session} {c c' : Connection}

/-- Less is left to be done than `bound`, or no more and a flush has a budget. -/
def Session.Due (destination : Side) (now : ℤ) (bound : ℕ) (s : Session) : Prop :=
  s.relay.load destination now < bound ∨
    s.relay.load destination now ≤ bound ∧ s.relay.Queued destination ∧
      0 < (faultSendable (s.relay.directionFrom destination.peer)
        (s.relay.directionFrom destination.peer).queue.size now).1

lemma Session.Due.moves (h : s.Due destination now bound) (hbound : 0 < bound) (hinv : s.Inv)
    (hended : s.relay.readOpen destination.peer = false) (hmoves : Moves io now s s') :
    s'.Due destination now bound := by
  obtain ⟨hwinds, -⟩ := hmoves.winds hinv hended
  rcases h with hless | ⟨hle, hqueued, hpos⟩
  · exact .inl (hwinds.load_le.trans_lt hless)
  rcases hwinds with hkeeps | hless | hzero
  · refine .inr ⟨hkeeps.load.trans_le hle, ⟨?_, hmoves.connected hqueued.connected, ?_⟩, ?_⟩
    · rw [hkeeps.writeOpen]
      exact hqueued.writeOpen
    · rw [hkeeps.queue]
      exact hqueued.size
    · rw [hkeeps.queue, hkeeps.sendable]
      exact hpos
  · exact .inl (hless.trans_le hle)
  · exact .inl (hzero ▸ hbound)

lemma Session.Due.flush (h : s.Due destination now bound) (hinv : s.Inv)
    (hended : s.relay.readOpen destination.peer = false) (hio : io.AcceptsAfter start destination)
    (hstart : start <+: s.trace) {result : PumpResult}
    (hrun : s.flush io destination now = .ok (result, s')) :
    s'.relay.load destination now < bound := by
  rcases h with hless | ⟨hle, hqueued, hpos⟩
  · obtain ⟨result', m, -, hrun', hmoves, -⟩ := flush_spec io now hinv destination
    obtain ⟨-, rfl⟩ := Prod.mk.inj (Except.ok.inj (hrun'.symm.trans hrun))
    exact (hmoves.winds hinv hended).1.load_le.trans_lt hless
  · exact (flush_load_lt hinv (.inl hended) hqueued.writeOpen (fun _ => hqueued.connected)
      hqueued.size hpos hio hstart hrun).trans_le hle

/-- **The flushes of a pump take from the load** of a stream that is due. -/
lemma Session.Due.flushBoth (h : s.Due destination now bound) (hbound : 0 < bound) (hinv : s.Inv)
    (hended : s.relay.readOpen destination.peer = false) (hio : io.AcceptsAfter start destination)
    (hstart : start <+: s.trace) (hrun : s.flushBoth io now = .ok (.proceed, s')) :
    s'.relay.load destination now < bound := by
  rw [Session.flushBoth] at hrun
  split_ifs at hrun with hconnecting
  · obtain ⟨-, rfl⟩ := Prod.mk.inj (Except.ok.inj hrun)
    rcases h with hless | ⟨-, hqueued, -⟩
    · exact hless
    · rw [hqueued.connected] at hconnecting
      cases hconnecting
  obtain ⟨result, m, -, hfirst, hmoves, -⟩ := flush_spec io now hinv .upstream
  rw [hfirst] at hrun
  rcases result with _ | ⟨finalState, reason⟩
  swap
  · cases hrun
  have hinv' := hmoves.inv hinv
  obtain ⟨-, hended'⟩ := hmoves.winds hinv hended
  cases destination with
  | client =>
      exact (h.moves hbound hinv hended hmoves).flush hinv' hended' hio
        (hstart.trans (hmoves.trace_extends hinv)) hrun
  | upstream =>
      have hless := h.flush hinv hended hio hstart hfirst
      obtain ⟨result', m', -, hsecond, hmoves', -⟩ := flush_spec io now hinv' .client
      obtain ⟨-, rfl⟩ := Prod.mk.inj (Except.ok.inj (hsecond.symm.trans hrun))
      exact (hmoves'.winds hinv' hended').1.load_le.trans_lt hless

/-- **A pump takes from the load** of a stream that is due, or closes the connection. -/
lemma pumpConnection_load_lt {io : ℕ → SocketIo} {id : ℕ} {p p' : Runtime} (hlive : p.Live id c)
    (h : c.session.Due destination now bound) (hbound : 0 < bound) (hinv : c.session.Inv)
    (hended : c.session.relay.readOpen destination.peer = false)
    (hio : (io id).AcceptsAfter start destination) (hstart : start <+: c.session.trace)
    (hrun : p.pumpConnection io id now = .ok p') (hlive' : p'.Live id c') :
    c'.session.relay.load destination now < bound := by
  obtain ⟨result, m, hflush, -, hadvances⟩ := flushBoth_spec (io id) now hinv
  rcases result with _ | ⟨finalState, reason⟩
  swap
  · rw [Runtime.pumpConnection, show p.connections.lookup id = some c from hlive] at hrun
    simp only [hflush, Except.ok.injEq] at hrun
    rw [← hrun, Runtime.closeConnection_setConnection] at hlive'
    simp [Runtime.live_remove] at hlive'
  have hless := h.flushBoth hbound hinv hended hio hstart hflush
  have hinv' := hadvances.moves.inv hinv
  obtain ⟨-, hended'⟩ := hadvances.moves.winds hinv hended
  rw [pumpConnection_proceed io now hlive hflush] at hrun
  split_ifs at hrun
  · rw [← Except.ok.inj hrun] at hlive'
    simp [Runtime.live_remove] at hlive'
  · obtain ⟨w, q, heq, -⟩ := scheduleWake_spec p id (Connection.refresh now
      { c with session := m.propagateHalfCloses (io id) })
    rw [← Except.ok.inj hrun, heq] at hlive'
    obtain rfl := Runtime.eq_of_live_setConnection hlive'
    have hpropagate : Moves (io id) now m (m.propagateHalfCloses (io id)) :=
      propagateHalfCloses_moves
    have hrefresh : Moves (io id) now (m.propagateHalfCloses (io id)) (Connection.refresh now
        { c with session := m.propagateHalfCloses (io id) }).session :=
      (refreshed_refresh now { c with session := m.propagateHalfCloses (io id) }).advances.moves
    exact (Moves.winds (hpropagate.trans hrefresh) hinv' hended').1.load_le.trans_lt hless

/-- **An event that serves finds the stream due.** -/
lemma Connection.Rests.due (h : c.Rests t) (hle : t ≤ now) (hnow : now < 2 ^ 63)
    (hinv : c.session.Inv) (hqueued : c.session.relay.Queued destination)
    (hload : c.session.relay.load destination t ≤ bound)
    (hserved : (c.registered destination).epollout = true ∨
      ∃ wake, c.lastWake destination = some wake ∧ wake ≤ now) :
    c.session.Due destination now bound := by
  have hready : 0 < (faultSendable (c.session.relay.directionFrom destination.peer)
        (c.session.relay.directionFrom destination.peer).queue.size now).1 ∨
      (c.session.relay.directionFrom destination.peer).heldSegments now <
        (c.session.relay.directionFrom destination.peer).heldSegments t := by
    rcases hserved with hwrite | ⟨wake, hwake, hdue⟩
    · exact Direction.sendable_later (hinv _) (h.tame _) hle hnow
        (h.write destination hqueued hwrite)
    · have hpending : c.session.relay.Pending destination t :=
        ⟨hqueued.writeOpen, fun _ => hqueued.connected, hqueued.size, hinv _,
          fun channel b hc hb => ⟨(h.tame _ channel b hc hb).rate_le,
            (h.tame _ channel b hc hb).last⟩⟩
      exact hpending.woken (h.tame _) (h.refilled destination hqueued)
        (h.wake destination hqueued wake hwake) hdue hnow
  have hanti : c.session.relay.load destination now ≤ c.session.relay.load destination t :=
    c.session.relay.load_anti hle
  rcases hready with hpos | hheld
  · exact .inr ⟨hanti.trans hload, hqueued, hpos⟩
  · left
    refine lt_of_lt_of_le ?_ hload
    rw [Relay.load_of_open hqueued.writeOpen, Relay.load_of_open hqueued.writeOpen]
    omega

end Serving

/-! ## Winding up one stream -/

/-- The connection `id` has connected, the stream towards `destination` has ended, its history began
with `start`, and no more than `bound` is left to be done for it. -/
structure Session.Winding (destination : Side) (start : Trace) (bound : ℕ) (time : ℤ)
    (s : Session) : Prop where
  connected : s.relay.upstreamConnecting = false
  ended : s.relay.readOpen destination.peer = false
  start : start <+: s.trace
  load : s.relay.load destination time ≤ bound

/-- The same for one connection among others. -/
def Winding (id : ℕ) (destination : Side) (start : Trace) (bound : ℕ) (id' : ℕ) (time : ℤ)
    (s : Session) : Prop :=
  id' = id → s.Winding destination start bound time

section Winding

variable {io : ℕ → SocketIo} {id n : ℕ} {destination : Side} {start : Trace} {now : ℤ}
  {seen : ℤ → Prop} {p p' q q' mid : Runtime} {c c' : Connection}

lemma winding_enduring (io : ℕ → SocketIo) (id : ℕ) (destination : Side) (start : Trace)
    (bound : ℕ) : Enduring io id (Winding id destination start bound) := by
  refine ⟨fun id' t now s s' hle hinv hw hmoves heq => ?_, fun id' now s hlt heq => ?_⟩
  · obtain ⟨hconnected, hended, hstart, hload⟩ := hw heq
    obtain ⟨hwinds, hended'⟩ := hmoves.winds hinv hended
    exact ⟨hmoves.connected hconnected, hended', hstart.trans (hmoves.trace_extends hinv),
      (hwinds.load_le.trans (s.relay.load_anti hle)).trans hload⟩
  · omega

/-- The bound may be lowered when the connection has just been pumped down to it. -/
lemma Runtime.Attended.lower (h : q.Attended id (Winding id destination start (n + 1)) seen)
    (hnow : seen now) (hid : ∀ c, q.Live id c → c.Rests now ∧
      c.session.relay.load destination now ≤ n) :
    q.Attended id (Winding id destination start n) seen := by
  refine { h with rests := fun id' c hlive => ?_ }
  obtain ⟨t, ht, hrests, hw⟩ := h.rests id' c hlive
  by_cases heq : id' = id
  · subst heq
    obtain ⟨hrests', hload⟩ := hid c hlive
    exact ⟨now, hnow, hrests', fun _ => { hw rfl with load := hload }⟩
  · exact ⟨t, ht, hrests, fun h => absurd h heq⟩

/-- The ids of live connections were given out. -/
lemma Runtime.Consistent.id_given (h : p.Consistent) (hlive : p.Live id c) :
    0 < id ∧ id < p.nextConnectionId := by
  have hmem : id ∈ List.range' 1 (p.nextConnectionId - 1) :=
    h.ids.subset (List.mem_append_right _ (Runtime.mem_keys_iff.mpr ⟨c, hlive⟩))
  rw [List.mem_range'_1] at hmem
  omega

/-- The token of a socket leads to `socket_ready` and to its connection. -/
lemma Runtime.Consistent.dispatch_socket (io : ℕ → SocketIo) {event : Readiness}
    (h : p.Consistent) (hlive : p.Live id c) (htoken : event.token = c.token destination) :
    p.dispatch io event = (p.socketReady io event).map (fun p => (false, p)) ∧
      event.readings = [event.now] ∧
      p.bindings.lookup event.token = some ⟨id, destination⟩ := by
  have hvalue := htoken.trans (h.token id c hlive destination)
  have hid := (h.id_given hlive).1
  have hlarge : 3 < event.token := by
    rw [hvalue]
    cases destination <;> simp only [connectionToken] <;> omega
  have hlistener : event.token ≠ kListenerToken := ((by decide : 1 < 3).trans hlarge).ne'
  have hsignal : event.token ≠ kSignalToken := ((by decide : 2 < 3).trans hlarge).ne'
  have htimer : event.token ≠ kTimerToken := hlarge.ne'
  refine ⟨?_, ?_, (h.bindings _ ⟨id, destination⟩).mpr ⟨⟨c, hlive⟩, hvalue⟩⟩
  · rw [Runtime.dispatch, if_neg hlistener, if_neg hsignal, if_neg htimer]
  · rw [Readiness.readings, if_neg hlistener, if_neg hsignal]

/-- **A socket event that serves a stream takes from its load.** -/
lemma socketReady_served {event : Readiness} (htable : p.Consistent) (hlive : p.Live id c)
    (hs : c.session.Inv) (htoken : event.token = c.token destination)
    (hdue : c.session.Due destination event.now (n + 1))
    (hended : c.session.relay.readOpen destination.peer = false)
    (hio : (io id).AcceptsAfter start destination) (hstart : start <+: c.session.trace)
    (hrun : p.socketReady io event = .ok p') (hlive' : p'.Live id c') :
    Work (io id) event.now id c p p' ∧ c'.session.relay.load destination event.now < n + 1 := by
  obtain ⟨-, -, hbinding⟩ := htable.dispatch_socket io hlive htoken
  obtain ⟨result, m, hserve, habrupt, hadvances⟩ := serveSocket_spec (io id) hs destination event
  rw [Runtime.socketReady, hbinding] at hrun
  simp only [show p.connections.lookup id = some c from hlive, hserve] at hrun
  rcases result with _ | ⟨finalState, reason⟩
  swap
  · rw [← Except.ok.inj hrun, Runtime.closeConnection_setConnection] at hlive'
    simp [Runtime.live_remove] at hlive'
  have hinv := hadvances.moves.inv hs
  obtain ⟨p'', hpump, hwork⟩ := pumpConnection_spec io event.now
    (p := p.setConnection id { c with session := m }) Runtime.live_setConnection_self hinv
  obtain rfl : p'' = p' := Except.ok.inj (hpump.symm.trans hrun)
  obtain ⟨-, hended'⟩ := hadvances.moves.winds hs hended
  exact ⟨.of_advances hadvances hwork, pumpConnection_load_lt Runtime.live_setConnection_self
    (hdue.moves (Nat.succ_pos n) hs hended hadvances.moves) (Nat.succ_pos n) hinv hended' hio
    (hstart.trans (hadvances.moves.trace_extends hs)) hpump hlive'⟩

/-- An entry that is no wake of the connection closes the connection or leaves it alone, and leaves
its wakes alone. -/
lemma handleTimer_other {event : TimerEvent} (hs : q.Sound) (hpop : Popped now event q mid)
    (hother : ¬event.Wakes id) (hrun : mid.handleTimer io now event = .ok q')
    (hlive : q.Live id c) :
    (q'.Live id c ∨ ∀ c', ¬q'.Live id c') ∧
      ∀ e ∈ q.timerQueue.heap, e.Wakes id → e ∈ q'.timerQueue.heap := by
  have hmid : mid.Live id c := hpop.live.mpr hlive
  have hheap := hpop.mem hother
  have hremove : ∀ c₀ reason, (mid.remove event.connectionId c₀ .timedOut reason now).Live id c ∨
      ∀ c', ¬(mid.remove event.connectionId c₀ .timedOut reason now).Live id c' := by
    intro c₀ reason
    by_cases heq : id = event.connectionId
    · exact .inr fun c' hc' => (Runtime.live_remove.mp hc').1 heq
    · exact .inl (Runtime.live_remove.mpr ⟨heq, hmid⟩)
  simp only [Runtime.handleTimer] at hrun
  rcases hfound : mid.connections.lookup event.connectionId with _ | c₀
  · simp only [hfound] at hrun
    obtain rfl := Except.ok.inj hrun
    exact ⟨.inl hmid, hheap⟩
  simp only [hfound] at hrun
  rcases hkind : event.kind with _ | _ | _
  · simp only [hkind] at hrun
    have hne : id ≠ event.connectionId := fun heq => hother ⟨heq.symm, hkind⟩
    have hsession := hs.session _ c₀ (hpop.live.mp hfound)
    obtain ⟨p'', hpump, hwork⟩ := pumpConnection_spec io now
      (p := mid.setConnection event.connectionId (c₀.resetDueWake now))
      Runtime.live_setConnection_self (by simpa using hsession.inv)
    obtain rfl : p'' = q' := Except.ok.inj (hpump.symm.trans hrun)
    have hframe := hwork.frame.2.2.2 id c hne
    refine ⟨.inl (hframe.mpr (Runtime.live_setConnection.mpr (.inr ⟨hne, hmid⟩))), ?_⟩
    exact fun e he hwakes => hwork.mem_heap (by simpa using hsession) e (hheap e he hwakes)
  · simp only [hkind] at hrun
    split_ifs at hrun with hdue
    · rw [Runtime.closeConnection_of_live hfound] at hrun
      obtain rfl := Except.ok.inj hrun
      exact ⟨hremove c₀ .idleTimeout, by simpa using hheap⟩
    · obtain rfl := Except.ok.inj hrun
      exact ⟨.inl hmid, fun e he hwakes => TimerQueue.mem_schedule.mpr (.inr (hheap e he hwakes))⟩
  · simp only [hkind] at hrun
    split_ifs at hrun with hconn
    · rw [Runtime.closeConnection_of_live hfound] at hrun
      obtain rfl := Except.ok.inj hrun
      exact ⟨hremove c₀ .connectTimeout, by simpa using hheap⟩
    · obtain rfl := Except.ok.inj hrun
      exact ⟨.inl hmid, hheap⟩

/-- **A wake that is due takes from the load.** -/
lemma handleTimer_woken {event : TimerEvent} {t : ℤ} (hs : q.Sound) (hawake : q.Awake)
    (hpop : Popped now event q mid) (hwakes : event.Wakes id)
    (hrun : mid.handleTimer io now event = .ok q') (hlive : q.Live id c) (hrests : c.Rests t)
    (hle : t ≤ now) (hdue : c.session.Due destination now (n + 1))
    (hended : c.session.relay.readOpen destination.peer = false)
    (hio : (io id).AcceptsAfter start destination) (hstart : start <+: c.session.trace)
    (hlive' : q'.Live id c') :
    c'.Rests now ∧ c'.session.relay.load destination now < n + 1 := by
  obtain ⟨rfl, hkind⟩ := hwakes
  have hsession := c.resetDueWake_session now
  obtain ⟨hregistered, hmask⟩ := c.resetDueWake_masks now
  have hinv : (c.resetDueWake now).session.Inv := (hs.resetDueWake hlive).inv
  simp only [Runtime.handleTimer, hkind,
    show mid.connections.lookup event.connectionId = some c from hpop.live.mpr hlive] at hrun
  obtain ⟨p'', hpump, hwork⟩ := pumpConnection_spec io now
    (p := mid.setConnection event.connectionId (c.resetDueWake now))
    Runtime.live_setConnection_self hinv
  obtain rfl : p'' = q' := Except.ok.inj (hpump.symm.trans hrun)
  refine ⟨hwork.rests hinv ?_ (t := t) ?_ hle hlive', ?_⟩
  · rw [hregistered, hmask, (hawake _ c hlive).cached]
  · rw [hsession]
    exact hrests.tame
  · rw [← hsession] at hdue hended hstart
    exact pumpConnection_load_lt Runtime.live_setConnection_self hdue (Nat.succ_pos n) hinv hended
      hio hstart hpump hlive'

/-- The connection has not been looked at since its wake was found due. -/
structure Runtime.Awaiting (id : ℕ) (c : Connection) (now : ℤ) (q : Runtime) : Prop where
  live : q.Live id c
  due : ∃ e ∈ q.timerQueue.heap, e.Wakes id ∧ e.deadline ≤ now

/-- **`process_due_timers` takes from the load** of a stream whose wake is due: until its entry is
popped the connection is left alone, and none is left at the end. -/
lemma processDueTimers_served {processed : ℕ} {t : ℤ}
    (hp : Runtime.Attended id (Winding id destination start (n + 1)) seen
      { p with lastArmedDeadline := none }) (hnow : seen now)
    (hfirst : ∀ t, seen t → -2 ^ 63 ≤ t) (hlate : ∀ t, seen t → t ≤ now)
    (hwait : p.Awaiting id c now) (ht : seen t) (hrests : c.Rests t)
    (hdue : c.session.Due destination now (n + 1))
    (hended : c.session.relay.readOpen destination.peer = false)
    (hio : (io id).AcceptsAfter start destination) (hstart : start <+: c.session.trace)
    (hrun : p.processDueTimers io now = .ok (processed, p')) :
    p'.Attended id (Winding id destination start n) seen := by
  have hact : ∀ {q q' : Runtime} {bound : ℕ},
      q.Attended id (Winding id destination start bound) seen → Act io now q q' →
      q'.Attended id (Winding id destination start bound) seen := fun h hact =>
    hact.attended (winding_enduring io id destination start _) h hnow (hfirst now hnow) hlate
  have hhandle : ∀ q event mid q',
      (q.Attended id (Winding id destination start n) seen ∨
        q.Attended id (Winding id destination start (n + 1)) seen ∧ q.Awaiting id c now) →
      Popped now event q mid → mid.handleTimer io now event = .ok q' →
      q'.Attended id (Winding id destination start n) seen ∨
        q'.Attended id (Winding id destination start (n + 1)) seen ∧ q'.Awaiting id c now := by
    intro q event mid q' hq hpop hhandle
    have hsound : q.Sound := hq.elim (fun h => h.sound) fun h => h.1.sound
    have hstep : Act io now q q' := by
      obtain ⟨q'', hhandle', hact', -⟩ := handleTimer_act io hsound hpop
      obtain rfl : q'' = q' := Except.ok.inj (hhandle'.symm.trans hhandle)
      exact hact'
    rcases hq with hdone | ⟨hbefore, hwait'⟩
    · exact .inl (hact hdone hstep)
    have hafter := hact hbefore hstep
    by_cases hwakes : event.Wakes id
    · left
      apply hafter.lower hnow
      intro c' hlive'
      obtain ⟨hrests', hless⟩ := handleTimer_woken hsound hbefore.awake hpop hwakes hhandle
        hwait'.live hrests (hlate t ht) hdue hended hio hstart hlive'
      exact ⟨hrests', Nat.lt_succ_iff.mp hless⟩
    · obtain ⟨hlive | hgone, hheap⟩ := handleTimer_other hsound hpop hwakes hhandle hwait'.live
      · obtain ⟨e, he, hmine, hle⟩ := hwait'.due
        exact .inr ⟨hafter, hlive, e, hheap e he hmine, hmine, hle⟩
      · exact .inl (hafter.lower hnow fun c' hlive' => absurd hlive' (hgone c'))
  obtain ⟨hdone | ⟨-, hwait'⟩, hpast⟩ :=
    processDueTimers_rule hhandle (.inr ⟨hp, hwait.live, hwait.due⟩) hrun
  · exact hdone
  · -- nothing is due any more, so the entry was popped
    obtain ⟨e, he, -, hle⟩ := hwait'.due
    exact absurd (hpast e he) (not_lt.mpr hle)

/-- **An event that serves a stream takes from its load.** -/
lemma dispatch_served {event : Readiness} {stopping : Bool}
    (hp : p.Attended id (Winding id destination start (n + 1)) seen)
    (hserves : p.serves id destination event = true) (hseen : ∀ now ∈ event.readings, seen now)
    (hint : ∀ t, seen t → IsInt64 t)
    (hlate : event.readings = [event.now] → ∀ t, seen t → t ≤ event.now)
    (hio : (io id).AcceptsAfter start destination)
    (hrun : p.dispatch io event = .ok (stopping, p')) :
    p'.Attended id (Winding id destination start n) seen := by
  have hfirst : ∀ t, seen t → -2 ^ 63 ≤ t := fun t ht => (hint t ht).1
  have hafter := dispatch_attended (winding_enduring io id destination start (n + 1)) hp hseen
    hfirst hlate hrun
  obtain ⟨c, hlive, hqueued, hevent⟩ := Runtime.serves_iff.mp hserves
  obtain ⟨t, ht, hrests, hwinding⟩ := hp.rests id c hlive
  obtain ⟨-, hended, hstart, hload⟩ := hwinding rfl
  have hinv := (hp.sound.session id c hlive).inv
  rcases hevent with ⟨htoken, -, hregistered⟩ | ⟨htoken, hunregistered, wake, hwake, hcome⟩
  · obtain ⟨hdispatch, hreadings, -⟩ := hp.table.dispatch_socket io hlive htoken
    have hnow : seen event.now := hseen _ (by rw [hreadings]; exact List.mem_singleton_self _)
    have hdue := hrests.due (hlate hreadings t ht) (hint _ hnow).2 hinv hqueued hload
      (.inl hregistered)
    have hready : p.socketReady io event = .ok p' := by
      rw [hdispatch] at hrun
      rcases hsocket : p.socketReady io event with e | p''
      · simp [hsocket, Except.map] at hrun
      · simp only [hsocket, Except.map, Except.ok.injEq, Prod.mk.injEq] at hrun
        rw [hrun.2]
    apply hafter.lower hnow
    intro c' hlive'
    obtain ⟨hwork, hless⟩ := socketReady_served hp.table hlive hinv htoken hdue hended hio hstart
      hready hlive'
    exact ⟨hwork.rests hinv (hp.awake id c hlive).cached hrests.tame (hlate hreadings t ht) hlive',
      Nat.lt_succ_iff.mp hless⟩
  · have hreadings : event.readings = [event.now] := by
      rw [Readiness.readings, htoken]
      rfl
    have hnow : seen event.now := hseen _ (by rw [hreadings]; exact List.mem_singleton_self _)
    have hdue := hrests.due (hlate hreadings t ht) (hint _ hnow).2 hinv hqueued hload
      (.inr ⟨wake, hwake, hcome⟩)
    have hwait : p.drainTimerFd.Awaiting id c event.now := by
      refine ⟨hlive, ?_⟩
      rcases (hp.awake id c hlive).writes destination hqueued.size hqueued.writeOpen
        hqueued.connected with hout | ⟨wake', hwake', e, he, hmine, hle⟩
      · rw [hunregistered] at hout
        cases hout
      · obtain rfl : wake = wake' := Option.some.inj (hwake.symm.trans hwake')
        exact ⟨e, he, hmine, hle.trans hcome⟩
    have hfire : Act io event.now p { p.drainTimerFd with lastArmedDeadline := none } := .fire
    rw [Runtime.dispatch, htoken, if_neg (by decide), if_neg (by decide), if_pos rfl] at hrun
    rcases hprocess : p.drainTimerFd.processDueTimers io event.now with e | ⟨processed, p''⟩
    · simp [hprocess, Except.map] at hrun
    · simp only [hprocess, Except.map, Except.ok.injEq, Prod.mk.injEq] at hrun
      rw [← hrun.2]
      exact processDueTimers_served
        (hfire.attended (winding_enduring io id destination start (n + 1)) hp hnow
          (hfirst _ hnow) (hlate hreadings)) hnow hfirst (hlate hreadings) hwait ht hrests hdue
        hended hio hstart hprocess

end Winding

/-! ## Runs -/

namespace Runtime

variable (io : ℕ → SocketIo) (id : ℕ) (destination : Side)

/-- How many of the steps, from this state on, serve the destination. -/
def servingsIn : List LoopStep → Bool × Runtime → ℕ
  | [], _ => 0
  | step :: steps, (stopping, p) =>
      (match step, stopping with
        | .ready event, false => if p.serves id destination event then 1 else 0
        | _, _ => 0) +
      match runStep io step stopping p with
      | .error _ => 0
      | .ok state => servingsIn steps state

/-- How often the destination is served in the iterations, from this state on. -/
def servings : List Iteration → Bool × Runtime → ℕ
  | [], _ => 0
  | iteration :: iterations, (stopping, p) =>
      if stopping then 0
      else servingsIn io id destination iteration.steps (false, p) +
        match runIteration io iteration p with
        | .error _ => 0
        | .ok state => servings iterations state

/-- In every round something serves the destination if bytes are waiting for it at the start. -/
def fair : List (List Iteration) → Bool × Runtime → Bool
  | [], _ => true
  | round :: rounds, state =>
      (!state.2.waits id destination || decide (0 < servings io id destination round state)) &&
        match runLoop io round state with
        | .error _ => false
        | .ok state => fair rounds state

lemma runLoop_append (first second : List Iteration) (state : Bool × Runtime) :
    runLoop io (first ++ second) state = (runLoop io first state).bind (runLoop io second) := by
  induction first generalizing state with
  | nil => rfl
  | cons iteration iterations ih =>
      obtain ⟨stopping, p⟩ := state
      rw [List.cons_append, runLoop, runLoop]
      split_ifs with hstopping
      · subst hstopping
        cases second with
        | nil => rfl
        | cons => rfl
      · rcases runIteration io iteration p with e | state
        · rfl
        · exact ih state

end Runtime

section Runs

variable {io : ℕ → SocketIo} {id : ℕ} {destination : Side} {start : Trace} {watched : ℕ}
  {Q : ℕ → ℤ → Session → Prop} {seen : ℤ → Prop} {all : List Readiness} {p : Runtime}

lemma Runtime.Attended.tick (h : p.Attended watched Q seen) (clock : ℤ) :
    Runtime.Attended watched Q seen { p with timerFd := p.timerFd.tick clock } :=
  { sound := ⟨h.sound.config, h.sound.session⟩
    table := ((Runtime.Consistent.invariant (fun _ => .script fun _ => []) p.config).tick clock p
      ⟨h.table, rfl⟩).1
    awake := h.awake, burst := h.burst, old := h.old, rests := h.rests }

lemma Runtime.Attended.arm (h : p.Attended watched Q seen) (clock : ℤ) (ok : Bool) :
    (p.armTimerFd clock ok).Attended watched Q seen := by
  have hlive : ∀ id c, (p.armTimerFd clock ok).Live id c ↔ p.Live id c := by
    simp [Runtime.Live]
  have hnext : (p.armTimerFd clock ok).nextConnectionId = p.nextConnectionId := by
    rw [Runtime.armTimerFd]
    split_ifs <;> rfl
  refine ⟨⟨by simpa using h.sound.config, fun id c hc => ?_⟩,
    ((Runtime.Consistent.invariant (fun _ => .script fun _ => []) p.config).arm clock ok p
      ⟨h.table, rfl⟩).1,
    (Runtime.Awake.invariant fun _ => .script fun _ => []).arm clock ok p h.awake,
    by simpa using h.burst, hnext ▸ h.old, fun id c hc => h.rests id c ((hlive id c).mp hc)⟩
  rw [Runtime.armTimerFd_config]
  exact h.sound.session id c ((hlive id c).mp hc)

/-- The clock readings up to an event, when the clock does not go back. -/
lemma readings_late {past : List Readiness} {event : Readiness} {rest : List Readiness}
    (hclock : (readings all).Pairwise (· ≤ ·)) (hall : past ++ event :: rest = all)
    (hreadings : event.readings = [event.now]) :
    ∀ t ∈ readings (past ++ [event]), t ≤ event.now := by
  have hsplit : readings all = readings past ++ ([event.now] ++ readings rest) := by
    rw [← hall, readings, List.flatMap_append, List.flatMap_cons, hreadings]
    rfl
  rw [hsplit] at hclock
  intro t ht
  rw [readings, List.flatMap_append, List.flatMap_singleton, hreadings] at ht
  rcases List.mem_append.mp ht with ht | ht
  · exact (List.pairwise_append.mp hclock).2.2 t ht event.now (by simp)
  · exact (List.mem_singleton.mp ht).le

/-- **Every serving takes from the load.**  The induction is on the steps that are left, with `rest`
for the events after them. -/
lemma runSteps_attended (hclock : (readings all).Pairwise (· ≤ ·))
    (hint : ∀ t ∈ readings all, IsInt64 t) (hio : (io id).AcceptsAfter start destination) (n : ℕ)
    (rest : List Readiness) :
    ∀ (steps : List LoopStep) (past : List Readiness) (stopping : Bool) (p : Runtime),
      p.Attended id (Winding id destination start
        (Runtime.servingsIn io id destination steps (stopping, p) + n)) (· ∈ readings past) →
      (stopping = false → past ++ (steps.filterMap LoopStep.event? ++ rest) = all) →
      ∃ past' stopping' p', Runtime.runSteps io steps (stopping, p) = .ok (stopping', p') ∧
        p'.Attended id (Winding id destination start n) (· ∈ readings past') ∧
        (stopping' = false → past' ++ rest = all)
  | [], past, stopping, p, hp, hrest =>
      ⟨past, stopping, p, rfl, by simpa [Runtime.servingsIn] using hp, hrest⟩
  | .tick clock :: steps, past, stopping, p, hp, hrest => by
      apply runSteps_attended hclock hint hio n rest steps past stopping _ _ hrest
      have hsame : Runtime.servingsIn io id destination (.tick clock :: steps) (stopping, p) =
          Runtime.servingsIn io id destination steps
            (stopping, { p with timerFd := p.timerFd.tick clock }) := by
        simp [Runtime.servingsIn, Runtime.runStep]
      rw [hsame] at hp
      exact hp.tick clock
  | .ready event :: steps, past, true, p, hp, hrest => by
      have hsame : Runtime.servingsIn io id destination (.ready event :: steps) (true, p) =
          Runtime.servingsIn io id destination steps (true, p) := by
        simp [Runtime.servingsIn, Runtime.runStep]
      rw [hsame] at hp
      exact runSteps_attended hclock hint hio n rest steps past true p hp (by simp)
  | .ready event :: steps, past, false, p, hp, hrest => by
      obtain ⟨stopping', p', hdispatch, -⟩ := dispatch_acts (R := fun _ => True) io hp.sound event
        (fun _ _ => trivial)
      have hall : past ++ event :: (steps.filterMap LoopStep.event? ++ rest) = all := hrest rfl
      have hstep : Runtime.runStep io (.ready event) false p = .ok (stopping', p') := by
        simpa [Runtime.runStep] using hdispatch
      have hcount : Runtime.servingsIn io id destination (.ready event :: steps) (false, p) =
          (if p.serves id destination event then 1 else 0) +
            Runtime.servingsIn io id destination steps (stopping', p') := by
        rw [Runtime.servingsIn, hstep]
      have hseen : ∀ t ∈ readings (past ++ [event]), IsInt64 t := fun t ht => by
        apply hint
        rw [← hall, List.append_cons, readings, List.flatMap_append]
        exact List.mem_append_left _ ht
      have hmore : ∀ t ∈ readings past, t ∈ readings (past ++ [event]) := fun t ht => by
        rw [readings, List.flatMap_append]
        exact List.mem_append_left _ ht
      have hmono := hp.mono hmore
      have hnow : ∀ now ∈ event.readings, now ∈ readings (past ++ [event]) := fun now hmem => by
        rw [readings, List.flatMap_append, List.flatMap_singleton]
        exact List.mem_append_right _ hmem
      have hafter : p'.Attended id (Winding id destination start
          (Runtime.servingsIn io id destination steps (stopping', p') + n))
          (· ∈ readings (past ++ [event])) := by
        rw [hcount] at hmono
        split_ifs at hmono with hserves
        · rw [Nat.add_assoc, Nat.add_comm 1] at hmono
          exact dispatch_served hmono hserves hnow hseen (readings_late hclock hall) hio hdispatch
        · rw [Nat.zero_add] at hmono
          exact dispatch_attended (winding_enduring io id destination start _) hmono hnow
            (fun t ht => (hseen t ht).1) (readings_late hclock hall) hdispatch
      simp only [Runtime.runSteps, hstep]
      exact runSteps_attended hclock hint hio n rest steps _ stopping' p' hafter
        fun _ => by rw [← hall, List.append_assoc]; rfl

lemma runIteration_attended (hclock : (readings all).Pairwise (· ≤ ·))
    (hint : ∀ t ∈ readings all, IsInt64 t) (hio : (io id).AcceptsAfter start destination) (n : ℕ)
    (rest : List Readiness) (iteration : Iteration) {past : List Readiness}
    (hp : p.Attended id (Winding id destination start
      (Runtime.servingsIn io id destination iteration.steps (false, p) + n)) (· ∈ readings past))
    (hrest : past ++ (iteration.steps.filterMap LoopStep.event? ++ rest) = all) :
    ∃ past' stopping' p', Runtime.runIteration io iteration p = .ok (stopping', p') ∧
      p'.Attended id (Winding id destination start n) (· ∈ readings past') ∧
      (stopping' = false → past' ++ rest = all) := by
  cases iteration with
  | interrupted clock =>
      refine ⟨past, false, _, rfl, Runtime.Attended.tick ?_ clock, fun _ => hrest⟩
      simpa [Iteration.steps, Runtime.servingsIn] using hp
  | batch steps clock settimeOk =>
      obtain ⟨past', stopping', p', hsteps, hp', hrest'⟩ :=
        runSteps_attended hclock hint hio n rest steps past false p hp fun _ => hrest
      exact ⟨past', stopping', p'.armTimerFd clock settimeOk,
        by simp only [Runtime.runIteration, hsteps, Except.map], hp'.arm clock settimeOk, hrest'⟩

lemma runLoop_attended (hclock : (readings all).Pairwise (· ≤ ·))
    (hint : ∀ t ∈ readings all, IsInt64 t) (hio : (io id).AcceptsAfter start destination) (n : ℕ)
    (rest : List Readiness) :
    ∀ (iterations : List Iteration) (past : List Readiness) (stopping : Bool) (p : Runtime),
      p.Attended id (Winding id destination start
        (Runtime.servings io id destination iterations (stopping, p) + n)) (· ∈ readings past) →
      (stopping = false → past ++ (arrivals iterations [] ++ rest) = all) →
      ∃ past' stopping' p', Runtime.runLoop io iterations (stopping, p) = .ok (stopping', p') ∧
        p'.Attended id (Winding id destination start n) (· ∈ readings past') ∧
        (stopping' = false → past' ++ rest = all)
  | [], past, stopping, p, hp, hrest =>
      ⟨past, stopping, p, rfl, by simpa [Runtime.servings] using hp, hrest⟩
  | iteration :: iterations, past, true, p, hp, hrest =>
      ⟨past, true, p, rfl, by simpa [Runtime.servings] using hp, by simp⟩
  | iteration :: iterations, past, false, p, hp, hrest => by
      have hsplit : arrivals (iteration :: iterations) [] ++ rest =
          iteration.steps.filterMap LoopStep.event? ++ (arrivals iterations [] ++ rest) := by
        simp [arrivals]
      have hall := hsplit ▸ hrest rfl
      simp only [Runtime.servings, Bool.false_eq_true, if_false] at hp
      rcases hstate : Runtime.runIteration io iteration p with e | ⟨stopping', p'⟩
      · rw [hstate, Nat.add_zero] at hp
        obtain ⟨-, stopping', p', hiteration, -, -⟩ :=
          runIteration_attended hclock hint hio n (arrivals iterations [] ++ rest) iteration hp hall
        cases hstate.symm.trans hiteration
      · rw [hstate, Nat.add_assoc] at hp
        obtain ⟨past', stopping'', p'', hiteration, hp', hrest'⟩ :=
          runIteration_attended hclock hint hio _ (arrivals iterations [] ++ rest) iteration hp hall
        obtain ⟨rfl, rfl⟩ := Prod.mk.inj (Except.ok.inj (hstate.symm.trans hiteration))
        simp only [Runtime.runLoop, Bool.false_eq_true, if_false, hstate]
        exact runLoop_attended hclock hint hio n rest iterations past' stopping' p' hp' hrest'

lemma Runtime.Attended.raise {bound bound' : ℕ}
    (h : p.Attended id (Winding id destination start bound) seen) (hle : bound ≤ bound') :
    p.Attended id (Winding id destination start bound') seen := by
  refine { h with rests := fun id' c hlive => ?_ }
  obtain ⟨time, htime, hrests, hw⟩ := h.rests id' c hlive
  exact ⟨time, htime, hrests, fun heq => { hw heq with load := (hw heq).load.trans hle }⟩

/-- Nothing is left to be done when nothing waits. -/
lemma Runtime.Attended.idle {bound : ℕ}
    (h : p.Attended id (Winding id destination start bound) seen)
    (hidle : p.waits id destination = false) :
    p.Attended id (Winding id destination start 0) seen := by
  refine { h with rests := fun id' c hlive => ?_ }
  obtain ⟨time, htime, hrests, hw⟩ := h.rests id' c hlive
  refine ⟨time, htime, hrests, fun heq => { hw heq with load := ?_ }⟩
  subst heq
  rcases hopen : c.session.relay.writeOpen destination with _ | _
  · exact (Relay.load_of_closed hopen).le
  have hsize : (c.session.relay.directionFrom destination.peer).queue.size = 0 := by
    by_contra hne
    have hwaits : c.waits destination = true :=
      Connection.waits_iff.mpr ⟨hopen, (hw rfl).connected, Nat.pos_of_ne_zero hne⟩
    rw [Runtime.waits, show p.connections.lookup id' = some c from hlive, Option.any_some,
      hwaits] at hidle
    cases hidle
  have hload : c.session.relay.load destination time ≤ 2 * _ :=
    (h.sound.session id' c hlive).inv.load_le
  omega

/-- **A round that serves what waits takes from the load.** -/
lemma runLoop_lower (hclock : (readings all).Pairwise (· ≤ ·))
    (hint : ∀ t ∈ readings all, IsInt64 t) (hio : (io id).AcceptsAfter start destination) {n : ℕ}
    (rest : List Readiness) {round : List Iteration} {past : List Readiness} {stopping : Bool}
    (hp : p.Attended id (Winding id destination start (n + 1)) (· ∈ readings past))
    (hserved : p.waits id destination = true →
      0 < Runtime.servings io id destination round (stopping, p))
    (hrest : stopping = false → past ++ (arrivals round [] ++ rest) = all) :
    ∃ past' stopping' p', Runtime.runLoop io round (stopping, p) = .ok (stopping', p') ∧
      p'.Attended id (Winding id destination start n) (· ∈ readings past') ∧
      (stopping' = false → past' ++ rest = all) := by
  rcases hwaits : p.waits id destination with _ | _
  · exact runLoop_attended hclock hint hio n rest round past stopping p
      ((hp.idle hwaits).raise (Nat.zero_le _)) hrest
  · have hpos := hserved hwaits
    exact runLoop_attended hclock hint hio n rest round past stopping p (hp.raise (by omega)) hrest

/-- **Enough rounds take all of it.**  The induction is on the rounds that are left. -/
lemma runLoop_flatten (hclock : (readings all).Pairwise (· ≤ ·))
    (hint : ∀ t ∈ readings all, IsInt64 t) (hio : (io id).AcceptsAfter start destination) :
    ∀ (rounds : List (List Iteration)) (past : List Readiness) (stopping : Bool) (p : Runtime),
      p.Attended id (Winding id destination start rounds.length) (· ∈ readings past) →
      Runtime.fair io id destination rounds (stopping, p) = true →
      (stopping = false → past ++ arrivals rounds.flatten [] = all) →
      ∃ past' stopping' p',
        Runtime.runLoop io rounds.flatten (stopping, p) = .ok (stopping', p') ∧
        p'.Attended id (Winding id destination start 0) (· ∈ readings past')
  | [], past, stopping, p, hp, hfair, hrest => ⟨past, stopping, p, rfl, hp⟩
  | round :: rounds, past, stopping, p, hp, hfair, hrest => by
      have hsplit : arrivals (round :: rounds).flatten [] =
          arrivals round [] ++ arrivals rounds.flatten [] := by
        simp [arrivals]
      rw [Runtime.fair, Bool.and_eq_true, Bool.or_eq_true, Bool.not_eq_true',
        decide_eq_true_eq] at hfair
      obtain ⟨hserved, hlater⟩ := hfair
      obtain ⟨past', stopping', p', hround, hp', hrest'⟩ := runLoop_lower hclock hint hio
        (arrivals rounds.flatten []) hp
        (fun hwaits => hserved.resolve_left (by simp [hwaits])) (hsplit ▸ hrest)
      rw [hround] at hlater
      rw [List.flatten_cons, Runtime.runLoop_append, hround]
      exact runLoop_flatten hclock hint hio rounds past' stopping' p' hp' hlater hrest'

/-- Every live connection is at rest in a run whose clock does not go back. -/
lemma Run.attended {config : ProxyConfig} {past : List Readiness} {stopping : Bool}
    (h : Run io config (fun past event _ => past ++ [event] <+: all) past stopping p)
    (hconfig : config.validate = .ok ()) (hburst : config.faults.effectiveBurstBytes ≤ 18000000000)
    (hclock : (readings all).Pairwise (· ≤ ·)) (hint : ∀ t ∈ readings all, IsInt64 t) :
    p.Attended 0 (fun _ _ _ => True) (· ∈ readings past) := by
  have htrivial : Enduring io 0 fun _ _ _ => True :=
    ⟨fun _ _ _ _ _ _ _ _ _ => trivial, fun _ _ _ _ => trivial⟩
  induction h with
  | start =>
      exact ⟨⟨hconfig, fun id c hlive => by cases hlive⟩, Runtime.consistent_init config,
        fun id c hlive => (by cases hlive), hburst, Nat.one_pos, fun id c hlive => by cases hlive⟩
  | @ready past p event stopping p' before allows handled ih =>
      obtain ⟨rest, hrest⟩ := allows
      have hall : past ++ event :: rest = all := by
        rw [← hrest, List.append_assoc]
        rfl
      refine dispatch_attended htrivial (ih.mono fun t ht => ?_) (fun now hmem => ?_)
        (fun t ht => (hint t ?_).1) (readings_late hclock hall) handled
      · rw [readings, List.flatMap_append]
        exact List.mem_append_left _ ht
      · rw [readings, List.flatMap_append, List.flatMap_singleton]
        exact List.mem_append_right _ hmem
      · rw [← hrest, readings, List.flatMap_append]
        exact List.mem_append_left _ ht
  | tick clock before ih => exact ih.tick clock
  | arm clock ok before ih => exact ih.arm clock ok

end Runs

/-! ## What is served often enough passes -/

/-- Everything the relay has received for `destination` was passed on and the socket shut down after
it; where a half-close of the client was injected, it may stand for that of `destination`. -/
structure Session.PassedOn (s : Session) (destination : Side) : Prop where
  closed : s.relay.writeOpen destination = false
  delivered : (destination = .client → .shutdownWrite .client .injected true ∉ s.trace) →
    s.trace.sent destination = s.trace.received destination.peer

section PassedOn

variable {io : ℕ → SocketIo} {id : ℕ} {destination : Side} {start : Trace} {seen : ℤ → Prop}
  {config : ProxyConfig} {p : Runtime} {c : Connection} {s : Session}

/-- Nothing is left to be done and nothing to be shut down. -/
lemma Session.Winding.passedOn {time : ℤ} (h : s.Winding destination start 0 time)
    (hs : s.Sound config) (hnone : ¬s.Forwardable destination) : s.PassedOn destination := by
  have hclosed : s.relay.writeOpen destination = false := by
    by_contra hopen
    rw [Bool.not_eq_false] at hopen
    have hload := h.load
    rw [Relay.load_of_open hopen] at hload
    exact hnone ⟨h.ended, by omega, hopen, fun _ => h.connected⟩
  refine ⟨hclosed, fun hplain => ?_⟩
  obtain ⟨cause, he⟩ := hs.lifecycle.exists_shutdown hclosed
  obtain ⟨past, future, htrace, -, hsent⟩ := hs.lifecycle.delivered_before he (by
    rintro ⟨rfl, rfl⟩
    exact hplain rfl he)
  exact (hs.intact destination.peer).sent_eq htrace hsent

/-- The stream towards `destination` is over, its socket takes what it is offered, and in each of
the rounds, two for every byte that is queued, it is served as long as bytes are waiting. -/
structure ServedOut (io : ℕ → SocketIo) (id : ℕ) (destination : Side)
    (rounds : List (List Iteration)) (state : Bool × Runtime) (s : Session) : Prop where
  ended : s.relay.readOpen destination.peer = false
  accepts : (io id).AcceptsAfter s.trace destination
  fair : Runtime.fair io id destination rounds state = true
  rounds : 2 * (s.relay.directionFrom destination.peer).queue.size ≤ rounds.length

/-- A connection at rest whose stream is over is winding up. -/
lemma Runtime.Attended.winding (h : p.Attended 0 (fun _ _ _ => True) seen) (hlive : p.Live id c)
    (hconnected : c.session.relay.upstreamConnecting = false)
    (hended : c.session.relay.readOpen destination.peer = false) {bound : ℕ}
    (hbound : 2 * (c.session.relay.directionFrom destination.peer).queue.size ≤ bound) :
    p.Attended id (Winding id destination c.session.trace bound) seen := by
  refine ⟨h.sound, h.table, h.awake, h.burst, (h.table.id_given hlive).2, fun id' c' hlive' => ?_⟩
  obtain ⟨time, htime, hrests, -⟩ := h.rests id' c' hlive'
  refine ⟨time, htime, hrests, fun heq => ?_⟩
  subst heq
  obtain rfl : c = c' := Option.some.inj (hlive.symm.trans hlive')
  exact ⟨hconnected, hended, List.prefix_rfl,
    (h.sound.session _ c hlive).inv.load_le.trans hbound⟩

/-- A stream that is served out has passed on, or its connection is gone. -/
lemma ServedOut.passedOn {all past : List Readiness} {rounds : List (List Iteration)}
    {stopping stopping' : Bool} {p' : Runtime} {c' : Connection}
    (h : ServedOut io id destination rounds (stopping, p) c.session)
    (hp : p.Attended 0 (fun _ _ _ => True) (· ∈ readings past)) (hlive : p.Live id c)
    (hconnected : c.session.relay.upstreamConnecting = false)
    (hclock : (readings all).Pairwise (· ≤ ·)) (hint : ∀ t ∈ readings all, IsInt64 t)
    (hall : stopping = false → past ++ arrivals rounds.flatten [] = all)
    (hrun : Runtime.runLoop io rounds.flatten (stopping, p) = .ok (stopping', p'))
    (hnone : p'.Propagated) (hlive' : p'.Live id c') :
    c'.session.PassedOn destination ∧ c'.session.relay.readOpen destination.peer = false ∧
      c'.session.relay.fullyDrained = false := by
  obtain ⟨past', stopping'', p'', hrun', hafter⟩ := runLoop_flatten hclock hint h.accepts rounds
    past stopping p (hp.winding hlive hconnected h.ended h.rounds) h.fair hall
  obtain ⟨rfl, rfl⟩ := Prod.mk.inj (Except.ok.inj (hrun'.symm.trans hrun))
  obtain ⟨time, -, hrests, hwinding⟩ := hafter.rests id c' hlive'
  exact ⟨(hwinding rfl).passedOn (hafter.sound.session id c' hlive') (hnone id c' hlive' _),
    (hwinding rfl).ended, hrests.undrained⟩

end PassedOn

/-- **No ended stream is forgotten.**  Take any moment of any run whose clock does not go back, and
a live connection that has connected.  If one of its peers has ended its stream, the socket on the
other side goes on taking what it is offered, and as long as bytes are waiting for that socket each
round of events has one that they are waiting for, then after two rounds for every byte all that was
received has been passed on and the socket shut down, unless the connection was closed on the way.
If that is so of both streams, the connection was closed. -/
theorem ended_streams_pass (io : ℕ → SocketIo) (config : ProxyConfig)
    (hconfig : config.validate = .ok ()) (hburst : config.faults.effectiveBurstBytes ≤ 18000000000)
    (hshutdown : ∀ id history side, (io id).shutdownWrite history side = true)
    (iterations : List Iteration) (rounds : List (List Iteration))
    (hclock : (readings (arrivals (iterations ++ rounds.flatten) [])).Pairwise (· ≤ ·))
    (hint : ∀ t ∈ readings (arrivals (iterations ++ rounds.flatten) []), IsInt64 t) :
    ∃ stopping p stopping' p',
      Runtime.runTo io config iterations [] = .ok (stopping, p) ∧
      Runtime.runTo io config (iterations ++ rounds.flatten) [] = .ok (stopping', p') ∧
      ∀ id c, p.connections.lookup id = some c → c.session.relay.upstreamConnecting = false →
        (∀ destination, ServedOut io id destination rounds (stopping, p) c.session →
          ∀ c', p'.connections.lookup id = some c' → c'.session.PassedOn destination) ∧
        ((∀ destination, ServedOut io id destination rounds (stopping, p) c.session) →
          p'.connections.lookup id = none) := by
  obtain ⟨all, hall⟩ : ∃ all, all = arrivals (iterations ++ rounds.flatten) [] := ⟨_, rfl⟩
  rw [← hall] at hclock hint
  have hsplit : arrivals iterations [] ++ arrivals rounds.flatten [] = all := by
    rw [hall]
    simp [arrivals]
  have hstart : Run io config (fun past event _ => past ++ [event] <+: all) [] false { config } :=
    .start
  obtain ⟨past, stopping, p, hloop, hrun, hrest⟩ := runLoop_run hconfig (fun _ _ h => h)
    (arrivals rounds.flatten []) iterations [] false { config } hstart fun _ => hsplit
  obtain ⟨stopping', p', hto, -, hnone⟩ := (Runtime.Propagated.invariant io).runTo hconfig
    (fun _ id c hlive => by cases hlive) (iterations ++ rounds.flatten) [] (by simp) (by simp)
  have hmore : Runtime.runLoop io rounds.flatten (stopping, p) = .ok (stopping', p') := by
    rw [Runtime.runTo_nil, Runtime.runLoop_append, hloop] at hto
    exact hto
  have hp := hrun.attended hconfig hburst hclock hint
  refine ⟨stopping, p, stopping', p', (Runtime.runTo_nil ..).trans hloop, hto, ?_⟩
  intro id c hlive hconnected
  refine ⟨fun destination hserved c' hlive' => ?_, fun hserved => ?_⟩
  · exact (hserved.passedOn hp hlive hconnected hclock hint hrest hmore (hnone hshutdown) hlive').1
  · rcases hgone : p'.connections.lookup id with _ | c'
    · rfl
    have hpassed := fun destination => (hserved destination).passedOn hp hlive hconnected hclock
      hint hrest hmore (hnone hshutdown) hgone
    have hdrained : c'.session.relay.fullyDrained = true := by
      refine Relay.fullyDrained_iff.mpr fun side => ⟨?_, .inr (hpassed side.peer).1.closed⟩
      have hended := (hpassed side.peer).2.1
      rwa [Side.peer_peer] at hended
    rw [(hpassed .client).2.2] at hdrained
    cases hdrained

lemma SocketIo.closing_accepts (inbound : Side → List Byte) (start : Trace) (side : Side) :
    (SocketIo.closing inbound).AcceptsAfter start side :=
  fun _ _ _ hne => ⟨_, if_neg hne⟩

/-- The client sends three bytes and ends its stream; upstream only ends its stream. -/
def briefPeers (_ : ℕ) : SocketIo :=
  .closing fun side => if side = .client then [1, 2, 3] else []

/-- Small buffers and a delay of five milliseconds. -/
def delayingConfig : ProxyConfig :=
  { bufferBytesPerDirection := 1024, lowWaterBytes := 512, highWaterBytes := 1024
    faults := { latency := 5 } }

/-- A connection is accepted, and both its sockets have something to read. -/
def briefExchange : List Iteration :=
  [.batch [.ready { token := 1, accepts := [.accepted (.opened false 10)] }] 11 true,
    .batch [.ready { token := 4, events := { epollin := true, epollrdhup := true }, now := 12 },
      .ready { token := 5, events := { epollin := true, epollrdhup := true }, now := 13 }] 14 true]

/-- The timer fires after the delay, and no more happens. -/
def delayOver : List (List Iteration) :=
  [[.batch [.ready { token := 3, now := 6000000 }] 6000001 true], [], [], [], [], []]

/-- The bytes of the client are held back when both streams have ended, and the connection waits for
them. -/
theorem ended_streams_pass_delayed :
    ∃ stopping p stopping' p' c,
      Runtime.runTo briefPeers delayingConfig briefExchange [] = .ok (stopping, p) ∧
      p.connections.lookup 1 = some c ∧ p.waits 1 .upstream = true ∧
      Runtime.runTo briefPeers delayingConfig (briefExchange ++ delayOver.flatten) [] =
        .ok (stopping', p') ∧
      p'.connections.lookup 1 = none := by
  have hcheck : returns (Runtime.runTo briefPeers delayingConfig briefExchange []) (fun state =>
      (state.2.connections.lookup 1).any (fun c => c.waits .upstream &&
        !c.session.relay.upstreamConnecting && [Side.client, .upstream].all fun side =>
          decide (2 * (c.session.relay.directionFrom side.peer).queue.size ≤ delayOver.length) &&
            !c.session.relay.readOpen side.peer &&
            Runtime.fair briefPeers 1 side delayOver state)) = true := by
    decide +kernel
  obtain ⟨⟨stopping, p⟩, hrun, htest⟩ := exists_of_returns hcheck
  simp only [Bool.and_eq_true, Option.any_eq_true, Bool.not_eq_true', List.all_eq_true,
    decide_eq_true_eq] at htest
  obtain ⟨c, hlive, ⟨hwaits, hconnected⟩, hsides⟩ := htest
  obtain ⟨stopping', p', stopping'', p'', hrun', hto, hpass⟩ := ended_streams_pass briefPeers
    delayingConfig (by decide +kernel) (by decide) (fun _ _ _ => rfl) briefExchange delayOver
    (by decide +kernel) (by decide +kernel)
  obtain ⟨rfl, rfl⟩ := Prod.mk.inj (Except.ok.inj (hrun.symm.trans hrun'))
  refine ⟨stopping, p, stopping'', p'', c, hrun, hlive, ?_, hto, ?_⟩
  · rw [Runtime.waits, hlive]
    exact hwaits
  · refine (hpass 1 c hlive hconnected).2 fun destination => ?_
    obtain ⟨⟨hrounds, hended⟩, hfair⟩ := hsides destination (by cases destination <;> simp)
    exact ⟨hended, SocketIo.closing_accepts _ _ _, hfair, hrounds⟩

end NetFault
