import NetFault.Proxy.ConnectionTable
import NetFault.Proxy.Wakeups
import NetFault.Relay.Passage
import NetFault.Relay.Winding

/-!
# Pump timers and their duplicates

`scheduled_wake` remembers one deadline of a connection.  As long as it is only set while no pump is
pending, it names the one pending pump, and a connection has no other.  The branch of
`schedule_relay_wake` that schedules an earlier wake than the one remembered breaks this: the
later entry stays in the queue and is forgotten, and once the earlier one has fired, the same
deadline is scheduled again.  Only a socket event can take that branch: a pump that the queue asks
for finds its own entry gone.  `Runtime.Steady` says which events do not, and a plan that delays one
direction at most (`FaultPlan.DelaysOneWay`) has no others.
-/

namespace NetFault

/-- Only one pump of the connection is pending, the one that `scheduled_wake` speaks of. -/
structure Connection.Single (id : ℕ) (heap : List TimerEvent) (c : Connection) : Prop where
  scheduled : ∀ e ∈ heap, e.Wakes id → c.scheduledWake = some e.deadline
  once : heap.countP (fun e => decide (e.Wakes id)) ≤ 1

/-- No act makes the scheduled wake of a connection earlier. -/
def Runtime.NoEarlier (p p' : Runtime) : Prop :=
  ∀ id c c' scheduled wake, p.Live id c → p'.Live id c' → c.scheduledWake = some scheduled →
    c'.scheduledWake = some wake → scheduled ≤ wake

section Single

variable {io : SocketIo} {now : ℤ} {id : ℕ} {c c' : Connection} {p p' mid : Runtime}
  {heap heap' : List TimerEvent} {event : TimerEvent} {q : TimerQueue}

namespace Connection.Single

/-- An entry that is no pump of the connection may be scheduled. -/
lemma schedule (h : c.Single id q.heap) {deadline : ℤ} {id' : ℕ} {kind : TimerKind}
    (hother : ¬(id' = id ∧ kind = .pump)) :
    c.Single id (q.schedule deadline id' kind).heap := by
  constructor
  · intro e he hwakes
    obtain rfl | he := TimerQueue.mem_schedule.mp he
    · exact absurd hwakes hother
    · exact h.scheduled e he hwakes
  · have hnot : ¬(q.entry deadline id' kind).Wakes id := hother
    rw [TimerQueue.countP_schedule, if_neg (by simpa using hnot)]
    exact h.once

lemma pop (h : c.Single id (event :: heap)) : c.Single id heap := by
  refine ⟨fun e he => h.scheduled e (List.mem_cons_of_mem _ he), le_trans ?_ h.once⟩
  exact (List.sublist_cons_self event heap).countP_le

/-- When the pump is popped, none is left. -/
lemma pop_self (h : c.Single id (event :: heap)) (hwakes : event.Wakes id) :
    c.scheduledWake = some event.deadline ∧ ∀ e ∈ heap, ¬e.Wakes id := by
  refine ⟨h.scheduled event (List.mem_cons_self ..) hwakes, fun e he hwakes' => ?_⟩
  have honce := h.once
  rw [List.countP_cons_of_pos (by simpa using hwakes)] at honce
  have hpos : 0 < heap.countP fun e => decide (e.Wakes id) :=
    List.countP_pos_iff.mpr ⟨e, he, by simpa using hwakes'⟩
  omega

/-- The first pump may be scheduled. -/
lemma schedule_self (hnone : ∀ e ∈ q.heap, ¬e.Wakes id) {wake : ℤ}
    (hwake : c.scheduledWake = some wake) : c.Single id (q.schedule wake id .pump).heap := by
  constructor
  · intro e he hwakes
    obtain rfl | he := TimerQueue.mem_schedule.mp he
    · exact hwake
    · exact absurd hwakes (hnone e he)
  · have hzero : q.heap.countP (fun e => decide (e.Wakes id)) = 0 := by
      rw [List.countP_eq_zero]
      intro e he
      simpa using hnone e he
    rw [TimerQueue.countP_schedule, hzero]
    split_ifs <;> omega

lemma of_scheduledWake (h : c.Single id heap) (heq : c'.scheduledWake = c.scheduledWake) :
    c'.Single id heap :=
  ⟨fun e he hwakes => heq.trans (h.scheduled e he hwakes), h.once⟩

end Connection.Single

/-- Work on a connection with at most one pump leaves it with at most one, unless it makes the
scheduled wake earlier. -/
lemma Work.single (h : Work io now id c p p') (hc : c.Single id p.timerQueue.heap)
    (hsteady : ∀ scheduled wake, c.scheduledWake = some scheduled →
      c'.scheduledWake = some wake → scheduled ≤ wake)
    (hlive : p'.Live id c') : c'.Single id p'.timerQueue.heap := by
  cases h with
  | closed session finalState reason advances abrupt => simp [Runtime.live_remove] at hlive
  | drained session advances drained => simp [Runtime.live_remove] at hlive
  | settled session advances undrained propagated =>
      have hrefresh := refreshed_refresh now { c with session }
      obtain ⟨w, q, heq, hwake⟩ :=
        scheduleWake_spec p id (({ c with session } : Connection).refresh now)
      rw [heq] at hlive ⊢
      obtain rfl := Runtime.eq_of_live_setConnection hlive
      obtain ⟨hw, rfl, -⟩ | ⟨wake, -, hearlier, hw, rfl⟩ := hwake
      · exact hc.of_scheduledWake (hw.trans hrefresh.scheduledWake)
      · refine .schedule_self (fun e he hwakes => ?_) hw
        have hscheduled := hc.scheduled e he hwakes
        have hlt := hearlier e.deadline (hrefresh.scheduledWake.trans hscheduled)
        have hle := hsteady e.deadline wake hscheduled hw
        omega

/-- The entries that work leaves for other connections. -/
lemma Work.single_other {config : ProxyConfig} (h : Work io now id c p p')
    (hs : c.session.Sound config) {id' : ℕ} (hne : id' ≠ id)
    (hc : c'.Single id' p.timerQueue.heap) : c'.Single id' p'.timerQueue.heap := by
  rcases h.timerQueue hs with heq | ⟨wake, -, heq⟩
  · rwa [heq]
  · rw [heq]
    exact hc.schedule fun hself => hne hself.1.symm

end Single

/-- Every live connection has at most one pending pump. -/
def Runtime.Single (p : Runtime) : Prop :=
  ∀ id c, p.Live id c → c.Single id p.timerQueue.heap

section Acts

variable {io : ℕ → SocketIo} {now : ℤ} {p p' mid : Runtime} {event : TimerEvent}

lemma Popped.single (h : Popped now event p mid) (hp : p.Single) : mid.Single := by
  intro id c hlive
  have hsingle := hp id c (h.live.mp hlive)
  rw [(TimerQueue.popDue_eq_some h.popped).1] at hsingle
  exact hsingle.pop

lemma scheduleTimeouts_single {id id' : ℕ} {c : Connection} {connecting : Bool}
    {config : ProxyConfig} {q : TimerQueue} (h : c.Single id q.heap) :
    c.Single id (Runtime.scheduleTimeouts id' connecting now config q).heap :=
  scheduleTimeouts_rule (fun q => c.Single id q.heap)
    (fun _ _ _ hkind hq => hq.schedule fun hself => hkind hself.2) h

/-- **What an act does to the pending pumps.**  An act that deals with a due entry keeps every
connection at one pump, and so does every other that makes no scheduled wake earlier. -/
lemma Act.single (h : Act io now p p') (hs : p.Sound) (htable : p.Consistent) (hp : p.Single)
    (hsteady : p'.timerQueue.due now < p.timerQueue.due now ∨ p.NoEarlier p') : p'.Single := by
  cases h with
  | accept connecting c newborn token room =>
      intro id' c' hlive
      obtain ⟨rfl, rfl⟩ | ⟨-, hold⟩ := Runtime.live_accepted.mp hlive
      · have hnone : ∀ e ∈ p.timerQueue.heap, ¬e.Wakes p.nextConnectionId :=
          fun e he hwakes => htable.no_entry e he hwakes.1
        refine scheduleTimeouts_single ⟨fun e he hwakes => absurd hwakes (hnone e he), ?_⟩
        rw [List.countP_eq_zero.mpr (by simpa using hnone)]
        exact Nat.zero_le 1
      · exact scheduleTimeouts_single (hp id' c' hold)
  | serve id c _ live work =>
      have hsession := hs.session id c live
      have hsame : p'.timerQueue.due now = p.timerQueue.due now := by
        rcases work.timerQueue hsession with heq | ⟨wake, hlater, heq⟩
        · rw [heq]
        · rw [heq, TimerQueue.due_schedule hlater]
      have hno : p.NoEarlier p' := hsteady.resolve_left (by omega)
      intro id' c' hlive
      by_cases heq : id' = id
      · subst heq
        exact work.single (hp id' c live)
          (fun scheduled wake hc hc' => hno id' c c' scheduled wake live hlive hc hc') hlive
      · exact work.single_other hsession heq (hp id' c' ((work.frame.2.2.2 id' c' heq).mp hlive))
  | fire => exact hp
  | skip event _ popped idle => exact popped.single hp
  | wake event c mid _ popped live kind work =>
      have hsession : (c.resetDueWake now).session.Sound p.config := hs.resetDueWake live
      obtain ⟨hheap, hdue⟩ := TimerQueue.popDue_eq_some popped.popped
      intro id' c' hlive
      by_cases heq : id' = event.connectionId
      · -- the entry was the one remembered, so nothing is remembered and nothing is pending
        subst heq
        have hsingle := hp _ c live
        rw [hheap] at hsingle
        obtain ⟨hscheduled, hnone⟩ := hsingle.pop_self ⟨rfl, kind⟩
        have hreset : (c.resetDueWake now).scheduledWake = none := by
          simp [Connection.resetDueWake, hscheduled, hdue]
        refine work.single ⟨fun e he hwakes => absurd hwakes (hnone e he), ?_⟩ ?_ hlive
        · rw [List.countP_eq_zero.mpr (by simpa using hnone)]
          exact Nat.zero_le 1
        · intro scheduled wake hc
          rw [hreset] at hc
          cases hc
      · have hold := (work.frame.2.2.2 id' c' heq).mp hlive
        exact work.single_other hsession heq (popped.single hp id' c' hold)
  | timeOut event c mid reason popped live due =>
      intro id' c' hlive
      rw [Runtime.remove_timerQueue]
      exact popped.single hp id' c' (Runtime.live_remove.mp hlive).2
  | postpone event c mid popped live kind active =>
      intro id' c' hlive
      exact (popped.single hp id' c' hlive).schedule (by simp)

end Acts

/-! ## Events that overtake nothing -/

/-- What the two sockets are asked and answer, with the notes of it, while an event on one of them
is read and the queues are flushed; none if that closes the connection. -/
def Session.exchange (io : SocketIo) (side : Side) (event : Readiness) (s : Session) :
    Option Trace :=
  match s.serveSocket io side event with
  | .ok (.proceed, read) =>
      match read.flushBoth io event.now with
      | .ok (.proceed, flushed) => some (flushed.trace.drop s.trace.length)
      | _ => none
  | _ => none

/-- The event leaves nothing that waits for a time before the scheduled wake.  That is, when it
comes to a connection before its scheduled wake, then in neither direction whose destination has not
been shut down do the bytes that were queued before, and the blocks received in it, less what is
accepted in it, leave a first byte with an earlier stamp to come, or bytes that lack so few tokens
that the rate earns them earlier. -/
def Runtime.Steady (io : ℕ → SocketIo) (event : Readiness) (p : Runtime) : Prop :=
  ∀ binding ∈ p.bindings.lookup event.token,
    ∀ c ∈ p.connections.lookup binding.connectionId,
      ∀ scheduled ∈ c.scheduledWake, event.now < scheduled →
        ∀ events ∈ c.session.exchange (io binding.connectionId) binding.side event,
          ∀ source, (c.session.trace ++ events).count (TraceEvent.isShutdown source.peer) = 0 →
            (c.session.relay.directionFrom source).WaitsUntil (events.passage source) event.now
              scheduled

instance (io : ℕ → SocketIo) (event : Readiness) (p : Runtime) : Decidable (p.Steady io event) :=
  inferInstanceAs (Decidable (∀ _ ∈ _, ∀ _ ∈ _, ∀ _ ∈ _, _ → ∀ _ ∈ _, ∀ _, _ → _))

/-- The wake that a pump at `now` computes: what `next_wake` answers after the flushes and the
half-closes. -/
def Session.wakeAfterPump (io : SocketIo) (now : ℤ) (s : Session) : Option ℤ :=
  match s.flushBoth io now with
  | .ok (.proceed, s) =>
      let relay := (s.propagateHalfCloses io).relay
      earlier (relay.nextWake .upstream now).1 (relay.nextWake .client now).1
  | _ => none

section Events

variable {io : ℕ → SocketIo} {now : ℤ} {p p' : Runtime} {id : ℕ} {c c' : Connection}

/-- A pump leaves the scheduled wake as it is, or sets it to the wake it computes. -/
lemma pumpConnection_scheduledWake (hlive : p.Live id c)
    (hpump : p.pumpConnection io id now = .ok p') (hlive' : p'.Live id c') :
    c'.scheduledWake = c.scheduledWake ∨
      c'.scheduledWake = c.session.wakeAfterPump (io id) now := by
  rcases hflush : c.session.flushBoth (io id) now with fault | ⟨_ | ⟨finalState, reason⟩, session⟩
  · rw [Runtime.pumpConnection, show p.connections.lookup id = some c from hlive] at hpump
    simp only [hflush] at hpump
    cases hpump
  · rw [pumpConnection_proceed io now hlive hflush] at hpump
    split_ifs at hpump with hdrained
    · cases hpump
      simp [Runtime.live_remove] at hlive'
    · cases hpump
      have hrefresh := refreshed_refresh now
        { c with session := session.propagateHalfCloses (io id) }
      obtain ⟨w, q, heq, hwake⟩ := scheduleWake_spec p id
        (({ c with session := session.propagateHalfCloses (io id) } : Connection).refresh now)
      rw [heq] at hlive'
      obtain rfl := Runtime.eq_of_live_setConnection hlive'
      obtain ⟨hw, -⟩ | ⟨wake, hearlier, -, hw, -⟩ := hwake
      · exact .inl (hw.trans hrefresh.scheduledWake)
      · refine .inr (hw.trans ?_)
        rw [Session.wakeAfterPump, hflush, ← hearlier, hrefresh.lastWake, hrefresh.lastWake]
  · rw [Runtime.pumpConnection, show p.connections.lookup id = some c from hlive] at hpump
    simp only [hflush] at hpump
    cases hpump
    rw [Runtime.closeConnection_setConnection] at hlive'
    simp [Runtime.live_remove] at hlive'

/-- Passing on a half-close leaves the directions as they are. -/
lemma propagateHalfCloses_directionFrom (s : Session) (io : SocketIo) :
    (s.propagateHalfCloses io).relay.directionFrom = s.relay.directionFrom := by
  obtain ⟨mid, hfirst, hsecond⟩ := propagateHalfCloses_cases io s
  have hmid : mid.relay.directionFrom = s.relay.directionFrom := by
    rcases hfirst with ⟨-, rfl⟩ | ⟨-, rfl⟩
    · exact Session.forwardHalfClose_directionFrom ..
    · rfl
  rcases hsecond with ⟨-, heq⟩ | ⟨-, heq⟩ <;> rw [heq]
  · rw [Session.forwardHalfClose_directionFrom, hmid]
  · exact hmid

/-- **After a steady event the wake is not before the scheduled one.** -/
lemma Runtime.Steady.le_wakeAfterPump {event : Readiness} (h : p.Steady io event) (hs : p.Sound)
    {binding : SocketBinding} {session : Session} {scheduled wake : ℤ}
    (hbinding : p.bindings.lookup event.token = some binding)
    (hlive : p.Live binding.connectionId c) (hscheduled : c.scheduledWake = some scheduled)
    (hserve : c.session.serveSocket (io binding.connectionId) binding.side event =
      .ok (.proceed, session))
    (hwake : session.wakeAfterPump (io binding.connectionId) event.now = some wake) :
    scheduled ≤ wake := by
  have hsession := hs.session _ c hlive
  obtain ⟨result, read, hserve', -, hread⟩ := serveSocket_spec (io binding.connectionId)
    hsession.inv binding.side event
  obtain ⟨rfl, rfl⟩ := Prod.mk.inj (Except.ok.inj (hserve'.symm.trans hserve))
  obtain ⟨result, flushed, hflush, -, hflushed⟩ := flushBoth_spec (io binding.connectionId)
    event.now (hsession.advances hread).inv
  rw [Session.wakeAfterPump, hflush] at hwake
  rcases result with _ | ⟨finalState, reason⟩
  swap
  · cases hwake
  have hadvances := hread.trans hflushed
  have hpropagated : c.session.Advances (io binding.connectionId) event.now
      (flushed.propagateHalfCloses (io binding.connectionId)) :=
    hadvances.trans propagateHalfCloses_advances
  have hafter := hsession.advances hpropagated
  obtain ⟨destination, hnext⟩ : ∃ destination, ((flushed.propagateHalfCloses
      (io binding.connectionId)).relay.nextWake destination event.now).1 = some wake := by
    rcases earlier_eq_some hwake with heq | heq
    · exact ⟨.upstream, heq⟩
    · exact ⟨.client, heq⟩
  rcases lt_or_ge event.now scheduled with hbefore | hpast
  swap
  · exact hpast.trans (lt_of_nextWake hafter.inv
      (fun channel b hc hb => hafter.rate destination.peer hc hb) hnext).le
  obtain ⟨events, hpassed⟩ := hadvances.moves.passed hsession.inv
  have hopen : flushed.relay.writeOpen destination = true := by
    by_contra hclosed
    have hmoves : Moves (io binding.connectionId) event.now flushed
        (flushed.propagateHalfCloses (io binding.connectionId)) := propagateHalfCloses_moves
    have hclosed' := hmoves.preserves (P := fun m => m.relay.writeOpen destination = false)
      (hsession.advances hadvances).inv (by simpa using hclosed)
      fun _ _ _ hm hmove => hmove.writeOpen_eq_false hm
    simp [Relay.nextWake, hclosed'] at hnext
  have hcount : (c.session.trace ++ events).count (TraceEvent.isShutdown destination) = 0 := by
    rw [← hpassed.trace]
    exact (hsession.advances hadvances).lifecycle.shutdowns_of_open hopen
  have hdir := propagateHalfCloses_directionFrom flushed (io binding.connectionId)
  have hexchange : c.session.exchange (io binding.connectionId) binding.side event =
      some events := by
    simp only [Session.exchange, hserve, hflush]
    rw [hpassed.trace, List.drop_left]
  refine le_nextWake (hafter.inv destination.peer)
    (fun channel b hc hb => hafter.rate destination.peer hc hb) ?_
    (h binding hbinding c hlive scheduled hscheduled hbefore events hexchange destination.peer
      (by rwa [Side.peer_peer])) hnext
  rw [hdir]
  exact hpassed.direction destination.peer

/-- What is not touched is not made earlier. -/
lemma Runtime.noEarlier_of_live
    (h : ∀ id c', p'.Live id c' → p.Live id c' ∨
      ∀ c scheduled wake, p.Live id c → c.scheduledWake = some scheduled →
        c'.scheduledWake = some wake → scheduled ≤ wake) : p.NoEarlier p' := by
  intro id c c' scheduled wake hlive hlive' hscheduled hwake
  rcases h id c' hlive' with hsame | hle
  · obtain rfl : c = c' := Option.some.inj (hlive.symm.trans hsame)
    exact (Option.some.inj (hscheduled.symm.trans hwake)).le
  · exact hle c scheduled wake hlive hscheduled hwake

/-- **A steady socket event makes no scheduled wake earlier.** -/
lemma Runtime.Steady.noEarlier {event : Readiness} (h : p.Steady io event) (hs : p.Sound)
    (hready : p.socketReady io event = .ok p') : p.NoEarlier p' := by
  refine Runtime.noEarlier_of_live fun id' c' hlive' => ?_
  rw [Runtime.socketReady] at hready
  rcases hbinding : p.bindings.lookup event.token with _ | binding
  · simp only [hbinding] at hready
    cases hready
    exact .inl hlive'
  simp only [hbinding] at hready
  rcases hlive : p.connections.lookup binding.connectionId with _ | c
  · simp only [hlive] at hready
    cases hready
    exact .inl hlive'
  obtain ⟨result, session, hserve, -, hadvances⟩ := serveSocket_spec (io binding.connectionId)
    (hs.session _ c hlive).inv binding.side event
  simp only [hlive, hserve] at hready
  rcases result with _ | ⟨finalState, reason⟩
  swap
  · cases hready
    rw [Runtime.closeConnection_setConnection, Runtime.live_remove] at hlive'
    exact .inl hlive'.2
  obtain ⟨mid, hmid⟩ : ∃ mid, mid = p.setConnection binding.connectionId { c with session } :=
    ⟨_, rfl⟩
  have hlivemid : mid.Live binding.connectionId { c with session } :=
    hmid ▸ Runtime.live_setConnection_self
  simp only [← hmid] at hready
  obtain ⟨p'', hpump, hwork⟩ := pumpConnection_spec io event.now hlivemid
    (hadvances.moves.inv (hs.session _ c hlive).inv)
  obtain rfl : p'' = p' := Except.ok.inj (hpump.symm.trans hready)
  by_cases heq : id' = binding.connectionId
  · subst heq
    refine .inr fun c₀ scheduled wake hlive₀ hscheduled hwake => ?_
    obtain rfl : c = c₀ := Option.some.inj (hlive.symm.trans hlive₀)
    rcases pumpConnection_scheduledWake hlivemid hpump hlive' with hsame | hnew
    · exact (Option.some.inj (hscheduled.symm.trans (hsame.symm.trans hwake))).le
    · exact h.le_wakeAfterPump hs hbinding hlive hscheduled hserve (hnew.symm.trans hwake)
  · have hold := (hwork.frame.2.2.2 id' c' heq).mp hlive'
    rw [hmid, Runtime.live_setConnection] at hold
    exact .inl (hold.resolve_left fun hself => heq hself.1).2

/-- **What an event does to the pending pumps**, if it makes no scheduled wake earlier. -/
lemma dispatch_single {event : Readiness} {stopping : Bool} (hs : p.Sound) (htable : p.Consistent)
    (hp : p.Single)
    (hsteady : ∀ p' id c, p.socketReady io event = .ok p' → p.Live id c →
      Work (io id) event.now id c p p' → p.NoEarlier p')
    (hrun : p.dispatch io event = .ok (stopping, p')) : p'.Single := by
  refine (dispatch_rule (fun p => p.Consistent ∧ p.Single) hs ⟨htable, hp⟩ ?_ ?_ ?_ ?_ hrun).2
  · intro q connecting now c hq h _ hborn htoken hroom
    have hact : Act io now q (q.accepted connecting now c) :=
      .accept connecting c hborn htoken hroom
    refine ⟨hact.consistent h.1, hact.single hq h.1 h.2 (.inr ?_)⟩
    refine Runtime.noEarlier_of_live fun id c' hlive => ?_
    obtain ⟨rfl, rfl⟩ | ⟨-, hold⟩ := Runtime.live_accepted.mp hlive
    · refine .inr fun c₀ scheduled wake _ _ hwake => ?_
      rw [hborn.scheduledWake] at hwake
      cases hwake
    · exact .inl hold
  · have hfire : Act io event.now p { p.drainTimerFd with lastArmedDeadline := none } := .fire
    exact ⟨hfire.consistent htable, hp⟩
  · exact fun q q' hq h _ hact hless =>
      ⟨hact.consistent h.1, hact.single hq h.1 h.2 (.inl hless)⟩
  · intro p' _ hready id c hlive hwork
    have hact : Act io event.now p p' := .serve id c p' hlive hwork
    exact ⟨hact.consistent htable,
      hact.single hs htable hp (.inr (hsteady p' id c hready hlive hwork))⟩

end Events

/-- Events that make no scheduled wake earlier keep every connection at one pending pump; the
induction is on the run. -/
lemma Run.single {io : ℕ → SocketIo} {config : ProxyConfig} {past : List Readiness}
    {stopping : Bool} {p : Runtime} {allowed : List Readiness → Readiness → Runtime → Prop}
    (hconfig : config.validate = .ok ())
    (hsteady : ∀ past event p p' id c, Run io config allowed past false p → allowed past event p →
      p.socketReady io event = .ok p' → p.Live id c → Work (io id) event.now id c p p' →
      p.NoEarlier p')
    (hrun : Run io config allowed past stopping p) : p.Single := by
  induction hrun with
  | start =>
      intro id c hlive
      cases hlive
  | ready event stopping p' before allows handled ih =>
      have htable := (Runtime.Consistent.invariant io config).run before hconfig
        ⟨Runtime.consistent_init config, rfl⟩ (fun _ _ _ _ _ _ => trivial)
      exact dispatch_single (before.sound hconfig) htable.1 ih
        (fun p' id c => hsteady _ event _ p' id c before allows) handled
  | tick clock before ih => exact ih
  | arm clock ok before ih =>
      intro id c hlive
      rw [Runtime.armTimerFd_timerQueue]
      exact ih id c (by simpa [Runtime.Live] using hlive)

/-- **Pump timers are not duplicated, unless a wake is overtaken.**  In every run in which every
socket event is steady (`Runtime.Steady`: what it leaves queued waits for no time before the
scheduled wake), the timer queue holds at most one pump of each live connection at every moment, so
at most one for each deadline. -/
theorem pump_timers_deduplicated (io : ℕ → SocketIo) (config : ProxyConfig)
    (hconfig : config.validate = .ok ()) (past : List Readiness) (stopping : Bool) (p : Runtime)
    (hrun : Run io config (fun _ event p => p.Steady io event) past stopping p) (id : ℕ)
    (c : Connection) (hlive : p.connections.lookup id = some c) :
    p.timerQueue.heap.countP (fun e => e.connectionId = id ∧ e.kind = .pump) ≤ 1 ∧
      ∀ d, p.timerQueue.heap.countP
        (fun e => e.connectionId = id ∧ e.kind = .pump ∧ e.deadline = d) ≤ 1 := by
  have honce : p.timerQueue.heap.countP (fun e => e.connectionId = id ∧ e.kind = .pump) ≤ 1 :=
    (hrun.single hconfig (fun _ _ _ _ _ _ before steady hready _ _ =>
      steady.noEarlier (before.sound hconfig) hready) id c hlive).once
  refine ⟨honce, fun d => le_trans (List.countP_mono_left fun e _ he => ?_) honce⟩
  have hpump := of_decide_eq_true he
  exact decide_eq_true ⟨hpump.1, hpump.2.1⟩

/-- A delayed connection reads its client twice: the second block, read while the wake of the first
is scheduled, waits behind it. -/
theorem pump_timers_deduplicated_delayed :
    ∃ stopping p c,
      Run (fun _ => .script fun _ => [1, 2, 3])
        { bufferBytesPerDirection := 1024, lowWaterBytes := 512, highWaterBytes := 1024
          faults := { latency := 5, jitter := 2 } }
        (fun _ event p => p.Steady (fun _ => .script fun _ => [1, 2, 3]) event)
        [{ token := 1, accepts := [.accepted (.opened false 10)] },
          { token := 4, events := { epollin := true }, now := 12 },
          { token := 4, events := { epollin := true }, now := 13 }] stopping p ∧
      p.connections.lookup 1 = some c ∧ c.scheduledWake.isSome = true ∧
      ∀ d, p.timerQueue.heap.countP
        (fun e => e.connectionId = 1 ∧ e.kind = .pump ∧ e.deadline = d) ≤ 1 := by
  have hcheck : returns (Runtime.dispatch (fun _ => .script fun _ => [1, 2, 3])
      { token := 1, accepts := [.accepted (.opened false 10)] }
      { config := { bufferBytesPerDirection := 1024, lowWaterBytes := 512, highWaterBytes := 1024
                    faults := { latency := 5, jitter := 2 } } })
      (fun first => !first.1 && first.2.Steady (fun _ => .script fun _ => [1, 2, 3])
          { token := 4, events := { epollin := true }, now := 12 } &&
        returns (first.2.dispatch (fun _ => .script fun _ => [1, 2, 3])
          { token := 4, events := { epollin := true }, now := 12 })
          (fun second => !second.1 &&
            (second.2.connections.lookup 1).any (·.scheduledWake.isSome) &&
            second.2.Steady (fun _ => .script fun _ => [1, 2, 3])
              { token := 4, events := { epollin := true }, now := 13 } &&
            returns (second.2.dispatch (fun _ => .script fun _ => [1, 2, 3])
              { token := 4, events := { epollin := true }, now := 13 })
              (fun third => (third.2.connections.lookup 1).any (·.scheduledWake.isSome)))) =
        true := by
    decide +kernel
  obtain ⟨⟨stopping₁, p₁⟩, haccepted, htest⟩ := exists_of_returns hcheck
  simp only [Bool.and_eq_true, Bool.not_eq_true', decide_eq_true_eq] at htest
  obtain ⟨⟨rfl, hfirst⟩, hnext⟩ := htest
  obtain ⟨⟨stopping₂, p₂⟩, hread, htest⟩ := exists_of_returns hnext
  simp only [Bool.and_eq_true, Bool.not_eq_true', decide_eq_true_eq] at htest
  obtain ⟨⟨⟨rfl, -⟩, hsecond⟩, hlast⟩ := htest
  obtain ⟨⟨stopping, p⟩, hagain, hwaiting⟩ := exists_of_returns hlast
  obtain ⟨c, hlive, hscheduled⟩ := (Option.any_eq_true _ _).mp hwaiting
  have hrun : Run (fun _ => .script fun _ => [1, 2, 3])
      { bufferBytesPerDirection := 1024, lowWaterBytes := 512, highWaterBytes := 1024
        faults := { latency := 5, jitter := 2 } }
      (fun _ event p => p.Steady (fun _ => .script fun _ => [1, 2, 3]) event)
      [{ token := 1, accepts := [.accepted (.opened false 10)] },
        { token := 4, events := { epollin := true }, now := 12 },
        { token := 4, events := { epollin := true }, now := 13 }] stopping p :=
    .ready _ _ _ (.ready _ _ _ (.ready _ _ _ .start (fun _ hbinding => by cases hbinding)
      haccepted) hfirst hread) hsecond hagain
  exact ⟨stopping, p, c, hrun, hlive, hscheduled,
    (pump_timers_deduplicated _ _ (by decide +kernel) _ stopping p hrun 1 c hlive).2⟩

/-- Three bytes arrive from each side, those of the upstream later and with a shorter delay.  The
wake of the upstream's bytes overtakes the other, and when it has fired, the other is scheduled a
second time for the same instant. -/
theorem pump_timer_duplicated :
    ∃ stopping p c, Runtime.runTo (fun _ => .script fun _ => [1, 2, 3])
        { bufferBytesPerDirection := 1024, lowWaterBytes := 512, highWaterBytes := 1024
          faults := { latency := 5, jitter := 2 } }
        [.batch [.ready { token := 1, accepts := [.accepted (.opened false 10)] }] 11 true]
        [.ready { token := 4, events := { epollin := true }, now := 12 },
          .ready { token := 5, events := { epollin := true }, now := 13 },
          .ready { token := 3, now := 3221706 }] = .ok (stopping, p) ∧
      p.connections.lookup 1 = some c ∧
      p.timerQueue.heap.countP
        (fun e => e.connectionId = 1 ∧ e.kind = .pump ∧ e.deadline = 4072330) = 2 := by
  have hcheck : returns (Runtime.runTo (fun _ => .script fun _ => [1, 2, 3])
      { bufferBytesPerDirection := 1024, lowWaterBytes := 512, highWaterBytes := 1024
        faults := { latency := 5, jitter := 2 } }
      [.batch [.ready { token := 1, accepts := [.accepted (.opened false 10)] }] 11 true]
      [.ready { token := 4, events := { epollin := true }, now := 12 },
        .ready { token := 5, events := { epollin := true }, now := 13 },
        .ready { token := 3, now := 3221706 }])
      (fun state => (state.2.connections.lookup 1).isSome &&
        decide (state.2.timerQueue.heap.countP
          (fun e => e.connectionId = 1 ∧ e.kind = .pump ∧ e.deadline = 4072330) = 2)) = true := by
    decide +kernel
  obtain ⟨⟨stopping, p⟩, hrun, htest⟩ := exists_of_returns hcheck
  rw [Bool.and_eq_true] at htest
  obtain ⟨c, hlive⟩ := Option.isSome_iff_exists.mp htest.1
  exact ⟨stopping, p, c, hrun, hlive, of_decide_eq_true htest.2⟩

/-! ## Plans that overtake nothing -/

/-- The connection is under a plan that delays one direction at most, and nothing in it may go
before its scheduled wake. -/
structure Connection.HeldBack (config : ProxyConfig) (c : Connection) : Prop where
  plan : ∃ plan : FaultPlan, plan.DelaysOneWay ∧ c.session.Follows config.relayConfig plan
  scheduled : ∀ wake, c.scheduledWake = some wake → c.session.HoldsUntil wake

/-- Every live connection is held back. -/
structure Runtime.OneWay (p : Runtime) : Prop where
  plan : p.config.faults.DelaysOneWay
  held : ∀ id c, p.Live id c → c.HeldBack p.config

section OneWay

variable {io : ℕ → SocketIo} {now : ℤ} {p p' mid : Runtime} {id : ℕ} {c c' : Connection}
  {config : ProxyConfig} {event : TimerEvent}

lemma Connection.HeldBack.resetDueWake (h : c.HeldBack config) (now : ℤ) :
    (c.resetDueWake now).HeldBack config := by
  rw [Connection.resetDueWake]
  split
  · split_ifs
    · exact ⟨h.plan, fun wake hwake => by cases hwake⟩
    · exact h
  · exact h

/-- **Work holds back what it leaves**, and schedules nothing earlier. -/
lemma Work.heldBack {io : SocketIo} (h : Work io now id c p p') (hs : c.session.Sound config)
    (hc : c.HeldBack config) (hlive : p'.Live id c') :
    c'.HeldBack config ∧ ∀ scheduled wake, c.scheduledWake = some scheduled →
      c'.scheduledWake = some wake → scheduled ≤ wake := by
  cases h with
  | closed session finalState reason advances abrupt => simp [Runtime.live_remove] at hlive
  | drained session advances drained => simp [Runtime.live_remove] at hlive
  | settled session advances undrained propagated =>
      obtain ⟨plan, hplan, hfollows⟩ := hc.plan
      have hinv := (hs.advances advances).inv
      have hafter : session.Follows config.relayConfig plan :=
        advances.moves.preserves hs.inv hfollows fun _ _ _ hm hmove => hm.move hmove
      have hheld : ∀ wake, c.scheduledWake = some wake → session.HoldsUntil wake :=
        fun wake hwake => advances.moves.preserves hs.inv (hc.scheduled wake hwake)
          fun _ _ hinv hm hmove => hm.move hinv hmove
      have hrefresh := refreshed_refresh now { c with session }
      have hmoves : Moves io now session
          (({ c with session } : Connection).refresh now).session := hrefresh.moves
      obtain ⟨w, q, heq, hwake⟩ :=
        scheduleWake_spec p id (({ c with session } : Connection).refresh now)
      rw [heq] at hlive
      obtain rfl := Runtime.eq_of_live_setConnection hlive
      have hfollows' : (({ c with session } : Connection).refresh now).session.Follows
          config.relayConfig plan :=
        hmoves.preserves hinv hafter fun _ _ _ hm hmove => hm.move hmove
      have hholds : ∀ wake, session.HoldsUntil wake →
          (({ c with session } : Connection).refresh now).session.HoldsUntil wake :=
        fun wake hwake => hmoves.preserves hinv hwake fun _ _ hinv hm hmove => hm.move hinv hmove
      obtain ⟨hw, -⟩ | ⟨wake, hearlier, hbefore, hw, -⟩ := hwake
      · rw [hrefresh.scheduledWake] at hw
        refine ⟨⟨⟨plan, hplan, hfollows'⟩, fun wake hwake => ?_⟩,
          fun scheduled wake hsome hwake => ?_⟩
        · exact hholds wake (hheld wake (hw.symm.trans hwake))
        · exact (Option.some.inj (hsome.symm.trans (hw.symm.trans hwake))).le
      · -- the wake is the first stamp of the one delay line
        obtain ⟨destination, hnext⟩ : ∃ destination,
            (session.relay.nextWake destination now).1 = some wake := by
          rw [hrefresh.lastWake, hrefresh.lastWake] at hearlier
          rcases earlier_eq_some hearlier with heq | heq
          · exact ⟨.upstream, heq⟩
          · exact ⟨.client, heq⟩
        obtain ⟨hfirst, hlatest⟩ :=
          hafter.holdsUntil_nextWake hplan (hinv destination.peer) hnext
        refine ⟨⟨⟨plan, hplan, hfollows'⟩, fun wake' hwake' => ?_⟩,
          fun scheduled wake' hsome hwake' => ?_⟩
        · obtain rfl : wake = wake' := Option.some.inj (hw.symm.trans hwake')
          exact hholds wake hfirst
        · obtain rfl : wake = wake' := Option.some.inj (hw.symm.trans hwake')
          exact hlatest scheduled (hheld scheduled hsome)

/-- **Work makes no scheduled wake earlier** under such a plan. -/
lemma Work.noEarlier {io : SocketIo} (h : Work io now id c p p') (hs : p.Sound) (hp : p.OneWay)
    (hlive : p.Live id c) : p.NoEarlier p' := by
  refine Runtime.noEarlier_of_live fun id' c' hlive' => ?_
  by_cases heq : id' = id
  · subst heq
    refine .inr fun c₀ scheduled wake hlive₀ hscheduled hwake => ?_
    obtain rfl : c = c₀ := Option.some.inj (hlive.symm.trans hlive₀)
    exact (h.heldBack (hs.session id' c hlive) (hp.held id' c hlive) hlive').2 scheduled wake
      hscheduled hwake
  · exact .inl ((h.frame.2.2.2 id' c' heq).mp hlive')

lemma Work.oneWay {io : SocketIo} (h : Work io now id c p p') (hs : c.session.Sound p.config)
    (hc : c.HeldBack p.config) (hp : p.OneWay) : p'.OneWay := by
  obtain ⟨hconfig, -, -, hothers⟩ := h.frame
  refine ⟨hconfig ▸ hp.plan, fun id' c' hlive' => hconfig ▸ ?_⟩
  by_cases heq : id' = id
  · subst heq
    exact (h.heldBack hs hc hlive').1
  · exact hp.held id' c' ((hothers id' c' heq).mp hlive')

lemma Popped.oneWay (h : Popped now event p mid) (hp : p.OneWay) : mid.OneWay :=
  ⟨h.config ▸ hp.plan, fun id c hlive => h.config ▸ hp.held id c (h.live.mp hlive)⟩

lemma Act.oneWay (h : Act io now p p') (hs : p.Sound) (hp : p.OneWay) : p'.OneWay := by
  cases h with
  | accept connecting c newborn token room =>
      have hplan : (p.effectiveFaults p.nextConnectionId).DelaysOneWay := by
        rw [Runtime.effectiveFaults]
        split_ifs
        · exact hp.plan
        · decide
      refine ⟨hp.plan, fun id c' hlive => ?_⟩
      obtain ⟨rfl, rfl⟩ | ⟨-, hold⟩ := Runtime.live_accepted.mp hlive
      · refine ⟨⟨_, hplan, newborn.fresh.follows⟩, fun wake hwake => ?_⟩
        rw [newborn.scheduledWake] at hwake
        cases hwake
      · exact hp.held id c' hold
  | serve id c _ live work => exact work.oneWay (hs.session id c live) (hp.held id c live) hp
  | fire => exact ⟨hp.plan, hp.held⟩
  | skip event _ popped idle => exact popped.oneWay hp
  | wake event c mid _ popped live kind work =>
      exact work.oneWay (popped.config ▸ hs.resetDueWake live)
        (popped.config ▸ (hp.held _ c live).resetDueWake now) (popped.oneWay hp)
  | timeOut event c mid reason popped live due =>
      exact ⟨(popped.oneWay hp).plan,
        fun id c hlive => (popped.oneWay hp).held id c (Runtime.live_remove.mp hlive).2⟩
  | postpone event c mid popped live kind active =>
      exact ⟨(popped.oneWay hp).plan, (popped.oneWay hp).held⟩

lemma Runtime.OneWay.invariant (io : ℕ → SocketIo) :
    LoopInvariant io (fun _ => True) Runtime.OneWay where
  act _ _ _ _ hs hp hact := hact.oneWay hs hp
  tick _ _ hp := ⟨hp.plan, hp.held⟩
  arm clock ok p hp := ⟨by simpa using hp.plan,
    fun id c hlive => by simpa using hp.held id c (by simpa [Runtime.Live] using hlive)⟩

end OneWay

/-- **Pump timers are not duplicated under a plan that delays one direction at most**, and has no
rate, whatever the traffic. -/
theorem one_way_pump_timers_deduplicated (io : ℕ → SocketIo) (config : ProxyConfig)
    (hconfig : config.validate = .ok ()) (hplan : config.faults.DelaysOneWay)
    (past : List Readiness) (stopping : Bool) (p : Runtime)
    (hrun : Run io config (fun _ _ _ => True) past stopping p) (id : ℕ) (c : Connection)
    (hlive : p.connections.lookup id = some c) :
    p.timerQueue.heap.countP (fun e => e.connectionId = id ∧ e.kind = .pump) ≤ 1 := by
  refine (hrun.single hconfig (fun past event p p' id c before _ _ hlive hwork => ?_) id c
    hlive).once
  have honeWay : p.OneWay := (Runtime.OneWay.invariant io).run before hconfig
    ⟨hplan, fun id c hlive => by cases hlive⟩ fun _ _ _ _ _ _ => trivial
  exact hwork.noEarlier (before.sound hconfig) honeWay hlive

/-- The traffic that duplicates a pump when both directions are delayed. -/
theorem one_way_pump_timers_deduplicated_delayed :
    ∃ stopping p c, Run (fun _ => .script fun _ => [1, 2, 3])
        { bufferBytesPerDirection := 1024, lowWaterBytes := 512, highWaterBytes := 1024
          faults := { latency := 5, jitter := 2, directions := .clientToUpstream } }
        (fun _ _ _ => True)
        [{ token := 1, accepts := [.accepted (.opened false 10)] },
          { token := 4, events := { epollin := true }, now := 12 },
          { token := 5, events := { epollin := true }, now := 13 }] stopping p ∧
      p.connections.lookup 1 = some c ∧ c.scheduledWake.isSome = true ∧
      p.timerQueue.heap.countP (fun e => e.connectionId = 1 ∧ e.kind = .pump) ≤ 1 := by
  have hcheck : returns (Runtime.dispatch (fun _ => .script fun _ => [1, 2, 3])
      { token := 1, accepts := [.accepted (.opened false 10)] }
      { config := { bufferBytesPerDirection := 1024, lowWaterBytes := 512, highWaterBytes := 1024
                    faults := { latency := 5, jitter := 2, directions := .clientToUpstream } } })
      (fun first => !first.1 &&
        returns (first.2.dispatch (fun _ => .script fun _ => [1, 2, 3])
          { token := 4, events := { epollin := true }, now := 12 })
          (fun second => !second.1 &&
            returns (second.2.dispatch (fun _ => .script fun _ => [1, 2, 3])
              { token := 5, events := { epollin := true }, now := 13 })
              (fun third => (third.2.connections.lookup 1).any (·.scheduledWake.isSome)))) =
        true := by
    decide +kernel
  obtain ⟨⟨stopping₁, p₁⟩, haccepted, htest⟩ := exists_of_returns hcheck
  rw [Bool.and_eq_true, Bool.not_eq_true'] at htest
  obtain ⟨rfl, hnext⟩ := htest
  obtain ⟨⟨stopping₂, p₂⟩, hread, htest⟩ := exists_of_returns hnext
  rw [Bool.and_eq_true, Bool.not_eq_true'] at htest
  obtain ⟨rfl, hlast⟩ := htest
  obtain ⟨⟨stopping, p⟩, hagain, hwaiting⟩ := exists_of_returns hlast
  obtain ⟨c, hlive, hscheduled⟩ := (Option.any_eq_true _ _).mp hwaiting
  have hrun : Run (fun _ => .script fun _ => [1, 2, 3])
      { bufferBytesPerDirection := 1024, lowWaterBytes := 512, highWaterBytes := 1024
        faults := { latency := 5, jitter := 2, directions := .clientToUpstream } }
      (fun _ _ _ => True)
      [{ token := 1, accepts := [.accepted (.opened false 10)] },
        { token := 4, events := { epollin := true }, now := 12 },
        { token := 5, events := { epollin := true }, now := 13 }] stopping p :=
    .ready _ _ _ (.ready _ _ _ (.ready _ _ _ .start trivial haccepted) trivial hread) trivial hagain
  exact ⟨stopping, p, c, hrun, hlive, hscheduled,
    one_way_pump_timers_deduplicated _ _ (by decide +kernel) (by decide) _ stopping p hrun 1 c
      hlive⟩

end NetFault
