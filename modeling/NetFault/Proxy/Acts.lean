import NetFault.Proxy.Model
import NetFault.Relay.Lifecycle
import NetFault.Relay.Outcomes
import NetFault.Relay.Pacing

/-!
# What the event loop can do

Whatever arrives, the loop does one of a few things to the runtime: a connection is accepted, a
connection is worked on after a socket event or a wake, a timeout closes or is put off, a stale
entry is dropped.  `Act` lists them with everything the source has checked before, `Work` lists
how the work on one connection ends.  Every operation of the loop returns, and what it does is a
sequence of acts; so an invariant of the runtime is shown once for each act, and holds at every
moment of every run.
-/

namespace NetFault

/-! ## The relay of a live connection -/

/-- Nothing is read from upstream while it connects. -/
def Session.Unread (s : Session) : Prop :=
  s.relay.upstreamConnecting = true → s.relay.readOpen .upstream = true

/-- What a connection's session goes through at `now`. -/
structure Session.Advances (io : SocketIo) (now : ℤ) (s s' : Session) : Prop where
  moves : Moves io now s s'
  unread : s.Unread → s'.Unread

/-- What is known of the session of every connection. -/
structure Session.Sound (config : ProxyConfig) (s : Session) : Prop where
  inv : s.Inv
  follows : ∃ plan : FaultPlan, plan.rateBytesPerSecond ≤ 1000000000 ∧
    s.Follows config.relayConfig plan
  intact : ∀ source, s.Intact source
  lifecycle : s.Lifecycle
  unread : s.Unread

section Sessions

variable {io : SocketIo} {now : ℤ} {s s' s'' : Session} {config : ProxyConfig}

lemma Session.Advances.refl (s : Session) : s.Advances io now s := ⟨.refl, id⟩

lemma Session.Advances.trans (h : s.Advances io now s') (h' : s'.Advances io now s'') :
    s.Advances io now s'' :=
  ⟨h.moves.trans h'.moves, h'.unread ∘ h.unread⟩

lemma Session.KeepsRead.unread (h : s.KeepsRead .upstream s') : s.Unread → s'.Unread := by
  intro hs hconn
  rw [h.2]
  exact hs (h.1.symm.trans hconn)

lemma Session.Sound.advances (h : s.Sound config) (hs : s.Advances io now s') :
    s'.Sound config := by
  obtain ⟨plan, hrate, hfollows⟩ := h.follows
  have hlife : (∀ source, s'.Intact source) ∧ s'.Lifecycle :=
    hs.moves.preserves (P := fun m => (∀ source, m.Intact source) ∧ m.Lifecycle) h.inv
      ⟨h.intact, h.lifecycle⟩
      fun m m' _ hm hmove => ⟨fun source => (hm.1 source).move hmove, hm.2.move hm.1 hmove⟩
  exact ⟨hs.moves.inv h.inv, ⟨plan, hrate, hs.moves.preserves h.inv hfollows
    fun m m' _ hm hmove => hm.move hmove⟩, hlife.1, hlife.2, hs.unread h.unread⟩

/-- The permitted rate, in the form the wake times want it. -/
lemma Session.Sound.rate (h : s.Sound config) (source : Side) {channel : FaultChannel}
    {b : TokenBucket} (hc : (s.relay.directionFrom source).fault = some channel)
    (hb : channel.bucket = some b) : b.rate ≤ 1000000000 := by
  obtain ⟨plan, hrate, hfollows⟩ := h.follows
  rw [(((hfollows source).channel channel hc).bucket b hb).1]
  exact hrate

lemma Relay.Fresh.sound {plan : FaultPlan} {connecting : Bool} {start : ℤ} {r : Relay}
    (hconfig : config.relayConfig.Valid) (hrate : plan.rateBytesPerSecond ≤ 1000000000)
    (h : r.Fresh config.relayConfig plan connecting start) :
    Session.Sound config { relay := r } :=
  ⟨h.inv hconfig, ⟨plan, hrate, h.follows⟩, h.intact, h.lifecycle, fun _ => h.readOpen .upstream⟩

/-- Queries advance a session. -/
lemma Refills.advances {r : Relay} (h : Refills now s.relay r) :
    s.Advances io now { s with relay := r } := by
  obtain ⟨hread, -, hconn⟩ := h.flags
  refine ⟨h.moves, fun hs hc => ?_⟩
  show r.readOpen .upstream = true
  rw [hread]
  exact hs (hconn.symm.trans hc)

/-- The reasons that the work on a connection gives: an error of a socket, and the injected
reset. -/
def CloseReason.isAbrupt : CloseReason → Bool
  | .ioError .. | .faultReset | .upstreamConnect _ | .socketError _ => true
  | .orderlyShutdown | .connectTimeout | .idleTimeout | .proxyShutdown => false

/-- The result asks for no close but an abrupt one. -/
def PumpResult.Abrupt (result : PumpResult) : Prop :=
  ∀ finalState reason, result = .close finalState reason → reason.isAbrupt = true

lemma PumpResult.abrupt_proceed : PumpResult.proceed.Abrupt := by simp [PumpResult.Abrupt]

lemma PumpResult.abrupt_close {finalState : ConnectionState} {reason : CloseReason}
    (h : reason.isAbrupt = true) : (PumpResult.close finalState reason).Abrupt := by
  rintro _ _ ⟨⟩
  exact h

lemma closeForError_abrupt (error : ℤ) (operation : IoOperation) :
    (closeForError error operation).Abrupt :=
  PumpResult.abrupt_close rfl

lemma finishConnect_spec (io : SocketIo) (s : Session) (side : Side) (event : Readiness) :
    (s.finishConnect side event).1.Abrupt ∧
      s.Advances io event.now (s.finishConnect side event).2 := by
  simp only [Session.finishConnect]
  split_ifs
  · split
    · exact ⟨PumpResult.abrupt_close rfl, .refl s⟩
    · refine ⟨PumpResult.abrupt_proceed, .single .connect, fun _ hconn => ?_⟩
      simp [Relay.markUpstreamConnected, Relay.refreshState] at hconn
  · exact ⟨PumpResult.abrupt_proceed, .refl s⟩

lemma checkSocketError_abrupt (s : Session) (event : Readiness) :
    (s.checkSocketError event).Abrupt := by
  simp only [Session.checkSocketError]
  split_ifs
  · split
    · split_ifs
      · exact PumpResult.abrupt_close rfl
      · exact PumpResult.abrupt_close rfl
      · exact PumpResult.abrupt_proceed
    · exact PumpResult.abrupt_proceed
  · exact PumpResult.abrupt_proceed

lemma readIfReady_spec (io : SocketIo) (hinv : s.Inv) (side : Side) (event : Readiness) :
    ∃ result s', s.readIfReady io side event = .ok (result, s') ∧ result.Abrupt ∧
      s.Advances io event.now s' := by
  simp only [Session.readIfReady]
  split_ifs with hguard
  swap
  · exact ⟨.proceed, s, rfl, PumpResult.abrupt_proceed, .refl s⟩
  obtain ⟨result, s', -, hrun, hmoves, -⟩ := handleReadable_spec io event.now hinv side
    (event.events.epollrdhup || event.events.epollhup)
  obtain ⟨hkeeps, hresult⟩ := handleReadable_outcome hrun
  refine ⟨result, s', hrun, ?_, hmoves, ?_⟩
  · rcases hresult with rfl | ⟨error, rfl⟩
    · exact PumpResult.abrupt_proceed
    · exact closeForError_abrupt error .read
  · rcases side with _ | _
    · exact hkeeps.unread
    · -- the guard has checked that upstream is connected
      have hconn : s.relay.upstreamConnecting = false := by simp_all
      exact fun _ hc => absurd hc (by simp [hmoves.connected hconn])

/-- **The socket part of `socket_ready`** returns, and asks for no orderly close. -/
lemma serveSocket_spec (io : SocketIo) (hinv : s.Inv) (side : Side) (event : Readiness) :
    ∃ result s', s.serveSocket io side event = .ok (result, s') ∧ result.Abrupt ∧
      s.Advances io event.now s' := by
  obtain ⟨habrupt, hconnect⟩ := finishConnect_spec io s side event
  rw [Session.serveSocket]
  generalize s.finishConnect side event = outcome at habrupt hconnect ⊢
  obtain ⟨_ | ⟨finalState, reason⟩, m⟩ := outcome
  swap
  · exact ⟨_, m, rfl, habrupt, hconnect⟩
  have herror := checkSocketError_abrupt m event
  simp only at hconnect ⊢
  generalize m.checkSocketError event = outcome at herror ⊢
  obtain _ | ⟨finalState, reason⟩ := outcome
  · obtain ⟨result, s', hrun, hresult, hs'⟩ :=
      readIfReady_spec io (hconnect.moves.inv hinv) side event
    exact ⟨result, s', hrun, hresult, hconnect.trans hs'⟩
  · exact ⟨_, m, rfl, herror, hconnect⟩

/-- **The flushes of `pump_connection`** return, and ask for no orderly close. -/
lemma flushBoth_spec (io : SocketIo) (now : ℤ) (hinv : s.Inv) :
    ∃ result s', s.flushBoth io now = .ok (result, s') ∧ result.Abrupt ∧ s.Advances io now s' := by
  have habrupt : ∀ {m m' : Session} {destination : Side} {result : PumpResult},
      m.flush io destination now = .ok (result, m') → result.Abrupt := by
    intro m m' destination result hrun
    rcases flush_outcome hrun with rfl | ⟨error, rfl⟩ | rfl
    · exact PumpResult.abrupt_proceed
    · exact closeForError_abrupt error .write
    · exact PumpResult.abrupt_close rfl
  rw [Session.flushBoth]
  split_ifs with hconn
  · exact ⟨.proceed, s, rfl, PumpResult.abrupt_proceed, .refl s⟩
  have hadvances : ∀ {m : Session}, Moves io now s m → s.Advances io now m := fun hmoves =>
    ⟨hmoves, fun _ hc => absurd hc (by simp [hmoves.connected (by simpa using hconn)])⟩
  obtain ⟨result, m, -, hrun, hmoves, -⟩ := flush_spec io now hinv .upstream
  rw [hrun]
  rcases result with _ | ⟨finalState, reason⟩
  · obtain ⟨result, m', -, hrun', hmoves', -⟩ := flush_spec io now (hmoves.inv hinv) .client
    exact ⟨result, m', hrun', habrupt hrun', hadvances (hmoves.trans hmoves')⟩
  · exact ⟨_, m, rfl, habrupt hrun, hadvances hmoves⟩

lemma propagateHalfCloses_advances : s.Advances io now (s.propagateHalfCloses io) :=
  ⟨propagateHalfCloses_moves, (propagateHalfCloses_keepsRead .upstream).unread⟩

end Sessions

/-! ## The table of connections -/

namespace Runtime

variable {p : Runtime} {id id' : ℕ} {c c' : Connection} {finalState : ConnectionState}
  {reason : CloseReason} {now : ℤ}

/-- The connection with this id is live and is `c`. -/
def Live (p : Runtime) (id : ℕ) (c : Connection) : Prop := p.connections.lookup id = some c

lemma mem_keys_iff : id ∈ p.connections.keys ↔ ∃ c, p.Live id c := by
  rw [← AList.mem_keys, ← AList.lookup_isSome, Option.isSome_iff_exists]
  rfl

lemma live_setConnection : (p.setConnection id c).Live id' c' ↔
    id' = id ∧ c' = c ∨ id' ≠ id ∧ p.Live id' c' := by
  by_cases h : id' = id
  · subst h
    simp [Live, setConnection, eq_comm]
  · simp [Live, setConnection, h, AList.lookup_insert_ne h]

lemma live_setConnection_self : (p.setConnection id c).Live id c :=
  live_setConnection.mpr (.inl ⟨rfl, rfl⟩)

lemma eq_of_live_setConnection (h : (p.setConnection id c).Live id c') : c' = c :=
  Option.some.inj (h.symm.trans live_setConnection_self)

@[simp] lemma setConnection_setConnection :
    (p.setConnection id c).setConnection id c' = p.setConnection id c' := by
  simp [setConnection, AList.insert_insert]

@[simp] lemma remove_config : (p.remove id c finalState reason now).config = p.config := by
  cases finalState <;> rfl

@[simp] lemma remove_timerQueue :
    (p.remove id c finalState reason now).timerQueue = p.timerQueue := by
  cases finalState <;> rfl

@[simp] lemma remove_lastArmedDeadline :
    (p.remove id c finalState reason now).lastArmedDeadline = p.lastArmedDeadline := by
  cases finalState <;> rfl

@[simp] lemma remove_timerFd : (p.remove id c finalState reason now).timerFd = p.timerFd := by
  cases finalState <;> rfl

@[simp] lemma remove_connections :
    (p.remove id c finalState reason now).connections = p.connections.erase id := by
  cases finalState <;> rfl

@[simp] lemma remove_closed : (p.remove id c finalState reason now).closed =
    p.closed ++ [{ connectionId := id, finalState, reason, session := c.session, now }] := by
  cases finalState <;> rfl

lemma live_remove :
    (p.remove id c finalState reason now).Live id' c' ↔ id' ≠ id ∧ p.Live id' c' := by
  rw [Live, remove_connections]
  by_cases heq : id' = id
  · subst heq
    simp
  · simp [Live, heq, AList.lookup_erase_ne heq]

lemma closeConnection_of_live (h : p.Live id c) :
    p.closeConnection id finalState reason now = p.remove id c finalState reason now := by
  rw [closeConnection, show p.connections.lookup id = some c from h]

lemma closeConnection_setConnection :
    (p.setConnection id c).closeConnection id finalState reason now =
      p.remove id c finalState reason now := by
  have herase : (p.connections.insert id c).erase id = p.connections.erase id := by
    apply AList.ext
    show List.kerase id (List.kinsert id c p.connections.entries) =
      List.kerase id p.connections.entries
    simp [List.kinsert]
  rw [closeConnection_of_live live_setConnection_self]
  simp only [remove, setConnection, herase]

/-- Part of the end of `run`: some of the connections are closed. -/
def closeAll (ids : List ℕ) (now : ℤ) (p : Runtime) : Runtime :=
  ids.foldl (fun p id => p.closeConnection id .fullyClosed .proxyShutdown now) p

/-- The closes of the shutdown give their own reason. -/
lemma of_mem_closed_closeAll {ids : List ℕ} {entry : ClosedConnection}
    (h : entry ∈ (p.closeAll ids now).closed) :
    entry ∈ p.closed ∨ entry.reason = .proxyShutdown := by
  induction ids generalizing p with
  | nil => exact .inl h
  | cons id ids ih =>
      rcases ih (p := p.closeConnection id .fullyClosed .proxyShutdown now) h with hold | hreason
      · rw [closeConnection] at hold
        split at hold
        · exact .inl hold
        · rw [remove_closed] at hold
          rcases List.mem_append.mp hold with hold | hnew
          · exact .inl hold
          · rw [List.mem_singleton.mp hnew]
            exact .inr rfl
      · exact .inr hreason

end Runtime

/-! ## Work on one connection -/

namespace Connection

/-- The end of a pump that does not close: interests are refreshed and wake times computed. -/
def refresh (now : ℤ) (c : Connection) : Connection :=
  ((c.applyInterest .client now).applyInterest .upstream now).computeWakes now

end Connection

/-- How the work on a live connection `c` ends, when all of it happens at `now`. -/
inductive Work (io : SocketIo) (now : ℤ) (id : ℕ) (c : Connection) (p : Runtime) : Runtime → Prop
  /-- An error, or the injected reset. -/
  | closed (session : Session) (finalState : ConnectionState) (reason : CloseReason)
      (advances : c.session.Advances io now session) (abrupt : reason.isAbrupt = true) :
      Work io now id c p (p.remove id { c with session } finalState reason now)
  /-- Both streams have ended and drained. -/
  | drained (session : Session) (advances : c.session.Advances io now session)
      (drained : (session.propagateHalfCloses io).relay.fullyDrained = true) :
      Work io now id c p (p.remove id { c with session := session.propagateHalfCloses io }
        .fullyClosed .orderlyShutdown now)
  /-- The connection goes on. -/
  | settled (session : Session) (advances : c.session.Advances io now session)
      (undrained : session.relay.fullyDrained = false)
      (propagated : ∃ flushed : Session, session = flushed.propagateHalfCloses io) :
      Work io now id c p (p.scheduleWake id ({ c with session }.refresh now))

section Work

variable {io : ℕ → SocketIo} {now : ℤ} {id : ℕ} {c : Connection} {p p' : Runtime}

lemma Runtime.scheduleWake_setConnection {c' : Connection} :
    (p.setConnection id c).scheduleWake id c' = p.scheduleWake id c' := by
  simp only [scheduleWake]
  split
  · exact setConnection_setConnection
  · split_ifs
    · exact setConnection_setConnection (p := { p with timerQueue := _ })
    · exact setConnection_setConnection

lemma Runtime.remove_setConnection {c' : Connection} {finalState : ConnectionState}
    {reason : CloseReason} :
    (p.setConnection id c).remove id c' finalState reason now =
      p.remove id c' finalState reason now := by
  rw [← closeConnection_setConnection, setConnection_setConnection, closeConnection_setConnection]

/-- Work that starts after the session has advanced. -/
lemma Work.of_advances {io : SocketIo} {session : Session}
    (hadvances : c.session.Advances io now session)
    (h : Work io now id { c with session } (p.setConnection id { c with session }) p') :
    Work io now id c p p' := by
  cases h with
  | closed session' finalState reason advances abrupt =>
      rw [Runtime.remove_setConnection]
      exact .closed session' finalState reason (hadvances.trans advances) abrupt
  | drained session' advances drained =>
      rw [Runtime.remove_setConnection]
      exact .drained session' (hadvances.trans advances) drained
  | settled session' advances undrained propagated =>
      rw [Runtime.scheduleWake_setConnection]
      exact .settled session' (hadvances.trans advances) undrained propagated

/-- A pump whose flushes ask for nothing: the connection is closed, or refreshed and scheduled. -/
lemma pumpConnection_proceed (io : ℕ → SocketIo) (now : ℤ) (hlive : p.Live id c) {session : Session}
    (hflush : c.session.flushBoth (io id) now = .ok (.proceed, session)) :
    p.pumpConnection io id now =
      .ok (if (session.propagateHalfCloses (io id)).relay.fullyDrained then
        p.remove id { c with session := session.propagateHalfCloses (io id) } .fullyClosed
          .orderlyShutdown now
      else
        p.scheduleWake id (Connection.refresh now
          { c with session := session.propagateHalfCloses (io id) })) := by
  rw [Runtime.pumpConnection, show p.connections.lookup id = some c from hlive]
  simp only [hflush]
  obtain ⟨c', hc'⟩ : ∃ c' : Connection,
      c' = { c with session := session.propagateHalfCloses (io id) } := ⟨_, rfl⟩
  have hlive' : (p.setConnection id c').connections.lookup id = some c' :=
    Runtime.live_setConnection_self
  have hdrain : (session.propagateHalfCloses (io id)).relay.fullyDrained =
      c'.session.relay.fullyDrained := by rw [hc']
  simp only [← hc', Runtime.refreshOrClose, hlive', hdrain]
  split_ifs with hdrained
  · -- the connection is gone, so there is nothing to schedule
    rw [Runtime.closeConnection_setConnection, Runtime.scheduleRelayWake,
      Runtime.remove_connections, AList.lookup_erase]
  · rw [Runtime.setConnection_setConnection, Runtime.scheduleRelayWake,
      Runtime.live_setConnection_self]
    simp only [Runtime.scheduleWake_setConnection]
    rfl

/-- **`pump_connection`** returns, and does work. -/
lemma pumpConnection_spec (io : ℕ → SocketIo) (now : ℤ) (hlive : p.Live id c)
    (hinv : c.session.Inv) :
    ∃ p', p.pumpConnection io id now = .ok p' ∧ Work (io id) now id c p p' := by
  obtain ⟨result, session, hflush, habrupt, hadvances⟩ := flushBoth_spec (io id) now hinv
  rcases result with _ | ⟨finalState, reason⟩
  · refine ⟨_, pumpConnection_proceed io now hlive hflush, ?_⟩
    split_ifs with hdrained
    · exact .drained session hadvances hdrained
    · exact .settled _ (hadvances.trans propagateHalfCloses_advances) (by simpa using hdrained)
        ⟨session, rfl⟩
  · rw [Runtime.pumpConnection, show p.connections.lookup id = some c from hlive]
    simp only [hflush]
    refine ⟨_, rfl, ?_⟩
    rw [Runtime.closeConnection_setConnection]
    exact .closed session finalState reason hadvances (habrupt finalState reason rfl)

/-- **`socket_ready`** returns; it does work, or the token was stale and it does nothing. -/
lemma socketReady_spec (io : ℕ → SocketIo) (event : Readiness)
    (hinv : ∀ id c, p.Live id c → c.session.Inv) :
    ∃ p', p.socketReady io event = .ok p' ∧
      (p' = p ∨ ∃ id c, p.Live id c ∧ Work (io id) event.now id c p p') := by
  rw [Runtime.socketReady]
  rcases p.bindings.lookup event.token with _ | binding
  · exact ⟨p, rfl, .inl rfl⟩
  simp only
  rcases hlive : p.connections.lookup binding.connectionId with _ | c
  · exact ⟨p, rfl, .inl rfl⟩
  obtain ⟨result, session, hserve, habrupt, hadvances⟩ := serveSocket_spec
    (io binding.connectionId) (hinv _ c hlive) binding.side event
  simp only [hserve]
  rcases result with _ | ⟨finalState, reason⟩
  · obtain ⟨p', hpump, hwork⟩ := pumpConnection_spec io event.now
      (p := p.setConnection binding.connectionId { c with session })
      Runtime.live_setConnection_self (hadvances.moves.inv (hinv _ c hlive))
    exact ⟨p', hpump, .inr ⟨_, c, hlive, .of_advances hadvances hwork⟩⟩
  · refine ⟨_, rfl, .inr ⟨_, c, hlive, ?_⟩⟩
    rw [Runtime.closeConnection_setConnection]
    exact .closed session finalState reason hadvances (habrupt finalState reason rfl)

end Work

/-! ## What a pump leaves behind -/

section Refresh

variable {io : SocketIo} {now : ℤ} {c c' : Connection}

/-- `c'` is `c` after its interests were refreshed and its wake times computed, all as the relay of
`c` answers. -/
structure Refreshed (now : ℤ) (c c' : Connection) : Prop where
  refills : Refills now c.session.relay c'.session.relay
  trace : c'.session.trace = c.session.trace
  token : c'.token = c.token
  scheduledWake : c'.scheduledWake = c.scheduledWake
  mask : ∀ side, c'.mask side = toEpollMask (c.session.relay.desiredInterest side now).1
  registered : c.registered = c.mask → c'.registered = c'.mask
  lastWake : ∀ destination, c'.lastWake destination = (c.session.relay.nextWake destination now).1

lemma Refreshed.moves (h : Refreshed now c c') : Moves io now c.session c'.session := by
  have hmoves : Moves io now c.session { relay := c'.session.relay, trace := c.session.trace } :=
    h.refills.moves
  rwa [← h.trace] at hmoves

/-- The cache is the mask that was asked for, whether or not `epoll_ctl` was called. -/
lemma applyInterest_mask (side : Side) :
    (c.applyInterest side now).mask =
      Function.update c.mask side (toEpollMask (c.session.relay.desiredInterest side now).1) := by
  simp only [Connection.applyInterest]
  split_ifs with h
  · rw [h, Function.update_eq_self]
  · rfl

lemma applyInterest_registered (side : Side) (h : c.registered = c.mask) :
    (c.applyInterest side now).registered = (c.applyInterest side now).mask := by
  simp only [Connection.applyInterest]
  split_ifs
  · exact h
  · simp only [h]

lemma applyInterest_rest (now : ℤ) (c : Connection) (side : Side) :
    (c.applyInterest side now).session =
        { c.session with relay := (c.session.relay.desiredInterest side now).2 } ∧
      (c.applyInterest side now).token = c.token ∧
      (c.applyInterest side now).scheduledWake = c.scheduledWake := by
  simp only [Connection.applyInterest]
  split_ifs <;> exact ⟨rfl, rfl, rfl⟩

/-- The four queries of a pump do not disturb one another. -/
lemma refreshed_refresh (now : ℤ) (c : Connection) : Refreshed now c (c.refresh now) := by
  obtain ⟨c₁, hc₁⟩ : ∃ c₁, c₁ = c.applyInterest .client now := ⟨_, rfl⟩
  obtain ⟨c₂, hc₂⟩ : ∃ c₂, c₂ = c₁.applyInterest .upstream now := ⟨_, rfl⟩
  obtain ⟨hsession₁, htoken₁, hwake₁⟩ := applyInterest_rest now c .client
  obtain ⟨hsession₂, htoken₂, hwake₂⟩ := applyInterest_rest now c₁ .upstream
  rw [← hc₁] at hsession₁ htoken₁ hwake₁
  rw [← hc₂] at hsession₂ htoken₂ hwake₂
  have h₁ : Refills now c.session.relay c₁.session.relay := by
    rw [hsession₁]
    exact desiredInterest_refills c.session.relay .client now
  have h₂ : Refills now c.session.relay c₂.session.relay := by
    rw [hsession₂]
    exact h₁.trans (desiredInterest_refills c₁.session.relay .upstream now)
  have h₃ := h₂.trans (nextWake_refills c₂.session.relay .upstream now)
  have hrefresh : c.refresh now = c₂.computeWakes now := by rw [hc₂, hc₁, Connection.refresh]
  rw [hrefresh]
  refine ⟨h₃.trans (nextWake_refills _ .client now), ?_, htoken₂.trans htoken₁,
    hwake₂.trans hwake₁, ?_, ?_, ?_⟩
  · show c₂.session.trace = c.session.trace
    rw [hsession₂, hsession₁]
  · intro side
    show c₂.mask side = _
    rw [hc₂, applyInterest_mask]
    rcases side with _ | _
    · rw [Function.update_of_ne (by decide), hc₁, applyInterest_mask, Function.update_self]
    · rw [Function.update_self, h₁.desiredInterest]
  · intro hregistered
    show c₂.registered = c₂.mask
    rw [hc₂]
    exact applyInterest_registered _ (hc₁ ▸ applyInterest_registered _ hregistered)
  · rintro (_ | _)
    · exact h₃.nextWake .client
    · exact h₂.nextWake .upstream

lemma Refreshed.advances (h : Refreshed now c c') : c.session.Advances io now c'.session := by
  have hsession : c'.session = ⟨c'.session.relay, c.session.trace⟩ := by rw [← h.trace]
  rw [hsession]
  exact h.refills.advances

/-- **The end of a pump.**  Either what is scheduled is early enough, or an earlier wake gets an
entry. -/
lemma scheduleWake_spec (p : Runtime) (id : ℕ) (c : Connection) :
    ∃ scheduledWake timerQueue, p.scheduleWake id c =
        Runtime.setConnection id { c with scheduledWake } { p with timerQueue } ∧
      (scheduledWake = c.scheduledWake ∧ timerQueue = p.timerQueue ∧
          (∀ wake, earlier (c.lastWake .upstream) (c.lastWake .client) = some wake →
            ∃ scheduled ≤ wake, c.scheduledWake = some scheduled) ∨
        ∃ wake, earlier (c.lastWake .upstream) (c.lastWake .client) = some wake ∧
          (∀ scheduled, c.scheduledWake = some scheduled → wake < scheduled) ∧
          scheduledWake = some wake ∧ timerQueue = p.timerQueue.schedule wake id .pump) := by
  rw [Runtime.scheduleWake]
  rcases earlier (c.lastWake .upstream) (c.lastWake .client) with _ | wake
  · exact ⟨_, _, rfl, .inl ⟨rfl, rfl, by simp⟩⟩
  simp only
  split_ifs with hall
  · refine ⟨_, _, rfl, .inr ⟨wake, rfl, fun scheduled hscheduled => ?_, rfl, rfl⟩⟩
    simpa [hscheduled] using hall
  · refine ⟨_, _, rfl, .inl ⟨rfl, rfl, ?_⟩⟩
    rintro _ ⟨⟩
    rcases hscheduled : c.scheduledWake with _ | scheduled
    · simp [hscheduled] at hall
    · exact ⟨scheduled, by simpa [hscheduled] using hall, rfl⟩

lemma earlier_eq_some {a b : Option ℤ} {t : ℤ} (h : earlier a b = some t) :
    a = some t ∨ b = some t := by
  rcases a with _ | a <;> rcases b with _ | b <;> simp only [earlier, Option.some.injEq] at h ⊢
  · cases h
  · exact .inr h
  · exact .inl h
  · rcases le_total a b with hle | hle
    · exact .inl (by rwa [min_eq_left hle] at h)
    · exact .inr (by rwa [min_eq_right hle] at h)

/-- Wakes are scheduled for the future. -/
lemma Refreshed.lt_wake {config : ProxyConfig} (h : Refreshed now c c')
    (hs : c.session.Sound config) {t : ℤ}
    (hwake : earlier (c'.lastWake .upstream) (c'.lastWake .client) = some t) : now < t := by
  rw [h.lastWake, h.lastWake] at hwake
  rcases earlier_eq_some hwake with hw | hw
  · exact lt_of_nextWake hs.inv (fun channel b hc hb => hs.rate _ hc hb) hw
  · exact lt_of_nextWake hs.inv (fun channel b hc hb => hs.rate _ hc hb) hw

end Refresh

/-! ## Acts -/

/-- A connection that was just accepted. -/
structure Newborn (config : ProxyConfig) (plan : FaultPlan) (connecting : Bool) (now : ℤ)
    (c : Connection) : Prop where
  fresh : c.session.relay.Fresh config.relayConfig plan connecting now
  trace : c.session.trace = []
  mask : ∀ side, c.mask side = toEpollMask (c.session.relay.desiredInterest side now).1
  registered : c.registered = c.mask
  scheduledWake : c.scheduledWake = none

/-- The runtime after `c` was accepted. -/
def Runtime.accepted (connecting : Bool) (now : ℤ) (c : Connection) (p : Runtime) : Runtime :=
  { p with
    nextConnectionId := p.nextConnectionId + 1
    nextToken := p.nextToken + 2
    bindings := (p.bindings.insert p.nextToken ⟨p.nextConnectionId, .client⟩).insert
      (p.nextToken + 1) ⟨p.nextConnectionId, .upstream⟩
    connections := p.connections.insert p.nextConnectionId c
    timerQueue := scheduleTimeouts p.nextConnectionId connecting now p.config p.timerQueue }

/-- The runtime with the first entry of its queue, which is due, taken out. -/
structure Popped (now : ℤ) (event : TimerEvent) (p p' : Runtime) : Prop where
  popped : p.timerQueue.popDue now = some (event, p'.timerQueue)
  rest : p' = { p with timerQueue := p'.timerQueue }

/-- What happens to the runtime at the clock reading `now`. -/
inductive Act (io : ℕ → SocketIo) (now : ℤ) (p : Runtime) : Runtime → Prop
  /-- A client is accepted. -/
  | accept (connecting : Bool) (c : Connection)
      (newborn : Newborn p.config (p.effectiveFaults p.nextConnectionId) connecting now c)
      (token : c.token .client = p.nextToken ∧ c.token .upstream = p.nextToken + 1)
      (room : p.connections.keys.length < p.config.maxConnections) :
      Act io now p (p.accepted connecting now c)
  /-- A socket event is handled. -/
  | serve (id : ℕ) (c : Connection) (p' : Runtime) (live : p.Live id c)
      (work : Work (io id) now id c p p') : Act io now p p'
  /-- The expiration is read, and `process_due_timers` begins. -/
  | fire : Act io now p { p.drainTimerFd with lastArmedDeadline := none }
  /-- An entry has nothing to do: its connection is gone, or has connected in time. -/
  | skip (event : TimerEvent) (p' : Runtime) (popped : Popped now event p p')
      (idle : ∀ c, p.Live event.connectionId c →
        event.kind = .connectTimeout ∧ c.session.relay.upstreamConnecting = false) : Act io now p p'
  /-- A wake is due. -/
  | wake (event : TimerEvent) (c : Connection) (mid p' : Runtime) (popped : Popped now event p mid)
      (live : p.Live event.connectionId c) (kind : event.kind = .pump)
      (work : Work (io event.connectionId) now event.connectionId (c.resetDueWake now) mid p') :
      Act io now p p'
  /-- A timeout closes its connection. -/
  | timeOut (event : TimerEvent) (c : Connection) (mid : Runtime) (reason : CloseReason)
      (popped : Popped now event p mid) (live : p.Live event.connectionId c)
      (due : event.kind = .connectTimeout ∧ reason = .connectTimeout ∧
          c.session.relay.upstreamConnecting = true ∨
        event.kind = .idleTimeout ∧ reason = .idleTimeout ∧
          c.session.relay.lastActivity + mid.config.idleTimeoutNs ≤ now) :
      Act io now p (mid.remove event.connectionId c .timedOut reason now)
  /-- The idle timeout is put off. -/
  | postpone (event : TimerEvent) (c : Connection) (mid : Runtime) (popped : Popped now event p mid)
      (live : p.Live event.connectionId c) (kind : event.kind = .idleTimeout)
      (active : now < c.session.relay.lastActivity + mid.config.idleTimeoutNs) :
      Act io now p { mid with
        timerQueue := mid.timerQueue.schedule
          (c.session.relay.lastActivity + mid.config.idleTimeoutNs) event.connectionId
          .idleTimeout }

/-- Any number of acts, at clock readings that `R` allows. -/
def Acts (io : ℕ → SocketIo) (R : ℤ → Prop) : Runtime → Runtime → Prop :=
  Relation.ReflTransGen fun p p' => ∃ now, R now ∧ Act io now p p'

/-- What is known of the runtime at every moment: the configuration was accepted, and the relay of
every connection is sound. -/
structure Runtime.Sound (p : Runtime) : Prop where
  config : p.config.validate = .ok ()
  session : ∀ id c, p.Live id c → c.session.Sound p.config

end NetFault
