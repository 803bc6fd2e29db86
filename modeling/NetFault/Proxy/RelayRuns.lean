import NetFault.Proxy.Timeouts

/-!
# Each connection of the proxy is a run of its relay

The results about a relay are about any calls of its methods, at any times.  The event loop makes
particular ones: between two clock readings it finishes a connect, reads, flushes, passes on
half-closes, and asks for interests and wake times.  Here the calls that the loop makes on behalf of
one connection are collected.  At every moment of every run the session of a connection, live or
closed, is that of a run of its relay from its construction on, with calls at clock readings of the
loop, in their order; and a relay that has asked to be closed is not called again.
-/

namespace NetFault

/-! ## What the results of calls come to -/

/-- The relay itself has given the reason, with a result of `handle_readable` or `flush`. -/
def CloseReason.fromRelay : CloseReason → Bool
  | .ioError .. | .faultReset => true
  | _ => false

/-- No call has asked for a close. -/
def Obliging (results : List CallResult) : Prop :=
  ∀ finalState reason, .pumped (.close finalState reason) ∉ results

/-- What the results of some calls come to: the last of them, and only the last, asked for a close
and gave the reason, or none did and the reason is not the relay's. -/
def ComesTo (results : List CallResult) : PumpResult → Prop
  | .proceed => Obliging results
  | .close finalState reason =>
      (∃ before, results = before ++ [.pumped (.close finalState reason)] ∧ Obliging before) ∨
        reason.fromRelay = false ∧ Obliging results

section ComesTo

variable {results rest : List CallResult} {verdict : PumpResult}

lemma obliging_nil : Obliging [] := by simp [Obliging]

lemma Obliging.append (h : Obliging results) (hrest : Obliging rest) :
    Obliging (results ++ rest) := by
  intro finalState reason hmem
  rcases List.mem_append.mp hmem with hmem | hmem
  · exact h finalState reason hmem
  · exact hrest finalState reason hmem

lemma ComesTo.append (h : Obliging results) (hrest : ComesTo rest verdict) :
    ComesTo (results ++ rest) verdict := by
  cases verdict with
  | proceed => exact Obliging.append h hrest
  | close finalState reason =>
      rcases hrest with ⟨before, rfl, hbefore⟩ | ⟨hreason, hrest⟩
      · exact .inl ⟨results ++ before, by rw [List.append_assoc], h.append hbefore⟩
      · exact .inr ⟨hreason, h.append hrest⟩

lemma comesTo_pumped (verdict : PumpResult) : ComesTo [.pumped verdict] verdict := by
  cases verdict with
  | proceed => simp [ComesTo, Obliging]
  | close finalState reason => exact .inl ⟨[], rfl, obliging_nil⟩

end ComesTo

/-! ## The calls of one visit -/

/-- Calls of the relay at `now` lead from `s` to `s'`, and their results come to `verdict`. -/
def Session.Called (io : SocketIo) (now : ℤ) (s : Session) (verdict : PumpResult) (s' : Session) :
    Prop :=
  ∃ calls results, execAll io calls s = .ok (results, s') ∧
    (∀ time ∈ calls.filterMap Call.time?, time = now) ∧ ComesTo results verdict

section Called

variable {io : SocketIo} {now : ℤ} {s m s' : Session} {verdict : PumpResult}

lemma execAll_append {calls rest : List Call} {results results' : List CallResult}
    (h : execAll io calls s = .ok (results, m)) (hrest : execAll io rest m = .ok (results', s')) :
    execAll io (calls ++ rest) s = .ok (results ++ results', s') := by
  induction calls generalizing s results with
  | nil =>
      obtain ⟨rfl, rfl⟩ : results = [] ∧ s = m := by simpa [execAll, eq_comm] using h
      exact hrest
  | cons call calls ih =>
      rw [execAll] at h
      rcases hexec : call.exec io s with e | ⟨result, next⟩
      · simp [hexec] at h
      · rcases hall : execAll io calls next with e | ⟨results'', last⟩
        · simp [hexec, hall, Except.map] at h
        · simp only [hexec, hall, Except.map, Except.ok.injEq, Prod.mk.injEq] at h
          obtain ⟨rfl, rfl⟩ := h
          exact execAll_cons hexec (ih hall)

lemma Session.Called.refl (s : Session) : s.Called io now .proceed s :=
  ⟨[], [], rfl, by simp, obliging_nil⟩

lemma Session.Called.trans (h : s.Called io now .proceed m) (h' : m.Called io now verdict s') :
    s.Called io now verdict s' := by
  obtain ⟨calls, results, hall, htimes, hresults⟩ := h
  obtain ⟨calls', results', hall', htimes', hresults'⟩ := h'
  refine ⟨calls ++ calls', results ++ results', execAll_append hall hall', ?_,
    ComesTo.append hresults hresults'⟩
  intro time htime
  rw [List.filterMap_append] at htime
  rcases List.mem_append.mp htime with htime | htime
  · exact htimes time htime
  · exact htimes' time htime

/-- One call, at `now` or at no time. -/
lemma Session.Called.single (call : Call) (result : CallResult)
    (hexec : call.exec io s = .ok (result, s'))
    (htime : ∀ time, call.time? = some time → time = now)
    (hresult : ComesTo [result] verdict) : s.Called io now verdict s' := by
  refine ⟨[call], [result], execAll_cons hexec rfl, ?_, hresult⟩
  intro time hmem
  obtain ⟨called, hcalled, ht⟩ := List.mem_filterMap.mp hmem
  rw [List.mem_singleton.mp hcalled] at ht
  exact htime time ht

/-- The proxy closes for a reason of its own. -/
lemma Session.Called.closing (h : s.Called io now .proceed s') {finalState : ConnectionState}
    {reason : CloseReason} (hreason : reason.fromRelay = false) :
    s.Called io now (.close finalState reason) s' := by
  obtain ⟨calls, results, hall, htimes, hresults⟩ := h
  exact ⟨calls, results, hall, htimes, .inr ⟨hreason, hresults⟩⟩

lemma handleReadable_called {source : Side} {hangupHint : Bool}
    (hrun : s.handleReadable io source hangupHint now = .ok (verdict, s')) :
    s.Called io now verdict s' := by
  apply Session.Called.single (.handleReadable source hangupHint now) (.pumped verdict)
  · simp only [Call.exec, hrun, Except.map]
  · intro time htime
    exact (Option.some.inj htime).symm
  · exact comesTo_pumped verdict

lemma flush_called {destination : Side} (hrun : s.flush io destination now = .ok (verdict, s')) :
    s.Called io now verdict s' := by
  apply Session.Called.single (.flush destination now) (.pumped verdict)
  · simp only [Call.exec, hrun, Except.map]
  · intro time htime
    exact (Option.some.inj htime).symm
  · exact comesTo_pumped verdict

lemma propagateHalfCloses_called (io : SocketIo) (now : ℤ) (s : Session) :
    s.Called io now .proceed (s.propagateHalfCloses io) := by
  apply Session.Called.single .propagateHalfCloses .done rfl
  · intro time htime
    cases htime
  · simp [ComesTo, Obliging]

lemma markUpstreamConnected_called :
    s.Called io now .proceed { s with relay := s.relay.markUpstreamConnected } := by
  apply Session.Called.single .markUpstreamConnected .done rfl
  · intro time htime
    cases htime
  · simp [ComesTo, Obliging]

lemma desiredInterest_called (side : Side) :
    s.Called io now .proceed { s with relay := (s.relay.desiredInterest side now).2 } := by
  apply Session.Called.single (.desiredInterest side now)
    (.interest (s.relay.desiredInterest side now).1) rfl
  · intro time htime
    exact (Option.some.inj htime).symm
  · simp [ComesTo, Obliging]

lemma nextWake_called (destination : Side) :
    s.Called io now .proceed { s with relay := (s.relay.nextWake destination now).2 } := by
  apply Session.Called.single (.nextWake destination now)
    (.wake (s.relay.nextWake destination now).1) rfl
  · intro time htime
    exact (Option.some.inj htime).symm
  · simp [ComesTo, Obliging]

/-! ## The visits of the event loop -/

lemma finishConnect_called (io : SocketIo) (s : Session) (side : Side) (event : Readiness) :
    s.Called io event.now (s.finishConnect side event).1 (s.finishConnect side event).2 := by
  simp only [Session.finishConnect]
  split_ifs
  · split
    · exact (Session.Called.refl s).closing rfl
    · exact markUpstreamConnected_called
  · exact .refl s

lemma checkSocketError_called (io : SocketIo) (now : ℤ) (s : Session) (event : Readiness) :
    s.Called io now (s.checkSocketError event) s := by
  simp only [Session.checkSocketError]
  split_ifs
  · split
    · split_ifs
      · exact (Session.Called.refl s).closing rfl
      · exact (Session.Called.refl s).closing rfl
      · exact .refl s
    · exact .refl s
  · exact .refl s

/-- **The calls of `socket_ready`** before the pump. -/
lemma serveSocket_called {side : Side} {event : Readiness}
    (hrun : s.serveSocket io side event = .ok (verdict, s')) :
    s.Called io event.now verdict s' := by
  have hconnect := finishConnect_called io s side event
  rw [Session.serveSocket] at hrun
  generalize s.finishConnect side event = outcome at hconnect hrun
  obtain ⟨_ | ⟨finalState, reason⟩, m⟩ := outcome
  · have herror := checkSocketError_called io event.now m event
    simp only at hrun hconnect
    generalize m.checkSocketError event = outcome at herror hrun
    obtain _ | ⟨finalState, reason⟩ := outcome
    · simp only [Session.readIfReady] at hrun
      split_ifs at hrun
      · exact hconnect.trans (handleReadable_called hrun)
      · obtain ⟨rfl, rfl⟩ := Prod.mk.inj (Except.ok.inj hrun)
        exact hconnect
    · obtain ⟨rfl, rfl⟩ := Prod.mk.inj (Except.ok.inj hrun)
      exact hconnect.trans herror
  · obtain ⟨rfl, rfl⟩ := Prod.mk.inj (Except.ok.inj hrun)
    exact hconnect

/-- **The flushes of `pump_connection`**: the second is left out when the first asks for a close. -/
lemma flushBoth_called (hrun : s.flushBoth io now = .ok (verdict, s')) :
    s.Called io now verdict s' := by
  rw [Session.flushBoth] at hrun
  split_ifs at hrun
  · obtain ⟨rfl, rfl⟩ := Prod.mk.inj (Except.ok.inj hrun)
    exact .refl s
  rcases hfirst : s.flush io .upstream now with e | ⟨_ | ⟨finalState, reason⟩, m⟩
  · simp [hfirst] at hrun
  · rw [hfirst] at hrun
    exact (flush_called hfirst).trans (flush_called hrun)
  · rw [hfirst] at hrun
    obtain ⟨rfl, rfl⟩ := Prod.mk.inj (Except.ok.inj hrun)
    exact flush_called hfirst

lemma applyInterest_called (io : SocketIo) (now : ℤ) (c : Connection) (side : Side) :
    c.session.Called io now .proceed (c.applyInterest side now).session := by
  rw [(applyInterest_rest now c side).1]
  exact desiredInterest_called side

lemma refresh_called (io : SocketIo) (now : ℤ) (c : Connection) :
    c.session.Called io now .proceed (c.refresh now).session := by
  have hclient := applyInterest_called io now c .client
  have hupstream := applyInterest_called io now (c.applyInterest .client now) .upstream
  exact (hclient.trans hupstream).trans
    ((nextWake_called .upstream).trans (nextWake_called .client))

end Called

/-! ## Runs of one relay -/

/-- The fault plan of a connection, in terms of the configuration alone: the configured one if it
has any fault and the draw of the connection's own seed falls below the probability. -/
def ProxyConfig.planFor (config : ProxyConfig) (id : ℕ) : FaultPlan :=
  let seed := deriveConnectionSeed config.faults.masterSeed (UInt64.ofNat id)
  if config.faults.anyEnabled ∧ (config.faults.applyProbability ≥ 1 ∨
      sampleUnitInterval (SplitMix64.next ⟨seed⟩).1 < config.faults.applyProbability) then
    config.faults
  else {}

lemma Runtime.effectiveFaults_eq (p : Runtime) (id : ℕ) :
    p.effectiveFaults id = p.config.planFor id := by
  unfold Runtime.effectiveFaults Runtime.faultsApply ProxyConfig.planFor
  by_cases henabled : p.config.faults.anyEnabled = true
  · by_cases hcertain : p.config.faults.applyProbability ≥ 1
    · simp [henabled, hcertain]
    · simp [henabled, hcertain]
  · simp [henabled]

/-- The session `s` of connection `id` is that of a run of its relay, with the construction and the
calls at clock readings among `seen`, and results that come to `verdict`.  If the clock does not go
back, then the calls are made at nondecreasing times, and none after `stop`. -/
def RelayRun (io : SocketIo) (config : ProxyConfig) (id : ℕ) (seen : List ℤ) (stop : Option ℤ)
    (verdict : PumpResult) (s : Session) : Prop :=
  ∃ connecting start calls results,
    runRelay io config.relayConfig (config.planFor id) (UInt64.ofNat id) connecting start calls =
      .ok (results, s) ∧
    (∀ time ∈ start :: calls.filterMap Call.time?, time ∈ seen) ∧
    (seen.Pairwise (· ≤ ·) → Clocked start calls ∧
      ∀ closing ∈ stop, ∀ time ∈ start :: calls.filterMap Call.time?, time ≤ closing) ∧
    ComesTo results verdict

section RelayRun

variable {io : SocketIo} {config : ProxyConfig} {id : ℕ} {seen seen' : List ℤ} {stop : Option ℤ}
  {verdict : PumpResult} {s s' : Session} {now : ℤ}

/-- Calls made at `now` are made at the last reading. -/
def Latest (seen : List ℤ) (now : ℤ) : Prop :=
  now ∈ seen ∧ (seen.Pairwise (· ≤ ·) → ∀ time ∈ seen, time ≤ now)

lemma RelayRun.mono (h : RelayRun io config id seen stop verdict s) (hseen : seen <+: seen') :
    RelayRun io config id seen' stop verdict s := by
  obtain ⟨connecting, start, calls, results, hrun, htimes, hclock, hresults⟩ := h
  refine ⟨connecting, start, calls, results, hrun, fun time ht => hseen.subset (htimes time ht),
    fun hsorted => hclock ?_, hresults⟩
  exact hsorted.sublist hseen.sublist

/-- A connection is closed with its verdict, not before the last reading. -/
lemma RelayRun.stopping (h : RelayRun io config id seen none verdict s)
    (hlast : seen.Pairwise (· ≤ ·) → ∀ time ∈ seen, time ≤ now) :
    RelayRun io config id seen (some now) verdict s := by
  obtain ⟨connecting, start, calls, results, hrun, htimes, hclock, hresults⟩ := h
  refine ⟨connecting, start, calls, results, hrun, htimes, fun hsorted => ?_, hresults⟩
  refine ⟨(hclock hsorted).1, fun closing hclosing time htime => ?_⟩
  rw [← Option.some.inj hclosing]
  exact hlast hsorted time (htimes time htime)

/-- The proxy closes a connection for a reason of its own. -/
lemma RelayRun.closing (h : RelayRun io config id seen none .proceed s)
    {finalState : ConnectionState} {reason : CloseReason} (hreason : reason.fromRelay = false) :
    RelayRun io config id seen none (.close finalState reason) s := by
  obtain ⟨connecting, start, calls, results, hrun, htimes, hclock, hresults⟩ := h
  exact ⟨connecting, start, calls, results, hrun, htimes, hclock, .inr ⟨hreason, hresults⟩⟩

/-- **A visit continues the run**, if it is made at the last reading. -/
lemma RelayRun.called (h : RelayRun io config id seen none .proceed s)
    (hcalled : s.Called io now verdict s') (hnow : Latest seen now) :
    RelayRun io config id seen none verdict s' := by
  obtain ⟨connecting, start, calls, results, hrun, htimes, hclock, hresults⟩ := h
  obtain ⟨calls', results', hall', htimes', hresults'⟩ := hcalled
  refine ⟨connecting, start, calls ++ calls', results ++ results', ?_, ?_, ?_,
    ComesTo.append hresults hresults'⟩
  · unfold runRelay at hrun ⊢
    rcases hcreate : Relay.create config.relayConfig (config.planFor id) (UInt64.ofNat id)
        connecting start with e | r
    · simp [hcreate, bind, Except.bind] at hrun
    · simp only [hcreate, bind, Except.bind] at hrun ⊢
      exact execAll_append hrun hall'
  · intro time htime
    rw [List.filterMap_append, ← List.cons_append] at htime
    rcases List.mem_append.mp htime with htime | htime
    · exact htimes time htime
    · rw [htimes' time htime]
      exact hnow.1
  · intro hsorted
    refine ⟨?_, by simp⟩
    unfold Clocked
    rw [List.filterMap_append, ← List.cons_append, List.pairwise_append]
    refine ⟨(hclock hsorted).1, ?_, fun time htime time' htime' => ?_⟩
    · -- the calls of one visit are made at one time
      apply List.pairwise_of_forall_mem_list
      intro time htime time' htime'
      rw [htimes' time htime, htimes' time' htime']
    · rw [htimes' time' htime']
      exact hnow.2 hsorted time (htimes time htime)

/-- **An accepted connection begins a run**: its relay is constructed and asked for the interests of
its two sockets. -/
lemma RelayRun.born {connecting : Bool} {r : Relay} (hnow : now ∈ seen)
    (hcreate : Relay.create config.relayConfig (config.planFor id) (UInt64.ofNat id) connecting
      now = .ok r) :
    RelayRun io config id seen none .proceed
      { relay := ((r.desiredInterest .client now).2.desiredInterest .upstream now).2 } := by
  refine ⟨connecting, now, [.desiredInterest .client now, .desiredInterest .upstream now], _,
    by simp only [runRelay, hcreate, bind, Except.bind]; rfl, ?_, ?_, ?_⟩
  · intro time htime
    obtain rfl : time = now := by simpa [Call.time?] using htime
    exact hnow
  · intro _
    simp [Clocked, Call.time?]
  · simp [ComesTo, Obliging]

end RelayRun

/-! ## The connections of a runtime -/

/-- Every connection, live or closed, has the session of a run of its relay.  The relay of a live
one has not asked to be closed, and a closed one was closed as its relay has asked for, or for
another reason than the relay's. -/
structure Runtime.Driven (io : ℕ → SocketIo) (config : ProxyConfig) (seen : List ℤ) (p : Runtime) :
    Prop where
  config_eq : p.config = config
  live : ∀ id c, p.Live id c → RelayRun (io id) config id seen none .proceed c.session
  closed : ∀ entry ∈ p.closed, RelayRun (io entry.connectionId) config entry.connectionId seen
    (some entry.now) (.close entry.finalState entry.reason) entry.session

section Driven

variable {io : ℕ → SocketIo} {config : ProxyConfig} {seen seen' : List ℤ} {p p' : Runtime} {id : ℕ}
  {c : Connection} {now : ℤ}

lemma Runtime.Driven.mono (h : p.Driven io config seen) (hseen : seen <+: seen') :
    p.Driven io config seen' :=
  ⟨h.config_eq, fun id c hlive => (h.live id c hlive).mono hseen,
    fun entry hentry => (h.closed entry hentry).mono hseen⟩

lemma Runtime.Driven.setConnection (h : p.Driven io config seen)
    (hc : RelayRun (io id) config id seen none .proceed c.session) :
    (p.setConnection id c).Driven io config seen := by
  refine ⟨h.config_eq, fun id' c' hlive => ?_, h.closed⟩
  obtain ⟨rfl, rfl⟩ | ⟨-, hold⟩ := Runtime.live_setConnection.mp hlive
  · exact hc
  · exact h.live id' c' hold

lemma Runtime.Driven.remove (h : p.Driven io config seen) {finalState : ConnectionState}
    {reason : CloseReason}
    (hc : RelayRun (io id) config id seen (some now) (.close finalState reason) c.session) :
    (p.remove id c finalState reason now).Driven io config seen := by
  refine ⟨by simpa using h.config_eq,
    fun id' c' hlive => h.live id' c' (Runtime.live_remove.mp hlive).2, fun entry hentry => ?_⟩
  rw [Runtime.remove_closed] at hentry
  rcases List.mem_append.mp hentry with hold | hnew
  · exact h.closed entry hold
  · rw [List.mem_singleton.mp hnew]
    exact hc

lemma Runtime.Driven.scheduleWake (h : p.Driven io config seen)
    (hc : RelayRun (io id) config id seen none .proceed c.session) :
    (p.scheduleWake id c).Driven io config seen := by
  obtain ⟨wake, queue, heq, -⟩ := scheduleWake_spec p id c
  rw [heq]
  have hqueue : Runtime.Driven io config seen { p with timerQueue := queue } :=
    ⟨h.config_eq, h.live, h.closed⟩
  exact hqueue.setConnection hc

/-- The connection is closed as the verdict says. -/
lemma Runtime.Driven.closeWith (h : p.Driven io config seen) {finalState : ConnectionState}
    {reason : CloseReason} {session : Session}
    (hc : RelayRun (io id) config id seen (some now) (.close finalState reason) session) :
    ((p.setConnection id { c with session }).closeConnection id finalState reason now).Driven io
      config seen := by
  rw [Runtime.closeConnection_setConnection]
  exact h.remove hc

/-- A close for a reason of the proxy's own. -/
lemma Runtime.Driven.closeConnection (h : p.Driven io config seen) (id : ℕ)
    (finalState : ConnectionState) {reason : CloseReason} (hreason : reason.fromRelay = false)
    (hlast : seen.Pairwise (· ≤ ·) → ∀ time ∈ seen, time ≤ now) :
    (p.closeConnection id finalState reason now).Driven io config seen := by
  rcases hlive : p.connections.lookup id with _ | c
  · rw [Runtime.closeConnection, hlive]
    exact h
  · rw [Runtime.closeConnection_of_live hlive]
    exact h.remove (((h.live id c hlive).closing hreason).stopping hlast)

/-- **`pump_connection`** calls the relay at `now`, and closes as it is told. -/
lemma Runtime.Driven.pumpConnection (h : p.Driven io config seen) (hnow : Latest seen now)
    (hrun : p.pumpConnection io id now = .ok p') : p'.Driven io config seen := by
  rcases hlive : p.connections.lookup id with _ | c
  · rw [Runtime.pumpConnection, hlive] at hrun
    obtain rfl := Except.ok.inj hrun
    exact h
  rcases hflush : c.session.flushBoth (io id) now with e | ⟨_ | ⟨finalState, reason⟩, session⟩
  · simp [Runtime.pumpConnection, hlive, hflush] at hrun
  · rw [pumpConnection_proceed io now hlive hflush] at hrun
    obtain rfl := Except.ok.inj hrun
    have hcalled := (flushBoth_called hflush).trans
      (propagateHalfCloses_called (io id) now session)
    have hsession := (h.live id c hlive).called hcalled hnow
    split_ifs with hdrained
    · exact h.remove ((hsession.closing rfl).stopping hnow.2)
    · exact h.scheduleWake (hsession.called (refresh_called (io id) now
        { c with session := session.propagateHalfCloses (io id) }) hnow)
  · rw [Runtime.pumpConnection, hlive] at hrun
    simp only [hflush] at hrun
    obtain rfl := Except.ok.inj hrun
    have hsession := (h.live id c hlive).called (flushBoth_called hflush) hnow
    exact h.closeWith (hsession.stopping hnow.2)

/-- **`socket_ready`** does the same, after a connect, an error or a read. -/
lemma Runtime.Driven.socketReady (h : p.Driven io config seen) {event : Readiness}
    (hnow : Latest seen event.now) (hrun : p.socketReady io event = .ok p') :
    p'.Driven io config seen := by
  rw [Runtime.socketReady] at hrun
  rcases hbinding : p.bindings.lookup event.token with _ | binding
  · rw [hbinding] at hrun
    obtain rfl := Except.ok.inj hrun
    exact h
  simp only [hbinding] at hrun
  rcases hlive : p.connections.lookup binding.connectionId with _ | c
  · rw [hlive] at hrun
    obtain rfl := Except.ok.inj hrun
    exact h
  simp only [hlive] at hrun
  rcases hserve : c.session.serveSocket (io binding.connectionId) binding.side event with
    e | ⟨verdict, session⟩
  · simp [hserve] at hrun
  have hsession := (h.live _ c hlive).called (serveSocket_called hserve) hnow
  simp only [hserve] at hrun
  rcases verdict with _ | ⟨finalState, reason⟩
  · exact (h.setConnection hsession).pumpConnection hnow hrun
  · obtain rfl := Except.ok.inj hrun
    exact h.closeWith (hsession.stopping hnow.2)

/-- **A popped entry** leads to a pump, a timeout, or nothing. -/
lemma Runtime.Driven.handleTimer (h : p.Driven io config seen) {event : TimerEvent}
    (hnow : Latest seen now) (hrun : p.handleTimer io now event = .ok p') :
    p'.Driven io config seen := by
  simp only [Runtime.handleTimer] at hrun
  rcases hlive : p.connections.lookup event.connectionId with _ | c
  · rw [hlive] at hrun
    obtain rfl := Except.ok.inj hrun
    exact h
  simp only [hlive] at hrun
  rcases hkind : event.kind with _ | _ | _
  · simp only [hkind] at hrun
    have hsession : RelayRun (io event.connectionId) config event.connectionId seen none
        .proceed        (c.resetDueWake now).session := by
      rw [Connection.resetDueWake_session]
      exact h.live _ c hlive
    exact (h.setConnection hsession).pumpConnection hnow hrun
  · simp only [hkind] at hrun
    split_ifs at hrun
    · obtain rfl := Except.ok.inj hrun
      exact h.closeConnection _ _ rfl hnow.2
    · obtain rfl := Except.ok.inj hrun
      exact ⟨h.config_eq, h.live, h.closed⟩
  · simp only [hkind] at hrun
    split_ifs at hrun
    · obtain rfl := Except.ok.inj hrun
      exact h.closeConnection _ _ rfl hnow.2
    · obtain rfl := Except.ok.inj hrun
      exact h

/-- **`process_due_timers`**: all the entries that are due are dealt with at one reading. -/
lemma Runtime.Driven.processDueTimers (h : p.Driven io config seen) {processed : ℕ}
    (hnow : Latest seen now) (hrun : p.processDueTimers io now = .ok (processed, p')) :
    p'.Driven io config seen := by
  apply (processDueTimers_rule (P := fun q => q.Driven io config seen) ?_
    ⟨h.config_eq, h.live, h.closed⟩ hrun).1
  intro q event mid q' hq hpop hhandle
  have hmid : mid.Driven io config seen := by
    rw [hpop.rest]
    exact ⟨hq.config_eq, hq.live, hq.closed⟩
  exact hmid.handleTimer hnow hhandle

/-- **An accept** begins the run of one relay. -/
lemma Runtime.Driven.acceptConnection (h : p.Driven io config seen) {connecting : Bool}
    (hnow : now ∈ seen) (hrun : p.acceptConnection connecting now = .ok p') :
    p'.Driven io config seen := by
  have hplan : p.effectiveFaults p.nextConnectionId = config.planFor p.nextConnectionId := by
    rw [← h.config_eq]
    exact p.effectiveFaults_eq p.nextConnectionId
  rw [Runtime.acceptConnection] at hrun
  rcases hcreate : Relay.create p.config.relayConfig (p.effectiveFaults p.nextConnectionId)
      (UInt64.ofNat p.nextConnectionId) connecting now with e | r
  · simp [hcreate, bind, Except.bind] at hrun
  simp only [hcreate, bind, Except.bind] at hrun
  obtain rfl := Except.ok.inj hrun
  rw [hplan, h.config_eq] at hcreate
  refine ⟨h.config_eq, fun id c hlive => ?_, h.closed⟩
  obtain ⟨rfl, rfl⟩ | ⟨-, hold⟩ := Runtime.live_setConnection.mp hlive
  · exact .born hnow hcreate
  · exact h.live id c hold

lemma Runtime.Driven.acceptReady : ∀ (accepts : List AcceptResult) {p : Runtime},
    p.Driven io config seen → (∀ time ∈ accepts.filterMap AcceptResult.reading?, time ∈ seen) →
      p.acceptReady accepts = .ok p' → p'.Driven io config seen
  | [], p, h, _, hrun => by
      obtain rfl := Except.ok.inj hrun
      exact h
  | .interrupted :: accepts, p, h, hseen, hrun => acceptReady accepts h hseen hrun
  | .failed errno :: accepts, p, h, _, hrun => by
      obtain rfl := Except.ok.inj hrun
      exact h
  | .accepted upstream :: accepts, p, h, hseen, hrun => by
      have hrest : ∀ time ∈ accepts.filterMap AcceptResult.reading?, time ∈ seen := by
        intro time htime
        obtain ⟨accept, haccept, hreading⟩ := List.mem_filterMap.mp htime
        exact hseen time (List.mem_filterMap.mpr ⟨accept, List.mem_cons_of_mem _ haccept, hreading⟩)
      unfold Runtime.acceptReady at hrun
      split_ifs at hrun
      · exact acceptReady accepts h hrest hrun
      cases upstream with
      | socketFailed errno => exact acceptReady accepts h hrest hrun
      | connectFailed errno => exact acceptReady accepts h hrest hrun
      | opened connecting now =>
          rcases haccept : p.acceptConnection connecting now with e | q
          · simp [haccept] at hrun
          · simp only [haccept] at hrun
            have hnow : now ∈ seen :=
              hseen now (List.mem_filterMap.mpr ⟨_, List.mem_cons_self .., rfl⟩)
            exact acceptReady accepts (h.acceptConnection hnow haccept) hrest hrun

/-- **Every event** is handled with calls at its own clock readings. -/
lemma Runtime.Driven.dispatch (h : p.Driven io config seen) {event : Readiness} {stopping : Bool}
    (hrun : p.dispatch io event = .ok (stopping, p')) :
    p'.Driven io config (seen ++ event.readings) := by
  have hmono := h.mono (List.prefix_append seen event.readings)
  rw [Runtime.dispatch] at hrun
  split_ifs at hrun with hlistener hsignal htimer
  · rcases hready : p.acceptReady event.accepts with e | q
    · simp [hready, Except.map] at hrun
    · simp only [hready, Except.map, Except.ok.injEq, Prod.mk.injEq] at hrun
      rw [← hrun.2]
      apply Runtime.Driven.acceptReady event.accepts hmono ?_ hready
      intro time htime
      rw [Readiness.readings, if_pos hlistener]
      exact List.mem_append_right _ htime
  · simp only [Except.ok.injEq, Prod.mk.injEq] at hrun
    rw [← hrun.2]
    exact hmono
  all_goals
    have hreadings : event.readings = [event.now] := by
      rw [Readiness.readings, if_neg hlistener, if_neg hsignal]
    have hnow : Latest (seen ++ event.readings) event.now := by
      rw [hreadings]
      refine ⟨List.mem_append_right _ (List.mem_singleton_self _), fun hsorted time htime => ?_⟩
      rcases List.mem_append.mp htime with htime | htime
      · exact (List.pairwise_append.mp hsorted).2.2 time htime _ (List.mem_singleton_self _)
      · exact (List.mem_singleton.mp htime).le
  · rcases hprocess : p.drainTimerFd.processDueTimers io event.now with e | ⟨processed, q⟩
    · simp [hprocess, Except.map] at hrun
    · simp only [hprocess, Except.map, Except.ok.injEq, Prod.mk.injEq] at hrun
      rw [← hrun.2]
      have hdrained : p.drainTimerFd.Driven io config (seen ++ event.readings) :=
        ⟨hmono.config_eq, hmono.live, hmono.closed⟩
      exact hdrained.processDueTimers hnow hprocess
  · rcases hready : p.socketReady io event with e | q
    · simp [hready, Except.map] at hrun
    · simp only [hready, Except.map, Except.ok.injEq, Prod.mk.injEq] at hrun
      rw [← hrun.2]
      exact hmono.socketReady hnow hready

/-- The induction is on the run. -/
lemma Run.driven {allowed : List Readiness → Readiness → Runtime → Prop} {past : List Readiness}
    {stopping : Bool} (hrun : Run io config allowed past stopping p) :
    p.Driven io config (readings past) := by
  induction hrun with
  | start =>
      refine ⟨rfl, fun id c hlive => ?_, fun entry hentry => ?_⟩
      · cases hlive
      · cases hentry
  | @ready past p event stopping p' before allows handled ih =>
      have hsplit : readings (past ++ [event]) = readings past ++ event.readings := by
        simp [readings]
      rw [hsplit]
      exact ih.dispatch handled
  | tick clock before ih => exact ⟨ih.config_eq, ih.live, ih.closed⟩
  | arm clock ok before ih =>
      refine ⟨by simpa using ih.config_eq, fun id c hlive => ?_, ?_⟩
      · exact ih.live id c (by simpa [Runtime.Live] using hlive)
      · rw [Runtime.armTimerFd_closed]
        exact ih.closed

/-- The same with all the readings that a run will have made. -/
lemma Run.driven_arrivals {past : List Readiness} {stopping : Bool} {all : List Readiness}
    (hrun : Run io config (fun past event _ => past ++ [event] <+: all) past stopping p) :
    p.Driven io config (readings all) := by
  apply hrun.driven.mono
  obtain ⟨rest, heq⟩ := hrun.isPrefix
  rw [← heq, readings, readings, List.flatMap_append]
  exact List.prefix_append _ _

/-- The end of `run` closes what is left. -/
lemma Runtime.Driven.shutDown (h : p.Driven io config seen)
    (hlast : ∀ time ∈ seen, time ≤ now) : (p.shutDown now).Driven io config seen := by
  unfold Runtime.shutDown
  generalize p.connections.keys = ids
  induction ids generalizing p with
  | nil => exact h
  | cons id ids ih => exact ih (h.closeConnection id .fullyClosed rfl fun _ => hlast)

end Driven

/-- **The proxy drives each relay through its interface.**  At every moment of every run, and after
the shutdown, the session of every connection, live or closed, is that of a run of its relay: the
relay is constructed with the configuration and the plan of the connection and called at clock
readings that the loop has made.  If these do not decrease, then neither do the times of the calls,
and no call is later than the close.  No call comes after one that has asked for a close: a live
connection has had none, and a closed one was closed with the state and the reason of its last call,
or for a reason that is not the relay's. -/
theorem proxy_drives_relays (io : ℕ → SocketIo) (config : ProxyConfig)
    (hconfig : config.validate = .ok ()) (iterations : List Iteration) (steps : List LoopStep) :
    ∃ stopping p, Runtime.runTo io config iterations steps = .ok (stopping, p) ∧
      ∀ final : Runtime, (final = p ∨ ∃ now, final = p.shutDown now ∧
          ∀ time ∈ readings (arrivals iterations steps), time ≤ now) →
        (∀ id c, final.connections.lookup id = some c →
          RelayRun (io id) config id (readings (arrivals iterations steps)) none .proceed
            c.session) ∧
        ∀ entry ∈ final.closed,
          RelayRun (io entry.connectionId) config entry.connectionId
            (readings (arrivals iterations steps)) (some entry.now)
            (.close entry.finalState entry.reason) entry.session := by
  obtain ⟨past, stopping, p, hto, hrun⟩ :=
    runTo_run io hconfig iterations steps fun _ _ hfirst => hfirst
  have hdriven := hrun.driven_arrivals
  refine ⟨stopping, p, hto, fun final hfinal => ?_⟩
  rcases hfinal with rfl | ⟨now, rfl, hlast⟩
  · exact ⟨hdriven.live, hdriven.closed⟩
  · exact ⟨(hdriven.shutDown hlast).live, (hdriven.shutDown hlast).closed⟩

/-- A client whose upstream connects after a millisecond and that then sends three bytes: its
session is that of calls of its relay at nondecreasing times. -/
theorem proxy_drives_relays_connected :
    ∃ stopping p c, Runtime.runTo (fun _ => .script fun _ => [1, 2, 3])
        { bufferBytesPerDirection := 1024, lowWaterBytes := 512, highWaterBytes := 1024 }
        [.batch [.ready { token := 1, accepts := [.accepted (.opened true 10)] }] 11 true]
        [.ready { token := 5, events := { epollout := true }, now := 1000000 },
          .ready { token := 4, events := { epollin := true }, now := 2000000 }] =
        .ok (stopping, p) ∧
      p.connections.lookup 1 = some c ∧ c.session.trace.sent .upstream = [1, 2, 3] ∧
      ∃ connecting start calls results,
        runRelay (.script fun _ => [1, 2, 3])
            { bufferBytesPerDirection := 1024, lowWaterBytes := 512, highWaterBytes := 1024 } {} 1
            connecting start calls = .ok (results, c.session) ∧
          Clocked start calls ∧ Obliging results := by
  have hcheck : returns (Runtime.runTo (fun _ => .script fun _ => [1, 2, 3])
      { bufferBytesPerDirection := 1024, lowWaterBytes := 512, highWaterBytes := 1024 }
      [.batch [.ready { token := 1, accepts := [.accepted (.opened true 10)] }] 11 true]
      [.ready { token := 5, events := { epollout := true }, now := 1000000 },
        .ready { token := 4, events := { epollin := true }, now := 2000000 }])
      (fun state => (state.2.connections.lookup 1).any fun c =>
        decide (c.session.trace.sent .upstream = [1, 2, 3])) = true := by
    decide +kernel
  obtain ⟨stopping, p, hrun, hfinal⟩ := proxy_drives_relays (fun _ => .script fun _ => [1, 2, 3])
    { bufferBytesPerDirection := 1024, lowWaterBytes := 512, highWaterBytes := 1024 }
    (by decide +kernel)
    [.batch [.ready { token := 1, accepts := [.accepted (.opened true 10)] }] 11 true]
    [.ready { token := 5, events := { epollout := true }, now := 1000000 },
      .ready { token := 4, events := { epollin := true }, now := 2000000 }]
  rw [hrun] at hcheck
  simp only [returns, Option.any_eq_true, decide_eq_true_eq] at hcheck
  obtain ⟨c, hlive, hsent⟩ := hcheck
  obtain ⟨connecting, start, calls, results, hrelay, -, hclock, hresults⟩ :=
    (hfinal p (.inl rfl)).1 1 c hlive
  exact ⟨stopping, p, c, hrun, hlive, hsent, connecting, start, calls, results, hrelay,
    (hclock (by decide)).1, hresults⟩

end NetFault
