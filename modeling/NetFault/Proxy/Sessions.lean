import NetFault.Proxy.OrderlyClose

/-!
# What holds of every session of a run

A property of sessions that new ones have and every move keeps holds of every connection the proxy
has ever accepted: of the live ones, and of the closed ones at their close.
-/

namespace NetFault

open TraceEvent

/-- The rule for a moment that is known to be reached. -/
lemma LoopInvariant.of_runTo {io : ℕ → SocketIo} {P : Runtime → Prop} {config : ProxyConfig}
    (h : LoopInvariant io (fun _ => True) P) (hconfig : config.validate = .ok ())
    (hinit : P { config }) {iterations : List Iteration} {steps : List LoopStep} {stopping : Bool}
    {p : Runtime} (hrun : Runtime.runTo io config iterations steps = .ok (stopping, p)) : P p := by
  obtain ⟨stopping', p', hrun', -, hp⟩ := h.runTo hconfig hinit iterations steps (by simp) (by simp)
  obtain ⟨-, rfl⟩ : stopping = stopping' ∧ p = p' := by simpa using hrun.symm.trans hrun'
  exact hp

/-- Every connection, live or closed, has a session with `P`. -/
structure Runtime.Every (P : Session → Prop) (p : Runtime) : Prop where
  live : ∀ id c, p.Live id c → P c.session
  closed : ∀ entry ∈ p.closed, P entry.session

/-- A property of sessions that new ones have and that every move keeps. -/
structure Session.Lasting (P : Session → Prop) : Prop where
  born : ∀ (config : RelayConfig) (plan : FaultPlan) (connecting : Bool) (now : ℤ) (r : Relay),
    r.Fresh config plan connecting now → P { relay := r }
  move : ∀ (io : SocketIo) (now : ℤ) (s s' : Session), (∀ source, s.Intact source) → s.Lifecycle →
    P s → Move io now s s' → P s'

section Every

variable {P : Session → Prop} {now : ℤ} {p p' mid : Runtime}

lemma Session.Lasting.advances {io : SocketIo} {s s' : Session} {config : ProxyConfig}
    (h : Session.Lasting P) (hs : s.Sound config) (hp : P s) (hadvances : s.Advances io now s') :
    P s' :=
  (hadvances.moves.preserves
    (P := fun m => ((∀ source, m.Intact source) ∧ m.Lifecycle) ∧ P m) hs.inv
    ⟨⟨hs.intact, hs.lifecycle⟩, hp⟩ fun m m' _ hm hmove =>
      ⟨⟨fun source => (hm.1.1 source).move hmove, hm.1.2.move hm.1.1 hmove⟩,
        h.move io now m m' hm.1.1 hm.1.2 hm.2 hmove⟩).2

lemma Runtime.Every.remove (h : p.Every P) {id : ℕ} {c : Connection} (hc : P c.session)
    (finalState : ConnectionState) (reason : CloseReason) (now : ℤ) :
    (p.remove id c finalState reason now).Every P := by
  refine ⟨fun id' c' hlive => h.live id' c' (Runtime.live_remove.mp hlive).2,
    fun entry hentry => ?_⟩
  rw [Runtime.remove_closed] at hentry
  rcases List.mem_append.mp hentry with hold | hnew
  · exact h.closed entry hold
  · rw [List.mem_singleton.mp hnew]
    exact hc

lemma Work.every {io : SocketIo} {id : ℕ} {c : Connection} {config : ProxyConfig}
    (hP : Session.Lasting P) (hwork : Work io now id c p p') (hs : c.session.Sound config)
    (hc : P c.session) (h : p.Every P) : p'.Every P := by
  cases hwork with
  | closed session finalState reason advances abrupt =>
      exact h.remove (hP.advances hs hc advances) finalState reason now
  | drained session advances drained =>
      refine h.remove (c := { c with session := session.propagateHalfCloses io }) ?_ _ _ now
      have hsession := hP.advances hs hc advances
      exact hP.advances (hs.advances advances) hsession
        (propagateHalfCloses_advances : session.Advances io now _)
  | settled session advances undrained propagated =>
      have hwork : Work io now id c p (p.scheduleWake id (({ c with session } : Connection).refresh
        now)) := .settled session advances undrained propagated
      obtain ⟨-, -, -, hothers⟩ := hwork.frame
      refine ⟨fun id' c' hlive => ?_, fun entry hentry => ?_⟩
      · by_cases heq : id' = id
        · subst heq
          exact hP.advances hs hc (hwork.live_self hlive)
        · exact h.live id' c' ((hothers id' c' heq).mp hlive)
      · obtain ⟨w, q, heq, -⟩ :=
          scheduleWake_spec p id (({ c with session } : Connection).refresh now)
        rw [heq] at hentry
        exact h.closed entry hentry

lemma Popped.every {event : TimerEvent} (hpopped : Popped now event p mid) (h : p.Every P) :
    mid.Every P := by
  refine ⟨fun id c hlive => h.live id c (hpopped.live.mp hlive), fun entry hentry => ?_⟩
  rw [hpopped.rest] at hentry
  exact h.closed entry hentry

lemma Act.every {io : ℕ → SocketIo} (hP : Session.Lasting P) (hact : Act io now p p')
    (hs : p.Sound) (h : p.Every P) : p'.Every P := by
  cases hact with
  | accept connecting c newborn token room =>
      refine ⟨fun id c' hlive => ?_, h.closed⟩
      obtain ⟨-, rfl⟩ | ⟨-, hold⟩ := Runtime.live_accepted.mp hlive
      · have hsession : c'.session = { relay := c'.session.relay } := by rw [← newborn.trace]
        rw [hsession]
        exact hP.born _ _ _ _ _ newborn.fresh
      · exact h.live id c' hold
  | serve id c _ live work => exact work.every hP (hs.session id c live) (h.live id c live) h
  | fire => exact ⟨h.live, h.closed⟩
  | skip event _ popped idle => exact popped.every h
  | wake event c mid _ popped live kind work =>
      refine work.every hP (hs.resetDueWake live) ?_ (popped.every h)
      rw [Connection.resetDueWake_session]
      exact h.live _ c live
  | timeOut event c mid reason popped live due =>
      exact (popped.every h).remove (h.live _ c live) _ _ _
  | postpone event c mid popped live kind active =>
      exact ⟨(popped.every h).live, (popped.every h).closed⟩

/-- **What every session keeps holds of every session of a run.** -/
lemma Session.Lasting.invariant (hP : Session.Lasting P) (io : ℕ → SocketIo) :
    LoopInvariant io (fun _ => True) (Runtime.Every P) where
  act _ _ _ _ hs hp hact := hact.every hP hs hp
  tick _ _ hp := ⟨hp.live, hp.closed⟩
  arm clock ok p hp :=
    ⟨fun id c hlive => hp.live id c (by simpa [Runtime.Live] using hlive),
      fun entry hentry => hp.closed entry (by simpa using hentry)⟩

lemma Runtime.every_init (config : ProxyConfig) : Runtime.Every P { config } := by
  constructor
  · intro id c hlive
    cases hlive
  · intro entry hentry
    cases hentry

lemma Runtime.Every.closeConnection (h : p.Every P) (id : ℕ) (finalState : ConnectionState)
    (reason : CloseReason) (now : ℤ) : (p.closeConnection id finalState reason now).Every P := by
  rcases hlive : p.connections.lookup id with _ | c
  · rw [Runtime.closeConnection, hlive]
    exact h
  · rw [Runtime.closeConnection_of_live hlive]
    exact h.remove (h.live id c hlive) finalState reason now

/-- It holds after the shutdown too. -/
lemma Runtime.Every.shutDown (h : p.Every P) (now : ℤ) : (p.shutDown now).Every P := by
  unfold Runtime.shutDown
  generalize p.connections.keys = ids
  induction ids generalizing p with
  | nil => exact h
  | cons id ids ih => exact ih (h.closeConnection id .fullyClosed .proxyShutdown now)

end Every

end NetFault
