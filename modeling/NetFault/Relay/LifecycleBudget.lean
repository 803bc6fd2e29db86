import NetFault.Relay.Channels
import NetFault.Relay.InjectedHalfClose
import NetFault.Relay.Outcomes

/-!
# Lifecycle faults and their byte budgets

`check_lifecycle_faults` runs at the end of `flush`, and only there.  Between two flushes nothing
is sent, and one flush sends at most what was queued, which is at most the high-water mark.  So a
budget that is not used up before a flush is overrun by less than the high-water mark when the
check sees it.  The check is skipped when `flush` returns a socket error; the connection is then
closed for that error.
-/

namespace NetFault

open TraceEvent

/-! ## What a call can send and inject -/

section Notes

variable {io : SocketIo} {now : ℤ} {s s' s'' : Session}

/-- From `s` to `s'` only notes were made, and the flags of the write sides are the same. -/
structure Session.Noted (s s' : Session) : Prop where
  injected : s'.relay.halfCloseInjected = s.relay.halfCloseInjected
  writeOpen : s'.relay.writeOpen = s.relay.writeOpen
  trace : ∃ notes, s'.trace = s.trace ++ notes ∧ ∀ e ∈ notes, e.isNote = true

lemma Session.Noted.record (h : s.Noted s') {e : TraceEvent} (he : e.isNote = true) :
    s.Noted (s'.record e) := by
  obtain ⟨notes, htrace, hnotes⟩ := h.trace
  refine ⟨h.injected, h.writeOpen, notes ++ [e], ?_, fun e' he' => ?_⟩
  · rw [Session.record, htrace, List.append_assoc]
  · rcases List.mem_append.mp he' with hmem | hmem
    · exact hnotes e' hmem
    · rwa [List.mem_singleton.mp hmem]

lemma observeBackpressure_noted {source : Side} (h : s.observeBackpressure source now = .ok s') :
    s.Noted s' := by
  simp only [Session.observeBackpressure, bind, Except.bind] at h
  split at h
  · cases h
  · have hset : ∀ d, s.Noted { s with relay := s.relay.setDirection source d } := fun d =>
      ⟨rfl, rfl, [], by simp, by simp⟩
    split at h <;> obtain rfl := Except.ok.inj h
    · exact (hset _).record rfl
    · exact ((hset _).record rfl).record rfl
    · exact ((hset _).record rfl).record rfl

lemma commitReceived_noted {source : Side} {bytes : List Byte}
    (h : s.commitReceived source bytes now = .ok s') : s.Noted s' := by
  simp only [Session.commitReceived, bind, Except.bind] at h
  split at h
  · cases h
  · obtain ⟨hinjected, hwrite, notes, htrace, hnotes⟩ := observeBackpressure_noted h
    refine ⟨hinjected, hwrite,
      (stampFault source (s.relay.directionFrom source).fault bytes.length now).2 ++ notes,
      htrace.trans (List.append_assoc ..), fun e he => ?_⟩
    rcases List.mem_append.mp he with he | he
    · exact stampFault_isNote _ _ _ _ e he
    · exact hnotes e he

lemma commitSent_noted {destination : Side} {budget count : ℕ}
    (h : s.commitSent destination budget count now = .ok s') : s.Noted s' := by
  simp only [Session.commitSent, bind, Except.bind] at h
  split at h
  · cases h
  split at h
  · cases h
  split at h
  · cases h
  · next mid hmid =>
      obtain rfl := Except.ok.inj h
      obtain ⟨hinjected, hwrite, htrace⟩ := observeBackpressure_noted hmid
      exact ⟨hinjected, hwrite, htrace⟩

/-- From `s` to `s'` nothing was sent and no half-close was injected; a write side may have been
shut down. -/
structure Session.Silent (s s' : Session) : Prop where
  injected : s'.relay.halfCloseInjected = s.relay.halfCloseInjected
  closed : ∀ side, s.relay.writeOpen side = false → s'.relay.writeOpen side = false
  trace : ∃ added, s'.trace = s.trace ++ added ∧ Trace.count isInjection added = 0 ∧
    ∀ side, Trace.sent side added = []

lemma Session.Silent.refl (s : Session) : s.Silent s :=
  ⟨rfl, fun _ h => h, [], by simp, rfl, fun _ => rfl⟩

lemma Session.Silent.trans (h : s.Silent s') (h' : s'.Silent s'') : s.Silent s'' := by
  obtain ⟨added, htrace, hinjection, hsent⟩ := h.trace
  obtain ⟨added', htrace', hinjection', hsent'⟩ := h'.trace
  refine ⟨h'.injected.trans h.injected, fun side hc => h'.closed side (h.closed side hc),
    added ++ added', by rw [htrace', htrace, List.append_assoc], ?_, fun side => ?_⟩
  · rw [Trace.count_append, hinjection, hinjection']
  · rw [Trace.sent_append, hsent, hsent', List.append_nil]

lemma Trace.injections_notes {notes : Trace} (h : ∀ e ∈ notes, e.isNote = true) :
    Trace.count isInjection notes = 0 :=
  (Trace.count_plain (fun e he => TraceEvent.isPlain_of_isNote (h e he)) .client).2.2.2

lemma Session.Noted.silent (h : s.Noted s') : s.Silent s' := by
  obtain ⟨notes, htrace, hnotes⟩ := h.trace
  exact ⟨h.injected, fun side hc => by rw [h.writeOpen, hc], notes, htrace,
    Trace.injections_notes hnotes, fun side => Trace.sent_notes side hnotes⟩

lemma Session.noteHalfClosedRead_silent (s : Session) (source : Side) :
    s.Silent (s.noteHalfClosedRead source) :=
  ⟨rfl, fun _ h => h, _, Session.noteHalfClosedRead_trace .., rfl, fun _ => rfl⟩

lemma Session.record_receive_silent (s : Session) (source : Side) (span : ℕ)
    (hint : Bool) (result : IoResult (List Byte)) (now : ℤ) :
    s.Silent (s.record (.receive source span hint result now)) :=
  ⟨rfl, fun _ h => h, _, rfl, rfl, fun _ => rfl⟩

lemma Session.countEagain_silent (s : Session) : s.Silent s.countEagain :=
  ⟨rfl, fun _ h => h, [], by simp [Session.countEagain], rfl, fun _ => rfl⟩

lemma handleReadableBody_silent {source : Side} {hangupHint : Bool}
    {trip : Loop.Trip Session PumpResult}
    (h : s.handleReadableBody io source hangupHint now = .ok trip) : s.Silent trip.state := by
  simp only [Session.handleReadableBody] at h
  split at h
  swap
  · obtain rfl := Except.ok.inj h
    exact .refl s
  split at h
  · cases h
  split at h
  · next bytes _ =>
      rcases hcommit : Session.commitReceived source bytes now (s.record _) with _ | s'
      · rw [hcommit] at h
        cases h
      · rw [hcommit] at h
        obtain rfl := Except.ok.inj h
        exact (s.record_receive_silent ..).trans (commitReceived_noted hcommit).silent
  · obtain rfl := Except.ok.inj h
    exact (s.record_receive_silent ..).trans (Session.noteHalfClosedRead_silent _ source)
  · obtain rfl := Except.ok.inj h
    simp only [Loop.Trip.state]
    split_ifs
    · exact ((s.record_receive_silent ..).trans (Session.countEagain_silent _)).trans
        (Session.noteHalfClosedRead_silent _ source)
    · exact (s.record_receive_silent ..).trans (Session.countEagain_silent _)
  · obtain rfl := Except.ok.inj h
    exact s.record_receive_silent ..

lemma handleReadable_silent {source : Side} {hangupHint : Bool} {result : PumpResult}
    (h : s.handleReadable io source hangupHint now = .ok (result, s')) : s.Silent s' := by
  obtain ⟨last, hlast, hbody⟩ := Loop.run_exit (fun m => s.Silent m)
    (fun m m' hm hbody => hm.trans (handleReadableBody_silent hbody)) _ s (.refl s) h
  exact hlast.trans (handleReadableBody_silent hbody)

lemma forwardHalfClose_silent (destination : Side) :
    s.Silent (s.forwardHalfClose io destination) := by
  rcases hok : io.shutdownWrite s.trace destination with _ | _
  · rw [Session.forwardHalfClose_of_failed hok]
    exact ⟨rfl, fun _ h => h, _, rfl, rfl, fun _ => rfl⟩
  · rw [Session.forwardHalfClose_of_ok hok]
    refine ⟨rfl, fun side h => ?_, _, rfl, rfl, fun _ => rfl⟩
    simp [Relay.closeWrite, Function.update_apply, h]

lemma propagateHalfCloses_silent : s.Silent (s.propagateHalfCloses io) := by
  rw [Session.propagateHalfCloses]
  split_ifs
  · exact (forwardHalfClose_silent .upstream).trans (forwardHalfClose_silent .client)
  · exact forwardHalfClose_silent .upstream
  · exact forwardHalfClose_silent .client
  · exact .refl s

/-- A query keeps everything but the buckets. -/
lemma Refills.silent {r : Relay} (h : Refills now s.relay r) : s.Silent { s with relay := r } := by
  rw [h.rest]
  exact ⟨rfl, fun _ hc => hc, [], by simp, rfl, fun _ => rfl⟩

/-- From `s` to `s'` nothing was received, nothing was sent to the other side of `destination`, and
no flag of a write side has changed. -/
structure Session.Drains (destination : Side) (s s' : Session) : Prop where
  injected : s'.relay.halfCloseInjected = s.relay.halfCloseInjected
  writeOpen : s'.relay.writeOpen = s.relay.writeOpen
  trace : ∃ added, s'.trace = s.trace ++ added ∧ Trace.count isInjection added = 0 ∧
    Trace.sent destination.peer added = [] ∧ ∀ side, Trace.received side added = []

lemma Session.Drains.refl (destination : Side) (s : Session) : s.Drains destination s :=
  ⟨rfl, rfl, [], by simp, rfl, rfl, fun _ => rfl⟩

lemma Session.Drains.trans {destination : Side} (h : s.Drains destination s')
    (h' : s'.Drains destination s'') : s.Drains destination s'' := by
  obtain ⟨added, htrace, hinjection, hsent, hreceived⟩ := h.trace
  obtain ⟨added', htrace', hinjection', hsent', hreceived'⟩ := h'.trace
  refine ⟨h'.injected.trans h.injected, h'.writeOpen.trans h.writeOpen, added ++ added',
    by rw [htrace', htrace, List.append_assoc], ?_, ?_, fun side => ?_⟩
  · rw [Trace.count_append, hinjection, hinjection']
  · rw [Trace.sent_append, hsent, hsent', List.append_nil]
  · rw [Trace.received_append, hreceived, hreceived', List.append_nil]

lemma Session.Noted.drains (h : s.Noted s') (destination : Side) : s.Drains destination s' := by
  obtain ⟨notes, htrace, hnotes⟩ := h.trace
  exact ⟨h.injected, h.writeOpen, notes, htrace, Trace.injections_notes hnotes,
    Trace.sent_notes _ hnotes, fun side => Trace.received_notes side hnotes⟩

/-- Asking for a budget and sending to `destination`. -/
lemma Session.record_send_drains (s : Session) (destination : Side) (d : Direction)
    (data : List Byte) (result : IoResult ℕ) (now : ℤ) :
    s.Drains destination
      ({ s with relay := s.relay.setDirection destination.peer d }.record
        (.send destination data result now)) := by
  refine ⟨rfl, rfl, [_], rfl, rfl, ?_, fun _ => rfl⟩
  have hne : destination ≠ destination.peer := (Side.peer_ne destination).symm
  cases result <;> simp [Trace.sentIn, hne]

lemma Session.countEagain_drains (s : Session) (destination : Side) :
    s.Drains destination s.countEagain :=
  ⟨rfl, rfl, [], by simp [Session.countEagain], rfl, rfl, fun _ => rfl⟩

lemma flushBody_drains {destination : Side} {trip : Loop.Trip Session (Option PumpResult)}
    (h : s.flushBody io destination now = .ok trip) : s.Drains destination trip.state := by
  simp only [Session.flushBody] at h
  split at h
  · obtain rfl := Except.ok.inj h
    exact .refl destination s
  split at h
  · obtain rfl := Except.ok.inj h
    exact ⟨rfl, rfl, [], by simp [Loop.Trip.state], rfl, rfl, fun _ => rfl⟩
  split at h
  · next count _ =>
      rcases hcommit : Session.commitSent destination _ count now (Session.record _ _) with
        _ | s'
      · rw [hcommit] at h
        cases h
      · rw [hcommit] at h
        obtain rfl := Except.ok.inj h
        exact (s.record_send_drains ..).trans ((commitSent_noted hcommit).drains destination)
  · obtain rfl := Except.ok.inj h
    exact (s.record_send_drains ..).trans (Session.countEagain_drains _ destination)
  all_goals
    obtain rfl := Except.ok.inj h
    exact s.record_send_drains ..

lemma flushLoop_drains {destination : Side} {r : Option PumpResult} {trips : ℕ}
    (h : Loop.run (Session.flushBody io destination now) Fault.endlessLoop trips s =
      .ok (r, s')) : s.Drains destination s' := by
  obtain ⟨last, hlast, hbody⟩ := Loop.run_exit (fun m => s.Drains destination m)
    (fun m m' hm hbody => hm.trans (flushBody_drains hbody)) _ s (.refl destination s) h
  exact hlast.trans (flushBody_drains hbody)

/-- A flush sends at most what was queued, and nothing to the other side. -/
lemma Session.Drains.sent_le {destination : Side} (h : s.Drains destination s')
    (hintact : s.Intact destination.peer) (hintact' : s'.Intact destination.peer) :
    s'.trace.sent destination.peer = s.trace.sent destination.peer ∧
      (s.trace.sent destination).length ≤ (s'.trace.sent destination).length ∧
      (s'.trace.sent destination).length ≤ (s.trace.sent destination).length +
        (s.relay.directionFrom destination.peer).queue.size := by
  obtain ⟨added, htrace, -, hsent, hreceived⟩ := h.trace
  refine ⟨by rw [htrace, Trace.sent_append, hsent, List.append_nil], ?_, ?_⟩
  · rw [htrace, Trace.sent_append, List.length_append]
    exact Nat.le_add_right _ _
  · have hbefore := congrArg List.length hintact.stream
    have hafter := congrArg List.length hintact'.stream
    rw [htrace, Trace.received_append, hreceived, List.append_nil, ← htrace] at hafter
    rw [Side.peer_peer, List.length_append] at hbefore hafter
    rw [ByteQueue.length_content] at hbefore
    omega

/-- The injected half-close, with what it required and what it leaves. -/
lemma injectHalfClose_cases (io : SocketIo) (s : Session) :
    ((s.injectHalfClose io).relay.metrics = s.relay.metrics ∧
      (s.injectHalfClose io).relay.resetAfterBytes = s.relay.resetAfterBytes) ∧
      (¬s.Injectable ∧ s.injectHalfClose io = s ∨
        s.Injectable ∧ (s.injectHalfClose io).relay.halfCloseInjected = true ∧
        ∃ ok reports, (s.injectHalfClose io).trace =
            s.trace ++ [.shutdownWrite .client .injected ok] ++ reports ∧
          ∀ e ∈ reports, e.isReport = true) := by
  by_cases hinj : s.Injectable
  · rcases hok : io.shutdownWrite s.trace .client with _ | _
    · rw [hinj.injectHalfClose_of_failed hok]
      exact ⟨⟨rfl, rfl⟩, .inr ⟨hinj, rfl, false, [], by simp, by simp⟩⟩
    · rw [hinj.injectHalfClose_of_ok hok]
      exact ⟨⟨rfl, rfl⟩, .inr ⟨hinj, rfl, true, [.observed (.halfCloseInjected
        (s.relay.metrics.bytesWritten .client)) s.relay.state], by simp, by simp [isReport]⟩⟩
  · have hguard : ¬(decide (s.relay.halfCloseAfterBytes > 0) && !s.relay.halfCloseInjected &&
        s.relay.writeOpen .client &&
        decide (s.relay.metrics.bytesWritten .client ≥ s.relay.halfCloseAfterBytes)) = true := by
      simp only [Bool.and_eq_true, decide_eq_true_eq, Bool.not_eq_true']
      rintro ⟨⟨⟨henabled, hnot⟩, hopen⟩, hreached⟩
      exact hinj ⟨henabled, hnot, hopen, hreached⟩
    have hsame : s.injectHalfClose io = s := if_neg hguard
    rw [hsame]
    exact ⟨⟨rfl, rfl⟩, .inl ⟨hinj, rfl⟩⟩

/-- The check: the half-close first, then the reset, which only reports. -/
lemma checkLifecycleFaults_cases (io : SocketIo) (s : Session) :
    ∃ reports, (s.checkLifecycleFaults io).2 = { s.injectHalfClose io with
          trace := (s.injectHalfClose io).trace ++ reports } ∧
      (∀ e ∈ reports, e.isReport = true) ∧
      ((s.checkLifecycleFaults io).1 = .close .reset .faultReset ∧
          s.relay.resetAfterBytes > 0 ∧
          s.relay.resetAfterBytes ≤
            s.relay.metrics.bytesWritten .client + s.relay.metrics.bytesWritten .upstream ∨
        (s.checkLifecycleFaults io).1 = .proceed ∧
          ¬(s.relay.resetAfterBytes > 0 ∧ s.relay.resetAfterBytes ≤
            s.relay.metrics.bytesWritten .client + s.relay.metrics.bytesWritten .upstream)) := by
  obtain ⟨⟨-, hreset⟩, -⟩ := injectHalfClose_cases io s
  simp only [Session.checkLifecycleFaults, hreset]
  split_ifs with hreached
  · rw [Bool.and_eq_true, decide_eq_true_eq, decide_eq_true_eq] at hreached
    exact ⟨_, rfl, by simp [isReport], .inl ⟨rfl, hreached⟩⟩
  · rw [Bool.and_eq_true, decide_eq_true_eq, decide_eq_true_eq] at hreached
    exact ⟨[], by simp, by simp, .inr ⟨rfl, hreached⟩⟩

/-- The check sends nothing. -/
lemma checkLifecycleFaults_sent (io : SocketIo) (s : Session) (side : Side) :
    (s.checkLifecycleFaults io).2.trace.sent side = s.trace.sent side := by
  obtain ⟨reports, heq, hreports, -⟩ := checkLifecycleFaults_cases io s
  have hquiet : ∀ reports : Trace, (∀ e ∈ reports, e.isReport = true) →
      Trace.sent side reports = [] := by
    intro reports h
    refine List.flatMap_eq_nil_iff.mpr fun e he => ?_
    have hreport := h e he
    rcases e with _ | _ | _ | _ | _ | _ <;> simp_all [isReport, Trace.sentIn]
  rw [heq, Trace.sent_append, hquiet reports hreports, List.append_nil]
  obtain ⟨-, ⟨-, hsame⟩ | ⟨-, -, ok, reports', htrace, hreports'⟩⟩ := injectHalfClose_cases io s
  · rw [hsame]
  · rw [htrace, Trace.sent_append, Trace.sent_append, hquiet reports' hreports']
    simp [Trace.sentIn]

end Notes

/-! ## Budgets -/

/-- What the relay has written in both directions, as `check_lifecycle_faults` adds it up. -/
def Session.totalWritten (s : Session) : UInt64 :=
  s.relay.metrics.bytesWritten .client + s.relay.metrics.bytesWritten .upstream

/-- Whether a call asked for the connection to be closed. -/
def CallResult.closes : CallResult → Bool
  | .pumped (.close _ _) => true
  | _ => false

/-- An injection shuts the client socket down, when what was written to it has reached the budget,
and has overrun it by less than the high-water mark. -/
def InjectedOnBudget (budget : UInt64) (highWater : ℕ) (past : Trace) : TraceEvent → Prop
  | .shutdownWrite side .injected _ =>
      side = .client ∧ budget ≤ UInt64.ofNat (past.sent .client).length ∧
        (UInt64.ofNat (past.sent .client).length).toNat ≤ budget.toNat - 1 + highWater
  | _ => True

/-- What holds of a relay whatever its calls returned. -/
structure Session.Budgeted (config : RelayConfig) (plan : FaultPlan) (s : Session) : Prop where
  follows : s.Follows config plan
  intact : ∀ source, s.Intact source
  lifecycle : s.Lifecycle
  resetAfter : s.relay.resetAfterBytes = plan.resetAfterBytes
  halfCloseAfter : s.relay.halfCloseAfterBytes = plan.halfCloseAfterBytes

/-- No budget has been reached without its fault. -/
structure Session.Unspent (plan : FaultPlan) (s : Session) : Prop where
  reset : plan.resetAfterBytes > 0 → s.totalWritten < plan.resetAfterBytes
  halfClose : plan.halfCloseAfterBytes > 0 →
    plan.halfCloseAfterBytes ≤ s.relay.metrics.bytesWritten .client →
    s.relay.halfCloseInjected = true ∨ s.relay.writeOpen .client = false

section Budgets

variable {io : SocketIo} {config : RelayConfig} {plan : FaultPlan} {now : ℤ} {s s' : Session}

lemma TraceEvent.isInjection_of_isReport {e : TraceEvent} (h : e.isReport = true) :
    e.isInjection = false :=
  (e.kind_of_isPlain (isPlain_of_isReport h) .client).2.2.2

lemma injectedOnBudget_of_not {budget : UInt64} {highWater : ℕ} {past : Trace} {e : TraceEvent}
    (h : e.isInjection = false) : InjectedOnBudget budget highWater past e := by
  rcases e with _ | _ | ⟨_, _ | _, _⟩ | _ | _ | _ <;> simp_all [isInjection, InjectedOnBudget]

lemma injectedOnBudget_of_count {budget : UInt64} {highWater : ℕ} {added : Trace}
    (h : added.count isInjection = 0) :
    ∀ past, ∀ e ∈ added, InjectedOnBudget budget highWater past e := by
  intro past e he
  apply injectedOnBudget_of_not
  simpa using List.countP_eq_zero.mp h e he

/-- The limits of the plan stay in the relay. -/
lemma Move.budgets (hmove : Move io now s s') :
    s'.relay.resetAfterBytes = s.relay.resetAfterBytes ∧
      s'.relay.halfCloseAfterBytes = s.relay.halfCloseAfterBytes := by
  cases hmove with
  | receiveNothing source span hint result => cases result <;> exact ⟨rfl, rfl⟩
  | endOfStream source span hint result => cases result <;> exact ⟨rfl, rfl⟩
  | sendNothing destination budget result => cases result <;> exact ⟨rfl, rfl⟩
  | injectHalfClose injectable =>
      rcases hok : io.shutdownWrite s.trace .client with _ | _
      · rw [injectable.injectHalfClose_of_failed hok]
        exact ⟨rfl, rfl⟩
      · rw [injectable.injectHalfClose_of_ok hok]
        exact ⟨rfl, rfl⟩
  | forward destination forwardable =>
      rcases hok : io.shutdownWrite s.trace destination with _ | _
      · rw [Session.forwardHalfClose_of_failed hok]
        exact ⟨rfl, rfl⟩
      · rw [Session.forwardHalfClose_of_ok hok]
        exact ⟨rfl, rfl⟩
  | receive | refill | send | injectReset | connect => exact ⟨rfl, rfl⟩

lemma Session.Budgeted.move (h : s.Budgeted config plan) (hmove : Move io now s s') :
    s'.Budgeted config plan where
  follows := h.follows.move hmove
  intact source := (h.intact source).move hmove
  lifecycle := h.lifecycle.move h.intact hmove
  resetAfter := hmove.budgets.1.trans h.resetAfter
  halfCloseAfter := hmove.budgets.2.trans h.halfCloseAfter

lemma Session.Budgeted.moves (h : s.Budgeted config plan) (hinv : s.Inv)
    (hmoves : Moves io now s s') : s'.Budgeted config plan :=
  hmoves.preserves hinv h fun _ _ _ h hmove => h.move hmove

/-- The counters are the bytes sent, modulo their width. -/
lemma Session.Budgeted.written (h : s.Budgeted config plan) (side : Side) :
    s.relay.metrics.bytesWritten side = UInt64.ofNat (s.trace.sent side).length := by
  have hwritten := (h.intact side.peer).written
  rwa [Side.peer_peer] at hwritten

lemma Session.Budgeted.totalWritten (h : s.Budgeted config plan) :
    s.totalWritten =
      UInt64.ofNat ((s.trace.sent .client).length + (s.trace.sent .upstream).length) := by
  rw [Session.totalWritten, h.written, h.written, UInt64.ofNat_add]

/-- A queue holds at most the high-water mark. -/
lemma Session.Budgeted.size_le (h : s.Budgeted config plan) (hinv : s.Inv) (source : Side) :
    (s.relay.directionFrom source).queue.size ≤ config.highWaterBytes := by
  rw [← (h.follows source).high]
  exact (hinv source).size_le

lemma Session.Unspent.silent (h : s.Unspent plan) (hb : s.Budgeted config plan)
    (hb' : s'.Budgeted config plan) (hsilent : s.Silent s') : s'.Unspent plan := by
  obtain ⟨added, htrace, -, hsent⟩ := hsilent.trace
  have hsame : ∀ side, s'.trace.sent side = s.trace.sent side := by
    intro side
    rw [htrace, Trace.sent_append, hsent, List.append_nil]
  have hwritten : ∀ side, s'.relay.metrics.bytesWritten side =
      s.relay.metrics.bytesWritten side := by
    intro side
    rw [hb'.written, hb.written, hsame]
  refine ⟨fun hpos => ?_, fun hpos hreached => ?_⟩
  · rw [Session.totalWritten, hwritten, hwritten]
    exact h.reset hpos
  · rcases h.halfClose hpos (hwritten .client ▸ hreached) with hinjected | hclosed
    · exact .inl (hsilent.injected.trans hinjected)
    · exact .inr (hsilent.closed .client hclosed)

/-- What the loop of a flush can add to each stream. -/
lemma Session.Drains.sent_bounds {destination : Side} (h : s.Drains destination s')
    (hb : s.Budgeted config plan) (hb' : s'.Budgeted config plan) (hinv : s.Inv) :
    (∀ side, (s'.trace.sent side).length ≤ (s.trace.sent side).length + config.highWaterBytes) ∧
      (∀ side, (s.trace.sent side).length ≤ (s'.trace.sent side).length) ∧
      (s'.trace.sent .client).length + (s'.trace.sent .upstream).length ≤
        (s.trace.sent .client).length + (s.trace.sent .upstream).length +
          config.highWaterBytes := by
  obtain ⟨hother, hgrow, hle⟩ := h.sent_le (hb.intact _) (hb'.intact _)
  have hsize := hb.size_le hinv destination.peer
  have hother' := congrArg List.length hother
  cases destination with
  | client =>
      simp only [Side.peer] at hother' hsize hle
      refine ⟨?_, ?_, by omega⟩ <;> intro side <;> cases side <;> omega
  | upstream =>
      simp only [Side.peer] at hother' hsize hle
      refine ⟨?_, ?_, by omega⟩ <;> intro side <;> cases side <;> omega

/-- A counter that was below its limit overruns it by less than what was added. -/
lemma UInt64.overrun_le {before after high : ℕ} {limit : UInt64}
    (hbelow : UInt64.ofNat before < limit) (hgrow : before ≤ after)
    (hle : after ≤ before + high) :
    (UInt64.ofNat after).toNat ≤ limit.toNat - 1 + high := by
  rw [UInt64.lt_iff_toNat_lt, UInt64.toNat_ofNat'] at hbelow
  rw [UInt64.toNat_ofNat']
  omega

/-- The half-close of a check: it is injected exactly when its budget has been reached by the
flush before it. -/
lemma Session.Unspent.injection (io : SocketIo) (hu : s.Unspent plan) (hb : s.Budgeted config plan)
    {mid : Session} (hbmid : mid.Budgeted config plan) (hinv : s.Inv) {destination : Side}
    (hdrains : s.Drains destination mid)
    (hguard : History.Guarded
      (InjectedOnBudget plan.halfCloseAfterBytes config.highWaterBytes) mid.trace) :
    History.Guarded (InjectedOnBudget plan.halfCloseAfterBytes config.highWaterBytes)
        (mid.injectHalfClose io).trace ∧
      (plan.halfCloseAfterBytes > 0 →
        plan.halfCloseAfterBytes ≤ mid.relay.metrics.bytesWritten .client →
        (mid.injectHalfClose io).relay.halfCloseInjected = true ∨
          (mid.injectHalfClose io).relay.writeOpen .client = false) := by
  obtain ⟨-, ⟨hnot, hsame⟩ | ⟨hinj, hinjected, ok, reports, htrace, hreports⟩⟩ :=
    injectHalfClose_cases io mid
  · rw [hsame]
    refine ⟨hguard, fun hpos hreached => ?_⟩
    by_contra hopen
    rw [not_or, Bool.not_eq_true, Bool.not_eq_false] at hopen
    exact hnot ⟨hbmid.halfCloseAfter ▸ hpos, hopen.1, hopen.2, hbmid.halfCloseAfter ▸ hreached⟩
  · refine ⟨?_, fun _ _ => .inl hinjected⟩
    have hpos : plan.halfCloseAfterBytes > 0 := hbmid.halfCloseAfter ▸ hinj.enabled
    have hreached := hinj.reached
    rw [hbmid.halfCloseAfter, hbmid.written] at hreached
    have hbelow : s.relay.metrics.bytesWritten .client < plan.halfCloseAfterBytes := by
      by_contra hover
      rcases hu.halfClose hpos (UInt64.not_lt.mp hover) with hdone | hclosed
      · rw [← hdrains.injected, hinj.notYet] at hdone
        cases hdone
      · rw [← hdrains.writeOpen, hinj.writeOpen] at hclosed
        cases hclosed
    rw [hb.written] at hbelow
    obtain ⟨hle, hgrow, -⟩ := hdrains.sent_bounds hb hbmid hinv
    have hoverrun := UInt64.overrun_le hbelow (hgrow .client) (hle .client)
    have hsnoc : History.Guarded
        (InjectedOnBudget plan.halfCloseAfterBytes config.highWaterBytes)
        (mid.trace ++ [.shutdownWrite .client .injected ok]) :=
      History.guarded_snoc_iff.mpr ⟨hguard, ⟨rfl, hreached, hoverrun⟩⟩
    rw [htrace]
    exact hsnoc.append_of_forall
      fun past e he => injectedOnBudget_of_not (isInjection_of_isReport (hreports e he))

/-- What a flush from `s` leaves.  It injects a half-close only on budget.  If it lets the
connection go on, no budget is left reached; if it asks for the reset, the total has reached its
budget and overrun it by less than the high-water mark; and unless it failed on the socket, the
half-close budget is not left reached. -/
structure Session.OnBudget (config : RelayConfig) (plan : FaultPlan) (s : Session)
    (result : PumpResult) (s' : Session) : Prop where
  injections : History.Guarded
    (InjectedOnBudget plan.halfCloseAfterBytes config.highWaterBytes) s'.trace
  proceeds : result = .proceed → s'.Unspent plan
  resets : result = .close .reset .faultReset → plan.resetAfterBytes > 0 ∧
    plan.resetAfterBytes ≤ s'.totalWritten ∧
    s'.totalWritten.toNat ≤ plan.resetAfterBytes.toNat - 1 + config.highWaterBytes
  halfClose : (∀ error, result ≠ closeForError error .write) → plan.halfCloseAfterBytes > 0 →
    plan.halfCloseAfterBytes ≤ s'.relay.metrics.bytesWritten .client →
    s'.relay.halfCloseInjected = true ∨ s'.relay.writeOpen .client = false
  total : (s'.trace.sent .client).length + (s'.trace.sent .upstream).length ≤
    (s.trace.sent .client).length + (s.trace.sent .upstream).length + config.highWaterBytes

/-- A loop left by a break is followed by the check. -/
lemma Session.Unspent.check (hu : s.Unspent plan) (hb : s.Budgeted config plan)
    {mid : Session} (hbmid : mid.Budgeted config plan) (hinv : s.Inv) {destination : Side}
    (hdrains : s.Drains destination mid)
    (hguard : History.Guarded
      (InjectedOnBudget plan.halfCloseAfterBytes config.highWaterBytes) mid.trace) :
    s.OnBudget config plan (mid.checkLifecycleFaults io).1 (mid.checkLifecycleFaults io).2 := by
  obtain ⟨hinjections, hhalf⟩ := hu.injection io hb hbmid hinv hdrains hguard
  obtain ⟨-, hgrow, htotal⟩ := hdrains.sent_bounds hb hbmid hinv
  obtain ⟨⟨hmetrics, -⟩, -⟩ := injectHalfClose_cases io mid
  obtain ⟨reports, heq, hreports, hresult⟩ := checkLifecycleFaults_cases io mid
  rw [hbmid.resetAfter] at hresult
  have hwritten : (mid.checkLifecycleFaults io).2.relay.metrics = mid.relay.metrics := by
    rw [heq, hmetrics]
  have htotalWritten : (mid.checkLifecycleFaults io).2.totalWritten = mid.totalWritten := by
    rw [Session.totalWritten, hwritten, Session.totalWritten]
  have hhalf' : plan.halfCloseAfterBytes > 0 → plan.halfCloseAfterBytes ≤
      (mid.checkLifecycleFaults io).2.relay.metrics.bytesWritten .client →
      (mid.checkLifecycleFaults io).2.relay.halfCloseInjected = true ∨
        (mid.checkLifecycleFaults io).2.relay.writeOpen .client = false := by
    intro hpos hreached
    rw [hwritten] at hreached
    rw [heq]
    exact hhalf hpos hreached
  refine ⟨?_, fun hproceed => ⟨fun hpos => ?_, hhalf'⟩, fun hreset => ?_, fun _ => hhalf', ?_⟩
  · rw [heq]
    exact hinjections.append_of_forall
      fun past e he => injectedOnBudget_of_not (isInjection_of_isReport (hreports e he))
  · rcases hresult with ⟨hclose, -⟩ | ⟨-, hnot⟩
    · rw [hclose] at hproceed
      cases hproceed
    · rw [htotalWritten]
      by_contra hover
      exact hnot ⟨hpos, UInt64.not_lt.mp hover⟩
  · rcases hresult with ⟨-, hpos, hreached⟩ | ⟨hproceed, -⟩
    · refine ⟨hpos, htotalWritten ▸ hreached, ?_⟩
      have hbelow := hu.reset hpos
      rw [hb.totalWritten] at hbelow
      rw [htotalWritten, hbmid.totalWritten]
      exact UInt64.overrun_le hbelow (Nat.add_le_add (hgrow _) (hgrow _)) htotal
    · rw [hproceed] at hreset
      cases hreset
  · rw [checkLifecycleFaults_sent, checkLifecycleFaults_sent]
    exact htotal

/-- **A flush stays on budget.** -/
lemma flush_onBudget (hinv : s.Inv) (hb : s.Budgeted config plan) (hu : s.Unspent plan)
    (hguard : History.Guarded
      (InjectedOnBudget plan.halfCloseAfterBytes config.highWaterBytes) s.trace)
    {destination : Side} {result : PumpResult}
    (h : s.flush io destination now = .ok (result, s')) : s.OnBudget config plan result s' := by
  rw [Session.flush] at h
  split at h
  · -- the early return: nothing happened
    obtain ⟨rfl, rfl⟩ := Prod.mk.inj (Except.ok.inj h)
    exact ⟨hguard, fun _ => hu, by simp, fun _ => hu.halfClose, Nat.le_add_right _ _⟩
  next hopen =>
  have hwrite : s.relay.writeOpen destination = true ∧
      (destination = .upstream → s.relay.upstreamConnecting = false) := by
    simpa using hopen
  obtain ⟨r, mid, added, hrun, hmoves, -⟩ :=
    flushLoop_spec io now hinv destination hwrite.1 hwrite.2 (Nat.lt_succ_self _)
  have hdrains := flushLoop_drains hrun
  have hbmid := hb.moves hinv hmoves
  have hguardmid : History.Guarded
      (InjectedOnBudget plan.halfCloseAfterBytes config.highWaterBytes) mid.trace := by
    obtain ⟨added, htrace, hnone, -⟩ := hdrains.trace
    rw [htrace]
    exact hguard.append_of_forall (injectedOnBudget_of_count hnone)
  rw [hrun] at h
  rcases r with _ | r
  · have hpair := Except.ok.inj h
    obtain rfl := congrArg Prod.fst hpair
    obtain rfl := congrArg Prod.snd hpair
    exact hu.check hb hbmid hinv hdrains hguardmid
  · -- a socket error: the check is skipped
    obtain ⟨rfl, rfl⟩ := Prod.mk.inj (Except.ok.inj h)
    obtain ⟨last, -, hbody⟩ := Loop.run_exit (fun _ => True) (fun _ _ _ _ => trivial) _ s
      trivial hrun
    obtain ⟨error, hr⟩ := flushBody_exit hbody r rfl
    refine ⟨hguardmid, ?_, ?_, fun hnone => absurd hr (hnone error),
      (hdrains.sent_bounds hb hbmid hinv).2.2⟩
    · rw [hr]
      simp [closeForError]
    · rw [hr]
      simp [closeForError]

/-! ## Calls and runs -/

/-- Every call but a flush is silent. -/
lemma Call.exec_silent {call : Call} {result : CallResult}
    (hexec : call.exec io s = .ok (result, s')) (hnot : ∀ destination now,
      call ≠ .flush destination now) : s.Silent s' := by
  cases call with
  | handleReadable source hangupHint time =>
      rcases h : s.handleReadable io source hangupHint time with fault | pair
      · simp only [Call.exec, h, Except.map] at hexec
        cases hexec
      · simp only [Call.exec, h, Except.map] at hexec
        cases hexec
        exact handleReadable_silent h
  | flush destination time => exact absurd rfl (hnot destination time)
  | propagateHalfCloses =>
      cases hexec
      exact propagateHalfCloses_silent
  | markUpstreamConnected =>
      cases hexec
      exact ⟨rfl, fun _ h => h, [], by simp, rfl, fun _ => rfl⟩
  | desiredInterest side time =>
      cases hexec
      exact (desiredInterest_refills ..).silent
  | nextWake destination time =>
      cases hexec
      exact (nextWake_refills ..).silent

/-- What holds of a relay as long as no call has asked for the connection to be closed. -/
structure Session.OnCourse (config : RelayConfig) (plan : FaultPlan) (s : Session) : Prop where
  inv : s.Inv
  budgeted : s.Budgeted config plan
  unspent : s.Unspent plan
  injections : History.Guarded
    (InjectedOnBudget plan.halfCloseAfterBytes config.highWaterBytes) s.trace
  total_lt : plan.resetAfterBytes > 0 →
    plan.resetAfterBytes.toNat - 1 + config.highWaterBytes < 2 ^ 64 →
    (s.trace.sent .client).length + (s.trace.sent .upstream).length < plan.resetAfterBytes.toNat

/-- What any call leaves of it, whatever it returns. -/
structure Session.Kept (config : RelayConfig) (plan : FaultPlan) (s : Session) : Prop where
  budgeted : s.Budgeted config plan
  injections : History.Guarded
    (InjectedOnBudget plan.halfCloseAfterBytes config.highWaterBytes) s.trace
  exact_total : plan.resetAfterBytes > 0 →
    plan.resetAfterBytes.toNat - 1 + config.highWaterBytes < 2 ^ 64 →
    s.totalWritten.toNat = (s.trace.sent .client).length + (s.trace.sent .upstream).length

lemma Session.Budgeted.exact_total (hb : s.Budgeted config plan)
    (hfit : (s.trace.sent .client).length + (s.trace.sent .upstream).length < 2 ^ 64) :
    s.totalWritten.toNat = (s.trace.sent .client).length + (s.trace.sent .upstream).length := by
  rw [hb.totalWritten, UInt64.toNat_ofNat', Nat.mod_eq_of_lt hfit]

/-- A call other than a flush. -/
lemma Session.OnCourse.silent (h : s.OnCourse config plan) (hinv' : s'.Inv)
    (hb' : s'.Budgeted config plan) (hsilent : s.Silent s') :
    s'.OnCourse config plan ∧ s'.Kept config plan := by
  obtain ⟨added, htrace, hnone, hsent⟩ := hsilent.trace
  have hsame : ∀ side, s'.trace.sent side = s.trace.sent side := by
    intro side
    rw [htrace, Trace.sent_append, hsent, List.append_nil]
  have hguard : History.Guarded
      (InjectedOnBudget plan.halfCloseAfterBytes config.highWaterBytes) s'.trace := by
    rw [htrace]
    exact h.injections.append_of_forall (injectedOnBudget_of_count hnone)
  have htotal : plan.resetAfterBytes > 0 →
      plan.resetAfterBytes.toNat - 1 + config.highWaterBytes < 2 ^ 64 →
      (s'.trace.sent .client).length + (s'.trace.sent .upstream).length <
        plan.resetAfterBytes.toNat := by
    rw [hsame, hsame]
    exact h.total_lt
  refine ⟨⟨hinv', hb', h.unspent.silent h.budgeted hb' hsilent, hguard, htotal⟩, hb', hguard,
    fun hpos hfit => hb'.exact_total ?_⟩
  exact (htotal hpos hfit).trans plan.resetAfterBytes.toNat_lt

/-- A flush. -/
lemma Session.OnCourse.flushed (h : s.OnCourse config plan) (hinv' : s'.Inv)
    (hb' : s'.Budgeted config plan) {result : PumpResult}
    (hflush : s.OnBudget config plan result s') :
    (result = .proceed → s'.OnCourse config plan) ∧ s'.Kept config plan := by
  have hexact : plan.resetAfterBytes > 0 →
      plan.resetAfterBytes.toNat - 1 + config.highWaterBytes < 2 ^ 64 →
      s'.totalWritten.toNat =
        (s'.trace.sent .client).length + (s'.trace.sent .upstream).length := by
    intro hpos hfit
    have hbefore := h.total_lt hpos hfit
    have hadded := hflush.total
    exact hb'.exact_total (by omega)
  refine ⟨fun hproceed => ⟨hinv', hb', hflush.proceeds hproceed, hflush.injections,
    fun hpos hfit => ?_⟩, hb', hflush.injections, hexact⟩
  rw [← hexact hpos hfit]
  exact UInt64.lt_iff_toNat_lt.mp ((hflush.proceeds hproceed).reset hpos)

/-- **One call.**  If it does not ask for the connection to be closed, the relay stays on course;
if it is a flush, it is on budget. -/
lemma Session.OnCourse.exec (h : s.OnCourse config plan) {call : Call} {result : CallResult}
    (hexec : call.exec io s = .ok (result, s')) :
    (result.closes = false → s'.OnCourse config plan) ∧ s'.Kept config plan ∧
      (∀ destination now, call = .flush destination now →
        ∃ pumped, result = .pumped pumped ∧ s.OnBudget config plan pumped s') := by
  obtain ⟨result', s₁, hexec', hmoves⟩ := Call.exec_spec io (call.time?.getD 0) h.inv call
    (by intro time ht; simp [ht])
  obtain ⟨rfl, rfl⟩ : result' = result ∧ s₁ = s' := by simpa [hexec] using hexec'.symm
  have hinv' := hmoves.inv h.inv
  have hb' := h.budgeted.moves h.inv hmoves
  by_cases hflush : ∃ destination time, call = .flush destination time
  · obtain ⟨destination, time, rfl⟩ := hflush
    rcases hf : s.flush io destination time with fault | ⟨pumped, s₂⟩
    · simp only [Call.exec, hf, Except.map] at hexec
      cases hexec
    · simp only [Call.exec, hf, Except.map] at hexec
      cases hexec
      have honBudget := flush_onBudget h.inv h.budgeted h.unspent h.injections hf
      obtain ⟨hproceeds, hkept⟩ := h.flushed hinv' hb' honBudget
      refine ⟨fun hopen => hproceeds ?_, hkept, fun _ _ _ => ⟨pumped, rfl, honBudget⟩⟩
      cases pumped with
      | proceed => rfl
      | close finalState reason => cases hopen
  · have hnot : ∀ destination now, call ≠ .flush destination now := fun destination time heq =>
      hflush ⟨destination, time, heq⟩
    obtain ⟨hcourse, hkept⟩ := h.silent hinv' hb' (Call.exec_silent hexec hnot)
    exact ⟨fun _ => hcourse, hkept, fun destination time heq => absurd heq (hnot _ _)⟩

/-- The induction is on the calls, none of which asked for the connection to be closed. -/
lemma Session.OnCourse.execAll {calls : List Call} {results : List CallResult}
    (h : s.OnCourse config plan) (hall : execAll io calls s = .ok (results, s'))
    (hopen : ∀ r ∈ results, r.closes = false) : s'.OnCourse config plan := by
  induction calls generalizing s results with
  | nil =>
      cases hall
      exact h
  | cons call calls ih =>
      rcases hexec : call.exec io s with fault | ⟨result, s₁⟩
      · simp only [NetFault.execAll, hexec] at hall
        cases hall
      · rcases hrest : NetFault.execAll io calls s₁ with fault | ⟨results', s₂⟩
        · simp only [NetFault.execAll, hexec, hrest, Except.map] at hall
          cases hall
        · simp only [NetFault.execAll, hexec, hrest, Except.map] at hall
          cases hall
          exact ih ((h.exec hexec).1 (hopen result (List.mem_cons_self ..))) hrest
            fun r hr => hopen r (List.mem_cons_of_mem _ hr)

end Budgets

end NetFault
