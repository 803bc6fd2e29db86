import NetFault.Relay.Channels
import NetFault.Relay.Draining

/-!
# Reading from upstream after an injected half-close

Once the client socket is shut down, `flush` returns before it consumes anything, and only
consumption lifts a pause.  So the queue towards the client only grows, and when it reaches the
high-water mark the upstream socket is never read from again: not its further bytes, and not its
end of stream.  This module says exactly when that happens; where it does not, the connection can be
drained (`Session.Cut.canDrain`).
-/

namespace NetFault

section Undrained

variable {io : SocketIo} {now : ℤ} {s₁ s s' : Session} {later : Trace}

/-- A read side is closed only by a receive that it was open for. -/
lemma Move.readOpen_eq_true (hmove : Move io now s s') {side : Side}
    (h : s.relay.readOpen side = true) (hpaused : ∀ span, ¬s.Readable side span) :
    s'.relay.readOpen side = true := by
  cases hmove with
  | receive source span hint bytes d' notes readable answer ingest => exact h
  | receiveNothing source span hint result readable answer nothing =>
      rw [(Session.afterReceive_flags ..).1]
      exact h
  | endOfStream source span hint result readable answer ended =>
      have hne : side ≠ source := by
        rintro rfl
        exact hpaused span readable
      exact (Function.update_of_ne hne ..).trans
        ((congrFun (Session.afterReceive_flags ..).1 side).trans h)
  | refill source => exact h
  | send destination budget count d' notes writable answer egress => exact h
  | sendNothing destination budget result writable answer nothing => cases result <;> exact h
  | injectHalfClose injectable =>
      rcases hok : io.shutdownWrite s.trace .client with _ | _
      · rw [injectable.injectHalfClose_of_failed hok]
        exact h
      · rw [injectable.injectHalfClose_of_ok hok]
        exact h
  | injectReset total => exact h
  | forward destination forwardable =>
      rcases hok : io.shutdownWrite s.trace destination with _ | _
      · rw [Session.forwardHalfClose_of_failed hok]
        exact h
      · rw [Session.forwardHalfClose_of_ok hok]
        exact h
  | connect => exact h

/-- What became of the direction towards the client since `s₁`, in which that socket was already
shut down: it was filled with what `later` received, and its reads pause at the high-water mark
for good. -/
structure Session.Undrained (s₁ : Session) (later : Trace) (s : Session) : Prop where
  closed : s.relay.writeOpen .client = false
  trace : s.trace = s₁.trace ++ later
  size : (s.relay.directionFrom .upstream).queue.size =
    (s₁.relay.directionFrom .upstream).queue.size + (later.received .upstream).length
  high : (s.relay.directionFrom .upstream).backpressure.highWaterBytes =
    (s₁.relay.directionFrom .upstream).backpressure.highWaterBytes
  paused : (s.relay.directionFrom .upstream).backpressure.readPaused = true ↔
    (s₁.relay.directionFrom .upstream).backpressure.readPaused = true ∨
      (s.relay.directionFrom .upstream).backpressure.highWaterBytes ≤
        (s.relay.directionFrom .upstream).queue.size

lemma Session.Undrained.refl (hinv : s₁.Inv) (hclosed : s₁.relay.writeOpen .client = false) :
    s₁.Undrained [] s₁ := by
  refine ⟨hclosed, by simp, by simp, rfl, ⟨.inl, ?_⟩⟩
  rintro (hp | hfull)
  · exact hp
  · by_contra hrun
    have := (hinv .upstream).running (by simpa using hrun)
    omega

/-- A step that does not touch the direction. -/
lemma Session.Undrained.of_same (h : s₁.Undrained later s) {added : Trace}
    (hclosed : s'.relay.writeOpen .client = false) (htrace : s'.trace = s.trace ++ added)
    (hrecv : Trace.received .upstream added = [])
    (hqueue : (s'.relay.directionFrom .upstream).queue = (s.relay.directionFrom .upstream).queue)
    (hback : (s'.relay.directionFrom .upstream).backpressure =
      (s.relay.directionFrom .upstream).backpressure) :
    ∃ later', s₁.Undrained later' s' := by
  refine ⟨later ++ added, hclosed, by rw [htrace, h.trace, List.append_assoc], ?_, ?_, ?_⟩
  · rw [hqueue, h.size, Trace.received_append, hrecv, List.append_nil]
  · rw [hback, h.high]
  · rw [hback, hqueue, h.paused]

/-- Every move keeps the direction undrained. -/
lemma Session.Undrained.move (h : s₁.Undrained later s)
    (hmove : Move io now s s') : ∃ later', s₁.Undrained later' s' := by
  have hclosed := hmove.writeOpen_eq_false h.closed
  rcases hmove.transfer_or_quiet with ⟨side, span, hint, bytes, d', notes, hread, -, hingest, rfl⟩ |
    ⟨destination, budget, count, d', notes, hwritable, -, hegress, rfl⟩ |
    ⟨destination, budget, result, -, -, rfl⟩ | hquiet
  · rcases side with _ | _
    · refine h.of_same hclosed rfl ?_ ?_ ?_
      · simp [Trace.receivedIn, Trace.received_notes .upstream hingest.isNote]
      · rw [Session.ingested_directionFrom_of_ne _ _ _ _ _ _ _ (by decide)]
      · rw [Session.ingested_directionFrom_of_ne _ _ _ _ _ _ _ (by decide)]
    · -- a receive from upstream: it was not paused, so the mark decides
      have hdir := s.ingested_directionFrom_self .upstream span hint bytes now d' notes
      obtain ⟨hpaused, -, hhigh⟩ := hingest.tracker
      have hbefore := h.paused
      rw [hread.running] at hbefore
      refine ⟨later ++ .receive .upstream span hint (.transferred bytes) now :: notes, hclosed,
        ?_, ?_, ?_, ?_⟩
      · simp [Session.ingested, h.trace]
      · rw [hdir, hingest.size, h.size]
        simp [Trace.receivedIn, Trace.received_notes .upstream hingest.isNote, Nat.add_assoc]
      · rw [hdir, hhigh, h.high]
      · rw [hdir, hpaused, hhigh]
        simp only [BackpressureTracker.pausedAfter, hread.running, Bool.false_eq_true, if_false,
          decide_eq_true_eq]
        simp only [Bool.false_eq_true, false_iff, not_or] at hbefore
        tauto
  · rcases destination with _ | _
    · exact absurd hwritable.writeOpen (by simp [h.closed])
    · refine h.of_same hclosed rfl ?_ ?_ ?_
      · simp [Trace.receivedIn, Trace.received_notes .upstream hegress.observed.isNote]
      · rw [Session.egressed_directionFrom_of_ne _ _ _ _ _ _ (by decide)]
      · rw [Session.egressed_directionFrom_of_ne _ _ _ _ _ _ (by decide)]
  · exact h.of_same hclosed (Session.afterSend_trace ..) rfl
      (by rw [Session.afterSend_directionFrom]) (by rw [Session.afterSend_directionFrom])
  · obtain ⟨added, htrace, hadded⟩ := hquiet.trace
    exact h.of_same hclosed htrace (Trace.received_quiet _ hadded) (hquiet.queue _)
      (hquiet.backpressure _)

/-- Reads from upstream are paused and nothing can lift the pause. -/
structure Session.Stalled (s : Session) : Prop where
  closed : s.relay.writeOpen .client = false
  readOpen : s.relay.readOpen .upstream = true
  paused : (s.relay.directionFrom .upstream).backpressure.readPaused = true

lemma Session.Stalled.fullyDrained (h : s.Stalled) : s.relay.fullyDrained = false := by
  simp [Relay.fullyDrained, h.readOpen]

/-- A stalled relay stays stalled, whatever is called and whatever the sockets answer. -/
lemma Session.Stalled.move (h : s.Stalled) (hmove : Move io now s s') : s'.Stalled := by
  have hnot : ∀ span, ¬s.Readable .upstream span := fun span hread =>
    absurd hread.running (by simp [h.paused])
  refine ⟨hmove.writeOpen_eq_false h.closed, hmove.readOpen_eq_true h.readOpen hnot, ?_⟩
  rcases hmove.transfer_or_quiet with ⟨side, span, hint, bytes, d', notes, hread, -, -, rfl⟩ |
    ⟨destination, budget, count, d', notes, hwritable, -, -, rfl⟩ |
    ⟨destination, budget, result, -, -, rfl⟩ | hquiet
  · rcases side with _ | _
    · rw [Session.ingested_directionFrom_of_ne _ _ _ _ _ _ _ (by decide)]
      exact h.paused
    · exact absurd hread (hnot span)
  · rcases destination with _ | _
    · exact absurd hwritable.writeOpen (by simp [h.closed])
    · rw [Session.egressed_directionFrom_of_ne _ _ _ _ _ _ (by decide)]
      exact h.paused
  · rw [Session.afterSend_directionFrom]
    exact h.paused
  · rw [hquiet.backpressure]
    exact h.paused

end Undrained

/-- **When upstream is still read after an injected half-close.**  Let `s₁` be a state of a run in
which the client socket is shut down, and `s₂` a later one in which upstream is connected and has
not ended, so that the shutdown was the injected one.  Interest in reading from upstream holds in
`s₂` exactly when reads were not paused in `s₁` and what was queued then, with what upstream sent
since, stays below the high-water mark.  Where it holds, the connection can be drained from any
time on, under a permitted rate by calls that follow the relay's wakes from a time at which no
call was made later.  Where it fails, no continuation drains the connection. -/
theorem upstream_read_after_half_close_iff (io : SocketIo) (config : RelayConfig)
    (hconfig : config.Valid) (plan : FaultPlan) (connectionId : UInt64) (upstreamConnecting : Bool)
    (start : ℤ) (calls : List Call) (results : List CallResult) (s₁ : Session)
    (hrun : runRelay io config plan connectionId upstreamConnecting start calls =
      .ok (results, s₁))
    (hclosed : s₁.relay.writeOpen .client = false) (calls' : List Call) :
    ∃ results' s₂ later, execAll io calls' s₁ = .ok (results', s₂) ∧
      s₂.trace = s₁.trace ++ later ∧
      (s₂.relay.readOpen .upstream = true → s₂.relay.upstreamConnecting = false →
        s₂.relay.halfCloseInjected = true ∧ ∀ now,
        ((s₂.relay.desiredInterest .upstream now).1.read = true ↔
          (s₁.relay.directionFrom .upstream).backpressure.readPaused = false ∧
          (s₁.relay.directionFrom .upstream).queue.size + (Trace.received .upstream later).length <
            config.highWaterBytes) ∧
        ((s₂.relay.desiredInterest .upstream now).1.read = true →
          s₂.CanDrain io now (plan.rateBytesPerSecond ≤ 1000000000 ∧ start ≤ now ∧
            ∀ t ∈ (calls ++ calls').filterMap Call.time?, t ≤ now)) ∧
        ((s₂.relay.desiredInterest .upstream now).1.read = false → ∀ calls'', ∃ results'' s₃,
          execAll io calls'' s₂ = .ok (results'', s₃) ∧ s₃.relay.fullyDrained = false)) := by
  obtain ⟨results₀, s₀, hrun₀, hinv, hfollows, hintact, hlife⟩ := runRelay_spec io hconfig plan
    connectionId upstreamConnecting start
    (P := fun s => s.Follows config plan ∧ (∀ source, s.Intact source) ∧ s.Lifecycle)
    (fun r hr => ⟨hr.follows, hr.intact, hr.lifecycle⟩)
    (fun now m m' hinv h hmove => ⟨h.1.move hmove, fun source => (h.2.1 source).move hmove,
      h.2.2.move h.2.1 hmove⟩) calls
  obtain ⟨-, rfl⟩ : results₀ = results ∧ s₀ = s₁ := by simpa [hrun] using hrun₀.symm
  obtain ⟨results', s₂, hexec, hinv₂, ⟨hfollows₂, hintact₂, hlife₂⟩, later, hundrained⟩ :=
    execAll_spec io
      (P := fun s => (s.Follows config plan ∧ (∀ source, s.Intact source) ∧ s.Lifecycle) ∧
        ∃ later, s₀.Undrained later s)
      (fun now m m' hinv h hmove => ⟨⟨h.1.1.move hmove, fun source => (h.1.2.1 source).move hmove,
        h.1.2.2.move h.1.2.1 hmove⟩, h.2.elim fun later hlater => hlater.move hmove⟩) calls' s₀ hinv
      ⟨⟨hfollows, hintact, hlife⟩, [], .refl hinv hclosed⟩
  refine ⟨results', s₂, later, hexec, hundrained.trace, fun hread hconn =>
    ⟨?_, fun now => ⟨?_, ?_, ?_⟩⟩⟩
  · rcases hlife₂.closed .client hundrained.closed with ⟨hended, -⟩ | ⟨-, hinjected⟩
    · simp [Side.peer, hread] at hended
    · exact hinjected
  · rw [desiredInterest_eq (fun _ => hconn), hread, ← hundrained.size,
      ← (hfollows .upstream).high, ← hundrained.high]
    have hpaused := hundrained.paused
    simp only [Bool.true_and, Bool.not_eq_true']
    rw [← Bool.not_eq_true, hpaused, not_or, Bool.not_eq_true, not_le]
  · intro hinterest
    rw [desiredInterest_eq (fun _ => hconn), hread] at hinterest
    have hcut : s₂.Cut s₂.trace config plan :=
      ⟨hinv₂, List.prefix_rfl, hfollows₂, hintact₂, hlife₂, hconn, hundrained.closed⟩
    apply (hcut.canDrain io now (by simpa using hinterest)).imp
    rintro ⟨hrate, hstart, hcalls⟩
    refine ⟨hrate, ?_⟩
    rw [List.filterMap_append] at hcalls
    exact refilledUntil_of_execAll hinv (refilledUntil_of_runRelay hconfig hstart
      (fun t ht => hcalls t (List.mem_append_left _ ht)) hrun)
      (fun t ht => hcalls t (List.mem_append_right _ ht)) hexec
  · intro hnot calls''
    rw [desiredInterest_eq (fun _ => hconn), hread] at hnot
    have hstalled : s₂.Stalled := ⟨hundrained.closed, hread, by simpa using hnot⟩
    obtain ⟨results'', s₃, hexec', -, hstalled'⟩ := execAll_spec io
      (P := Session.Stalled) (fun now m m' _ h hmove => h.move hmove) calls'' s₂ hinv₂ hstalled
    exact ⟨results'', s₃, hexec', hstalled'.fullyDrained⟩

/-- Two bytes from upstream, a high-water mark of one and a half-close after the first byte: the
second byte pauses the reads for good. -/
theorem half_close_stalls_upstream_reads :
    ∃ results s, runRelay (.script fun _ => [1, 2])
        { bufferBytesPerDirection := 1024, lowWaterBytes := 0, highWaterBytes := 1 }
        { halfCloseAfterBytes := 1 } 1 false 0
        [.handleReadable .upstream false 1, .flush .client 2, .handleReadable .upstream false 3] =
        .ok (results, s) ∧
      s.relay.halfCloseInjected = true ∧ s.relay.writeOpen .client = false ∧
      s.relay.readOpen .upstream = true ∧ s.relay.upstreamConnecting = false ∧
      (s.relay.desiredInterest .upstream 4).1.read = false := by
  have hcheck : returns (runRelay (.script fun _ => [1, 2])
      { bufferBytesPerDirection := 1024, lowWaterBytes := 0, highWaterBytes := 1 }
      { halfCloseAfterBytes := 1 } 1 false 0
      [.handleReadable .upstream false 1, .flush .client 2, .handleReadable .upstream false 3])
      (fun state => state.2.relay.halfCloseInjected && !state.2.relay.writeOpen .client &&
        state.2.relay.readOpen .upstream && !state.2.relay.upstreamConnecting &&
        !(state.2.relay.desiredInterest .upstream 4).1.read) = true := by
    decide +kernel
  obtain ⟨⟨results, s⟩, hrun, htest⟩ := exists_of_returns hcheck
  refine ⟨results, s, hrun, ?_⟩
  simpa [and_assoc] using htest

/-- With a high-water mark of two, the third byte of upstream comes after the half-close and stays
below the mark: the connection can be drained from the next moment on, at the relay's wakes. -/
theorem upstream_read_after_half_close_scripted :
    ∃ results s₁ results' s₂, runRelay (.script fun _ => [1, 2, 3])
        { bufferBytesPerDirection := 16, lowWaterBytes := 0, highWaterBytes := 2 }
        { halfCloseAfterBytes := 1 } 1 false 0
        [.handleReadable .upstream false 1, .flush .client 2] = .ok (results, s₁) ∧
      execAll (.script fun _ => [1, 2, 3]) [.handleReadable .upstream false 3] s₁ =
        .ok (results', s₂) ∧
      s₂.relay.halfCloseInjected = true ∧
      s₂.CanDrain (.script fun _ => [1, 2, 3]) 4 True := by
  have hcheck : returns (runRelay (.script fun _ => [1, 2, 3])
      { bufferBytesPerDirection := 16, lowWaterBytes := 0, highWaterBytes := 2 }
      { halfCloseAfterBytes := 1 } 1 false 0 [.handleReadable .upstream false 1, .flush .client 2])
      (fun state => !state.2.relay.writeOpen .client &&
        returns (execAll (.script fun _ => [1, 2, 3]) [.handleReadable .upstream false 3] state.2)
          fun state' => state'.2.relay.readOpen .upstream && !state'.2.relay.upstreamConnecting &&
            (state'.2.relay.desiredInterest .upstream 4).1.read) = true := by
    decide +kernel
  obtain ⟨⟨results, s₁⟩, hrun, htest⟩ := exists_of_returns hcheck
  obtain ⟨hclosed, htest'⟩ : s₁.relay.writeOpen .client = false ∧ _ := by
    simpa using htest
  obtain ⟨results', s₂, later, hexec, -, hread⟩ :=
    upstream_read_after_half_close_iff _ _ (by decide) _ _ _ _ _ _ _ hrun hclosed
      [.handleReadable .upstream false 3]
  have hlast := of_returns htest' hexec
  simp only [Bool.and_eq_true, Bool.not_eq_true'] at hlast
  obtain ⟨hinjected, hmore⟩ := hread hlast.1.1 hlast.1.2
  exact ⟨results, s₁, results', s₂, hrun, hexec, hinjected,
    ((hmore 4).2.1 hlast.2).imp fun _ => by decide⟩

end NetFault
