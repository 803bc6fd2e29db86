import NetFault.Proxy.MetricsFile
import NetFault.Relay.Lifecycle
import NetFault.Relay.Outcomes
import NetFault.Relay.Watermarks

/-!
# The counters of a relay and its history

The numbers that `metrics_json` and `close_detail` report are kept in many places: counters of the
relay, of the two trackers, of the fault channels and of the queues, each updated where something
happens.  `Trace.figures` says what the numbers should be, in terms of the history alone: how many
receives and sends moved bytes and how many would have blocked, how many bytes are still queued, how
often and for how long the reads were paused, how many blocks were delayed and by how much in all.

In every state a run of a relay can reach the two agree, number by number (`reported_of_run`).
-/

namespace NetFault

open TraceEvent

/-! ## The figures of a history -/

namespace TraceEvent

/-- A receive that delivered bytes. -/
def isRead : TraceEvent → Bool
  | .receive _ _ _ (.transferred _) _ => true
  | _ => false

/-- A send that took bytes. -/
def isWrite : TraceEvent → Bool
  | .send _ _ (.transferred _) _ => true
  | _ => false

/-- A send that took some of the bytes it was offered, and not all. -/
def isPartialWrite : TraceEvent → Bool
  | .send _ data (.transferred count) _ => decide (count < data.length)
  | _ => false

/-- A call that would have blocked. -/
def isEagain : TraceEvent → Bool
  | .receive _ _ _ .wouldBlock _ | .send _ _ .wouldBlock _ => true
  | _ => false

end TraceEvent

namespace Trace

/-- The delay that one event gave to a block received from `source`. -/
def delayIn (source : Side) : TraceEvent → Option ℤ
  | .stamped side _ delay _ => if side = source then some delay else none
  | _ => none

/-- The delays given to the blocks received from `source`, in order. -/
def delays (source : Side) (trace : Trace) : List ℤ := trace.filterMap (delayIn source)

/-- The most bytes that the queue of the direction from `source` has held. -/
def peak (source : Side) (trace : Trace) : ℕ :=
  ((trace.observations source).map Prod.fst).foldl max 0

/-- What the history says about the direction from `source`, in the order and under the names of
the report. -/
def directionFigures (config : RelayConfig) (start now : ℤ) (label : String) (source : Side)
    (trace : Trace) : List (String × UInt64) :=
  [(label ++ "_queue_bytes",
      UInt64.ofNat ((trace.received source).length - (trace.sent source.peer).length)),
    (label ++ "_high_water", UInt64.ofNat (trace.peak source)),
    (label ++ "_pause_count", UInt64.ofNat ((trace.transitions source).count .paused)),
    (label ++ "_resume_count", UInt64.ofNat ((trace.transitions source).count .resumed)),
    (label ++ "_saturation_count", UInt64.ofNat (Hysteresis.runs
      (fun seen => seen.1 == config.bufferBytesPerDirection) (trace.observations source))),
    (label ++ "_paused_us", UInt64.ofNat (Hysteresis.latchedTime config.lowWaterBytes
      config.highWaterBytes (trace.observations source) start now / 1000)),
    (label ++ "_delayed_segments", UInt64.ofNat (trace.delays source).length),
    (label ++ "_delay_budget_us", UInt64.ofInt ((i64 (trace.delays source).sum).tdiv 1000))]

/-- What the history says about a connection that was accepted at `start`. -/
def figures (config : RelayConfig) (plan : FaultPlan) (start now : ℤ) (trace : Trace) :
    List (String × UInt64) :=
  [("duration_ms", UInt64.ofInt ((now - start).tdiv 1000000)),
    ("client_bytes_read", UInt64.ofNat (trace.received .client).length),
    ("upstream_bytes_read", UInt64.ofNat (trace.received .upstream).length),
    ("client_bytes_written", UInt64.ofNat (trace.sent .client).length),
    ("upstream_bytes_written", UInt64.ofNat (trace.sent .upstream).length),
    ("read_operations", UInt64.ofNat (trace.count isRead)),
    ("write_operations", UInt64.ofNat (trace.count isWrite)),
    ("partial_writes", UInt64.ofNat (trace.count isPartialWrite)),
    ("eagain_events", UInt64.ofNat (trace.count isEagain)),
    ("faults_applied", if plan.anyEnabled then 1 else 0)] ++
  trace.directionFigures config start now "c2u" .client ++
  trace.directionFigures config start now "u2c" .upstream

end Trace

/-! ## The operation counters -/

/-- The counters of the calls are the counts of the history. -/
structure Session.Tallied (s : Session) : Prop where
  reads : s.relay.metrics.readOperations = UInt64.ofNat (s.trace.count isRead)
  writes : s.relay.metrics.writeOperations = UInt64.ofNat (s.trace.count isWrite)
  partials : s.relay.metrics.partialWrites = UInt64.ofNat (s.trace.count isPartialWrite)
  eagains : s.relay.metrics.eagainEvents = UInt64.ofNat (s.trace.count isEagain)

section Tallied

variable {io : SocketIo} {now : ℤ} {s s' : Session}

/-- What the counters gain is what the added events count for. -/
lemma Session.Tallied.append (h : s.Tallied) {added : Trace} (htrace : s'.trace = s.trace ++ added)
    (hreads : s'.relay.metrics.readOperations =
      s.relay.metrics.readOperations + UInt64.ofNat (added.count isRead))
    (hwrites : s'.relay.metrics.writeOperations =
      s.relay.metrics.writeOperations + UInt64.ofNat (added.count isWrite))
    (hpartials : s'.relay.metrics.partialWrites =
      s.relay.metrics.partialWrites + UInt64.ofNat (added.count isPartialWrite))
    (heagains : s'.relay.metrics.eagainEvents =
      s.relay.metrics.eagainEvents + UInt64.ofNat (added.count isEagain)) : s'.Tallied := by
  constructor
  · rw [hreads, h.reads, htrace, Trace.count_append, UInt64.ofNat_add]
  · rw [hwrites, h.writes, htrace, Trace.count_append, UInt64.ofNat_add]
  · rw [hpartials, h.partials, htrace, Trace.count_append, UInt64.ofNat_add]
  · rw [heagains, h.eagains, htrace, Trace.count_append, UInt64.ofNat_add]

/-- Notes are not counted. -/
lemma count_notes {notes : Trace} (h : ∀ e ∈ notes, e.isNote = true) :
    notes.count isRead = 0 ∧ notes.count isWrite = 0 ∧ notes.count isPartialWrite = 0 ∧
      notes.count isEagain = 0 := by
  refine ⟨Trace.count_eq_zero fun e he => ?_, Trace.count_eq_zero fun e he => ?_,
    Trace.count_eq_zero fun e he => ?_, Trace.count_eq_zero fun e he => ?_⟩
  all_goals
    have hnote := h e he
    cases e with
    | receive => cases hnote
    | send => cases hnote
    | _ => rfl

lemma Session.Tallied.ingested (h : s.Tallied) {source : Side} {span : ℕ} {hint : Bool}
    {bytes : List Byte} {d' : Direction} {notes : Trace} (hnotes : ∀ e ∈ notes, e.isNote = true) :
    (s.ingested source span hint bytes now d' notes).Tallied := by
  obtain ⟨hreads, hwrites, hpartials, heagains⟩ := count_notes hnotes
  have htrace : (s.ingested source span hint bytes now d' notes).trace =
      s.trace ++ .receive source span hint (.transferred bytes) now :: notes := rfl
  apply h.append htrace
  · simp [Session.ingested, RelayMetrics.countRead, isRead, hreads]
  · simp [Session.ingested, RelayMetrics.countRead, isWrite, hwrites]
  · simp [Session.ingested, RelayMetrics.countRead, isPartialWrite, hpartials]
  · simp [Session.ingested, RelayMetrics.countRead, isEagain, heagains]

/-- The budget of a send is the length of what it offers, so a short count is a partial write. -/
lemma Session.Tallied.egressed (h : s.Tallied) {destination : Side} {budget count : ℕ}
    {d' : Direction} {notes : Trace} (hwritable : s.Writable destination budget now)
    (hnotes : ∀ e ∈ notes, e.isNote = true) :
    (s.egressed destination budget count now d' notes).Tallied := by
  obtain ⟨hreads, hwrites, hpartials, heagains⟩ := count_notes hnotes
  have hoffer : (s.offer destination budget).length = budget := by
    rw [Session.offer, List.length_take]
    exact min_eq_left hwritable.budget_le
  have htrace : (s.egressed destination budget count now d' notes).trace = s.trace ++
      .send destination (s.offer destination budget) (.transferred count) now :: notes := rfl
  apply h.append htrace
  · simp [Session.egressed, RelayMetrics.countWrite, isRead, hreads]
  · simp [Session.egressed, RelayMetrics.countWrite, isWrite, hwrites]
  · by_cases hshort : count < budget
    · simp [Session.egressed, RelayMetrics.countWrite, isPartialWrite, hpartials, hoffer, hshort]
    · simp [Session.egressed, RelayMetrics.countWrite, isPartialWrite, hpartials, hoffer, hshort]
  · simp [Session.egressed, RelayMetrics.countWrite, isEagain, heagains]

lemma Session.Tallied.afterReceive (h : s.Tallied) {source : Side} {span : ℕ}
    {hint : Bool} {result : IoResult (List Byte)}
    (hnothing : ∀ bytes, result ≠ .transferred bytes) :
    (s.afterReceive source span hint result now).Tallied := by
  apply h.append (Session.afterReceive_trace s source span hint result now)
  all_goals
    rcases result with bytes | _ | _ | _
    · exact absurd rfl (hnothing bytes)
    all_goals
      simp [Session.afterReceive, Session.record, Session.countEagain, RelayMetrics.countEagain,
        isRead, isWrite, isPartialWrite, isEagain]

lemma Session.Tallied.afterSend (h : s.Tallied) {destination : Side} {data : List Byte}
    {result : IoResult ℕ} (hnothing : ∀ count, result ≠ .transferred count) :
    (s.afterSend destination data result now).Tallied := by
  apply h.append (Session.afterSend_trace s destination data result now)
  all_goals
    rcases result with count | _ | _ | _
    · exact absurd rfl (hnothing count)
    all_goals
      simp [Session.afterSend, Session.record, Session.countEagain, RelayMetrics.countEagain,
        isRead, isWrite, isPartialWrite, isEagain]

/-- Events that are neither a receive nor a send are not counted. -/
lemma Session.Tallied.same (h : s.Tallied) (hmetrics : s'.relay.metrics = s.relay.metrics)
    {added : Trace} (htrace : s'.trace = s.trace ++ added)
    (hadded : ∀ e ∈ added, (∀ side span hint result now, e ≠ .receive side span hint result now) ∧
      ∀ side data result now, e ≠ .send side data result now) : s'.Tallied := by
  have hcounts : added.count isRead = 0 ∧ added.count isWrite = 0 ∧
      added.count isPartialWrite = 0 ∧ added.count isEagain = 0 := by
    refine ⟨Trace.count_eq_zero fun e he => ?_, Trace.count_eq_zero fun e he => ?_,
      Trace.count_eq_zero fun e he => ?_, Trace.count_eq_zero fun e he => ?_⟩
    all_goals
      obtain ⟨hreceive, hsend⟩ := hadded e he
      cases e with
      | receive side span hint result now =>
          exact absurd rfl (hreceive side span hint result now)
      | send side data result now => exact absurd rfl (hsend side data result now)
      | _ => rfl
  obtain ⟨hreads, hwrites, hpartials, heagains⟩ := hcounts
  apply h.append htrace
  · rw [hmetrics, hreads]
    simp
  · rw [hmetrics, hwrites]
    simp
  · rw [hmetrics, hpartials]
    simp
  · rw [hmetrics, heagains]
    simp

/-- **Every move keeps the tally.** -/
lemma Session.Tallied.move (h : s.Tallied) (hmove : Move io now s s') : s'.Tallied := by
  cases hmove with
  | receive source span hint bytes d' notes readable answer ingest => exact h.ingested ingest.isNote
  | receiveNothing source span hint result readable answer nothing =>
      apply h.afterReceive
      rintro bytes rfl
      simp at nothing
  | endOfStream source span hint result readable answer ended =>
      have hreceived : (s.afterReceive source span hint result now).Tallied := by
        apply h.afterReceive
        rintro bytes rfl
        simp at ended
      exact hreceived.same rfl (Session.noteHalfClosedRead_trace ..) (by simp)
  | refill source => exact h.same rfl (by simp : _ = s.trace ++ []) (by simp)
  | send destination budget count d' notes writable answer egress =>
      exact h.egressed writable egress.observed.isNote
  | sendNothing destination budget result writable answer nothing => exact h.afterSend nothing
  | injectHalfClose injectable =>
      rcases hok : io.shutdownWrite s.trace .client with _ | _
      · rw [injectable.injectHalfClose_of_failed hok]
        exact h.same rfl rfl (by simp)
      · rw [injectable.injectHalfClose_of_ok hok]
        exact h.same rfl rfl (by simp)
  | injectReset total => exact h.same rfl rfl (by simp)
  | forward destination forwardable =>
      rcases hok : io.shutdownWrite s.trace destination with _ | _
      · rw [Session.forwardHalfClose_of_failed hok]
        exact h.same rfl rfl (by simp)
      · rw [Session.forwardHalfClose_of_ok hok]
        exact h.same rfl rfl (by simp)
  | connect => exact h.same rfl (by simp : _ = s.trace ++ []) (by simp)

end Tallied

/-! ## The figures of a direction -/

/-- The counts of a fault channel are those of the delays it has given; without a channel there are
none. -/
def ChannelFigures (fault : Option FaultChannel) (delays : List ℤ) : Prop :=
  (fault.map FaultChannel.delayedSegments).getD 0 = UInt64.ofNat delays.length ∧
    (fault.map FaultChannel.delayBudget).getD 0 = i64 delays.sum

section Channel

variable {fault fault' : Option FaultChannel} {past : List ℤ} {now : ℤ} {source : Side} {count : ℕ}

lemma i64_i64_add (a b : ℤ) : i64 (i64 a + b) = i64 (a + b) := by
  simp [i64]

/-- A stamp is counted, and its delay added. -/
lemma ChannelFigures.stamp (h : ChannelFigures fault past) :
    ChannelFigures (stampFault source fault count now).1
      (past ++ Trace.delays source (stampFault source fault count now).2) := by
  rcases fault with _ | channel
  · simpa [stampFault, Trace.delays] using h
  rcases hdelay : channel.delay with _ | line
  · simpa [stampFault, hdelay, Trace.delays] using h
  · obtain ⟨hsegments, hbudget⟩ := h
    simp only [Option.map_some, Option.getD_some] at hsegments hbudget
    constructor
    · simp [stampFault, hdelay, Trace.delays, Trace.delayIn, hsegments]
    · simp [stampFault, hdelay, Trace.delays, Trace.delayIn, hbudget, i64_i64_add]

/-- A channel with the same counts. -/
lemma ChannelFigures.of_eq (h : ChannelFigures fault past)
    (hsegments : fault'.map FaultChannel.delayedSegments = fault.map FaultChannel.delayedSegments)
    (hbudget : fault'.map FaultChannel.delayBudget = fault.map FaultChannel.delayBudget) :
    ChannelFigures fault' past := by
  unfold ChannelFigures
  rw [hsegments, hbudget]
  exact h

lemma consumeFault_none {channel : FaultChannel} :
    consumeFault (some channel) count ≠ .ok none := by
  intro h
  rcases hdelay : channel.delay with _ | line
  · rcases hbucket : channel.bucket with _ | b
    · simp [consumeFault, hdelay, hbucket, bind, Except.bind] at h
    · rcases hconsume : b.consume count with e | b'
      · simp [consumeFault, hdelay, hbucket, hconsume, bind, Except.bind, Except.map] at h
      · simp [consumeFault, hdelay, hbucket, hconsume, bind, Except.bind, Except.map] at h
  · rcases hline : line.onConsume count with e | line'
    · simp [consumeFault, hdelay, hline, bind, Except.bind, Except.map] at h
    · rcases hbucket : channel.bucket with _ | b
      · simp [consumeFault, hdelay, hline, hbucket, bind, Except.bind, Except.map] at h
      · rcases hconsume : b.consume count with e | b'
        · simp [consumeFault, hdelay, hline, hbucket, hconsume, bind, Except.bind, Except.map] at h
        · simp [consumeFault, hdelay, hline, hbucket, hconsume, bind, Except.bind, Except.map] at h

/-- What is sent has been counted before. -/
lemma ChannelFigures.consume (h : ChannelFigures fault past)
    (hconsume : consumeFault fault count = .ok fault') : ChannelFigures fault' past := by
  rcases fault' with _ | channel'
  · rcases fault with _ | channel
    · exact h
    · exact absurd hconsume consumeFault_none
  · obtain ⟨channel, rfl, heq, -⟩ := consumeFault_some hconsume
    rw [heq]
    exact h.of_eq rfl rfl

end Channel

/-- The counts of the fault channel and the peak of the queue are those of the history. -/
structure Session.Figured (source : Side) (s : Session) : Prop where
  channel : ChannelFigures (s.relay.directionFrom source).fault (s.trace.delays source)
  size_le : (s.relay.directionFrom source).queue.size ≤
    (s.relay.directionFrom source).queue.highWaterMark
  peak : (s.relay.directionFrom source).queue.highWaterMark = s.trace.peak source

section Figured

variable {io : SocketIo} {now : ℤ} {s s' : Session} {source : Side}

/-- Events without a delay for a block from `source`. -/
lemma Trace.delays_append_of_none {added : Trace} (trace : Trace)
    (h : ∀ e ∈ added, Trace.delayIn source e = none) :
    (trace ++ added).delays source = trace.delays source := by
  unfold Trace.delays
  rw [List.filterMap_append, List.filterMap_eq_nil_iff.mpr h, List.append_nil]

lemma Observed.delayIn {side : Side} {state : ConnectionState} {t t' : BackpressureTracker}
    {queue : ByteQueue} {notes : Trace} (h : Observed side state t queue now t' notes) :
    ∀ e ∈ notes, Trace.delayIn source e = none := by
  obtain ⟨transition, -, rfl⟩ := h
  cases transition <;> simp [transitionNotes, Trace.delayIn]

/-- **What a move does to the counts of the fault channel.** -/
lemma Move.channelFigures (hmove : Move io now s s')
    (h : ChannelFigures (s.relay.directionFrom source).fault (s.trace.delays source)) :
    ChannelFigures (s'.relay.directionFrom source).fault (s'.trace.delays source) := by
  rcases hmove.transfer_or_quiet with ⟨side, span, hint, bytes, d', notes, -, -, hingest, rfl⟩ |
    ⟨destination, budget, count, d', notes, -, -, hegress, rfl⟩ |
    ⟨destination, budget, result, -, -, rfl⟩ | hquiet
  · obtain ⟨tail, hobs, rfl⟩ := hingest.observed
    by_cases heq : source = side
    · subst heq
      have hdelays : (s.ingested source span hint bytes now d'
          ((stampFault source (s.relay.directionFrom source).fault bytes.length now).2 ++
            tail)).trace.delays source = s.trace.delays source ++ Trace.delays source
              (stampFault source (s.relay.directionFrom source).fault bytes.length now).2 := by
        simp only [Session.ingested, ← List.cons_append, ← List.append_assoc]
        rw [Trace.delays_append_of_none _ hobs.delayIn]
        exact List.filterMap_append
      rw [Session.ingested_directionFrom_self, hingest.fault, hdelays]
      exact h.stamp
    · rw [Session.ingested_directionFrom_of_ne _ _ _ _ _ _ _ heq, Session.ingested,
        Trace.delays_append_of_none]
      · exact h
      · intro e he
        rcases List.mem_cons.mp he with rfl | he
        · rfl
        · rcases List.mem_append.mp he with he | he
          · obtain ⟨delay, eligible, rfl⟩ := eq_stamped_of_mem he
            exact if_neg (Ne.symm heq)
          · exact hobs.delayIn e he
  · have hdelays : (s.egressed destination budget count now d' notes).trace.delays source =
        s.trace.delays source := by
      rw [Session.egressed, Trace.delays_append_of_none]
      intro e he
      rcases List.mem_cons.mp he with rfl | he
      · rfl
      · exact hegress.observed.delayIn e he
    rw [hdelays]
    by_cases heq : source = destination.peer
    · subst heq
      rw [Session.egressed_directionFrom_self]
      exact h.consume hegress.fault
    · rw [Session.egressed_directionFrom_of_ne _ _ _ _ _ _ heq]
      exact h
  · rw [Session.afterSend_directionFrom, Session.afterSend_trace, Trace.delays_append_of_none]
    · exact h
    · simp [Trace.delayIn]
  · obtain ⟨added, htrace, hadded⟩ := hquiet.trace
    rw [htrace, Trace.delays_append_of_none]
    · rcases hquiet.direction source with heq | heq
      · rw [heq]
        exact h
      · rw [heq]
        -- a refill touches the bucket only
        apply h.of_eq
        · rw [Direction.refill, Option.map_map]
          rfl
        · rw [Direction.refill, Option.map_map]
          rfl
    · intro e he
      have hevent := hadded e he
      cases e with
      | stamped => cases hevent
      | _ => rfl

/-- The peak of a queue is the largest size it is left with. -/
lemma Move.peak (hmove : Move io now s s')
    (hsize : (s.relay.directionFrom source).queue.size ≤
      (s.relay.directionFrom source).queue.highWaterMark) :
    (s'.relay.directionFrom source).queue.highWaterMark =
      max (s.relay.directionFrom source).queue.highWaterMark
        (s'.relay.directionFrom source).queue.size := by
  rcases hmove.transfer_or_quiet with ⟨side, span, hint, bytes, d', notes, -, -, hingest, rfl⟩ |
    ⟨destination, budget, count, d', notes, -, -, hegress, rfl⟩ |
    ⟨destination, budget, result, -, -, rfl⟩ | hquiet
  · by_cases heq : source = side
    · subst heq
      rw [Session.ingested_directionFrom_self]
      exact hingest.peak
    · rw [Session.ingested_directionFrom_of_ne _ _ _ _ _ _ _ heq]
      exact (max_eq_left hsize).symm
  · by_cases heq : source = destination.peer
    · -- a send leaves fewer bytes than there were
      subst heq
      have hless : d'.queue.size ≤ (s.relay.directionFrom destination.peer).queue.size := by
        rw [← ByteQueue.length_content, hegress.content, List.length_drop,
          ByteQueue.length_content]
        exact Nat.sub_le _ _
      rw [Session.egressed_directionFrom_self, hegress.peak]
      exact (max_eq_left (hless.trans hsize)).symm
    · rw [Session.egressed_directionFrom_of_ne _ _ _ _ _ _ heq]
      exact (max_eq_left hsize).symm
  · rw [Session.afterSend_directionFrom]
    exact (max_eq_left hsize).symm
  · rw [hquiet.queue source]
    exact (max_eq_left hsize).symm

/-- **Every move keeps the figures of a direction.** -/
lemma Session.Figured.move (h : s.Figured source) (hmove : Move io now s s') :
    s'.Figured source := by
  have hpeak := hmove.peak h.size_le
  refine ⟨hmove.channelFigures h.channel, ?_, ?_⟩
  · rw [hpeak]
    exact le_max_right _ _
  · rcases hmove.watched source with hsame | ⟨transition, hwatched⟩
    · rw [hsame.queue, Trace.peak, hsame.observations]
      exact h.peak
    · rw [hpeak, h.peak, Trace.peak, Trace.peak, hwatched.observations]
      simp

end Figured

/-! ## The report of a run -/

/-- The session follows `plan` and was accepted at `start`, and all of its counters agree with its
history, up to the times of the pauses. -/
structure Session.Reported (config : RelayConfig) (plan : FaultPlan) (start : ℤ) (s : Session) :
    Prop where
  follows : s.Follows config plan
  acceptedAt : s.relay.acceptedAt = start
  faultsActive : s.relay.faultsActive = plan.anyEnabled
  capacity : ∀ source,
    (s.relay.directionFrom source).queue.capacity = config.bufferBytesPerDirection
  intact : ∀ source, s.Intact source
  tallied : s.Tallied
  watermarked : ∀ source, s.Watermarked source
  figured : ∀ source, s.Figured source

section Reported

variable {io : SocketIo} {now start : ℤ} {s s' : Session} {config : RelayConfig} {plan : FaultPlan}

lemma Move.faultsActive (hmove : Move io now s s') :
    s'.relay.faultsActive = s.relay.faultsActive := by
  cases hmove with
  | receiveNothing source span hint result => cases result <;> rfl
  | endOfStream source span hint result => cases result <;> rfl
  | sendNothing destination budget result => cases result <;> rfl
  | injectHalfClose injectable =>
      simp only [Session.injectHalfClose]
      split_ifs <;> rfl
  | forward destination forwardable =>
      simp only [Session.forwardHalfClose]
      split_ifs <;> rfl
  | receive | send | refill | injectReset | connect => rfl

lemma Session.Reported.move (h : s.Reported config plan start) (hinv : s.Inv)
    (hmove : Move io now s s') : s'.Reported config plan start where
  follows := h.follows.move hmove
  acceptedAt := hmove.ages.acceptedAt.trans h.acceptedAt
  faultsActive := hmove.faultsActive.trans h.faultsActive
  capacity source := (hmove.capacity source).trans (h.capacity source)
  intact source := (h.intact source).move hmove
  tallied := h.tallied.move hmove
  watermarked source := (h.watermarked source).move hinv hmove
  figured source := (h.figured source).move hmove

/-- A new fault channel has given no delays. -/
lemma FaultChannel.create_figures {connectionSeed directionIndex : UInt64} {channel : FaultChannel}
    (hok : FaultChannel.create plan connectionSeed directionIndex start = .ok channel) :
    channel.delayedSegments = 0 ∧ channel.delayBudget = 0 := by
  rw [FaultChannel.create] at hok
  by_cases hrate : plan.rateBytesPerSecond > 0
  · obtain ⟨b, hb, -⟩ := TokenBucket.create_spec start hrate (plan.effectiveBurstBytes_pos hrate)
    simp only [if_pos hrate, hb, Except.map, bind, Except.bind] at hok
    rw [← Except.ok.inj hok]
    exact ⟨rfl, rfl⟩
  · simp only [if_neg hrate, bind, Except.bind] at hok
    rw [← Except.ok.inj hok]
    exact ⟨rfl, rfl⟩

lemma Relay.create_faultsActive {connectionId : UInt64} {upstreamConnecting : Bool} {r : Relay}
    (hok : Relay.create config plan connectionId upstreamConnecting start = .ok r) :
    r.faultsActive = plan.anyEnabled := by
  rcases hdirection : Direction.create config with e | d
  · simp [Relay.create, hdirection, bind, Except.bind] at hok
  obtain ⟨clientFault, hclient, -⟩ := FaultChannel.createFor_spec plan connectionId .client start
  obtain ⟨upstreamFault, hupstream, -⟩ :=
    FaultChannel.createFor_spec plan connectionId .upstream start
  simp only [Relay.create, hdirection, hclient, hupstream, bind, Except.bind] at hok
  rcases hany : plan.anyEnabled with _ | _
  · rw [hany] at hok
    rw [← Except.ok.inj hok]
  · rw [hany] at hok
    rw [← Except.ok.inj hok]

lemma Relay.create_figured {connectionId : UInt64} {upstreamConnecting : Bool} {r : Relay}
    (hconfig : config.Valid)
    (hok : Relay.create config plan connectionId upstreamConnecting start = .ok r)
    (hfresh : r.Fresh config plan upstreamConnecting start) (source : Side) :
    Session.Figured source { relay := r } := by
  have hpeak := (Relay.create_tracker hconfig hok source).2
  refine ⟨?_, ?_, hpeak⟩
  · show ChannelFigures (r.directionFrom source).fault []
    rcases hfault : (r.directionFrom source).fault with _ | channel
    · exact ⟨rfl, rfl⟩
    · obtain ⟨hsegments, hbudget⟩ :=
        FaultChannel.create_figures (Relay.create_channel hconfig hok hfault)
      exact ⟨hsegments, hbudget⟩
  · show (r.directionFrom source).queue.size ≤ (r.directionFrom source).queue.highWaterMark
    rw [(hfresh.direction source).size]
    exact Nat.zero_le _

lemma Relay.create_reported {connectionId : UInt64} {upstreamConnecting : Bool} {r : Relay}
    (hconfig : config.Valid)
    (hok : Relay.create config plan connectionId upstreamConnecting start = .ok r)
    (hfresh : r.Fresh config plan upstreamConnecting start) :
    Session.Reported config plan start { relay := r } where
  follows := hfresh.follows
  acceptedAt := hfresh.acceptedAt
  faultsActive := Relay.create_faultsActive hok
  capacity source := (hfresh.direction source).capacity
  intact := hfresh.intact
  tallied := by
    constructor
    all_goals
      show _ = UInt64.ofNat 0
      rw [hfresh.metrics]
      rfl
  watermarked := Relay.create_watermarked hconfig hok hfresh
  figured := Relay.create_figured hconfig hok hfresh

lemma count_alternation (n : ℕ) :
    (alternation n).count .paused = (n + 1) / 2 ∧ (alternation n).count .resumed = n / 2 := by
  induction n with
  | zero => exact ⟨rfl, rfl⟩
  | succ n ih =>
      obtain ⟨hpaused, hresumed⟩ := ih
      rw [alternation_succ, List.count_append, List.count_append, hpaused, hresumed]
      by_cases heven : n % 2 = 0
      · rw [if_pos heven]
        simp
        omega
      · rw [if_neg heven]
        simp
        omega

/-- The two counters of a tracker are those of the events it has reported. -/
lemma BackpressureTracker.Records.counts {t : BackpressureTracker} {capacity : ℕ}
    {observations : List (ℕ × ℤ)} {transitions : List BackpressureTransition}
    (h : t.Records capacity observations transitions) :
    t.pauseCount = UInt64.ofNat (transitions.count .paused) ∧
      t.resumeCount = UInt64.ofNat (transitions.count .resumed) := by
  obtain ⟨hpaused, hresumed⟩ := count_alternation transitions.length
  rw [← h.alternating] at hpaused hresumed
  rw [h.pauses, h.resumes, hpaused, hresumed]
  exact ⟨rfl, rfl⟩

/-- What is queued is what was received and not sent yet. -/
lemma Session.Intact.queued {source : Side} (h : s.Intact source) :
    (s.relay.directionFrom source).queue.size =
      (s.trace.received source).length - (s.trace.sent source.peer).length := by
  rw [h.stream, List.length_append, ByteQueue.length_content, Nat.add_sub_cancel_left]

lemma ofInt_tdiv_natCast (n d : ℕ) :
    UInt64.ofInt ((n : ℤ).tdiv (d : ℤ)) = UInt64.ofNat (n / d) := by
  rw [← Int.ofNat_tdiv, UInt64.ofInt, ← UInt64.toNat_inj]
  simp
  omega

/-- **The report of a direction is that of the history.** -/
lemma Session.Reported.direction (h : s.Reported config plan start) (label : String) (source : Side)
    (htimed : (s.relay.directionFrom source).backpressure.pausedDuration now =
      Hysteresis.latchedTime config.lowWaterBytes config.highWaterBytes
        (s.trace.observations source) start now) :
    (s.relay.directionFrom source).metricsFields label now =
      s.trace.directionFigures config start now label source := by
  obtain ⟨hpauses, hresumes⟩ := (h.watermarked source).records.counts
  have hsaturations := (h.watermarked source).records.saturations
  obtain ⟨hsegments, hbudget⟩ := (h.figured source).channel
  have hdelayed : (((s.relay.directionFrom source).fault.map fun channel =>
      UInt64.ofInt (channel.delayBudget.tdiv 1000)).getD 0) =
        UInt64.ofInt ((i64 (s.trace.delays source).sum).tdiv 1000) := by
    rw [← hbudget]
    cases (s.relay.directionFrom source).fault <;> rfl
  rw [h.capacity source] at hsaturations
  unfold Direction.metricsFields Trace.directionFigures
  dsimp only
  rw [(h.intact source).queued, (h.figured source).peak, hpauses, hresumes, hsaturations, htimed,
    hsegments, hdelayed, ← ofInt_tdiv_natCast]
  rfl

/-- **The report is that of the history.** -/
lemma Session.Reported.metricsFields (h : s.Reported config plan start)
    (htimed : ∀ source, (s.relay.directionFrom source).backpressure.pausedDuration now =
      Hysteresis.latchedTime config.lowWaterBytes config.highWaterBytes
        (s.trace.observations source) start now) :
    s.relay.metricsFields now = s.trace.figures config plan start now := by
  have hclient := h.intact .client
  have hupstream := h.intact .upstream
  unfold Relay.metricsFields Trace.figures
  rw [h.direction "c2u" .client (htimed .client), h.direction "u2c" .upstream (htimed .upstream),
    h.acceptedAt, h.faultsActive, hclient.read, hupstream.read, h.tallied.reads, h.tallied.writes,
    h.tallied.partials, h.tallied.eagains]
  rw [show s.relay.metrics.bytesWritten .upstream = _ from hclient.written,
    show s.relay.metrics.bytesWritten .client = _ from hupstream.written]
  rfl

/-- **The counters of a run**: they agree with the history, and at nondecreasing times that are not
after `now` the pauses have taken as long as the history says. -/
lemma reported_of_run {connectionId : UInt64} {upstreamConnecting : Bool} {calls : List Call}
    {results : List CallResult} (hconfig : config.Valid) (hclock : Clocked start calls)
    (hrun : runRelay io config plan connectionId upstreamConnecting start calls = .ok (results, s))
    (hstart : start ≤ now) (hcalls : ∀ time ∈ calls.filterMap Call.time?, time ≤ now) :
    s.Reported config plan start ∧
      ∀ source, (s.relay.directionFrom source).backpressure.pausedDuration now =
        Hysteresis.latchedTime config.lowWaterBytes config.highWaterBytes
          (s.trace.observations source) start now := by
  obtain ⟨results', s', hrun', -, hreported⟩ := runRelay_created io hconfig plan connectionId
    upstreamConnecting start (P := fun s => s.Reported config plan start)
    (fun r hok hr => Relay.create_reported hconfig hok hr)
    (fun now m m' hinv h hmove => h.move hinv hmove) calls
  obtain ⟨-, rfl⟩ := Prod.mk.inj (Except.ok.inj (hrun'.symm.trans hrun))
  obtain ⟨last, htimed⟩ := runRelay_pausesTimed io hconfig plan connectionId upstreamConnecting
    hclock hrun
  refine ⟨hreported, fun source => ?_⟩
  have hduration := htimed.timed source now hstart
    (runRelay_observed_until io hconfig plan connectionId upstreamConnecting hcalls hrun source)
  rwa [(hreported.follows source).low, (hreported.follows source).high] at hduration

end Reported

end NetFault
