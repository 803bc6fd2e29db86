import NetFault.Lib.StampedQueue
import NetFault.Relay.Channels
import NetFault.Relay.Integrity

/-!
# The delay line stands for the stamps of the queue

The bytes of a delayed direction wait in its `ByteQueue`, and what the `DelayLine` knows of them is
how many come due together.  The two are updated by separate calls; what they stand for together is
a `StampedQueue` of bytes.  `Trace.delayed` replays that queue from the history alone: a received
block is committed at the time of its receipt plus the delay drawn for it, a send consumes what it
transferred, and nothing of the delay line enters.  `Session.Stamped` says that queue and line are
its two halves, and every move keeps it.
-/

namespace NetFault

/-! ## The stamped queue of a history -/

namespace Trace

/-- The replay of a direction: its stamped bytes, and the block received last with its time. -/
structure Replay where
  queue : StampedQueue Byte ℤ
  block : List Byte
  receivedAt : ℤ

/-- What one event does to the stamped bytes of the direction from `source`. -/
def replayEvent (source : Side) (state : Replay) : TraceEvent → Replay
  | .receive side _ _ (.transferred bytes) now =>
      if side = source then { state with block := bytes, receivedAt := now } else state
  | .stamped side _ delay _ =>
      if side = source then
        { state with queue := state.queue.commit state.block (state.receivedAt + delay) }
      else state
  | .send side _ (.transferred count) _ =>
      if side = source.peer then { state with queue := state.queue.consume count } else state
  | _ => state

def replay (source : Side) (trace : Trace) : Replay :=
  trace.foldl (replayEvent source) { queue := ⟨[], 0⟩, block := [], receivedAt := 0 }

/-- The bytes from `source` that have not left, each with the time from which it may. -/
def delayed (source : Side) (trace : Trace) : StampedQueue Byte ℤ := (replay source trace).queue

/-- Whatever happens, the replayed queue is in order; the induction is on the events. -/
lemma ordered_delayed (source : Side) (trace : Trace) : (trace.delayed source).Ordered := by
  suffices h : ∀ state : Replay, state.queue.Ordered →
      (trace.foldl (replayEvent source) state).queue.Ordered from h _ (StampedQueue.ordered_empty 0)
  induction trace with
  | nil => exact fun _ hstate => hstate
  | cons e trace ih =>
      intro state hstate
      refine ih _ ?_
      rcases e with ⟨_, _, _, _ | _ | _ | _, _⟩ | ⟨_, _, _ | _ | _ | _, _⟩ | _ | _ | _ | _ <;>
        simp only [replayEvent] <;> try exact hstate
      · split_ifs <;> exact hstate
      · split_ifs
        · exact hstate.consume _
        · exact hstate
      · split_ifs
        · exact hstate.commit _ _
        · exact hstate

/-- Events that do not concern the direction from `source`. -/
def Idle (source : Side) (events : Trace) : Prop :=
  ∀ e ∈ events, ∀ state, replayEvent source state e = state

variable {source : Side}

lemma Idle.foldl {events : Trace} (h : Idle source events) (state : Replay) :
    events.foldl (replayEvent source) state = state := by
  induction events generalizing state with
  | nil => rfl
  | cons e events ih =>
      rw [List.foldl_cons, h e (List.mem_cons_self ..)]
      exact ih (fun e' he' => h e' (List.mem_cons_of_mem _ he')) state

lemma Idle.delayed {added : Trace} (h : Idle source added) (trace : Trace) :
    (trace ++ added).delayed source = trace.delayed source := by
  rw [Trace.delayed, replay, List.foldl_append, h.foldl]
  rfl

lemma idle_quiet {added : Trace} (h : ∀ e ∈ added, e.isQuiet = true) : Idle source added := by
  intro e he state
  have hquiet := h e he
  rcases e with ⟨_, _, _, _ | _ | _ | _, _⟩ | ⟨_, _, _ | _ | _ | _, _⟩ | _ | _ | _ | _ <;>
    simp_all [TraceEvent.isQuiet, replayEvent]

end Trace

variable {source : Side}

/-- Observations do not concern the stamps. -/
lemma Observed.idle {side : Side} {state : ConnectionState} {t t' : BackpressureTracker}
    {queue : ByteQueue} {now : ℤ} {notes : Trace} (h : Observed side state t queue now t' notes) :
    Trace.Idle source notes := by
  obtain ⟨transition, -, rfl⟩ := h
  intro e he replay
  cases transition <;> simp only [transitionNotes, List.mem_cons, List.not_mem_nil, or_false] at he
  · rw [he]
    rfl
  all_goals
    rcases he with rfl | rfl <;> rfl

/-- A receive on the other side does not, either. -/
lemma Ingest.idle {side : Side} {state : ConnectionState} {d d' : Direction} {bytes : List Byte}
    {now : ℤ} {notes : Trace} (h : Ingest side state d bytes now d' notes) (hne : side ≠ source) :
    Trace.Idle source notes := by
  obtain ⟨tail, hobs, rfl⟩ := h.observed
  intro e he replay
  rcases List.mem_append.mp he with he | he
  · obtain ⟨delay, eligible, rfl⟩ := eq_stamped_of_mem he
    exact if_neg hne
  · exact hobs.idle e he replay

/-! ## Queue and line are its two halves -/

/-- The queue of the direction from `source` holds the bytes of the stamped queue, and its delay
line the stamps. -/
def Session.Stamped (source : Side) (s : Session) : Prop :=
  ∀ channel line, (s.relay.directionFrom source).fault = some channel →
    channel.delay = some line →
    (s.trace.delayed source).items = (s.relay.directionFrom source).queue.content ∧
    (s.trace.delayed source).stamps = line.stamps ∧
    (s.trace.delayed source).last = line.lastEligible

section Stamped

variable {io : SocketIo} {now : ℤ} {s s' : Session}

/-- A step that does not concern the direction from `source`. -/
lemma Session.Stamped.of_idle (h : s.Stamped source) {added : Trace}
    (htrace : s'.trace = s.trace ++ added) (hidle : Trace.Idle source added)
    (hqueue : (s'.relay.directionFrom source).queue = (s.relay.directionFrom source).queue)
    (hline : ∀ channel' line, (s'.relay.directionFrom source).fault = some channel' →
      channel'.delay = some line → ∃ channel, (s.relay.directionFrom source).fault = some channel ∧
      channel.delay = some line) : s'.Stamped source := by
  intro channel' line hc hl
  obtain ⟨channel, hc', hl'⟩ := hline channel' line hc hl
  rw [htrace, hidle.delayed, hqueue]
  exact h channel line hc' hl'

/-- The same, when the direction stays as it is. -/
lemma Session.Stamped.of_direction (h : s.Stamped source) {added : Trace}
    (htrace : s'.trace = s.trace ++ added) (hidle : Trace.Idle source added)
    (hdir : s'.relay.directionFrom source = s.relay.directionFrom source) : s'.Stamped source := by
  apply h.of_idle htrace hidle
  · rw [hdir]
  · intro channel line hc hl
    exact ⟨channel, hdir ▸ hc, hl⟩

/-- The clamp of the line is the maximum. -/
lemma DelayLine.clamp_eq_max (line : DelayLine) (eligibleAt : ℤ) :
    line.clamp eligibleAt = max eligibleAt line.lastEligible := by
  unfold DelayLine.clamp
  split_ifs with hearly
  · exact (max_eq_right hearly.le).symm
  · exact (max_eq_left (not_lt.mp hearly)).symm

/-- A receive commits its block, at the delay drawn for it. -/
lemma Session.Stamped.ingested (h : s.Stamped source) {span : ℕ} {hint : Bool} {bytes : List Byte}
    {d' : Direction} {notes : Trace} (hpos : 0 < bytes.length)
    (hingest : Ingest source s.relay.state (s.relay.directionFrom source) bytes now d' notes) :
    (s.ingested source span hint bytes now d' notes).Stamped source := by
  intro channel' line' hc' hl'
  rw [Session.ingested_directionFrom_self] at hc' ⊢
  rw [hingest.fault] at hc'
  obtain ⟨channel, line, delay, hc, hl, hline, -, -, -, hstamp⟩ := stampFault_delay hc' hl'
  obtain ⟨hitems, hstamps, hlast⟩ := h channel line hc hl
  have hbytes : bytes ≠ [] := List.length_pos_iff.mp hpos
  have hdelayed : (s.ingested source span hint bytes now d' notes).trace.delayed source =
      (s.trace.delayed source).commit bytes (now + delay) := by
    obtain ⟨tail, hobs, hnotes⟩ := hingest.observed
    have htrace : (s.ingested source span hint bytes now d' notes).trace =
        s.trace ++ [.receive source span hint (.transferred bytes) now,
          .stamped source bytes.length delay line'.lastEligible] ++ tail := by
      simp [Session.ingested, hnotes, hstamp]
    rw [htrace, hobs.idle.delayed, Trace.delayed, Trace.replay, List.foldl_append]
    simp [Trace.replayEvent, Trace.delayed, Trace.replay]
  rw [hdelayed, hline]
  refine ⟨?_, ?_, ?_⟩
  · rw [StampedQueue.items_commit, hitems, hingest.content]
  · rw [StampedQueue.stamps_commit hbytes, DelayLine.stamps_onCommit _ hpos, hstamps, hlast,
      DelayLine.clamp_eq_max]
  · rw [StampedQueue.last_commit hbytes, DelayLine.lastEligible_onCommit _ hpos, hlast,
      DelayLine.clamp_eq_max]

/-- A send consumes what was accepted. -/
lemma Session.Stamped.egressed (h : s.Stamped source) (hinv : s.Inv) {budget count : ℕ}
    {d' : Direction} {notes : Trace} (hwritable : s.Writable source.peer budget now)
    (hcount : count ≤ budget)
    (hegress : Egress source s.relay.state (s.relay.directionFrom source) count now d' notes) :
    (s.egressed source.peer budget count now d' notes).Stamped source := by
  intro channel' line' hc' hl'
  have hdir := s.egressed_directionFrom_self source.peer budget count now d' notes
  rw [Side.peer_peer] at hdir
  rw [hdir] at hc' ⊢
  have hsize := hcount.trans hwritable.budget_le_size
  rw [Side.peer_peer] at hsize
  obtain ⟨channel, hc, -, hdelay, -⟩ := consumeFault_some (hegress.fault.trans (congrArg _ hc'))
  obtain ⟨line, hl, hok⟩ := hdelay line' hl'
  obtain ⟨hw, hpending⟩ := (hinv source).delay channel line hc hl
  obtain ⟨line'', hok', -, hdrop, -, hlast'⟩ := hw.onConsume (by omega : count ≤ line.pending)
  obtain rfl : line'' = line' := by simpa [hok] using hok'.symm
  obtain ⟨hitems, hstamps, hlast⟩ := h channel line hc hl
  have hdelayed : (s.egressed source.peer budget count now d' notes).trace.delayed source =
      (s.trace.delayed source).consume count := by
    have htrace : (s.egressed source.peer budget count now d' notes).trace =
        s.trace ++ [.send source.peer (s.offer source.peer budget) (.transferred count) now] ++
          notes := by
      simp [Session.egressed]
    rw [htrace, hegress.observed.idle.delayed, Trace.delayed, Trace.replay, List.foldl_append]
    simp [Trace.replayEvent, Trace.delayed, Trace.replay]
  rw [hdelayed]
  refine ⟨?_, ?_, ?_⟩
  · rw [StampedQueue.items_consume, hitems, hegress.content]
  · rw [StampedQueue.stamps_consume, hstamps, hdrop]
  · rw [hlast', ← hlast]
    rfl

/-- **Every move keeps queue and line the two halves of the stamped queue.** -/
lemma Session.Stamped.move (h : s.Stamped source) (hinv : s.Inv) (hmove : Move io now s s') :
    s'.Stamped source := by
  rcases hmove.transfer_or_quiet with ⟨side, span, hint, bytes, d', notes, -, hio, hingest, rfl⟩ |
    ⟨destination, budget, count, d', notes, hwritable, hio, hegress, rfl⟩ |
    ⟨destination, budget, result, -, hnothing, rfl⟩ | hquiet
  · by_cases heq : side = source
    · subst heq
      exact h.ingested (io.receive_transferred _ _ _ _ hio).1 hingest
    · refine h.of_direction rfl (fun e he state => ?_)
        (Session.ingested_directionFrom_of_ne _ _ _ _ _ _ _ (Ne.symm heq))
      rcases List.mem_cons.mp he with rfl | he
      · simp [Trace.replayEvent, heq]
      · exact hingest.idle heq e he state
  · by_cases heq : destination = source.peer
    · subst heq
      simp only [Side.peer_peer] at hegress
      exact h.egressed hinv hwritable (hwritable.count_le hio).2 hegress
    · refine h.of_direction rfl (fun e he state => ?_)
        (Session.egressed_directionFrom_of_ne _ _ _ _ _ _ (Side.ne_peer_comm.mp heq))
      rcases List.mem_cons.mp he with rfl | he
      · simp [Trace.replayEvent, heq]
      · exact hegress.observed.idle e he state
  · refine h.of_direction (Session.afterSend_trace ..) (fun e he state => ?_)
      (by rw [Session.afterSend_directionFrom])
    obtain rfl := List.mem_singleton.mp he
    cases result with
    | transferred count => exact absurd rfl (hnothing count)
    | _ => rfl
  · obtain ⟨added, htrace, hadded⟩ := hquiet.trace
    refine h.of_idle htrace (Trace.idle_quiet hadded) (hquiet.queue source) ?_
    intro channel' line hc hl
    rcases hquiet.direction source with heq | heq
    · rw [heq] at hc
      exact ⟨channel', hc, hl⟩
    · rw [heq] at hc
      obtain ⟨channel, hc', rfl⟩ := Option.map_eq_some_iff.mp hc
      exact ⟨channel, hc', hl⟩

lemma Relay.Fresh.stamped {config : RelayConfig} {plan : FaultPlan} {upstreamConnecting : Bool}
    {start : ℤ} {r : Relay} (h : r.Fresh config plan upstreamConnecting start) (source : Side) :
    Session.Stamped source { relay := r } := by
  intro channel line hc hl
  have hd := h.direction source
  have hline : line = {} := by
    have hdelay := (hd.channel channel hc).delay
    rw [hl] at hdelay
    split_ifs at hdelay
    exact Option.some.inj hdelay
  have hcontent : (r.directionFrom source).queue.content = [] :=
    List.length_eq_zero_iff.mp ((ByteQueue.length_content _).trans hd.size)
  rw [hline, hcontent]
  exact ⟨rfl, rfl, rfl⟩

end Stamped

/-! ## What the line answers -/

namespace DelayLine

variable {line : DelayLine}

lemma length_stampsOf (segments : List Segment) :
    (stampsOf segments).length = (segments.map Segment.bytes).sum := by
  induction segments with
  | nil => rfl
  | cons segment rest ih =>
      rw [stampsOf_cons, List.length_append, List.length_replicate, ih, List.map_cons,
        List.sum_cons]

/-- Segments are not empty, so there are no more of them than bytes. -/
lemma WellFormed.length_segments_le (hw : line.WellFormed) :
    line.segments.length ≤ line.pending := by
  rw [hw.pending_eq, stamps, length_stampsOf, ← List.length_map (f := Segment.bytes)]
  refine List.length_le_sum_of_one_le _ fun bytes hbytes => ?_
  obtain ⟨segment, hsegment, rfl⟩ := List.mem_map.mp hbytes
  exact hw.pos segment hsegment

/-- The first segment held back has the first stamp that has not passed. -/
lemma nextEligible_eq_find? (hw : line.WellFormed) (now : ℤ) :
    line.nextEligible now = line.stamps.find? fun stamp => decide (now < stamp) := by
  obtain ⟨segments, hsegments⟩ : ∃ segments, segments = line.segments := ⟨_, rfl⟩
  have hpos := hw.pos
  unfold nextEligible stamps
  rw [← hsegments] at hpos ⊢
  clear hsegments
  induction segments with
  | nil => rfl
  | cons segment rest ih =>
      have hbytes := hpos segment (List.mem_cons_self ..)
      have hrest := ih fun s hs => hpos s (List.mem_cons_of_mem _ hs)
      rw [stampsOf_cons, List.find?_append, List.find?_replicate_of_length_pos hbytes, ← hrest,
        List.find?_cons]
      by_cases hheld : segment.eligibleAt > now
      · simp [hheld]
      · simp [hheld]

/-- The line, with the queue its bytes wait in, represents a stamped queue: the segments are
non-empty and strictly increasing, together as long as the queue, and what the line answers is
what the stamped queue says. -/
structure Represents (line : DelayLine) (queue : ByteQueue) (q : StampedQueue Byte ℤ) : Prop where
  items : q.items = queue.content
  stamps : q.stamps = line.stamps
  positive : ∀ segment ∈ line.segments, 0 < segment.bytes
  increasing : line.segments.Pairwise fun a b => a.eligibleAt < b.eligibleAt
  total : (line.segments.map Segment.bytes).sum = line.pending
  pending : line.pending = queue.size
  segments_le : line.segments.length ≤ queue.size
  released : ∀ now, q.released now = q.entries.take (line.releasable now)
  releasable : ∀ now, line.releasable now = (q.released now).length
  nextEligible : ∀ now t, line.nextEligible now = some t ↔
    t ∈ q.stamps ∧ now < t ∧ ∀ u ∈ q.stamps, now < u → t ≤ u

end DelayLine

lemma Session.Stamped.represents {s : Session} (h : s.Stamped source) (hinv : s.Inv)
    {channel : FaultChannel} {line : DelayLine}
    (hc : (s.relay.directionFrom source).fault = some channel) (hl : channel.delay = some line) :
    line.Represents (s.relay.directionFrom source).queue (s.trace.delayed source) := by
  obtain ⟨hitems, hstamps, -⟩ := h channel line hc hl
  obtain ⟨hw, hpending⟩ := (hinv source).delay channel line hc hl
  have hordered := Trace.ordered_delayed source s.trace
  have hcount : ∀ now, line.releasable now = ((s.trace.delayed source).released now).length := by
    intro now
    rw [DelayLine.releasable, DelayLine.releasableIn_eq now _ hw.pos, hordered.length_released,
      hstamps]
    rfl
  refine ⟨hitems, hstamps, hw.pos, hw.increasing, ?_, hpending, hpending ▸ hw.length_segments_le,
    fun now => ?_, hcount, fun now t => ?_⟩
  · rw [hw.pending_eq, DelayLine.stamps, DelayLine.length_stampsOf]
  · rw [hcount now]
    exact hordered.released_eq_take now
  · rw [DelayLine.nextEligible_eq_find? hw, ← hstamps]
    exact StampedQueue.find?_lt_eq_some_iff hordered.sorted now t

/-- **The delay line represents the stamps of the queue.**  In every state a run can reach, for each
direction with a delay line: replay the history as a queue of bytes, each stamped with its time of
receipt plus the delay drawn for it, or the latest stamp before it.  The bytes of that queue are
those in the direction's buffer, and the line represents it; the buffer stays within the high-water
mark. -/
theorem delayLine_represents (io : SocketIo) (config : RelayConfig) (hconfig : config.Valid)
    (plan : FaultPlan) (connectionId : UInt64) (upstreamConnecting : Bool) (start : ℤ)
    (calls : List Call) :
    ∃ results s, runRelay io config plan connectionId upstreamConnecting start calls =
        .ok (results, s) ∧
      ∀ source channel line, (s.relay.directionFrom source).fault = some channel →
        channel.delay = some line →
        line.Represents (s.relay.directionFrom source).queue (s.trace.delayed source) ∧
        (s.relay.directionFrom source).queue.size ≤ config.highWaterBytes := by
  obtain ⟨results, s, hrun, hinv, hfollows, hstamped⟩ := runRelay_spec io hconfig plan connectionId
    upstreamConnecting start
    (P := fun s => s.Follows config plan ∧ ∀ source, s.Stamped source)
    (fun r hr => ⟨hr.follows, hr.stamped⟩)
    (fun now m m' hinv h hmove =>
      ⟨h.1.move hmove, fun source => (h.2 source).move hinv hmove⟩) calls
  refine ⟨results, s, hrun, fun source channel line hc hl => ?_⟩
  refine ⟨(hstamped source).represents hinv hc hl, ?_⟩
  rw [← (hfollows source).high]
  exact (hinv source).size_le

/-- Three bytes delayed by five milliseconds, of which the bucket let one out. -/
theorem delayLine_represents_scripted :
    ∃ results s channel line, runRelay (.script fun _ => [1, 2, 3])
        { bufferBytesPerDirection := 16, lowWaterBytes := 4, highWaterBytes := 8 }
        { latency := 5, rateBytesPerSecond := 1, burstBytes := 1 } 7 false 0
        [.handleReadable .client false 1, .flush .upstream 5000001] = .ok (results, s) ∧
      (s.relay.directionFrom .client).fault = some channel ∧ channel.delay = some line ∧
      line.segments = [⟨2, 5000001⟩] ∧
      line.Represents (s.relay.directionFrom .client).queue (s.trace.delayed .client) := by
  have hcheck : returns (runRelay (.script fun _ => [1, 2, 3])
      { bufferBytesPerDirection := 16, lowWaterBytes := 4, highWaterBytes := 8 }
      { latency := 5, rateBytesPerSecond := 1, burstBytes := 1 } 7 false 0
      [.handleReadable .client false 1, .flush .upstream 5000001])
      (fun run => ((run.2.relay.directionFrom .client).fault.bind FaultChannel.delay).any
        fun line => decide (line.segments = [⟨2, 5000001⟩])) = true := by
    decide +kernel
  obtain ⟨⟨results, s⟩, hrun, htest⟩ := exists_of_returns hcheck
  obtain ⟨line, hline, hsegments⟩ := (Option.any_eq_true ..).mp htest
  obtain ⟨channel, hc, hl⟩ := Option.bind_eq_some_iff.mp hline
  obtain ⟨results', s', hrun', hall⟩ := delayLine_represents (.script fun _ => [1, 2, 3])
    { bufferBytesPerDirection := 16, lowWaterBytes := 4, highWaterBytes := 8 } (by decide)
    { latency := 5, rateBytesPerSecond := 1, burstBytes := 1 } 7 false 0
    [.handleReadable .client false 1, .flush .upstream 5000001]
  obtain ⟨rfl, rfl⟩ : results = results' ∧ s = s' := by
    simpa [hrun] using hrun'
  exact ⟨results, s, channel, line, hrun, hc, hl, of_decide_eq_true hsegments,
    (hall .client channel line hc hl).1⟩

end NetFault
