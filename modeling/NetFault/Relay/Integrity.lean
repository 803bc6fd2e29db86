import NetFault.Relay.Methods

/-!
# Streams arrive intact, and no call fails

The bytes of a direction pass through a ring whose spans are cut by the high-water mark on one
side and by delays and tokens on the other.  `Session.Intact` says what survives all of this: what
was received is what was sent followed by what is queued.  It is kept by every move, since a
receive appends to the queue what it appends to the received stream, and a send takes from the
front of the queue what it appends to the sent stream.
-/

namespace NetFault

/-! ## The streams of a history -/

namespace Trace

lemma received_notes (source : Side) {notes : Trace} (h : ∀ e ∈ notes, e.isNote = true) :
    received source notes = [] := by
  refine List.flatMap_eq_nil_iff.mpr fun e he => ?_
  have hnote := h e he
  rcases e with _ | _ | _ | _ | _ | _ <;> simp_all [TraceEvent.isNote, receivedIn]

lemma sent_notes (destination : Side) {notes : Trace} (h : ∀ e ∈ notes, e.isNote = true) :
    sent destination notes = [] := by
  refine List.flatMap_eq_nil_iff.mpr fun e he => ?_
  have hnote := h e he
  rcases e with _ | _ | _ | _ | _ | _ <;> simp_all [TraceEvent.isNote, sentIn]

lemma received_quiet (source : Side) {added : Trace} (h : ∀ e ∈ added, e.isQuiet = true) :
    received source added = [] := by
  refine List.flatMap_eq_nil_iff.mpr fun e he => ?_
  have hquiet := h e he
  rcases e with ⟨_, _, _, _ | _ | _ | _, _⟩ | _ | _ | _ | _ | _ <;>
    simp_all [TraceEvent.isQuiet, receivedIn]

lemma sent_quiet (destination : Side) {added : Trace} (h : ∀ e ∈ added, e.isQuiet = true) :
    sent destination added = [] := by
  refine List.flatMap_eq_nil_iff.mpr fun e he => ?_
  have hquiet := h e he
  rcases e with _ | _ | _ | _ | _ | _ <;> simp_all [TraceEvent.isQuiet, sentIn]

end Trace

/-- What the history and the counters say about the direction from `source`. -/
structure Session.Intact (s : Session) (source : Side) : Prop where
  stream : s.trace.received source =
    s.trace.sent source.peer ++ (s.relay.directionFrom source).queue.content
  read : s.relay.metrics.bytesRead source = UInt64.ofNat (s.trace.received source).length
  written : s.relay.metrics.bytesWritten source.peer =
    UInt64.ofNat (s.trace.sent source.peer).length

section Intact

variable {io : SocketIo} {now : ℤ} {s s' : Session} {source : Side}

/-- A step that leaves the queue and the counters alone and transfers nothing. -/
lemma Session.Intact.of_same (h : s.Intact source) {added : Trace}
    (hqueue : (s'.relay.directionFrom source).queue = (s.relay.directionFrom source).queue)
    (hread : s'.relay.metrics.bytesRead = s.relay.metrics.bytesRead)
    (hwritten : s'.relay.metrics.bytesWritten = s.relay.metrics.bytesWritten)
    (htrace : s'.trace = s.trace ++ added) (hrecv : Trace.received source added = [])
    (hsent : Trace.sent source.peer added = []) : s'.Intact source := by
  refine ⟨?_, ?_, ?_⟩
  · simp only [htrace, Trace.received_append, Trace.sent_append, hrecv, hsent, List.append_nil,
      hqueue, h.stream]
  · simp only [hread, htrace, Trace.received_append, hrecv, List.append_nil, h.read]
  · simp only [hwritten, htrace, Trace.sent_append, hsent, List.append_nil, h.written]

/-- A receive appends the same bytes to the received stream and to the queue. -/
lemma Session.Intact.ingested (h : s.Intact source) {side : Side} {span : ℕ} {hint : Bool}
    {bytes : List Byte} {d' : Direction} {notes : Trace}
    (hingest : Ingest side s.relay.state (s.relay.directionFrom side) bytes now d' notes) :
    (s.ingested side span hint bytes now d' notes).Intact source := by
  have hrecv : (s.ingested side span hint bytes now d' notes).trace.received source =
      s.trace.received source ++ if side = source then bytes else [] := by
    simp [Session.ingested, Trace.receivedIn, Trace.received_notes source hingest.isNote]
  have hsent : (s.ingested side span hint bytes now d' notes).trace.sent source.peer =
      s.trace.sent source.peer := by
    simp [Session.ingested, Trace.sentIn, Trace.sent_notes source.peer hingest.isNote]
  by_cases heq : side = source
  · subst heq
    rw [if_pos rfl] at hrecv
    refine ⟨?_, ?_, ?_⟩
    · rw [hrecv, hsent, h.stream, List.append_assoc, Session.ingested_directionFrom_self,
        hingest.content]
    · rw [hrecv, List.length_append, UInt64.ofNat_add]
      simp [Session.ingested, RelayMetrics.countRead, h.read]
    · rw [hsent]
      exact h.written
  · rw [if_neg heq, List.append_nil] at hrecv
    refine ⟨?_, ?_, ?_⟩
    · rw [hrecv, hsent, h.stream, Session.ingested_directionFrom_of_ne _ _ _ _ _ _ _ (Ne.symm heq)]
    · rw [hrecv]
      simp [Session.ingested, RelayMetrics.countRead, Function.update_of_ne (Ne.symm heq), h.read]
    · rw [hsent]
      exact h.written

/-- A send moves bytes from the front of the queue to the end of the sent stream. -/
lemma Session.Intact.egressed (h : s.Intact source) {destination : Side} {budget count : ℕ}
    {d' : Direction} {notes : Trace} (hwritable : s.Writable destination budget now)
    (hcount : count ≤ budget)
    (hegress : Egress destination.peer s.relay.state (s.relay.directionFrom destination.peer) count
      now d' notes) :
    (s.egressed destination budget count now d' notes).Intact source := by
  have hrecv : (s.egressed destination budget count now d' notes).trace.received source =
      s.trace.received source := by
    simp [Session.egressed, Trace.receivedIn, Trace.received_notes source hegress.observed.isNote]
  have hsent : (s.egressed destination budget count now d' notes).trace.sent source.peer =
      s.trace.sent source.peer ++
        if destination = source.peer then (s.offer destination budget).take count else [] := by
    simp [Session.egressed, Trace.sentIn, Trace.sent_notes source.peer hegress.observed.isNote]
  by_cases heq : destination = source.peer
  · subst heq
    rw [if_pos rfl, hwritable.offer_eq, List.take_take, min_eq_left hcount, Side.peer_peer] at hsent
    have hsize := hcount.trans hwritable.budget_le_size
    have hcontent := hegress.content
    rw [Side.peer_peer] at hsize hcontent
    refine ⟨?_, ?_, ?_⟩
    · rw [hrecv, hsent, h.stream]
      simp [Session.egressed, Relay.setDirection, hcontent]
    · rw [hrecv]
      exact h.read
    · rw [hsent, List.length_append, UInt64.ofNat_add, List.length_take, ByteQueue.length_content,
        min_eq_left hsize]
      simp [Session.egressed, RelayMetrics.countWrite, h.written]
  · rw [if_neg heq, List.append_nil] at hsent
    refine ⟨?_, ?_, ?_⟩
    · rw [hrecv, hsent, h.stream,
        Session.egressed_directionFrom_of_ne _ _ _ _ _ _ (Side.ne_peer_comm.mp heq)]
    · rw [hrecv]
      exact h.read
    · rw [hsent]
      simp [Session.egressed, RelayMetrics.countWrite, Function.update_of_ne (Ne.symm heq),
        h.written]

/-- Every move keeps the streams intact. -/
lemma Session.Intact.move (h : s.Intact source) (hmove : Move io now s s') : s'.Intact source := by
  rcases hmove.transfer_or_quiet with ⟨side, span, hint, bytes, d', notes, -, -, hingest, rfl⟩ |
    ⟨destination, budget, count, d', notes, hwritable, hio, hegress, rfl⟩ |
    ⟨destination, budget, result, -, hnothing, rfl⟩ | hquiet
  · exact h.ingested hingest
  · exact h.egressed hwritable (hwritable.count_le hio).2 hegress
  · refine h.of_same (by rw [Session.afterSend_directionFrom]) ?_ ?_ (Session.afterSend_trace ..)
      ?_ ?_
    · cases result <;> rfl
    · cases result <;> rfl
    · simp [Trace.receivedIn]
    · rcases result with count | _ | _ | _
      · exact absurd rfl (hnothing count)
      all_goals simp [Trace.sentIn]
  · obtain ⟨added, htrace, hadded⟩ := hquiet.trace
    exact h.of_same (hquiet.queue source) hquiet.read hquiet.written htrace
      (Trace.received_quiet source hadded) (Trace.sent_quiet source.peer hadded)

lemma Relay.Fresh.intact {config : RelayConfig} {plan : FaultPlan} {upstreamConnecting : Bool}
    {start : ℤ} {r : Relay} (h : r.Fresh config plan upstreamConnecting start) (source : Side) :
    Session.Intact { relay := r } source := by
  refine ⟨?_, ?_, ?_⟩
  · exact ((ByteQueue.content_eq_nil_iff _).mpr (h.direction source).size).symm
  · rw [h.metrics]
    rfl
  · rw [h.metrics]
    rfl

end Intact

/-- **Byte-stream integrity.**  Whatever the calls, the times and the sockets' answers: what was
received is what was accepted followed by what is queued in ring order, so what was accepted is a
prefix of what was received; and the two counters differ by the occupancy, modulo `2 ^ 64`. -/
theorem relay_streams_intact (io : SocketIo) (config : RelayConfig) (hconfig : config.Valid)
    (plan : FaultPlan) (connectionId : UInt64) (upstreamConnecting : Bool) (start : ℤ)
    (calls : List Call) :
    ∃ results s, runRelay io config plan connectionId upstreamConnecting start calls =
        .ok (results, s) ∧
      ∀ source, s.trace.received source =
          s.trace.sent source.peer ++ (s.relay.directionFrom source).queue.content ∧
        s.trace.sent source.peer <+: s.trace.received source ∧
        s.relay.metrics.bytesRead source - s.relay.metrics.bytesWritten source.peer =
          UInt64.ofNat (s.relay.directionFrom source).queue.size := by
  obtain ⟨results, s, hrun, -, hintact⟩ := runRelay_spec io hconfig plan connectionId
    upstreamConnecting start
    (P := fun s => ∀ source, s.Intact source) (fun r hr source => hr.intact source)
    (fun now m m' _ h hmove source => (h source).move hmove) calls
  refine ⟨results, s, hrun, fun source => ⟨(hintact source).stream, ?_, ?_⟩⟩
  · rw [(hintact source).stream]
    exact List.prefix_append _ _
  · rw [(hintact source).read, (hintact source).written, (hintact source).stream,
      List.length_append, ByteQueue.length_content, UInt64.ofNat_add, UInt64.add_comm,
      UInt64.add_sub_cancel]

/-- Two bytes arrive and one token pays for the first: the other is what is queued. -/
theorem relay_streams_intact_scripted :
    ∃ results s, runRelay (.script fun _ => [1, 2, 3]) ⟨2, 0, 2⟩ { rateBytesPerSecond := 1 } 7 false
        0 [.handleReadable .client false 1, .flush .upstream 2, .handleReadable .client false 3] =
        .ok (results, s) ∧
      s.trace.received .client = [1, 2] ∧ s.trace.sent .upstream = [1] ∧
      (s.relay.directionFrom .client).queue.content = [2] := by
  have hcheck : returns (runRelay (.script fun _ => [1, 2, 3]) ⟨2, 0, 2⟩ { rateBytesPerSecond := 1 }
      7 false 0 [.handleReadable .client false 1, .flush .upstream 2,
        .handleReadable .client false 3])
      (fun run => decide (run.2.trace.received .client = [1, 2] ∧
        run.2.trace.sent .upstream = [1])) = true := by
    decide +kernel
  obtain ⟨results, s, hrun, hintact⟩ := relay_streams_intact (.script fun _ => [1, 2, 3]) ⟨2, 0, 2⟩
    (by decide) { rateBytesPerSecond := 1 } 7 false 0
    [.handleReadable .client false 1, .flush .upstream 2, .handleReadable .client false 3]
  have htraffic := of_returns hcheck hrun
  rw [decide_eq_true_eq] at htraffic
  obtain ⟨hreceived, hsent⟩ := htraffic
  have hstream := (hintact .client).1
  rw [Side.peer, hreceived, hsent] at hstream
  exact ⟨results, s, hrun, hreceived, hsent, (List.cons.inj hstream).2.symm⟩

/-! ## No call fails -/

/-- The span given to a `receive` or a `send` has at least one byte. -/
def TraceEvent.SpanNonempty : TraceEvent → Prop
  | .receive _ span _ _ _ => 0 < span
  | .send _ data _ _ => data ≠ []
  | _ => True

lemma TraceEvent.spanNonempty_of_isNote {e : TraceEvent} (h : e.isNote = true) :
    e.SpanNonempty := by
  rcases e with _ | _ | _ | _ | _ | _ <;> simp_all [TraceEvent.isNote, TraceEvent.SpanNonempty]

section SpanNonempty

variable {io : SocketIo} {now : ℤ} {s s' : Session}

/-- A source that is read from has room: it is not paused, so it is below the high-water mark. -/
lemma Session.Readable.span_pos {source : Side} {span : ℕ} (h : s.Readable source span)
    (hinv : s.Inv) : 0 < span := by
  have hroom := (hinv source).running h.running
  have hspan := ByteQueue.length_writableSpan_pos _ (hroom.trans_le (hinv source).high_le)
  rw [h.span_eq]
  omega

lemma Session.Writable.offer_ne_nil {destination : Side} {budget : ℕ}
    (h : s.Writable destination budget now) : s.offer destination budget ≠ [] := by
  have hpos := h.budget_pos
  have hle := h.budget_le_size
  rw [h.offer_eq, ← List.length_pos_iff, List.length_take, ByteQueue.length_content]
  omega

/-- A move offers no empty span. -/
lemma Move.spanNonempty (hmove : Move io now s s') (hinv : s.Inv) :
    ∃ added, s'.trace = s.trace ++ added ∧ ∀ e ∈ added, e.SpanNonempty := by
  cases hmove with
  | receive source span hint bytes d' notes readable answer ingest =>
      refine ⟨_, rfl, fun e he => ?_⟩
      rcases List.mem_cons.mp he with rfl | he
      · exact readable.span_pos hinv
      · exact e.spanNonempty_of_isNote (ingest.isNote e he)
  | receiveNothing source span hint result readable answer nothing =>
      refine ⟨_, Session.afterReceive_trace .., ?_⟩
      simpa [TraceEvent.SpanNonempty] using readable.span_pos hinv
  | endOfStream source span hint result readable answer ended =>
      refine ⟨_, by rw [Session.noteHalfClosedRead_trace, Session.afterReceive_trace,
        List.append_assoc], ?_⟩
      simpa [TraceEvent.SpanNonempty] using readable.span_pos hinv
  | refill source => exact ⟨[], by simp, by simp⟩
  | send destination budget count d' notes writable answer egress =>
      refine ⟨_, rfl, fun e he => ?_⟩
      rcases List.mem_cons.mp he with rfl | he
      · exact writable.offer_ne_nil
      · exact e.spanNonempty_of_isNote (egress.observed.isNote e he)
  | sendNothing destination budget result writable answer nothing =>
      refine ⟨_, Session.afterSend_trace .., ?_⟩
      simpa [TraceEvent.SpanNonempty] using writable.offer_ne_nil
  | injectHalfClose injectable =>
      rcases hok : io.shutdownWrite s.trace .client with _ | _
      · rw [injectable.injectHalfClose_of_failed hok]
        exact ⟨_, rfl, by simp [TraceEvent.SpanNonempty]⟩
      · rw [injectable.injectHalfClose_of_ok hok]
        exact ⟨_, rfl, by simp [TraceEvent.SpanNonempty]⟩
  | injectReset total => exact ⟨_, rfl, by simp [TraceEvent.SpanNonempty]⟩
  | forward destination forwardable =>
      rcases hok : io.shutdownWrite s.trace destination with _ | _
      · rw [Session.forwardHalfClose_of_failed hok]
        exact ⟨_, rfl, by simp [TraceEvent.SpanNonempty]⟩
      · rw [Session.forwardHalfClose_of_ok hok]
        exact ⟨_, rfl, by simp [TraceEvent.SpanNonempty]⟩
  | connect => exact ⟨[], by simp, by simp⟩

end SpanNonempty

/-- **The relay cannot fail internally and always finishes.**  No sequence of calls raises an
exception, underflows the high-water subtraction, reads a missing segment or runs out of a loop's
budget; no socket call is given an empty span; and in every state reached, `handle_readable` makes
at most `high_water - size` successful receives and `flush` at most `size` successful sends. -/
theorem relay_calls_finish (io : SocketIo) (config : RelayConfig) (hconfig : config.Valid)
    (plan : FaultPlan) (connectionId : UInt64) (upstreamConnecting : Bool) (start : ℤ)
    (calls : List Call) :
    ∃ results s, runRelay io config plan connectionId upstreamConnecting start calls =
        .ok (results, s) ∧
      (∀ e ∈ s.trace, e.SpanNonempty) ∧
      (∀ source hangupHint now, ∃ r s' added,
        s.handleReadable io source hangupHint now = .ok (r, s') ∧ s'.trace = s.trace ++ added ∧
        Trace.receives source added ≤ (s.relay.directionFrom source).backpressure.highWaterBytes -
          (s.relay.directionFrom source).queue.size) ∧
      ∀ destination now, ∃ r s' added,
        s.flush io destination now = .ok (r, s') ∧ s'.trace = s.trace ++ added ∧
        Trace.sends destination added ≤ (s.relay.directionFrom destination.peer).queue.size := by
  obtain ⟨results, s, hrun, hinv, hspans⟩ := runRelay_spec io hconfig plan connectionId
    upstreamConnecting start
    (P := fun s => ∀ e ∈ s.trace, e.SpanNonempty) (fun r _ => by simp)
    (fun now m m' hinv h hmove => by
      obtain ⟨added, htrace, hadded⟩ := hmove.spanNonempty hinv
      rw [htrace]
      intro e he
      exact (List.mem_append.mp he).elim (h e) (hadded e)) calls
  refine ⟨results, s, hrun, hspans, ?_, ?_⟩
  · intro source hangupHint now
    obtain ⟨r, s', added, hok, -, htrace, hcount⟩ := handleReadable_spec io now hinv
      source hangupHint
    exact ⟨r, s', added, hok, htrace, hcount⟩
  · intro destination now
    obtain ⟨r, s', added, hok, -, htrace, hcount⟩ := flush_spec io now hinv
      destination
    exact ⟨r, s', added, hok, htrace, hcount⟩

/-- The empty direction has room for two bytes, so one more read makes two receives at most. -/
theorem relay_calls_finish_scripted :
    ∃ results s r s' added, runRelay (.script fun _ => [1, 2, 3]) ⟨2, 0, 2⟩
        { latency := 5, jitter := 5, rateBytesPerSecond := 1 } 7 false 0
        [.handleReadable .upstream true 1, .flush .client 2] = .ok (results, s) ∧
      s.handleReadable (.script fun _ => [1, 2, 3]) .client false 3 = .ok (r, s') ∧
      s'.trace = s.trace ++ added ∧ Trace.receives .client added ≤ 2 := by
  have hcheck : returns (runRelay (.script fun _ => [1, 2, 3]) ⟨2, 0, 2⟩
      { latency := 5, jitter := 5, rateBytesPerSecond := 1 } 7 false 0
      [.handleReadable .upstream true 1, .flush .client 2])
      (fun run => decide ((run.2.relay.directionFrom .client).backpressure.highWaterBytes -
        (run.2.relay.directionFrom .client).queue.size = 2)) = true := by
    decide +kernel
  obtain ⟨results, s, hrun, -, hreads, -⟩ := relay_calls_finish (.script fun _ => [1, 2, 3])
    ⟨2, 0, 2⟩ (by decide) { latency := 5, jitter := 5, rateBytesPerSecond := 1 } 7 false 0
    [.handleReadable .upstream true 1, .flush .client 2]
  have hroom := of_returns hcheck hrun
  rw [decide_eq_true_eq] at hroom
  obtain ⟨r, s', added, hread, htrace, hcount⟩ := hreads .client false 3
  exact ⟨results, s, r, s', added, hrun, hread, htrace, hroom ▸ hcount⟩

end NetFault
