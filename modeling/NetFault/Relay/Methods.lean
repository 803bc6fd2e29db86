import NetFault.Relay.Moves

/-!
# The methods of the relay only make moves

Under the invariant every public method finishes without an exception, and what it does is a
sequence of moves at the time it was given.  The two loops come with the number of successful
transfers they can make: `handle_readable` at most as many as there is room below the high-water
mark, `flush` at most as many as bytes are queued.

The rest of the module is about runs.  `Relay.create_spec` is the initial state, and `execAll_spec`
and `runRelay_spec` say that every sequence of calls returns and keeps what every move keeps;
`TimedInvariant.execAll` is the same for properties that depend on the time of the moves.
-/

namespace NetFault

/-! ## The methods only make moves -/

namespace Trace

/-- The successful receives on `source`. -/
def receives (source : Side) (trace : Trace) : ℕ :=
  trace.countP fun
    | .receive side _ _ (.transferred _) _ => side = source
    | _ => false

/-- The successful sends to `destination`. -/
def sends (destination : Side) (trace : Trace) : ℕ :=
  trace.countP fun
    | .send side _ (.transferred _) _ => side = destination
    | _ => false

lemma receives_append (source : Side) (a b : Trace) :
    receives source (a ++ b) = receives source a + receives source b := List.countP_append

lemma sends_append (destination : Side) (a b : Trace) :
    sends destination (a ++ b) = sends destination a + sends destination b := List.countP_append

lemma receives_notes (source : Side) {notes : Trace} (h : ∀ e ∈ notes, e.isNote = true) :
    receives source notes = 0 := by
  refine List.countP_eq_zero.mpr fun e he => ?_
  have hnote := h e he
  rcases e with _ | _ | _ | _ | _ | _ <;> simp_all [TraceEvent.isNote]

lemma sends_notes (destination : Side) {notes : Trace} (h : ∀ e ∈ notes, e.isNote = true) :
    sends destination notes = 0 := by
  refine List.countP_eq_zero.mpr fun e he => ?_
  have hnote := h e he
  rcases e with _ | _ | _ | _ | _ | _ <;> simp_all [TraceEvent.isNote]

end Trace

/-- Bytes that may still be read from `source` before its reads pause. -/
def Session.room (s : Session) (source : Side) : ℕ :=
  (s.relay.directionFrom source).backpressure.highWaterBytes -
    (s.relay.directionFrom source).queue.size

section Methods

variable {io : SocketIo} {now : ℤ} {s : Session}

/-- One trip of `handle_readable` on a side that may be read from: a receive is made. -/
lemma handleReadableBody_eq (hinv : s.Inv) {source : Side} (hangupHint : Bool) {span : ℕ}
    (hread : s.Readable source span) :
    s.handleReadableBody io source hangupHint now =
      match io.receive s.trace source span with
      | .transferred bytes =>
          ((s.record (.receive source span hangupHint (.transferred bytes) now)).commitReceived
            source bytes now).map .again
      | .peerClosed error => .ok (.exit .proceed
          ((s.afterReceive source span hangupHint (.peerClosed error) now).noteHalfClosedRead
            source))
      | .wouldBlock => .ok (.exit .proceed
          (if hangupHint then
            (s.afterReceive source span hangupHint .wouldBlock now).noteHalfClosedRead source
            else s.afterReceive source span hangupHint .wouldBlock now))
      | .error error => .ok (.exit (closeForError error .read)
          (s.afterReceive source span hangupHint (.error error) now)) := by
  have hlt := (hinv source).running hread.running
  simp only [Session.handleReadableBody, hread.readOpen, hread.running, Bool.not_false,
    Bool.and_self, if_true, if_neg (not_lt.mpr hlt.le), ← hread.span_eq]
  rcases io.receive s.trace source span with _ | _ | _ | _ <;> rfl

/-- The bookkeeping of a permissible receive succeeds: the bytes fit the span. -/
lemma Session.Readable.commitReceived {source : Side} {span : ℕ} {bytes : List Byte}
    (h : s.Readable source span) (hinv : s.Inv) (hint : Bool)
    (hio : io.receive s.trace source span = .transferred bytes) :
    ∃ d' notes, (s.record (.receive source span hint (.transferred bytes) now)).commitReceived
        source bytes now = .ok (s.ingested source span hint bytes now d' notes) ∧
      Ingest source s.relay.state (s.relay.directionFrom source) bytes now d' notes := by
  obtain ⟨-, hle⟩ := io.receive_transferred _ _ _ _ hio
  rw [h.span_eq] at hle
  obtain ⟨d', notes, hok, hingest⟩ := commitReceived_spec
    (s := s.record (.receive source span hint (.transferred bytes) now)) source bytes now
    (hinv source) (hle.trans (min_le_left _ _))
  refine ⟨d', notes, ?_, hingest⟩
  rw [hok]
  simp [Session.record, Session.ingested]

/-- One trip of `handle_readable`: it takes bytes in, or it leaves the loop. -/
lemma handleReadableBody_spec (io : SocketIo) (now : ℤ) (hinv : s.Inv) (source : Side)
    (hangupHint : Bool) :
    (∃ s' added, s.handleReadableBody io source hangupHint now = .ok (.again s') ∧
        Move io now s s' ∧ s'.trace = s.trace ++ added ∧ Trace.receives source added = 1 ∧
        s'.room source < s.room source) ∨
      ∃ r s' added, s.handleReadableBody io source hangupHint now = .ok (.exit r s') ∧
        Moves io now s s' ∧ s'.trace = s.trace ++ added ∧ Trace.receives source added = 0 := by
  by_cases hguard : (s.relay.readOpen source &&
      !(s.relay.directionFrom source).backpressure.readPaused) = true
  swap
  · exact .inr ⟨.proceed, s, [], by
      simp only [Session.handleReadableBody, hguard, Bool.false_eq_true, if_false], .refl,
      by simp, rfl⟩
  obtain ⟨hopen, hrunning⟩ : s.relay.readOpen source = true ∧
      (s.relay.directionFrom source).backpressure.readPaused = false := by simpa using hguard
  obtain ⟨span, hread⟩ : ∃ span, s.Readable source span := ⟨_, hopen, hrunning, rfl⟩
  rw [handleReadableBody_eq hinv hangupHint hread]
  rcases hio : io.receive s.trace source span with bytes | _ | error | error
  · obtain ⟨hpos, -⟩ := io.receive_transferred _ _ _ _ hio
    obtain ⟨d', notes, hok, hingest⟩ := hread.commitReceived hinv hangupHint hio
    refine .inl ⟨s.ingested source span hangupHint bytes now d' notes,
      .receive source span hangupHint (.transferred bytes) now :: notes,
      by simp only [hok, Except.map],
      .receive source span hangupHint bytes d' notes hread hio hingest, rfl, ?_, ?_⟩
    · have := Trace.receives_notes source hingest.isNote
      simp only [Trace.receives] at this ⊢
      simp [this]
    · -- the queue has grown below the same high-water mark
      obtain ⟨-, -, hhigh⟩ := hingest.tracker
      have hsize := hingest.size
      have hlt := (hinv source).running hrunning
      rw [Session.room, Session.room, Session.ingested_directionFrom_self]
      omega
  · rcases hangupHint with _ | _
    · exact .inr ⟨.proceed, s.afterReceive source span false .wouldBlock now, _, rfl,
        .single (.receiveNothing source span false .wouldBlock hread hio (.inl ⟨rfl, rfl⟩)),
        Session.afterReceive_trace .., by simp [Trace.receives]⟩
    · exact .inr ⟨.proceed,
        (s.afterReceive source span true .wouldBlock now).noteHalfClosedRead source, _, rfl,
        .single (.endOfStream source span true .wouldBlock hread hio (.inl ⟨rfl, rfl⟩)),
        by rw [Session.noteHalfClosedRead_trace, Session.afterReceive_trace, List.append_assoc],
        by simp [Trace.receives]⟩
  · exact .inr ⟨.proceed, _, _, rfl,
      .single (.endOfStream source span hangupHint (.peerClosed error) hread hio
        (.inr ⟨error, rfl⟩)),
      by rw [Session.noteHalfClosedRead_trace, Session.afterReceive_trace, List.append_assoc],
      by simp [Trace.receives]⟩
  · exact .inr ⟨_, _, _, rfl,
      .single (.receiveNothing source span hangupHint (.error error) hread hio
        (.inr ⟨error, rfl⟩)),
      Session.afterReceive_trace .., by simp [Trace.receives]⟩

/-- **`handle_readable` finishes.**  It raises nothing, it only makes moves, and it makes at most
as many successful receives as there is room below the high-water mark. -/
lemma handleReadable_spec (io : SocketIo) (now : ℤ) (hinv : s.Inv) (source : Side)
    (hangupHint : Bool) :
    ∃ r s' added, s.handleReadable io source hangupHint now = .ok (r, s') ∧ Moves io now s s' ∧
      s'.trace = s.trace ++ added ∧ Trace.receives source added ≤ s.room source := by
  obtain ⟨r, s', hrun, added, hmoves, htrace, hcount⟩ := Loop.run_spec
    (Session.handleReadableBody io source hangupHint now) Fault.endlessLoop
    (fun m => Moves io now s m ∧ ∃ added, m.trace = s.trace ++ added ∧
      Trace.receives source added + m.room source ≤ s.room source)
    (fun _ m => ∃ added, Moves io now s m ∧ m.trace = s.trace ++ added ∧
      Trace.receives source added ≤ s.room source)
    (fun m => m.room source)
    (by
      rintro m ⟨hmoves, added, htrace, hcount⟩
      rcases handleReadableBody_spec io now (hmoves.inv hinv) source hangupHint with
        ⟨m', added', hbody, hmove, htrace', hone, hless⟩ |
        ⟨r, m', added', hbody, hmoves', htrace', hzero⟩
      · refine .inl ⟨m', hbody, ⟨hmoves.tail hmove, added ++ added', by simp [htrace', htrace], ?_⟩,
          hless⟩
        rw [Trace.receives_append]
        omega
      · refine .inr ⟨r, m', hbody, added ++ added', hmoves.trans hmoves',
          by simp [htrace', htrace], ?_⟩
        rw [Trace.receives_append]
        omega)
    (s.room source + 1) s ⟨.refl, [], by simp, by simp [Trace.receives]⟩ (Nat.lt_succ_self _)
  exact ⟨r, s', added, hrun, hmoves, htrace, hcount⟩

/-- One trip of `flush` over a queue with bytes in it: the budget is asked for, which refills the
bucket, and if there is one, a send is made. -/
lemma flushBody_eq (destination : Side)
    (hsize : 0 < (s.relay.directionFrom destination.peer).queue.size) {budget : ℕ}
    (hbudget : budget = (faultSendable (s.relay.directionFrom destination.peer)
      (s.relay.directionFrom destination.peer).queue.readableSpan.length now).1)
    {mid : Session} (hmid : mid = s.refilled destination.peer now) :
    s.flushBody io destination now =
      if budget = 0 then .ok (.exit none mid)
      else match io.send mid.trace destination (mid.offer destination budget) with
      | .transferred count =>
          ((mid.record (.send destination (mid.offer destination budget) (.transferred count)
            now)).commitSent destination budget count now).map .again
      | .wouldBlock => .ok (.exit none
          (mid.afterSend destination (mid.offer destination budget) .wouldBlock now))
      | .peerClosed error => .ok (.exit (some (closeForError error .write))
          (mid.afterSend destination (mid.offer destination budget) (.peerClosed error) now))
      | .error error => .ok (.exit (some (closeForError error .write))
          (mid.afterSend destination (mid.offer destination budget) (.error error) now)) := by
  have hempty : (s.relay.directionFrom destination.peer).queue.empty = false := by simpa using hsize
  have hoffer : mid.offer destination budget =
      (s.relay.directionFrom destination.peer).queue.readableSpan.take budget := by
    rw [hmid, Session.offer, Session.refilled_directionFrom_self]
    rfl
  rw [hoffer]
  simp only [Session.flushBody, hempty, Bool.false_eq_true, if_false, faultSendable_snd, ← hbudget]
  subst hmid
  split_ifs
  · rfl
  · simp only [Session.refilled]
    rcases io.send s.trace destination
      ((s.relay.directionFrom destination.peer).queue.readableSpan.take budget) with
      _ | _ | _ | _ <;> rfl

/-- The budget of a trip of `flush` makes the send that follows permissible. -/
lemma writable_of_budget {destination : Side} (hopen : s.relay.writeOpen destination = true)
    (hconn : destination = .upstream → s.relay.upstreamConnecting = false) {budget : ℕ}
    (hbudget : budget = (faultSendable (s.relay.directionFrom destination.peer)
      (s.relay.directionFrom destination.peer).queue.readableSpan.length now).1)
    (hpos : 0 < budget) :
    (s.refilled destination.peer now).Writable destination budget now := by
  refine ⟨hopen, hconn, hpos, ?_, ?_, ?_⟩
  · rw [Session.refilled_directionFrom_self, hbudget]
    exact faultSendable_le _ _ now
  · intro channel line hc hl
    rw [Session.refilled_directionFrom_self] at hc
    obtain ⟨c, hc', rfl⟩ := Option.map_eq_some_iff.mp hc
    rw [hbudget]
    exact faultSendable_le_releasable hc' hl _ now
  · intro channel b hc hb
    rw [Session.refilled_directionFrom_self] at hc
    obtain ⟨c, hc', rfl⟩ := Option.map_eq_some_iff.mp hc
    obtain ⟨b', hb', rfl⟩ := Option.map_eq_some_iff.mp hb
    refine ⟨hbudget ▸ faultSendable_le_tokens hc' hb' _ now, ?_⟩
    rw [TokenBucket.refill_lastRefill]
    exact le_max_right _ _

/-- The bookkeeping of a permissible send succeeds. -/
lemma Session.Writable.commitSent {destination : Side} {budget count : ℕ}
    (h : s.Writable destination budget now) (hinv : s.Inv)
    (hio : io.send s.trace destination (s.offer destination budget) = .transferred count) :
    ∃ d' notes, (s.record (.send destination (s.offer destination budget) (.transferred count)
        now)).commitSent destination budget count now =
        .ok (s.egressed destination budget count now d' notes) ∧
      Egress destination.peer s.relay.state (s.relay.directionFrom destination.peer) count now d'
        notes := by
  obtain ⟨-, hcount⟩ := h.count_le hio
  obtain ⟨d', notes, hok, hegress⟩ := commitSent_spec
    (s := s.record (.send destination (s.offer destination budget) (.transferred count) now))
    destination budget now (hinv destination.peer) (hcount.trans h.budget_le_size)
    (fun channel b hc hb => hcount.trans (h.paid channel b hc hb).1)
  refine ⟨d', notes, ?_, hegress⟩
  rw [hok]
  simp [Session.record, Session.egressed]

/-- One trip of `flush` in a state whose destination is open: it gets bytes accepted, or it
leaves the loop. -/
lemma flushBody_spec (io : SocketIo) (now : ℤ) (hinv : s.Inv) (destination : Side)
    (hopen : s.relay.writeOpen destination = true)
    (hconn : destination = .upstream → s.relay.upstreamConnecting = false) :
    (∃ s' added, s.flushBody io destination now = .ok (.again s') ∧ Moves io now s s' ∧
        s'.trace = s.trace ++ added ∧ Trace.sends destination added = 1 ∧
        s'.relay.writeOpen destination = true ∧
        s'.relay.upstreamConnecting = s.relay.upstreamConnecting ∧
        (s'.relay.directionFrom destination.peer).queue.size <
          (s.relay.directionFrom destination.peer).queue.size) ∨
      ∃ r s' added, s.flushBody io destination now = .ok (.exit r s') ∧ Moves io now s s' ∧
        s'.trace = s.trace ++ added ∧ Trace.sends destination added = 0 := by
  rcases Nat.eq_zero_or_pos (s.relay.directionFrom destination.peer).queue.size with hempty | hsize
  · exact .inr ⟨none, s, [], by
      simp only [Session.flushBody, (ByteQueue.empty_iff _).mpr hempty, if_true], .refl, by simp,
      rfl⟩
  obtain ⟨budget, hbudget⟩ : ∃ budget, budget = (faultSendable
    (s.relay.directionFrom destination.peer)
    (s.relay.directionFrom destination.peer).queue.readableSpan.length now).1 := ⟨_, rfl⟩
  obtain ⟨mid, hmid⟩ : ∃ mid, mid = s.refilled destination.peer now := ⟨_, rfl⟩
  have hrefill : Move io now s mid := hmid ▸ .refill destination.peer
  have htrace : mid.trace = s.trace := by rw [hmid, Session.refilled_trace]
  have hqueue : (mid.relay.directionFrom destination.peer).queue =
      (s.relay.directionFrom destination.peer).queue := by
    rw [hmid, Session.refilled_directionFrom_self]
    rfl
  rw [flushBody_eq destination hsize hbudget hmid]
  by_cases hzero : budget = 0
  · exact .inr ⟨none, mid, [], if_pos hzero, .single hrefill, by simp [htrace], rfl⟩
  rw [if_neg hzero]
  have hwrite : mid.Writable destination budget now :=
    hmid ▸ writable_of_budget hopen hconn hbudget (Nat.pos_of_ne_zero hzero)
  rcases hio : io.send mid.trace destination (mid.offer destination budget) with
    count | _ | error | error
  · obtain ⟨hpos, hcount⟩ := hwrite.count_le hio
    obtain ⟨d', notes, hok, hegress⟩ := hwrite.commitSent (hrefill.inv hinv) hio
    refine .inl ⟨mid.egressed destination budget count now d' notes,
      .send destination (mid.offer destination budget) (.transferred count) now :: notes,
      by simp only [hok, Except.map],
      .tail (.single hrefill) (.send destination budget count d' notes hwrite hio hegress),
      by rw [← htrace]; rfl, ?_, hwrite.writeOpen, by rw [hmid]; rfl, ?_⟩
    · have := Trace.sends_notes destination hegress.observed.isNote
      simp only [Trace.sends] at this ⊢
      simp [this]
    · have hsize' := hegress.size
      rw [hqueue] at hsize'
      rw [Session.egressed_directionFrom_self]
      omega
  · exact .inr ⟨none, _, _, rfl,
      .tail (.single hrefill) (.sendNothing destination budget .wouldBlock hwrite hio (by simp)),
      by rw [Session.afterSend_trace, htrace], by simp [Trace.sends]⟩
  · exact .inr ⟨_, _, _, rfl,
      .tail (.single hrefill)
        (.sendNothing destination budget (.peerClosed error) hwrite hio (by simp)),
      by rw [Session.afterSend_trace, htrace], by simp [Trace.sends]⟩
  · exact .inr ⟨_, _, _, rfl,
      .tail (.single hrefill) (.sendNothing destination budget (.error error) hwrite hio (by simp)),
      by rw [Session.afterSend_trace, htrace], by simp [Trace.sends]⟩

/-- The loop of `flush` ends, with at most one successful send for each queued byte. -/
lemma flushLoop_spec (io : SocketIo) (now : ℤ) (hinv : s.Inv) (destination : Side)
    (hopen : s.relay.writeOpen destination = true)
    (hconn : destination = .upstream → s.relay.upstreamConnecting = false) {trips : ℕ}
    (htrips : (s.relay.directionFrom destination.peer).queue.size < trips) :
    ∃ r s' added, Loop.run (Session.flushBody io destination now) Fault.endlessLoop trips s =
        .ok (r, s') ∧
      Moves io now s s' ∧ s'.trace = s.trace ++ added ∧
      Trace.sends destination added ≤ (s.relay.directionFrom destination.peer).queue.size := by
  obtain ⟨r, s', hrun, added, hmoves, htrace, hcount⟩ := Loop.run_spec
    (Session.flushBody io destination now) Fault.endlessLoop
    (fun m => Moves io now s m ∧ m.relay.writeOpen destination = true ∧
      (destination = .upstream → m.relay.upstreamConnecting = false) ∧
      ∃ added, m.trace = s.trace ++ added ∧
        Trace.sends destination added + (m.relay.directionFrom destination.peer).queue.size ≤
          (s.relay.directionFrom destination.peer).queue.size)
    (fun _ m => ∃ added, Moves io now s m ∧ m.trace = s.trace ++ added ∧
      Trace.sends destination added ≤ (s.relay.directionFrom destination.peer).queue.size)
    (fun m => (m.relay.directionFrom destination.peer).queue.size)
    (by
      rintro m ⟨hmoves, hopen, hconn, added, htrace, hcount⟩
      rcases flushBody_spec io now (hmoves.inv hinv) destination hopen hconn with
        ⟨m', added', hbody, hmoves', htrace', hone, hopen', hconn', hless⟩ |
        ⟨r, m', added', hbody, hmoves', htrace', hzero⟩
      · refine .inl ⟨m', hbody, ⟨hmoves.trans hmoves', hopen', hconn' ▸ hconn, added ++ added',
          by simp [htrace', htrace], ?_⟩, hless⟩
        rw [Trace.sends_append]
        omega
      · refine .inr ⟨r, m', hbody, added ++ added', hmoves.trans hmoves',
          by simp [htrace', htrace], ?_⟩
        rw [Trace.sends_append]
        omega)
    trips s ⟨.refl, hopen, hconn, [], by simp, by simp [Trace.sends]⟩ htrips
  exact ⟨r, s', added, hrun, hmoves, htrace, hcount⟩

/-- The injected half-close is a move or nothing, and sends nothing. -/
lemma injectHalfClose_spec (io : SocketIo) (now : ℤ) (s : Session) (destination : Side) :
    ∃ added, Moves io now s (s.injectHalfClose io) ∧
      (s.injectHalfClose io).trace = s.trace ++ added ∧
      Trace.sends destination added = 0 := by
  by_cases hguard : (decide (s.relay.halfCloseAfterBytes > 0) && !s.relay.halfCloseInjected &&
      s.relay.writeOpen .client &&
      decide (s.relay.metrics.bytesWritten .client ≥ s.relay.halfCloseAfterBytes)) = true
  swap
  · have heq : s.injectHalfClose io = s := if_neg hguard
    exact ⟨[], by rw [heq]; exact .refl, by simp [heq], rfl⟩
  have hinj : s.Injectable := by
    simp only [Bool.and_eq_true, decide_eq_true_eq, Bool.not_eq_true'] at hguard
    exact ⟨hguard.1.1.1, hguard.1.1.2, hguard.1.2, hguard.2⟩
  have hmove : Moves io now s (s.injectHalfClose io) := .single (.injectHalfClose hinj)
  rcases hok : io.shutdownWrite s.trace .client with _ | _
  · rw [hinj.injectHalfClose_of_failed hok] at hmove ⊢
    exact ⟨_, hmove, rfl, by simp [Trace.sends]⟩
  · rw [hinj.injectHalfClose_of_ok hok] at hmove ⊢
    exact ⟨_, hmove, rfl, by simp [Trace.sends]⟩

lemma checkLifecycleFaults_spec (io : SocketIo) (now : ℤ) (s : Session) (destination : Side) :
    ∃ added, Moves io now s (s.checkLifecycleFaults io).2 ∧
      (s.checkLifecycleFaults io).2.trace = s.trace ++ added ∧
      Trace.sends destination added = 0 := by
  obtain ⟨added, hmoves, htrace, hzero⟩ := injectHalfClose_spec io now s destination
  simp only [Session.checkLifecycleFaults]
  split_ifs
  · refine ⟨added ++ [.observed (.resetInjected (s.relay.metrics.bytesWritten .client +
      s.relay.metrics.bytesWritten .upstream)) (s.injectHalfClose io).relay.state],
      hmoves.tail (.injectReset _), ?_, ?_⟩
    · rw [← List.append_assoc, ← htrace]
      rfl
    · rw [Trace.sends_append, hzero]
      simp [Trace.sends]
  · exact ⟨added, hmoves, htrace, hzero⟩

/-- **`flush` finishes.**  It raises nothing, it only makes moves, and it makes at most as many
successful sends as there are queued bytes. -/
lemma flush_spec (io : SocketIo) (now : ℤ) (hinv : s.Inv) (destination : Side) :
    ∃ r s' added, s.flush io destination now = .ok (r, s') ∧ Moves io now s s' ∧
      s'.trace = s.trace ++ added ∧
      Trace.sends destination added ≤ (s.relay.directionFrom destination.peer).queue.size := by
  by_cases hguard : (!s.relay.writeOpen destination ||
      (decide (destination = .upstream) && s.relay.upstreamConnecting)) = true
  · exact ⟨.proceed, s, [], if_pos hguard, .refl, by simp, Nat.zero_le _⟩
  have hopen : s.relay.writeOpen destination = true ∧
      (destination = .upstream → s.relay.upstreamConnecting = false) := by
    simpa using hguard
  obtain ⟨r, mid, added, hrun, hmoves, htrace, hcount⟩ :=
    flushLoop_spec io now hinv destination hopen.1 hopen.2 (Nat.lt_succ_self _)
  rw [Session.flush, if_neg hguard, hrun]
  rcases r with _ | r
  · obtain ⟨added', hmoves', htrace', hzero⟩ := checkLifecycleFaults_spec io now mid
      destination
    refine ⟨(mid.checkLifecycleFaults io).1, (mid.checkLifecycleFaults io).2, added ++ added', rfl,
      hmoves.trans hmoves', by rw [htrace', htrace, List.append_assoc], ?_⟩
    rw [Trace.sends_append]
    omega
  · exact ⟨r, mid, added, rfl, hmoves, htrace, hcount⟩

/-- **`propagate_half_closes`** passes on what may be passed on, first to upstream, then to the
client. -/
lemma propagateHalfCloses_cases (io : SocketIo) (s : Session) :
    ∃ mid : Session, (s.Forwardable .upstream ∧ mid = s.forwardHalfClose io .upstream ∨
        ¬s.Forwardable .upstream ∧ mid = s) ∧
      (mid.Forwardable .client ∧ s.propagateHalfCloses io = mid.forwardHalfClose io .client ∨
        ¬mid.Forwardable .client ∧ s.propagateHalfCloses io = mid) := by
  have hupstream : (!s.relay.readOpen .client && (s.relay.directionFrom .client).queue.empty &&
      s.relay.writeOpen .upstream && !s.relay.upstreamConnecting) = true ↔
      s.Forwardable .upstream := by
    simp only [Bool.and_eq_true, Bool.not_eq_true', ByteQueue.empty_iff]
    exact ⟨fun h => ⟨h.1.1.1, h.1.1.2, h.1.2, fun _ => h.2⟩,
      fun h => ⟨⟨⟨h.ended, h.drained⟩, h.writeOpen⟩, h.connected rfl⟩⟩
  have hclient : ∀ m : Session, (!m.relay.readOpen .upstream &&
      (m.relay.directionFrom .upstream).queue.empty && m.relay.writeOpen .client) = true ↔
      m.Forwardable .client := by
    intro m
    simp only [Bool.and_eq_true, Bool.not_eq_true', ByteQueue.empty_iff]
    exact ⟨fun h => ⟨h.1.1, h.1.2, h.2, by simp⟩, fun h => ⟨⟨h.ended, h.drained⟩, h.writeOpen⟩⟩
  have hblock : ∀ m : Session, m.Forwardable .client ∧
      (if !m.relay.readOpen .upstream && (m.relay.directionFrom .upstream).queue.empty &&
        m.relay.writeOpen .client then m.forwardHalfClose io .client else m) =
        m.forwardHalfClose io .client ∨
      ¬m.Forwardable .client ∧ (if !m.relay.readOpen .upstream &&
        (m.relay.directionFrom .upstream).queue.empty && m.relay.writeOpen .client then
          m.forwardHalfClose io .client else m) = m := by
    intro m
    by_cases h : m.Forwardable .client
    · exact .inl ⟨h, if_pos ((hclient m).mpr h)⟩
    · exact .inr ⟨h, if_neg (mt (hclient m).mp h)⟩
  rw [Session.propagateHalfCloses]
  by_cases h : s.Forwardable .upstream
  · rw [if_pos (hupstream.mpr h)]
    exact ⟨_, .inl ⟨h, rfl⟩, hblock _⟩
  · rw [if_neg (mt hupstream.mp h)]
    exact ⟨s, .inr ⟨h, rfl⟩, hblock s⟩

lemma propagateHalfCloses_moves : Moves io now s (s.propagateHalfCloses io) := by
  obtain ⟨mid, hfirst, hsecond⟩ := propagateHalfCloses_cases io s
  have hmid : Moves io now s mid := by
    rcases hfirst with ⟨h, rfl⟩ | ⟨-, rfl⟩
    · exact .single (.forward .upstream h)
    · exact .refl
  rcases hsecond with ⟨h, heq⟩ | ⟨-, heq⟩ <;> rw [heq]
  · exact hmid.tail (.forward .client h)
  · exact hmid

end Methods

/-! ## The queries only refill -/

section Queries

variable {r r' r'' : Relay} {now : ℤ}

/-- `desired_interest` of a connected side, and of the client. -/
lemma desiredInterest_eq {side : Side}
    (hconn : side = .upstream → r.upstreamConnecting = false) :
    r.desiredInterest side now =
      ({ read := r.readOpen side && !(r.directionFrom side).backpressure.readPaused
         write := r.writeOpen side && !(r.directionFrom side.peer).queue.empty && decide
          (0 < (faultSendable (r.directionFrom side.peer) (r.directionFrom side.peer).queue.size
            now).1) },
        if r.writeOpen side && !(r.directionFrom side.peer).queue.empty then
          r.setDirection side.peer ((r.directionFrom side.peer).refill now) else r) := by
  have hguard : (decide (side = .upstream) && r.upstreamConnecting) = false := by simpa using hconn
  simp only [Relay.desiredInterest, hguard, Bool.false_eq_true, if_false, faultSendable_snd]
  rcases r.writeOpen side && !(r.directionFrom side.peer).queue.empty with _ | _ <;> simp

/-- `desired_interest` of the upstream side while it connects. -/
lemma desiredInterest_connecting (h : r.upstreamConnecting = true) :
    r.desiredInterest .upstream now = ({ read := false, write := true }, r) := by
  simp [Relay.desiredInterest, h]

/-- The wake time of a channel that lets nothing out of a queue of `size` bytes. -/
def FaultChannel.wake (channel : FaultChannel) (size : ℕ) (now : ℤ) : Option ℤ :=
  let releasable := match channel.delay with
    | some line => line.releasable now
    | none => size
  let wake := match channel.delay with
    | some line => if releasable = 0 then line.nextEligible now else none
    | none => none
  match channel.bucket with
  | none => wake
  | some bucket =>
      if releasable > 0 then
        earlier wake (some (bucket.eligibleAt (releaseQuantum releasable bucket.burst) now).1)
      else wake

/-- `next_wake` of a direction with queued bytes and a channel.  The second refill, in
`eligible_at`, is at the same time as the first and does nothing. -/
lemma nextWake_eq {destination : Side} (hopen : r.writeOpen destination = true)
    (hconn : destination = .upstream → r.upstreamConnecting = false)
    (hsize : 0 < (r.directionFrom destination.peer).queue.size) {channel : FaultChannel}
    (hf : (r.directionFrom destination.peer).fault = some channel) :
    r.nextWake destination now =
      (if 0 < (faultSendable (r.directionFrom destination.peer)
          (r.directionFrom destination.peer).queue.size now).1 then none
        else (channel.refill now).wake (r.directionFrom destination.peer).queue.size now,
        r.setDirection destination.peer ((r.directionFrom destination.peer).refill now)) := by
  have hguard : (decide (destination = .upstream) && r.upstreamConnecting) = false := by
    simpa using hconn
  have hempty : (r.directionFrom destination.peer).queue.empty = false := by simpa using hsize
  have hrefill : ((r.directionFrom destination.peer).refill now).fault =
      some (channel.refill now) := by simp [Direction.refill, hf]
  have hqueue : ((r.directionFrom destination.peer).refill now).queue =
      (r.directionFrom destination.peer).queue := rfl
  simp only [Relay.nextWake, hopen, hguard, hempty, hf, Option.isNone_some, Bool.not_true,
    Bool.or_self, Bool.false_eq_true, if_false, faultSendable_snd, hrefill, hqueue,
    FaultChannel.wake]
  by_cases hsend : 0 < (faultSendable (r.directionFrom destination.peer)
      (r.directionFrom destination.peer).queue.size now).1
  · rw [if_pos hsend, if_pos hsend]
  rw [if_neg hsend, if_neg hsend]
  rcases hb : channel.bucket with _ | bucket
  · obtain ⟨delay, bucket⟩ := channel
    obtain rfl : bucket = none := hb
    rfl
  · have htwice : (r.setDirection destination.peer
        ((r.directionFrom destination.peer).refill now)).setDirection destination.peer
        { (r.directionFrom destination.peer).refill now with
          queue := (r.directionFrom destination.peer).queue
          fault := some { channel with bucket := some (bucket.refill now) } } =
        r.setDirection destination.peer ((r.directionFrom destination.peer).refill now) := by
      simp [Relay.setDirection, Direction.refill, FaultChannel.refill, hf, hb]
    simp only [FaultChannel.refill, hb, Option.map_some, TokenBucket.eligibleAt_snd,
      TokenBucket.refill_refill, htwice]
    exact (apply_ite (fun wake => (wake, r.setDirection _ _)) ..).symm

lemma FaultChannel.refill_refill (channel : FaultChannel) (now : ℤ) :
    (channel.refill now).refill now = channel.refill now := by
  rcases hb : channel.bucket with _ | b <;> simp [FaultChannel.refill, hb]

lemma Direction.refill_refill (d : Direction) (now : ℤ) :
    (d.refill now).refill now = d.refill now := by
  rcases hf : d.fault with _ | channel <;> simp [Direction.refill, hf, FaultChannel.refill_refill]

/-- `r'` is `r` with some of its buckets refilled up to `now`. -/
structure Refills (now : ℤ) (r r' : Relay) : Prop where
  rest : r' = { r with directionFrom := r'.directionFrom }
  direction : ∀ source, r'.directionFrom source = r.directionFrom source ∨
    r'.directionFrom source = (r.directionFrom source).refill now

lemma Refills.refl (r : Relay) : Refills now r r := ⟨rfl, fun _ => .inl rfl⟩

lemma Refills.trans (h : Refills now r r') (h' : Refills now r' r'') : Refills now r r'' := by
  refine ⟨by rw [h'.rest, h.rest], fun source => ?_⟩
  rcases h'.direction source with heq' | heq' <;> rcases h.direction source with heq | heq <;>
    rw [heq', heq]
  · exact .inl rfl
  · exact .inr rfl
  · exact .inr rfl
  · exact .inr (Direction.refill_refill _ now)

lemma Refills.setDirection (r : Relay) (source : Side) :
    Refills now r (r.setDirection source ((r.directionFrom source).refill now)) := by
  refine ⟨rfl, fun source' => ?_⟩
  by_cases heq : source' = source
  · subst heq
    exact .inr (Function.update_self ..)
  · exact .inl (Function.update_of_ne heq ..)

/-- Refills are moves. -/
lemma Refills.moves {io : SocketIo} {s : Session} (h : Refills now s.relay r) :
    Moves io now s { s with relay := r } := by
  have heq : ∀ r' : Relay, r'.directionFrom .client = r.directionFrom .client →
      r'.directionFrom .upstream = r.directionFrom .upstream →
      r' = { s.relay with directionFrom := r'.directionFrom } → r' = r := by
    intro r' hclient hupstream hrest
    have hdir : r'.directionFrom = r.directionFrom := by
      funext source
      cases source
      · exact hclient
      · exact hupstream
    rw [hrest, h.rest, hdir]
  rcases h.direction .client with hc | hc <;> rcases h.direction .upstream with hu | hu
  · rw [← heq s.relay hc.symm hu.symm rfl]
    exact .refl
  · rw [← heq (s.refilled .upstream now).relay
      (by rw [s.refilled_directionFrom_of_ne now (by decide), hc])
      (by rw [Session.refilled_directionFrom_self, hu]) rfl]
    exact .single (.refill .upstream)
  · rw [← heq (s.refilled .client now).relay (by rw [Session.refilled_directionFrom_self, hc])
      (by rw [s.refilled_directionFrom_of_ne now (by decide), hu]) rfl]
    exact .single (.refill .client)
  · rw [← heq ((s.refilled .client now).refilled .upstream now).relay
      (by simp [Session.refilled, Relay.setDirection, hc])
      (by simp [Session.refilled, Relay.setDirection, hu]) rfl]
    exact .tail (.single (.refill .client)) (.refill .upstream)

lemma desiredInterest_refills (r : Relay) (side : Side) (now : ℤ) :
    Refills now r (r.desiredInterest side now).2 := by
  by_cases hconn : side = .upstream → r.upstreamConnecting = false
  · rw [desiredInterest_eq hconn]
    split_ifs
    · exact .setDirection r side.peer
    · exact .refl r
  · obtain ⟨rfl, hc⟩ : side = .upstream ∧ r.upstreamConnecting = true := by simpa using hconn
    rw [desiredInterest_connecting hc]
    exact .refl r

/-- Bytes for `destination` are queued behind a fault channel, and it is open for them. -/
structure Relay.Held (r : Relay) (destination : Side) (channel : FaultChannel) : Prop where
  writeOpen : r.writeOpen destination = true
  connected : destination = .upstream → r.upstreamConnecting = false
  size : 0 < (r.directionFrom destination.peer).queue.size
  fault : (r.directionFrom destination.peer).fault = some channel

lemma nextWake_of_not_held {destination : Side} (h : ∀ channel, ¬r.Held destination channel) :
    r.nextWake destination now = (none, r) := by
  refine if_pos (by_contra fun hguard => ?_)
  rcases hf : (r.directionFrom destination.peer).fault with _ | channel
  · simp [hf] at hguard
  simp only [hf, Option.isNone_some, Bool.or_false, Bool.or_eq_true, not_or, Bool.not_eq_true,
    Bool.not_eq_false', Bool.and_eq_false_iff, decide_eq_false_iff_not,
    ByteQueue.empty_eq_false_iff] at hguard
  exact h channel ⟨hguard.1.1, fun heq => hguard.1.2.resolve_left (not_not_intro heq), hguard.2, hf⟩

lemma nextWake_refills (r : Relay) (destination : Side) (now : ℤ) :
    Refills now r (r.nextWake destination now).2 := by
  by_cases hheld : ∃ channel, r.Held destination channel
  · obtain ⟨channel, h⟩ := hheld
    rw [nextWake_eq h.writeOpen h.connected h.size h.fault]
    exact .setDirection r destination.peer
  · rw [nextWake_of_not_held (not_exists.mp hheld)]
    exact .refl r

end Queries

/-! ## The initial state -/

/-- A new fault channel. -/
structure FaultChannel.Fresh (plan : FaultPlan) (start : ℤ) (channel : FaultChannel) : Prop where
  delay : channel.delay = if plan.latency > 0 ∨ plan.jitter > 0 then some {} else none
  latency : channel.latency = i64 (plan.latency * 1000000)
  jitter : channel.jitter = i64 (plan.jitter * 1000000)
  bucket_isSome : channel.bucket.isSome = decide (plan.rateBytesPerSecond > 0)
  bucket : ∀ b, channel.bucket = some b → b.Sound ∧ b.rate = plan.rateBytesPerSecond ∧
    b.burst = plan.effectiveBurstBytes ∧ b.lastRefill = start

/-- The direction from `source` of a new relay. -/
structure Direction.Fresh (config : RelayConfig) (plan : FaultPlan) (source : Side) (start : ℤ)
    (d : Direction) : Prop where
  size : d.queue.size = 0
  capacity : d.queue.capacity = config.bufferBytesPerDirection
  running : d.backpressure.readPaused = false
  low : d.backpressure.lowWaterBytes = config.lowWaterBytes
  high : d.backpressure.highWaterBytes = config.highWaterBytes
  fault_isSome : d.fault.isSome = (plan.paced && plan.appliesTo source)
  channel : ∀ channel, d.fault = some channel → channel.Fresh plan start

/-- A new relay. -/
structure Relay.Fresh (config : RelayConfig) (plan : FaultPlan) (upstreamConnecting : Bool)
    (start : ℤ) (r : Relay) : Prop where
  connecting : r.upstreamConnecting = upstreamConnecting
  readOpen : ∀ side, r.readOpen side = true
  writeOpen : ∀ side, r.writeOpen side = true
  notInjected : r.halfCloseInjected = false
  state : r.state = if upstreamConnecting then .connectingUpstream else .active
  metrics : r.metrics = {}
  acceptedAt : r.acceptedAt = start
  lastActivity : r.lastActivity = start
  direction : ∀ source, (r.directionFrom source).Fresh config plan source start

section Create

variable {config : RelayConfig} {plan : FaultPlan}

lemma FaultChannel.create_spec (plan : FaultPlan) (connectionSeed directionIndex : UInt64)
    (start : ℤ) :
    ∃ channel, FaultChannel.create plan connectionSeed directionIndex start = .ok channel ∧
      channel.Fresh plan start := by
  rw [FaultChannel.create]
  by_cases hrate : plan.rateBytesPerSecond > 0
  · obtain ⟨b, hb, hspec⟩ :=
      TokenBucket.create_spec start hrate (plan.effectiveBurstBytes_pos hrate)
    simp only [if_pos hrate, hb, Except.map, bind, Except.bind]
    refine ⟨_, rfl, rfl, rfl, rfl, by simp [hrate], ?_⟩
    intro b' hb'
    obtain rfl : b = b' := by simpa using hb'
    exact hspec
  · simp only [if_neg hrate, bind, Except.bind]
    exact ⟨_, rfl, rfl, rfl, rfl, by simp [hrate], by simp⟩

lemma FaultChannel.createFor_spec (plan : FaultPlan) (connectionId : UInt64) (source : Side)
    (start : ℤ) :
    ∃ fault, FaultChannel.createFor plan connectionId source start = .ok fault ∧
      fault.isSome = (plan.paced && plan.appliesTo source) ∧
      ∀ channel, fault = some channel → channel.Fresh plan start := by
  simp only [FaultChannel.createFor]
  rcases plan.paced && plan.appliesTo source with _ | _
  · exact ⟨none, rfl, rfl, by simp⟩
  · obtain ⟨channel, hok, hfresh⟩ := FaultChannel.create_spec plan
      (deriveConnectionSeed plan.masterSeed connectionId) source.directionIndex start
    refine ⟨some channel, congrArg (Except.map some) hok, rfl, ?_⟩
    intro channel' hc
    obtain rfl : channel = channel' := by simpa using hc
    exact hfresh

/-- A direction is created without a fault channel; `fault` is what the constructor puts in. -/
lemma Direction.create_spec (plan : FaultPlan) (hconfig : config.Valid) :
    ∃ d, Direction.create config = .ok d ∧ { d with fault := none } = d ∧
      ∀ source start (fault : Option FaultChannel),
      fault.isSome = (plan.paced && plan.appliesTo source) →
      (∀ channel, fault = some channel → channel.Fresh plan start) →
      Direction.Fresh config plan source start { d with fault } := by
  obtain ⟨hlow, hhigh⟩ := hconfig
  obtain ⟨q, hq, hsize, hcap, -⟩ := ByteQueue.create_spec
    config.bufferBytesPerDirection (by omega)
  obtain ⟨t, ht, hrunning, hlow', hhigh'⟩ := BackpressureTracker.create_spec hlow
  refine ⟨{ queue := q, backpressure := t }, by simp [Direction.create, hq, ht, bind, Except.bind],
    rfl, fun source start fault hsome hfresh =>
      ⟨hsize, hcap, hrunning, hlow', hhigh', hsome, hfresh⟩⟩

/-- **The constructor succeeds** for every plan and every configuration in order. -/
lemma Relay.create_spec (plan : FaultPlan) (hconfig : config.Valid) (connectionId : UInt64)
    (upstreamConnecting : Bool) (start : ℤ) :
    ∃ r, Relay.create config plan connectionId upstreamConnecting start = .ok r ∧
      r.Fresh config plan upstreamConnecting start := by
  obtain ⟨d, hd, hdfault, hfresh⟩ := Direction.create_spec plan hconfig
  obtain ⟨clientFault, hcf, hcsome, hcfresh⟩ :=
    FaultChannel.createFor_spec plan connectionId .client start
  obtain ⟨upstreamFault, huf, husome, hufresh⟩ :=
    FaultChannel.createFor_spec plan connectionId .upstream start
  simp only [Relay.create, hd, hcf, huf, bind, Except.bind]
  rcases hany : plan.anyEnabled with _ | _
  · refine ⟨_, rfl, rfl, fun _ => rfl, fun _ => rfl, rfl, rfl, rfl, rfl, rfl, ?_⟩
    have hpaced : plan.paced = false := by
      rcases hp : plan.paced with _ | _
      · rfl
      · simp [plan.anyEnabled_of_paced hp] at hany
    have hnone : ∀ source, Direction.Fresh config plan source start d := fun source =>
      hdfault ▸ hfresh source start none (by simp [hpaced]) (by simp)
    rintro (_ | _)
    · exact hnone .client
    · exact hnone .upstream
  · refine ⟨_, rfl, rfl, fun _ => rfl, fun _ => rfl, rfl, rfl, rfl, rfl, rfl, ?_⟩
    rintro (_ | _)
    · exact hfresh .client start clientFault hcsome hcfresh
    · exact hfresh .upstream start upstreamFault husome hufresh

/-- The fault channels of a new relay are made by `FaultChannel.create`. -/
lemma Relay.create_channel {connectionId : UInt64} {upstreamConnecting : Bool} {start : ℤ}
    {r : Relay} {source : Side} {channel : FaultChannel} (hconfig : config.Valid)
    (hok : Relay.create config plan connectionId upstreamConnecting start = .ok r)
    (hc : (r.directionFrom source).fault = some channel) :
    FaultChannel.create plan (deriveConnectionSeed plan.masterSeed connectionId)
      source.directionIndex start = .ok channel := by
  have hcreate : ∀ source, FaultChannel.createFor plan connectionId source start =
      .ok (some channel) → FaultChannel.create plan
        (deriveConnectionSeed plan.masterSeed connectionId) source.directionIndex start =
          .ok channel := by
    intro source hfor
    unfold FaultChannel.createFor at hfor
    split_ifs at hfor
    · rcases hcreate : FaultChannel.create plan (deriveConnectionSeed plan.masterSeed connectionId)
          source.directionIndex start with fault | created
      · rw [hcreate] at hfor
        cases hfor
      · rw [hcreate] at hfor
        cases hfor
        rfl
    · cases hfor
  obtain ⟨d, hd, hnone, -⟩ := Direction.create_spec plan hconfig
  obtain ⟨clientFault, hcf, -⟩ := FaultChannel.createFor_spec plan connectionId .client start
  obtain ⟨upstreamFault, huf, -⟩ := FaultChannel.createFor_spec plan connectionId .upstream start
  simp only [Relay.create, hd, hcf, huf, bind, Except.bind] at hok
  have hfault : d.fault = none := by rw [← hnone]
  rcases hany : plan.anyEnabled with _ | _
  · rw [hany] at hok
    cases hok
    cases source <;> simp [hfault] at hc
  · rw [hany] at hok
    cases hok
    cases source with
    | client => exact hcreate .client (hcf.trans (congrArg _ hc))
    | upstream => exact hcreate .upstream (huf.trans (congrArg _ hc))

lemma Relay.Fresh.inv {upstreamConnecting : Bool} {start : ℤ} {r : Relay} (hconfig : config.Valid)
    (h : r.Fresh config plan upstreamConnecting start) : Session.Inv { relay := r } := by
  intro source
  have hd := h.direction source
  refine ⟨by rw [hd.high, hd.capacity]; exact hconfig.2, fun hp => ?_, fun _ => ?_, ?_, ?_⟩
  · exact absurd hp (by simp [hd.running])
  · rw [hd.size, hd.high]
    exact Nat.zero_lt_of_lt hconfig.1
  · intro channel line hc hl
    have hdelay := (hd.channel channel hc).delay
    rw [hl] at hdelay
    split_ifs at hdelay
    obtain rfl : line = {} := by simpa using hdelay
    exact ⟨DelayLine.wellFormed_empty, hd.size.symm⟩
  · intro channel b hc hb
    exact ((hd.channel channel hc).bucket b hb).1

end Create

/-! ## Runs -/

section Runs

variable {io : SocketIo} {now : ℤ} {s s' : Session}

/-- A property kept by every move at `now` is kept by a sequence of them. -/
lemma Moves.preserves {P : Session → Prop} (hmoves : Moves io now s s') (hinv : s.Inv) (hs : P s)
    (hmove : ∀ m m', m.Inv → P m → Move io now m m' → P m') : P s' := by
  induction hmoves with
  | refl => exact hs
  | tail hbefore hlast ih => exact hmove _ _ (Moves.inv hbefore hinv) ih hlast

/-- **No call fails.**  A call made at `now` returns, and makes moves at `now`; a call that is not
told the time makes moves that do not depend on it. -/
lemma Call.exec_spec (io : SocketIo) (now : ℤ) (hinv : s.Inv) (call : Call)
    (hnow : ∀ time, call.time? = some time → time = now) :
    ∃ result s', call.exec io s = .ok (result, s') ∧ Moves io now s s' := by
  cases call with
  | handleReadable source hangupHint time =>
      obtain rfl : time = now := hnow time rfl
      obtain ⟨r, s', added, hrun, hmoves, -⟩ := handleReadable_spec io time hinv source hangupHint
      exact ⟨.pumped r, s', by simp only [Call.exec, hrun, Except.map], hmoves⟩
  | flush destination time =>
      obtain rfl : time = now := hnow time rfl
      obtain ⟨r, s', added, hrun, hmoves, -⟩ := flush_spec io time hinv destination
      exact ⟨.pumped r, s', by simp only [Call.exec, hrun, Except.map], hmoves⟩
  | propagateHalfCloses => exact ⟨.done, _, rfl, propagateHalfCloses_moves⟩
  | markUpstreamConnected => exact ⟨.done, _, rfl, .single .connect⟩
  | desiredInterest side time =>
      obtain rfl : time = now := hnow time rfl
      exact ⟨_, _, rfl, (desiredInterest_refills ..).moves⟩
  | nextWake destination time =>
      obtain rfl : time = now := hnow time rfl
      exact ⟨_, _, rfl, (nextWake_refills ..).moves⟩

lemma execAll_cons {call : Call} {calls : List Call} {result : CallResult}
    {results : List CallResult} {s'' : Session} (hexec : call.exec io s = .ok (result, s'))
    (hall : execAll io calls s' = .ok (results, s'')) :
    execAll io (call :: calls) s = .ok (result :: results, s'') := by
  simp only [execAll, hexec, hall, Except.map]

/-- The calls are made at nondecreasing times, none before `start`. -/
def Clocked (start : ℤ) (calls : List Call) : Prop :=
  (start :: calls.filterMap Call.time?).Pairwise (· ≤ ·)

instance (start : ℤ) (calls : List Call) : Decidable (Clocked start calls) :=
  inferInstanceAs (Decidable (List.Pairwise _ _))

lemma Clocked.mono {past last : ℤ} {calls : List Call} (h : Clocked past calls)
    (hle : last ≤ past) : Clocked last calls :=
  List.pairwise_cons.mpr ⟨fun _ ht => hle.trans (List.rel_of_pairwise_cons h ht), h.tail⟩

/-- The first call is not made before `past`, and the others not before it. -/
lemma Clocked.cons {past : ℤ} {call : Call} {calls : List Call} (h : Clocked past (call :: calls)) :
    past ≤ call.time?.getD past ∧ Clocked (call.time?.getD past) calls := by
  rcases ht : call.time? with _ | time
  · simp only [Clocked, List.filterMap_cons_none ht] at h
    exact ⟨le_rfl, h⟩
  · simp only [Clocked, List.filterMap_cons_some ht] at h
    exact ⟨List.rel_of_pairwise_cons h (List.mem_cons_self ..), h.tail⟩

/-- `P past s` is kept, with `past` the time of the last move, by every move that is not earlier. -/
def TimedInvariant (io : SocketIo) (P : ℤ → Session → Prop) : Prop :=
  ∀ past now s s', past ≤ now → s.Inv → P past s → Move io now s s' → P now s'

lemma TimedInvariant.moves {P : ℤ → Session → Prop} (h : TimedInvariant io P) {past : ℤ}
    (hle : past ≤ now) (hmoves : Moves io now s s') (hinv : s.Inv) (hs : P past s) :
    ∃ last ≤ now, P last s' := by
  induction hmoves with
  | refl => exact ⟨past, hle, hs⟩
  | tail hbefore hlast ih =>
      obtain ⟨last, hlast_le, hP⟩ := ih
      exact ⟨now, le_rfl, h last now _ _ hlast_le (Moves.inv hbefore hinv) hP hlast⟩

/-- The induction is on the calls; each starts no earlier than the last move so far. -/
lemma TimedInvariant.execAll {P : ℤ → Session → Prop} (h : TimedInvariant io P) :
    ∀ (calls : List Call) (past : ℤ) (s : Session), Clocked past calls → s.Inv → P past s →
      ∃ results s' last, execAll io calls s = .ok (results, s') ∧ s'.Inv ∧ P last s'
  | [], past, s, _, hinv, hs => ⟨[], s, past, rfl, hinv, hs⟩
  | call :: calls, past, s, hclock, hinv, hs => by
      obtain ⟨hle, hrest⟩ := hclock.cons
      obtain ⟨result, s', hexec, hmoves⟩ := Call.exec_spec io (call.time?.getD past) hinv call
        (by intro time ht; simp [ht])
      obtain ⟨last, hlast, hP⟩ := h.moves hle hmoves hinv hs
      obtain ⟨results, s'', last', hall, hinv', hP'⟩ :=
        TimedInvariant.execAll h calls last s' (hrest.mono hlast) (hmoves.inv hinv) hP
      exact ⟨result :: results, s'', last', execAll_cons hexec hall, hinv', hP'⟩

/-- **Every run returns**, and what every move up to `closing` keeps holds at the end of a run
whose calls are made up to `closing`. -/
theorem execAll_until (io : SocketIo) {closing : ℤ} {P : Session → Prop}
    (hmove : ∀ now m m', now ≤ closing → m.Inv → P m → Move io now m m' → P m') :
    ∀ (calls : List Call) (s : Session), (∀ t ∈ calls.filterMap Call.time?, t ≤ closing) →
      s.Inv → P s → ∃ results s', execAll io calls s = .ok (results, s') ∧ s'.Inv ∧ P s'
  | [], s, _, hinv, hs => ⟨[], s, rfl, hinv, hs⟩
  | call :: calls, s, hle, hinv, hs => by
      have hcall : call.time?.getD closing ≤ closing := by
        rcases ht : call.time? with _ | time
        · exact le_rfl
        · exact hle time (List.mem_filterMap.mpr ⟨call, List.mem_cons_self .., ht⟩)
      have hcalls : ∀ t ∈ calls.filterMap Call.time?, t ≤ closing := by
        intro t ht
        obtain ⟨later, hlater, htime⟩ := List.mem_filterMap.mp ht
        exact hle t (List.mem_filterMap.mpr ⟨later, List.mem_cons_of_mem _ hlater, htime⟩)
      obtain ⟨result, s', hexec, hmoves⟩ := Call.exec_spec io (call.time?.getD closing) hinv call
        (by intro time ht; simp [ht])
      obtain ⟨results, s'', hall, hinv', hP⟩ := execAll_until io hmove calls s' hcalls
        (hmoves.inv hinv) (hmoves.preserves hinv hs fun m m' => hmove _ m m' hcall)
      exact ⟨result :: results, s'', execAll_cons hexec hall, hinv', hP⟩

/-- The times of any calls have an upper bound. -/
lemma exists_closing (calls : List Call) :
    ∃ closing, ∀ t ∈ calls.filterMap Call.time?, t ≤ closing := by
  induction calls.filterMap Call.time? with
  | nil => exact ⟨0, by simp⟩
  | cons t times ih =>
      obtain ⟨closing, hle⟩ := ih
      refine ⟨max t closing, fun u hu => ?_⟩
      rcases List.mem_cons.mp hu with rfl | hu
      · exact le_max_left _ _
      · exact (hle u hu).trans (le_max_right _ _)

/-- **Every run returns**, and what every move keeps holds at its end. -/
theorem execAll_spec (io : SocketIo) {P : Session → Prop}
    (hmove : ∀ now m m', m.Inv → P m → Move io now m m' → P m') (calls : List Call) (s : Session)
    (hinv : s.Inv) (hs : P s) :
    ∃ results s', execAll io calls s = .ok (results, s') ∧ s'.Inv ∧ P s' := by
  obtain ⟨closing, hle⟩ := exists_closing calls
  exact execAll_until io (fun now m m' _ => hmove now m m') calls s hle hinv hs

variable {config : RelayConfig}

/-- What holds of the relay the constructor makes and is kept by every move holds at the end of
every run. -/
theorem runRelay_created (io : SocketIo) (hconfig : config.Valid) (plan : FaultPlan)
    (connectionId : UInt64) (upstreamConnecting : Bool) (start : ℤ) {P : Session → Prop}
    (hcreated : ∀ r : Relay,
      Relay.create config plan connectionId upstreamConnecting start = .ok r →
      r.Fresh config plan upstreamConnecting start → P { relay := r })
    (hmove : ∀ now m m', m.Inv → P m → Move io now m m' → P m') (calls : List Call) :
    ∃ results s, runRelay io config plan connectionId upstreamConnecting start calls =
      .ok (results, s) ∧ s.Inv ∧ P s := by
  obtain ⟨r, hok, hr⟩ := Relay.create_spec plan hconfig connectionId upstreamConnecting
    start
  obtain ⟨results, s, hall, hinv, hP⟩ := execAll_spec io hmove calls { relay := r } (hr.inv hconfig)
    (hcreated r hok hr)
  exact ⟨results, s, by simp only [runRelay, hok, bind, Except.bind, hall], hinv, hP⟩

/-- What holds initially and is kept by every move holds at the end of every run. -/
theorem runRelay_spec (io : SocketIo) (hconfig : config.Valid) (plan : FaultPlan)
    (connectionId : UInt64) (upstreamConnecting : Bool) (start : ℤ) {P : Session → Prop}
    (hfresh : ∀ r : Relay, r.Fresh config plan upstreamConnecting start → P { relay := r })
    (hmove : ∀ now m m', m.Inv → P m → Move io now m m' → P m') (calls : List Call) :
    ∃ results s, runRelay io config plan connectionId upstreamConnecting start calls =
      .ok (results, s) ∧ s.Inv ∧ P s :=
  runRelay_created io hconfig plan connectionId upstreamConnecting start
    (fun r _ hr => hfresh r hr) hmove calls

/-- The same for what the moves up to `closing` keep, and calls made up to `closing`. -/
theorem runRelay_until (io : SocketIo) (hconfig : config.Valid) (plan : FaultPlan)
    (connectionId : UInt64) (upstreamConnecting : Bool) (start : ℤ) {closing : ℤ}
    {P : Session → Prop}
    (hfresh : ∀ r : Relay, r.Fresh config plan upstreamConnecting start → P { relay := r })
    (hmove : ∀ now m m', now ≤ closing → m.Inv → P m → Move io now m m' → P m')
    {calls : List Call} (hcalls : ∀ t ∈ calls.filterMap Call.time?, t ≤ closing) :
    ∃ results s, runRelay io config plan connectionId upstreamConnecting start calls =
      .ok (results, s) ∧ s.Inv ∧ P s := by
  obtain ⟨r, hok, hr⟩ := Relay.create_spec plan hconfig connectionId upstreamConnecting
    start
  obtain ⟨results, s, hall, hinv, hP⟩ := execAll_until io hmove calls { relay := r } hcalls
    (hr.inv hconfig) (hfresh r hr)
  exact ⟨results, s, by simp only [runRelay, hok, bind, Except.bind, hall], hinv, hP⟩

/-- The same for properties that refer to the time, and calls at nondecreasing times. -/
theorem runRelay_timed (hconfig : config.Valid) (plan : FaultPlan) (connectionId : UInt64)
    (upstreamConnecting : Bool) {start : ℤ} {P : ℤ → Session → Prop}
    (hfresh : ∀ r : Relay, r.Fresh config plan upstreamConnecting start → P start { relay := r })
    (hmove : TimedInvariant io P) {calls : List Call} (hclock : Clocked start calls) :
    ∃ results s last, runRelay io config plan connectionId upstreamConnecting start calls =
      .ok (results, s) ∧ s.Inv ∧ P last s := by
  obtain ⟨r, hok, hr⟩ := Relay.create_spec plan hconfig connectionId upstreamConnecting
    start
  obtain ⟨results, s, last, hall, hinv, hP⟩ := hmove.execAll calls start { relay := r } hclock
    (hr.inv hconfig) (hfresh r hr)
  exact ⟨results, s, last, by simp only [runRelay, hok, bind, Except.bind, hall], hinv, hP⟩

end Runs

end NetFault
