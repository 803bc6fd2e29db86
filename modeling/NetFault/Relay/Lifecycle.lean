import NetFault.Lib.History
import NetFault.Relay.Integrity

/-!
# The half-close protocol

The flags of a relay are a summary of its history: a write side is open as long as no shutdown of
it has succeeded, a read side as long as no receive on it has met the end of the stream, and the
half-close fault is injected at most once.  `Session.Lifecycle` states the summary, event by event
as counts, together with what each event required of the history before it (`Protocol`).  Every move
keeps it.

The end of a stream is a matter of the socket's answers (`isEof`).  The relay's report of it
(`isEnding`) comes directly after the receive that met it, and after no other.
-/

namespace NetFault

open TraceEvent

/-! ## Counting lifecycle events -/

namespace TraceEvent

/-- `on_event("peer_half_closed")` for `side`. -/
def isEnding (side : Side) : TraceEvent → Bool
  | .observed (.peerHalfClosed source) _ => source = side
  | _ => false

/-- A receive on `side` that met the end of the stream. -/
def isEof (side : Side) : TraceEvent → Bool
  | .receive source _ hint result _ => decide (source = side) && result.ends hint
  | _ => false

lemma exists_receive_of_isEof {side : Side} {e : TraceEvent} (h : e.isEof side = true) :
    ∃ span hint result now, e = .receive side span hint result now ∧ result.ends hint = true := by
  rcases e with ⟨source, span, hint, result, now⟩ | _ | _ | _ | _ | _ <;> simp [isEof] at h
  obtain ⟨rfl, hends⟩ := h
  exact ⟨span, hint, result, now, rfl, hends⟩

/-- A successful `shutdown_write` of `side`. -/
def isShutdown (side : Side) : TraceEvent → Bool
  | .shutdownWrite destination _ ok => ok && decide (destination = side)
  | _ => false

/-- A `shutdown_write` made as a fault. -/
def isInjection : TraceEvent → Bool
  | .shutdownWrite _ .injected _ => true
  | _ => false

/-- A send to, or a shutdown of, the upstream socket. -/
def writesUpstream : TraceEvent → Bool
  | .send .upstream .. | .shutdownWrite .upstream .. => true
  | _ => false

end TraceEvent

namespace Trace

/-- How many events are of a kind. -/
def count (kind : TraceEvent → Bool) (trace : Trace) : ℕ := trace.countP kind

variable {kind : TraceEvent → Bool}

@[simp] lemma count_nil : count kind [] = 0 := rfl

@[simp] lemma count_append (a b : Trace) : count kind (a ++ b) = count kind a + count kind b :=
  List.countP_append

@[simp] lemma count_cons (e : TraceEvent) (trace : Trace) :
    count kind (e :: trace) = count kind trace + if kind e then 1 else 0 :=
  List.countP_cons

lemma count_eq_zero {trace : Trace} (h : ∀ e ∈ trace, kind e = false) : count kind trace = 0 :=
  List.countP_eq_zero.mpr fun e he => by simp [h e he]

/-- The last receive on `side` met the end of the stream: it answered that the peer has closed it,
or that there is nothing to read after a hangup. -/
def EndMet (trace : Trace) (side : Side) : Prop :=
  ∃ past span hint result now future, trace = past ++ .receive side span hint result now :: future ∧
    ((∃ error, result = .peerClosed error) ∨ result = .wouldBlock ∧ hint = true) ∧
    ∀ span hint result now, .receive side span hint result now ∉ future

lemma EndMet.count_pos {trace : Trace} {side : Side} (h : trace.EndMet side) :
    0 < trace.count (isEof side) := by
  obtain ⟨past, span, hint, result, now, future, rfl, hends, -⟩ := h
  refine List.countP_pos_iff.mpr ⟨.receive side span hint result now, by simp, ?_⟩
  simp [isEof, IoResult.ends_iff.mpr hends]

end Trace

/-- What the history before it must be for an event to be in order. -/
def Protocol (past : Trace) : TraceEvent → Prop
  | .receive side .. => past.count (isEnding side) = 0 ∧ past.count (isEof side) = 0
  | .send side .. => past.count (isShutdown side) = 0
  | .shutdownWrite side cause _ => past.count (isShutdown side) = 0 ∧
      (past.count (isEof side.peer) = 1 ∧ past.sent side = past.received side.peer ∨
        side = .client ∧ cause = .injected ∧ past.count isInjection = 0)
  | .observed (.peerHalfClosed side) _ => ∃ before e, past = before ++ [e] ∧ e.isEof side = true
  | _ => True

/-- The flags as a function of the history. -/
structure Session.Lifecycle (s : Session) : Prop where
  protocol : History.Guarded Protocol s.trace
  endings : ∀ side, s.trace.count (isEnding side) = if s.relay.readOpen side then 0 else 1
  eofs : ∀ side, s.trace.count (isEof side) = if s.relay.readOpen side then 0 else 1
  shutdowns : ∀ side, s.trace.count (isShutdown side) = if s.relay.writeOpen side then 0 else 1
  injections : s.trace.count isInjection = if s.relay.halfCloseInjected then 1 else 0
  connecting : s.relay.upstreamConnecting = true → s.trace.count writesUpstream = 0
  closed : ∀ side, s.relay.writeOpen side = false →
    s.relay.readOpen side.peer = false ∧ (s.relay.directionFrom side.peer).queue.size = 0 ∨
      side = .client ∧ s.relay.halfCloseInjected = true
  state : s.relay.state = s.relay.refreshState.state

/-! ## Steps that leave the flags alone -/

/-- Events that change no flag. -/
def TraceEvent.isPlain : TraceEvent → Bool
  | .receive _ _ hint result _ => !result.ends hint
  | .shutdownWrite .. | .observed (.peerHalfClosed _) _ => false
  | _ => true

lemma TraceEvent.isPlain_of_isNote {e : TraceEvent} (h : e.isNote = true) : e.isPlain = true := by
  rcases e with _ | _ | _ | ⟨_ | _ | _ | _ | _ | _, _⟩ | _ | _ <;>
    simp_all [TraceEvent.isNote, TraceEvent.isPlain]

lemma protocol_of_isNote {past : Trace} {e : TraceEvent} (h : e.isNote = true) :
    Protocol past e := by
  rcases e with _ | _ | _ | ⟨_ | _ | _ | _ | _ | _, _⟩ | _ | _ <;>
    simp_all [TraceEvent.isNote, Protocol]

/-- Plain events are of none of the kinds that the flags depend on. -/
lemma TraceEvent.kind_of_isPlain {e : TraceEvent} (h : e.isPlain = true) (side : Side) :
    e.isEnding side = false ∧ e.isEof side = false ∧ e.isShutdown side = false ∧
      e.isInjection = false := by
  rcases e with _ | _ | _ | ⟨_ | _ | _ | _ | _ | _, _⟩ | _ | _ <;>
    simp_all [TraceEvent.isPlain, TraceEvent.isEnding, TraceEvent.isEof, TraceEvent.isShutdown,
      TraceEvent.isInjection]

lemma Trace.count_plain {added : Trace} (h : ∀ e ∈ added, e.isPlain = true) (side : Side) :
    added.count (isEnding side) = 0 ∧ added.count (isEof side) = 0 ∧
      added.count (isShutdown side) = 0 ∧ added.count isInjection = 0 :=
  ⟨count_eq_zero fun e he => (e.kind_of_isPlain (h e he) side).1,
    count_eq_zero fun e he => (e.kind_of_isPlain (h e he) side).2.1,
    count_eq_zero fun e he => (e.kind_of_isPlain (h e he) side).2.2.1,
    count_eq_zero fun e he => (e.kind_of_isPlain (h e he) side).2.2.2⟩

section Lifecycle

variable {io : SocketIo} {now : ℤ} {s s' : Session}

lemma Session.Lifecycle.of_plain (h : s.Lifecycle) {added : Trace}
    (htrace : s'.trace = s.trace ++ added)
    (hflags : s'.relay.readOpen = s.relay.readOpen ∧ s'.relay.writeOpen = s.relay.writeOpen ∧
      s'.relay.halfCloseInjected = s.relay.halfCloseInjected ∧
      s'.relay.upstreamConnecting = s.relay.upstreamConnecting ∧ s'.relay.state = s.relay.state)
    (hguard : History.Guarded Protocol (s.trace ++ added)) (hplain : ∀ e ∈ added, e.isPlain = true)
    (hupstream : s.relay.upstreamConnecting = true → Trace.count writesUpstream added = 0)
    (hsize : ∀ side : Side, s.relay.readOpen side.peer = false →
      (s.relay.directionFrom side.peer).queue.size = 0 →
      (s'.relay.directionFrom side.peer).queue.size = 0) : s'.Lifecycle := by
  obtain ⟨hread, hwrite, hinjected, hconn, hstate⟩ := hflags
  refine ⟨htrace ▸ hguard, ?_, ?_, ?_, ?_, ?_, ?_, ?_⟩
  · intro side
    rw [htrace, Trace.count_append, (Trace.count_plain hplain side).1, hread]
    exact h.endings side
  · intro side
    rw [htrace, Trace.count_append, (Trace.count_plain hplain side).2.1, hread]
    exact h.eofs side
  · intro side
    rw [htrace, Trace.count_append, (Trace.count_plain hplain side).2.2.1, hwrite]
    exact h.shutdowns side
  · rw [htrace, Trace.count_append, (Trace.count_plain hplain .client).2.2.2, hinjected]
    exact h.injections
  · intro hc
    rw [htrace, Trace.count_append, hupstream (hconn ▸ hc)]
    exact h.connecting (hconn ▸ hc)
  · intro side hclosed
    rw [hread, hinjected]
    rcases h.closed side (hwrite ▸ hclosed) with ⟨hr, hz⟩ | hinj
    · exact .inl ⟨hr, hsize side hr hz⟩
    · exact .inr hinj
  · rw [hstate, h.state]
    simp only [Relay.refreshState, hread, hconn]

/-- An open write side has not been shut down. -/
lemma Session.Lifecycle.shutdowns_of_open (h : s.Lifecycle) {side : Side}
    (hopen : s.relay.writeOpen side = true) : s.trace.count (isShutdown side) = 0 := by
  rw [h.shutdowns, hopen, if_pos rfl]

/-- An open read side may be read from. -/
lemma Session.Lifecycle.receive_allowed (h : s.Lifecycle) (now : ℤ) {source : Side} {span : ℕ}
    (hread : s.Readable source span) (hint : Bool) (result : IoResult (List Byte)) :
    History.Guarded Protocol (s.trace ++ [.receive source span hint result now]) := by
  refine History.guarded_snoc_iff.mpr ⟨h.protocol, ?_, ?_⟩
  · rw [h.endings, hread.readOpen, if_pos rfl]
  · rw [h.eofs, hread.readOpen, if_pos rfl]

/-- A write side that passes the guard of `flush` may be sent to. -/
lemma Session.Lifecycle.send_allowed (h : s.Lifecycle) {destination : Side} {budget : ℕ}
    (hwrite : s.Writable destination budget now) (data : List Byte) (result : IoResult ℕ) :
    History.Guarded Protocol (s.trace ++ [.send destination data result now]) :=
  History.guarded_snoc_iff.mpr ⟨h.protocol, h.shutdowns_of_open hwrite.writeOpen⟩

/-- While the connect is pending the upstream socket is not written to. -/
lemma Session.Writable.upstreamWrites {destination : Side} {budget : ℕ}
    (hwrite : s.Writable destination budget now) (hconn : s.relay.upstreamConnecting = true)
    (data : List Byte) (result : IoResult ℕ) :
    TraceEvent.writesUpstream (.send destination data result now) = false := by
  rcases destination with _ | _
  · rfl
  · simp [hwrite.connected rfl] at hconn

lemma Trace.upstreamWrites_notes {notes : Trace} (h : ∀ e ∈ notes, e.isNote = true) :
    Trace.count writesUpstream notes = 0 := by
  refine Trace.count_eq_zero fun e he => ?_
  have := h e he
  rcases e with _ | _ | _ | _ | _ | _ <;> simp_all [TraceEvent.writesUpstream, TraceEvent.isNote]

lemma Session.Lifecycle.ingested (h : s.Lifecycle) {source : Side} {span : ℕ} {hint : Bool}
    {bytes : List Byte} {d' : Direction} {notes : Trace} (hread : s.Readable source span)
    (hingest : Ingest source s.relay.state (s.relay.directionFrom source) bytes now d' notes) :
    (s.ingested source span hint bytes now d' notes).Lifecycle := by
  refine h.of_plain rfl ⟨rfl, rfl, rfl, rfl, rfl⟩ ?_ ?_ ?_ ?_
  · simpa using (h.receive_allowed now hread hint (.transferred bytes)).append_of_forall
      fun past e he => protocol_of_isNote (hingest.isNote e he)
  · intro e he
    rcases List.mem_cons.mp he with rfl | he
    · rfl
    · exact e.isPlain_of_isNote (hingest.isNote e he)
  · intro _
    rw [Trace.count_cons, Trace.upstreamWrites_notes hingest.isNote]
    rfl
  · intro side hr hz
    have hne : side.peer ≠ source := by
      rintro rfl
      simp [hread.readOpen] at hr
    rwa [Session.ingested_directionFrom_of_ne _ _ _ _ _ _ _ hne]

lemma Session.Lifecycle.egressed (h : s.Lifecycle) {destination : Side} {budget count : ℕ}
    {d' : Direction} {notes : Trace} (hwrite : s.Writable destination budget now)
    (hegress : Egress destination.peer s.relay.state (s.relay.directionFrom destination.peer) count
      now d' notes) :
    (s.egressed destination budget count now d' notes).Lifecycle := by
  refine h.of_plain rfl ⟨rfl, rfl, rfl, rfl, rfl⟩ ?_ ?_ ?_ ?_
  · simpa using (h.send_allowed hwrite (s.offer destination budget)
      (.transferred count)).append_of_forall
      fun past e he => protocol_of_isNote (hegress.observed.isNote e he)
  · intro e he
    rcases List.mem_cons.mp he with rfl | he
    · rfl
    · exact e.isPlain_of_isNote (hegress.observed.isNote e he)
  · intro hconn
    rw [Trace.count_cons, Trace.upstreamWrites_notes hegress.observed.isNote,
      hwrite.upstreamWrites hconn]
    rfl
  · intro side hr hz
    by_cases heq : side.peer = destination.peer
    · rw [heq, Session.egressed_directionFrom_self, hegress.size, ← heq, hz, Nat.zero_sub]
    · rwa [Session.egressed_directionFrom_of_ne _ _ _ _ _ _ heq]

@[simp] lemma Session.afterReceive_flags (s : Session) (source : Side) (span : ℕ)
    (hint : Bool) (result : IoResult (List Byte)) (now : ℤ) :
    (s.afterReceive source span hint result now).relay.readOpen = s.relay.readOpen ∧
      (s.afterReceive source span hint result now).relay.writeOpen = s.relay.writeOpen ∧
      (s.afterReceive source span hint result now).relay.halfCloseInjected =
        s.relay.halfCloseInjected ∧
      (s.afterReceive source span hint result now).relay.upstreamConnecting =
        s.relay.upstreamConnecting ∧
      (s.afterReceive source span hint result now).relay.state = s.relay.state := by
  cases result <;> exact ⟨rfl, rfl, rfl, rfl, rfl⟩

/-! ## Steps that change a flag -/

/-- The end of a stream is met once, and closes the read side. -/
lemma Session.Lifecycle.endOfStream (h : s.Lifecycle) {source : Side} {span : ℕ} {hint : Bool}
    {result : IoResult (List Byte)} (hread : s.Readable source span)
    (hends : result.ends hint = true) :
    ((s.afterReceive source span hint result now).noteHalfClosedRead source).Lifecycle := by
  obtain ⟨hr, hw, hi, hc, -⟩ := Session.afterReceive_flags s source span hint result now
  have hafter := Session.afterReceive_directionFrom s source span hint result now
  have htrace := Session.noteHalfClosedRead_trace
    (s.afterReceive source span hint result now) source
  rw [Session.afterReceive_trace] at htrace
  obtain ⟨received, hreceived⟩ :
      ∃ received, received = s.afterReceive source span hint result now := ⟨_, rfl⟩
  rw [← hreceived] at hr hw hi hc hafter htrace ⊢
  have hread' : (received.noteHalfClosedRead source).relay.readOpen =
      Function.update s.relay.readOpen source false := by
    rw [← hr]
    rfl
  have hwrite' : (received.noteHalfClosedRead source).relay.writeOpen = s.relay.writeOpen := hw
  have hinjected' : (received.noteHalfClosedRead source).relay.halfCloseInjected =
      s.relay.halfCloseInjected := hi
  have hopen := hread.readOpen
  refine ⟨?_, ?_, ?_, ?_, ?_, ?_, ?_, rfl⟩
  · rw [htrace]
    refine History.guarded_snoc_iff.mpr
      ⟨h.receive_allowed now hread hint result, s.trace, _, rfl, ?_⟩
    simp [TraceEvent.isEof, hends]
  · intro side
    have hside := h.endings side
    rw [hread', htrace]
    by_cases heq : side = source
    · subst heq
      simp_all [TraceEvent.isEnding]
    · simp_all [TraceEvent.isEnding, Ne.symm heq]
  · intro side
    have hside := h.eofs side
    rw [hread', htrace]
    by_cases heq : side = source
    · subst heq
      simp_all [TraceEvent.isEof]
    · simp_all [TraceEvent.isEof, Ne.symm heq]
  · intro side
    rw [hwrite', htrace, ← h.shutdowns side]
    simp [TraceEvent.isShutdown]
  · rw [hinjected', htrace, ← h.injections]
    simp [TraceEvent.isInjection]
  · intro hconn
    have hzero := h.connecting (hc ▸ hconn)
    rw [htrace]
    simp_all [TraceEvent.writesUpstream]
  · intro side hclosed
    rw [hinjected']
    rcases h.closed side (hwrite' ▸ hclosed) with ⟨hended, hempty⟩ | hinjection
    · refine .inl ⟨?_, ?_⟩
      · rw [hread', Function.update_apply, hended]
        exact ite_self false
      · show (received.relay.directionFrom side.peer).queue.size = 0
        rwa [hafter]
    · exact .inr hinjection

/-- A drained direction whose stream has ended has been delivered. -/
lemma Session.Lifecycle.delivered (h : s.Lifecycle) {side : Side} (hintact : s.Intact side.peer)
    (hended : s.relay.readOpen side.peer = false)
    (hempty : (s.relay.directionFrom side.peer).queue.size = 0) :
    s.trace.count (isEof side.peer) = 1 ∧ s.trace.sent side = s.trace.received side.peer := by
  refine ⟨by rw [h.eofs, hended]; rfl, ?_⟩
  rw [hintact.stream, (ByteQueue.content_eq_nil_iff _).mpr hempty, List.append_nil, Side.peer_peer]

/-- Reports about lifecycle events other than the end of a stream. -/
def TraceEvent.isReport : TraceEvent → Bool
  | .observed (.peerHalfClosed _) _ => false
  | .observed _ _ => true
  | _ => false

lemma TraceEvent.isPlain_of_isReport {e : TraceEvent} (h : e.isReport = true) :
    e.isPlain = true := by
  rcases e with _ | _ | _ | ⟨_ | _ | _ | _ | _ | _, _⟩ | _ | _ <;>
    simp_all [TraceEvent.isReport, TraceEvent.isPlain]

lemma protocol_of_isReport {past : Trace} {e : TraceEvent} (h : e.isReport = true) :
    Protocol past e := by
  rcases e with _ | _ | _ | ⟨_ | _ | _ | _ | _ | _, _⟩ | _ | _ <;>
    simp_all [TraceEvent.isReport, Protocol]

lemma Trace.upstreamWrites_reports {reports : Trace} (h : ∀ e ∈ reports, e.isReport = true) :
    Trace.count writesUpstream reports = 0 := by
  refine Trace.count_eq_zero fun e he => ?_
  have := h e he
  rcases e with _ | _ | _ | _ | _ | _ <;> simp_all [TraceEvent.isReport, TraceEvent.writesUpstream]

/-- A write side may be shut down when the stream towards it has ended and drained, or for the
injection. -/
lemma Session.Lifecycle.shutdown_allowed (h : s.Lifecycle) {side : Side} {cause : ShutdownCause}
    (ok : Bool) (hopen : s.relay.writeOpen side = true) (hintact : s.Intact side.peer)
    (hreason : s.relay.readOpen side.peer = false ∧
        (s.relay.directionFrom side.peer).queue.size = 0 ∨ side = .client ∧ cause = .injected)
    (hcause : cause = .injected → s.relay.halfCloseInjected = false) :
    History.Guarded Protocol (s.trace ++ [.shutdownWrite side cause ok]) := by
  refine History.guarded_snoc_iff.mpr ⟨h.protocol, h.shutdowns_of_open hopen, ?_⟩
  rcases hreason with ⟨hended, hempty⟩ | ⟨hside, hinj⟩
  · exact .inl (h.delivered hintact hended hempty)
  · exact .inr ⟨hside, hinj, by rw [h.injections, hcause hinj]; rfl⟩

/-- After a shutdown, a write side is closed because its stream has been delivered or for the
injection: it is the side of the shutdown, or was closed before. -/
lemma Session.Lifecycle.closed_of_shutdown (h : s.Lifecycle) {side side' : Side}
    {cause : ShutdownCause} {ok : Bool}
    (hreason : s.relay.readOpen side.peer = false ∧
        (s.relay.directionFrom side.peer).queue.size = 0 ∨ side = .client ∧ cause = .injected)
    (hclosed : (if ok then Function.update s.relay.writeOpen side false else s.relay.writeOpen)
      side' = false) :
    s.relay.readOpen side'.peer = false ∧ (s.relay.directionFrom side'.peer).queue.size = 0 ∨
      side' = .client ∧ (s.relay.halfCloseInjected || decide (cause = .injected)) = true := by
  by_cases heq : side' = side
  · subst heq
    rcases hreason with hdone | ⟨hside, hinj⟩
    · exact .inl hdone
    · exact .inr ⟨hside, by simp [hinj]⟩
  · have hclosed' : s.relay.writeOpen side' = false := by
      split_ifs at hclosed
      · rwa [Function.update_of_ne heq] at hclosed
      · exact hclosed
    rcases h.closed side' hclosed' with hdone | ⟨hside, hinj⟩
    · exact .inl hdone
    · exact .inr ⟨hside, by simp [hinj]⟩

/-- **A shutdown that is in order**, for either cause and with either outcome: the stream towards
`side` has ended and drained, or it is the one half-close to be injected. -/
lemma Session.Lifecycle.shutdown (h : s.Lifecycle) {side : Side} {cause : ShutdownCause}
    {ok : Bool} {reports : Trace} (hopen : s.relay.writeOpen side = true)
    (hintact : s.Intact side.peer)
    (hreason : s.relay.readOpen side.peer = false ∧
        (s.relay.directionFrom side.peer).queue.size = 0 ∨ side = .client ∧ cause = .injected)
    (hcause : cause = .injected → s.relay.halfCloseInjected = false)
    (hconnected : side = .upstream → s.relay.upstreamConnecting = false)
    (htrace : s'.trace = s.trace ++ .shutdownWrite side cause ok :: reports)
    (hreports : ∀ e ∈ reports, e.isReport = true)
    (hwrite : s'.relay.writeOpen =
      if ok then Function.update s.relay.writeOpen side false else s.relay.writeOpen)
    (hinjected : s'.relay.halfCloseInjected =
      (s.relay.halfCloseInjected || decide (cause = .injected)))
    (hrest : s'.relay.readOpen = s.relay.readOpen ∧
      s'.relay.upstreamConnecting = s.relay.upstreamConnecting ∧
      s'.relay.state = s.relay.state ∧ s'.relay.directionFrom = s.relay.directionFrom) :
    s'.Lifecycle := by
  obtain ⟨hread, hconn, hstate, hdir⟩ := hrest
  have hplain : ∀ e ∈ reports, e.isPlain = true := fun e he => e.isPlain_of_isReport (hreports e he)
  refine ⟨?_, ?_, ?_, ?_, ?_, ?_, ?_, ?_⟩
  · have hallowed := (h.shutdown_allowed ok hopen hintact hreason hcause).append_of_forall
      fun past e he => protocol_of_isReport (hreports e he)
    simpa [htrace] using hallowed
  · intro side'
    rw [htrace, Trace.count_append, Trace.count_cons, (Trace.count_plain hplain side').1, hread]
    exact h.endings side'
  · intro side'
    rw [htrace, Trace.count_append, Trace.count_cons, (Trace.count_plain hplain side').2.1, hread]
    exact h.eofs side'
  · intro side'
    rw [hwrite, htrace, Trace.count_append, Trace.count_cons,
      (Trace.count_plain hplain side').2.2.1, h.shutdowns side']
    by_cases heq : side' = side
    · subst heq
      cases ok <;> simp [TraceEvent.isShutdown, hopen]
    · cases ok <;> simp [TraceEvent.isShutdown, Function.update_of_ne heq, Ne.symm heq]
  · rw [hinjected, htrace, Trace.count_append, Trace.count_cons,
      (Trace.count_plain hplain .client).2.2.2, h.injections]
    rcases cause with _ | _
    · simp [TraceEvent.isInjection]
    · simp [TraceEvent.isInjection, hcause rfl]
  · intro hc
    rw [hconn] at hc
    rw [htrace, Trace.count_append, Trace.count_cons, Trace.upstreamWrites_reports hreports,
      h.connecting hc]
    rcases side with _ | _
    · rfl
    · simp [hconnected rfl] at hc
  · intro side' hclosed
    rw [hwrite] at hclosed
    rw [hread, hdir, hinjected]
    exact h.closed_of_shutdown hreason hclosed
  · rw [hstate, h.state]
    simp only [Relay.refreshState, hread, hconn]

lemma Session.Lifecycle.forwardHalfClose (h : s.Lifecycle) {destination : Side}
    (hintact : s.Intact destination.peer) (hforward : s.Forwardable destination) :
    (s.forwardHalfClose io destination).Lifecycle := by
  rcases hok : io.shutdownWrite s.trace destination with _ | _
  · rw [Session.forwardHalfClose_of_failed hok]
    exact h.shutdown hforward.writeOpen hintact (.inl ⟨hforward.ended, hforward.drained⟩) (by simp)
      hforward.connected rfl (by simp) rfl (by simp) ⟨rfl, rfl, rfl, rfl⟩
  · rw [Session.forwardHalfClose_of_ok hok]
    exact h.shutdown hforward.writeOpen hintact (.inl ⟨hforward.ended, hforward.drained⟩) (by simp)
      hforward.connected rfl (by simp [isReport]) rfl (by simp [Relay.closeWrite])
      ⟨rfl, rfl, rfl, rfl⟩

lemma Session.Lifecycle.injectHalfClose (h : s.Lifecycle) (hintact : s.Intact .upstream)
    (hinject : s.Injectable) : (s.injectHalfClose io).Lifecycle := by
  rcases hok : io.shutdownWrite s.trace .client with _ | _
  · rw [hinject.injectHalfClose_of_failed hok]
    exact h.shutdown hinject.writeOpen hintact (.inr ⟨rfl, rfl⟩) (fun _ => hinject.notYet) (by simp)
      rfl (by simp) rfl (by simp) ⟨rfl, rfl, rfl, rfl⟩
  · rw [hinject.injectHalfClose_of_ok hok]
    exact h.shutdown hinject.writeOpen hintact (.inr ⟨rfl, rfl⟩) (fun _ => hinject.notYet) (by simp)
      rfl (by simp [isReport]) rfl (by simp [Relay.closeWrite]) ⟨rfl, rfl, rfl, rfl⟩

/-- **Every move follows the protocol.** -/
lemma Session.Lifecycle.move (h : s.Lifecycle) (hintact : ∀ source, s.Intact source)
    (hmove : Move io now s s') : s'.Lifecycle := by
  cases hmove with
  | receive source span hint bytes d' notes readable answer ingest =>
      exact h.ingested readable ingest
  | send destination budget count d' notes writable answer egress =>
      exact h.egressed writable egress
  | endOfStream source span hint result readable answer ended =>
      refine h.endOfStream readable ?_
      rcases ended with ⟨rfl, rfl⟩ | ⟨error, rfl⟩ <;> rfl
  | forward destination forwardable => exact h.forwardHalfClose (hintact _) forwardable
  | injectHalfClose injectable => exact h.injectHalfClose (hintact _) injectable
  | receiveNothing source span hint result readable answer nothing =>
      refine h.of_plain (Session.afterReceive_trace ..) (Session.afterReceive_flags ..)
        (h.receive_allowed now readable hint result) ?_ (fun _ => rfl) ?_
      · rcases nothing with ⟨rfl, rfl⟩ | ⟨error, rfl⟩ <;> simp [isPlain, IoResult.ends]
      · simp
  | sendNothing destination budget result writable answer nothing =>
      refine h.of_plain (Session.afterSend_trace ..) ?_ (h.send_allowed writable _ result)
        (by simp [isPlain]) (fun hconn => ?_) (by simp)
      · cases result <;> exact ⟨rfl, rfl, rfl, rfl, rfl⟩
      · rw [Trace.count_cons, writable.upstreamWrites hconn]
        rfl
  | refill source =>
      refine h.of_plain (List.append_nil _).symm ⟨rfl, rfl, rfl, rfl, rfl⟩
        (by simpa using h.protocol) (by simp) (by simp) fun side _ hempty => ?_
      by_cases heq : side.peer = source
      · subst heq
        rwa [Session.refilled_directionFrom_self]
      · rwa [s.refilled_directionFrom_of_ne now heq]
  | injectReset total =>
      exact h.of_plain rfl ⟨rfl, rfl, rfl, rfl, rfl⟩
        (History.guarded_snoc_iff.mpr ⟨h.protocol, trivial⟩) (by simp [isPlain]) (fun _ => rfl)
        (fun _ _ hempty => hempty)
  | connect =>
      exact ⟨h.protocol, h.endings, h.eofs, h.shutdowns, h.injections, by
        simp [Relay.markUpstreamConnected, Relay.refreshState], h.closed, rfl⟩

lemma Relay.Fresh.lifecycle {config : RelayConfig} {plan : FaultPlan} {upstreamConnecting : Bool}
    {start : ℤ} {r : Relay} (h : r.Fresh config plan upstreamConnecting start) :
    Session.Lifecycle { relay := r } := by
  refine ⟨History.guarded_nil, ?_, ?_, ?_, ?_, fun _ => rfl, ?_, ?_⟩
  · simp [h.readOpen]
  · simp [h.readOpen]
  · simp [h.writeOpen]
  · simp [h.notInjected]
  · simp [h.writeOpen]
  · rw [h.state]
    simp [Relay.refreshState, deriveConnectionState, h.connecting, h.readOpen]

/-- **An end of stream is reported at once.** -/
lemma Session.Lifecycle.reported (h : s.Lifecycle) {past future : Trace} {side : Side} {span : ℕ}
    {hint : Bool} {result : IoResult (List Byte)}
    (htrace : s.trace = past ++ .receive side span hint result now :: future)
    (hends : result.ends hint = true) :
    ∃ state rest, future = .observed (.peerHalfClosed side) state :: rest := by
  have heof : TraceEvent.isEof side (.receive side span hint result now) = true := by
    simp [TraceEvent.isEof, hends]
  -- the read side is closed, so there is a report, and it follows an end of stream
  have hcount : s.trace.count (isEof side) = s.trace.count (isEnding side) := by
    rw [h.eofs, h.endings]
  have honce : s.trace.count (isEof side) ≤ 1 := by
    rw [h.eofs]
    split_ifs <;> omega
  have hpos : 0 < s.trace.count (isEnding side) := by
    rw [← hcount]
    exact List.countP_pos_iff.mpr ⟨_, by simp [htrace], heof⟩
  obtain ⟨report, hmem, hreport⟩ := List.countP_pos_iff.mp hpos
  obtain ⟨past', rest, hsplit⟩ := List.append_of_mem hmem
  obtain ⟨side', state, rfl⟩ : ∃ side' state, report = .observed (.peerHalfClosed side') state := by
    rcases report with _ | _ | _ | ⟨_ | _ | _ | _ | _ | _, _⟩ | _ | _ <;>
      simp [TraceEvent.isEnding] at hreport
    exact ⟨_, _, rfl⟩
  obtain rfl : side' = side := by simpa [TraceEvent.isEnding] using hreport
  obtain ⟨before, e, rfl, he⟩ := h.protocol past' _ rest hsplit
  rw [List.append_assoc, List.singleton_append] at hsplit
  -- there is one end of stream at most, so it is this one
  rw [htrace] at honce hsplit
  obtain ⟨-, -, rfl⟩ := History.eq_of_countP_le_one honce heof he hsplit
  exact ⟨state, rest, rfl⟩

/-- **The last receive on a side whose read side is closed** met the end. -/
lemma Session.Lifecycle.endMet (h : s.Lifecycle) {side : Side}
    (hended : s.relay.readOpen side = false) : s.trace.EndMet side := by
  have hpos : 0 < s.trace.count (isEof side) := by
    rw [h.eofs, hended]
    exact one_pos
  obtain ⟨e, hmem, heof⟩ := List.countP_pos_iff.mp hpos
  obtain ⟨past, future, htrace⟩ := List.append_of_mem hmem
  obtain ⟨span, hint, result, now, rfl, hends⟩ := exists_receive_of_isEof heof
  refine ⟨past, span, hint, result, now, future, htrace, IoResult.ends_iff.mp hends, ?_⟩
  intro span' hint' result' now' hlater
  obtain ⟨before, after, rfl⟩ := List.append_of_mem hlater
  -- a later receive would have had an end of stream before it
  obtain ⟨-, hnone⟩ := h.protocol (past ++ .receive side span hint result now :: before)
    (.receive side span' hint' result' now') after (by rw [htrace, List.append_assoc]; rfl)
  rw [Trace.count_append, Trace.count_cons, if_pos heof] at hnone
  omega

end Lifecycle

/-- **The half-close protocol.**  In every run:
* a shutdown is attempted only while none of that socket has succeeded; of the upstream socket only
  after a receive has met the end of the client's stream and every byte of it was accepted; of the
  client socket only after the same for the upstream's stream, or as the first and only injection;
* nothing is sent to a socket after its shutdown;
* nothing is received from a socket after its end of stream;
* each report of an end of stream directly follows a receive on that side that met it, with a closed
  peer or with nothing to read after a hangup, and each such receive is directly followed by it;
  there is one of each exactly if the read side is closed;
* the upstream socket is not touched while its connect is pending;
* the state is that of the flags. -/
theorem relay_half_close_protocol (io : SocketIo) (config : RelayConfig) (hconfig : config.Valid)
    (plan : FaultPlan) (connectionId : UInt64) (upstreamConnecting : Bool) (start : ℤ)
    (calls : List Call) :
    ∃ results s, runRelay io config plan connectionId upstreamConnecting start calls =
        .ok (results, s) ∧
      (∀ (past : Trace) side cause ok future,
        s.trace = past ++ .shutdownWrite side cause ok :: future →
        past.count (isShutdown side) = 0 ∧
        (side = .upstream → past.count (isEof .client) = 1 ∧
          past.sent .upstream = past.received .client) ∧
        (side = .client → past.count (isEof .upstream) = 1 ∧
            past.sent .client = past.received .upstream ∨
          cause = .injected ∧ past.count isInjection = 0)) ∧
      (∀ (past : Trace) side data result now future,
        s.trace = past ++ .send side data result now :: future → past.count (isShutdown side) = 0) ∧
      (∀ (past : Trace) side span hint result now future,
        s.trace = past ++ .receive side span hint result now :: future →
        past.count (isEnding side) = 0 ∧ past.count (isEof side) = 0) ∧
      (∀ (past : Trace) side state future,
        s.trace = past ++ .observed (.peerHalfClosed side) state :: future →
        ∃ before span hint result now, past = before ++ [.receive side span hint result now] ∧
          ((∃ error, result = .peerClosed error) ∨ result = .wouldBlock ∧ hint = true)) ∧
      (∀ (past : Trace) side span hint result now future,
        s.trace = past ++ .receive side span hint result now :: future →
        ((∃ error, result = .peerClosed error) ∨ result = .wouldBlock ∧ hint = true) →
        ∃ state rest, future = .observed (.peerHalfClosed side) state :: rest) ∧
      (∀ side, s.trace.count (isEnding side) = (if s.relay.readOpen side then 0 else 1) ∧
        s.trace.count (isEof side) = if s.relay.readOpen side then 0 else 1) ∧
      (s.relay.upstreamConnecting = true → s.trace.count writesUpstream = 0) ∧
      s.relay.state = deriveConnectionState
        { upstreamConnecting := s.relay.upstreamConnecting
          clientReadOpen := s.relay.readOpen .client
          upstreamReadOpen := s.relay.readOpen .upstream } := by
  obtain ⟨results, s, hrun, -, -, hlife⟩ := runRelay_spec io hconfig plan connectionId
    upstreamConnecting start
    (P := fun s => (∀ source, s.Intact source) ∧ s.Lifecycle)
    (fun r hr => ⟨hr.intact, hr.lifecycle⟩)
    (fun now m m' _ h hmove => ⟨fun source => (h.1 source).move hmove, h.2.move h.1 hmove⟩) calls
  refine ⟨results, s, hrun, ?_, ?_, ?_, ?_, ?_, fun side => ⟨hlife.endings side, hlife.eofs side⟩,
    hlife.connecting, hlife.state⟩
  · intro past side cause ok future htrace
    obtain ⟨hopen, hreason⟩ := hlife.protocol past _ future htrace
    refine ⟨hopen, ?_, ?_⟩
    · rintro rfl
      simpa [Side.peer] using hreason
    · rintro rfl
      simpa [Side.peer] using hreason
  · intro past side data result now future htrace
    exact hlife.protocol past _ future htrace
  · intro past side span hint result now future htrace
    exact hlife.protocol past _ future htrace
  · intro past side state future htrace
    obtain ⟨before, e, rfl, heof⟩ := hlife.protocol past _ future htrace
    obtain ⟨span, hint, result, now, rfl, hends⟩ := exists_receive_of_isEof heof
    exact ⟨before, span, hint, result, now, rfl, IoResult.ends_iff.mp hends⟩
  · intro past side span hint result now future htrace hends
    exact hlife.reported htrace (IoResult.ends_iff.mpr hends)

/-- The client's three bytes and its end of stream, which comes as a hangup, are passed on. -/
theorem relay_half_close_protocol_scripted :
    ∃ results s, ∃ past : Trace, runRelay (.script fun _ => [1, 2, 3]) ⟨16, 4, 8⟩ {} 7 true 0
        [.markUpstreamConnected, .handleReadable .client true 1, .flush .upstream 2,
          .propagateHalfCloses] = .ok (results, s) ∧
      s.trace = past ++ [.shutdownWrite .upstream .propagated true,
        .observed (.halfCloseForwarded .upstream) .clientReadClosed] ∧
      past.count (isEof .client) = 1 ∧ past.sent .upstream = past.received .client := by
  have hcheck : returns (runRelay (.script fun _ => [1, 2, 3]) ⟨16, 4, 8⟩ {} 7 true 0
      [.markUpstreamConnected, .handleReadable .client true 1, .flush .upstream 2,
        .propagateHalfCloses])
      (fun run => decide (run.2.trace.drop 6 = [.shutdownWrite .upstream .propagated true,
        .observed (.halfCloseForwarded .upstream) .clientReadClosed])) = true := by
    decide +kernel
  obtain ⟨results, s, hrun, hshutdown, -⟩ := relay_half_close_protocol
    (.script fun _ => [1, 2, 3]) ⟨16, 4, 8⟩ (by decide) {} 7 true 0
    [.markUpstreamConnected, .handleReadable .client true 1, .flush .upstream 2,
      .propagateHalfCloses]
  have htrace : s.trace = s.trace.take 6 ++ [.shutdownWrite .upstream .propagated true,
      .observed (.halfCloseForwarded .upstream) .clientReadClosed] := by
    have hend := of_returns hcheck hrun
    rw [decide_eq_true_eq] at hend
    rw [← hend]
    exact (List.take_append_drop 6 s.trace).symm
  obtain ⟨-, hended, -⟩ := hshutdown _ _ _ _ _ htrace
  exact ⟨results, s, s.trace.take 6, hrun, htrace, hended rfl⟩

end NetFault
