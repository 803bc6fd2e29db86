import NetFault.Lib.History
import NetFault.Relay.Channels
import NetFault.Relay.Integrity

/-!
# Injected latency is bounded on both sides

The history says when each byte arrived and which eligibility stamp it was given; the delay line
holds the stamps of the bytes that are still queued, so the stamps of a stream are those that
left followed by those of the line.  The lower bound on a stamp is local.  The upper bound is
not: the monotone clamp may raise a stamp to that of an earlier block, which arrived no later and
was therefore within the same bound.
-/

namespace NetFault

namespace Trace

/-- The arrival time of each byte of one event. -/
def arrivalsIn (source : Side) : TraceEvent → List ℤ
  | .receive side _ _ (.transferred bytes) now =>
      if side = source then List.replicate bytes.length now else []
  | _ => []

/-- The stamp of each byte of one block. -/
def stampsIn (source : Side) : TraceEvent → List ℤ
  | .stamped side bytes _ eligibleAt =>
      if side = source then List.replicate bytes eligibleAt else []
  | _ => []

/-- The arrival times of the bytes from `source`, in stream order. -/
def arrivals (source : Side) (trace : Trace) : List ℤ := trace.flatMap (arrivalsIn source)

/-- The eligibility stamps of the bytes from `source`, in stream order. -/
def stamps (source : Side) (trace : Trace) : List ℤ := trace.flatMap (stampsIn source)

variable {source : Side}

@[simp] lemma arrivals_append (a b : Trace) :
    arrivals source (a ++ b) = arrivals source a ++ arrivals source b := List.flatMap_append

@[simp] lemma stamps_append (a b : Trace) :
    stamps source (a ++ b) = stamps source a ++ stamps source b := List.flatMap_append

@[simp] lemma arrivals_cons (e : TraceEvent) (trace : Trace) :
    arrivals source (e :: trace) = arrivalsIn source e ++ arrivals source trace := rfl

@[simp] lemma stamps_cons (e : TraceEvent) (trace : Trace) :
    stamps source (e :: trace) = stampsIn source e ++ stamps source trace := rfl

lemma arrivals_notes {notes : Trace} (h : ∀ e ∈ notes, e.isNote = true ∨ e.isQuiet = true) :
    arrivals source notes = [] := by
  refine List.flatMap_eq_nil_iff.mpr fun e he => ?_
  have hkind := h e he
  rcases e with ⟨_, _, _, _ | _ | _ | _, _⟩ | _ | _ | _ | _ | _ <;>
    simp_all [TraceEvent.isNote, TraceEvent.isQuiet, arrivalsIn]

lemma stamps_quiet {added : Trace} (h : ∀ e ∈ added, e.isQuiet = true) :
    stamps source added = [] := by
  refine List.flatMap_eq_nil_iff.mpr fun e he => ?_
  have hquiet := h e he
  rcases e with _ | _ | _ | _ | _ | _ <;> simp_all [TraceEvent.isQuiet, stampsIn]

lemma length_arrivals : ∀ trace : Trace,
    (arrivals source trace).length = (received source trace).length
  | [] => rfl
  | e :: trace => by
      rw [arrivals_cons, received_cons, List.length_append, List.length_append,
        length_arrivals trace]
      congr 1
      rcases e with ⟨side, _, _, _ | _ | _ | _, _⟩ | _ | _ | _ | _ | _
      all_goals simp only [arrivalsIn, receivedIn, List.length_nil]
      split_ifs
      · exact List.length_replicate
      · rfl

end Trace

/-- An observation of a tracker gives no stamps. -/
lemma Observed.stamps {side source : Side} {state : ConnectionState}
    {t t' : BackpressureTracker} {queue : ByteQueue} {now : ℤ} {notes : Trace}
    (h : Observed side state t queue now t' notes) : Trace.stamps source notes = [] := by
  obtain ⟨transition, -, rfl⟩ := h
  cases transition <;> rfl

/-- A receive on the other side gives no stamps. -/
lemma Ingest.stamps_of_ne {side source : Side} {state : ConnectionState} {d d' : Direction}
    {bytes : List Byte} {now : ℤ} {notes : Trace} (h : Ingest side state d bytes now d' notes)
    (hne : side ≠ source) : Trace.stamps source notes = [] := by
  obtain ⟨tail, hobs, rfl⟩ := h.observed
  rw [Trace.stamps_append, hobs.stamps, List.append_nil]
  refine List.flatMap_eq_nil_iff.mpr fun e he => ?_
  obtain ⟨delay, eligible, rfl⟩ := eq_stamped_of_mem he
  exact if_neg hne

/-! ## The invariant of a delayed direction -/

/-- A send offers only bytes whose stamps have passed: the bytes that `data` is are the next of
the stream. -/
def SendsOnlyEligible (source : Side) (past : Trace) : TraceEvent → Prop
  | .send side data _ now => side = source.peer →
      data <+: (past.received source).drop (past.sent source.peer).length ∧
      ∀ i < data.length, ∃ e,
        (past.stamps source)[(past.sent source.peer).length + i]? = some e ∧ e ≤ now
  | _ => True

/-- The stamps of the direction from `source`, whose delays lie between `least` and `most`, at
the time `last`. -/
structure Session.Delayed (source : Side) (least most last : ℤ) (s : Session) : Prop where
  bounds : List.Forall₂ (fun r e => r + least ≤ e ∧ e ≤ r + most) (s.trace.arrivals source)
    (s.trace.stamps source)
  sorted : (s.trace.stamps source).Pairwise (· ≤ ·)
  line : ∀ channel line, (s.relay.directionFrom source).fault = some channel →
    channel.delay = some line →
    line.stamps = (s.trace.stamps source).drop (s.trace.sent source.peer).length ∧
    line.lastEligible ≤ last + most ∧ ∀ e ∈ s.trace.stamps source, e ≤ line.lastEligible
  sends : History.Guarded (SendsOnlyEligible source) s.trace

lemma sendsOnlyEligible_of_kind {source : Side} {past : Trace} {e : TraceEvent}
    (h : e.isNote = true ∨ e.isQuiet = true) : SendsOnlyEligible source past e := by
  rcases e with _ | _ | _ | _ | _ | _ <;>
    simp_all [SendsOnlyEligible, TraceEvent.isNote, TraceEvent.isQuiet]

section Delayed

variable {io : SocketIo} {source : Side} {least most past now : ℤ} {s s' : Session}

/-- A step that does not touch the stream from `source`. -/
lemma Session.Delayed.of_same (h : s.Delayed source least most past) (hle : past ≤ now)
    {added : Trace} (htrace : s'.trace = s.trace ++ added)
    (harrivals : Trace.arrivals source added = []) (hstamps : Trace.stamps source added = [])
    (hsent : Trace.sent source.peer added = [])
    (hallowed : History.Guarded (SendsOnlyEligible source) (s.trace ++ added))
    (hline : ∀ channel' line, (s'.relay.directionFrom source).fault = some channel' →
      channel'.delay = some line → ∃ channel, (s.relay.directionFrom source).fault = some channel ∧
      channel.delay = some line) :
    s'.Delayed source least most now := by
  refine ⟨?_, ?_, ?_, htrace ▸ hallowed⟩
  · simpa only [htrace, Trace.arrivals_append, Trace.stamps_append, harrivals, hstamps,
      List.append_nil] using h.bounds
  · simpa only [htrace, Trace.stamps_append, hstamps, List.append_nil] using h.sorted
  · intro channel' line hc hl
    obtain ⟨channel, hc', hl'⟩ := hline channel' line hc hl
    obtain ⟨heq, hlast, hmax⟩ := h.line channel line hc' hl'
    simp only [htrace, Trace.stamps_append, Trace.sent_append, hstamps, hsent, List.append_nil]
    exact ⟨heq, hlast.trans (by omega), hmax⟩

/-- A receive stamps its block: no earlier than its own delay allows, and no later than the
largest delay after now, whether the stamp is its own or that of an earlier block. -/
lemma Session.Delayed.ingested (h : s.Delayed source least most past) (hle : past ≤ now)
    {span : ℕ} {hint : Bool} {bytes : List Byte} {d' : Direction} {notes : Trace}
    (hpos : 0 < bytes.length)
    (hingest : Ingest source s.relay.state (s.relay.directionFrom source) bytes now d' notes)
    {channel channel' : FaultChannel} {line line' : DelayLine}
    (hc : (s.relay.directionFrom source).fault = some channel) (hl : channel.delay = some line)
    (hc' : d'.fault = some channel') (hl' : channel'.delay = some line') {delay : ℤ}
    (hline : line' = line.onCommit bytes.length (now + delay))
    (hdelay : least ≤ delay ∧ delay ≤ most)
    (hnotes : Trace.stamps source notes = List.replicate bytes.length line'.lastEligible)
    (hsent : (s.trace.sent source.peer).length ≤ (s.trace.stamps source).length) :
    (s.ingested source span hint bytes now d' notes).Delayed source least most now := by
  obtain ⟨hstamps, hlast, hmax⟩ := h.line channel line hc hl
  have hclamp : line'.lastEligible = line.clamp (now + delay) := by
    rw [hline, DelayLine.lastEligible_onCommit _ hpos]
  have hstamp_lo : now + least ≤ line'.lastEligible := by
    have := line.le_clamp (now + delay)
    omega
  have hstamp_hi : line'.lastEligible ≤ now + most := by
    rw [hclamp, DelayLine.clamp]
    split_ifs <;> omega
  have hold : ∀ e ∈ s.trace.stamps source, e ≤ line'.lastEligible := fun e he =>
    (hmax e he).trans (hclamp ▸ line.lastEligible_le_clamp _)
  have hstampsEq : (s.ingested source span hint bytes now d' notes).trace.stamps source =
      s.trace.stamps source ++ List.replicate bytes.length line'.lastEligible := by
    simp [Session.ingested, Trace.stampsIn, hnotes]
  have harrivalsEq : (s.ingested source span hint bytes now d' notes).trace.arrivals source =
      s.trace.arrivals source ++ List.replicate bytes.length now := by
    simp [Session.ingested, Trace.arrivalsIn,
      Trace.arrivals_notes fun e he => .inl (hingest.isNote e he)]
  have hsentEq : (s.ingested source span hint bytes now d' notes).trace.sent source.peer =
      s.trace.sent source.peer := by
    simp [Session.ingested, Trace.sentIn, Trace.sent_notes source.peer hingest.isNote]
  refine ⟨?_, ?_, ?_, ?_⟩
  · rw [hstampsEq, harrivalsEq]
    refine List.rel_append h.bounds (List.forall₂_iff_zip.mpr ⟨by simp, fun hmem => ?_⟩)
    rw [List.zip_replicate', List.mem_replicate] at hmem
    obtain ⟨rfl, rfl⟩ := Prod.mk.inj hmem.2
    exact ⟨hstamp_lo, hstamp_hi⟩
  · rw [hstampsEq]
    refine List.pairwise_append.mpr ⟨h.sorted, List.pairwise_replicate.mpr (.inr le_rfl), ?_⟩
    intro a ha b hb
    rw [List.eq_of_mem_replicate hb]
    exact hold a ha
  · intro channel'' line'' hc'' hl''
    obtain rfl : channel' = channel'' := by simpa [hc'] using hc''
    obtain rfl : line' = line'' := by simpa [hl'] using hl''
    refine ⟨?_, hstamp_hi, ?_⟩
    · rw [hstampsEq, hsentEq, List.drop_append_of_le_length hsent, ← hstamps, hclamp, hline,
        DelayLine.stamps_onCommit _ hpos]
    · rw [hstampsEq]
      intro e he
      rcases List.mem_append.mp he with he | he
      · exact hold e he
      · exact (List.eq_of_mem_replicate he).le
  · refine h.sends.append_of_forall fun past e he => ?_
    rcases List.mem_cons.mp he with rfl | he
    · trivial
    · exact sendsOnlyEligible_of_kind (.inl (hingest.isNote e he))

/-- What a permissible send offers is released by the delay line, so its stamps have passed. -/
lemma Session.Delayed.offer (h : s.Delayed source least most past) (hinv : s.Inv)
    (hintact : s.Intact source) {budget : ℕ} (hwritable : s.Writable source.peer budget now)
    {channel : FaultChannel} {line : DelayLine}
    (hc : (s.relay.directionFrom source).fault = some channel) (hl : channel.delay = some line)
    (result : IoResult ℕ) :
    SendsOnlyEligible source s.trace
      (.send source.peer (s.offer source.peer budget) result now) := by
  have hoffer := hwritable.offer_eq
  have hreleased := hwritable.released
  rw [Side.peer_peer] at hoffer hreleased
  intro _
  refine ⟨?_, fun i hi => ?_⟩
  · rw [hintact.stream, List.drop_left, hoffer]
    exact List.take_prefix _ _
  · rw [hoffer, List.length_take] at hi
    have hrel := hreleased channel line hc hl
    obtain ⟨e, he, hpassed⟩ := DelayLine.stamps_getElem_le_of_lt_releasable
      ((hinv source).delay channel line hc hl).1 (by omega : i < line.releasable now)
    rw [(h.line channel line hc hl).1, List.getElem?_drop] at he
    exact ⟨e, he, hpassed⟩

/-- A send takes the stamps of what was accepted from the line. -/
lemma Session.Delayed.egressed (h : s.Delayed source least most past) (hle : past ≤ now)
    (hinv : s.Inv) {budget count : ℕ} {d' : Direction} {notes : Trace}
    (hwritable : s.Writable source.peer budget now) (hcount : count ≤ budget)
    (hegress : Egress source s.relay.state (s.relay.directionFrom source) count now d' notes)
    (hoffer : SendsOnlyEligible source s.trace
      (.send source.peer (s.offer source.peer budget) (.transferred count) now)) :
    (s.egressed source.peer budget count now d' notes).Delayed source least most now := by
  have hsize := hcount.trans hwritable.budget_le_size
  have hoffer_eq := hwritable.offer_eq
  rw [Side.peer_peer] at hsize hoffer_eq
  have hstampsEq : (s.egressed source.peer budget count now d' notes).trace.stamps source =
      s.trace.stamps source := by
    simp [Session.egressed, Trace.stampsIn, hegress.observed.stamps]
  have harrivalsEq : (s.egressed source.peer budget count now d' notes).trace.arrivals source =
      s.trace.arrivals source := by
    simp [Session.egressed, Trace.arrivalsIn,
      Trace.arrivals_notes fun e he => .inl (hegress.observed.isNote e he)]
  have hsentEq :
      ((s.egressed source.peer budget count now d' notes).trace.sent source.peer).length =
        (s.trace.sent source.peer).length + count := by
    have hlen : ((s.offer source.peer budget).take count).length = count := by
      rw [hoffer_eq, List.take_take, min_eq_left hcount, List.length_take, ByteQueue.length_content,
        min_eq_left hsize]
    simpa [Session.egressed, Trace.sentIn, Trace.sent_notes source.peer hegress.observed.isNote]
      using hlen
  refine ⟨by rw [hstampsEq, harrivalsEq]; exact h.bounds, by rw [hstampsEq]; exact h.sorted, ?_, ?_⟩
  · intro channel' line' hc' hl'
    have hdir := s.egressed_directionFrom_self source.peer budget count now d' notes
    rw [Side.peer_peer] at hdir
    rw [hdir] at hc'
    obtain ⟨channel, hc, -, hdelay, -⟩ := consumeFault_some (hegress.fault.trans (congrArg _ hc'))
    obtain ⟨line, hl, hok⟩ := hdelay line' hl'
    obtain ⟨hw, hpending⟩ := (hinv source).delay channel line hc hl
    obtain ⟨line'', hok', -, hdrop, -, hlast'⟩ := hw.onConsume (by omega : count ≤ line.pending)
    obtain rfl : line'' = line' := by simpa [hok] using hok'.symm
    obtain ⟨hstamps, hlast, hmax⟩ := h.line channel line hc hl
    rw [hstampsEq, hsentEq, hdrop, hlast', hstamps, List.drop_drop]
    exact ⟨rfl, hlast.trans (by omega), hmax⟩
  · have hnotes : ∀ past', ∀ e ∈ notes, SendsOnlyEligible source past' e := fun past' e he =>
      sendsOnlyEligible_of_kind (.inl (hegress.observed.isNote e he))
    have hfirst := History.guarded_snoc_iff.mpr ⟨h.sends, hoffer⟩
    simpa [Session.egressed] using hfirst.append_of_forall hnotes

/-- A receive from the other side. -/
lemma Session.Delayed.ingested_other (h : s.Delayed source least most past) (hle : past ≤ now)
    {side : Side} {span : ℕ} {hint : Bool} {bytes : List Byte} {d' : Direction} {notes : Trace}
    (hne : side ≠ source)
    (hingest : Ingest side s.relay.state (s.relay.directionFrom side) bytes now d' notes) :
    (s.ingested side span hint bytes now d' notes).Delayed source least most now := by
  refine h.of_same hle rfl ?_ ?_ ?_ ?_ ?_
  · simp [Trace.arrivalsIn, hne, Trace.arrivals_notes fun e he => .inl (hingest.isNote e he)]
  · simp [Trace.stampsIn, hingest.stamps_of_ne hne]
  · simp [Trace.sentIn, Trace.sent_notes source.peer hingest.isNote]
  · refine h.sends.append_of_forall fun past' e he => ?_
    rcases List.mem_cons.mp he with rfl | he
    · trivial
    · exact sendsOnlyEligible_of_kind (.inl (hingest.isNote e he))
  · intro channel line hc hl
    rw [Session.ingested_directionFrom_of_ne _ _ _ _ _ _ _ (Ne.symm hne)] at hc
    exact ⟨channel, hc, hl⟩

/-- A send in the other direction. -/
lemma Session.Delayed.egressed_other (h : s.Delayed source least most past) (hle : past ≤ now)
    {destination : Side} {budget count : ℕ} {d' : Direction} {notes : Trace}
    (hne : destination ≠ source.peer)
    (hegress : Egress destination.peer s.relay.state (s.relay.directionFrom destination.peer) count
      now d' notes) :
    (s.egressed destination budget count now d' notes).Delayed source least most now := by
  refine h.of_same hle rfl ?_ ?_ ?_ ?_ ?_
  · simp [Trace.arrivalsIn, Trace.arrivals_notes fun e he => .inl (hegress.observed.isNote e he)]
  · simp [Trace.stampsIn, hegress.observed.stamps]
  · simp [Trace.sentIn, hne, Trace.sent_notes source.peer hegress.observed.isNote]
  · refine h.sends.append_of_forall fun past' e he => ?_
    rcases List.mem_cons.mp he with rfl | he
    · exact fun hd => absurd hd hne
    · exact sendsOnlyEligible_of_kind (.inl (hegress.observed.isNote e he))
  · intro channel line hc hl
    rw [Session.egressed_directionFrom_of_ne _ _ _ _ _ _ (Side.ne_peer_comm.mp hne)] at hc
    exact ⟨channel, hc, hl⟩

/-- A send that took nothing, in either direction. -/
lemma Session.Delayed.afterSend (h : s.Delayed source least most past) (hle : past ≤ now)
    {destination : Side} {data : List Byte} {result : IoResult ℕ}
    (hnothing : ∀ count, result ≠ .transferred count)
    (hoffer : SendsOnlyEligible source s.trace (.send destination data result now)) :
    (s.afterSend destination data result now).Delayed source least most now := by
  refine h.of_same hle (Session.afterSend_trace ..) rfl rfl ?_
    (History.guarded_snoc_iff.mpr ⟨h.sends, hoffer⟩) ?_
  · rcases result with count | _ | _ | _
    · exact absurd rfl (hnothing count)
    all_goals rfl
  · intro channel line hc hl
    rw [Session.afterSend_directionFrom] at hc
    exact ⟨channel, hc, hl⟩

/-- A step that transfers nothing; a refill does not touch the line. -/
lemma Session.Delayed.quiet (h : s.Delayed source least most past) (hle : past ≤ now)
    (hquiet : Quiet now s s') : s'.Delayed source least most now := by
  obtain ⟨added, htrace, hadded⟩ := hquiet.trace
  refine h.of_same hle htrace (Trace.arrivals_notes fun e he => .inr (hadded e he))
    (Trace.stamps_quiet hadded) (Trace.sent_quiet _ hadded)
    (h.sends.append_of_forall fun _ e he => sendsOnlyEligible_of_kind (.inr (hadded e he))) ?_
  intro channel' line hc hl
  rcases hquiet.direction source with heq | heq
  · exact ⟨channel', heq ▸ hc, hl⟩
  · rw [heq] at hc
    obtain ⟨channel, hc', rfl⟩ := Option.map_eq_some_iff.mp hc
    exact ⟨channel, hc', hl⟩

end Delayed

/-! ## Every move keeps the bounds -/

namespace FaultPlan

/-- The least delay of a block, in nanoseconds. -/
def leastDelay (plan : FaultPlan) : ℤ := max 0 ((plan.latency - plan.jitter) * 1000000)

/-- The largest delay of a block, in nanoseconds. -/
def mostDelay (plan : FaultPlan) : ℤ := (plan.latency + plan.jitter) * 1000000

/-- Plans with a delay line whose delays fit their types. -/
structure DelayBounded (plan : FaultPlan) : Prop where
  latency_nonneg : 0 ≤ plan.latency
  jitter_nonneg : 0 ≤ plan.jitter
  sum_le : plan.latency + plan.jitter ≤ 60000
  delays : plan.latency > 0 ∨ plan.jitter > 0

end FaultPlan

/-- A drawn delay lies between the least and the largest of the plan. -/
lemma FaultChannel.Follows.delay_mem {plan : FaultPlan} {channel : FaultChannel}
    (h : channel.Follows plan) (hplan : plan.DelayBounded) :
    plan.leastDelay ≤ max 0 (channel.latency + (sampleJitter channel.rng channel.jitter).1) ∧
      max 0 (channel.latency + (sampleJitter channel.rng channel.jitter).1) ≤ plan.mostDelay := by
  have hlat := hplan.latency_nonneg
  have hjit := hplan.jitter_nonneg
  have hsum := hplan.sum_le
  have hlatency : channel.latency = plan.latency * 1000000 := by
    rw [h.latency, i64_of_abs_lt (by omega) (by omega)]
  have hjitter : channel.jitter = plan.jitter * 1000000 := by
    rw [h.jitter, i64_of_abs_lt (by omega) (by omega)]
  obtain ⟨hlo, hhi⟩ := sampleJitter_mem channel.rng (by omega : 0 ≤ channel.jitter)
    (by omega)
  simp only [FaultPlan.leastDelay, FaultPlan.mostDelay]
  omega

/-- The direction from `source`, with its parameters, its stream and its stamps. -/
structure Session.LatencyBounded (config : RelayConfig) (plan : FaultPlan) (source : Side)
    (last : ℤ) (s : Session) : Prop where
  follows : s.Follows config plan
  intact : s.Intact source
  delayed : s.Delayed source plan.leastDelay plan.mostDelay last

section LatencyBounded

variable {io : SocketIo} {config : RelayConfig} {plan : FaultPlan} {source : Side}
  {past now : ℤ} {s s' : Session}

/-- Stamps are as many as bytes received, so never fewer than bytes sent. -/
lemma Session.LatencyBounded.sent_le (h : s.LatencyBounded config plan source past) :
    (s.trace.sent source.peer).length ≤ (s.trace.stamps source).length := by
  rw [← h.delayed.bounds.length_eq, Trace.length_arrivals, h.intact.stream, List.length_append]
  exact Nat.le_add_right _ _

lemma Session.LatencyBounded.move (h : s.LatencyBounded config plan source past) (hinv : s.Inv)
    (hplan : plan.DelayBounded) (happlies : plan.appliesTo source = true) (hle : past ≤ now)
    (hmove : Move io now s s') : s'.LatencyBounded config plan source now := by
  have hfollows := h.follows.move hmove
  refine ⟨hfollows, h.intact.move hmove, ?_⟩
  rcases hmove.transfer_or_quiet with ⟨side, span, hint, bytes, d', notes, -, hio, hingest, rfl⟩ |
    ⟨destination, budget, count, d', notes, hwritable, hio, hegress, rfl⟩ |
    ⟨destination, budget, result, hwritable, hnothing, rfl⟩ | hquiet
  · by_cases heq : side = source
    · subst heq
      obtain ⟨channel', line', hc', hl'⟩ := hfollows.exists_line hplan.delays happlies
      rw [Session.ingested_directionFrom_self] at hc'
      obtain ⟨channel, line, delay, hc, hl, hline, hdelay, -, -, hnotes⟩ :=
        stampFault_delay (hingest.fault.symm.trans hc') hl'
      obtain ⟨tail, hobs, heq⟩ := hingest.observed
      refine h.delayed.ingested hle (io.receive_transferred _ _ _ _ hio).1 hingest hc hl hc' hl'
        hline (hdelay ▸ ((h.follows side).channel channel hc).delay_mem hplan) ?_ h.sent_le
      rw [heq, Trace.stamps_append, hobs.stamps, hnotes]
      simp [Trace.stamps, Trace.stampsIn]
    · exact h.delayed.ingested_other hle heq hingest
  · by_cases heq : destination = source.peer
    · subst heq
      simp only [Side.peer_peer] at hegress
      obtain ⟨channel, line, hc, hl⟩ := h.follows.exists_line hplan.delays happlies
      exact h.delayed.egressed hle hinv hwritable (hwritable.count_le hio).2 hegress
        (h.delayed.offer hinv h.intact hwritable hc hl _)
    · exact h.delayed.egressed_other hle heq hegress
  · refine h.delayed.afterSend hle hnothing ?_
    by_cases heq : destination = source.peer
    · subst heq
      obtain ⟨channel, line, hc, hl⟩ := h.follows.exists_line hplan.delays happlies
      exact h.delayed.offer hinv h.intact hwritable hc hl result
    · exact fun hd => absurd hd heq
  · exact h.delayed.quiet hle hquiet

lemma Relay.Fresh.latencyBounded {upstreamConnecting : Bool} {start : ℤ} {r : Relay}
    (h : r.Fresh config plan upstreamConnecting start) (hplan : plan.DelayBounded)
    (hstart : 0 ≤ start) (source : Side) :
    Session.LatencyBounded config plan source start { relay := r } := by
  refine ⟨h.follows, h.intact source, .nil, .nil, ?_, History.guarded_nil⟩
  intro channel line hc hl
  have hdelay := ((h.direction source).channel channel hc).delay
  rw [if_pos hplan.delays, hl] at hdelay
  obtain rfl : line = {} := by simpa using hdelay
  have hlat := hplan.latency_nonneg
  have hjit := hplan.jitter_nonneg
  refine ⟨rfl, ?_, by simp [Trace.stamps]⟩
  simp only [FaultPlan.mostDelay]
  omega

end LatencyBounded

/-- **Injected latency is bounded on both sides.**  For a plan with latency `l` and jitter `j`, in
milliseconds, in a run at nondecreasing times: the delay line holds the stamps of the queued
bytes; every byte that arrived at `r` was given a stamp between `r + max 0 (l - j)` and
`r + l + j`; stamps never decrease along the stream; and every send, accepted or not, offers the
next bytes of the stream at a time no earlier than their stamps. -/
theorem relay_latency_bounded (io : SocketIo) (config : RelayConfig) (hconfig : config.Valid)
    (plan : FaultPlan) (hplan : plan.validate = .ok ()) (hsum : plan.latency + plan.jitter ≤ 60000)
    (hdelays : plan.latency > 0 ∨ plan.jitter > 0) (connectionId : UInt64)
    (upstreamConnecting : Bool) (start : ℤ) (hstart : 0 ≤ start) (calls : List Call)
    (hclock : Clocked start calls) (source : Side) (happlies : plan.appliesTo source = true) :
    ∃ results s, runRelay io config plan connectionId upstreamConnecting start calls =
        .ok (results, s) ∧
      (∃ channel line, (s.relay.directionFrom source).fault = some channel ∧
        channel.delay = some line ∧
        line.stamps = (s.trace.stamps source).drop (s.trace.sent source.peer).length) ∧
      List.Forall₂ (fun r e => r + max 0 ((plan.latency - plan.jitter) * 1000000) ≤ e ∧
          e ≤ r + (plan.latency + plan.jitter) * 1000000)
        (s.trace.arrivals source) (s.trace.stamps source) ∧
      (s.trace.stamps source).Pairwise (· ≤ ·) ∧
      ∀ (past : Trace) data result now future,
        s.trace = past ++ .send source.peer data result now :: future →
        data <+: (past.received source).drop (past.sent source.peer).length ∧
        ∀ i < data.length, ∃ e,
          (past.stamps source)[(past.sent source.peer).length + i]? = some e ∧ e ≤ now := by
  obtain ⟨hlat, hjit, -⟩ := plan.validate_spec hplan
  have hbounded : plan.DelayBounded := ⟨hlat, hjit, hsum, hdelays⟩
  obtain ⟨results, s, last, hrun, -, hlimited⟩ := runRelay_timed hconfig plan connectionId
    upstreamConnecting
    (P := fun last s => s.LatencyBounded config plan source last)
    (fun r hr => hr.latencyBounded hbounded hstart source)
    (fun past now m m' hle hinv h hmove => h.move hinv hbounded happlies hle hmove) hclock
  obtain ⟨channel, line, hc, hl⟩ := hlimited.follows.exists_line hdelays happlies
  exact ⟨results, s, hrun,
    ⟨channel, line, hc, hl, (hlimited.delayed.line channel line hc hl).1⟩,
    hlimited.delayed.bounds, hlimited.delayed.sorted,
    fun past data result now future htrace => hlimited.delayed.sends past _ future htrace rfl⟩

/-- Three bytes that arrive at 1 under a latency of five milliseconds and a jitter of two. -/
theorem relay_latency_bounded_scripted :
    ∃ results s, runRelay (.script fun _ => [1, 2, 3]) ⟨16, 4, 8⟩ { latency := 5, jitter := 2 } 7
        false 0 [.handleReadable .client false 1, .flush .upstream 8000000] = .ok (results, s) ∧
      (s.trace.stamps .client).length = 3 ∧
      ∀ e ∈ s.trace.stamps .client, 3000001 ≤ e ∧ e ≤ 7000001 := by
  have hcheck : returns (runRelay (.script fun _ => [1, 2, 3]) ⟨16, 4, 8⟩
      { latency := 5, jitter := 2 } 7 false 0
      [.handleReadable .client false 1, .flush .upstream 8000000])
      (fun run => decide (run.2.trace.arrivals .client = [1, 1, 1])) = true := by
    decide +kernel
  obtain ⟨results, s, hrun, -, hbounds, -⟩ := relay_latency_bounded
    (.script fun _ => [1, 2, 3]) ⟨16, 4, 8⟩ (by decide) { latency := 5, jitter := 2 } (by decide)
    (by decide) (by decide) 7 false 0 (by decide)
    [.handleReadable .client false 1, .flush .upstream 8000000] (by decide) .client (by decide)
  have harrivals := of_returns hcheck hrun
  rw [decide_eq_true_eq] at harrivals
  rw [harrivals] at hbounds
  refine ⟨results, s, hrun, hbounds.length_eq.symm, fun e he => ?_⟩
  obtain ⟨r, hr, hle, hge⟩ : ∃ r ∈ ([1, 1, 1] : List ℤ),
      r + max 0 ((5 - 2) * 1000000) ≤ e ∧ e ≤ r + (5 + 2) * 1000000 := by
    obtain ⟨i, hi, rfl⟩ := List.getElem_of_mem he
    have hlength := hbounds.length_eq
    exact ⟨_, List.getElem_mem (hlength ▸ hi), hbounds.get (hlength ▸ hi) hi⟩
  obtain rfl : r = 1 := by simpa using hr
  exact ⟨by omega, by omega⟩

end NetFault
