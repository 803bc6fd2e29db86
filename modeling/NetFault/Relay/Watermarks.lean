import NetFault.Lib.Hysteresis
import NetFault.Relay.Channels
import NetFault.Relay.Integrity

/-!
# The watermarks over whole runs

The tracker keeps a flag, three counters and a sum.  What these should be is a statement about the
occupancies it was told: whether the last one outside of the band was high, how many pauses there
were, how many runs of full queues, and for how long the reads have been paused.  `Records` says
that the tracker agrees with such a past, and one observation keeps it (`Records.observe`).

That the past is that of the queue is the other half.  Every receive and every send observes the
queue it leaves behind, so in each reachable state the last observation is the size of the queue
(`Session.Watched`).
-/

namespace NetFault

/-! ## The tracker and its past -/

/-- Transitions that alternate, beginning with a pause. -/
def alternation (n : ℕ) : List BackpressureTransition :=
  (List.range n).map fun i => if i % 2 = 0 then .paused else .resumed

lemma alternation_succ (n : ℕ) :
    alternation (n + 1) = alternation n ++ [if n % 2 = 0 then .paused else .resumed] := by
  unfold alternation
  rw [List.range_succ, List.map_append, List.map_singleton]

/-- The transition an observation reports, if any. -/
def BackpressureTransition.reported : BackpressureTransition → List BackpressureTransition
  | .none => []
  | transition => [transition]

namespace BackpressureTracker

/-- The tracker agrees with the observations it was told, each an occupancy of a queue of `capacity`
and a time, and with the transitions it has reported. -/
structure Records (t : BackpressureTracker) (capacity : ℕ) (observations : List (ℕ × ℤ))
    (transitions : List BackpressureTransition) : Prop where
  paused : t.readPaused =
    Hysteresis.latched t.lowWaterBytes t.highWaterBytes (observations.map Prod.fst)
  alternating : transitions = alternation transitions.length
  odd : t.readPaused = decide (transitions.length % 2 = 1)
  pauses : t.pauseCount = UInt64.ofNat ((transitions.length + 1) / 2)
  resumes : t.resumeCount = UInt64.ofNat (transitions.length / 2)
  full : t.atCapacity = observations.getLast?.any fun seen => seen.1 == capacity
  saturations : t.saturationCount =
    UInt64.ofNat (Hysteresis.runs (fun seen => seen.1 == capacity) observations)

variable {t t' : BackpressureTracker} {occupancy capacity : ℕ} {now : ℤ}
  {transition : BackpressureTransition} {observations : List (ℕ × ℤ)}
  {transitions : List BackpressureTransition}

lemma records_fresh {low high : ℕ} (h : low < high) (capacity : ℕ) :
    ({ lowWaterBytes := low, highWaterBytes := high, low_lt_high := h } :
      BackpressureTracker).Records capacity [] [] :=
  ⟨rfl, rfl, rfl, rfl, rfl, rfl, rfl⟩

/-- The saturation bookkeeping counts the runs. -/
lemma Records.noteSaturation (h : t.Records capacity observations transitions) (occupancy : ℕ)
    (now : ℤ) :
    (t.noteSaturation (occupancy == capacity)).saturationCount =
      UInt64.ofNat (Hysteresis.runs (fun seen => seen.1 == capacity)
        (observations ++ [(occupancy, now)])) := by
  rw [Hysteresis.runs_append, ← h.full]
  unfold BackpressureTracker.noteSaturation
  by_cases hbegins : (occupancy == capacity && !t.atCapacity) = true
  · simp only [if_pos hbegins]
    rw [h.saturations, UInt64.ofNat_add]
    rfl
  · simp only [if_neg hbegins]
    exact h.saturations

/-- A transition continues the alternation, if it is the one whose turn it is. -/
lemma Records.alternating_append (h : t.Records capacity observations transitions)
    (hturn : transition = if transitions.length % 2 = 0 then .paused else .resumed) :
    transitions ++ [transition] = alternation (transitions ++ [transition]).length := by
  rw [List.length_append, List.length_singleton, alternation_succ, ← hturn, ← h.alternating]

/-- The flag after an observation is the latch after it. -/
lemma Records.paused_observe (h : t.Records capacity observations transitions)
    (hobs : t.observe occupancy capacity now = .ok (transition, t')) :
    t'.readPaused = Hysteresis.latched t'.lowWaterBytes t'.highWaterBytes
      ((observations ++ [(occupancy, now)]).map Prod.fst) := by
  have hlatched := Hysteresis.latched_append t.lowWaterBytes t.highWaterBytes
    (observations.map Prod.fst) occupancy
  have hwater := t.low_lt_high
  rw [List.map_append, List.map_singleton]
  rcases observe_cases hobs with ⟨-, -, hhigh, rfl⟩ | ⟨-, -, hlow, rfl⟩ | ⟨-, hbelow, habove, rfl⟩
  · exact (hlatched.trans (if_pos hhigh)).symm
  · refine (hlatched.trans ?_).symm
    rw [if_neg (by omega), if_pos hlow]
  · -- the flag stays as it was, and so does the latch: it is either in the band or there already
    refine h.paused.trans (hlatched.trans ?_).symm
    rcases hflag : t.readPaused with _ | _
    · rw [if_neg (not_le.mpr (hbelow hflag))]
      rw [h.paused] at hflag
      split_ifs
      · exact hflag.symm
      · rfl
    · have hheld : ¬occupancy ≤ t.lowWaterBytes := not_le.mpr (habove hflag)
      rw [h.paused] at hflag
      rw [if_neg hheld]
      split_ifs
      · exact hflag.symm
      · rfl

/-- **One observation keeps the agreement.** -/
lemma Records.observe (h : t.Records capacity observations transitions)
    (hobs : t.observe occupancy capacity now = .ok (transition, t')) :
    t'.Records capacity (observations ++ [(occupancy, now)])
      (transitions ++ transition.reported) := by
  have hodd := h.odd
  have hlatched := h.paused_observe hobs
  have hsaturations := h.noteSaturation occupancy now
  have hfull : (occupancy == capacity) =
      (observations ++ [(occupancy, now)]).getLast?.any fun seen => seen.1 == capacity := by simp
  rcases observe_cases hobs with ⟨rfl, hrunning, -, rfl⟩ | ⟨rfl, hpaused, -, rfl⟩ |
    ⟨rfl, -, -, rfl⟩
  · -- a pause begins, and the transitions so far are even in number
    have heven : transitions.length % 2 = 0 := by
      rw [hrunning] at hodd
      have := of_decide_eq_false hodd.symm
      omega
    have hnext : (transitions ++ [BackpressureTransition.paused]).length =
        transitions.length + 1 := by simp
    refine ⟨hlatched, h.alternating_append (by rw [if_pos heven]), ?_, ?_, ?_, hfull,
      hsaturations⟩
    · simp only [BackpressureTransition.reported, hnext]
      exact (decide_eq_true (by omega)).symm
    · simp only [BackpressureTransition.reported, hnext, h.pauses]
      rw [show (transitions.length + 1 + 1) / 2 = (transitions.length + 1) / 2 + 1 by omega,
        UInt64.ofNat_add]
      rfl
    · simp only [BackpressureTransition.reported, hnext]
      rw [show (transitions.length + 1) / 2 = transitions.length / 2 by omega]
      exact h.resumes
  · -- a pause ends, and they are odd
    have hone : transitions.length % 2 = 1 := by
      rw [hpaused] at hodd
      exact of_decide_eq_true hodd.symm
    have hnext : (transitions ++ [BackpressureTransition.resumed]).length =
        transitions.length + 1 := by simp
    refine ⟨hlatched, h.alternating_append (by rw [if_neg (by omega)]), ?_, ?_, ?_, hfull,
      hsaturations⟩
    · simp only [BackpressureTransition.reported, hnext]
      exact (decide_eq_false (by omega)).symm
    · simp only [BackpressureTransition.reported, hnext]
      rw [show (transitions.length + 1 + 1) / 2 = (transitions.length + 1) / 2 by omega]
      exact h.pauses
    · simp only [BackpressureTransition.reported, hnext, h.resumes]
      rw [show (transitions.length + 1) / 2 = transitions.length / 2 + 1 by omega,
        UInt64.ofNat_add]
      rfl
  · -- nothing is reported
    simp only [BackpressureTransition.reported, List.append_nil]
    exact ⟨hlatched, h.alternating, hodd, h.pauses, h.resumes, hfull, hsaturations⟩

/-- From the last observation on, the time paused is the sum the tracker has and the time since, if
it is paused now. -/
def Timed (t : BackpressureTracker) (start : ℤ) (observations : List (ℕ × ℤ)) : Prop :=
  ∀ now, start ≤ now → (∀ seen ∈ observations, seen.2 ≤ now) →
    t.pausedDuration now =
      Hysteresis.latchedTime t.lowWaterBytes t.highWaterBytes observations start now

lemma timed_fresh {low high : ℕ} (h : low < high) (start : ℤ) :
    ({ lowWaterBytes := low, highWaterBytes := high, low_lt_high := h } :
      BackpressureTracker).Timed start [] := by
  intro now _ _
  simp [pausedDuration]

/-- What an observation at `time` does to the time paused. -/
lemma pausedDuration_observe {time : ℤ}
    (hobs : t.observe occupancy capacity time = .ok (transition, t')) (now : ℤ) :
    t'.pausedDuration now =
      t.pausedDuration time + if t'.readPaused then now - time else 0 := by
  rcases observe_cases hobs with ⟨rfl, hrunning, -, rfl⟩ | ⟨rfl, hpaused, -, rfl⟩ |
    ⟨rfl, -, -, rfl⟩
  · simp [pausedDuration, BackpressureTracker.noteSaturation, hrunning]
  · simp [pausedDuration, hpaused]
  · rcases hflag : t.readPaused with _ | _
    · simp [pausedDuration, BackpressureTracker.noteSaturation, hflag]
    · simp only [pausedDuration, BackpressureTracker.noteSaturation, hflag, if_true]
      omega

/-- **An observation keeps the sum of the pauses**, if it is not made before an earlier one. -/
lemma Timed.observe {start time : ℤ} (h : t.Timed start observations)
    (hrecords : t.Records capacity observations transitions)
    (hobs : t.observe occupancy capacity time = .ok (transition, t'))
    (hstart : start ≤ time) (hpast : ∀ seen ∈ observations, seen.2 ≤ time) :
    t'.Timed start (observations ++ [(occupancy, time)]) := by
  intro now hnow hseen
  have hlate : time ≤ now := hseen (occupancy, time)
    (List.mem_append_right _ (List.mem_singleton_self _))
  have hpaused := (hrecords.observe hobs).paused
  rw [List.map_append, List.map_singleton] at hpaused
  obtain ⟨hlow, hhigh⟩ := observe_marks hobs
  rw [hlow, hhigh] at hpaused ⊢
  rw [pausedDuration_observe hobs, h time hstart hpast, hpaused,
    Hysteresis.latchedTime_append occupancy hstart hlate hpast]
  split_ifs
  · push_cast
    omega
  · simp

end BackpressureTracker

/-! ## The past of a direction -/

namespace Trace

/-- What one event told the tracker of the direction from `source`. -/
def observationIn (source : Side) : TraceEvent → Option (ℕ × ℤ)
  | .occupancy side bytes now => if side = source then some (bytes, now) else none
  | _ => none

/-- The transition of the direction from `source` that one event reports. -/
def transitionIn (source : Side) : TraceEvent → Option BackpressureTransition
  | .observed (.readPaused side _ _ _) _ => if side = source then some .paused else none
  | .observed (.readResumed side _ _ _) _ => if side = source then some .resumed else none
  | _ => none

/-- The occupancies the tracker of the direction from `source` was told, with their times. -/
def observations (source : Side) (trace : Trace) : List (ℕ × ℤ) :=
  trace.filterMap (observationIn source)

/-- The `read_paused` and `read_resumed` events of the direction from `source`. -/
def transitions (source : Side) (trace : Trace) : List BackpressureTransition :=
  trace.filterMap (transitionIn source)

variable {source : Side}

/-- Events that do not concern the tracker of the direction from `source`. -/
def Unseen (source : Side) (events : Trace) : Prop :=
  ∀ e ∈ events, observationIn source e = none ∧ transitionIn source e = none

lemma Unseen.append {added : Trace} (h : Unseen source added) (trace : Trace) :
    (trace ++ added).observations source = trace.observations source ∧
      (trace ++ added).transitions source = trace.transitions source := by
  unfold observations transitions
  rw [List.filterMap_append, List.filterMap_append,
    List.filterMap_eq_nil_iff.mpr fun e he => (h e he).1,
    List.filterMap_eq_nil_iff.mpr fun e he => (h e he).2, List.append_nil, List.append_nil]
  exact ⟨rfl, rfl⟩

lemma Unseen.both {calls notes : Trace} (hcalls : Unseen source calls)
    (hnotes : Unseen source notes) : Unseen source (calls ++ notes) := by
  intro e he
  rcases List.mem_append.mp he with he | he
  · exact hcalls e he
  · exact hnotes e he

lemma unseen_send (destination : Side) (offered : List Byte) (result : IoResult ℕ) (now : ℤ) :
    Unseen source [.send destination offered result now] := by
  intro e he
  rw [List.mem_singleton.mp he]
  exact ⟨rfl, rfl⟩

lemma unseen_quiet {added : Trace} (h : ∀ e ∈ added, e.isQuiet = true) : Unseen source added := by
  intro e he
  have hquiet := h e he
  cases e with
  | observed event state =>
      cases event <;> simp_all [TraceEvent.isQuiet, observationIn, transitionIn]
  | _ => simp_all [TraceEvent.isQuiet, observationIn, transitionIn]

end Trace

section Past

variable {source side : Side} {state : ConnectionState} {t t' : BackpressureTracker}
  {queue : ByteQueue} {now : ℤ} {notes : Trace}

/-- An observation of the other direction is not one of this. -/
lemma Observed.unseen (h : Observed side state t queue now t' notes) (hne : side ≠ source) :
    Trace.Unseen source notes := by
  obtain ⟨transition, -, rfl⟩ := h
  intro e he
  cases transition <;> simp only [transitionNotes, List.mem_cons, List.not_mem_nil, or_false] at he
  · rw [he]
    exact ⟨if_neg hne, rfl⟩
  all_goals
    rcases he with rfl | rfl
    · exact ⟨if_neg hne, rfl⟩
    · exact ⟨rfl, if_neg hne⟩

/-- What an observation adds to the past. -/
lemma Observed.past (h : Observed source state t queue now t' notes) (trace : Trace) :
    ∃ transition, t.observe queue.size queue.capacity now = .ok (transition, t') ∧
      (trace ++ notes).observations source =
        trace.observations source ++ [(queue.size, now)] ∧
      (trace ++ notes).transitions source =
        trace.transitions source ++ transition.reported := by
  obtain ⟨transition, hobs, rfl⟩ := h
  refine ⟨transition, hobs, ?_, ?_⟩
  · unfold Trace.observations
    rw [List.filterMap_append]
    cases transition <;> simp [transitionNotes, Trace.observationIn]
  · unfold Trace.transitions
    rw [List.filterMap_append]
    cases transition <;> simp [transitionNotes, List.filterMap_cons, Trace.transitionIn,
      BackpressureTransition.reported]

/-- Stamps are not observations. -/
lemma stampFault_unseen (side : Side) (fault : Option FaultChannel) (count : ℕ) (now : ℤ) :
    Trace.Unseen source (stampFault side fault count now).2 := by
  intro e he
  obtain ⟨delay, eligible, rfl⟩ := eq_stamped_of_mem he
  exact ⟨rfl, rfl⟩

end Past

/-- The step from `s` to `s'` at `now` left the queue of the direction from `source` and its tracker
alone. -/
structure Unwatched (source : Side) (s s' : Session) : Prop where
  queue : (s'.relay.directionFrom source).queue = (s.relay.directionFrom source).queue
  tracker : (s'.relay.directionFrom source).backpressure =
    (s.relay.directionFrom source).backpressure
  observations : s'.trace.observations source = s.trace.observations source
  transitions : s'.trace.transitions source = s.trace.transitions source

/-- The step changed the queue and showed the tracker its new size. -/
structure Watched (source : Side) (now : ℤ) (s s' : Session)
    (transition : BackpressureTransition) : Prop where
  observe : (s.relay.directionFrom source).backpressure.observe
    (s'.relay.directionFrom source).queue.size (s.relay.directionFrom source).queue.capacity now =
      .ok (transition, (s'.relay.directionFrom source).backpressure)
  capacity : (s'.relay.directionFrom source).queue.capacity =
    (s.relay.directionFrom source).queue.capacity
  peak : (s'.relay.directionFrom source).queue.highWaterMark ≤
    max (s.relay.directionFrom source).queue.highWaterMark
      (s'.relay.directionFrom source).queue.size
  observations : s'.trace.observations source =
    s.trace.observations source ++ [((s'.relay.directionFrom source).queue.size, now)]
  transitions : s'.trace.transitions source =
    s.trace.transitions source ++ transition.reported

section Watched

variable {io : SocketIo} {now : ℤ} {s s' : Session} {source : Side}

/-- A step that adds only events of no concern, and leaves queue and tracker alone. -/
lemma Unwatched.of_unseen {added : Trace} (htrace : s'.trace = s.trace ++ added)
    (hadded : Trace.Unseen source added)
    (hqueue : (s'.relay.directionFrom source).queue = (s.relay.directionFrom source).queue)
    (htracker : (s'.relay.directionFrom source).backpressure =
      (s.relay.directionFrom source).backpressure) : Unwatched source s s' := by
  obtain ⟨hobservations, htransitions⟩ := hadded.append s.trace
  rw [← htrace] at hobservations htransitions
  exact ⟨hqueue, htracker, hobservations, htransitions⟩

/-- A transfer on `side`: after its `calls`, the tracker of that direction is shown the queue that
the transfer leaves in `d'`. -/
lemma watched_of_observed {side : Side} {state : ConnectionState} {d' : Direction}
    {calls notes : Trace} (htrace : s'.trace = (s.trace ++ calls) ++ notes)
    (hcalls : Trace.Unseen source calls)
    (hobs : Observed side state (s.relay.directionFrom side).backpressure d'.queue now
      d'.backpressure notes)
    (hself : s'.relay.directionFrom side = d')
    (hother : ∀ other, other ≠ side → s'.relay.directionFrom other = s.relay.directionFrom other)
    (hcapacity : d'.queue.capacity = (s.relay.directionFrom side).queue.capacity)
    (hpeak : d'.queue.highWaterMark ≤
      max (s.relay.directionFrom side).queue.highWaterMark d'.queue.size) :
    Unwatched source s s' ∨ ∃ transition, Watched source now s s' transition := by
  obtain ⟨hobservations, htransitions⟩ := hcalls.append s.trace
  by_cases heq : side = source
  · subst heq
    obtain ⟨transition, hobserve, hpast, hreported⟩ := hobs.past (s.trace ++ calls)
    rw [← htrace, hobservations] at hpast
    rw [← htrace, htransitions] at hreported
    rw [hcapacity] at hobserve
    rw [← hself] at hobserve hcapacity hpeak hpast
    exact .inr ⟨transition, hobserve, hcapacity, hpeak, hpast, hreported⟩
  · left
    have hadded := hcalls.both (hobs.unseen heq)
    apply Unwatched.of_unseen ?_ hadded
    · rw [hother source (Ne.symm heq)]
    · rw [hother source (Ne.symm heq)]
    · rw [htrace, List.append_assoc]

/-- **Every change of a queue is observed.** -/
lemma Move.watched (hmove : Move io now s s') (source : Side) :
    Unwatched source s s' ∨ ∃ transition, Watched source now s s' transition := by
  rcases hmove.transfer_or_quiet with ⟨side, span, hint, bytes, d', notes, -, -, hingest, rfl⟩ |
    ⟨destination, budget, count, d', notes, -, -, hegress, rfl⟩ |
    ⟨destination, budget, result, -, hnothing, rfl⟩ | hquiet
  · obtain ⟨tail, hobs, hnotes⟩ := hingest.observed
    have hcalls : Trace.Unseen source (.receive side span hint (.transferred bytes) now ::
        (stampFault side (s.relay.directionFrom side).fault bytes.length now).2) := by
      intro e he
      rcases List.mem_cons.mp he with rfl | he
      · exact ⟨rfl, rfl⟩
      · exact stampFault_unseen _ _ _ _ e he
    apply watched_of_observed ?_ hcalls hobs (Session.ingested_directionFrom_self ..)
      (fun other hne => Session.ingested_directionFrom_of_ne _ _ _ _ _ _ _ hne) hingest.capacity
      hingest.peak.le
    simp [Session.ingested, hnotes]
  · apply watched_of_observed ?_ (Trace.unseen_send destination (s.offer destination budget)
      (IoResult.transferred count) now) hegress.observed (Session.egressed_directionFrom_self ..)
      (fun other hne => Session.egressed_directionFrom_of_ne _ _ _ _ _ _ hne) hegress.capacity
      (hegress.peak.le.trans (le_max_left _ _))
    simp [Session.egressed]
  · left
    apply Unwatched.of_unseen (Session.afterSend_trace ..) (Trace.unseen_send _ _ _ _)
    · rw [Session.afterSend_directionFrom]
    · rw [Session.afterSend_directionFrom]
  · obtain ⟨added, htrace, hadded⟩ := hquiet.trace
    left
    exact .of_unseen htrace (Trace.unseen_quiet hadded) (hquiet.queue source)
      (hquiet.backpressure source)

/-- The capacity of a queue does not change. -/
lemma Move.capacity (hmove : Move io now s s') (source : Side) :
    (s'.relay.directionFrom source).queue.capacity =
      (s.relay.directionFrom source).queue.capacity := by
  rcases hmove.watched source with hsame | ⟨transition, hwatched⟩
  · rw [hsame.queue]
  · exact hwatched.capacity

/-- The tracker of the direction from `source` agrees with its past, whose last entry is the size
of the queue; and the queue has never been above the high-water mark. -/
structure Session.Watermarked (source : Side) (s : Session) : Prop where
  records : (s.relay.directionFrom source).backpressure.Records
    (s.relay.directionFrom source).queue.capacity (s.trace.observations source)
    (s.trace.transitions source)
  current : ((s.trace.observations source).getLast?.map Prod.fst).getD 0 =
    (s.relay.directionFrom source).queue.size
  peak : (s.relay.directionFrom source).queue.highWaterMark ≤
    (s.relay.directionFrom source).backpressure.highWaterBytes

lemma Session.Watermarked.move (h : s.Watermarked source) (hinv : s.Inv)
    (hmove : Move io now s s') : s'.Watermarked source := by
  have hsize := (hmove.inv hinv source).size_le
  rcases hmove.watched source with hsame | ⟨transition, hwatched⟩
  · refine ⟨?_, ?_, ?_⟩
    · rw [hsame.tracker, hsame.queue, hsame.observations, hsame.transitions]
      exact h.records
    · rw [hsame.observations, hsame.queue]
      exact h.current
    · rw [hsame.queue, hsame.tracker]
      exact h.peak
  · obtain ⟨-, hhigh⟩ := BackpressureTracker.observe_marks hwatched.observe
    refine ⟨?_, ?_, ?_⟩
    · rw [hwatched.capacity, hwatched.observations, hwatched.transitions]
      exact h.records.observe hwatched.observe
    · rw [hwatched.observations]
      simp
    · exact hwatched.peak.trans (max_le (hhigh ▸ h.peak) hsize)

/-- The tracker of a new relay, and the peak of its queue. -/
lemma Relay.create_tracker {config : RelayConfig} {plan : FaultPlan} {connectionId : UInt64}
    {upstreamConnecting : Bool} {start : ℤ} {r : Relay} (hconfig : config.Valid)
    (hok : Relay.create config plan connectionId upstreamConnecting start = .ok r)
    (source : Side) :
    (r.directionFrom source).backpressure =
        { lowWaterBytes := config.lowWaterBytes, highWaterBytes := config.highWaterBytes
          low_lt_high := hconfig.1 } ∧
      (r.directionFrom source).queue.highWaterMark = 0 := by
  have hcreate : ∀ d, Direction.create config = .ok d → d.backpressure =
      { lowWaterBytes := config.lowWaterBytes, highWaterBytes := config.highWaterBytes
        low_lt_high := hconfig.1 } ∧ d.queue.highWaterMark = 0 := by
    intro d hd
    have hwater := hconfig.1
    have hcapacity := hconfig.2
    simp only [Direction.create, ByteQueue.create, BackpressureTracker.create, bind, Except.bind,
      dif_neg (show ¬config.bufferBytesPerDirection = 0 by omega), dif_neg (show
        ¬(config.highWaterBytes = 0 ∨ config.highWaterBytes ≤ config.lowWaterBytes) by omega)] at hd
    cases hd
    exact ⟨rfl, rfl⟩
  obtain ⟨d, hd, -⟩ := Direction.create_spec plan hconfig
  obtain ⟨clientFault, hcf, -⟩ := FaultChannel.createFor_spec plan connectionId .client start
  obtain ⟨upstreamFault, huf, -⟩ := FaultChannel.createFor_spec plan connectionId .upstream start
  simp only [Relay.create, hd, hcf, huf, bind, Except.bind] at hok
  rcases hany : plan.anyEnabled with _ | _
  · rw [hany] at hok
    cases hok
    cases source <;> exact hcreate d hd
  · rw [hany] at hok
    cases hok
    cases source <;> exact hcreate d hd

lemma Relay.create_watermarked {config : RelayConfig} {plan : FaultPlan} {connectionId : UInt64}
    {upstreamConnecting : Bool} {start : ℤ} {r : Relay} (hconfig : config.Valid)
    (hok : Relay.create config plan connectionId upstreamConnecting start = .ok r)
    (hfresh : r.Fresh config plan upstreamConnecting start) (source : Side) :
    Session.Watermarked source { relay := r } := by
  obtain ⟨htracker, hpeak⟩ := Relay.create_tracker hconfig hok source
  refine ⟨?_, ?_, ?_⟩
  · rw [htracker]
    exact BackpressureTracker.records_fresh hconfig.1 _
  · exact (hfresh.direction source).size.symm
  · rw [hpeak]
    exact Nat.zero_le _

/-- The same with the times: the observations so far were made from `start` up to `last`, and the
tracker has summed up the pauses among them. -/
structure Session.PausesTimed (start last : ℤ) (s : Session) : Prop where
  start_le : start ≤ last
  watermarked : ∀ source, s.Watermarked source
  past : ∀ source, ∀ seen ∈ s.trace.observations source, seen.2 ≤ last
  timed : ∀ source, (s.relay.directionFrom source).backpressure.Timed start
    (s.trace.observations source)

lemma Session.PausesTimed.move {start last : ℤ} (h : s.PausesTimed start last) (hle : last ≤ now)
    (hinv : s.Inv) (hmove : Move io now s s') : s'.PausesTimed start now := by
  have hstart := h.start_le.trans hle
  refine ⟨hstart, fun source => (h.watermarked source).move hinv hmove, fun source => ?_,
    fun source => ?_⟩
  all_goals rcases hmove.watched source with hsame | ⟨transition, hwatched⟩
  · rw [hsame.observations]
    exact fun seen hseen => (h.past source seen hseen).trans hle
  · rw [hwatched.observations]
    intro seen hseen
    rcases List.mem_append.mp hseen with hold | hnew
    · exact (h.past source seen hold).trans hle
    · rw [List.mem_singleton.mp hnew]
  · rw [hsame.observations, hsame.tracker]
    exact h.timed source
  · rw [hwatched.observations]
    exact (h.timed source).observe (h.watermarked source).records hwatched.observe hstart
      fun seen hseen => (h.past source seen hseen).trans hle

end Watched

section Runs

variable {config : RelayConfig} {start : ℤ} {calls : List Call} {results : List CallResult}
  {s : Session}

/-- In a run at nondecreasing times the pauses are summed up. -/
lemma runRelay_pausesTimed (io : SocketIo) (hconfig : config.Valid) (plan : FaultPlan)
    (connectionId : UInt64) (upstreamConnecting : Bool) (hclock : Clocked start calls)
    (hrun : runRelay io config plan connectionId upstreamConnecting start calls =
      .ok (results, s)) :
    ∃ last, s.PausesTimed start last := by
  obtain ⟨r, hok, hr⟩ := Relay.create_spec plan hconfig connectionId upstreamConnecting start
  have hinvariant : TimedInvariant io fun last s => s.PausesTimed start last :=
    fun past now m m' hle hinv h hmove => h.move hle hinv hmove
  obtain ⟨results', s', last, hall, -, htimed⟩ := hinvariant.execAll calls start { relay := r }
    hclock (hr.inv hconfig)
    { start_le := le_rfl
      watermarked := Relay.create_watermarked hconfig hok hr
      past := by simp [Trace.observations]
      timed := fun source => by
        rw [(Relay.create_tracker hconfig hok source).1]
        exact BackpressureTracker.timed_fresh hconfig.1 start }
  simp only [runRelay, hok, bind, Except.bind, hall] at hrun
  obtain ⟨-, rfl⟩ := Prod.mk.inj (Except.ok.inj hrun)
  exact ⟨last, htimed⟩

/-- Observations are made at the times of calls. -/
lemma runRelay_observed_until (io : SocketIo) (hconfig : config.Valid) (plan : FaultPlan)
    (connectionId : UInt64) (upstreamConnecting : Bool) {closing : ℤ}
    (hcalls : ∀ t ∈ calls.filterMap Call.time?, t ≤ closing)
    (hrun : runRelay io config plan connectionId upstreamConnecting start calls =
      .ok (results, s)) (source : Side) :
    ∀ seen ∈ s.trace.observations source, seen.2 ≤ closing := by
  obtain ⟨results', s', hrun', -, hpast⟩ := runRelay_until io hconfig plan connectionId
    upstreamConnecting start
    (P := fun s => ∀ seen ∈ s.trace.observations source, seen.2 ≤ closing)
    (fun r _ => by simp [Trace.observations])
    (fun now m m' hle _ h hmove => by
      rcases hmove.watched source with hsame | ⟨transition, hwatched⟩
      · rw [hsame.observations]
        exact h
      · rw [hwatched.observations]
        intro seen hseen
        rcases List.mem_append.mp hseen with hold | hnew
        · exact h seen hold
        · rw [List.mem_singleton.mp hnew]
          exact hle) hcalls
  obtain ⟨-, rfl⟩ := Prod.mk.inj (Except.ok.inj (hrun'.symm.trans hrun))
  exact hpast

/-- The counters of a tracker that agrees with its past differ by the pause that is going on. -/
lemma BackpressureTracker.Records.count_sub {t : BackpressureTracker} {capacity : ℕ}
    {observations : List (ℕ × ℤ)} {transitions : List BackpressureTransition}
    (h : t.Records capacity observations transitions) :
    t.pauseCount - t.resumeCount = if t.readPaused then 1 else 0 := by
  rw [h.pauses, h.resumes, h.odd]
  by_cases hodd : transitions.length % 2 = 1
  · rw [decide_eq_true hodd,
      show (transitions.length + 1) / 2 = transitions.length / 2 + 1 by omega, UInt64.ofNat_add]
    simp
  · rw [decide_eq_false hodd, show (transitions.length + 1) / 2 = transitions.length / 2 by omega]
    simp

end Runs

/-- **Watermark hysteresis and bounded occupancy.**  In every state a run can reach, for each
direction: reads are paused only above the low-water mark, they are not paused only below the
high-water mark, and the queue never held more than that.  Reads are paused exactly if the last
observed occupancy that was not strictly between the marks was high, and the last one observed is
the size of the queue.  Pauses and resumptions are reported in turn and counted, as are the runs of
full queues.  At nondecreasing times, the time paused is the number of instants at which the
observations so far had the reads paused. -/
theorem relay_watermarks (io : SocketIo) (config : RelayConfig) (hconfig : config.Valid)
    (plan : FaultPlan) (connectionId : UInt64) (upstreamConnecting : Bool) (start : ℤ)
    (calls : List Call) :
    ∃ results s, runRelay io config plan connectionId upstreamConnecting start calls =
        .ok (results, s) ∧
      ∀ source,
        ((s.relay.directionFrom source).backpressure.readPaused = true →
          config.lowWaterBytes < (s.relay.directionFrom source).queue.size ∧
            (s.relay.directionFrom source).queue.size ≤ config.highWaterBytes) ∧
        ((s.relay.directionFrom source).backpressure.readPaused = false →
          (s.relay.directionFrom source).queue.size < config.highWaterBytes) ∧
        (s.relay.directionFrom source).queue.highWaterMark ≤ config.highWaterBytes ∧
        (s.relay.directionFrom source).backpressure.readPaused =
          Hysteresis.latched config.lowWaterBytes config.highWaterBytes
            ((s.trace.observations source).map Prod.fst) ∧
        ((s.trace.observations source).getLast?.map Prod.fst).getD 0 =
          (s.relay.directionFrom source).queue.size ∧
        (s.relay.directionFrom source).backpressure.pauseCount -
            (s.relay.directionFrom source).backpressure.resumeCount =
          (if (s.relay.directionFrom source).backpressure.readPaused then 1 else 0) ∧
        s.trace.transitions source = alternation (s.trace.transitions source).length ∧
        (s.relay.directionFrom source).backpressure.saturationCount =
          UInt64.ofNat (Hysteresis.runs
            (fun seen => seen.1 == config.bufferBytesPerDirection)
            (s.trace.observations source)) ∧
        (Clocked start calls → ∀ now, start ≤ now → (∀ t ∈ calls.filterMap Call.time?, t ≤ now) →
          (s.relay.directionFrom source).backpressure.pausedDuration now =
            Hysteresis.latchedTime config.lowWaterBytes config.highWaterBytes
              (s.trace.observations source) start now) := by
  obtain ⟨results, s, hrun, hinv, hfollows, hcapacity, hwater⟩ := runRelay_created io hconfig plan
    connectionId upstreamConnecting start
    (P := fun s => s.Follows config plan ∧
      (∀ source, (s.relay.directionFrom source).queue.capacity = config.bufferBytesPerDirection) ∧
      ∀ source, s.Watermarked source)
    (fun r hok hr => ⟨hr.follows, fun source => (hr.direction source).capacity,
      Relay.create_watermarked hconfig hok hr⟩)
    (fun now m m' hinv h hmove => ⟨h.1.move hmove,
      fun source => (hmove.capacity source).trans (h.2.1 source),
      fun source => (h.2.2 source).move hinv hmove⟩) calls
  refine ⟨results, s, hrun, fun source => ?_⟩
  obtain ⟨hrecords, hcurrent, hpeak⟩ := hwater source
  have hlow := (hfollows source).low
  have hhigh := (hfollows source).high
  have hpaused := (hinv source).paused
  have hrunning := (hinv source).running
  have hlatched := hrecords.paused
  have hsaturations := hrecords.saturations
  rw [hlow, hhigh] at hpaused hlatched
  rw [hhigh] at hrunning hpeak
  rw [hcapacity source] at hsaturations
  refine ⟨hpaused, hrunning, hpeak, hlatched, hcurrent, hrecords.count_sub, hrecords.alternating,
    hsaturations, fun hclock now hstart hcalls => ?_⟩
  obtain ⟨last, htimed⟩ := runRelay_pausesTimed io hconfig plan connectionId upstreamConnecting
    hclock hrun
  have hduration := htimed.timed source now hstart
    (runRelay_observed_until io hconfig plan connectionId upstreamConnecting hcalls hrun source)
  rwa [hlow, hhigh] at hduration

/-- Four bytes fill a queue of four and are drained to the low-water mark, ten nanoseconds later. -/
theorem relay_watermarks_scripted :
    ∃ results s, runRelay (.script fun _ => [1, 2, 3, 4])
        { bufferBytesPerDirection := 4, lowWaterBytes := 1, highWaterBytes := 4 } {} 7 false 0
        [.handleReadable .client false 5, .flush .upstream 15] = .ok (results, s) ∧
      s.trace.transitions .client = [.paused, .resumed] ∧
      (s.relay.directionFrom .client).backpressure.saturationCount = 1 ∧
      (s.relay.directionFrom .client).backpressure.pausedDuration 20 = 10 := by
  have hcheck : returns (runRelay (.script fun _ => [1, 2, 3, 4])
      { bufferBytesPerDirection := 4, lowWaterBytes := 1, highWaterBytes := 4 } {} 7 false 0
      [.handleReadable .client false 5, .flush .upstream 15])
      (fun run => decide (run.2.trace.observations .client = [(4, 5), (0, 15)]) &&
        decide (run.2.trace.transitions .client = [.paused, .resumed])) = true := by
    decide +kernel
  obtain ⟨⟨results, s⟩, hrun, htest⟩ := exists_of_returns hcheck
  simp only [Bool.and_eq_true, decide_eq_true_eq] at htest
  obtain ⟨results', s', hrun', hall⟩ := relay_watermarks (.script fun _ => [1, 2, 3, 4])
    { bufferBytesPerDirection := 4, lowWaterBytes := 1, highWaterBytes := 4 } (by decide) {} 7
    false 0 [.handleReadable .client false 5, .flush .upstream 15]
  obtain ⟨rfl, rfl⟩ : results = results' ∧ s = s' := by
    simpa [hrun] using hrun'
  obtain ⟨-, -, -, -, -, -, -, hsaturations, hduration⟩ := hall .client
  rw [htest.1] at hsaturations hduration
  exact ⟨results, s, hrun, htest.2, hsaturations.trans (by decide),
    (hduration (by decide) 20 (by decide) (by decide)).trans (by decide)⟩

end NetFault
