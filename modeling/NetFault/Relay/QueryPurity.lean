import NetFault.Relay.Channels
import NetFault.TokenBucket.Exact

/-!
# Queries are observationally pure

`desired_interest` and `next_wake` refill the token buckets, so they are not `const`, and a relay
that was asked differs from one that was not.  The difference is only how far the buckets have
been refilled: refilling everything up to the time of a call before making it changes neither what
the call returns nor what it does (`Call.exec_refillAll`).  Since refills compose, two runs that
differ in queries agree after any later refill, and every call they share finds them equal.
-/

namespace NetFault

/-! ## Refilling every bucket -/

/-- Both buckets, where they exist, refilled up to `now`. -/
def Relay.refillAll (r : Relay) (now : ℤ) : Relay :=
  { r with directionFrom := fun source => (r.directionFrom source).refill now }

def Session.refillAll (s : Session) (now : ℤ) : Session :=
  { s with relay := s.relay.refillAll now }

section Refill

variable {io : SocketIo} {now : ℤ} {s s' : Session} {r r' : Relay}

@[simp] lemma Relay.refillAll_directionFrom (r : Relay) (now : ℤ) (source : Side) :
    (r.refillAll now).directionFrom source = (r.directionFrom source).refill now := rfl

lemma Relay.refillAll_setDirection (r : Relay) (source : Side) (d : Direction) (now : ℤ) :
    (r.setDirection source d).refillAll now =
      (r.refillAll now).setDirection source (d.refill now) := by
  unfold Relay.refillAll Relay.setDirection
  congr 1
  funext side
  by_cases heq : side = source
  · subst heq
    simp
  · simp [Function.update_of_ne heq]

/-- What was refilled up to `now` is not changed by refilling everything up to `now`. -/
lemma Refills.refillAll (h : Refills now r r') : r'.refillAll now = r.refillAll now := by
  rw [h.rest]
  unfold Relay.refillAll
  congr 1
  funext source
  rcases h.direction source with heq | heq
  · rw [heq]
  · rw [heq, Direction.refill_refill]

@[simp] lemma Session.refillAll_trace (s : Session) (now : ℤ) :
    (s.refillAll now).trace = s.trace := rfl

@[simp] lemma Session.refillAll_queue (s : Session) (now : ℤ) (source : Side) :
    ((s.refillAll now).relay.directionFrom source).queue = (s.relay.directionFrom source).queue :=
  rfl

@[simp] lemma Session.refillAll_backpressure (s : Session) (now : ℤ) (source : Side) :
    ((s.refillAll now).relay.directionFrom source).backpressure =
      (s.relay.directionFrom source).backpressure := rfl

@[simp] lemma Session.refillAll_readOpen (s : Session) (now : ℤ) :
    (s.refillAll now).relay.readOpen = s.relay.readOpen := rfl

@[simp] lemma Session.refillAll_writeOpen (s : Session) (now : ℤ) :
    (s.refillAll now).relay.writeOpen = s.relay.writeOpen := rfl

@[simp] lemma Session.refillAll_upstreamConnecting (s : Session) (now : ℤ) :
    (s.refillAll now).relay.upstreamConnecting = s.relay.upstreamConnecting := rfl

lemma Session.record_refillAll (s : Session) (now : ℤ) (event : TraceEvent) :
    (s.refillAll now).record event = (s.record event).refillAll now := rfl

lemma Session.countEagain_refillAll (s : Session) (now : ℤ) :
    (s.refillAll now).countEagain = s.countEagain.refillAll now := rfl

lemma Session.noteHalfClosedRead_refillAll (s : Session) (now : ℤ) (source : Side) :
    (s.refillAll now).noteHalfClosedRead source = (s.noteHalfClosedRead source).refillAll now := rfl

/-! ## Reading -/

lemma observeBackpressure_refillAll (source : Side) (time : ℤ) :
    (s.refillAll now).observeBackpressure source time =
      (s.observeBackpressure source time).map (·.refillAll now) := by
  simp only [Session.observeBackpressure, Session.refillAll, Relay.refillAll_directionFrom,
    Direction.refill, bind, Except.bind]
  rcases (s.relay.directionFrom source).backpressure.observe
    (s.relay.directionFrom source).queue.size (s.relay.directionFrom source).queue.capacity
    time with fault | ⟨transition, tracker⟩
  · rfl
  · cases transition <;>
      simp [Except.map, Session.record, Session.notify,
        Relay.refillAll_setDirection, Direction.refill] <;> rfl

lemma stampFault_refill (source : Side) (fault : Option FaultChannel) (bytes : ℕ) (time : ℤ) :
    stampFault source (fault.map (·.refill now)) bytes time =
      ((stampFault source fault bytes time).1.map (·.refill now),
        (stampFault source fault bytes time).2) := by
  rcases fault with _ | channel
  · rfl
  · rcases hl : channel.delay with _ | line <;>
      simp [stampFault, FaultChannel.refill, hl]

/-- The state in which `commitReceived` shows the new occupancy to the tracker. -/
def Session.stocked (s : Session) (source : Side) (queue : ByteQueue) (bytes : List Byte)
    (time : ℤ) : Session :=
  { relay := { s.relay.setDirection source { s.relay.directionFrom source with
        queue
        fault := (stampFault source (s.relay.directionFrom source).fault bytes.length time).1 } with
      lastActivity := time
      metrics := s.relay.metrics.countRead source bytes.length }
    trace := s.trace ++
      (stampFault source (s.relay.directionFrom source).fault bytes.length time).2 }

lemma commitReceived_eq (source : Side) (bytes : List Byte) (time : ℤ) :
    s.commitReceived source bytes time =
      (((s.relay.directionFrom source).queue.fill bytes).commitWrite bytes.length).bind
        fun queue => (s.stocked source queue bytes time).observeBackpressure source time := rfl

lemma Session.stocked_refillAll (source : Side) (queue : ByteQueue) (bytes : List Byte)
    (time : ℤ) :
    (s.refillAll now).stocked source queue bytes time =
      (s.stocked source queue bytes time).refillAll now := by
  have hset := s.relay.refillAll_setDirection source { s.relay.directionFrom source with
    queue, fault := (stampFault source (s.relay.directionFrom source).fault bytes.length time).1 }
    now
  simp only [Session.stocked, Session.refillAll, Relay.refillAll_directionFrom, Direction.refill,
    stampFault_refill, Session.mk.injEq, and_true] at hset ⊢
  rw [← hset]
  rfl

lemma commitReceived_refillAll (source : Side) (bytes : List Byte) (time : ℤ) :
    (s.refillAll now).commitReceived source bytes time =
      (s.commitReceived source bytes time).map (·.refillAll now) := by
  rw [commitReceived_eq, commitReceived_eq]
  have hqueue : ((s.refillAll now).relay.directionFrom source).queue =
      (s.relay.directionFrom source).queue := rfl
  rw [hqueue]
  rcases ((s.relay.directionFrom source).queue.fill bytes).commitWrite bytes.length with
    fault | queue
  · rfl
  · simp only [Except.bind]
    rw [Session.stocked_refillAll, observeBackpressure_refillAll]

lemma handleReadableBody_refillAll (source : Side) (hangupHint : Bool) (time : ℤ) :
    (s.refillAll now).handleReadableBody io source hangupHint time =
      (s.handleReadableBody io source hangupHint time).map (Loop.Trip.map (·.refillAll now)) := by
  simp only [Session.handleReadableBody, Session.refillAll_trace, Session.refillAll_queue,
    Session.refillAll_backpressure, Session.refillAll_readOpen, Session.record_refillAll,
    Session.countEagain_refillAll, Session.noteHalfClosedRead_refillAll, commitReceived_refillAll]
  split
  swap
  · rfl
  split
  · rfl
  split
  · next bytes hio =>
      simp only [hio]
      rcases Session.commitReceived source bytes time (s.record _) with fault | s' <;> rfl
  · next error hio =>
      simp only [hio]
      rfl
  · next hio =>
      simp only [hio]
      cases hangupHint <;> rfl
  · next error hio =>
      simp only [hio]
      rfl

lemma handleReadable_refillAll (source : Side) (hangupHint : Bool) (time : ℤ) :
    (s.refillAll now).handleReadable io source hangupHint time =
      (s.handleReadable io source hangupHint time).map fun last =>
        (last.1, last.2.refillAll now) :=
  Loop.run_map (fun _ => handleReadableBody_refillAll source hangupHint time) _ s

/-! ## Writing -/

lemma FaultChannel.refill_of_settled {channel : FaultChannel}
    (h : ∀ b, channel.bucket = some b → now ≤ b.lastRefill) : channel.refill now = channel := by
  rcases channel with ⟨delay, _ | bucket, rng, latency, jitter, segments, total⟩
  · rfl
  · simp [FaultChannel.refill, TokenBucket.refill_of_le (h bucket rfl)]

/-- What is refilled up to `now` stays so when bytes are taken from it. -/
lemma consumeFault_settled {fault fault' : Option FaultChannel} {count : ℕ}
    (hsettled : ∀ channel b, fault = some channel → channel.bucket = some b → now ≤ b.lastRefill)
    (h : consumeFault fault count = .ok fault') : fault'.map (·.refill now) = fault' := by
  rcases fault' with _ | channel'
  · rfl
  obtain ⟨channel, hc, -, -, hbucket, -⟩ := consumeFault_some h
  refine congrArg some (FaultChannel.refill_of_settled fun b' hb' => ?_)
  obtain ⟨b, hb, hconsume⟩ := hbucket b' hb'
  rw [TokenBucket.consume] at hconsume
  split_ifs at hconsume
  cases hconsume
  exact hsettled channel b hc hb

/-- The state in which `commitSent` shows the new occupancy to the tracker. -/
def Session.depleted (s : Session) (source : Side) (queue : ByteQueue)
    (fault : Option FaultChannel) : Session :=
  { s with relay := s.relay.setDirection source { s.relay.directionFrom source with queue, fault } }

lemma commitSent_eq (destination : Side) (budget count : ℕ) (time : ℤ) :
    s.commitSent destination budget count time =
      ((s.relay.directionFrom destination.peer).queue.consume count).bind fun queue =>
        (consumeFault (s.relay.directionFrom destination.peer).fault count).bind fun fault =>
          ((s.depleted destination.peer queue fault).observeBackpressure destination.peer time).bind
            fun s => .ok { s with relay := { s.relay with
              lastActivity := time
              metrics := s.relay.metrics.countWrite destination budget count } } := rfl

/-- Sending from a direction that is refilled up to `now` already. -/
lemma commitSent_refillAll (destination : Side) (budget count : ℕ) (time : ℤ)
    (hdirection : (s.relay.directionFrom destination.peer).refill now =
      s.relay.directionFrom destination.peer)
    (hsettled : ∀ channel b, (s.relay.directionFrom destination.peer).fault = some channel →
      channel.bucket = some b → now ≤ b.lastRefill) :
    (s.refillAll now).commitSent destination budget count time =
      (s.commitSent destination budget count time).map (·.refillAll now) := by
  have hfault : ((s.refillAll now).relay.directionFrom destination.peer).fault =
      (s.relay.directionFrom destination.peer).fault := congrArg Direction.fault hdirection
  rw [commitSent_eq, commitSent_eq, Session.refillAll_queue, hfault]
  rcases (s.relay.directionFrom destination.peer).queue.consume count with fault | queue
  · rfl
  simp only [Except.bind]
  rcases hconsume : consumeFault (s.relay.directionFrom destination.peer).fault count with
    fault | fault
  · rfl
  simp only
  have hdepleted : (s.refillAll now).depleted destination.peer queue fault =
      (s.depleted destination.peer queue fault).refillAll now := by
    have hset := s.relay.refillAll_setDirection destination.peer
      { s.relay.directionFrom destination.peer with queue, fault } now
    simp only [Session.depleted, Session.refillAll, Relay.refillAll_directionFrom,
      Direction.refill, consumeFault_settled hsettled hconsume] at hset ⊢
    rw [hset]
  rw [hdepleted, observeBackpressure_refillAll]
  rcases Session.observeBackpressure destination.peer time
    (s.depleted destination.peer queue fault) with fault | s' <;> rfl

lemma Session.refilled_refillAll (s : Session) (source : Side) (now : ℤ) :
    (s.refillAll now).refilled source now = (s.refilled source now).refillAll now := by
  unfold Session.refilled Session.refillAll
  rw [Relay.refillAll_setDirection]
  rfl

lemma Session.afterSend_refillAll (s : Session) (destination : Side) (data : List Byte)
    (result : IoResult ℕ) (time : ℤ) :
    (s.refillAll now).afterSend destination data result time =
      (s.afterSend destination data result time).refillAll now := by
  cases result <;> rfl

/-- One trip of `flush`: it refills before it looks. -/
lemma flushBody_refillAll (destination : Side) :
    (s.refillAll now).flushBody io destination now =
      (s.flushBody io destination now).map (Loop.Trip.map (·.refillAll now)) := by
  rcases Nat.eq_zero_or_pos (s.relay.directionFrom destination.peer).queue.size with hempty | hsize
  · have hqueue := (ByteQueue.empty_iff (s.relay.directionFrom destination.peer).queue).mpr hempty
    simp only [Session.flushBody, Session.refillAll_queue, hqueue, if_true]
    rfl
  obtain ⟨budget, hbudget⟩ : ∃ budget, budget = (faultSendable
    (s.relay.directionFrom destination.peer)
    (s.relay.directionFrom destination.peer).queue.readableSpan.length now).1 := ⟨_, rfl⟩
  obtain ⟨mid, hmid⟩ : ∃ mid, mid = s.refilled destination.peer now := ⟨_, rfl⟩
  have hbudget' : budget = (faultSendable ((s.refillAll now).relay.directionFrom destination.peer)
      ((s.refillAll now).relay.directionFrom destination.peer).queue.readableSpan.length
      now).1 := by
    rw [hbudget, Session.refillAll_queue]
    exact (faultSendable_refill _ _ now).symm
  have hmid' : mid.refillAll now = (s.refillAll now).refilled destination.peer now := by
    rw [hmid, Session.refilled_refillAll]
  have hoffer : (mid.refillAll now).offer destination budget = mid.offer destination budget := rfl
  rw [flushBody_eq destination hsize hbudget hmid,
    flushBody_eq (s := s.refillAll now) destination hsize hbudget' hmid']
  rw [hoffer, Session.refillAll_trace]
  by_cases hzero : budget = 0
  · rw [if_pos hzero, if_pos hzero]
    rfl
  rw [if_neg hzero, if_neg hzero]
  have hself : mid.relay.directionFrom destination.peer =
      (s.relay.directionFrom destination.peer).refill now :=
    hmid ▸ s.refilled_directionFrom_self destination.peer now
  rcases io.send mid.trace destination (mid.offer destination budget) with
    count | _ | error | error
  · simp only
    rw [Session.record_refillAll, commitSent_refillAll]
    · rcases Session.commitSent destination budget count now (mid.record _) with
        fault | s' <;> rfl
    · exact (congrArg (·.refill now) hself).trans
        ((Direction.refill_refill _ now).trans hself.symm)
    · intro channel b hc hb
      rw [show (mid.record (.send destination (mid.offer destination budget) (.transferred count)
        now)).relay = mid.relay from rfl, hself] at hc
      obtain ⟨channel₀, -, rfl⟩ := Option.map_eq_some_iff.mp hc
      obtain ⟨b₀, -, rfl⟩ := Option.map_eq_some_iff.mp hb
      rw [TokenBucket.refill_lastRefill]
      exact le_max_right _ _
  all_goals
    simp only [Session.afterSend_refillAll]
    rfl

lemma injectHalfClose_refillAll :
    (s.refillAll now).injectHalfClose io = (s.injectHalfClose io).refillAll now := by
  by_cases hguard : (decide (s.relay.halfCloseAfterBytes > 0) && !s.relay.halfCloseInjected &&
      s.relay.writeOpen .client &&
      decide (s.relay.metrics.bytesWritten .client ≥ s.relay.halfCloseAfterBytes)) = true
  · have hleft : (s.refillAll now).injectHalfClose io = _ := if_pos hguard
    have hright : s.injectHalfClose io = _ := if_pos hguard
    rw [hleft, hright]
    rcases hok : io.shutdownWrite s.trace .client with _ | _ <;>
      simp only [Session.refillAll_trace, hok] <;> rfl
  · have hleft : (s.refillAll now).injectHalfClose io = _ := if_neg hguard
    have hright : s.injectHalfClose io = _ := if_neg hguard
    rw [hleft, hright]

lemma checkLifecycleFaults_refillAll :
    (s.refillAll now).checkLifecycleFaults io =
      ((s.checkLifecycleFaults io).1, (s.checkLifecycleFaults io).2.refillAll now) := by
  simp only [Session.checkLifecycleFaults, injectHalfClose_refillAll]
  by_cases hreached : (decide ((s.injectHalfClose io).relay.resetAfterBytes > 0) &&
      decide (s.relay.metrics.bytesWritten .client + s.relay.metrics.bytesWritten .upstream ≥
        (s.injectHalfClose io).relay.resetAfterBytes)) = true
  · rw [if_pos hreached]
    exact if_pos hreached
  · rw [if_neg hreached]
    exact if_neg hreached

lemma flush_refillAll (destination : Side) :
    (s.refillAll now).flush io destination now =
      (s.flush io destination now).map fun last => (last.1, last.2.refillAll now) := by
  rw [Session.flush, Session.flush]
  by_cases hskip : (!s.relay.writeOpen destination ||
      decide (destination = .upstream) && s.relay.upstreamConnecting) = true
  · rw [if_pos hskip]
    exact if_pos hskip
  rw [if_neg hskip]
  refine (if_neg hskip).trans ?_
  rw [Session.refillAll_queue,
    Loop.run_map (f := (·.refillAll now)) fun s => flushBody_refillAll (s := s) destination]
  rcases Loop.run (Session.flushBody io destination now) Fault.endlessLoop
    ((s.relay.directionFrom destination.peer).queue.size + 1) s with fault | ⟨_ | result, last⟩
  · rfl
  · exact congrArg Except.ok checkLifecycleFaults_refillAll
  · rfl

/-! ## Half-closes and queries -/

lemma forwardHalfClose_refillAll (destination : Side) :
    (s.refillAll now).forwardHalfClose io destination =
      (s.forwardHalfClose io destination).refillAll now := by
  rcases hok : io.shutdownWrite s.trace destination with _ | _
  · rw [Session.forwardHalfClose_of_failed hok,
      Session.forwardHalfClose_of_failed (s := s.refillAll now) hok]
    rfl
  · rw [Session.forwardHalfClose_of_ok hok,
      Session.forwardHalfClose_of_ok (s := s.refillAll now) hok]
    rfl

/-- One of the two blocks of `propagate_half_closes`, with its guard. -/
lemma forwardIf_refillAll (guard : Bool) (destination : Side) :
    (if guard = true then (s.refillAll now).forwardHalfClose io destination
      else s.refillAll now) =
      Session.refillAll (if guard = true then s.forwardHalfClose io destination else s) now := by
  cases guard with
  | false => rfl
  | true => exact forwardHalfClose_refillAll destination

lemma propagateHalfCloses_refillAll :
    (s.refillAll now).propagateHalfCloses io = (s.propagateHalfCloses io).refillAll now := by
  have hfirst := @forwardIf_refillAll io now s
    (!s.relay.readOpen .client && (s.relay.directionFrom .client).queue.empty &&
      s.relay.writeOpen .upstream && !s.relay.upstreamConnecting) .upstream
  have hsecond := congrArg (fun m : Session =>
    if !m.relay.readOpen .upstream && (m.relay.directionFrom .upstream).queue.empty &&
      m.relay.writeOpen .client then m.forwardHalfClose io .client else m) hfirst
  exact hsecond.trans (forwardIf_refillAll _ .client)

/-- A relay that is refilled up to `now` is not changed by a refill. -/
lemma Refills.of_refillAll (h : Refills now (r.refillAll now) r') : r' = r.refillAll now := by
  rw [h.rest]
  unfold Relay.refillAll
  congr 1
  funext source
  rcases h.direction source with heq | heq
  · exact heq
  · rw [heq, Relay.refillAll_directionFrom, Direction.refill_refill]

/-- A query of a refilled relay answers the same and finds nothing left to refill. -/
lemma desiredInterest_refillAll (r : Relay) (side : Side) :
    (r.refillAll now).desiredInterest side now =
      ((r.desiredInterest side now).1, (r.desiredInterest side now).2.refillAll now) := by
  refine Prod.ext ?_ ?_
  · by_cases hconn : side = .upstream → r.upstreamConnecting = false
    · have hsendable := faultSendable_refill (r.directionFrom side.peer)
        (r.directionFrom side.peer).queue.size now
      rw [desiredInterest_eq hconn, desiredInterest_eq (r := r.refillAll now) hconn]
      simp only [Relay.refillAll_directionFrom]
      congr 2
      exact congrArg (fun n => decide (0 < n)) hsendable
    · obtain ⟨rfl, hc⟩ : side = .upstream ∧ r.upstreamConnecting = true := by simpa using hconn
      rw [desiredInterest_connecting hc, desiredInterest_connecting (r := r.refillAll now) hc]
  · rw [(desiredInterest_refills (r.refillAll now) side now).of_refillAll]
    exact (desiredInterest_refills r side now).refillAll.symm

lemma nextWake_refillAll (r : Relay) (destination : Side) :
    (r.refillAll now).nextWake destination now =
      ((r.nextWake destination now).1, (r.nextWake destination now).2.refillAll now) := by
  refine Prod.ext ?_ ?_
  · by_cases hheld : ∃ channel, r.Held destination channel
    · obtain ⟨channel, h⟩ := hheld
      have hfault : ((r.refillAll now).directionFrom destination.peer).fault =
          some (channel.refill now) := by
        rw [Relay.refillAll_directionFrom, Direction.refill, h.fault]
        rfl
      have hsendable := faultSendable_refill (r.directionFrom destination.peer)
        (r.directionFrom destination.peer).queue.size now
      rw [nextWake_eq h.writeOpen h.connected h.size h.fault,
        nextWake_eq (r := r.refillAll now) h.writeOpen h.connected h.size hfault,
        FaultChannel.refill_refill]
      exact congrArg (fun n => if 0 < n then none
        else (channel.refill now).wake (r.directionFrom destination.peer).queue.size now) hsendable
    · have hnot : ∀ channel, ¬(r.refillAll now).Held destination channel := by
        intro channel hc
        obtain ⟨channel₀, hfault, -⟩ := Option.map_eq_some_iff.mp hc.fault
        exact hheld ⟨channel₀, hc.writeOpen, hc.connected, hc.size, hfault⟩
      rw [nextWake_of_not_held (not_exists.mp hheld), nextWake_of_not_held hnot]
  · rw [(nextWake_refills (r.refillAll now) destination now).of_refillAll]
    exact (nextWake_refills r destination now).refillAll.symm

/-- **A call does not notice a refill up to its own time.** -/
lemma Call.exec_refillAll (call : Call) (hnow : ∀ time, call.time? = some time → time = now) :
    call.exec io (s.refillAll now) =
      (call.exec io s).map fun last => (last.1, last.2.refillAll now) := by
  cases call with
  | handleReadable source hangupHint time =>
      simp only [Call.exec, handleReadable_refillAll]
      rcases s.handleReadable io source hangupHint time with fault | last <;> rfl
  | flush destination time =>
      obtain rfl : time = now := hnow time rfl
      simp only [Call.exec, flush_refillAll]
      rcases s.flush io destination time with fault | last <;> rfl
  | propagateHalfCloses =>
      simp only [Call.exec, propagateHalfCloses_refillAll]
      rfl
  | markUpstreamConnected => rfl
  | desiredInterest side time =>
      obtain rfl : time = now := hnow time rfl
      exact congrArg (fun last => Except.ok (CallResult.interest last.1, Session.mk last.2 s.trace))
        (desiredInterest_refillAll s.relay side)
  | nextWake destination time =>
      obtain rfl : time = now := hnow time rfl
      exact congrArg (fun last => Except.ok (CallResult.wake last.1, Session.mk last.2 s.trace))
        (nextWake_refillAll s.relay destination)

end Refill

/-! ## Buckets of the plan -/

/-- Every bucket is one of the plan, built at `start`. -/
def Session.Tracked (plan : FaultPlan) (start : ℤ) (s : Session) : Prop :=
  ∀ source channel b, (s.relay.directionFrom source).fault = some channel →
    channel.bucket = some b →
    b.Tracks plan.rateBytesPerSecond plan.effectiveBurstBytes start

/-- Rate and burst of a plan for which no expression of a bucket wraps. -/
structure FaultPlan.Paceable (plan : FaultPlan) : Prop where
  rate_le : plan.rateBytesPerSecond ≤ 1000000000
  burst_le : plan.effectiveBurstBytes ≤ 18000000000

section Tracked

variable {io : SocketIo} {plan : FaultPlan} {config : RelayConfig} {start now : ℤ}
  {s s' : Session} {r : Relay}

lemma FaultPlan.Paceable.fits (h : plan.Paceable) :
    TokenBucket.Fits plan.rateBytesPerSecond plan.effectiveBurstBytes :=
  TokenBucket.fits_of_le h.rate_le h.burst_le

lemma Session.Tracked.move (h : s.Tracked plan start) (hplan : plan.Paceable)
    (hclock : now - start < 2 ^ 64) (hmove : Move io now s s') : s'.Tracked plan start := by
  apply hmove.buckets ?_ ?_ h
  · exact fun b hb => hb.refill hplan.fits hclock
  · exact fun b b' count hb hconsume => hb.consume hconsume

lemma Session.Tracked.moves (h : s.Tracked plan start) (hplan : plan.Paceable)
    (hclock : now - start < 2 ^ 64) (hinv : s.Inv) (hmoves : Moves io now s s') :
    s'.Tracked plan start :=
  hmoves.preserves hinv h fun _ _ _ hm hmove => hm.move hplan hclock hmove

lemma FaultChannel.create_bucket {connectionSeed directionIndex : UInt64} {channel : FaultChannel}
    {b : TokenBucket}
    (hok : FaultChannel.create plan connectionSeed directionIndex start = .ok channel)
    (hb : channel.bucket = some b) :
    0 < plan.rateBytesPerSecond ∧
      TokenBucket.create plan.rateBytesPerSecond plan.effectiveBurstBytes start = .ok b := by
  rw [FaultChannel.create] at hok
  by_cases hrate : plan.rateBytesPerSecond > 0
  · obtain ⟨b', hb', -⟩ :=
      TokenBucket.create_spec start hrate (plan.effectiveBurstBytes_pos hrate)
    simp only [if_pos hrate, hb', Except.map, bind, Except.bind] at hok
    cases hok
    obtain rfl : b' = b := Option.some.inj hb
    exact ⟨hrate, hb'⟩
  · simp only [if_neg hrate, bind, Except.bind] at hok
    cases hok
    cases hb

lemma Relay.create_tracked {connectionId : UInt64} {upstreamConnecting : Bool}
    (hconfig : config.Valid)
    (hok : Relay.create config plan connectionId upstreamConnecting start = .ok r) :
    Session.Tracked plan start { relay := r } := by
  intro source channel b hc hb
  obtain ⟨hrate, hcreate⟩ := FaultChannel.create_bucket (Relay.create_channel hconfig hok hc) hb
  exact TokenBucket.tracks_create hrate (plan.effectiveBurstBytes_pos hrate) hcreate

/-- A refill of everything in between leaves no trace. -/
lemma Session.Tracked.refillAll_refillAll (h : s.Tracked plan start) (hplan : plan.Paceable)
    {mid : ℤ} (hmid : mid ≤ now) (hclock : now - start < 2 ^ 64) :
    (s.refillAll mid).refillAll now = s.refillAll now := by
  have hdirection : ∀ source, ((s.relay.directionFrom source).refill mid).refill now =
      (s.relay.directionFrom source).refill now := by
    intro source
    rcases hd : s.relay.directionFrom source with ⟨queue, backpressure, _ | channel⟩
    · rfl
    rcases hb : channel.bucket with _ | b
    · simp [Direction.refill, FaultChannel.refill, hb]
    have htracks := h source channel b (by rw [hd]) hb
    have hrefill := htracks.refill_refill_of_le hplan.fits hplan.rate_le hmid hclock
    simp [Direction.refill, FaultChannel.refill, hb, hrefill]
  unfold Session.refillAll Relay.refillAll
  simp only [hdirection]

end Tracked

/-! ## Two runs that differ in queries -/

/-- A call of one of the two methods that only ask. -/
inductive Query
  | desiredInterest (side : Side) (now : ℤ)
  | nextWake (destination : Side) (now : ℤ)
  deriving DecidableEq, Repr

def Query.call : Query → Call
  | .desiredInterest side now => .desiredInterest side now
  | .nextWake destination now => .nextWake destination now

/-- One step of changing a sequence of calls into another. -/
inductive Edit
  /-- A call of any method that both sequences make. -/
  | keep (call : Call)
  /-- A query that only the original makes. -/
  | delete (query : Query)
  /-- A query that only the edited sequence makes. -/
  | insert (query : Query)
  deriving DecidableEq, Repr

namespace Edit

def before : Edit → Option Call
  | .keep call => some call
  | .delete query => some query.call
  | .insert _ => none

def after : Edit → Option Call
  | .keep call => some call
  | .delete _ => none
  | .insert query => some query.call

/-- The calls of the original sequence. -/
def original (edits : List Edit) : List Call := edits.filterMap before

/-- The calls of the edited sequence. -/
def edited (edits : List Edit) : List Call := edits.filterMap after

/-- Of the results of a sequence, in which `made` says which calls it makes, those of the calls
that both sequences make. -/
def kept (made : Edit → Option Call) : List Edit → List CallResult → List CallResult
  | [], _ => []
  | .keep _ :: edits, results => results.head?.toList ++ kept made edits results.tail
  | edit :: edits, results =>
      if (made edit).isSome then kept made edits results.tail else kept made edits results

end Edit

/-- A relay apart from its token buckets. -/
def Relay.withoutBuckets (r : Relay) : Relay :=
  { r with directionFrom := fun source =>
      { r.directionFrom source with
        fault := (r.directionFrom source).fault.map fun channel =>
          { channel with bucket := none } } }

section Twins

variable {io : SocketIo} {plan : FaultPlan} {start past past₁ past₂ now : ℤ}
  {s s' s₁ s₂ : Session} {call : Call} {calls : List Call}

lemma Relay.withoutBuckets_refillAll (r : Relay) (now : ℤ) :
    (r.refillAll now).withoutBuckets = r.withoutBuckets := by
  have hfault : ∀ fault : Option FaultChannel,
      (fault.map (·.refill now)).map (fun channel => { channel with bucket := none }) =
        fault.map fun channel => { channel with bucket := none } := by
    rintro (_ | channel) <;> rfl
  unfold Relay.withoutBuckets
  simp only [Relay.refillAll_directionFrom, Direction.refill, hfault]
  rfl

/-- The calls are made in order, none before `past`, and the clock does not run through its whole
range since `start`. -/
structure Timely (start past : ℤ) (calls : List Call) : Prop where
  clocked : Clocked past calls
  span : ∀ t ∈ past :: calls.filterMap Call.time?, t - start < 2 ^ 64

lemma Timely.cons (h : Timely start past (call :: calls)) :
    past ≤ call.time?.getD past ∧ Timely start (call.time?.getD past) calls := by
  obtain ⟨hle, hclocked⟩ := h.clocked.cons
  refine ⟨hle, hclocked, fun t ht => h.span t ?_⟩
  rcases htime : call.time? with _ | time
  · rw [htime] at ht
    rwa [List.filterMap_cons_none htime]
  · rw [htime] at ht
    rw [List.filterMap_cons_some htime]
    exact List.mem_cons_of_mem _ ht

lemma Timely.span_past (h : Timely start past calls) : past - start < 2 ^ 64 :=
  h.span past (List.mem_cons_self ..)

/-- Two states of one relay that a refill up to `now` makes equal. -/
structure Twins (plan : FaultPlan) (start now : ℤ) (s₁ s₂ : Session) : Prop where
  inv₁ : s₁.Inv
  inv₂ : s₂.Inv
  tracked₁ : s₁.Tracked plan start
  tracked₂ : s₂.Tracked plan start
  agree : s₁.refillAll now = s₂.refillAll now

lemma Twins.symm (h : Twins plan start now s₁ s₂) : Twins plan start now s₂ s₁ :=
  ⟨h.inv₂, h.inv₁, h.tracked₂, h.tracked₁, h.agree.symm⟩

lemma Twins.later (h : Twins plan start past s₁ s₂) (hplan : plan.Paceable) (hle : past ≤ now)
    (hclock : now - start < 2 ^ 64) : Twins plan start now s₁ s₂ := by
  refine { h with agree := ?_ }
  calc s₁.refillAll now = (s₁.refillAll past).refillAll now :=
        (h.tracked₁.refillAll_refillAll hplan hle hclock).symm
    _ = (s₂.refillAll past).refillAll now := by rw [h.agree]
    _ = s₂.refillAll now := h.tracked₂.refillAll_refillAll hplan hle hclock

/-- A call that both make finds them equal. -/
lemma Twins.keep (h : Twins plan start now s₁ s₂) (hplan : plan.Paceable)
    (hclock : now - start < 2 ^ 64) (hnow : ∀ time, call.time? = some time → time = now) :
    ∃ result s₁' s₂', call.exec io s₁ = .ok (result, s₁') ∧ call.exec io s₂ = .ok (result, s₂') ∧
      Twins plan start now s₁' s₂' := by
  obtain ⟨result₁, s₁', hexec₁, hmoves₁⟩ := Call.exec_spec io now h.inv₁ call hnow
  obtain ⟨result₂, s₂', hexec₂, hmoves₂⟩ := Call.exec_spec io now h.inv₂ call hnow
  have hrefilled₁ : call.exec io (s₁.refillAll now) = _ := Call.exec_refillAll call hnow
  have hrefilled₂ : call.exec io (s₂.refillAll now) = _ := Call.exec_refillAll call hnow
  rw [hexec₁, h.agree, hrefilled₂, hexec₂] at hrefilled₁
  obtain ⟨hresult, hagree⟩ := Prod.mk.inj (Except.ok.inj hrefilled₁)
  obtain rfl : result₂ = result₁ := hresult
  exact ⟨result₂, s₁', s₂', hexec₁, hexec₂,
    hmoves₁.inv h.inv₁, hmoves₂.inv h.inv₂, h.tracked₁.moves hplan hclock h.inv₁ hmoves₁,
    h.tracked₂.moves hplan hclock h.inv₂ hmoves₂, hagree.symm⟩

lemma Query.exec_refills (io : SocketIo) (query : Query) (s : Session) :
    ∃ time result r, query.call.time? = some time ∧
      query.call.exec io s = .ok (result, { s with relay := r }) ∧ Refills time s.relay r := by
  cases query with
  | desiredInterest side time =>
      exact ⟨time, _, _, rfl, rfl, desiredInterest_refills s.relay side time⟩
  | nextWake destination time =>
      exact ⟨time, _, _, rfl, rfl, nextWake_refills s.relay destination time⟩

/-- A query that only the first makes is forgotten by the next refill. -/
lemma Twins.ask (h : Twins plan start now s₁ s₂) (hplan : plan.Paceable)
    (hclock : now - start < 2 ^ 64) {query : Query}
    (hnow : ∀ time, query.call.time? = some time → time ≤ now) :
    ∃ result s₁', query.call.exec io s₁ = .ok (result, s₁') ∧ Twins plan start now s₁' s₂ := by
  obtain ⟨time, result, r, htime, hexec, hrefills⟩ := query.exec_refills io s₁
  have hle := hnow time htime
  have hmoves : Moves io time s₁ { s₁ with relay := r } := hrefills.moves
  have htracked := h.tracked₁.moves hplan (by omega) h.inv₁ hmoves
  have hsame : Session.refillAll { s₁ with relay := r } time = s₁.refillAll time :=
    congrArg (fun relay => Session.mk relay s₁.trace) hrefills.refillAll
  refine ⟨result, _, hexec, hmoves.inv h.inv₁, h.inv₂, htracked, h.tracked₂, ?_⟩
  calc Session.refillAll { s₁ with relay := r } now
      = (Session.refillAll { s₁ with relay := r } time).refillAll now :=
        (htracked.refillAll_refillAll hplan hle hclock).symm
    _ = (s₁.refillAll time).refillAll now := by rw [hsame]
    _ = s₁.refillAll now := h.tracked₁.refillAll_refillAll hplan hle hclock
    _ = s₂.refillAll now := h.agree

/-- The induction is on the edits.  Each sequence has its own last reading: a query of one may lie
before a query of the other that came first, and the next call that both make is after both. -/
lemma Twins.execAll (io : SocketIo) (hplan : plan.Paceable) :
    ∀ (edits : List Edit) (past₁ past₂ : ℤ) (s₁ s₂ : Session),
      Timely start past₁ (Edit.original edits) → Timely start past₂ (Edit.edited edits) →
      Twins plan start (max past₁ past₂) s₁ s₂ →
      ∃ results₁ s₁' results₂ s₂' last,
        execAll io (Edit.original edits) s₁ = .ok (results₁, s₁') ∧
        execAll io (Edit.edited edits) s₂ = .ok (results₂, s₂') ∧
        Edit.kept Edit.before edits results₁ = Edit.kept Edit.after edits results₂ ∧
        Twins plan start last s₁' s₂'
  | [], past₁, past₂, s₁, s₂, _, _, htwins => ⟨[], s₁, [], s₂, _, rfl, rfl, rfl, htwins⟩
  | .keep call :: edits, past₁, past₂, s₁, s₂, htimely₁, htimely₂, htwins => by
      obtain ⟨hle₁, hrest₁⟩ := htimely₁.cons
      obtain ⟨hle₂, hrest₂⟩ := htimely₂.cons
      have hspan₁ := hrest₁.span_past
      have hspan₂ := hrest₂.span_past
      have hnow : ∀ time, call.time? = some time →
          time = max (call.time?.getD past₁) (call.time?.getD past₂) := by
        intro time ht
        simp [ht]
      obtain ⟨result, s₁', s₂', hexec₁, hexec₂, htwins'⟩ :=
        (htwins.later hplan (max_le_max hle₁ hle₂) (by omega)).keep hplan (by omega) hnow
      obtain ⟨results₁, s₁'', results₂, s₂'', last, hall₁, hall₂, hkept, hlast⟩ :=
        Twins.execAll io hplan edits _ _ s₁' s₂' hrest₁ hrest₂ htwins'
      exact ⟨result :: results₁, s₁'', result :: results₂, s₂'', last, execAll_cons hexec₁ hall₁,
        execAll_cons hexec₂ hall₂, congrArg (result :: ·) hkept, hlast⟩
  | .delete query :: edits, past₁, past₂, s₁, s₂, htimely₁, htimely₂, htwins => by
      obtain ⟨hle, hrest⟩ := htimely₁.cons
      have hspan₁ := hrest.span_past
      have hspan₂ := htimely₂.span_past
      have hnow : ∀ time, query.call.time? = some time →
          time ≤ max (query.call.time?.getD past₁) past₂ := by
        intro time ht
        simp [ht]
      obtain ⟨result, s₁', hexec, htwins'⟩ :=
        (htwins.later hplan (max_le_max_right past₂ hle) (by omega)).ask hplan (by omega) hnow
      obtain ⟨results₁, s₁'', results₂, s₂', last, hall₁, hall₂, hkept, hlast⟩ :=
        Twins.execAll io hplan edits _ past₂ s₁' s₂ hrest htimely₂ htwins'
      exact ⟨result :: results₁, s₁'', results₂, s₂', last, execAll_cons hexec hall₁, hall₂, hkept,
        hlast⟩
  | .insert query :: edits, past₁, past₂, s₁, s₂, htimely₁, htimely₂, htwins => by
      obtain ⟨hle, hrest⟩ := htimely₂.cons
      have hspan₁ := htimely₁.span_past
      have hspan₂ := hrest.span_past
      have hnow : ∀ time, query.call.time? = some time →
          time ≤ max past₁ (query.call.time?.getD past₂) := by
        intro time ht
        simp [ht]
      obtain ⟨result, s₂', hexec, htwins'⟩ :=
        (htwins.later hplan (max_le_max_left past₁ hle) (by omega)).symm.ask hplan (by omega) hnow
      obtain ⟨results₁, s₁', results₂, s₂'', last, hall₁, hall₂, hkept, hlast⟩ :=
        Twins.execAll io hplan edits past₁ _ s₁ s₂' htimely₁ hrest htwins'.symm
      exact ⟨results₁, s₁', result :: results₂, s₂'', last, hall₁, execAll_cons hexec hall₂, hkept,
        hlast⟩

/-- **Queries are pure to an observer.**  Take a plan of rate at most 10⁹ and burst at most
18 · 10⁹, any calls in clock order, and any way of deleting and inserting calls of
`desired_interest` and `next_wake` that leaves the calls in clock order.  Both sequences run to
their end against the same sockets.  The calls they share return the same results; the traces,
which hold every span offered to `receive` and `send`, every shutdown and every event, are equal;
and so are the metrics and everything else of the relays but the token buckets. -/
theorem queries_pure (io : SocketIo) (config : RelayConfig) (hconfig : config.Valid)
    (plan : FaultPlan) (hplan : plan.Paceable) (connectionId : UInt64) (upstreamConnecting : Bool)
    (start : ℤ) (edits : List Edit) (hbefore : Clocked start (Edit.original edits))
    (hafter : Clocked start (Edit.edited edits))
    (hint : ∀ t ∈ start :: (Edit.original edits ++ Edit.edited edits).filterMap Call.time?,
      IsInt64 t) :
    ∃ results₁ s₁ results₂ s₂,
      runRelay io config plan connectionId upstreamConnecting start (Edit.original edits) =
        .ok (results₁, s₁) ∧
      runRelay io config plan connectionId upstreamConnecting start (Edit.edited edits) =
        .ok (results₂, s₂) ∧
      Edit.kept Edit.before edits results₁ = Edit.kept Edit.after edits results₂ ∧
      s₁.trace = s₂.trace ∧ s₁.relay.metrics = s₂.relay.metrics ∧
      s₁.relay.withoutBuckets = s₂.relay.withoutBuckets := by
  have hspan : ∀ t ∈ start :: (Edit.original edits ++ Edit.edited edits).filterMap Call.time?,
      t - start < 2 ^ 64 := by
    intro t ht
    have hstart := (hint start (List.mem_cons_self ..)).1
    have hhigh := (hint t ht).2
    omega
  rw [List.filterMap_append] at hspan
  have htimely₁ : Timely start start (Edit.original edits) :=
    ⟨hbefore, fun t ht => hspan t (List.cons_subset_cons _ (List.subset_append_left ..) ht)⟩
  have htimely₂ : Timely start start (Edit.edited edits) :=
    ⟨hafter, fun t ht => hspan t (List.cons_subset_cons _ (List.subset_append_right ..) ht)⟩
  obtain ⟨r, hok, hfresh⟩ := Relay.create_spec plan hconfig connectionId upstreamConnecting start
  have htracked := Relay.create_tracked hconfig hok
  have htwins : Twins plan start (max start start) { relay := r } { relay := r } :=
    ⟨hfresh.inv hconfig, hfresh.inv hconfig, htracked, htracked, rfl⟩
  obtain ⟨results₁, s₁, results₂, s₂, last, hall₁, hall₂, hkept, hlast⟩ :=
    Twins.execAll io hplan edits start start _ _ htimely₁ htimely₂ htwins
  have htrace : (s₁.refillAll last).trace = (s₂.refillAll last).trace := by rw [hlast.agree]
  have hmetrics : (s₁.refillAll last).relay.metrics = (s₂.refillAll last).relay.metrics := by
    rw [hlast.agree]
  refine ⟨results₁, s₁, results₂, s₂, by simp only [runRelay, hok, bind, Except.bind, hall₁],
    by simp only [runRelay, hok, bind, Except.bind, hall₂], hkept,
    htrace, hmetrics, ?_⟩
  have hrelay := congrArg (·.relay.withoutBuckets) hlast.agree
  simp only [Session.refillAll, Relay.withoutBuckets_refillAll] at hrelay
  exact hrelay

/-- A rate-limited direction, asked twice while it waits or not at all. -/
theorem queries_pure_rate_limited :
    ∃ results₁ s₁ results₂ s₂,
      runRelay (.script fun _ => [1, 2, 3]) {} { rateBytesPerSecond := 3, burstBytes := 2 } 7
        false 0 [.handleReadable .client false 1, .nextWake .upstream 333333333,
          .flush .upstream 700000000, .desiredInterest .upstream 900000000] =
        .ok (results₁, s₁) ∧
      runRelay (.script fun _ => [1, 2, 3]) {} { rateBytesPerSecond := 3, burstBytes := 2 } 7
        false 0 [.handleReadable .client false 1, .desiredInterest .upstream 5,
          .flush .upstream 700000000, .desiredInterest .upstream 900000000] =
        .ok (results₂, s₂) ∧
      s₁.trace = s₂.trace ∧ s₁.relay.metrics = s₂.relay.metrics := by
  obtain ⟨results₁, s₁, results₂, s₂, hrun₁, hrun₂, -, htrace, hmetrics, -⟩ :=
    queries_pure (.script fun _ => [1, 2, 3]) {} (by decide)
      { rateBytesPerSecond := 3, burstBytes := 2 } ⟨by decide, by decide⟩ 7 false 0
      [.keep (.handleReadable .client false 1), .delete (.nextWake .upstream 333333333),
        .insert (.desiredInterest .upstream 5), .keep (.flush .upstream 700000000),
        .keep (.desiredInterest .upstream 900000000)]
      (by decide) (by decide) (by decide)
  exact ⟨results₁, s₁, results₂, s₂, hrun₁, hrun₂, htrace, hmetrics⟩

end Twins

end NetFault
