import NetFault.Relay.Channels
import NetFault.Relay.Integrity

/-!
# Pacing neither stalls nor spins

`desired_interest` and `next_wake` ask for the budget of the whole queue, `flush` for that of the
contiguous span in front of it.  The three agree: with bytes queued, either some may be sent now,
and then a flush sends some, or a wake time strictly in the future is known.  A quantum is at most
4096 bytes, so the wait for it fits its 64-bit types at every rate a plan may have.
-/

namespace NetFault

/-! ## The budget of a queue and of its front -/

lemma releaseQuantum_pos {eligible burst : ℕ} (he : 0 < eligible) (hb : 0 < burst) :
    0 < releaseQuantum eligible burst := by
  simp only [releaseQuantum, kPreferredReleaseBytes]
  omega

lemma releaseQuantum_mono {a b : ℕ} (h : a ≤ b) (burst : ℕ) :
    releaseQuantum a burst ≤ releaseQuantum b burst := by
  simp only [releaseQuantum]
  omega

lemma FaultChannel.released_mono (channel : FaultChannel) {a b : ℕ} (h : a ≤ b) (now : ℤ) :
    channel.released a now ≤ channel.released b now := by
  simp only [FaultChannel.released]
  split
  · omega
  · exact h

lemma FaultChannel.released_pos {channel : FaultChannel} {a b : ℕ} {now : ℤ} (ha : 0 < a)
    (h : 0 < channel.released b now) : 0 < channel.released a now := by
  simp only [FaultChannel.released] at h ⊢
  split
  · next line hl =>
      rw [hl] at h
      dsimp only at h
      omega
  · exact ha

/-- **A budget for the queue is a budget for its front.**  A smaller limit asks for a smaller
quantum, so tokens that are enough for the queue are enough for its first span. -/
lemma faultSendable_pos_of_le {d : Direction} (hinv : d.Inv) {limit whole : ℕ} {now : ℤ}
    (hlimit : 0 < limit) (hle : limit ≤ whole) (h : 0 < (faultSendable d whole now).1) :
    0 < (faultSendable d limit now).1 := by
  rcases hf : d.fault with _ | channel
  · rwa [faultSendable_of_none hf]
  have hreleased : 0 < channel.released limit now :=
    FaultChannel.released_pos hlimit (h.trans_le (faultSendable_le_released hf whole now))
  rcases hb : channel.bucket with _ | bucket
  · rwa [faultSendable_of_bucket_none hf hb]
  rw [faultSendable_of_bucket hf hb] at h ⊢
  have hburst := (hinv.bucket channel bucket hf hb).burst_pos
  have hquantum := releaseQuantum_mono (channel.released_mono hle now) bucket.burst
  have hwhole : ¬(bucket.refill now).tokens <
      releaseQuantum (channel.released whole now) bucket.burst := by
    intro hlt
    rw [if_pos hlt] at h
    exact absurd h (lt_irrefl 0)
  have hpos := releaseQuantum_pos hreleased hburst
  rw [if_neg (by omega)]
  omega

/-- A bucket that refuses a budget lacks tokens for the quantum. -/
lemma tokens_lt_of_faultSendable_eq_zero {d : Direction} (hinv : d.Inv) {channel : FaultChannel}
    {bucket : TokenBucket} (hf : d.fault = some channel) (hb : channel.bucket = some bucket)
    {limit : ℕ} {now : ℤ} (hreleased : 0 < channel.released limit now)
    (h : (faultSendable d limit now).1 = 0) :
    (bucket.refill now).tokens < releaseQuantum (channel.released limit now) bucket.burst := by
  rw [faultSendable_of_bucket hf hb] at h
  split_ifs at h with hlt
  · exact hlt
  · have hpos := releaseQuantum_pos hreleased (hinv.bucket channel bucket hf hb).burst_pos
    omega

/-! ## The wake time -/

/-- The wait for at most a quantum is positive and not wrapped, at every permitted rate. -/
lemma TokenBucket.Sound.lt_eligibleAt {b : TokenBucket} (hs : b.Sound) {bytes : ℕ} {now : ℤ}
    (hrate : b.rate ≤ 1000000000) (hbytes : bytes ≤ kPreferredReleaseBytes)
    (hburst : bytes ≤ b.burst) (htokens : (b.refill now).tokens < bytes) :
    now < (b.eligibleAt bytes now).1 := by
  have hmissing : bytes - (b.refill now).tokens ≤ 4096 := by
    simp only [kPreferredReleaseBytes] at hbytes
    omega
  have hfit : (bytes - (b.refill now).tokens) * nsPerSecond + (b.refill now).rate - 1 < 2 ^ 64 := by
    simp only [refill_rate, nsPerSecond]
    omega
  have hpos := TokenBucket.earnTime_pos (b := b.refill now)
    (by omega : 0 < bytes - (b.refill now).tokens) (by simpa using hs.rate_pos) hfit
  have hsmall : (b.refill now).earnTime (bytes - (b.refill now).tokens) < 2 ^ 63 := by
    rw [TokenBucket.earnTime, u64_of_lt hfit]
    refine (Nat.div_le_self _ _).trans_lt ?_
    simp only [refill_rate, nsPerSecond]
    omega
  simp only [TokenBucket.eligibleAt, refill_burst, min_eq_left hburst, if_neg (not_le.mpr htokens)]
  rw [i64_of_abs_lt (by omega) (by exact_mod_cast hsmall)]
  omega

/-- **What bytes that may not be sent wait for.**  Either the delay line releases nothing, and the
wake is its first stamp; or something is released and the bucket lacks the quantum for it, and the
wake is the bucket's. -/
lemma FaultChannel.wake_cases {d : Direction} (hinv : d.Inv) {channel : FaultChannel}
    (hf : d.fault = some channel) {now : ℤ} (hsize : 0 < d.queue.size)
    (h : (faultSendable d d.queue.size now).1 = 0) :
    (∃ line t, channel.delay = some line ∧ line.releasable now = 0 ∧
      line.nextEligible now = some t ∧ now < t ∧
      (channel.refill now).wake d.queue.size now = some t) ∨
    (∃ bucket, channel.bucket = some bucket ∧ 0 < channel.released d.queue.size now ∧
      (bucket.refill now).tokens <
        releaseQuantum (channel.released d.queue.size now) bucket.burst ∧
      (channel.refill now).wake d.queue.size now = some ((bucket.refill now).eligibleAt
        (releaseQuantum (channel.released d.queue.size now) bucket.burst) now).1) := by
  have hbucket : 0 < channel.released d.queue.size now → ∃ bucket, channel.bucket = some bucket ∧
      (bucket.refill now).tokens <
        releaseQuantum (channel.released d.queue.size now) bucket.burst := by
    intro hreleased
    rcases hb : channel.bucket with _ | bucket
    · rw [faultSendable_of_bucket_none hf hb] at h
      omega
    · exact ⟨bucket, rfl, tokens_lt_of_faultSendable_eq_zero hinv hf hb hreleased h⟩
  rcases hd : channel.delay with _ | line
  · -- every queued byte is released
    have hreleased : channel.released d.queue.size now = d.queue.size := by
      simp [FaultChannel.released, hd]
    obtain ⟨bucket, hb, htokens⟩ := hbucket (by omega)
    refine .inr ⟨bucket, hb, by omega, htokens, ?_⟩
    rw [hreleased]
    simp [FaultChannel.wake, FaultChannel.refill, hd, hb, hsize, earlier]
  obtain ⟨hw, hpending⟩ := hinv.delay channel line hf hd
  rcases Nat.eq_zero_or_pos (line.releasable now) with hzero | hpos
  · -- the delay line holds everything back
    obtain ⟨t, ht, hlater⟩ := DelayLine.nextEligible_of_releasable_eq_zero hw (by omega) hzero
    refine .inl ⟨line, t, rfl, hzero, ht, hlater, ?_⟩
    rcases hb : channel.bucket with _ | bucket <;>
      simp [FaultChannel.wake, FaultChannel.refill, hd, hb, hzero, ht]
  · -- the front of the queue is released and waits for tokens
    have hreleased : channel.released d.queue.size now = line.releasable now := by
      rw [FaultChannel.released, hd]
      exact min_eq_right (hpending ▸ DelayLine.releasable_le_pending hw now)
    obtain ⟨bucket, hb, htokens⟩ := hbucket (by omega)
    refine .inr ⟨bucket, hb, by omega, htokens, ?_⟩
    rw [hreleased]
    simp [FaultChannel.wake, FaultChannel.refill, hd, hb, hpos, hpos.ne', earlier]

/-- **Bytes that may not be sent have a wake time**, later than now when the rate is permitted. -/
lemma FaultChannel.wake_of_faultSendable_eq_zero {d : Direction} (hinv : d.Inv)
    {channel : FaultChannel} (hf : d.fault = some channel) {now : ℤ} (hsize : 0 < d.queue.size)
    (h : (faultSendable d d.queue.size now).1 = 0) :
    ∃ t, (channel.refill now).wake d.queue.size now = some t ∧
      ((∀ b, channel.bucket = some b → b.rate ≤ 1000000000) → now < t) := by
  rcases FaultChannel.wake_cases hinv hf hsize h with
    ⟨line, t, -, -, -, hlater, hwake⟩ | ⟨bucket, hb, -, htokens, hwake⟩
  · exact ⟨t, hwake, fun _ => hlater⟩
  · refine ⟨_, hwake, fun hrate => ?_⟩
    have hs := (hinv.bucket channel bucket hf hb).refill now
    refine hs.lt_eligibleAt (by simpa using hrate bucket hb) (min_le_right _ _) ?_ ?_
    · rw [TokenBucket.refill_burst]
      exact (min_le_left _ _).trans (min_le_right _ _)
    · rw [TokenBucket.refill_refill]
      exact htokens

/-! ## The three methods agree -/

section Agreement

variable {io : SocketIo} {now : ℤ} {s : Session} {destination : Side}

/-- Interest in writing is a positive budget. -/
lemma desiredInterest_write (now : ℤ) (hopen : s.relay.writeOpen destination = true)
    (hconn : destination = .upstream → s.relay.upstreamConnecting = false)
    (hsize : 0 < (s.relay.directionFrom destination.peer).queue.size) :
    (s.relay.desiredInterest destination now).1.write = true ↔
      0 < (faultSendable (s.relay.directionFrom destination.peer)
        (s.relay.directionFrom destination.peer).queue.size now).1 := by
  rw [desiredInterest_eq hconn]
  simp [hopen, hsize]

/-- With bytes queued, a side that is not to be written to now has a wake time. -/
lemma nextWake_of_not_write (hinv : s.Inv) (hopen : s.relay.writeOpen destination = true)
    (hconn : destination = .upstream → s.relay.upstreamConnecting = false)
    (hsize : 0 < (s.relay.directionFrom destination.peer).queue.size)
    (hwrite : (s.relay.desiredInterest destination now).1.write = false) :
    ∃ t, (s.relay.nextWake destination now).1 = some t ∧
      ((∀ channel b, (s.relay.directionFrom destination.peer).fault = some channel →
        channel.bucket = some b → b.rate ≤ 1000000000) → now < t) := by
  have hzero : (faultSendable (s.relay.directionFrom destination.peer)
      (s.relay.directionFrom destination.peer).queue.size now).1 = 0 := by
    have hiff := desiredInterest_write now hopen hconn hsize
    rw [hwrite] at hiff
    simpa using hiff
  rcases hf : (s.relay.directionFrom destination.peer).fault with _ | channel
  · rw [faultSendable_of_none hf] at hzero
    omega
  obtain ⟨t, ht, hlater⟩ := FaultChannel.wake_of_faultSendable_eq_zero (hinv destination.peer) hf
    hsize hzero
  refine ⟨t, ?_, fun hrate => hlater (hrate channel · rfl)⟩
  rw [nextWake_eq hopen hconn hsize hf, hzero]
  simpa using ht

/-- A side that is to be written to now has no wake time. -/
lemma nextWake_of_write (hopen : s.relay.writeOpen destination = true)
    (hconn : destination = .upstream → s.relay.upstreamConnecting = false)
    (hsize : 0 < (s.relay.directionFrom destination.peer).queue.size)
    (hwrite : (s.relay.desiredInterest destination now).1.write = true) :
    (s.relay.nextWake destination now).1 = none := by
  rw [desiredInterest_write now hopen hconn hsize] at hwrite
  rcases hf : (s.relay.directionFrom destination.peer).fault with _ | channel
  · simp [Relay.nextWake, hf]
  · rw [nextWake_eq hopen hconn hsize hf, if_pos hwrite]

/-- A trip of `flush` with a budget makes a send before anything else. -/
lemma flushBody_sends (hinv : s.Inv) (hopen : s.relay.writeOpen destination = true)
    (hconn : destination = .upstream → s.relay.upstreamConnecting = false)
    (hsize : 0 < (s.relay.directionFrom destination.peer).queue.size)
    (hpos : 0 < (faultSendable (s.relay.directionFrom destination.peer)
      (s.relay.directionFrom destination.peer).queue.readableSpan.length now).1)
    {trip : Loop.Trip Session (Option PumpResult)}
    (hbody : s.flushBody io destination now = .ok trip) :
    ∃ data result rest, data ≠ [] ∧
      trip.state.trace = s.trace ++ .send destination data result now :: rest := by
  obtain ⟨budget, hbudget⟩ : ∃ budget, budget = (faultSendable
    (s.relay.directionFrom destination.peer)
    (s.relay.directionFrom destination.peer).queue.readableSpan.length now).1 := ⟨_, rfl⟩
  obtain ⟨mid, hmid⟩ : ∃ mid, mid = s.refilled destination.peer now := ⟨_, rfl⟩
  have hrefill : Move io now s mid := hmid ▸ .refill destination.peer
  have hwrite : mid.Writable destination budget now :=
    hmid ▸ writable_of_budget hopen hconn hbudget (hbudget ▸ hpos)
  have htrace : mid.trace = s.trace := by rw [hmid, Session.refilled_trace]
  rw [flushBody_eq destination hsize hbudget hmid, if_neg (by omega)] at hbody
  refine ⟨mid.offer destination budget,
    io.send mid.trace destination (mid.offer destination budget), ?_⟩
  rcases hio : io.send mid.trace destination (mid.offer destination budget) with
    count | _ | error | error <;> simp only [hio] at hbody
  · obtain ⟨d', notes, hok, -⟩ := hwrite.commitSent (hrefill.inv hinv) hio
    obtain rfl : _ = trip := by simpa [hok, Except.map] using hbody
    exact ⟨notes, hwrite.offer_ne_nil, by simp [Loop.Trip.state, Session.egressed, htrace]⟩
  · obtain rfl : _ = trip := by simpa using hbody
    exact ⟨[], hwrite.offer_ne_nil, by simp [Loop.Trip.state, htrace]⟩
  · obtain rfl : _ = trip := by simpa using hbody
    exact ⟨[], hwrite.offer_ne_nil, by simp [Loop.Trip.state, htrace]⟩
  · obtain rfl : _ = trip := by simpa using hbody
    exact ⟨[], hwrite.offer_ne_nil, by simp [Loop.Trip.state, htrace]⟩

/-- The first trip sends; what the later trips add comes after it. -/
lemma flushLoop_sends (io : SocketIo) (hinv : s.Inv) (hopen : s.relay.writeOpen destination = true)
    (hconn : destination = .upstream → s.relay.upstreamConnecting = false)
    (hsize : 0 < (s.relay.directionFrom destination.peer).queue.size)
    (hpos : 0 < (faultSendable (s.relay.directionFrom destination.peer)
      (s.relay.directionFrom destination.peer).queue.readableSpan.length now).1) :
    ∃ r s' data result rest, Loop.run (Session.flushBody io destination now) Fault.endlessLoop
        ((s.relay.directionFrom destination.peer).queue.size + 1) s = .ok (r, s') ∧ data ≠ [] ∧
      s'.trace = s.trace ++ .send destination data result now :: rest := by
  rcases flushBody_spec io now hinv destination hopen hconn with
    ⟨m, added, hbody, hmoves, -, -, hopen', hconn', hless⟩ | ⟨r, m, added, hbody, -⟩
  · obtain ⟨data, result, rest, hdata, htrace⟩ := flushBody_sends hinv hopen hconn hsize hpos hbody
    obtain ⟨r, s', added', hrun, -, htrace', -⟩ := flushLoop_spec io now
      (hmoves.inv hinv) destination hopen' (hconn' ▸ hconn) hless
    refine ⟨r, s', data, result, rest ++ added', by rw [Loop.run, hbody]; exact hrun, hdata, ?_⟩
    rw [htrace', show m.trace = _ from htrace]
    simp
  · obtain ⟨data, result, rest, hdata, htrace⟩ := flushBody_sends hinv hopen hconn hsize hpos hbody
    exact ⟨r, m, data, result, rest, by rw [Loop.run, hbody], hdata, htrace⟩

/-- **Interest in writing is not idle**: the flush it leads to sends. -/
lemma flush_sends (hinv : s.Inv) (hopen : s.relay.writeOpen destination = true)
    (hconn : destination = .upstream → s.relay.upstreamConnecting = false)
    (hwrite : (s.relay.desiredInterest destination now).1.write = true) :
    ∃ r s' data result rest, s.flush io destination now = .ok (r, s') ∧ data ≠ [] ∧
      s'.trace = s.trace ++ .send destination data result now :: rest := by
  have hsize : 0 < (s.relay.directionFrom destination.peer).queue.size := by
    rw [desiredInterest_eq hconn] at hwrite
    simp only [Bool.and_eq_true, Bool.not_eq_true', ByteQueue.empty_eq_false_iff] at hwrite
    exact hwrite.1.2
  have hpos := faultSendable_pos_of_le (hinv destination.peer)
    (ByteQueue.length_readableSpan_pos _ hsize) (ByteQueue.length_readableSpan_le _)
    ((desiredInterest_write now hopen hconn hsize).mp hwrite)
  have hguard : ¬(!s.relay.writeOpen destination ||
      (decide (destination = .upstream) && s.relay.upstreamConnecting)) = true := by
    simpa [hopen] using hconn
  obtain ⟨r, m, data, result, rest, hrun, hdata, htrace⟩ := flushLoop_sends io hinv hopen
    hconn hsize hpos
  rw [Session.flush, if_neg hguard, hrun]
  rcases r with _ | r
  · obtain ⟨added, -, htrace', -⟩ := checkLifecycleFaults_spec io now m destination
    refine ⟨(m.checkLifecycleFaults io).1, (m.checkLifecycleFaults io).2, data, result,
      rest ++ added, rfl, hdata, ?_⟩
    rw [htrace', htrace]
    simp
  · exact ⟨r, m, data, result, rest, rfl, hdata, htrace⟩

/-- A wake time is later than now when the rate is permitted. -/
lemma lt_of_nextWake (hinv : s.Inv)
    (hrate : ∀ channel b, (s.relay.directionFrom destination.peer).fault = some channel →
      channel.bucket = some b → b.rate ≤ 1000000000)
    {t : ℤ} (h : (s.relay.nextWake destination now).1 = some t) : now < t := by
  by_cases hheld : ∃ channel, s.relay.Held destination channel
  · obtain ⟨channel, hheld⟩ := hheld
    rcases hwrite : (s.relay.desiredInterest destination now).1.write with _ | _
    · obtain ⟨t', ht', hlater⟩ :=
        nextWake_of_not_write hinv hheld.writeOpen hheld.connected hheld.size hwrite
      obtain rfl : t' = t := Option.some.inj (ht'.symm.trans h)
      exact hlater hrate
    · rw [nextWake_of_write hheld.writeOpen hheld.connected hheld.size hwrite] at h
      cases h
  · rw [nextWake_of_not_held (not_exists.mp hheld)] at h
    cases h

end Agreement

/-! ## Repeated queries -/

section Repeated

variable {now : ℤ} {r r' : Relay}

lemma Refills.queue (h : Refills now r r') (source : Side) :
    (r'.directionFrom source).queue = (r.directionFrom source).queue := by
  rcases h.direction source with heq | heq <;> rw [heq]
  rfl

lemma Refills.backpressure (h : Refills now r r') (source : Side) :
    (r'.directionFrom source).backpressure = (r.directionFrom source).backpressure := by
  rcases h.direction source with heq | heq <;> rw [heq]
  rfl

lemma Refills.sendable (h : Refills now r r') (source : Side) (limit : ℕ) :
    (faultSendable (r'.directionFrom source) limit now).1 =
      (faultSendable (r.directionFrom source) limit now).1 := by
  rcases h.direction source with heq | heq <;> rw [heq]
  exact faultSendable_refill _ _ _

lemma Refills.flags (h : Refills now r r') :
    r'.readOpen = r.readOpen ∧ r'.writeOpen = r.writeOpen ∧
      r'.upstreamConnecting = r.upstreamConnecting := by
  rw [h.rest]
  exact ⟨rfl, rfl, rfl⟩

/-- **A query does not disturb the next one**: interest is the same after a refill. -/
lemma Refills.desiredInterest (h : Refills now r r') (side : Side) :
    (r'.desiredInterest side now).1 = (r.desiredInterest side now).1 := by
  obtain ⟨hread, hwrite, hconnecting⟩ := h.flags
  by_cases hconn : side = .upstream → r.upstreamConnecting = false
  · rw [desiredInterest_eq hconn, desiredInterest_eq (hconnecting ▸ hconn), hread, hwrite,
      h.backpressure, h.queue, h.sendable]
  · obtain ⟨rfl, hc⟩ : side = .upstream ∧ r.upstreamConnecting = true := by simpa using hconn
    rw [desiredInterest_connecting hc, desiredInterest_connecting (hconnecting.trans hc)]

lemma Refills.held (h : Refills now r r') {destination : Side} {channel : FaultChannel}
    (hheld : r.Held destination channel) :
    ∃ channel', r'.Held destination channel' ∧ channel'.refill now = channel.refill now := by
  obtain ⟨-, hwrite, hconnecting⟩ := h.flags
  have hkept : ∀ channel', (r'.directionFrom destination.peer).fault = some channel' →
      r'.Held destination channel' := fun channel' hf =>
    ⟨by rw [hwrite]; exact hheld.writeOpen, hconnecting ▸ hheld.connected,
      by rw [h.queue]; exact hheld.size, hf⟩
  rcases h.direction destination.peer with heq | heq
  · exact ⟨channel, hkept channel (by rw [heq, hheld.fault]), rfl⟩
  · exact ⟨channel.refill now, hkept _ (by rw [heq]; simp [Direction.refill, hheld.fault]),
      FaultChannel.refill_refill ..⟩

lemma Refills.held_of_held (h : Refills now r r') {destination : Side} {channel' : FaultChannel}
    (hheld : r'.Held destination channel') : ∃ channel, r.Held destination channel := by
  obtain ⟨-, hwrite, hconnecting⟩ := h.flags
  have hfault : ∃ channel, (r.directionFrom destination.peer).fault = some channel := by
    rcases h.direction destination.peer with heq | heq
    · exact ⟨channel', by rw [← heq, hheld.fault]⟩
    · obtain ⟨channel, hf, -⟩ := Option.map_eq_some_iff.mp
        ((congrArg Direction.fault heq).symm.trans hheld.fault)
      exact ⟨channel, hf⟩
  obtain ⟨channel, hf⟩ := hfault
  exact ⟨channel, by rw [← hwrite]; exact hheld.writeOpen, hconnecting ▸ hheld.connected,
    by rw [← h.queue]; exact hheld.size, hf⟩

/-- The same for the wake time. -/
lemma Refills.nextWake (h : Refills now r r') (destination : Side) :
    (r'.nextWake destination now).1 = (r.nextWake destination now).1 := by
  by_cases hheld : ∃ channel, r.Held destination channel
  · obtain ⟨channel, hc⟩ := hheld
    obtain ⟨channel', hc', hrefill⟩ := h.held hc
    rw [nextWake_eq hc.writeOpen hc.connected hc.size hc.fault,
      nextWake_eq hc'.writeOpen hc'.connected hc'.size hc'.fault, h.queue, h.sendable, hrefill]
  · rw [nextWake_of_not_held (not_exists.mp hheld), nextWake_of_not_held fun channel' hc' =>
      hheld (h.held_of_held hc')]

end Repeated

/-- **Pacing neither stalls nor spins.**  In every state a run can reach, at every time, for a
connected destination that is open for writing: queued bytes are either worth a write now or have
a wake time strictly in the future, never both; interest in writing leads to a send of at least a
byte; and reads are paused only while bytes are queued. -/
theorem relay_pacing_progress (io : SocketIo) (config : RelayConfig) (hconfig : config.Valid)
    (plan : FaultPlan) (hplan : plan.validate = .ok ()) (connectionId : UInt64)
    (upstreamConnecting : Bool) (start : ℤ) (calls : List Call) :
    ∃ results s, runRelay io config plan connectionId upstreamConnecting start calls =
        .ok (results, s) ∧
      ∀ destination now, s.relay.writeOpen destination = true →
        s.relay.upstreamConnecting = false →
        (0 < (s.relay.directionFrom destination.peer).queue.size →
          Xor ((s.relay.desiredInterest destination now).1.write = true)
            (∃ t, (s.relay.nextWake destination now).1 = some t ∧ now < t)) ∧
        ((s.relay.desiredInterest destination now).1.write = true →
          ∃ r s' data result rest, s.flush io destination now = .ok (r, s') ∧ data ≠ [] ∧
            s'.trace = s.trace ++ .send destination data result now :: rest) ∧
        (s.relay.readOpen destination.peer = true →
          (s.relay.desiredInterest destination.peer now).1.read = false →
          0 < (s.relay.directionFrom destination.peer).queue.size) := by
  obtain ⟨-, -, hrate⟩ := plan.validate_spec hplan
  obtain ⟨results, s, hrun, hinv, hfollows⟩ := runRelay_spec io hconfig plan connectionId
    upstreamConnecting start
    (P := Session.Follows config plan) (fun r hr => hr.follows)
    (fun now m m' hinv h hmove => h.move hmove) calls
  refine ⟨results, s, hrun, fun destination now hopen hconn => ⟨?_, ?_, ?_⟩⟩
  · intro hsize
    rcases hwrite : (s.relay.desiredInterest destination now).1.write with _ | _
    · obtain ⟨t, ht, hlater⟩ := nextWake_of_not_write hinv hopen (fun _ => hconn) hsize hwrite
      refine .inr ⟨⟨t, ht, hlater fun channel b hc hb => ?_⟩, by simp⟩
      rw [(((hfollows destination.peer).channel channel hc).bucket b hb).1]
      exact hrate
    · refine .inl ⟨rfl, ?_⟩
      rw [nextWake_of_write hopen (fun _ => hconn) hsize hwrite]
      simp
  · exact flush_sends hinv hopen (fun _ => hconn)
  · intro hread hpaused
    rw [desiredInterest_eq (fun _ => hconn), hread] at hpaused
    have hinvd := (hinv destination.peer).paused (by simpa using hpaused)
    omega

/-- Three bytes wait for their stamp; the upstream is woken for them, and not at once. -/
theorem relay_pacing_progress_scripted :
    ∃ results s, runRelay (.script fun _ => [1, 2, 3]) ⟨16, 4, 8⟩
        { latency := 5, rateBytesPerSecond := 1 } 7 false 0
        [.handleReadable .client false 1, .flush .upstream 2] = .ok (results, s) ∧
      (s.relay.desiredInterest .upstream 2).1.write = false ∧
      ∃ t, (s.relay.nextWake .upstream 2).1 = some t ∧ 2 < t := by
  have hcheck : returns (runRelay (.script fun _ => [1, 2, 3]) ⟨16, 4, 8⟩
      { latency := 5, rateBytesPerSecond := 1 } 7 false 0
      [.handleReadable .client false 1, .flush .upstream 2])
      (fun run => decide (0 < (run.2.relay.directionFrom .client).queue.size) &&
        run.2.relay.writeOpen .upstream && !run.2.relay.upstreamConnecting &&
        !(run.2.relay.desiredInterest .upstream 2).1.write) = true := by
    decide +kernel
  obtain ⟨results, s, hrun, hpaced⟩ := relay_pacing_progress (.script fun _ => [1, 2, 3])
    ⟨16, 4, 8⟩ (by decide) { latency := 5, rateBytesPerSecond := 1 } (by decide) 7 false 0
    [.handleReadable .client false 1, .flush .upstream 2]
  have hwaits := of_returns hcheck hrun
  simp only [Bool.and_eq_true, Bool.not_eq_true', decide_eq_true_eq] at hwaits
  obtain ⟨⟨⟨hqueued, hopen⟩, hconnected⟩, hidle⟩ := hwaits
  obtain ⟨hxor, -, -⟩ := hpaced .upstream 2 hopen hconnected
  refine ⟨results, s, hrun, hidle, ?_⟩
  rcases hxor hqueued with ⟨hwrite, -⟩ | ⟨hwake, -⟩
  · rw [hidle] at hwrite
    cases hwrite
  · exact hwake

end NetFault
