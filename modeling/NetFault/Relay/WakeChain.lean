import NetFault.Relay.Pacing
import NetFault.TokenBucket.Exact

/-!
# Following the wakes reaches a send

A wake is computed for what is released when it is asked for.  By the time it comes, more of the
delay line may have been released, the quantum may have grown, and the bucket may be short again.
What cannot repeat is the release: the wake of a delay line releases a segment, and the wake of a
bucket comes with the quantum it was computed for, so it either suffices or finds a segment that
was not released before (`FaultChannel.woken`).  The segments still held back therefore bound the
number of wakes that lead to no send.
-/

namespace NetFault

/-! ## The segments held back -/

namespace DelayLine

/-- The number of segments not yet releasable at `now`. -/
def heldSegments (line : DelayLine) (now : ℤ) : ℕ :=
  line.segments.countP fun segment => decide (segment.eligibleAt > now)

lemma countP_held_le {now t : ℤ} (hle : now ≤ t) (segments : List Segment) :
    segments.countP (fun segment => decide (segment.eligibleAt > t)) ≤
      segments.countP fun segment => decide (segment.eligibleAt > now) := by
  refine List.countP_mono_left fun segment _ hlate => ?_
  simp only [decide_eq_true_eq] at hlate ⊢
  omega

/-- Later, the same bytes are releasable or fewer segments are held back. -/
lemma releasableIn_eq_or_held_lt {now t : ℤ} (hle : now ≤ t) (segments : List Segment) :
    releasableIn t segments = releasableIn now segments ∨
      segments.countP (fun segment => decide (segment.eligibleAt > t)) <
        segments.countP fun segment => decide (segment.eligibleAt > now) := by
  induction segments with
  | nil => exact .inl rfl
  | cons segment rest ih =>
      have hrest := countP_held_le hle rest
      simp only [releasableIn, List.countP_cons, decide_eq_true_eq]
      by_cases hlate : segment.eligibleAt > t
      · left
        rw [if_pos hlate, if_pos (by omega)]
      by_cases hheld : segment.eligibleAt > now
      · right
        rw [if_neg hlate, if_pos hheld]
        omega
      · rw [if_neg hlate, if_neg hheld, if_neg hlate, if_neg hheld]
        rcases ih with heq | hlt
        · left
          rw [heq]
        · right
          omega

lemma releasable_eq_or_held_lt (line : DelayLine) {now t : ℤ} (hle : now ≤ t) :
    line.releasable t = line.releasable now ∨ line.heldSegments t < line.heldSegments now :=
  releasableIn_eq_or_held_lt hle line.segments

/-- The first stamp releases its segment. -/
lemma releasable_nextEligible_pos {line : DelayLine} (hw : line.WellFormed) {now t : ℤ}
    (hzero : line.releasable now = 0) (ht : line.nextEligible now = some t) :
    0 < line.releasable t := by
  unfold releasable at hzero ⊢
  unfold nextEligible at ht
  rcases hseg : line.segments with _ | ⟨front, rest⟩
  · rw [hseg] at ht
    cases ht
  · have hfront := hw.pos front (by simp [hseg])
    rw [hseg, releasableIn] at hzero
    have hlate : front.eligibleAt > now := by
      by_contra hpast
      rw [if_neg hpast] at hzero
      omega
    obtain rfl : front.eligibleAt = t := by simpa [hseg, hlate] using ht
    rw [releasableIn, if_neg (lt_irrefl _)]
    omega

end DelayLine

/-! ## The bucket's wake is not early -/

/-- Of the bucket this needs no bound on the burst: what a quantum lacks is earned in a time whose
product with the rate is small. -/
lemma TokenBucket.Sound.earnTime_mul {b : TokenBucket} (hs : b.Sound) {missing : ℕ}
    (hrate : b.rate ≤ 1000000000) (hpos : 0 < missing) (hmissing : missing ≤ 4096) :
    missing * nsPerSecond ≤ b.earnTime missing * b.rate ∧
      b.earnTime missing * b.rate ≤ missing * nsPerSecond + b.rate - 1 ∧
      0 < b.earnTime missing ∧ b.earnTime missing < 2 ^ 63 := by
  have hfit : missing * nsPerSecond + b.rate - 1 < 2 ^ 64 := by
    simp only [nsPerSecond]
    omega
  have hwait : b.earnTime missing * b.rate ≤ missing * nsPerSecond + b.rate - 1 := by
    rw [earnTime, u64_of_lt hfit]
    exact Nat.div_mul_le_self _ _
  refine ⟨le_earnTime_mul hs.rate_pos hfit, hwait, earnTime_pos hpos hs.rate_pos hfit, ?_⟩
  have := Nat.mul_le_mul_left (b.earnTime missing) hs.rate_pos
  simp only [nsPerSecond] at hwait
  omega

/-- After the time that earns what is missing, it is there. -/
lemma TokenBucket.Sound.le_tokens_refill {b : TokenBucket} (hs : b.Sound) {bytes : ℕ}
    (hrate : b.rate ≤ 1000000000) (hbytes : bytes ≤ 4096) (hburst : bytes ≤ b.burst)
    (htokens : b.tokens < bytes) :
    bytes ≤ (b.refill (b.lastRefill + b.earnTime (bytes - b.tokens))).tokens := by
  obtain ⟨hcover, hwait, hpos, hsmall⟩ := hs.earnTime_mul hrate (Nat.sub_pos_of_lt htokens)
    ((Nat.sub_le _ _).trans hbytes)
  generalize b.earnTime (bytes - b.tokens) = wait at *
  have helapsed : b.elapsedNs (b.lastRefill + wait) = wait := by
    rw [elapsedNs, add_sub_cancel_left, Int.toNat_natCast]
    exact u64_of_lt (by omega)
  rw [refill_eq, if_neg (by omega)]
  by_cases hidle : u64 b.longIdleTerm ≤ b.elapsedNs (b.lastRefill + wait)
  · rw [if_pos hidle]
    exact hburst
  · rw [if_neg hidle]
    have hcarry := hs.carry_lt
    have hproduct : b.productTerm (b.lastRefill + wait) < 2 ^ 64 := by
      rw [productTerm, helapsed]
      simp only [nsPerSecond] at hwait hcarry
      omega
    have hearned : bytes - b.tokens ≤ b.productTerm (b.lastRefill + wait) / nsPerSecond := by
      rw [Nat.le_div_iff_mul_le nsPerSecond_pos, productTerm, helapsed]
      omega
    have hsum : b.tokens + b.productTerm (b.lastRefill + wait) / nsPerSecond < 2 ^ 64 := by
      have hquot : b.productTerm (b.lastRefill + wait) / nsPerSecond ≤
          b.productTerm (b.lastRefill + wait) / 2 :=
        Nat.div_le_div_left (by simp [nsPerSecond]) (by norm_num)
      omega
    rw [u64_of_lt hproduct, u64_of_lt hsum]
    exact le_min (by omega) hburst

/-- The tokens a wake was computed for exist when it comes. -/
lemma TokenBucket.Sound.le_tokens_eligibleAt {b : TokenBucket} (hs : b.Sound) {bytes : ℕ} {now : ℤ}
    (hrate : b.rate ≤ 1000000000) (hbytes : bytes ≤ kPreferredReleaseBytes)
    (hburst : bytes ≤ b.burst) (hlast : b.lastRefill = now) (htokens : b.tokens < bytes) :
    bytes ≤ (b.refill (b.eligibleAt bytes now).1).tokens := by
  have hsame : b.refill now = b := refill_of_le hlast.ge
  obtain ⟨-, -, -, hsmall⟩ := hs.earnTime_mul hrate (Nat.sub_pos_of_lt htokens)
    ((Nat.sub_le _ _).trans hbytes)
  have htime : (b.eligibleAt bytes now).1 = b.lastRefill + b.earnTime (bytes - b.tokens) := by
    simp only [eligibleAt, hsame, min_eq_left hburst, if_neg (not_le.mpr htokens), hlast]
    rw [i64_of_abs_lt (by omega) (by exact_mod_cast hsmall)]
  rw [htime]
  exact hs.le_tokens_refill hrate hbytes hburst htokens

/-! ## One wake -/

/-- The segments of a direction not yet releasable at `now`; without a delay line there are none. -/
def Direction.heldSegments (d : Direction) (now : ℤ) : ℕ :=
  ((d.fault.bind FaultChannel.delay).map (·.heldSegments now)).getD 0

lemma Direction.heldSegments_refill (d : Direction) (time now : ℤ) :
    (d.refill time).heldSegments now = d.heldSegments now := by
  rcases hf : d.fault with _ | channel <;>
    simp [Direction.heldSegments, Direction.refill, FaultChannel.refill, hf]

/-- Released bytes and tokens for their quantum are a budget. -/
lemma faultSendable_pos_of_tokens {d : Direction} {channel : FaultChannel} {bucket : TokenBucket}
    (hf : d.fault = some channel) (hb : channel.bucket = some bucket) {limit : ℕ} {now : ℤ}
    (hburst : 0 < bucket.burst) (hreleased : 0 < channel.released limit now)
    (htokens : releaseQuantum (channel.released limit now) bucket.burst ≤
      (bucket.refill now).tokens) :
    0 < (faultSendable d limit now).1 := by
  have hpos := releaseQuantum_pos hreleased hburst
  rw [faultSendable_of_bucket hf hb, if_neg (not_lt.mpr htokens)]
  exact lt_min hreleased (hpos.trans_le htokens)

/-- The wake of a bucket brings the tokens for the quantum that was released when it was asked for;
if no more bytes were released since, they are a budget. -/
lemma FaultChannel.sendable_of_refilled {d : Direction} (hinv : d.Inv) {channel : FaultChannel}
    (hf : d.fault = some channel) {bucket : TokenBucket} (hb : channel.bucket = some bucket)
    {now t : ℤ} (hrate : bucket.rate ≤ 1000000000) (hlast : bucket.lastRefill ≤ now)
    (hreleased : 0 < channel.released d.queue.size now)
    (htokens : (bucket.refill now).tokens <
      releaseQuantum (channel.released d.queue.size now) bucket.burst)
    (ht : t = ((bucket.refill now).eligibleAt
      (releaseQuantum (channel.released d.queue.size now) bucket.burst) now).1)
    (hsame : channel.released d.queue.size t = channel.released d.queue.size now) :
    0 < (faultSendable (d.refill now) d.queue.size t).1 := by
  have hs := hinv.bucket channel bucket hf hb
  have hrefilled : releaseQuantum (channel.released d.queue.size now) bucket.burst ≤
      ((bucket.refill now).refill t).tokens := by
    rw [ht]
    refine (hs.refill now).le_tokens_eligibleAt (by simpa using hrate) (min_le_right _ _) ?_ ?_
      htokens
    · rw [TokenBucket.refill_burst]
      exact (min_le_left _ _).trans (min_le_right _ _)
    · rw [TokenBucket.refill_lastRefill, max_eq_right hlast]
  have hf' : (d.refill now).fault = some (channel.refill now) := by simp [Direction.refill, hf]
  have hb' : (channel.refill now).bucket = some (bucket.refill now) := by
    simp [FaultChannel.refill, hb]
  have hsame' : (channel.refill now).released d.queue.size t =
      channel.released d.queue.size now := hsame
  apply faultSendable_pos_of_tokens hf' hb'
  · simpa using hs.burst_pos
  · exact hsame' ▸ hreleased
  · rw [hsame', TokenBucket.refill_burst]
    exact hrefilled

/-- **What a wake brings.**  When it comes, some bytes may be sent, or a segment has been released
since it was asked for. -/
lemma FaultChannel.woken {d : Direction} (hinv : d.Inv) {channel : FaultChannel}
    (hf : d.fault = some channel) {now t : ℤ} (hsize : 0 < d.queue.size)
    (hzero : (faultSendable d d.queue.size now).1 = 0)
    (hbucket : ∀ b, channel.bucket = some b → b.rate ≤ 1000000000 ∧ b.lastRefill ≤ now)
    (hwake : (channel.refill now).wake d.queue.size now = some t) (hlater : now < t) :
    0 < (faultSendable (d.refill now) d.queue.size t).1 ∨
      d.heldSegments t < d.heldSegments now := by
  rcases FaultChannel.wake_cases hinv hf hsize hzero with
    ⟨line, t', hd, hnone, ht', -, hwake'⟩ | ⟨bucket, hb, hreleased, htokens, hwake'⟩
  · obtain rfl : t' = t := Option.some.inj (hwake'.symm.trans hwake)
    obtain ⟨hw, -⟩ := hinv.delay channel line hf hd
    have hsome := DelayLine.releasable_nextEligible_pos hw hnone ht'
    right
    rcases line.releasable_eq_or_held_lt hlater.le with heq | hlt
    · omega
    · simpa [Direction.heldSegments, hf, hd] using hlt
  · have ht := Option.some.inj (hwake.symm.trans hwake')
    obtain ⟨hrate, hlast⟩ := hbucket bucket hb
    have hbudget := sendable_of_refilled hinv hf hb hrate hlast hreleased htokens ht
    rcases hd : channel.delay with _ | line
    · exact .inl (hbudget (by simp [FaultChannel.released, hd]))
    rcases line.releasable_eq_or_held_lt hlater.le with heq | hlt
    · exact .inl (hbudget (by simp [FaultChannel.released, hd, heq]))
    · exact .inr (by simpa [Direction.heldSegments, hf, hd] using hlt)

/-! ## The chain of wakes -/

/-- Bytes are queued towards a connected destination that is open for them, and the bucket they
wait for has a permitted rate and was not refilled past `now`. -/
structure Relay.Pending (r : Relay) (destination : Side) (now : ℤ) : Prop where
  writeOpen : r.writeOpen destination = true
  connected : destination = .upstream → r.upstreamConnecting = false
  size : 0 < (r.directionFrom destination.peer).queue.size
  inv : (r.directionFrom destination.peer).Inv
  bucket : ∀ channel b, (r.directionFrom destination.peer).fault = some channel →
    channel.bucket = some b → b.rate ≤ 1000000000 ∧ b.lastRefill ≤ now

/-- Up to `n` iterations of `t := next_wake(destination, t)` from `now`: the times, and the relay
they leave. -/
def Relay.followWakes (destination : Side) : ℕ → Relay → ℤ → List ℤ × Relay
  | 0, r, _ => ([], r)
  | n + 1, r, now =>
      match r.nextWake destination now with
      | (none, r') => ([], r')
      | (some t, r') =>
          let (times, last) := Relay.followWakes destination n r' t
          (t :: times, last)

section Chain

variable {r : Relay} {destination : Side} {now : ℤ}

lemma Relay.Pending.write_iff (h : r.Pending destination now) (t : ℤ) :
    (r.desiredInterest destination t).1.write = true ↔
      0 < (faultSendable (r.directionFrom destination.peer)
        (r.directionFrom destination.peer).queue.size t).1 :=
  desiredInterest_write (s := { relay := r }) t h.writeOpen h.connected h.size

/-- A wake only refills, so the bytes are still pending when it comes. -/
lemma Relay.Pending.refilled (h : r.Pending destination now) {t : ℤ} (hle : now ≤ t) :
    (r.setDirection destination.peer ((r.directionFrom destination.peer).refill now)).Pending
      destination t := by
  have hdir : (r.setDirection destination.peer
      ((r.directionFrom destination.peer).refill now)).directionFrom destination.peer =
      (r.directionFrom destination.peer).refill now := by simp [Relay.setDirection]
  refine ⟨h.writeOpen, h.connected, ?_, ?_, ?_⟩
  · rw [hdir]
    exact h.size
  · rw [hdir]
    exact h.inv.refill now
  · intro channel' b' hc hb
    rw [hdir] at hc
    obtain ⟨channel, hc', rfl⟩ := Option.map_eq_some_iff.mp hc
    obtain ⟨b, hb', rfl⟩ := Option.map_eq_some_iff.mp hb
    obtain ⟨hrate, hlast⟩ := h.bucket channel b hc' hb'
    rw [TokenBucket.refill_rate, TokenBucket.refill_lastRefill]
    exact ⟨hrate, max_le (hlast.trans hle) hle⟩

/-- One iteration: a later time, and then a write or fewer segments held back. -/
lemma Relay.Pending.step (h : r.Pending destination now)
    (hwrite : ¬(r.desiredInterest destination now).1.write = true) :
    ∃ t r', r.nextWake destination now = (some t, r') ∧ now < t ∧ r'.Pending destination t ∧
      ((r'.desiredInterest destination t).1.write = true ∨
        (r'.directionFrom destination.peer).heldSegments t <
          (r.directionFrom destination.peer).heldSegments now) := by
  rw [h.write_iff now, Nat.pos_iff_ne_zero, not_not] at hwrite
  rcases hf : (r.directionFrom destination.peer).fault with _ | channel
  · have hsize := h.size
    rw [faultSendable_of_none hf] at hwrite
    omega
  obtain ⟨t, hwake, hlater⟩ :=
    FaultChannel.wake_of_faultSendable_eq_zero h.inv hf h.size hwrite
  have hlt : now < t := hlater fun b hb => (h.bucket channel b hf hb).1
  have hnext : r.nextWake destination now = (some t, r.setDirection destination.peer
      ((r.directionFrom destination.peer).refill now)) := by
    rw [nextWake_eq h.writeOpen h.connected h.size hf, hwrite, if_neg (lt_irrefl 0), hwake]
  have hpending := h.refilled hlt.le
  refine ⟨t, _, hnext, hlt, hpending, ?_⟩
  have hdir : (r.setDirection destination.peer
      ((r.directionFrom destination.peer).refill now)).directionFrom destination.peer =
      (r.directionFrom destination.peer).refill now := by simp [Relay.setDirection]
  rw [hpending.write_iff t, hdir, Direction.heldSegments_refill]
  exact FaultChannel.woken h.inv hf h.size hwrite (fun b hb => h.bucket channel b hf hb) hwake hlt

/-- Within `bound` iterations, at strictly increasing times, the wakes from `now` lead to a time at
which the destination is to be written to. -/
def Relay.WakesReachWrite (r : Relay) (destination : Side) (now : ℤ) (bound : ℕ) : Prop :=
  ∃ n ≤ bound, ∃ times last, r.followWakes destination n now = (times, last) ∧
    times.length = n ∧ (now :: times).Pairwise (· < ·) ∧
    (last.desiredInterest destination (times.getLastD now)).1.write = true

lemma Relay.WakesReachWrite.here (h : (r.desiredInterest destination now).1.write = true)
    (bound : ℕ) : r.WakesReachWrite destination now bound :=
  ⟨0, Nat.zero_le _, [], r, rfl, rfl, List.pairwise_singleton _ _, h⟩

/-- A chain that starts one wake later. -/
lemma Relay.WakesReachWrite.next {r' : Relay} {t : ℤ} {bound : ℕ}
    (hnext : r.nextWake destination now = (some t, r')) (hlt : now < t)
    (h : r'.WakesReachWrite destination t bound) :
    r.WakesReachWrite destination now (bound + 1) := by
  obtain ⟨n, hn, times, last, hfollow, hlength, hincreasing, hwrite⟩ := h
  refine ⟨n + 1, Nat.succ_le_succ hn, t :: times, last, ?_, ?_, ?_, ?_⟩
  · simp only [followWakes, hnext, hfollow]
  · rw [List.length_cons, hlength]
  · refine List.pairwise_cons.mpr ⟨fun u hu => ?_, hincreasing⟩
    rcases List.mem_cons.mp hu with rfl | hu
    · exact hlt
    · exact hlt.trans (List.rel_of_pairwise_cons hincreasing hu)
  · rwa [List.getLastD_cons]

/-- The induction is on the segments held back: a wake without a write releases one. -/
lemma Relay.Pending.wakesReachWrite (held : ℕ) (h : r.Pending destination now)
    (hheld : (r.directionFrom destination.peer).heldSegments now ≤ held) :
    r.WakesReachWrite destination now (held + 1) := by
  induction held generalizing r now with
  | zero =>
      by_cases hwrite : (r.desiredInterest destination now).1.write = true
      · exact .here hwrite _
      obtain ⟨t, r', hnext, hlt, -, hwrite' | hless⟩ := h.step hwrite
      · exact .next hnext hlt (.here hwrite' _)
      · omega
  | succ held ih =>
      by_cases hwrite : (r.desiredInterest destination now).1.write = true
      · exact .here hwrite _
      obtain ⟨t, r', hnext, hlt, hpending, hwrite' | hless⟩ := h.step hwrite
      · exact .next hnext hlt (.here hwrite' _)
      · exact .next hnext hlt (ih hpending (by omega))

end Chain

/-! ## Reachable states -/

/-- No bucket was refilled past `closing`. -/
def Session.RefilledUntil (closing : ℤ) (s : Session) : Prop :=
  ∀ source channel b, (s.relay.directionFrom source).fault = some channel →
    channel.bucket = some b → b.lastRefill ≤ closing

section RefilledUntil

variable {io : SocketIo} {config : RelayConfig} {plan : FaultPlan} {closing now : ℤ}
  {s s' : Session}

/-- A move refills no further than its own time. -/
lemma Session.RefilledUntil.move (h : s.RefilledUntil closing) (hnow : now ≤ closing)
    (hmove : Move io now s s') : s'.RefilledUntil closing := by
  apply hmove.buckets ?_ ?_ h
  · intro b hlast
    rw [TokenBucket.refill_lastRefill]
    exact max_le hlast hnow
  · intro b b' count hlast hconsume
    rw [TokenBucket.consume] at hconsume
    split_ifs at hconsume
    cases hconsume
    exact hlast

lemma Relay.Fresh.refilledUntil {upstreamConnecting : Bool} {start : ℤ} {r : Relay}
    (h : r.Fresh config plan upstreamConnecting start) (hstart : start ≤ closing) :
    Session.RefilledUntil closing { relay := r } := by
  intro source channel b hc hb
  obtain ⟨-, -, -, hlast⟩ := ((h.direction source).channel channel hc).bucket b hb
  exact hlast.le.trans hstart

end RefilledUntil

/-- **Following the wakes reaches a send.**  At every permitted rate, with any burst, latency and
jitter: take a state a run can reach, a connected destination that is open for writing with bytes
queued for it, and a time `now` not before any call of the run.  With nothing else going on,
`t := next_wake(destination, t)` gives strictly increasing times and comes to one at which the
destination is to be written to, after at most one iteration more than segments are held back at
`now`. -/
theorem wakes_reach_write (io : SocketIo) (config : RelayConfig) (hconfig : config.Valid)
    (plan : FaultPlan) (hrate : plan.rateBytesPerSecond ≤ 1000000000) (connectionId : UInt64)
    (upstreamConnecting : Bool) (start now : ℤ) (calls : List Call) (hstart : start ≤ now)
    (hcalls : ∀ t ∈ calls.filterMap Call.time?, t ≤ now) :
    ∃ results s, runRelay io config plan connectionId upstreamConnecting start calls =
        .ok (results, s) ∧
      ∀ destination, s.relay.writeOpen destination = true →
        (destination = .upstream → s.relay.upstreamConnecting = false) →
        0 < (s.relay.directionFrom destination.peer).queue.size →
        s.relay.WakesReachWrite destination now
          ((s.relay.directionFrom destination.peer).heldSegments now + 1) := by
  obtain ⟨results, s, hrun, hinv, hfollows, hrefilled⟩ := runRelay_until io hconfig plan
    connectionId upstreamConnecting start
    (P := fun s => s.Follows config plan ∧ s.RefilledUntil now)
    (fun r hr => ⟨hr.follows, hr.refilledUntil hstart⟩)
    (fun t m m' hle hinv h hmove => ⟨h.1.move hmove, h.2.move hle hmove⟩) hcalls
  refine ⟨results, s, hrun, fun destination hopen hconn hsize => ?_⟩
  refine Relay.Pending.wakesReachWrite _ ⟨hopen, hconn, hsize, hinv destination.peer, ?_⟩ le_rfl
  intro channel b hc hb
  refine ⟨?_, hrefilled destination.peer channel b hc hb⟩
  rw [(((hfollows destination.peer).channel channel hc).bucket b hb).1]
  exact hrate

/-- Three bytes read in one call, five milliseconds of delay and one byte a second after the one of
the burst.  After the first byte the bucket is empty and the wakes reach the second. -/
theorem wakes_reach_write_scripted :
    ∃ results s, runRelay (.script fun _ => [1, 2, 3])
        { bufferBytesPerDirection := 16, lowWaterBytes := 4, highWaterBytes := 8 }
        { latency := 5, rateBytesPerSecond := 1, burstBytes := 1 } 7 false 0
        [.handleReadable .client false 1, .flush .upstream 5000001] = .ok (results, s) ∧
      (s.relay.directionFrom .client).queue.size = 2 ∧
      s.relay.WakesReachWrite .upstream 5000001
        ((s.relay.directionFrom .client).heldSegments 5000001 + 1) := by
  have hcheck : returns (runRelay (.script fun _ => [1, 2, 3])
      { bufferBytesPerDirection := 16, lowWaterBytes := 4, highWaterBytes := 8 }
      { latency := 5, rateBytesPerSecond := 1, burstBytes := 1 } 7 false 0
      [.handleReadable .client false 1, .flush .upstream 5000001])
      (fun run => decide ((run.2.relay.directionFrom .client).queue.size = 2) &&
        run.2.relay.writeOpen .upstream && !run.2.relay.upstreamConnecting) = true := by
    decide +kernel
  obtain ⟨⟨results, s⟩, hrun, htest⟩ := exists_of_returns hcheck
  simp only [Bool.and_eq_true, decide_eq_true_eq, Bool.not_eq_true'] at htest
  obtain ⟨results', s', hrun', hall⟩ := wakes_reach_write (.script fun _ => [1, 2, 3])
    { bufferBytesPerDirection := 16, lowWaterBytes := 4, highWaterBytes := 8 } (by decide)
    { latency := 5, rateBytesPerSecond := 1, burstBytes := 1 } (by decide) 7 false 0
    5000001 [.handleReadable .client false 1, .flush .upstream 5000001] (by decide) (by decide)
  obtain ⟨rfl, rfl⟩ : results = results' ∧ s = s' := by
    simpa [hrun] using hrun'
  exact ⟨results, s, hrun, htest.1.1,
    hall .upstream htest.1.2 (fun _ => htest.2) (htest.1.1 ▸ by decide)⟩

end NetFault
