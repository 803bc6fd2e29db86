import NetFault.Relay.Model
import Mathlib.Logic.Relation

/-!
# What a relay can do, one interaction at a time

Every method of the relay is a sequence of *moves*: one receive or send with its bookkeeping, one
refill of a bucket, one shutdown, one change of a flag.  `Move` lists them with the guards under
which the methods make them.  The methods only make moves (`handleReadable_spec`, `flush_spec`
and their companions), so a property of histories that every move keeps holds of every run, in
whatever order the methods are called.

`Direction.Inv` is the invariant that ties the five accounts of a direction together: the ring,
the watermark state, the pending bytes of the delay line, its segments, and the tokens.  Under it
no method raises an exception and both loops end within their budgets.
-/

namespace NetFault

/-! ## Refilling and the budget of a send -/

def FaultChannel.refill (channel : FaultChannel) (now : ℤ) : FaultChannel :=
  { channel with bucket := channel.bucket.map (·.refill now) }

/-- A direction whose bucket, if it has one, is refilled up to `now`. -/
def Direction.refill (d : Direction) (now : ℤ) : Direction :=
  { d with fault := d.fault.map (·.refill now) }

/-- Asking for the budget of a send does nothing but refill. -/
lemma faultSendable_snd (d : Direction) (limit : ℕ) (now : ℤ) :
    (faultSendable d limit now).2 = d.refill now := by
  rcases d with ⟨queue, backpressure, _ | ⟨_ | line, _ | bucket, rng, latency, jitter, segs, total⟩⟩
  all_goals rfl

lemma FaultChannel.released_le (channel : FaultChannel) (limit : ℕ) (now : ℤ) :
    channel.released limit now ≤ limit := by
  rw [released]
  split
  · exact min_le_left _ _
  · exact le_rfl

lemma faultSendable_of_none {d : Direction} (h : d.fault = none) (limit : ℕ) (now : ℤ) :
    (faultSendable d limit now).1 = limit := by
  simp only [faultSendable, h]

lemma faultSendable_of_bucket_none {d : Direction} {channel : FaultChannel}
    (h : d.fault = some channel) (hb : channel.bucket = none) (limit : ℕ) (now : ℤ) :
    (faultSendable d limit now).1 = channel.released limit now := by
  simp only [faultSendable, h, hb]

/-- The budget under a bucket: nothing until the release quantum is affordable. -/
lemma faultSendable_of_bucket {d : Direction} {channel : FaultChannel} {bucket : TokenBucket}
    (h : d.fault = some channel) (hb : channel.bucket = some bucket) (limit : ℕ) (now : ℤ) :
    (faultSendable d limit now).1 =
      if (bucket.refill now).tokens < releaseQuantum (channel.released limit now) bucket.burst
      then 0 else min (channel.released limit now) (bucket.refill now).tokens := by
  simp only [faultSendable, h, hb, TokenBucket.available, TokenBucket.refill_burst]

lemma faultSendable_refill (d : Direction) (limit : ℕ) (now : ℤ) :
    (faultSendable (d.refill now) limit now).1 = (faultSendable d limit now).1 := by
  rcases hf : d.fault with _ | channel
  · rw [faultSendable_of_none hf, faultSendable_of_none (by simp [Direction.refill, hf])]
  have hf' : (d.refill now).fault = some (channel.refill now) := by simp [Direction.refill, hf]
  have hreleased : (channel.refill now).released limit now = channel.released limit now := rfl
  rcases hb : channel.bucket with _ | bucket
  · rw [faultSendable_of_bucket_none hf hb, faultSendable_of_bucket_none hf'
      (by simp [FaultChannel.refill, hb]), hreleased]
  · have hb' : (channel.refill now).bucket = some (bucket.refill now) := by
      simp [FaultChannel.refill, hb]
    rw [faultSendable_of_bucket hf hb, faultSendable_of_bucket hf' hb', hreleased]
    simp

lemma faultSendable_le_released {d : Direction} {channel : FaultChannel}
    (h : d.fault = some channel) (limit : ℕ) (now : ℤ) :
    (faultSendable d limit now).1 ≤ channel.released limit now := by
  rcases hb : channel.bucket with _ | bucket
  · rw [faultSendable_of_bucket_none h hb]
  · rw [faultSendable_of_bucket h hb]
    split_ifs
    · exact Nat.zero_le _
    · exact min_le_left _ _

lemma faultSendable_le (d : Direction) (limit : ℕ) (now : ℤ) :
    (faultSendable d limit now).1 ≤ limit := by
  rcases hf : d.fault with _ | channel
  · rw [faultSendable_of_none hf]
  · exact (faultSendable_le_released hf limit now).trans (channel.released_le limit now)

lemma faultSendable_le_releasable {d : Direction} {channel : FaultChannel} {line : DelayLine}
    (h : d.fault = some channel) (hl : channel.delay = some line) (limit : ℕ) (now : ℤ) :
    (faultSendable d limit now).1 ≤ line.releasable now := by
  refine (faultSendable_le_released h limit now).trans ?_
  rw [FaultChannel.released, hl]
  exact min_le_right _ _

lemma faultSendable_le_tokens {d : Direction} {channel : FaultChannel} {bucket : TokenBucket}
    (h : d.fault = some channel) (hb : channel.bucket = some bucket) (limit : ℕ) (now : ℤ) :
    (faultSendable d limit now).1 ≤ (bucket.refill now).tokens := by
  rw [faultSendable_of_bucket h hb]
  split_ifs
  · exact Nat.zero_le _
  · exact min_le_right _ _

/-! ## The invariant of a direction -/

/-- The accounts of one direction agree. -/
structure Direction.Inv (d : Direction) : Prop where
  high_le : d.backpressure.highWaterBytes ≤ d.queue.capacity
  paused : d.backpressure.readPaused = true →
    d.backpressure.lowWaterBytes < d.queue.size ∧ d.queue.size ≤ d.backpressure.highWaterBytes
  running : d.backpressure.readPaused = false → d.queue.size < d.backpressure.highWaterBytes
  delay : ∀ channel line, d.fault = some channel → channel.delay = some line →
    line.WellFormed ∧ line.pending = d.queue.size
  bucket : ∀ channel b, d.fault = some channel → channel.bucket = some b → b.Sound

lemma Direction.Inv.size_le {d : Direction} (h : d.Inv) :
    d.queue.size ≤ d.backpressure.highWaterBytes := by
  rcases hpaused : d.backpressure.readPaused with _ | _
  · exact (h.running hpaused).le
  · exact (h.paused hpaused).2

lemma Direction.Inv.refill {d : Direction} (h : d.Inv) (now : ℤ) : (d.refill now).Inv := by
  refine ⟨h.high_le, h.paused, h.running, ?_, ?_⟩
  · intro channel line hc hl
    obtain ⟨c, hc', rfl⟩ := Option.map_eq_some_iff.mp hc
    exact h.delay c line hc' hl
  · intro channel b hc hb
    obtain ⟨c, hc', rfl⟩ := Option.map_eq_some_iff.mp hc
    obtain ⟨b', hb', rfl⟩ := Option.map_eq_some_iff.mp hb
    exact (h.bucket c b' hc' hb').refill now

/-! ## One observation of a tracker -/

/-- The observer event a transition causes. -/
def transitionNotes (source : Side) (state : ConnectionState) (size : ℕ)
    (tracker : BackpressureTracker) : BackpressureTransition → Trace
  | .none => []
  | .paused =>
      [.observed (.readPaused source size tracker.lowWaterBytes tracker.highWaterBytes) state]
  | .resumed =>
      [.observed (.readResumed source size tracker.lowWaterBytes tracker.highWaterBytes) state]

/-- The tracker `t` was shown the occupancy of `queue`, became `t'`, and left `notes`. -/
def Observed (source : Side) (state : ConnectionState) (t : BackpressureTracker)
    (queue : ByteQueue) (now : ℤ) (t' : BackpressureTracker) (notes : Trace) : Prop :=
  ∃ transition, t.observe queue.size queue.capacity now = .ok (transition, t') ∧
    notes = .occupancy source queue.size now ::
      transitionNotes source state queue.size t' transition

/-- Events that are bookkeeping about a direction and neither calls nor lifecycle events. -/
def TraceEvent.isNote : TraceEvent → Bool
  | .stamped .. | .occupancy .. => true
  | .observed (.readPaused ..) _ | .observed (.readResumed ..) _ => true
  | _ => false

section Observed

variable {source : Side} {state : ConnectionState} {t t' : BackpressureTracker}
  {queue : ByteQueue} {now : ℤ} {notes : Trace}

lemma Observed.tracker (h : Observed source state t queue now t' notes) :
    t'.readPaused = t.pausedAfter queue.size ∧ t'.lowWaterBytes = t.lowWaterBytes ∧
      t'.highWaterBytes = t.highWaterBytes := by
  obtain ⟨transition, hobs, -⟩ := h
  exact ⟨BackpressureTracker.observe_paused hobs, BackpressureTracker.observe_marks hobs⟩

lemma Observed.isNote (h : Observed source state t queue now t' notes) :
    ∀ e ∈ notes, e.isNote = true := by
  obtain ⟨transition, -, rfl⟩ := h
  cases transition <;> simp [transitionNotes, TraceEvent.isNote]

/-- `observe_backpressure` of a direction whose high-water mark fits its queue. -/
lemma observeBackpressure_spec {s : Session} (source : Side) (now : ℤ)
    (hhigh : (s.relay.directionFrom source).backpressure.highWaterBytes ≤
      (s.relay.directionFrom source).queue.capacity) :
    ∃ t' notes, s.observeBackpressure source now =
        .ok { relay := s.relay.setDirection source
                { s.relay.directionFrom source with backpressure := t' }
              trace := s.trace ++ notes } ∧
      Observed source s.relay.state (s.relay.directionFrom source).backpressure
        (s.relay.directionFrom source).queue now t' notes := by
  obtain ⟨transition, t', hobs, -⟩ := (s.relay.directionFrom source).backpressure.observe_spec now
    (s.relay.directionFrom source).queue.size_le_capacity hhigh
  refine ⟨t', _, ?_, transition, hobs, rfl⟩
  rw [Session.observeBackpressure]
  simp only [hobs, bind, Except.bind]
  cases transition <;>
    simp [transitionNotes, Session.record, Session.notify, Relay.setDirection]

end Observed

/-! ## Taking bytes in -/

/-- What a receive of `bytes` does to a direction, and the notes it leaves. -/
structure Ingest (source : Side) (state : ConnectionState) (d : Direction) (bytes : List Byte)
    (now : ℤ) (d' : Direction) (notes : Trace) : Prop where
  content : d'.queue.content = d.queue.content ++ bytes
  capacity : d'.queue.capacity = d.queue.capacity
  peak : d'.queue.highWaterMark = max d.queue.highWaterMark d'.queue.size
  fault : d'.fault = (stampFault source d.fault bytes.length now).1
  observed : ∃ tail, Observed source state d.backpressure d'.queue now d'.backpressure tail ∧
    notes = (stampFault source d.fault bytes.length now).2 ++ tail

section Ingest

variable {source : Side} {state : ConnectionState} {d d' : Direction} {bytes : List Byte}
  {now : ℤ} {notes : Trace}

lemma Ingest.size (h : Ingest source state d bytes now d' notes) :
    d'.queue.size = d.queue.size + bytes.length := by
  rw [← d'.queue.length_content, h.content, List.length_append, d.queue.length_content]

/-- The only note of stamping is the stamp, under the side that was received from. -/
lemma eq_stamped_of_mem {fault : Option FaultChannel} {count : ℕ} {e : TraceEvent}
    (he : e ∈ (stampFault source fault count now).2) :
    ∃ delay eligible, e = .stamped source count delay eligible := by
  unfold stampFault at he
  split at he
  · simp at he
  · split at he
    · simp at he
    · exact ⟨_, _, List.mem_singleton.mp he⟩

lemma stampFault_isNote (source : Side) (fault : Option FaultChannel) (count : ℕ) (now : ℤ) :
    ∀ e ∈ (stampFault source fault count now).2, e.isNote = true := by
  intro e he
  obtain ⟨delay, eligible, rfl⟩ := eq_stamped_of_mem he
  rfl

lemma Ingest.isNote (h : Ingest source state d bytes now d' notes) :
    ∀ e ∈ notes, e.isNote = true := by
  obtain ⟨tail, hobs, rfl⟩ := h.observed
  intro e he
  rcases List.mem_append.mp he with he | he
  · exact stampFault_isNote _ _ _ _ e he
  · exact hobs.isNote e he

lemma Ingest.tracker (h : Ingest source state d bytes now d' notes) :
    d'.backpressure.readPaused = d.backpressure.pausedAfter d'.queue.size ∧
      d'.backpressure.lowWaterBytes = d.backpressure.lowWaterBytes ∧
      d'.backpressure.highWaterBytes = d.backpressure.highWaterBytes := by
  obtain ⟨tail, hobs, -⟩ := h.observed
  exact hobs.tracker

/-- The delay line after a receive: the block is committed at the stamp it was given. -/
lemma stampFault_delay {fault : Option FaultChannel} {count : ℕ} {channel' : FaultChannel}
    {line' : DelayLine} (hc : (stampFault source fault count now).1 = some channel')
    (hl : channel'.delay = some line') :
    ∃ channel line delay, fault = some channel ∧ channel.delay = some line ∧
      line' = line.onCommit count (now + delay) ∧
      delay = max 0 (channel.latency + (sampleJitter channel.rng channel.jitter).1) ∧
      channel'.latency = channel.latency ∧ channel'.jitter = channel.jitter ∧
      (stampFault source fault count now).2 = [.stamped source count delay line'.lastEligible] := by
  rcases fault with _ | channel
  · simp [stampFault] at hc
  · rcases hd : channel.delay with _ | line
    · simp only [stampFault, hd, Option.some.injEq] at hc
      simp [← hc, hd] at hl
    · simp only [stampFault, hd, Option.some.injEq] at hc ⊢
      subst hc
      simp only [Option.some.injEq] at hl
      subst hl
      refine ⟨channel, line, _, rfl, hd, rfl, ?_, rfl, rfl, rfl⟩
      split_ifs with hneg
      · exact (max_eq_left hneg.le).symm
      · exact (max_eq_right (not_lt.mp hneg)).symm

lemma stampFault_bucket {fault : Option FaultChannel} {count : ℕ} {channel' : FaultChannel}
    (hc : (stampFault source fault count now).1 = some channel') :
    ∃ channel, fault = some channel ∧ channel'.bucket = channel.bucket := by
  rcases fault with _ | channel
  · simp [stampFault] at hc
  · rcases hd : channel.delay with _ | line <;>
      simp only [stampFault, hd, Option.some.injEq] at hc <;> subst hc <;> exact ⟨channel, rfl, rfl⟩

/-- A receive that stays within the high-water mark keeps the accounts in agreement. -/
lemma Ingest.inv (h : Ingest source state d bytes now d' notes) (hinv : d.Inv)
    (hrun : d.backpressure.readPaused = false)
    (hle : bytes.length ≤ d.backpressure.highWaterBytes - d.queue.size) : d'.Inv := by
  obtain ⟨hpaused, hlow, hhigh⟩ := h.tracker
  have hsize := h.size
  have hlt := hinv.running hrun
  have hwater := d.backpressure.low_lt_high
  simp only [BackpressureTracker.pausedAfter, hrun, Bool.false_eq_true, if_false] at hpaused
  refine ⟨by rw [hhigh, h.capacity]; exact hinv.high_le, ?_, ?_, ?_, ?_⟩
  · intro hp
    rw [hpaused, decide_eq_true_eq] at hp
    omega
  · intro hp
    rw [hpaused, decide_eq_false_iff_not] at hp
    omega
  · intro channel' line' hc hl
    rw [h.fault] at hc
    obtain ⟨channel, line, delay, hc', hl', rfl, -⟩ := stampFault_delay hc hl
    obtain ⟨hw, hpending⟩ := hinv.delay channel line hc' hl'
    exact ⟨hw.onCommit _ _, by rw [DelayLine.pending_onCommit, hpending, hsize]⟩
  · intro channel' b hc hb
    rw [h.fault] at hc
    obtain ⟨channel, hc', heq⟩ := stampFault_bucket hc
    exact hinv.bucket channel b hc' (heq ▸ hb)

/-- Bytes that fit the writable span are taken in without an exception. -/
lemma commitReceived_spec {s : Session} (source : Side) (bytes : List Byte) (now : ℤ)
    (hinv : (s.relay.directionFrom source).Inv)
    (hfit : bytes.length ≤ (s.relay.directionFrom source).queue.writableSpan.length) :
    ∃ d' notes, s.commitReceived source bytes now =
        .ok { relay := { s.relay.setDirection source d' with
                lastActivity := now
                metrics := s.relay.metrics.countRead source bytes.length }
              trace := s.trace ++ notes } ∧
      Ingest source s.relay.state (s.relay.directionFrom source) bytes now d' notes := by
  set d := s.relay.directionFrom source with hd
  obtain ⟨queue, hok, hcontent, hsize, hcap, hpeak⟩ := d.queue.commitWrite_fill_spec hfit
  set mid : Session :=
    { relay := { s.relay.setDirection source
          { d with queue, fault := (stampFault source d.fault bytes.length now).1 } with
        lastActivity := now
        metrics := s.relay.metrics.countRead source bytes.length }
      trace := s.trace ++ (stampFault source d.fault bytes.length now).2 } with hmid
  have hdir : mid.relay.directionFrom source =
      { d with queue, fault := (stampFault source d.fault bytes.length now).1 } := by
    simp [hmid, Relay.setDirection]
  obtain ⟨t', tail, hobs, hspec⟩ := observeBackpressure_spec (s := mid) source now
    (by rw [hdir, hcap]; exact hinv.high_le)
  refine ⟨{ d with queue, backpressure := t'
                   fault := (stampFault source d.fault bytes.length now).1 },
    (stampFault source d.fault bytes.length now).2 ++ tail, ?_,
    ⟨hcontent, hcap, by rw [hpeak, hsize], rfl, tail, ?_, rfl⟩⟩
  · rw [Session.commitReceived]
    simp only [← hd, hok, bind, Except.bind, stampIngress]
    rw [← hmid, hobs, hdir]
    simp [hmid, Relay.setDirection]
  · rw [hdir] at hspec
    exact hspec

end Ingest

/-! ## Letting bytes out -/

/-- What a send of which `count` bytes were accepted does to a direction. -/
structure Egress (source : Side) (state : ConnectionState) (d : Direction) (count : ℕ) (now : ℤ)
    (d' : Direction) (notes : Trace) : Prop where
  content : d'.queue.content = d.queue.content.drop count
  capacity : d'.queue.capacity = d.queue.capacity
  peak : d'.queue.highWaterMark = d.queue.highWaterMark
  fault : consumeFault d.fault count = .ok d'.fault
  observed : Observed source state d.backpressure d'.queue now d'.backpressure notes

/-- What `consumeFault` did to the channel it was given. -/
lemma consumeFault_some {fault : Option FaultChannel} {count : ℕ} {channel' : FaultChannel}
    (h : consumeFault fault count = .ok (some channel')) :
    ∃ channel, fault = some channel ∧
      channel' = { channel with delay := channel'.delay, bucket := channel'.bucket } ∧
      (∀ line', channel'.delay = some line' →
        ∃ line, channel.delay = some line ∧ line.onConsume count = .ok line') ∧
      (∀ b', channel'.bucket = some b' →
        ∃ b, channel.bucket = some b ∧ b.consume count = .ok b') ∧
      channel'.delay.isSome = channel.delay.isSome ∧
      channel'.bucket.isSome = channel.bucket.isSome := by
  rcases fault with _ | channel
  · simp [consumeFault] at h
  refine ⟨channel, rfl, ?_⟩
  rcases hd : channel.delay with _ | line <;> rcases hb : channel.bucket with _ | b <;>
    simp only [consumeFault, hd, hb, bind, Except.bind] at h
  · obtain rfl : { channel with delay := none, bucket := none } = channel' := by simpa using h
    exact ⟨rfl, by simp, by simp, rfl, rfl⟩
  · rcases hc : b.consume count with e | b' <;> simp only [hc, Except.map] at h
    · simp at h
    obtain rfl : { channel with delay := none, bucket := some b' } = channel' := by simpa using h
    exact ⟨rfl, by simp, by simpa using hc, rfl, rfl⟩
  · rcases hl : line.onConsume count with e | line' <;> simp only [hl, Except.map] at h
    · simp at h
    obtain rfl : { channel with delay := some line', bucket := none } = channel' := by
      simpa using h
    exact ⟨rfl, by simpa using hl, by simp, rfl, rfl⟩
  · rcases hl : line.onConsume count with e | line' <;> simp only [hl, Except.map] at h
    · simp at h
    rcases hc : b.consume count with e | b' <;> simp only [hc] at h
    · simp at h
    obtain rfl : { channel with delay := some line', bucket := some b' } = channel' := by
      simpa using h
    exact ⟨rfl, by simpa using hl, by simpa using hc, rfl, rfl⟩

lemma consumeFault_isSome {fault fault' : Option FaultChannel} {count : ℕ}
    (h : consumeFault fault count = .ok fault') : fault'.isSome = fault.isSome := by
  rcases fault' with _ | channel'
  · rcases fault with _ | channel
    · rfl
    · simp only [consumeFault, bind, Except.bind] at h
      repeat' split at h
      all_goals cases h
  · obtain ⟨channel, rfl, -⟩ := consumeFault_some h
    rfl

/-- Bytes that are pending in the delay line and paid for by the bucket can be accounted for. -/
lemma consumeFault_ok (fault : Option FaultChannel) (count : ℕ)
    (hdelay : ∀ channel line, fault = some channel → channel.delay = some line →
      line.WellFormed ∧ count ≤ line.pending)
    (hbucket : ∀ channel b, fault = some channel → channel.bucket = some b →
      b.Sound ∧ count ≤ b.tokens) :
    ∃ fault', consumeFault fault count = .ok fault' := by
  rcases fault with _ | channel
  · exact ⟨none, rfl⟩
  rcases hd : channel.delay with _ | line <;> rcases hb : channel.bucket with _ | b <;>
    simp only [consumeFault, hd, hb, bind, Except.bind]
  · exact ⟨_, rfl⟩
  · obtain ⟨hs, hle⟩ := hbucket channel b rfl hb
    obtain ⟨b', hok, -⟩ := hs.consume hle
    exact ⟨_, by rw [hok]; rfl⟩
  · obtain ⟨hw, hle⟩ := hdelay channel line rfl hd
    obtain ⟨line', hok, -⟩ := hw.onConsume hle
    exact ⟨_, by rw [hok]; rfl⟩
  · obtain ⟨hs, hle⟩ := hbucket channel b rfl hb
    obtain ⟨b', hokb, -⟩ := hs.consume hle
    obtain ⟨hw, hle'⟩ := hdelay channel line rfl hd
    obtain ⟨line', hokl, -⟩ := hw.onConsume hle'
    exact ⟨_, by rw [hokl, hokb]; rfl⟩

section Egress

variable {source : Side} {state : ConnectionState} {d d' : Direction} {count : ℕ} {now : ℤ}
  {notes : Trace}

lemma Egress.size (h : Egress source state d count now d' notes) :
    d'.queue.size = d.queue.size - count := by
  rw [← d'.queue.length_content, h.content, List.length_drop, d.queue.length_content]

lemma Egress.tracker (h : Egress source state d count now d' notes) :
    d'.backpressure.readPaused = d.backpressure.pausedAfter d'.queue.size ∧
      d'.backpressure.lowWaterBytes = d.backpressure.lowWaterBytes ∧
      d'.backpressure.highWaterBytes = d.backpressure.highWaterBytes :=
  h.observed.tracker

/-- A send keeps the accounts in agreement. -/
lemma Egress.inv (h : Egress source state d count now d' notes) (hinv : d.Inv)
    (hle : count ≤ d.queue.size) : d'.Inv := by
  obtain ⟨hpaused, hlow, hhigh⟩ := h.tracker
  have hsize := h.size
  have hwater := d.backpressure.low_lt_high
  simp only [BackpressureTracker.pausedAfter] at hpaused
  have hbound := hinv.size_le
  refine ⟨by rw [hhigh, h.capacity]; exact hinv.high_le, ?_, ?_, ?_, ?_⟩
  · intro hp
    rw [hpaused] at hp
    split_ifs at hp with hwas
    · rw [decide_eq_true_eq] at hp
      omega
    · have := hinv.running (by simpa using hwas)
      rw [decide_eq_true_eq] at hp
      omega
  · intro hp
    rw [hpaused] at hp
    split_ifs at hp with hwas <;> rw [decide_eq_false_iff_not] at hp <;> omega
  · intro channel' line' hc hl
    obtain ⟨channel, hc', -, hdelay, -⟩ := consumeFault_some (h.fault.trans (congrArg _ hc))
    obtain ⟨line, hl', hok⟩ := hdelay line' hl
    obtain ⟨hw, hpending⟩ := hinv.delay channel line hc' hl'
    obtain ⟨line'', hok', hw', -, hpending', -⟩ := hw.onConsume (by omega : count ≤ line.pending)
    obtain rfl : line'' = line' := by simpa [hok] using hok'.symm
    exact ⟨hw', by rw [hpending', hpending, hsize]⟩
  · intro channel' b' hc hb
    obtain ⟨channel, hc', -, -, hbucket, -⟩ := consumeFault_some (h.fault.trans (congrArg _ hc))
    obtain ⟨b, hb', hok⟩ := hbucket b' hb
    have hs := hinv.bucket channel b hc' hb'
    have hpaid : count ≤ b.tokens := by
      rw [TokenBucket.consume] at hok
      split_ifs at hok with hlt
      exact not_lt.mp hlt
    obtain ⟨b'', hok', hs', -⟩ := hs.consume hpaid
    obtain rfl : b'' = b' := by simpa [hok] using hok'.symm
    exact hs'

/-- Accepted bytes that were queued, releasable and paid for are accounted for without an
exception. -/
lemma commitSent_spec {s : Session} (destination : Side) (budget : ℕ) {count : ℕ} (now : ℤ)
    (hinv : (s.relay.directionFrom destination.peer).Inv)
    (hsize : count ≤ (s.relay.directionFrom destination.peer).queue.size)
    (htokens : ∀ channel b, (s.relay.directionFrom destination.peer).fault = some channel →
      channel.bucket = some b → count ≤ b.tokens) :
    ∃ d' notes, s.commitSent destination budget count now =
        .ok { relay := { s.relay.setDirection destination.peer d' with
                lastActivity := now
                metrics := s.relay.metrics.countWrite destination budget count }
              trace := s.trace ++ notes } ∧
      Egress destination.peer s.relay.state (s.relay.directionFrom destination.peer) count now d'
        notes := by
  set d := s.relay.directionFrom destination.peer with hd
  obtain ⟨queue, hok, hcontent, hqsize, hcap, hpeak⟩ := d.queue.consume_spec hsize
  obtain ⟨fault, hfault⟩ := consumeFault_ok d.fault count
    (fun channel line hc hl => ⟨(hinv.delay channel line hc hl).1,
      (hinv.delay channel line hc hl).2 ▸ hsize⟩)
    (fun channel b hc hb => ⟨hinv.bucket channel b hc hb, htokens channel b hc hb⟩)
  set mid : Session :=
    { s with relay := s.relay.setDirection destination.peer { d with queue, fault } } with hmid
  have hdir : mid.relay.directionFrom destination.peer = { d with queue, fault } := by
    simp [hmid, Relay.setDirection]
  obtain ⟨t', notes, hobs, hspec⟩ := observeBackpressure_spec (s := mid) destination.peer now
    (by rw [hdir, hcap]; exact hinv.high_le)
  refine ⟨{ d with queue, fault, backpressure := t' }, notes, ?_,
    ⟨hcontent, hcap, hpeak, hfault, ?_⟩⟩
  · rw [Session.commitSent]
    simp only [← hd, hok, hfault, bind, Except.bind]
    rw [← hmid, hobs, hdir]
    simp [hmid, Relay.setDirection]
  · rw [hdir] at hspec
    exact hspec

end Egress

/-! ## Moves -/

namespace Session

/-- The state in which `handle_readable` offers `span` bytes of room to a receive. -/
structure Readable (s : Session) (source : Side) (span : ℕ) : Prop where
  readOpen : s.relay.readOpen source = true
  running : (s.relay.directionFrom source).backpressure.readPaused = false
  span_eq : span = min (s.relay.directionFrom source).queue.writableSpan.length
    ((s.relay.directionFrom source).backpressure.highWaterBytes -
      (s.relay.directionFrom source).queue.size)

/-- The state in which `flush` offers `budget` bytes to a send: the destination is open, the
bytes are stored contiguously, released by the delay line and paid for by a refilled bucket. -/
structure Writable (s : Session) (destination : Side) (budget : ℕ) (now : ℤ) : Prop where
  writeOpen : s.relay.writeOpen destination = true
  connected : destination = .upstream → s.relay.upstreamConnecting = false
  budget_pos : 0 < budget
  budget_le : budget ≤ (s.relay.directionFrom destination.peer).queue.readableSpan.length
  released : ∀ channel line, (s.relay.directionFrom destination.peer).fault = some channel →
    channel.delay = some line → budget ≤ line.releasable now
  paid : ∀ channel b, (s.relay.directionFrom destination.peer).fault = some channel →
    channel.bucket = some b → budget ≤ b.tokens ∧ now ≤ b.lastRefill

/-- The data of that send. -/
def offer (s : Session) (destination : Side) (budget : ℕ) : List Byte :=
  (s.relay.directionFrom destination.peer).queue.readableSpan.take budget

/-- The state in which `propagate_half_closes` shuts `destination` down. -/
structure Forwardable (s : Session) (destination : Side) : Prop where
  ended : s.relay.readOpen destination.peer = false
  drained : (s.relay.directionFrom destination.peer).queue.size = 0
  writeOpen : s.relay.writeOpen destination = true
  connected : destination = .upstream → s.relay.upstreamConnecting = false

/-- The state in which `check_lifecycle_faults` injects the half-close. -/
structure Injectable (s : Session) : Prop where
  enabled : s.relay.halfCloseAfterBytes > 0
  notYet : s.relay.halfCloseInjected = false
  writeOpen : s.relay.writeOpen .client = true
  reached : s.relay.metrics.bytesWritten .client ≥ s.relay.halfCloseAfterBytes

/-- The bucket of the direction from `source`, if there is one, refilled up to `now`. -/
def refilled (s : Session) (source : Side) (now : ℤ) : Session :=
  { s with relay := s.relay.setDirection source ((s.relay.directionFrom source).refill now) }

/-- A receive that brought `bytes` and left the direction `d'`. -/
def ingested (s : Session) (source : Side) (span : ℕ) (hint : Bool) (bytes : List Byte) (now : ℤ)
    (d' : Direction) (notes : Trace) : Session :=
  { relay := { s.relay.setDirection source d' with
      lastActivity := now
      metrics := s.relay.metrics.countRead source bytes.length }
    trace := s.trace ++ .receive source span hint (.transferred bytes) now :: notes }

/-- A send of which `count` bytes were accepted and that left the direction `d'`. -/
def egressed (s : Session) (destination : Side) (budget count : ℕ) (now : ℤ) (d' : Direction)
    (notes : Trace) : Session :=
  { relay := { s.relay.setDirection destination.peer d' with
      lastActivity := now
      metrics := s.relay.metrics.countWrite destination budget count }
    trace := s.trace ++
      .send destination (s.offer destination budget) (.transferred count) now :: notes }

/-- A receive that brought no bytes. -/
def afterReceive (s : Session) (source : Side) (span : ℕ) (hint : Bool)
    (result : IoResult (List Byte)) (now : ℤ) : Session :=
  let s := s.record (.receive source span hint result now)
  match result with
  | .wouldBlock => s.countEagain
  | _ => s

/-- A send that took no bytes. -/
def afterSend (s : Session) (destination : Side) (data : List Byte) (result : IoResult ℕ)
    (now : ℤ) : Session :=
  let s := s.record (.send destination data result now)
  match result with
  | .wouldBlock => s.countEagain
  | _ => s

end Session

/-- The data of a send is the front of the queue. -/
lemma Session.Writable.offer_eq {s : Session} {destination : Side} {budget : ℕ} {now : ℤ}
    (h : s.Writable destination budget now) : s.offer destination budget =
      (s.relay.directionFrom destination.peer).queue.content.take budget :=
  ByteQueue.take_readableSpan _ h.budget_le

lemma Session.Writable.budget_le_size {s : Session} {destination : Side} {budget : ℕ} {now : ℤ}
    (h : s.Writable destination budget now) :
    budget ≤ (s.relay.directionFrom destination.peer).queue.size :=
  h.budget_le.trans (ByteQueue.length_readableSpan_le _)

/-- A transfer accepts no more than was offered. -/
lemma Session.Writable.count_le {s : Session} {destination : Side} {budget count : ℕ} {now : ℤ}
    (h : s.Writable destination budget now) {io : SocketIo}
    (hio : io.send s.trace destination (s.offer destination budget) = .transferred count) :
    1 ≤ count ∧ count ≤ budget := by
  obtain ⟨hpos, hle⟩ := io.send_transferred _ _ _ _ hio
  rw [h.offer_eq, List.length_take] at hle
  exact ⟨hpos, hle.trans (min_le_left _ _)⟩

/-- The injected half-close, when the shutdown succeeds. -/
lemma Session.Injectable.injectHalfClose_of_ok {s : Session} (h : s.Injectable) {io : SocketIo}
    (hok : io.shutdownWrite s.trace .client = true) :
    s.injectHalfClose io =
      { relay := { s.relay with halfCloseInjected := true }.closeWrite .client
        trace := s.trace ++ [.shutdownWrite .client .injected true, .observed
          (.halfCloseInjected (s.relay.metrics.bytesWritten .client)) s.relay.state] } := by
  simp [Session.injectHalfClose, h.enabled, h.notYet, h.writeOpen, h.reached, hok, Session.record,
    Session.notify, Relay.closeWrite]

/-- The injected half-close, when the shutdown fails: it is not tried again. -/
lemma Session.Injectable.injectHalfClose_of_failed {s : Session} (h : s.Injectable)
    {io : SocketIo} (hok : io.shutdownWrite s.trace .client = false) :
    s.injectHalfClose io =
      { relay := { s.relay with halfCloseInjected := true }
        trace := s.trace ++ [.shutdownWrite .client .injected false] } := by
  simp [Session.injectHalfClose, h.enabled, h.notYet, h.writeOpen, h.reached, hok, Session.record]

lemma Session.forwardHalfClose_of_ok {s : Session} {io : SocketIo} {destination : Side}
    (hok : io.shutdownWrite s.trace destination = true) :
    s.forwardHalfClose io destination =
      { relay := s.relay.closeWrite destination
        trace := s.trace ++ [.shutdownWrite destination .propagated true, .observed
          (.halfCloseForwarded destination) s.relay.state] } := by
  simp [Session.forwardHalfClose, hok, Session.record, Session.notify, Relay.closeWrite]

/-- A failed shutdown leaves the write side open, to be tried again. -/
lemma Session.forwardHalfClose_of_failed {s : Session} {io : SocketIo} {destination : Side}
    (hok : io.shutdownWrite s.trace destination = false) :
    s.forwardHalfClose io destination =
      { s with trace := s.trace ++ [.shutdownWrite destination .propagated false] } := by
  simp [Session.forwardHalfClose, hok, Session.record]

/-- One interaction of a relay at time `now`. -/
inductive Move (io : SocketIo) (now : ℤ) (s : Session) : Session → Prop
  /-- A receive that delivered bytes. -/
  | receive (source : Side) (span : ℕ) (hint : Bool) (bytes : List Byte) (d' : Direction)
      (notes : Trace)
      (readable : s.Readable source span)
      (answer : io.receive s.trace source span = .transferred bytes)
      (ingest : Ingest source s.relay.state (s.relay.directionFrom source) bytes now d' notes) :
      Move io now s (s.ingested source span hint bytes now d' notes)
  /-- A receive that delivered nothing and decided nothing. -/
  | receiveNothing (source : Side) (span : ℕ) (hint : Bool) (result : IoResult (List Byte))
      (readable : s.Readable source span)
      (answer : io.receive s.trace source span = result)
      (nothing : result = .wouldBlock ∧ hint = false ∨ ∃ error, result = .error error) :
      Move io now s (s.afterReceive source span hint result now)
  /-- The end of a stream, seen as a closed peer or as `EAGAIN` after a hangup. -/
  | endOfStream (source : Side) (span : ℕ) (hint : Bool) (result : IoResult (List Byte))
      (readable : s.Readable source span)
      (answer : io.receive s.trace source span = result)
      (ended : result = .wouldBlock ∧ hint = true ∨ ∃ error, result = .peerClosed error) :
      Move io now s ((s.afterReceive source span hint result now).noteHalfClosedRead source)
  /-- A refill of the bucket of one direction. -/
  | refill (source : Side) : Move io now s (s.refilled source now)
  /-- A send that was accepted in part or in full. -/
  | send (destination : Side) (budget count : ℕ) (d' : Direction) (notes : Trace)
      (writable : s.Writable destination budget now)
      (answer : io.send s.trace destination (s.offer destination budget) = .transferred count)
      (egress : Egress destination.peer s.relay.state (s.relay.directionFrom destination.peer) count
        now d' notes) :
      Move io now s (s.egressed destination budget count now d' notes)
  /-- A send that was refused. -/
  | sendNothing (destination : Side) (budget : ℕ) (result : IoResult ℕ)
      (writable : s.Writable destination budget now)
      (answer : io.send s.trace destination (s.offer destination budget) = result)
      (nothing : ∀ count, result ≠ .transferred count) :
      Move io now s (s.afterSend destination (s.offer destination budget) result now)
  /-- The injected half-close, successful or not. -/
  | injectHalfClose (injectable : s.Injectable) : Move io now s (s.injectHalfClose io)
  /-- The injected reset is reported. -/
  | injectReset (total : UInt64) : Move io now s (s.notify (.resetInjected total))
  /-- An observed half-close is passed on, successfully or not. -/
  | forward (destination : Side) (forwardable : s.Forwardable destination) :
      Move io now s (s.forwardHalfClose io destination)
  /-- The upstream connect has finished. -/
  | connect : Move io now s { s with relay := s.relay.markUpstreamConnected }

/-- Any number of moves at one time. -/
def Moves (io : SocketIo) (now : ℤ) : Session → Session → Prop :=
  Relation.ReflTransGen (Move io now)

/-- The invariant of a session: both directions are in agreement. -/
def Session.Inv (s : Session) : Prop := ∀ source, (s.relay.directionFrom source).Inv

section Inv

variable {io : SocketIo} {now : ℤ} {s s' : Session}

lemma Session.Inv.setDirection (h : s.Inv) (source : Side) {d : Direction} (hd : d.Inv)
    {r : Relay} (hr : r.directionFrom = Function.update s.relay.directionFrom source d)
    (trace : Trace) : Session.Inv { relay := r, trace } := by
  intro source'
  show (r.directionFrom source').Inv
  rw [hr]
  by_cases heq : source' = source
  · subst heq
    rwa [Function.update_self]
  · rw [Function.update_of_ne heq]
    exact h source'

@[simp] lemma Session.refilled_trace (s : Session) (source : Side) (now : ℤ) :
    (s.refilled source now).trace = s.trace := rfl

@[simp] lemma Session.refilled_directionFrom_self (s : Session) (source : Side) (now : ℤ) :
    (s.refilled source now).relay.directionFrom source =
      (s.relay.directionFrom source).refill now := by
  simp [Session.refilled, Relay.setDirection]

lemma Session.refilled_directionFrom_of_ne (s : Session) {source source' : Side} (now : ℤ)
    (hne : source' ≠ source) :
    (s.refilled source now).relay.directionFrom source' = s.relay.directionFrom source' :=
  Function.update_of_ne hne ..

@[simp] lemma Session.ingested_directionFrom_self (s : Session) (source : Side) (span : ℕ)
    (hint : Bool) (bytes : List Byte) (now : ℤ) (d' : Direction) (notes : Trace) :
    (s.ingested source span hint bytes now d' notes).relay.directionFrom source = d' :=
  Function.update_self ..

lemma Session.ingested_directionFrom_of_ne (s : Session) {source source' : Side} (span : ℕ)
    (hint : Bool) (bytes : List Byte) (now : ℤ) (d' : Direction) (notes : Trace)
    (hne : source' ≠ source) :
    (s.ingested source span hint bytes now d' notes).relay.directionFrom source' =
      s.relay.directionFrom source' :=
  Function.update_of_ne hne ..

@[simp] lemma Session.egressed_directionFrom_self (s : Session) (destination : Side)
    (budget count : ℕ) (now : ℤ) (d' : Direction) (notes : Trace) :
    (s.egressed destination budget count now d' notes).relay.directionFrom destination.peer = d' :=
  Function.update_self ..

lemma Session.egressed_directionFrom_of_ne (s : Session) {destination source : Side}
    (budget count : ℕ) (now : ℤ) (d' : Direction) (notes : Trace)
    (hne : source ≠ destination.peer) :
    (s.egressed destination budget count now d' notes).relay.directionFrom source =
      s.relay.directionFrom source :=
  Function.update_of_ne hne ..

@[simp] lemma Session.afterReceive_trace (s : Session) (source : Side) (span : ℕ)
    (hint : Bool) (result : IoResult (List Byte)) (now : ℤ) :
    (s.afterReceive source span hint result now).trace =
      s.trace ++ [.receive source span hint result now] := by
  cases result <;> rfl

@[simp] lemma Session.afterSend_trace (s : Session) (destination : Side) (data : List Byte)
    (result : IoResult ℕ) (now : ℤ) :
    (s.afterSend destination data result now).trace =
      s.trace ++ [.send destination data result now] := by
  cases result <;> rfl

@[simp] lemma Session.noteHalfClosedRead_trace (s : Session) (source : Side) :
    (s.noteHalfClosedRead source).trace = s.trace ++
      [.observed (.peerHalfClosed source) (s.relay.closeRead source).refreshState.state] := rfl

@[simp] lemma Session.afterReceive_directionFrom (s : Session) (source : Side) (span : ℕ)
    (hint : Bool) (result : IoResult (List Byte)) (now : ℤ) :
    (s.afterReceive source span hint result now).relay.directionFrom = s.relay.directionFrom := by
  cases result <;> rfl

@[simp] lemma Session.afterSend_directionFrom (s : Session) (destination : Side)
    (data : List Byte) (result : IoResult ℕ) (now : ℤ) :
    (s.afterSend destination data result now).relay.directionFrom = s.relay.directionFrom := by
  cases result <;> rfl

@[simp] lemma Session.injectHalfClose_directionFrom (s : Session) (io : SocketIo) :
    (s.injectHalfClose io).relay.directionFrom = s.relay.directionFrom := by
  simp only [Session.injectHalfClose]
  split_ifs <;> rfl

@[simp] lemma Session.forwardHalfClose_directionFrom (s : Session) (io : SocketIo)
    (destination : Side) :
    (s.forwardHalfClose io destination).relay.directionFrom = s.relay.directionFrom := by
  simp only [Session.forwardHalfClose]
  split_ifs <;> rfl

/-- **Every move keeps the accounts in agreement.** -/
lemma Move.inv (hmove : Move io now s s') (h : s.Inv) : s'.Inv := by
  cases hmove with
  | receive source span hint bytes d' notes readable answer ingest =>
      have hlen := io.receive_transferred _ _ _ _ answer
      refine h.setDirection source (ingest.inv (h source) readable.running ?_) rfl _
      rw [readable.span_eq] at hlen
      omega
  | send destination budget count d' notes writable answer egress =>
      refine h.setDirection destination.peer (egress.inv (h destination.peer) ?_) rfl _
      exact (writable.count_le answer).2.trans writable.budget_le_size
  | refill source => exact h.setDirection source ((h source).refill now) rfl _
  | receiveNothing source span hint result =>
      intro source'
      rw [Session.afterReceive_directionFrom]
      exact h source'
  | endOfStream source span hint result =>
      intro source'
      show ((s.afterReceive source span hint result now).relay.directionFrom source').Inv
      rw [Session.afterReceive_directionFrom]
      exact h source'
  | sendNothing destination budget result =>
      intro source'
      rw [Session.afterSend_directionFrom]
      exact h source'
  | injectHalfClose => intro source'; rw [Session.injectHalfClose_directionFrom]; exact h source'
  | injectReset => exact h
  | forward => intro source'; rw [Session.forwardHalfClose_directionFrom]; exact h source'
  | connect => exact h

lemma Moves.inv (hmoves : Moves io now s s') (h : s.Inv) : s'.Inv := by
  induction hmoves with
  | refl => exact h
  | tail _ hmove ih => exact hmove.inv ih

end Inv

/-! ## Moves that transfer nothing -/

/-- Events that are neither sends, nor successful receives, nor notes about a direction. -/
def TraceEvent.isQuiet : TraceEvent → Bool
  | .receive _ _ _ (.transferred _) _ | .send .. | .stamped .. | .occupancy .. => false
  | .observed (.readPaused ..) _ | .observed (.readResumed ..) _ => false
  | _ => true

/-- The step from `s` to `s'` touches the directions by refills at most and adds only quiet
events. -/
structure Quiet (now : ℤ) (s s' : Session) : Prop where
  direction : ∀ source, s'.relay.directionFrom source = s.relay.directionFrom source ∨
    s'.relay.directionFrom source = (s.relay.directionFrom source).refill now
  read : s'.relay.metrics.bytesRead = s.relay.metrics.bytesRead
  written : s'.relay.metrics.bytesWritten = s.relay.metrics.bytesWritten
  trace : ∃ added, s'.trace = s.trace ++ added ∧ ∀ e ∈ added, e.isQuiet = true

section Quiet

variable {io : SocketIo} {now : ℤ} {s s' : Session}

lemma Quiet.queue (h : Quiet now s s') (source : Side) :
    (s'.relay.directionFrom source).queue = (s.relay.directionFrom source).queue := by
  rcases h.direction source with heq | heq
  · rw [heq]
  · rw [heq]
    rfl

lemma Quiet.backpressure (h : Quiet now s s') (source : Side) :
    (s'.relay.directionFrom source).backpressure = (s.relay.directionFrom source).backpressure := by
  rcases h.direction source with heq | heq
  · rw [heq]
  · rw [heq]
    rfl

lemma Session.afterReceive_quiet {source : Side} {span : ℕ} {hint : Bool}
    {result : IoResult (List Byte)}
    (h : ∀ bytes, result ≠ .transferred bytes) :
    Quiet now s (s.afterReceive source span hint result now) := by
  refine ⟨fun _ => .inl (by rw [Session.afterReceive_directionFrom]), ?_, ?_, _,
    Session.afterReceive_trace .., ?_⟩
  · cases result <;> rfl
  · cases result <;> rfl
  · rcases result with bytes | _ | _ | _
    · exact absurd rfl (h bytes)
    all_goals simp [TraceEvent.isQuiet]

/-- A quiet step followed by a note about a half-closed read is quiet. -/
lemma Quiet.noteHalfClosedRead (h : Quiet now s s') (source : Side) :
    Quiet now s (s'.noteHalfClosedRead source) := by
  obtain ⟨added, htrace, hquiet⟩ := h.trace
  refine ⟨h.direction, h.read, h.written, added ++ [_],
    by rw [Session.noteHalfClosedRead_trace, htrace, List.append_assoc], ?_⟩
  intro e he
  rcases List.mem_append.mp he with he | he
  · exact hquiet e he
  · obtain rfl := List.mem_singleton.mp he
    rfl

lemma Session.Injectable.quiet (h : s.Injectable) : Quiet now s (s.injectHalfClose io) := by
  rcases hok : io.shutdownWrite s.trace .client with _ | _
  · rw [h.injectHalfClose_of_failed hok]
    exact ⟨fun _ => .inl rfl, rfl, rfl, _, rfl, by simp [TraceEvent.isQuiet]⟩
  · rw [h.injectHalfClose_of_ok hok]
    exact ⟨fun _ => .inl rfl, rfl, rfl, _, rfl, by simp [TraceEvent.isQuiet]⟩

lemma Session.forwardHalfClose_quiet (destination : Side) :
    Quiet now s (s.forwardHalfClose io destination) := by
  rcases hok : io.shutdownWrite s.trace destination with _ | _
  · rw [Session.forwardHalfClose_of_failed hok]
    exact ⟨fun _ => .inl rfl, rfl, rfl, _, rfl, by simp [TraceEvent.isQuiet]⟩
  · rw [Session.forwardHalfClose_of_ok hok]
    exact ⟨fun _ => .inl rfl, rfl, rfl, _, rfl, by simp [TraceEvent.isQuiet]⟩

/-- **What a move can do to the streams**: take bytes in, let bytes out, offer bytes in vain, or
nothing. -/
lemma Move.transfer_or_quiet (hmove : Move io now s s') :
    (∃ source span hint bytes d' notes, s.Readable source span ∧
      io.receive s.trace source span = .transferred bytes ∧
      Ingest source s.relay.state (s.relay.directionFrom source) bytes now d' notes ∧
      s' = s.ingested source span hint bytes now d' notes) ∨
    (∃ destination budget count d' notes, s.Writable destination budget now ∧
      io.send s.trace destination (s.offer destination budget) = .transferred count ∧
      Egress destination.peer s.relay.state (s.relay.directionFrom destination.peer) count now d'
        notes ∧
      s' = s.egressed destination budget count now d' notes) ∨
    (∃ destination budget result, s.Writable destination budget now ∧
      (∀ count, result ≠ .transferred count) ∧
      s' = s.afterSend destination (s.offer destination budget) result now) ∨
    Quiet now s s' := by
  cases hmove with
  | receive source span hint bytes d' notes readable answer ingest =>
      exact .inl ⟨source, span, hint, bytes, d', notes, readable, answer, ingest, rfl⟩
  | send destination budget count d' notes writable answer egress =>
      exact .inr (.inl ⟨destination, budget, count, d', notes, writable, answer, egress, rfl⟩)
  | sendNothing destination budget result writable answer nothing =>
      exact .inr (.inr (.inl ⟨destination, budget, result, writable, nothing, rfl⟩))
  | receiveNothing source span hint result readable answer nothing =>
      refine .inr (.inr (.inr (Session.afterReceive_quiet ?_)))
      rintro bytes rfl
      simp at nothing
  | endOfStream source span hint result readable answer ended =>
      refine .inr (.inr (.inr ((Session.afterReceive_quiet ?_).noteHalfClosedRead source)))
      rintro bytes rfl
      simp at ended
  | refill source =>
      refine .inr (.inr (.inr ⟨fun source' => ?_, rfl, rfl, [], by simp, by simp⟩))
      by_cases heq : source' = source
      · subst heq
        exact .inr (Session.refilled_directionFrom_self ..)
      · exact .inl (s.refilled_directionFrom_of_ne now heq)
  | injectHalfClose injectable => exact .inr (.inr (.inr injectable.quiet))
  | injectReset total =>
      exact .inr (.inr (.inr ⟨fun _ => .inl rfl, rfl, rfl, _, rfl, by simp [TraceEvent.isQuiet]⟩))
  | forward destination forwardable =>
      exact .inr (.inr (.inr (Session.forwardHalfClose_quiet destination)))
  | connect => exact .inr (.inr (.inr ⟨fun _ => .inl rfl, rfl, rfl, [], by
      simp, by simp⟩))

/-- **What every bucket keeps.**  A move changes a bucket by a refill at its time or by consuming
what was sent, so a property that survives both holds of every bucket after the move. -/
lemma Move.buckets {P : TokenBucket → Prop} (hmove : Move io now s s')
    (hrefill : ∀ b, P b → P (b.refill now))
    (hconsume : ∀ b b' count, P b → b.consume count = .ok b' → P b')
    (h : ∀ source channel b, (s.relay.directionFrom source).fault = some channel →
      channel.bucket = some b → P b) :
    ∀ source channel b, (s'.relay.directionFrom source).fault = some channel →
      channel.bucket = some b → P b := by
  intro source channel' b' hc' hb'
  rcases hmove.transfer_or_quiet with ⟨side, span, hint, bytes, d', notes, -, -, hingest, rfl⟩ |
    ⟨destination, budget, count, d', notes, -, -, hegress, rfl⟩ |
    ⟨destination, budget, result, -, -, rfl⟩ | hquiet
  · by_cases heq : source = side
    · -- a receive stamps, and leaves the bucket alone
      subst heq
      rw [Session.ingested_directionFrom_self, hingest.fault] at hc'
      obtain ⟨channel, hc, hbucket⟩ := stampFault_bucket hc'
      exact h source channel b' hc (hbucket ▸ hb')
    · rw [Session.ingested_directionFrom_of_ne _ _ _ _ _ _ _ heq] at hc'
      exact h source channel' b' hc' hb'
  · by_cases heq : source = destination.peer
    · subst heq
      rw [Session.egressed_directionFrom_self] at hc'
      obtain ⟨channel, hc, -, -, hbucket, -⟩ := consumeFault_some (hc' ▸ hegress.fault)
      obtain ⟨b, hb, hok⟩ := hbucket b' hb'
      exact hconsume b b' count (h destination.peer channel b hc hb) hok
    · rw [Session.egressed_directionFrom_of_ne _ _ _ _ _ _ heq] at hc'
      exact h source channel' b' hc' hb'
  · rw [Session.afterSend_directionFrom] at hc'
    exact h source channel' b' hc' hb'
  · rcases hquiet.direction source with heq | heq
    · exact h source channel' b' (heq ▸ hc') hb'
    · rw [heq] at hc'
      obtain ⟨channel, hc, rfl⟩ := Option.map_eq_some_iff.mp hc'
      obtain ⟨b, hb, rfl⟩ := Option.map_eq_some_iff.mp hb'
      exact hrefill b (h source channel b hc hb)

end Quiet

end NetFault
