import NetFault.Relay.Jitter
import NetFault.Relay.WakeChain

/-!
# What a direction is left to wait for

While an event is handled, bytes enter a direction and bytes leave it, all at one time.  What the
direction waits for afterwards follows from the state before the event, from what the sockets
answered (`Passage`) and from the plan: the first byte left in the delay line waits for its stamp,
and bytes that may go wait for the tokens that they are short of.  `Direction.WaitsUntil` says of
these that they are not before a given time; then `next_wake` is not, either (`le_nextWake`).
-/

namespace NetFault

/-! ## Passages -/

/-- What passed through a direction: the sizes of the blocks that came in, and how many bytes went
out. -/
structure Passage where
  blocks : List ℕ
  sent : ℕ

namespace Trace

/-- What `events` let through the direction from `source`. -/
def passage (source : Side) (events : Trace) : Passage where
  blocks := events.blocks source
  sent := (events.sent source.peer).length

variable {source : Side} {events added : Trace}

lemma passage_append_of_idle (hblocks : added.blocks source = [])
    (hsent : added.sent source.peer = []) :
    (events ++ added).passage source = events.passage source := by
  simp [passage, hblocks, hsent]

end Trace

namespace FaultChannel

/-- The channel when a block of `bytes` has come in. -/
def stamp (channel : FaultChannel) (bytes : ℕ) (now : ℤ) : FaultChannel :=
  (stampFault .client (some channel) bytes now).1.getD channel

/-- The channel when `blocks` have come in and nothing has gone out: each block draws its delay. -/
def stampAll (channel : FaultChannel) (blocks : List ℕ) (now : ℤ) : FaultChannel :=
  blocks.foldl (fun channel bytes => channel.stamp bytes now) channel

/-- The stamps of the bytes that are left in the delay line, if there is one, after a passage. -/
def stampsLeft (channel : FaultChannel) (passage : Passage) (now : ℤ) : Option (List ℤ) :=
  (channel.stampAll passage.blocks now).delay.map fun line => line.stamps.drop passage.sent

/-- How many of the bytes left of `size` queued ones the delay line, if there is one, lets go. -/
def releasedLeft (channel : FaultChannel) (size : ℕ) (passage : Passage) (now : ℤ) : ℕ :=
  match channel.stampsLeft passage now with
  | some stamps => (stamps.takeWhile (· ≤ now)).length
  | none => size + passage.blocks.sum - passage.sent

/-- After a passage at `now`, nothing in a direction of `size` queued bytes waits for a time
before `wake`. -/
structure WaitsUntil (channel : FaultChannel) (size : ℕ) (passage : Passage) (now wake : ℤ) :
    Prop where
  /-- The first byte left may go already, or not before `wake`. -/
  delayed : ∀ stamps ∈ channel.stampsLeft passage now, ∀ t ∈ stamps.head?, now < t → wake ≤ t
  /-- If bytes may go and the tokens left are short of their quantum, the rate does not earn what is
  lacking before `wake`. -/
  paced : ∀ b ∈ channel.bucket, 0 < channel.releasedLeft size passage now →
    (b.refill now).tokens - passage.sent <
      releaseQuantum (channel.releasedLeft size passage now) b.burst →
    (wake - now - 1) * b.rate <
      ((releaseQuantum (channel.releasedLeft size passage now) b.burst -
        ((b.refill now).tokens - passage.sent)) * nsPerSecond : ℕ)

instance (channel : FaultChannel) (size : ℕ) (passage : Passage) (now wake : ℤ) :
    Decidable (channel.WaitsUntil size passage now wake) :=
  decidable_of_iff (_ ∧ _) ⟨fun h => ⟨h.1, h.2⟩, fun h => ⟨h.delayed, h.paced⟩⟩

end FaultChannel

/-- The same of a direction; one without a fault channel waits for no time at all. -/
def Direction.WaitsUntil (d : Direction) (passage : Passage) (now wake : ℤ) : Prop :=
  ∀ channel ∈ d.fault, channel.WaitsUntil d.queue.size passage now wake

instance (d : Direction) (passage : Passage) (now wake : ℤ) :
    Decidable (d.WaitsUntil passage now wake) :=
  inferInstanceAs (Decidable (∀ channel ∈ d.fault, _))

/-! ## What a passage does to a direction -/

/-- `left` is `full` less the first `sent` bytes of its delay line; their buckets may differ. -/
structure FaultChannel.Trails (sent : ℕ) (full left : FaultChannel) : Prop where
  rng : left.rng = full.rng
  latency : left.latency = full.latency
  jitter : left.jitter = full.jitter
  undelayed : left.delay = none → full.delay = none
  delay : ∀ line', left.delay = some line' → ∃ line, full.delay = some line ∧
    line'.lastEligible = line.lastEligible ∧ line'.stamps = line.stamps.drop sent ∧
    sent ≤ line.stamps.length

/-- The channel after a passage at `now`. -/
structure FaultChannel.Passed (channel : FaultChannel) (passage : Passage) (now : ℤ)
    (channel' : FaultChannel) : Prop where
  trails : FaultChannel.Trails passage.sent (channel.stampAll passage.blocks now) channel'
  bucket : ∀ b', channel'.bucket = some b' → ∃ b, channel.bucket = some b ∧ b'.rate = b.rate ∧
    b'.burst = b.burst ∧ (b'.refill now).tokens + passage.sent = (b.refill now).tokens

/-- The direction after a passage at `now`. -/
structure Direction.Passed (d : Direction) (passage : Passage) (now : ℤ) (d' : Direction) :
    Prop where
  size : d'.queue.size + passage.sent = d.queue.size + passage.blocks.sum
  fault : ∀ channel', d'.fault = some channel' → ∃ channel, d.fault = some channel ∧
    channel.Passed passage now channel'

/-- The session after `events` at `now`. -/
structure Session.Passed (s : Session) (events : Trace) (now : ℤ) (s' : Session) : Prop where
  trace : s'.trace = s.trace ++ events
  direction : ∀ source, (s.relay.directionFrom source).Passed (events.passage source) now
    (s'.relay.directionFrom source)

namespace FaultChannel

variable {channel : FaultChannel} {sent bytes : ℕ} {now : ℤ} {full left : FaultChannel}

/-- The receiving side of a stamp is only noted. -/
lemma stampFault_eq_stamp (source : Side) (channel : FaultChannel) (bytes : ℕ) (now : ℤ) :
    (stampFault source (some channel) bytes now).1 = some (channel.stamp bytes now) := by
  rcases hl : channel.delay with _ | line <;> simp [stamp, stampFault, hl]

lemma stamp_of_undelayed (h : channel.delay = none) : channel.stamp bytes now = channel := by
  simp [stamp, stampFault, h]

lemma stamp_delay {line : DelayLine} (h : channel.delay = some line) :
    (channel.stamp bytes now).delay = some (line.onCommit bytes
      (now + max 0 (channel.latency + (sampleJitter channel.rng channel.jitter).1))) := by
  simp only [stamp, stampFault, h, Option.getD_some, Option.some.injEq]
  congr 2
  split_ifs <;> omega

@[simp] lemma stamp_latency : (channel.stamp bytes now).latency = channel.latency := by
  rcases hl : channel.delay with _ | line <;> simp [stamp, stampFault, hl]

@[simp] lemma stamp_jitter : (channel.stamp bytes now).jitter = channel.jitter := by
  rcases hl : channel.delay with _ | line <;> simp [stamp, stampFault, hl]

@[simp] lemma stamp_bucket : (channel.stamp bytes now).bucket = channel.bucket := by
  rcases hl : channel.delay with _ | line <;> simp [stamp, stampFault, hl]

lemma stamp_rng {line : DelayLine} (h : channel.delay = some line) :
    (channel.stamp bytes now).rng = (sampleJitter channel.rng channel.jitter).2 := by
  simp [stamp, stampFault, h]

@[simp] lemma stampAll_append_singleton (blocks : List ℕ) :
    channel.stampAll (blocks ++ [bytes]) now = (channel.stampAll blocks now).stamp bytes now := by
  simp [stampAll]

namespace Trails

/-- A block that comes in is stamped alike. -/
lemma stamp (h : Trails sent full left) (hpos : 0 < bytes) :
    Trails sent (full.stamp bytes now) (left.stamp bytes now) := by
  rcases hl' : left.delay with _ | line'
  · rw [stamp_of_undelayed hl', stamp_of_undelayed (h.undelayed hl')]
    exact h
  obtain ⟨line, hl, hlast, hstamps, hsent⟩ := h.delay line' hl'
  refine ⟨?_, by simp [h.latency], by simp [h.jitter], fun hnone => ?_, fun line₂ hl₂ => ?_⟩
  · rw [stamp_rng hl, stamp_rng hl', h.rng, h.jitter]
  · rw [stamp_delay hl'] at hnone
    cases hnone
  · rw [stamp_delay hl', Option.some.injEq] at hl₂
    subst hl₂
    refine ⟨_, stamp_delay hl, ?_, ?_, ?_⟩
    · rw [DelayLine.lastEligible_onCommit _ hpos, DelayLine.lastEligible_onCommit _ hpos,
        DelayLine.clamp, DelayLine.clamp, hlast, h.rng, h.latency, h.jitter]
    · rw [DelayLine.stamps_onCommit _ hpos, DelayLine.stamps_onCommit _ hpos, DelayLine.clamp,
        DelayLine.clamp, hlast, h.rng, h.latency, h.jitter, hstamps,
        List.drop_append_of_le_length hsent]
    · rw [DelayLine.stamps_onCommit _ hpos, List.length_append]
      omega

end Trails

end FaultChannel

section Passed

variable {io : SocketIo} {events : Trace} {now : ℤ} {s m m' : Session}

lemma Session.Passed.refl (s : Session) (now : ℤ) : s.Passed [] now s := by
  refine ⟨by simp, fun source => ⟨rfl, fun channel hc => ⟨channel, hc, ?_, ?_⟩⟩⟩
  · exact ⟨rfl, rfl, rfl, id, fun line hl => ⟨line, hl, rfl, rfl, Nat.zero_le _⟩⟩
  · exact fun b hb => ⟨b, hb, rfl, rfl, rfl⟩

/-- A step that lets nothing through a direction, and refills it at most. -/
lemma Direction.Passed.of_idle {d d₁ d₂ : Direction} {source : Side} {added : Trace}
    (h : d.Passed (events.passage source) now d₁) (hblocks : added.blocks source = [])
    (hsent : added.sent source.peer = []) (hdir : d₂ = d₁ ∨ d₂ = d₁.refill now) :
    d.Passed ((events ++ added).passage source) now d₂ := by
  rw [Trace.passage_append_of_idle hblocks hsent]
  rcases hdir with rfl | rfl
  · exact h
  refine ⟨h.size, fun channel' hc' => ?_⟩
  obtain ⟨channel₁, hc₁, rfl⟩ := Option.map_eq_some_iff.mp hc'
  obtain ⟨channel, hc, htrails, hbucket⟩ := h.fault channel₁ hc₁
  refine ⟨channel, hc, ⟨htrails.rng, htrails.latency, htrails.jitter, htrails.undelayed,
    htrails.delay⟩, fun b' hb' => ?_⟩
  obtain ⟨b₁, hb₁, rfl⟩ := Option.map_eq_some_iff.mp hb'
  obtain ⟨b, hb, hrate, hburst, htokens⟩ := hbucket b₁ hb₁
  refine ⟨b, hb, (b₁.refill_rate now).trans hrate, (b₁.refill_burst now).trans hburst, ?_⟩
  rw [TokenBucket.refill_refill]
  exact htokens

/-- A receive adds its block. -/
lemma Direction.Passed.ingest {d d₁ d₂ : Direction} {source : Side} {state : ConnectionState}
    {span : ℕ} {hint : Bool} {bytes : List Byte} {notes : Trace}
    (h : d.Passed (events.passage source) now d₁)
    (hingest : Ingest source state d₁ bytes now d₂ notes) (hpos : 0 < bytes.length) :
    d.Passed ((events ++ .receive source span hint (.transferred bytes) now :: notes).passage
      source) now d₂ := by
  have hblocks : notes.blocks source = [] :=
    Trace.blocks_notes fun e he => .inl (hingest.isNote e he)
  have hsent := Trace.sent_notes source.peer hingest.isNote
  have hpassage : (events ++ .receive source span hint (.transferred bytes) now :: notes).passage
      source = { blocks := (events.passage source).blocks ++ [bytes.length]
                 sent := (events.passage source).sent } := by
    simp [Trace.passage, Trace.blocksIn, Trace.sentIn, hblocks, hsent]
  rw [hpassage]
  constructor
  · have hsize := h.size
    have hmore := hingest.size
    simp only [List.sum_append, List.sum_singleton]
    omega
  · intro channel₂ hc₂
    rw [hingest.fault] at hc₂
    obtain ⟨channel₁, hc₁, -⟩ := stampFault_bucket hc₂
    obtain ⟨channel, hc, hpassed⟩ := h.fault channel₁ hc₁
    rw [hc₁, FaultChannel.stampFault_eq_stamp, Option.some.injEq] at hc₂
    subst hc₂
    refine ⟨channel, hc, ?_, ?_⟩
    · rw [FaultChannel.stampAll_append_singleton]
      exact hpassed.trails.stamp hpos
    · rw [FaultChannel.stamp_bucket]
      exact hpassed.bucket

/-- A send takes its bytes and their tokens. -/
lemma Direction.Passed.egress {d d₁ d₂ : Direction} {source : Side} {state : ConnectionState}
    {data : List Byte} {count : ℕ} {notes : Trace}
    (h : d.Passed (events.passage source) now d₁) (hinv : d₁.Inv)
    (hegress : Egress source state d₁ count now d₂ notes) (hcount : count ≤ d₁.queue.size)
    (hdata : count ≤ data.length)
    (hpaid : ∀ channel b, d₁.fault = some channel → channel.bucket = some b →
      count ≤ b.tokens ∧ now ≤ b.lastRefill) :
    d.Passed ((events ++ .send source.peer data (.transferred count) now :: notes).passage source)
      now d₂ := by
  have hblocks : notes.blocks source = [] :=
    Trace.blocks_notes fun e he => .inl (hegress.observed.isNote e he)
  have hsent := Trace.sent_notes source.peer hegress.observed.isNote
  have hpassage : (events ++ .send source.peer data (.transferred count) now :: notes).passage
      source = { blocks := (events.passage source).blocks
                 sent := (events.passage source).sent + count } := by
    simp [Trace.passage, Trace.blocksIn, Trace.sentIn, hblocks, hsent, hdata]
  rw [hpassage]
  constructor
  · have hsize := h.size
    have hless := hegress.size
    dsimp only
    omega
  intro channel₂ hc₂
  obtain ⟨channel₁, hc₁, hsame, hdelay, hbucket, hdelayed, -⟩ :=
    consumeFault_some (hegress.fault.trans (congrArg _ hc₂))
  obtain ⟨channel, hc, htrails, hpassed⟩ := h.fault channel₁ hc₁
  refine ⟨channel, hc, ⟨?_, ?_, ?_, fun hnone => htrails.undelayed ?_, fun line₂ hl₂ => ?_⟩,
    fun b₂ hb₂ => ?_⟩
  · rw [hsame]
    exact htrails.rng
  · rw [hsame]
    exact htrails.latency
  · rw [hsame]
    exact htrails.jitter
  · simpa [hnone] using hdelayed.symm
  · obtain ⟨line₁, hl₁, hok⟩ := hdelay line₂ hl₂
    obtain ⟨line, hl, hlast, hleft, hcovered⟩ := htrails.delay line₁ hl₁
    obtain ⟨hw, hpending⟩ := hinv.delay channel₁ line₁ hc₁ hl₁
    obtain ⟨line₃, hok', -, hdrop, -, hlast'⟩ := hw.onConsume (hpending ▸ hcount)
    obtain rfl := Except.ok.inj (hok'.symm.trans hok)
    have hlength := congrArg List.length hleft
    rw [List.length_drop, ← hw.pending_eq, hpending] at hlength
    refine ⟨line, hl, hlast'.trans hlast, ?_, ?_⟩
    · rw [hdrop, hleft, List.drop_drop]
    · dsimp only
      omega
  · obtain ⟨b₁, hb₁, hok⟩ := hbucket b₂ hb₂
    obtain ⟨b, hb, hrate, hburst, htokens⟩ := hpassed b₁ hb₁
    obtain ⟨hle, hlast⟩ := hpaid channel₁ b₁ hc₁ hb₁
    rw [TokenBucket.consume, if_neg (not_lt.mpr hle)] at hok
    obtain rfl := Except.ok.inj hok
    refine ⟨b, hb, hrate, hburst, ?_⟩
    rw [TokenBucket.refill_of_le hlast] at htokens
    rw [TokenBucket.refill_of_le (b := { b₁ with tokens := b₁.tokens - count }) hlast]
    dsimp only
    omega

/-- **Every move at `now` is part of the passage.** -/
lemma Session.Passed.move (h : s.Passed events now m) (hinv : m.Inv) (hmove : Move io now m m') :
    ∃ events', s.Passed events' now m' := by
  rcases hmove.transfer_or_quiet with ⟨side, span, hint, bytes, d', notes, -, hio, hingest, rfl⟩ |
    ⟨destination, budget, count, d', notes, hwritable, hio, hegress, rfl⟩ |
    ⟨destination, budget, result, -, hnothing, rfl⟩ | hquiet
  · refine ⟨events ++ .receive side span hint (.transferred bytes) now :: notes, by
      simp [Session.ingested, h.trace], fun source => ?_⟩
    by_cases heq : source = side
    · subst heq
      rw [Session.ingested_directionFrom_self]
      exact (h.direction source).ingest hingest (io.receive_transferred _ _ _ _ hio).1
    · rw [Session.ingested_directionFrom_of_ne _ _ _ _ _ _ _ heq]
      refine (h.direction source).of_idle ?_ ?_ (.inl rfl)
      · rw [Trace.blocks_cons, Trace.blocks_notes fun e he => .inl (hingest.isNote e he),
          Trace.blocksIn, if_neg (Ne.symm heq), List.append_nil]
      · simp [Trace.sentIn, Trace.sent_notes source.peer hingest.isNote]
  · obtain ⟨-, hcount⟩ := hwritable.count_le hio
    have hoffer := (io.send_transferred _ _ _ _ hio).2
    refine ⟨events ++ .send destination (m.offer destination budget) (.transferred count) now ::
      notes, by simp [Session.egressed, h.trace], fun source => ?_⟩
    by_cases heq : source = destination.peer
    · subst heq
      rw [Session.egressed_directionFrom_self]
      have hpassed := (h.direction destination.peer).egress (hinv destination.peer) hegress
        (hcount.trans hwritable.budget_le_size) hoffer fun channel b hc hb =>
          ⟨hcount.trans (hwritable.paid channel b hc hb).1, (hwritable.paid channel b hc hb).2⟩
      rwa [Side.peer_peer] at hpassed
    · rw [Session.egressed_directionFrom_of_ne _ _ _ _ _ _ heq]
      have hne : destination ≠ source.peer := fun hsame => heq (by rw [hsame, Side.peer_peer])
      refine (h.direction source).of_idle ?_ ?_ (.inl rfl)
      · rw [Trace.blocks_cons, Trace.blocks_notes fun e he => .inl (hegress.observed.isNote e he)]
        rfl
      · simp [Trace.sentIn, hne, Trace.sent_notes source.peer hegress.observed.isNote]
  · refine ⟨events ++ [.send destination (m.offer destination budget) result now], by
      rw [Session.afterSend_trace, h.trace, List.append_assoc], fun source => ?_⟩
    rw [Session.afterSend_directionFrom]
    refine (h.direction source).of_idle rfl ?_ (.inl rfl)
    cases result with
    | transferred count => exact absurd rfl (hnothing count)
    | _ => simp [Trace.sentIn]
  · obtain ⟨added, htrace, hadded⟩ := hquiet.trace
    refine ⟨events ++ added, by rw [htrace, h.trace, List.append_assoc], fun source => ?_⟩
    exact (h.direction source).of_idle (Trace.blocks_notes fun e he => .inr (hadded e he))
      (Trace.sent_quiet source.peer hadded) (hquiet.direction source)

/-- **A handling of an event at `now` is a passage.** -/
lemma Moves.passed (hmoves : Moves io now s m) (hinv : s.Inv) : ∃ events, s.Passed events now m :=
  hmoves.preserves (P := fun m => ∃ events, s.Passed events now m) hinv ⟨[], .refl s now⟩
    fun _ _ hm ⟨_, h⟩ hmove => h.move hm hmove

end Passed

/-! ## The wake after a passage -/

/-- The first stamp is that of the front. -/
lemma DelayLine.WellFormed.head?_stamps {line : DelayLine} (hw : line.WellFormed) :
    line.stamps.head? = line.segments.head?.map Segment.eligibleAt := by
  rcases hseg : line.segments with _ | ⟨front, rest⟩
  · rw [stamps, hseg]
    rfl
  obtain ⟨n, hn⟩ := Nat.exists_eq_succ_of_ne_zero (hw.pos front (by simp [hseg])).ne'
  rw [stamps, hseg, stampsOf_cons, hn, List.replicate_succ]
  rfl

/-- A line that releases nothing waits for its first stamp. -/
lemma DelayLine.WellFormed.head?_of_nextEligible {line : DelayLine} (hw : line.WellFormed)
    {now t : ℤ} (hzero : line.releasable now = 0) (hnext : line.nextEligible now = some t) :
    line.stamps.head? = some t := by
  rw [hw.head?_stamps]
  rcases hseg : line.segments with _ | ⟨front, rest⟩
  · rw [nextEligible, hseg] at hnext
    cases hnext
  have hfront := hw.pos front (by simp [hseg])
  have hlate : front.eligibleAt > now := by
    by_contra hpast
    rw [releasable, hseg, releasableIn, if_neg hpast] at hzero
    omega
  obtain rfl : front.eligibleAt = t := by simpa [nextEligible, hseg, hlate] using hnext
  rfl

/-- The wait for the tokens that a quantum lacks is the shortest that earns them. -/
lemma TokenBucket.Sound.le_eligibleAt {b : TokenBucket} (hs : b.Sound) {bytes : ℕ} {now wake : ℤ}
    (hrate : b.rate ≤ 1000000000) (hbytes : bytes ≤ kPreferredReleaseBytes)
    (hburst : bytes ≤ b.burst) (htokens : (b.refill now).tokens < bytes)
    (hwake : (wake - now - 1) * b.rate < ((bytes - (b.refill now).tokens) * nsPerSecond : ℕ)) :
    wake ≤ (b.eligibleAt bytes now).1 := by
  obtain ⟨hcover, -, -, hsmall⟩ := (hs.refill now).earnTime_mul (by simpa using hrate)
    (Nat.sub_pos_of_lt htokens) ((Nat.sub_le _ _).trans hbytes)
  have htime : (b.eligibleAt bytes now).1 =
      now + (b.refill now).earnTime (bytes - (b.refill now).tokens) := by
    simp only [TokenBucket.eligibleAt, TokenBucket.refill_burst, min_eq_left hburst,
      if_neg (not_le.mpr htokens)]
    rw [i64_of_abs_lt (by omega) (by exact_mod_cast hsmall)]
  rw [TokenBucket.refill_rate] at hcover
  have hlt : (wake - now - 1) * b.rate <
      ((b.refill now).earnTime (bytes - (b.refill now).tokens) : ℤ) * b.rate :=
    hwake.trans_le (by exact_mod_cast hcover)
  have := lt_of_mul_lt_mul_right hlt (by positivity)
  omega

section Wake

variable {passage : Passage} {now wake : ℤ}

/-- The line that is left holds the stamps that are left. -/
lemma FaultChannel.Passed.stampsLeft {channel channel' : FaultChannel}
    (h : channel.Passed passage now channel') {line' : DelayLine}
    (hl' : channel'.delay = some line') : channel.stampsLeft passage now = some line'.stamps := by
  obtain ⟨line, hl, -, hstamps, -⟩ := h.trails.delay line' hl'
  rw [FaultChannel.stampsLeft, hl, hstamps]
  rfl

/-- What the line releases after a passage. -/
lemma Direction.Passed.released {d d' : Direction} {channel channel' : FaultChannel}
    (h : d.Passed passage now d') (hinv : d'.Inv) (hc : d.fault = some channel)
    (hc' : d'.fault = some channel') :
    channel'.released d'.queue.size now = channel.releasedLeft d.queue.size passage now := by
  obtain ⟨channel₁, hc₁, hpassed⟩ := h.fault channel' hc'
  obtain rfl : channel = channel₁ := Option.some.inj (hc.symm.trans hc₁)
  have hsize := h.size
  rcases hl' : channel'.delay with _ | line'
  · rw [FaultChannel.released, hl', FaultChannel.releasedLeft, FaultChannel.stampsLeft,
      hpassed.trails.undelayed hl']
    dsimp only [Option.map_none]
    omega
  · obtain ⟨hw, hpending⟩ := hinv.delay channel' line' hc' hl'
    rw [FaultChannel.released, hl', FaultChannel.releasedLeft, hpassed.stampsLeft hl']
    dsimp only
    rw [min_eq_right (hpending ▸ DelayLine.releasable_le_pending hw now), DelayLine.releasable,
      DelayLine.releasableIn_eq now _ hw.pos]
    rfl

/-- **The next wake is not before `wake`** when nothing waits for a time before it. -/
lemma le_nextWake {r : Relay} {destination : Side} {d : Direction}
    (hinv : (r.directionFrom destination.peer).Inv)
    (hrate : ∀ channel b, (r.directionFrom destination.peer).fault = some channel →
      channel.bucket = some b → b.rate ≤ 1000000000)
    (hpassed : d.Passed passage now (r.directionFrom destination.peer))
    (hwaits : d.WaitsUntil passage now wake) {t : ℤ}
    (h : (r.nextWake destination now).1 = some t) : wake ≤ t := by
  by_cases hheld : ∃ channel', r.Held destination channel'
  swap
  · rw [nextWake_of_not_held (not_exists.mp hheld)] at h
    cases h
  obtain ⟨channel', hheld⟩ := hheld
  rw [nextWake_eq hheld.writeOpen hheld.connected hheld.size hheld.fault] at h
  split_ifs at h with hbudget
  obtain ⟨channel, hc, hchannel⟩ := hpassed.fault channel' hheld.fault
  have hwaiting := hwaits channel hc
  have hreleased := hpassed.released hinv hc hheld.fault
  rcases FaultChannel.wake_cases hinv hheld.fault hheld.size
      (Nat.eq_zero_of_not_pos hbudget) with
    ⟨line', t', hl', hzero, hnext, hlater, hwake⟩ | ⟨b', hb', hpos, hshort, hwake⟩
  · -- the front of the line is its first stamp
    obtain rfl : t' = t := Option.some.inj (hwake.symm.trans h)
    obtain ⟨hw, -⟩ := hinv.delay channel' line' hheld.fault hl'
    exact hwaiting.delayed line'.stamps (hchannel.stampsLeft hl') t'
      (hw.head?_of_nextEligible hzero hnext) hlater
  · obtain ⟨b, hb, hbrate, hburst, htokens⟩ := hchannel.bucket b' hb'
    obtain rfl := Option.some.inj (hwake.symm.trans h)
    have hs := hinv.bucket channel' b' hheld.fault hb'
    have hleft : (b'.refill now).tokens = (b.refill now).tokens - passage.sent := by omega
    have hpaced := hwaiting.paced b hb (hreleased ▸ hpos)
      (by rw [← hreleased, ← hleft, ← hburst]; exact hshort)
    rw [← hreleased, ← hleft, ← hburst, ← hbrate] at hpaced
    apply (hs.refill now).le_eligibleAt
    · simpa using hrate channel' b' hheld.fault hb'
    · exact min_le_right _ _
    · rw [TokenBucket.refill_burst]
      exact (min_le_left _ _).trans (min_le_right _ _)
    · rwa [TokenBucket.refill_refill]
    · rwa [TokenBucket.refill_refill, TokenBucket.refill_rate]

end Wake

/-! ## Plans that delay one direction -/

/-- The plan makes nothing wait for tokens, and at most one direction wait for stamps. -/
def FaultPlan.DelaysOneWay (plan : FaultPlan) : Prop :=
  plan.rateBytesPerSecond = 0 ∧ (plan.latency ≤ 0 ∧ plan.jitter ≤ 0 ∨ plan.directions ≠ .both)

instance (plan : FaultPlan) : Decidable plan.DelaysOneWay := inferInstanceAs (Decidable (_ ∧ _))

/-- The stamps in the delay line, and those to come, are not before `wake`. -/
def Direction.HoldsUntil (wake : ℤ) (d : Direction) : Prop :=
  ∀ channel line, d.fault = some channel → channel.delay = some line →
    wake ≤ line.lastEligible ∧ ∀ t ∈ line.stamps, wake ≤ t

def Session.HoldsUntil (wake : ℤ) (s : Session) : Prop :=
  ∀ source, (s.relay.directionFrom source).HoldsUntil wake

section HoldsUntil

variable {io : SocketIo} {source : Side} {state : ConnectionState} {d d' : Direction}
  {s s' : Session} {now wake : ℤ} {notes : Trace}

lemma Direction.HoldsUntil.refill (h : d.HoldsUntil wake) (now : ℤ) :
    (d.refill now).HoldsUntil wake := by
  intro channel' line hc' hl
  obtain ⟨channel, hc, rfl⟩ := Option.map_eq_some_iff.mp hc'
  exact h channel line hc hl

/-- A new stamp is not before the one before it. -/
lemma Ingest.holdsUntil {bytes : List Byte} (h : Ingest source state d bytes now d' notes)
    (hpos : 0 < bytes.length) (hd : d.HoldsUntil wake) : d'.HoldsUntil wake := by
  intro channel' line' hc' hl'
  rw [h.fault] at hc'
  obtain ⟨channel, line, delay, hc, hl, rfl, -⟩ := stampFault_delay hc' hl'
  obtain ⟨hlast, hstamps⟩ := hd channel line hc hl
  have hclamp := hlast.trans (DelayLine.lastEligible_le_clamp line (now + delay))
  rw [DelayLine.lastEligible_onCommit _ hpos, DelayLine.stamps_onCommit _ hpos]
  refine ⟨hclamp, fun t ht => ?_⟩
  rcases List.mem_append.mp ht with hold | hnew
  · exact hstamps t hold
  · rwa [List.eq_of_mem_replicate hnew]

lemma Egress.holdsUntil {count : ℕ} (h : Egress source state d count now d' notes) (hinv : d.Inv)
    (hcount : count ≤ d.queue.size) (hd : d.HoldsUntil wake) : d'.HoldsUntil wake := by
  intro channel' line' hc' hl'
  obtain ⟨channel, hc, -, hdelay, -⟩ := consumeFault_some (hc' ▸ h.fault)
  obtain ⟨line, hl, hok⟩ := hdelay line' hl'
  obtain ⟨hw, hpending⟩ := hinv.delay channel line hc hl
  obtain ⟨line'', hok', -, hdrop, -, hlast'⟩ := hw.onConsume (hpending ▸ hcount)
  obtain rfl := Except.ok.inj (hok'.symm.trans hok)
  obtain ⟨hlast, hstamps⟩ := hd channel line hc hl
  rw [hlast', hdrop]
  exact ⟨hlast, fun t ht => hstamps t (List.mem_of_mem_drop ht)⟩

lemma Session.HoldsUntil.update (h : s.HoldsUntil wake) {side : Side} (hd : d.HoldsUntil wake)
    (source : Side) : (Function.update s.relay.directionFrom side d source).HoldsUntil wake := by
  by_cases heq : source = side
  · subst heq
    rwa [Function.update_self]
  · rw [Function.update_of_ne heq]
    exact h source

/-- Every move leaves the stamps where they are, or adds later ones. -/
lemma Session.HoldsUntil.move (h : s.HoldsUntil wake) (hinv : s.Inv) (hmove : Move io now s s') :
    s'.HoldsUntil wake := by
  rcases hmove.transfer_or_quiet with ⟨side, span, hint, bytes, d', notes, -, hio, hingest, rfl⟩ |
    ⟨destination, budget, count, d', notes, hwritable, hio, hegress, rfl⟩ |
    ⟨destination, budget, result, -, -, rfl⟩ | hquiet
  · exact h.update (hingest.holdsUntil (io.receive_transferred _ _ _ _ hio).1 (h side))
  · obtain ⟨-, hcount⟩ := hwritable.count_le hio
    exact h.update (hegress.holdsUntil (hinv destination.peer)
      (hcount.trans hwritable.budget_le_size) (h destination.peer))
  · intro source
    rw [Session.afterSend_directionFrom]
    exact h source
  · intro source
    rcases hquiet.direction source with heq | heq
    · rw [heq]
      exact h source
    · rw [heq]
      exact (h source).refill now

/-- The first stamp of a line is the earliest. -/
lemma DelayLine.WellFormed.head?_le {line : DelayLine} (hw : line.WellFormed) {t : ℤ}
    (hfirst : line.stamps.head? = some t) : t ≤ line.lastEligible ∧ ∀ t' ∈ line.stamps, t ≤ t' := by
  have hmem : ∀ t' ∈ line.stamps, ∃ segment ∈ line.segments, segment.eligibleAt = t' := by
    intro t' ht'
    obtain ⟨segment, hsegment, ht'⟩ := List.mem_flatMap.mp ht'
    exact ⟨segment, hsegment, (List.eq_of_mem_replicate ht').symm⟩
  rw [hw.head?_stamps] at hfirst
  rcases hseg : line.segments with _ | ⟨front, rest⟩
  · rw [hseg] at hfirst
    cases hfirst
  obtain rfl : front.eligibleAt = t := by simpa [hseg] using hfirst
  refine ⟨hw.le_last front (by simp [hseg]), fun t' ht' => ?_⟩
  obtain ⟨segment, hsegment, rfl⟩ := hmem t' ht'
  have hincreasing := hw.increasing
  rw [hseg] at hsegment hincreasing
  rcases List.mem_cons.mp hsegment with rfl | hlater
  · exact le_rfl
  · exact (List.rel_of_pairwise_cons hincreasing hlater).le

variable {config : RelayConfig} {plan : FaultPlan}

/-- **A wake that a relay without a rate computes is the earliest stamp of one of its lines.** -/
lemma Session.Follows.nextWake_stamp (h : s.Follows config plan)
    (hrate : plan.rateBytesPerSecond = 0) {destination : Side} {t : ℤ}
    (hinv : (s.relay.directionFrom destination.peer).Inv)
    (hwake : (s.relay.nextWake destination now).1 = some t) :
    ∃ channel line, (s.relay.directionFrom destination.peer).fault = some channel ∧
      channel.delay = some line ∧ line.stamps.head? = some t ∧ t ≤ line.lastEligible ∧
      ∀ t' ∈ line.stamps, t ≤ t' := by
  by_cases hheld : ∃ channel, s.relay.Held destination channel
  swap
  · rw [nextWake_of_not_held (not_exists.mp hheld)] at hwake
    cases hwake
  obtain ⟨channel, hheld⟩ := hheld
  rw [nextWake_eq hheld.writeOpen hheld.connected hheld.size hheld.fault] at hwake
  split_ifs at hwake with hbudget
  rcases FaultChannel.wake_cases hinv hheld.fault hheld.size
      (Nat.eq_zero_of_not_pos hbudget) with
    ⟨line, t', hl, hzero, hnext, -, heq⟩ | ⟨b, hb, -⟩
  · obtain rfl : t' = t := Option.some.inj (heq.symm.trans hwake)
    obtain ⟨hw, -⟩ := hinv.delay channel line hheld.fault hl
    have hfirst := hw.head?_of_nextEligible hzero hnext
    exact ⟨channel, line, hheld.fault, hl, hfirst, hw.head?_le hfirst⟩
  · have hbucket := ((h destination.peer).channel channel hheld.fault).bucket_isSome
    simp [hb, hrate] at hbucket

/-- Under such a plan a channel with a delay line is the only one. -/
lemma Session.Follows.channel_unique (h : s.Follows config plan) (hplan : plan.DelaysOneWay)
    {source source' : Side} {channel channel' : FaultChannel} {line : DelayLine}
    (hc : (s.relay.directionFrom source).fault = some channel) (hl : channel.delay = some line)
    (hc' : (s.relay.directionFrom source').fault = some channel') : source = source' := by
  have hdelays := ((h source).channel channel hc).delay_isSome
  rw [hl, Option.isSome_some, eq_comm, decide_eq_true_eq] at hdelays
  have hdirections : plan.directions ≠ .both := hplan.2.resolve_left (by omega)
  have happlies : ∀ side channel, (s.relay.directionFrom side).fault = some channel →
      plan.appliesTo side = true := by
    intro side channel hside
    have hsome := (h side).fault_isSome
    rw [hside, Option.isSome_some, eq_comm, Bool.and_eq_true] at hsome
    exact hsome.2
  have hone := happlies source channel hc
  have htwo := happlies source' channel' hc'
  rcases hdir : plan.directions <;> cases source <;> cases source' <;>
    simp_all [FaultPlan.appliesTo, FaultPlan.appliesToClientToUpstream,
      FaultPlan.appliesToUpstreamToClient]

/-- **The wake that is computed holds back everything**, and is not before one that did. -/
lemma Session.Follows.holdsUntil_nextWake (h : s.Follows config plan) (hplan : plan.DelaysOneWay)
    {destination : Side} {t : ℤ} (hinv : (s.relay.directionFrom destination.peer).Inv)
    (hwake : (s.relay.nextWake destination now).1 = some t) :
    s.HoldsUntil t ∧ ∀ wake, s.HoldsUntil wake → wake ≤ t := by
  obtain ⟨channel, line, hc, hl, hfirst, hle⟩ := h.nextWake_stamp hplan.1 hinv hwake
  refine ⟨fun source channel' line' hc' hl' => ?_, fun wake hheld => ?_⟩
  · obtain rfl := h.channel_unique hplan hc hl hc'
    obtain rfl := Option.some.inj (hc.symm.trans hc')
    obtain rfl := Option.some.inj (hl.symm.trans hl')
    exact hle
  · exact (hheld _ channel line hc hl).2 t (List.mem_of_mem_head? hfirst)

end HoldsUntil

end NetFault
