import NetFault.Relay.Methods

/-!
# What the configuration and the plan fix for a whole run

The watermarks of a direction, whether it has a fault channel, and the parameters of the channel
are decided by the constructor and never change afterwards.
-/

namespace NetFault

/-- The parameters of a channel are those of the plan. -/
structure FaultChannel.Follows (plan : FaultPlan) (channel : FaultChannel) : Prop where
  delay_isSome : channel.delay.isSome = decide (plan.latency > 0 ∨ plan.jitter > 0)
  latency : channel.latency = i64 (plan.latency * 1000000)
  jitter : channel.jitter = i64 (plan.jitter * 1000000)
  bucket_isSome : channel.bucket.isSome = decide (plan.rateBytesPerSecond > 0)
  bucket : ∀ b, channel.bucket = some b →
    b.rate = plan.rateBytesPerSecond ∧ b.burst = plan.effectiveBurstBytes

/-- The parameters of the direction from `source` are those of the configuration and the plan. -/
structure Direction.Follows (config : RelayConfig) (plan : FaultPlan) (source : Side)
    (d : Direction) : Prop where
  low : d.backpressure.lowWaterBytes = config.lowWaterBytes
  high : d.backpressure.highWaterBytes = config.highWaterBytes
  fault_isSome : d.fault.isSome = (plan.paced && plan.appliesTo source)
  channel : ∀ channel, d.fault = some channel → channel.Follows plan

section Follows

variable {config : RelayConfig} {plan : FaultPlan} {source : Side} {d d' : Direction} {now : ℤ}

lemma FaultChannel.Follows.refill {channel : FaultChannel} (h : channel.Follows plan) (now : ℤ) :
    (channel.refill now).Follows plan := by
  refine ⟨h.delay_isSome, h.latency, h.jitter, by simpa [FaultChannel.refill] using h.bucket_isSome,
    ?_⟩
  intro b hb
  obtain ⟨b', hb', rfl⟩ := Option.map_eq_some_iff.mp hb
  simpa using h.bucket b' hb'

lemma Direction.Follows.refill (h : d.Follows config plan source) (now : ℤ) :
    (d.refill now).Follows config plan source := by
  refine ⟨h.low, h.high, by simpa [Direction.refill] using h.fault_isSome, ?_⟩
  intro channel hc
  obtain ⟨c, hc', rfl⟩ := Option.map_eq_some_iff.mp hc
  exact (h.channel c hc').refill now

/-- Stamping a block changes the delay line, the generator and the totals, nothing else. -/
lemma stampFault_follows (source : Side) (now : ℤ) {fault : Option FaultChannel}
    (h : ∀ channel, fault = some channel → channel.Follows plan) (count : ℕ) :
    (stampFault source fault count now).1.isSome = fault.isSome ∧
      ∀ channel, (stampFault source fault count now).1 = some channel → channel.Follows plan := by
  rcases fault with _ | channel
  · simp [stampFault]
  have hf := h channel rfl
  rcases hd : channel.delay with _ | line
  · simp only [stampFault, hd, Option.isSome_some, true_and]
    exact h
  · simp only [stampFault, hd, Option.some.injEq, Option.isSome_some, true_and]
    rintro _ rfl
    exact ⟨by simpa [hd] using hf.delay_isSome, hf.latency, hf.jitter, hf.bucket_isSome, hf.bucket⟩

/-- Consuming from a channel keeps its parts and their parameters. -/
lemma consumeFault_follows {fault fault' : Option FaultChannel} {count : ℕ}
    (hok : consumeFault fault count = .ok fault')
    (h : ∀ channel, fault = some channel → channel.Follows plan) :
    ∀ channel, fault' = some channel → channel.Follows plan := by
  rintro channel' rfl
  obtain ⟨channel, hc, heq, -, hbucket, hdelaySome, hbucketSome⟩ := consumeFault_some hok
  have hf := h channel hc
  refine ⟨hdelaySome.trans hf.delay_isSome, ?_, ?_, hbucketSome.trans hf.bucket_isSome, ?_⟩
  · rw [heq]
    exact hf.latency
  · rw [heq]
    exact hf.jitter
  · intro b' hb'
    obtain ⟨b, hb, hconsume⟩ := hbucket b' hb'
    rw [TokenBucket.consume] at hconsume
    split_ifs at hconsume
    obtain rfl : _ = b' := by simpa using hconsume
    exact hf.bucket b hb

lemma Ingest.follows {state : ConnectionState} {bytes : List Byte} {notes : Trace}
    (h : Ingest source state d bytes now d' notes)
    (hf : d.Follows config plan source) : d'.Follows config plan source := by
  obtain ⟨-, hlow, hhigh⟩ := h.tracker
  obtain ⟨hsome, hchannel⟩ := stampFault_follows source now hf.channel
    bytes.length
  exact ⟨hlow.trans hf.low, hhigh.trans hf.high, by rw [h.fault, hsome, hf.fault_isSome],
    fun channel hc => hchannel channel (h.fault ▸ hc)⟩

lemma Egress.follows {state : ConnectionState} {count : ℕ} {notes : Trace}
    (h : Egress source state d count now d' notes)
    (hf : d.Follows config plan source) : d'.Follows config plan source := by
  obtain ⟨-, hlow, hhigh⟩ := h.tracker
  exact ⟨hlow.trans hf.low, hhigh.trans hf.high,
    (consumeFault_isSome h.fault).trans hf.fault_isSome, consumeFault_follows h.fault hf.channel⟩

/-- Both directions follow the configuration and the plan. -/
def Session.Follows (config : RelayConfig) (plan : FaultPlan) (s : Session) : Prop :=
  ∀ source, (s.relay.directionFrom source).Follows config plan source

lemma Session.Follows.update {s : Session} (h : s.Follows config plan) {side : Side}
    (hd : d.Follows config plan side) (source : Side) :
    (Function.update s.relay.directionFrom side d source).Follows config plan source := by
  by_cases heq : source = side
  · subst heq
    rwa [Function.update_self]
  · rw [Function.update_of_ne heq]
    exact h source

/-- A direction the plan delays has a delay line. -/
lemma Session.Follows.exists_line {s : Session} (h : s.Follows config plan)
    (hdelays : plan.latency > 0 ∨ plan.jitter > 0) (happlies : plan.appliesTo source = true) :
    ∃ channel line, (s.relay.directionFrom source).fault = some channel ∧
      channel.delay = some line := by
  have hpaced : plan.paced = true := by
    simp only [FaultPlan.paced, Bool.or_eq_true, decide_eq_true_eq]
    exact .inl hdelays
  obtain ⟨channel, hc⟩ := Option.isSome_iff_exists.mp
    ((h source).fault_isSome.trans (by rw [hpaced, happlies]; rfl))
  obtain ⟨line, hl⟩ := Option.isSome_iff_exists.mp
    (((h source).channel channel hc).delay_isSome.trans (decide_eq_true hdelays))
  exact ⟨channel, line, hc, hl⟩

/-- Every move leaves the parameters as they are. -/
lemma Session.Follows.move {io : SocketIo} {s s' : Session} (h : s.Follows config plan)
    (hmove : Move io now s s') : s'.Follows config plan := by
  rcases hmove.transfer_or_quiet with ⟨side, span, hint, bytes, d', notes, -, -, hingest, rfl⟩ |
    ⟨destination, budget, count, d', notes, -, -, hegress, rfl⟩ |
    ⟨destination, budget, result, -, -, rfl⟩ | hquiet
  · exact h.update (hingest.follows (h side))
  · exact h.update (hegress.follows (h destination.peer))
  · intro source
    rw [Session.afterSend_directionFrom]
    exact h source
  · intro source
    rcases hquiet.direction source with heq | heq
    · rw [heq]
      exact h source
    · rw [heq]
      exact (h source).refill now

lemma Relay.Fresh.follows {upstreamConnecting : Bool} {start : ℤ} {r : Relay}
    (h : r.Fresh config plan upstreamConnecting start) :
    Session.Follows config plan { relay := r } := by
  intro source
  have hd := h.direction source
  refine ⟨hd.low, hd.high, hd.fault_isSome, fun channel hc => ?_⟩
  have hchannel := hd.channel channel hc
  refine ⟨?_, hchannel.latency, hchannel.jitter, hchannel.bucket_isSome, fun b hb => ?_⟩
  · rw [hchannel.delay]
    split_ifs with hdelay
    · simp [hdelay]
    · simp [hdelay]
  · obtain ⟨-, hrate, hburst, -⟩ := hchannel.bucket b hb
    exact ⟨hrate, hburst⟩

end Follows

end NetFault
