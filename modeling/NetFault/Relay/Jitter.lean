import NetFault.Relay.Channels
import Mathlib.Algebra.Order.BigOperators.Group.List

/-!
# Jitter is reproducible

The random state of a channel is touched in one place, `stamp_ingress`, once for each successful
receive of its own direction.  So the delays a direction draws are a stream that starts from its
seed, and a run only decides how much of the stream is used: `plannedDelays` is that stream, and
`Session.Drawn` says where a session stands in it.
-/

namespace NetFault

namespace Trace

/-- The length of the block one event delivered from `source`. -/
def blocksIn (source : Side) : TraceEvent → List ℕ
  | .receive side _ _ (.transferred bytes) _ => if side = source then [bytes.length] else []
  | _ => []

/-- The length of the block one event stamped, and the delay drawn for it. -/
def drawsIn (source : Side) : TraceEvent → List (ℕ × ℤ)
  | .stamped side bytes delay _ => if side = source then [(bytes, delay)] else []
  | _ => []

/-- The successful receives from `source`, by the length of what they brought. -/
def blocks (source : Side) (trace : Trace) : List ℕ := trace.flatMap (blocksIn source)

/-- The blocks stamped for `source`, each with its delay. -/
def draws (source : Side) (trace : Trace) : List (ℕ × ℤ) := trace.flatMap (drawsIn source)

variable {source : Side}

@[simp] lemma blocks_append (a b : Trace) :
    blocks source (a ++ b) = blocks source a ++ blocks source b := List.flatMap_append

@[simp] lemma draws_append (a b : Trace) :
    draws source (a ++ b) = draws source a ++ draws source b := List.flatMap_append

@[simp] lemma blocks_cons (e : TraceEvent) (trace : Trace) :
    blocks source (e :: trace) = blocksIn source e ++ blocks source trace := rfl

@[simp] lemma draws_cons (e : TraceEvent) (trace : Trace) :
    draws source (e :: trace) = drawsIn source e ++ draws source trace := rfl

lemma blocks_notes {notes : Trace} (h : ∀ e ∈ notes, e.isNote = true ∨ e.isQuiet = true) :
    blocks source notes = [] := by
  refine List.flatMap_eq_nil_iff.mpr fun e he => ?_
  have hkind := h e he
  rcases e with ⟨_, _, _, _ | _ | _ | _, _⟩ | _ | _ | _ | _ | _ <;>
    simp_all [TraceEvent.isNote, TraceEvent.isQuiet, blocksIn]

lemma draws_quiet {added : Trace} (h : ∀ e ∈ added, e.isQuiet = true) :
    draws source added = [] := by
  refine List.flatMap_eq_nil_iff.mpr fun e he => ?_
  have hquiet := h e he
  rcases e with _ | _ | _ | _ | _ | _ <;> simp_all [TraceEvent.isQuiet, drawsIn]

end Trace

lemma Observed.draws {side source : Side} {state : ConnectionState}
    {t t' : BackpressureTracker} {queue : ByteQueue} {now : ℤ} {notes : Trace}
    (h : Observed side state t queue now t' notes) : Trace.draws source notes = [] := by
  obtain ⟨transition, -, rfl⟩ := h
  cases transition <;> rfl

/-! ## The stream of delays -/

/-- The delay `stamp_ingress` draws, and the advanced generator. -/
def drawDelay (latency jitter : ℤ) (rng : SplitMix64) : ℤ × SplitMix64 :=
  let (sample, rng) := sampleJitter rng jitter
  (if latency + sample < 0 then 0 else latency + sample, rng)

/-- The first delays drawn from a generator, and where it stands afterwards. -/
def drawDelays (latency jitter : ℤ) (rng : SplitMix64) : ℕ → List ℤ × SplitMix64
  | 0 => ([], rng)
  | count + 1 =>
      let (delays, rng) := drawDelays latency jitter rng count
      let (delay, rng) := drawDelay latency jitter rng
      (delays ++ [delay], rng)

/-- The generator of the direction from `source`. -/
def directionRng (masterSeed connectionId : UInt64) (source : Side) : SplitMix64 :=
  ⟨deriveDirectionSeed (deriveConnectionSeed masterSeed connectionId) source.directionIndex⟩

/-- The first `count` delays of a direction, from its latency and jitter in milliseconds. -/
def plannedDelays (masterSeed connectionId : UInt64) (source : Side) (latency jitter : ℤ)
    (count : ℕ) : List ℤ :=
  (drawDelays (i64 (latency * 1000000)) (i64 (jitter * 1000000))
    (directionRng masterSeed connectionId source) count).1

section Draws

variable {latency jitter : ℤ} {rng : SplitMix64}

@[simp] lemma length_drawDelays (count : ℕ) :
    (drawDelays latency jitter rng count).1.length = count := by
  induction count with
  | zero => rfl
  | succ count ih => simp [drawDelays, ih]

/-- A longer draw starts with a shorter one. -/
lemma drawDelays_getElem? {count more k : ℕ} (hk : k < count) (hle : count ≤ more) :
    (drawDelays latency jitter rng more).1[k]? = (drawDelays latency jitter rng count).1[k]? := by
  induction more, hle using Nat.le_induction with
  | base => rfl
  | succ more hle ih =>
      rw [← ih]
      simp only [drawDelays]
      rw [List.getElem?_append_left (by rw [length_drawDelays]; omega)]

/-- A drawn delay is never negative. -/
lemma drawDelays_nonneg (count : ℕ) : ∀ delay ∈ (drawDelays latency jitter rng count).1,
    0 ≤ delay := by
  induction count with
  | zero => simp [drawDelays]
  | succ count ih =>
      intro delay hdelay
      simp only [drawDelays, List.mem_append, List.mem_singleton] at hdelay
      obtain hmem | rfl := hdelay
      · exact ih delay hmem
      · simp only [drawDelay]
        split_ifs with hneg
        · exact le_rfl
        · exact not_lt.mp hneg

lemma plannedDelays_getElem? {masterSeed connectionId : UInt64} {source : Side} {count more k : ℕ}
    (hk : k < count) (hle : count ≤ more) :
    (plannedDelays masterSeed connectionId source latency jitter more)[k]? =
      (plannedDelays masterSeed connectionId source latency jitter count)[k]? :=
  drawDelays_getElem? hk hle

end Draws

/-- Stamping a block draws one delay and accounts for it. -/
lemma stampFault_draw {fault : Option FaultChannel} {channel : FaultChannel} {line : DelayLine}
    (source : Side) (count : ℕ) (now : ℤ) (hc : fault = some channel)
    (hl : channel.delay = some line) :
    ∃ channel', (stampFault source fault count now).1 = some channel' ∧
      channel'.rng = (drawDelay channel.latency channel.jitter channel.rng).2 ∧
      channel'.delayedSegments = channel.delayedSegments + 1 ∧
      channel'.delayBudget = i64 (channel.delayBudget +
        (drawDelay channel.latency channel.jitter channel.rng).1) ∧
      Trace.draws source (stampFault source fault count now).2 =
        [(count, (drawDelay channel.latency channel.jitter channel.rng).1)] := by
  subst hc
  simp only [stampFault, hl]
  exact ⟨_, rfl, rfl, rfl, rfl, by simp [Trace.draws, Trace.drawsIn, drawDelay]⟩

lemma stampFault_draws_of_ne {side source : Side} (fault : Option FaultChannel) (count : ℕ)
    (now : ℤ) (hne : side ≠ source) :
    Trace.draws source (stampFault side fault count now).2 = [] := by
  refine List.flatMap_eq_nil_iff.mpr fun e he => ?_
  obtain ⟨delay, eligible, rfl⟩ := eq_stamped_of_mem he
  exact if_neg hne

/-! ## Where a session stands in the stream -/

/-- The channel has drawn the delays `delays`, starting from the generator `rng`. -/
structure FaultChannel.Drew (latency jitter : ℤ) (rng : SplitMix64) (delays : List ℤ)
    (channel : FaultChannel) : Prop where
  drawn : drawDelays latency jitter rng delays.length = (delays, channel.rng)
  segments : channel.delayedSegments = UInt64.ofNat delays.length
  budget : channel.delayBudget = i64 delays.sum

/-- Every successful receive from `source` drew one delay, in order, and nothing else did. -/
structure Session.Drawn (latency jitter : ℤ) (rng : SplitMix64) (source : Side) (s : Session) :
    Prop where
  blocks : (s.trace.draws source).map Prod.fst = s.trace.blocks source
  channel : ∀ channel, (s.relay.directionFrom source).fault = some channel →
    channel.Drew latency jitter rng ((s.trace.draws source).map Prod.snd)

section Drawn

variable {io : SocketIo} {config : RelayConfig} {plan : FaultPlan} {latency jitter : ℤ}
  {rng : SplitMix64} {source : Side} {now : ℤ} {s s' : Session}

/-- One more draw. -/
lemma FaultChannel.Drew.next {delays : List ℤ} {channel channel' : FaultChannel}
    (h : channel.Drew latency jitter rng delays)
    (hrng : channel'.rng = (drawDelay latency jitter channel.rng).2)
    (hsegments : channel'.delayedSegments = channel.delayedSegments + 1)
    (hbudget : channel'.delayBudget =
      i64 (channel.delayBudget + (drawDelay latency jitter channel.rng).1)) :
    channel'.Drew latency jitter rng (delays ++ [(drawDelay latency jitter channel.rng).1]) := by
  refine ⟨?_, ?_, ?_⟩
  · rw [List.length_append, List.length_singleton, drawDelays, h.drawn, hrng]
  · rw [hsegments, h.segments, List.length_append, UInt64.ofNat_add]
    rfl
  · rw [hbudget, h.budget, List.sum_append, List.sum_singleton, i64, i64, Int.bmod_add_bmod, i64]

/-- A step that leaves the random state and the totals of the direction alone. -/
lemma Session.Drawn.of_same (h : s.Drawn latency jitter rng source) {added : Trace}
    (htrace : s'.trace = s.trace ++ added) (hblocks : Trace.blocks source added = [])
    (hdraws : Trace.draws source added = [])
    (hchannel : ∀ channel', (s'.relay.directionFrom source).fault = some channel' →
      ∃ channel, (s.relay.directionFrom source).fault = some channel ∧
        channel'.rng = channel.rng ∧ channel'.delayedSegments = channel.delayedSegments ∧
        channel'.delayBudget = channel.delayBudget) :
    s'.Drawn latency jitter rng source := by
  have heq : s'.trace.draws source = s.trace.draws source := by
    rw [htrace, Trace.draws_append, hdraws, List.append_nil]
  refine ⟨?_, fun channel' hc' => ?_⟩
  · rw [heq, htrace, Trace.blocks_append, hblocks, List.append_nil, h.blocks]
  · obtain ⟨channel, hc, hrng, hsegments, hbudget⟩ := hchannel channel' hc'
    have hdrew := h.channel channel hc
    rw [heq]
    exact ⟨hrng ▸ hdrew.drawn, hsegments.trans hdrew.segments, hbudget.trans hdrew.budget⟩

/-- A receive from `source` draws the next delay. -/
lemma Session.Drawn.ingested (h : s.Drawn latency jitter rng source) {span : ℕ}
    {hint : Bool} {bytes : List Byte} {d' : Direction} {notes : Trace} {channel : FaultChannel}
    {line : DelayLine} (hc : (s.relay.directionFrom source).fault = some channel)
    (hl : channel.delay = some line) (hlatency : channel.latency = latency)
    (hjitter : channel.jitter = jitter)
    (hingest : Ingest source s.relay.state (s.relay.directionFrom source) bytes now d' notes) :
    (s.ingested source span hint bytes now d' notes).Drawn latency jitter rng source := by
  subst hlatency hjitter
  obtain ⟨channel', hstamp, hrng, hsegments, hbudget, hdraw⟩ :=
    stampFault_draw source bytes.length now hc hl
  obtain ⟨tail, hobs, hnotes⟩ := hingest.observed
  have hdraws : (s.ingested source span hint bytes now d' notes).trace.draws source =
      s.trace.draws source ++
        [(bytes.length, (drawDelay channel.latency channel.jitter channel.rng).1)] := by
    simp only [Session.ingested, Trace.draws_append, Trace.draws_cons, hnotes, hobs.draws, hdraw,
      Trace.drawsIn, List.nil_append, List.append_nil]
  have hblocks : (s.ingested source span hint bytes now d' notes).trace.blocks source =
      s.trace.blocks source ++ [bytes.length] := by
    simp [Session.ingested, Trace.blocksIn,
      Trace.blocks_notes fun e he => .inl (hingest.isNote e he)]
  refine ⟨?_, fun channel'' hc'' => ?_⟩
  · rw [hdraws, hblocks, List.map_append, h.blocks]
    rfl
  · rw [Session.ingested_directionFrom_self, hingest.fault, hstamp, Option.some.injEq] at hc''
    subst hc''
    rw [hdraws, List.map_append]
    exact (h.channel channel hc).next hrng hsegments hbudget

/-- A receive on the other side draws nothing here. -/
lemma Session.Drawn.ingested_other (h : s.Drawn latency jitter rng source) {side : Side}
    (hne : side ≠ source) {span : ℕ} {hint : Bool} {bytes : List Byte} {d' : Direction}
    {notes : Trace}
    (hingest : Ingest side s.relay.state (s.relay.directionFrom side) bytes now d' notes) :
    (s.ingested side span hint bytes now d' notes).Drawn latency jitter rng source := by
  obtain ⟨tail, hobs, hnotes⟩ := hingest.observed
  refine h.of_same rfl ?_ ?_ fun channel hc => ?_
  · simp [Trace.blocksIn, hne, Trace.blocks_notes fun e he => .inl (hingest.isNote e he)]
  · simp [Trace.drawsIn, hnotes, hobs.draws, stampFault_draws_of_ne _ _ _ hne]
  · rw [Session.ingested_directionFrom_of_ne _ _ _ _ _ _ _ (Ne.symm hne)] at hc
    exact ⟨channel, hc, rfl, rfl, rfl⟩

/-- A send draws nothing. -/
lemma Session.Drawn.egressed (h : s.Drawn latency jitter rng source) {destination : Side}
    {budget count : ℕ} {d' : Direction} {notes : Trace}
    (hegress : Egress destination.peer s.relay.state (s.relay.directionFrom destination.peer)
      count now d' notes) :
    (s.egressed destination budget count now d' notes).Drawn latency jitter rng source := by
  refine h.of_same rfl ?_ ?_ fun channel hc => ?_
  · simp [Trace.blocksIn, Trace.blocks_notes fun e he => .inl (hegress.observed.isNote e he)]
  · simp [Trace.drawsIn, hegress.observed.draws]
  · by_cases heq : destination = source.peer
    · subst heq
      rw [Side.peer_peer] at hegress
      simp only [Session.egressed, Relay.setDirection, Side.peer_peer, Function.update_self] at hc
      obtain ⟨channel₀, hc₀, hsame, -⟩ := consumeFault_some (hc ▸ hegress.fault)
      refine ⟨channel₀, hc₀, ?_, ?_, ?_⟩ <;> rw [hsame]
    · rw [Session.egressed_directionFrom_of_ne _ _ _ _ _ _ (Side.ne_peer_comm.mp heq)] at hc
      exact ⟨channel, hc, rfl, rfl, rfl⟩

/-- Every move advances the stream by what it received from `source`. -/
lemma Session.Drawn.move (h : s.Drawn (i64 (plan.latency * 1000000)) (i64 (plan.jitter * 1000000))
      rng source) (hfollows : s.Follows config plan)
    (hdelays : plan.latency > 0 ∨ plan.jitter > 0) (happlies : plan.appliesTo source = true)
    (hmove : Move io now s s') :
    s'.Drawn (i64 (plan.latency * 1000000)) (i64 (plan.jitter * 1000000)) rng source := by
  rcases hmove.transfer_or_quiet with ⟨side, span, hint, bytes, d', notes, -, -, hingest, rfl⟩ |
    ⟨destination, budget, count, d', notes, -, -, hegress, rfl⟩ |
    ⟨destination, budget, result, -, -, rfl⟩ | hquiet
  · by_cases heq : side = source
    · subst heq
      obtain ⟨channel, line, hc, hl⟩ := hfollows.exists_line hdelays happlies
      have hparams := (hfollows side).channel channel hc
      exact h.ingested hc hl hparams.latency hparams.jitter hingest
    · exact h.ingested_other heq hingest
  · exact h.egressed hegress
  · refine h.of_same (Session.afterSend_trace ..) rfl rfl fun channel hc => ?_
    rw [Session.afterSend_directionFrom] at hc
    exact ⟨channel, hc, rfl, rfl, rfl⟩
  · obtain ⟨added, htrace, hadded⟩ := hquiet.trace
    refine h.of_same htrace (Trace.blocks_notes fun e he => .inr (hadded e he))
      (Trace.draws_quiet hadded) fun channel hc => ?_
    rcases hquiet.direction source with heq | heq
    · exact ⟨channel, heq ▸ hc, rfl, rfl, rfl⟩
    · rw [heq] at hc
      obtain ⟨channel₀, hc₀, rfl⟩ := Option.map_eq_some_iff.mp hc
      exact ⟨channel₀, hc₀, rfl, rfl, rfl⟩

end Drawn

/-! ## Construction and runs -/

section Runs

variable {config : RelayConfig} {plan : FaultPlan} {connectionId : UInt64} {source : Side}
  {start : ℤ}

/-- A new channel starts at its seed. -/
lemma FaultChannel.create_drew {connectionSeed directionIndex : UInt64} {channel : FaultChannel}
    (hok : FaultChannel.create plan connectionSeed directionIndex start = .ok channel)
    (latency jitter : ℤ) :
    channel.Drew latency jitter ⟨deriveDirectionSeed connectionSeed directionIndex⟩ [] := by
  rw [FaultChannel.create] at hok
  by_cases hrate : plan.rateBytesPerSecond > 0
  · obtain ⟨b, hb, -⟩ :=
      TokenBucket.create_spec start hrate (plan.effectiveBurstBytes_pos hrate)
    simp only [if_pos hrate, hb, Except.map, bind, Except.bind] at hok
    cases hok
    exact ⟨rfl, rfl, rfl⟩
  · simp only [if_neg hrate, bind, Except.bind] at hok
    cases hok
    exact ⟨rfl, rfl, rfl⟩

/-- The direction from `source` has used the first delays of its stream, one for each successful
receive in order, and its totals are those of the delays used. -/
structure Session.OnStream (plan : FaultPlan) (connectionId : UInt64) (source : Side)
    (s : Session) : Prop where
  blocks : (s.trace.draws source).map Prod.fst = s.trace.blocks source
  delays : (s.trace.draws source).map Prod.snd =
    plannedDelays plan.masterSeed connectionId source plan.latency plan.jitter
      (s.trace.blocks source).length
  totals : ∃ channel, (s.relay.directionFrom source).fault = some channel ∧
    channel.delayedSegments = UInt64.ofNat (s.trace.blocks source).length ∧
    channel.delayBudget = i64 (plannedDelays plan.masterSeed connectionId source plan.latency
      plan.jitter (s.trace.blocks source).length).sum ∧
    ((plannedDelays plan.masterSeed connectionId source plan.latency plan.jitter
        (s.trace.blocks source).length).sum < 2 ^ 63 →
      channel.delayBudget = (plannedDelays plan.masterSeed connectionId source plan.latency
        plan.jitter (s.trace.blocks source).length).sum)

lemma Session.Drawn.onStream {s : Session}
    (h : s.Drawn (i64 (plan.latency * 1000000)) (i64 (plan.jitter * 1000000))
      (directionRng plan.masterSeed connectionId source) source)
    (hfollows : s.Follows config plan) (hdelays : plan.latency > 0 ∨ plan.jitter > 0)
    (happlies : plan.appliesTo source = true) : s.OnStream plan connectionId source := by
  obtain ⟨channel, line, hc, -⟩ := hfollows.exists_line hdelays happlies
  have hdrew := h.channel channel hc
  have hlength : ((s.trace.draws source).map Prod.snd).length = (s.trace.blocks source).length := by
    rw [← h.blocks, List.length_map, List.length_map]
  have hstream : plannedDelays plan.masterSeed connectionId source plan.latency plan.jitter
      (s.trace.blocks source).length = (s.trace.draws source).map Prod.snd := by
    rw [plannedDelays, ← hlength, hdrew.drawn]
  have hnonneg : 0 ≤ (plannedDelays plan.masterSeed connectionId source plan.latency plan.jitter
      (s.trace.blocks source).length).sum := List.sum_nonneg (drawDelays_nonneg _)
  refine ⟨h.blocks, hstream.symm, channel, hc, hlength ▸ hdrew.segments,
    hstream.symm ▸ hdrew.budget, fun hsmall => ?_⟩
  rw [hdrew.budget, ← hstream, i64_of_abs_lt (by omega) hsmall]

lemma runRelay_onStream (io : SocketIo) (hconfig : config.Valid)
    (hdelays : plan.latency > 0 ∨ plan.jitter > 0) (happlies : plan.appliesTo source = true)
    (connectionId : UInt64) (upstreamConnecting : Bool) (start : ℤ) (calls : List Call) :
    ∃ results s, runRelay io config plan connectionId upstreamConnecting start calls =
      .ok (results, s) ∧ s.OnStream plan connectionId source := by
  obtain ⟨results, s, hrun, -, hfollows, hdrawn⟩ := runRelay_created io hconfig plan connectionId
    upstreamConnecting start
    (P := fun s => s.Follows config plan ∧
      s.Drawn (i64 (plan.latency * 1000000)) (i64 (plan.jitter * 1000000))
        (directionRng plan.masterSeed connectionId source) source)
    (fun r hok hr => ⟨hr.follows, rfl, fun channel hc =>
      FaultChannel.create_drew (Relay.create_channel hconfig hok hc) _ _⟩)
    (fun now m m' hinv h hmove =>
      ⟨h.1.move hmove, h.2.move h.1 hdelays happlies hmove⟩) calls
  exact ⟨results, s, hrun, hdrawn.onStream hfollows hdelays happlies⟩

end Runs

/-- **Jitter is reproducible.**  Take two runs of relays built with one plan and one connection
id; the calls, times, buffer sizes and the answers of the sockets may all differ.  The `k`-th
successful receive of a delayed direction is given the same delay in both.  In each run the delays
are the beginning of one stream, computed from the master seed, the connection id, the direction,
latency and jitter, as long as there were successful receives; `delayed_segments` is their number
and `delay_budget` their sum, as 64-bit counters. -/
theorem jitter_reproducible (plan : FaultPlan) (connectionId : UInt64) (source : Side)
    (hdelays : plan.latency > 0 ∨ plan.jitter > 0) (happlies : plan.appliesTo source = true)
    (io₁ io₂ : SocketIo) (config₁ config₂ : RelayConfig) (hconfig₁ : config₁.Valid)
    (hconfig₂ : config₂.Valid) (upstreamConnecting₁ upstreamConnecting₂ : Bool)
    (start₁ start₂ : ℤ) (calls₁ calls₂ : List Call) :
    ∃ results₁ s₁ results₂ s₂,
      runRelay io₁ config₁ plan connectionId upstreamConnecting₁ start₁ calls₁ =
        .ok (results₁, s₁) ∧
      runRelay io₂ config₂ plan connectionId upstreamConnecting₂ start₂ calls₂ =
        .ok (results₂, s₂) ∧
      s₁.OnStream plan connectionId source ∧ s₂.OnStream plan connectionId source ∧
      ∀ k, k < (s₁.trace.blocks source).length → k < (s₂.trace.blocks source).length →
        ∃ delay, (s₁.trace.draws source)[k]?.map Prod.snd = some delay ∧
          (s₂.trace.draws source)[k]?.map Prod.snd = some delay := by
  obtain ⟨results₁, s₁, hrun₁, hs₁⟩ := runRelay_onStream io₁ hconfig₁ hdelays happlies connectionId
    upstreamConnecting₁ start₁ calls₁
  obtain ⟨results₂, s₂, hrun₂, hs₂⟩ := runRelay_onStream io₂ hconfig₂ hdelays happlies connectionId
    upstreamConnecting₂ start₂ calls₂
  refine ⟨results₁, s₁, results₂, s₂, hrun₁, hrun₂, hs₁, hs₂, fun k hk₁ hk₂ => ?_⟩
  have hcommon : ∀ s : Session, s.OnStream plan connectionId source →
      k < (s.trace.blocks source).length →
      (s.trace.draws source)[k]?.map Prod.snd =
        (plannedDelays plan.masterSeed connectionId source plan.latency plan.jitter
          (k + 1))[k]? := by
    intro s hs hk
    rw [← List.getElem?_map, hs.delays]
    exact plannedDelays_getElem? (Nat.lt_succ_self k) hk
  have hsome : k < (plannedDelays plan.masterSeed connectionId source plan.latency plan.jitter
      (k + 1)).length := by
    rw [plannedDelays, length_drawDelays]
    exact Nat.lt_succ_self k
  exact ⟨_, (hcommon s₁ hs₁ hk₁).trans (List.getElem?_eq_getElem hsome),
    (hcommon s₂ hs₂ hk₂).trans (List.getElem?_eq_getElem hsome)⟩

/-- Different traffic, read at different times into different buffers: the first blocks are delayed
alike. -/
theorem jitter_reproducible_scripted :
    ∃ results₁ s₁ results₂ s₂ delay,
      runRelay (.script fun _ => [1, 2, 3]) ⟨16, 4, 8⟩
        { masterSeed := 9, latency := 5, jitter := 2 } 7 false 0
        [.handleReadable .client false 1, .handleReadable .upstream false 2] =
        .ok (results₁, s₁) ∧
      runRelay (.script fun _ => [4]) ⟨64, 16, 32⟩ { masterSeed := 9, latency := 5, jitter := 2 } 7
        true 3 [.handleReadable .client true 4, .nextWake .upstream 9] = .ok (results₂, s₂) ∧
      s₁.trace.blocks .client = [3] ∧ s₂.trace.blocks .client = [1] ∧
      (s₁.trace.draws .client)[0]?.map Prod.snd = some delay ∧
      (s₂.trace.draws .client)[0]?.map Prod.snd = some delay := by
  have hfirst : returns (runRelay (.script fun _ => [1, 2, 3]) ⟨16, 4, 8⟩
      { masterSeed := 9, latency := 5, jitter := 2 } 7 false 0
      [.handleReadable .client false 1, .handleReadable .upstream false 2])
      (fun run => decide (run.2.trace.blocks .client = [3])) = true := by
    decide +kernel
  have hsecond : returns (runRelay (.script fun _ => [4]) ⟨64, 16, 32⟩
      { masterSeed := 9, latency := 5, jitter := 2 } 7 true 3
      [.handleReadable .client true 4, .nextWake .upstream 9])
      (fun run => decide (run.2.trace.blocks .client = [1])) = true := by
    decide +kernel
  obtain ⟨results₁, s₁, results₂, s₂, hrun₁, hrun₂, -, -, hcommon⟩ := jitter_reproducible
    { masterSeed := 9, latency := 5, jitter := 2 } 7 .client (by decide) (by decide)
    (.script fun _ => [1, 2, 3]) (.script fun _ => [4]) ⟨16, 4, 8⟩ ⟨64, 16, 32⟩ (by decide)
    (by decide) false true 0 3 [.handleReadable .client false 1, .handleReadable .upstream false 2]
    [.handleReadable .client true 4, .nextWake .upstream 9]
  have hblocks₁ := of_returns hfirst hrun₁
  have hblocks₂ := of_returns hsecond hrun₂
  rw [decide_eq_true_eq] at hblocks₁ hblocks₂
  obtain ⟨delay, hdelay₁, hdelay₂⟩ := hcommon 0 (by simp [hblocks₁]) (by simp [hblocks₂])
  exact ⟨results₁, s₁, results₂, s₂, delay, hrun₁, hrun₂, hblocks₁, hblocks₂, hdelay₁, hdelay₂⟩

end NetFault
