import NetFault.Lib.Meter
import NetFault.Relay.Channels
import NetFault.Relay.Integrity

/-!
# The rate limit holds over every window

The bucket of a direction is a `Meter`: its credit is `TokenBucket.level`, in billionths of a byte,
the ceiling is a full bucket, and every accepted byte spends a billion.  A send is made only with a
bucket refilled up to the time of the send, so what is spent at a time is spent at the reading of
that time, and the window bound of the meter becomes the bound on accepted bytes.
-/

namespace NetFault

namespace Trace

/-- The bytes of one event that `destination` accepted at a time in the window. -/
def acceptedIn (destination : Side) (window : ℤ → Bool) : TraceEvent → ℕ
  | .send side _ (.transferred count) now => if side = destination ∧ window now then count else 0
  | _ => 0

/-- The bytes that `destination` accepted at times in the window. -/
def accepted (destination : Side) (window : ℤ → Bool) (trace : Trace) : ℕ :=
  (trace.map (acceptedIn destination window)).sum

/-- The bytes that `destination` accepted from `opening` to `closing`, both included. -/
def acceptedDuring (destination : Side) (opening closing : ℤ) (trace : Trace) : ℕ :=
  trace.accepted destination fun now => decide (opening ≤ now ∧ now ≤ closing)

/-- The bytes that `destination` accepted from `opening` on. -/
def acceptedSince (destination : Side) (opening : ℤ) (trace : Trace) : ℕ :=
  trace.accepted destination fun now => decide (opening ≤ now)

variable {destination : Side} {window window' : ℤ → Bool}

@[simp] lemma accepted_nil : accepted destination window [] = 0 := rfl

@[simp] lemma accepted_append (a b : Trace) : accepted destination window (a ++ b) =
    accepted destination window a + accepted destination window b := by
  simp [accepted]

@[simp] lemma accepted_cons (e : TraceEvent) (trace : Trace) :
    accepted destination window (e :: trace) =
      acceptedIn destination window e + accepted destination window trace := by
  simp [accepted]

lemma accepted_mono (h : ∀ now, window now = true → window' now = true) :
    ∀ trace : Trace, accepted destination window trace ≤ accepted destination window' trace
  | [] => le_rfl
  | e :: trace => by
      rw [accepted_cons, accepted_cons]
      refine Nat.add_le_add ?_ (accepted_mono h trace)
      rcases e with _ | ⟨side, _, _ | _ | _ | _, now⟩ | _ | _ | _ | _
      all_goals simp only [acceptedIn, le_refl]
      by_cases hw : side = destination ∧ window now = true
      · rw [if_pos hw, if_pos ⟨hw.1, h now hw.2⟩]
      · rw [if_neg hw]
        exact Nat.zero_le _

lemma acceptedDuring_le_acceptedSince (opening closing : ℤ) (trace : Trace) :
    trace.acceptedDuring destination opening closing ≤ trace.acceptedSince destination opening :=
  accepted_mono (by simp +contextual) trace

/-- Events that are no sends spend nothing. -/
lemma accepted_eq_zero {added : Trace} (h : ∀ e ∈ added, e.isNote = true ∨ e.isQuiet = true) :
    accepted destination window added = 0 := by
  refine List.sum_eq_zero fun n hn => ?_
  obtain ⟨e, he, rfl⟩ := List.mem_map.mp hn
  have hkind := h e he
  rcases e with _ | _ | _ | _ | _ | _ <;>
    simp_all [acceptedIn, TraceEvent.isNote, TraceEvent.isQuiet]

end Trace

/-! ## The bucket as a meter -/

/-- The bucket of a direction, if it has one, was last read no later than `last`, and its credit
accounts for the bytes `spent` since `opening`. -/
def Direction.Metered (opening last : ℤ) (spent : ℕ) (d : Direction) : Prop :=
  ∀ channel b, d.fault = some channel → channel.bucket = some b → b.lastRefill ≤ last ∧
    Meter.Accounts (b.burst * nsPerSecond) b.rate opening
      ⟨b.lastRefill, b.level, spent * nsPerSecond⟩

/-- The bounds of a plan under which the fill time of a bucket fits its type. -/
def FaultPlan.RateBounded (plan : FaultPlan) : Prop :=
  1 ≤ plan.rateBytesPerSecond ∧ plan.rateBytesPerSecond ≤ 1000000000 ∧
    plan.effectiveBurstBytes ≤ 18000000000

section Metered

variable {config : RelayConfig} {plan : FaultPlan} {source : Side} {d d' : Direction}
  {opening last now : ℤ} {spent : ℕ}

lemma Direction.Metered.later (h : d.Metered opening last spent) (hle : last ≤ now) :
    d.Metered opening now spent := fun channel b hc hb =>
  ⟨(h channel b hc hb).1.trans hle, (h channel b hc hb).2⟩

/-- A refill is a reading of the meter. -/
lemma Direction.Metered.refill (h : d.Metered opening last spent) (hle : last ≤ now)
    (hinv : d.Inv) (hf : d.Follows config plan source) (hplan : plan.RateBounded) :
    (d.refill now).Metered opening now spent := by
  intro channel b hc hb
  obtain ⟨c, hc', rfl⟩ := Option.map_eq_some_iff.mp hc
  obtain ⟨b', hb', rfl⟩ := Option.map_eq_some_iff.mp hb
  obtain ⟨hlast, hacc⟩ := h c b' hc' hb'
  have hs := hinv.bucket c b' hc' hb'
  obtain ⟨hrate, hburst⟩ := (hf.channel c hc').bucket b' hb'
  have hincome := TokenBucket.level_refill_le hs (hrate ▸ hplan.2.1) (hburst ▸ hplan.2.2) now
  rw [TokenBucket.refill_lastRefill, TokenBucket.refill_burst, TokenBucket.refill_rate]
  refine ⟨max_le (hlast.trans hle) le_rfl, hacc.income (Int.natCast_nonneg _) (le_max_left _ _) ?_
    hincome⟩
  have := (hs.refill now).level_le
  rw [TokenBucket.refill_burst] at this
  exact_mod_cast this

lemma Direction.Metered.ingest (h : d.Metered opening last spent) {state : ConnectionState}
    {bytes : List Byte} {notes : Trace} (hingest : Ingest source state d bytes now d' notes) :
    d'.Metered opening last spent := by
  intro channel' b hc hb
  obtain ⟨channel, hc', heq⟩ := stampFault_bucket (hingest.fault.symm.trans hc)
  exact h channel b hc' (heq ▸ hb)

/-- A send spends what was accepted, at the reading of its own time. -/
lemma Direction.Metered.egress (h : d.Metered opening last spent) (hle : last ≤ now)
    {state : ConnectionState} {count : ℕ} {notes : Trace}
    (hegress : Egress source state d count now d' notes) (hinv : d.Inv)
    (hpaid : ∀ channel b, d.fault = some channel → channel.bucket = some b →
      count ≤ b.tokens ∧ now ≤ b.lastRefill) :
    d'.Metered opening now (spent + if opening ≤ now then count else 0) := by
  intro channel' b' hc hb
  obtain ⟨channel, hc', -, -, hbucket, -⟩ := consumeFault_some
    (hegress.fault.trans (congrArg _ hc))
  obtain ⟨b, hb', hok⟩ := hbucket b' hb
  obtain ⟨hlast, hacc⟩ := h channel b hc' hb'
  obtain ⟨htokens, hnow⟩ := hpaid channel b hc' hb'
  obtain ⟨b'', hok', -, hrate, hburst, hrefill, hlevel⟩ :=
    (hinv.bucket channel b hc' hb').consume htokens
  obtain rfl : b'' = b' := by simpa [hok] using hok'.symm
  have htime : b.lastRefill = now := le_antisymm (hlast.trans hle) hnow
  have hlevel' : (b''.level : ℤ) = b.level - count * nsPerSecond := by
    have : (b''.level : ℤ) + count * nsPerSecond = b.level := by exact_mod_cast hlevel
    linarith
  have hamount : (0 : ℤ) ≤ count * nsPerSecond :=
    mul_nonneg (Int.natCast_nonneg _) (Int.natCast_nonneg _)
  rw [hburst, hrate, hrefill, hlevel']
  refine ⟨htime.le, ?_⟩
  by_cases hopen : opening ≤ now
  · rw [if_pos hopen]
    have hspend := hacc.spend hamount (htime ▸ hopen)
    rwa [Nat.cast_add, add_mul]
  · rw [if_neg hopen, Nat.add_zero]
    exact hacc.spend_before hamount

end Metered

/-! ## The window bound -/

/-- The state of the meter of the direction from `source`, for the window from `opening` to
`closing`. -/
structure Session.RateLimited (config : RelayConfig) (plan : FaultPlan) (source : Side)
    (opening closing last : ℤ) (s : Session) : Prop where
  follows : s.Follows config plan
  metered : (s.relay.directionFrom source).Metered opening last
    (s.trace.acceptedSince source.peer opening)
  bound : (s.trace.acceptedDuring source.peer opening closing * nsPerSecond : ℤ) ≤
    plan.effectiveBurstBytes * nsPerSecond + plan.rateBytesPerSecond * (closing - opening)

section RateLimited

variable {io : SocketIo} {config : RelayConfig} {plan : FaultPlan} {source : Side}
  {opening closing past now : ℤ} {s s' : Session}

/-- A step that lets nothing out of the direction. -/
lemma Session.RateLimited.of_same (h : s.RateLimited config plan source opening closing past)
    (hfollows : s'.Follows config plan) {added : Trace} (htrace : s'.trace = s.trace ++ added)
    (hadded : ∀ window, Trace.accepted source.peer window added = 0)
    (hmetered : (s'.relay.directionFrom source).Metered opening now
      (s.trace.acceptedSince source.peer opening)) :
    s'.RateLimited config plan source opening closing now := by
  refine ⟨hfollows, ?_, ?_⟩
  · simpa only [Trace.acceptedSince, htrace, Trace.accepted_append, hadded, Nat.add_zero]
      using hmetered
  · simpa only [Trace.acceptedDuring, htrace, Trace.accepted_append, hadded, Nat.add_zero]
      using h.bound

/-- A send inside the window is covered by the meter, a later one is outside of it. -/
lemma Session.RateLimited.egressed (h : s.RateLimited config plan source opening closing past)
    (hinv : s.Inv) (hplan : plan.RateBounded) (happlies : plan.appliesTo source = true)
    (hwin : opening ≤ closing) (hle : past ≤ now) {budget count : ℕ} {d' : Direction}
    {notes : Trace} (hwritable : s.Writable source.peer budget now) (hcount : count ≤ budget)
    (hegress : Egress source s.relay.state (s.relay.directionFrom source) count now d' notes)
    (hfollows : (s.egressed source.peer budget count now d' notes).Follows config plan) :
    (s.egressed source.peer budget count now d' notes).RateLimited config plan source opening
      closing now := by
  have hpaid := hwritable.paid
  rw [Side.peer_peer] at hpaid
  have hmetered := h.metered.egress hle hegress (hinv source)
    (fun channel b hc hb => ⟨hcount.trans (hpaid channel b hc hb).1, (hpaid channel b hc hb).2⟩)
  have hnotes : ∀ window, Trace.accepted source.peer window notes = 0 := fun window =>
    Trace.accepted_eq_zero fun e he => .inl (hegress.observed.isNote e he)
  have hdir := s.egressed_directionFrom_self source.peer budget count now d' notes
  rw [Side.peer_peer] at hdir
  have hsince : (s.egressed source.peer budget count now d' notes).trace.acceptedSince source.peer
      opening = s.trace.acceptedSince source.peer opening + if opening ≤ now then count else 0 := by
    simp [Session.egressed, Trace.acceptedSince, Trace.acceptedIn, hnotes]
  have hduring : (s.egressed source.peer budget count now d' notes).trace.acceptedDuring source.peer
      opening closing = s.trace.acceptedDuring source.peer opening closing +
        if opening ≤ now ∧ now ≤ closing then count else 0 := by
    simp [Session.egressed, Trace.acceptedDuring, Trace.acceptedIn, hnotes]
  refine ⟨hfollows, by rw [hdir, hsince]; exact hmetered, ?_⟩
  by_cases hinside : opening ≤ now ∧ now ≤ closing
  swap
  · rw [hduring, if_neg hinside, Nat.add_zero]
    exact h.bound
  -- inside the window everything accepted since its opening is covered
  have hf := hfollows source
  rw [hdir] at hf
  obtain ⟨channel, hc⟩ := Option.isSome_iff_exists.mp (hf.fault_isSome.trans (by
    simp only [FaultPlan.paced, happlies, Bool.and_true, Bool.or_eq_true, decide_eq_true_eq]
    exact .inr hplan.1))
  obtain ⟨b, hb⟩ := Option.isSome_iff_exists.mp ((hf.channel channel hc).bucket_isSome.trans
    (decide_eq_true hplan.1))
  obtain ⟨hrate, hburst⟩ := (hf.channel channel hc).bucket b hb
  obtain ⟨hlast, hacc⟩ := hmetered channel b hc hb
  have hspent := hacc.spent_le closing
    (mul_nonneg (Int.natCast_nonneg _) (Int.natCast_nonneg _)) (Int.natCast_nonneg _)
    (Int.natCast_nonneg _) hwin (hlast.trans hinside.2)
  dsimp only at hspent
  rw [hrate, hburst, ← hsince] at hspent
  have hmono : ((s.egressed source.peer budget count now d' notes).trace.acceptedDuring source.peer
      opening closing : ℤ) ≤ (s.egressed source.peer budget count now d' notes).trace.acceptedSince
      source.peer opening := by
    exact_mod_cast Trace.acceptedDuring_le_acceptedSince ..
  exact (mul_le_mul_of_nonneg_right hmono (Int.natCast_nonneg _)).trans hspent

/-- Every move keeps the bound of the window. -/
lemma Session.RateLimited.move (h : s.RateLimited config plan source opening closing past)
    (hinv : s.Inv) (hplan : plan.RateBounded) (happlies : plan.appliesTo source = true)
    (hwin : opening ≤ closing) (hle : past ≤ now) (hmove : Move io now s s') :
    s'.RateLimited config plan source opening closing now := by
  have hfollows := h.follows.move hmove
  rcases hmove.transfer_or_quiet with ⟨side, span, hint, bytes, d', notes, -, -, hingest, rfl⟩ |
    ⟨destination, budget, count, d', notes, hwritable, hio, hegress, rfl⟩ |
    ⟨destination, budget, result, -, hnothing, rfl⟩ | hquiet
  · refine h.of_same hfollows rfl (fun window => ?_) ?_
    · rw [Trace.accepted_cons, Trace.accepted_eq_zero fun e he => .inl (hingest.isNote e he)]
      rfl
    · by_cases heq : source = side
      · subst heq
        rw [Session.ingested_directionFrom_self]
        exact (h.metered.ingest hingest).later hle
      · rw [Session.ingested_directionFrom_of_ne _ _ _ _ _ _ _ heq]
        exact h.metered.later hle
  · by_cases heq : destination = source.peer
    · subst heq
      simp only [Side.peer_peer] at hegress
      exact h.egressed hinv hplan happlies hwin hle hwritable (hwritable.count_le hio).2 hegress
        hfollows
    · refine h.of_same hfollows rfl (fun window => ?_) ?_
      · rw [Trace.accepted_cons, Trace.accepted_eq_zero fun e he =>
          .inl (hegress.observed.isNote e he)]
        simp [Trace.acceptedIn, heq]
      · rw [Session.egressed_directionFrom_of_ne _ _ _ _ _ _ (Side.ne_peer_comm.mp heq)]
        exact h.metered.later hle
  · refine h.of_same hfollows (Session.afterSend_trace ..) (fun window => ?_) ?_
    · rcases result with count | _ | _ | _
      · exact absurd rfl (hnothing count)
      all_goals rfl
    · rw [Session.afterSend_directionFrom]
      exact h.metered.later hle
  · obtain ⟨added, htrace, hadded⟩ := hquiet.trace
    refine h.of_same hfollows htrace (fun window =>
      Trace.accepted_eq_zero fun e he => .inr (hadded e he)) ?_
    rcases hquiet.direction source with heq | heq
    · rw [heq]
      exact h.metered.later hle
    · rw [heq]
      exact h.metered.refill hle (hinv source) (h.follows source) hplan

lemma Relay.Fresh.rateLimited {upstreamConnecting : Bool} {start : ℤ} {r : Relay}
    (h : r.Fresh config plan upstreamConnecting start) (source : Side) (hwin : opening ≤ closing) :
    Session.RateLimited config plan source opening closing start { relay := r } := by
  refine ⟨h.follows, ?_, ?_⟩
  · intro channel b hc hb
    obtain ⟨hs, -, -, hstart⟩ := ((h.direction source).channel channel hc).bucket b hb
    refine ⟨hstart.le, ?_⟩
    have hlevel : (b.level : ℤ) ≤ b.burst * nsPerSecond := by exact_mod_cast hs.level_le
    have hrate : (0 : ℤ) ≤ b.rate := Int.natCast_nonneg _
    simpa [Trace.acceptedSince] using Meter.accounts_start opening b.lastRefill hrate hlevel
  · have hwindow : (0 : ℤ) ≤ plan.rateBytesPerSecond * (closing - opening) :=
      mul_nonneg (Int.natCast_nonneg _) (sub_nonneg.mpr hwin)
    have hburst : (0 : ℤ) ≤ plan.effectiveBurstBytes * nsPerSecond :=
      mul_nonneg (Int.natCast_nonneg _) (Int.natCast_nonneg _)
    simp only [Trace.acceptedDuring, Trace.accepted_nil, Nat.cast_zero, zero_mul]
    exact add_nonneg hburst hwindow

end RateLimited

/-- **The rate limit holds over every window.**  At rate `R` and burst `B`, in a run at
nondecreasing times, no window from `opening` to `closing` sees more than
`B + ⌊R * (closing - opening) / 10 ^ 9⌋` bytes accepted, in each direction the plan applies to. -/
theorem relay_rate_limited (io : SocketIo) (config : RelayConfig) (hconfig : config.Valid)
    (plan : FaultPlan) (hrate : 1 ≤ plan.rateBytesPerSecond)
    (hrate' : plan.rateBytesPerSecond ≤ 1000000000)
    (hburst : plan.effectiveBurstBytes ≤ 18000000000) (connectionId : UInt64)
    (upstreamConnecting : Bool) (start : ℤ) (calls : List Call) (hclock : Clocked start calls)
    (source : Side) (happlies : plan.appliesTo source = true) (opening closing : ℤ)
    (hwin : opening ≤ closing) :
    ∃ results s, runRelay io config plan connectionId upstreamConnecting start calls =
        .ok (results, s) ∧
      (s.trace.acceptedDuring source.peer opening closing : ℤ) ≤
        plan.effectiveBurstBytes + plan.rateBytesPerSecond * (closing - opening) / 1000000000 := by
  obtain ⟨results, s, last, hrun, -, hlimited⟩ := runRelay_timed hconfig plan connectionId
    upstreamConnecting
    (P := fun last s => s.RateLimited config plan source opening closing last)
    (fun r hr => hr.rateLimited source hwin)
    (fun past now m m' hle hinv h hmove =>
      h.move hinv ⟨hrate, hrate', hburst⟩ happlies hwin hle hmove) hclock
  refine ⟨results, s, hrun, ?_⟩
  have hbound := hlimited.bound
  have hdiv : (s.trace.acceptedDuring source.peer opening closing : ℤ) - plan.effectiveBurstBytes ≤
      plan.rateBytesPerSecond * (closing - opening) / 1000000000 := by
    refine Int.le_ediv_of_mul_le (by norm_num) ?_
    rw [sub_mul]
    simp only [nsPerSecond] at hbound
    exact sub_le_iff_le_add'.mpr (by exact_mod_cast hbound)
  linarith

/-- Two bytes a second, over half a second: the burst and one byte more. -/
theorem relay_rate_limited_scripted :
    ∃ results s, runRelay (.script fun _ => [1, 2, 3]) {} { rateBytesPerSecond := 2 } 7 false 0
        [.handleReadable .client false 1, .flush .upstream 2, .flush .upstream 500000002] =
        .ok (results, s) ∧
      (s.trace.acceptedDuring .upstream 2 500000002 : ℤ) ≤ 2 + 2 * (500000002 - 2) / 1000000000 :=
  relay_rate_limited _ _ (by decide) _ (by decide) (by decide) (by decide) _ _ _ _ (by decide)
    .client (by decide) 2 500000002 (by decide)

end NetFault
