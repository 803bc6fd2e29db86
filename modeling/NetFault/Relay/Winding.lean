import NetFault.Relay.Lifecycle
import NetFault.Relay.Stamps
import NetFault.Relay.WakeChain

/-!
# A stream that has ended is wound up

What is left to be done for the bytes queued towards a destination is measured by `Relay.load`: the
bytes, and the segments of the delay line that are held back.  Once their source has ended its
stream, nothing adds to the load, whatever the sockets answer and whatever else the relay does
(`Moves.winds`).  A flush with a budget takes from it (`flush_load_lt`).  A flush that comes when a
wake is due, however late, has a budget or finds that a segment was released since the wake was
asked for (`Relay.Pending.woken`): waiting loses no tokens, and it takes a budget away only by
releasing more bytes, for which a larger quantum is asked.
-/

namespace NetFault

/-! ## Waiting loses no tokens -/

namespace TokenBucket

variable {b : TokenBucket} {t now : ℤ}

/-- Below the long-idle bound the progress stays far from wrapping. -/
lemma Sound.productTerm_lt (hs : b.Sound) (hrate : b.rate ≤ 1000000000)
    (hburst : b.burst ≤ 18000000000) (hslow : ¬u64 b.longIdleTerm ≤ b.elapsedNs now) :
    b.productTerm now < 2 ^ 64 := by
  have helapsed : b.elapsedNs now ≤ b.earnTime (b.burst - b.tokens) + nsPerSecond / b.rate := by
    have hidle := u64_le b.longIdleTerm
    rw [longIdleTerm] at hidle hslow
    omega
  have hearn : b.earnTime (b.burst - b.tokens) * b.rate ≤
      (b.burst - b.tokens) * nsPerSecond + b.rate - 1 :=
    (Nat.div_mul_le_self _ _).trans (u64_le _)
  have hquot : nsPerSecond / b.rate * b.rate ≤ nsPerSecond := Nat.div_mul_le_self _ _
  have hproduct := Nat.mul_le_mul_right b.rate helapsed
  have hcarry := hs.carry_lt
  rw [Nat.add_mul] at hproduct
  rw [productTerm]
  simp only [nsPerSecond] at hearn hquot hcarry hproduct
  omega

/-- **A later refill finds no fewer tokens**, as long as nothing wraps. -/
lemma Sound.tokens_refill_mono (hs : b.Sound) (hrate : b.rate ≤ 1000000000)
    (hburst : b.burst ≤ 18000000000) (hle : t ≤ now) (hclock : now - b.lastRefill < 2 ^ 64) :
    (b.refill t).tokens ≤ (b.refill now).tokens := by
  have htokens := hs.tokens_le
  by_cases hpast : now ≤ b.lastRefill
  · rw [refill_of_le hpast, refill_of_le (hle.trans hpast)]
  by_cases hidle : u64 b.longIdleTerm ≤ b.elapsedNs now
  · have hfull : (b.refill now).tokens = b.burst := by rw [refill_eq, if_neg hpast, if_pos hidle]
    rw [hfull, ← refill_burst b t]
    exact (hs.refill t).tokens_le
  have hnow := hs.productTerm_lt hrate hburst hidle
  have hearned : b.productTerm now / nsPerSecond ≤ b.productTerm now / 2 :=
    Nat.div_le_div_left (by simp [nsPerSecond]) (by norm_num)
  have hsum : b.tokens + b.productTerm now / nsPerSecond < 2 ^ 64 := by omega
  have hafter : (b.refill now).tokens =
      min (b.tokens + b.productTerm now / nsPerSecond) b.burst := by
    rw [refill_eq, if_neg hpast, if_neg hidle, u64_of_lt hnow, u64_of_lt hsum]
  rw [hafter]
  by_cases hearly : t ≤ b.lastRefill
  · rw [refill_of_le hearly]
    exact le_min (Nat.le_add_right _ _) htokens
  have helapsed : b.elapsedNs t ≤ b.elapsedNs now := by
    rw [elapsedNs, elapsedNs, u64_of_lt (by omega), u64_of_lt (by omega)]
    exact Int.toNat_le_toNat (by omega)
  have hproduct : b.productTerm t ≤ b.productTerm now :=
    Nat.add_le_add_right (Nat.mul_le_mul_right _ helapsed) _
  have hearned' : b.productTerm t / nsPerSecond ≤ b.productTerm now / nsPerSecond :=
    Nat.div_le_div_right hproduct
  have hsum' : b.tokens + b.productTerm t / nsPerSecond < 2 ^ 64 := by omega
  have hbefore : (b.refill t).tokens =
      min (b.tokens + b.productTerm t / nsPerSecond) b.burst := by
    rw [refill_eq, if_neg hearly, if_neg (by omega), u64_of_lt (hproduct.trans_lt hnow),
      u64_of_lt hsum']
  rw [hbefore]
  exact min_le_min_right _ (Nat.add_le_add_left hearned' _)

/-- A bucket in whose arithmetic nothing wraps up to a time. -/
structure Tame (b : TokenBucket) (time : ℤ) : Prop where
  rate_le : b.rate ≤ 1000000000
  burst_le : b.burst ≤ 18000000000
  start : -2 ^ 63 ≤ b.lastRefill
  last : b.lastRefill ≤ time

end TokenBucket

/-- Nothing wraps in the buckets of a direction. -/
def Direction.Tame (d : Direction) (time : ℤ) : Prop :=
  ∀ channel b, d.fault = some channel → channel.bucket = some b → b.Tame time

def Session.Tame (s : Session) (time : ℤ) : Prop :=
  ∀ source, (s.relay.directionFrom source).Tame time

/-! ## The segments held back -/

namespace Direction

variable {d : Direction} {channel : FaultChannel} {t now : ℤ}

lemma heldSegments_of_delay {line : DelayLine} (hf : d.fault = some channel)
    (hd : channel.delay = some line) : d.heldSegments now = line.heldSegments now := by
  simp [heldSegments, hf, hd]

lemma heldSegments_of_no_delay (h : d.fault.bind FaultChannel.delay = none) :
    d.heldSegments now = 0 := by
  simp [heldSegments, h]

lemma heldSegments_anti (d : Direction) (hle : t ≤ now) :
    d.heldSegments now ≤ d.heldSegments t := by
  rcases hd : d.fault.bind FaultChannel.delay with _ | line
  · rw [heldSegments_of_no_delay hd]
    exact Nat.zero_le _
  · obtain ⟨channel, hf, hline⟩ := Option.bind_eq_some_iff.mp hd
    rw [heldSegments_of_delay hf hline, heldSegments_of_delay hf hline]
    exact DelayLine.countP_held_le hle line.segments

/-- Each segment holds a byte. -/
lemma Inv.heldSegments_le (h : d.Inv) : d.heldSegments now ≤ d.queue.size := by
  rcases hd : d.fault.bind FaultChannel.delay with _ | line
  · rw [heldSegments_of_no_delay hd]
    exact Nat.zero_le _
  · obtain ⟨channel, hf, hline⟩ := Option.bind_eq_some_iff.mp hd
    obtain ⟨hw, hpending⟩ := h.delay channel line hf hline
    rw [heldSegments_of_delay hf hline, ← hpending]
    exact List.countP_le_length.trans hw.length_segments_le

lemma released_eq_or_held_lt (hf : d.fault = some channel) (limit : ℕ) (hle : t ≤ now) :
    channel.released limit now = channel.released limit t ∨
      d.heldSegments now < d.heldSegments t := by
  rcases hd : channel.delay with _ | line
  · left
    simp [FaultChannel.released, hd]
  · rw [heldSegments_of_delay hf hd, heldSegments_of_delay hf hd]
    rcases line.releasable_eq_or_held_lt hle with heq | hlt
    · left
      simp [FaultChannel.released, hd, heq]
    · exact .inr hlt

/-- **Waiting does not take a budget away**, unless more bytes were released in the meantime and a
larger quantum is asked for. -/
lemma sendable_later (hinv : d.Inv) (htame : d.Tame t) (hle : t ≤ now) (hnow : now < 2 ^ 63)
    (h : 0 < (faultSendable d d.queue.size t).1) :
    0 < (faultSendable d d.queue.size now).1 ∨ d.heldSegments now < d.heldSegments t := by
  rcases hf : d.fault with _ | channel
  · left
    rwa [faultSendable_of_none hf] at h ⊢
  rcases released_eq_or_held_lt hf d.queue.size hle with heq | hlt
  swap
  · exact .inr hlt
  left
  rcases hb : channel.bucket with _ | b
  · rw [faultSendable_of_bucket_none hf hb] at h ⊢
    rwa [heq]
  obtain ⟨hrate, hburst, hstart, hlast⟩ := htame channel b hf hb
  have hs := hinv.bucket channel b hf hb
  have hmono := hs.tokens_refill_mono hrate hburst hle (by omega)
  have hreleased : 0 < channel.released d.queue.size t :=
    h.trans_le (faultSendable_le_released hf _ _)
  apply faultSendable_pos_of_tokens hf hb hs.burst_pos
  · rwa [heq]
  · rw [heq]
    refine le_trans ?_ hmono
    by_contra hshort
    rw [faultSendable_of_bucket hf hb, if_pos (not_le.mp hshort)] at h
    exact absurd h (lt_irrefl 0)

end Direction

/-- Letting bytes out drops segments from the front. -/
lemma Egress.heldSegments_le {source : Side} {state : ConnectionState} {d d' : Direction}
    {count : ℕ} {time now : ℤ} {notes : Trace} (h : Egress source state d count time d' notes)
    (hinv : d.Inv) (hcount : count ≤ d.queue.size) : d'.heldSegments now ≤ d.heldSegments now := by
  rcases hd : d'.fault.bind FaultChannel.delay with _ | line'
  · rw [Direction.heldSegments_of_no_delay hd]
    exact Nat.zero_le _
  obtain ⟨channel', hf', hline'⟩ := Option.bind_eq_some_iff.mp hd
  have hfault := h.fault
  rw [hf'] at hfault
  obtain ⟨channel, hf, -, hdelay, -⟩ := consumeFault_some hfault
  obtain ⟨line, hline, hconsume⟩ := hdelay line' hline'
  obtain ⟨hw, hpending⟩ := hinv.delay channel line hf hline
  rw [Direction.heldSegments_of_delay hf' hline', Direction.heldSegments_of_delay hf hline]
  obtain ⟨segments', hsegments, -, -, hsuffix⟩ := DelayLine.consumeFrom_spec line.segments count
    hw.pos (by rw [← DelayLine.stamps, ← hw.pending_eq]; omega)
  obtain rfl : { line with segments := segments', pending := line.pending - count } = line' := by
    rw [DelayLine.onConsume, if_neg (by omega), hsegments] at hconsume
    exact Except.ok.inj hconsume
  -- the stamps that are left are a suffix of those there were
  have hcount : ∀ segments : List Segment,
      segments.countP (fun segment => decide (segment.eligibleAt > now)) =
        (segments.map Segment.eligibleAt).countP fun stamp => decide (stamp > now) := by
    intro segments
    rw [List.countP_map]
    rfl
  rw [DelayLine.heldSegments, DelayLine.heldSegments, hcount, hcount]
  exact hsuffix.sublist.countP_le

/-! ## What is left to be done for a stream that has ended -/

/-- The bytes queued for `destination` and the segments that hold some of them back at `now`;
nothing is left to be done for a destination that was shut down. -/
def Relay.load (r : Relay) (destination : Side) (now : ℤ) : ℕ :=
  if r.writeOpen destination then
    (r.directionFrom destination.peer).queue.size +
      (r.directionFrom destination.peer).heldSegments now
  else 0

/-- Nothing was done for the bytes queued for `destination`. -/
structure Session.Keeps (destination : Side) (now : ℤ) (s s' : Session) : Prop where
  writeOpen : s'.relay.writeOpen destination = s.relay.writeOpen destination
  direction : s'.relay.directionFrom destination.peer = s.relay.directionFrom destination.peer ∨
    s'.relay.directionFrom destination.peer = (s.relay.directionFrom destination.peer).refill now

/-- Nothing was done for the bytes queued for `destination`, or some of it is no longer left. -/
def Session.Winds (destination : Side) (now : ℤ) (s s' : Session) : Prop :=
  s.Keeps destination now s' ∨
    s'.relay.load destination now < s.relay.load destination now ∨
    s'.relay.load destination now = 0

section Winds

variable {io : SocketIo} {destination : Side} {t now : ℤ} {s s' s'' : Session}

lemma Relay.load_of_open {r : Relay} (h : r.writeOpen destination = true) :
    r.load destination now = (r.directionFrom destination.peer).queue.size +
      (r.directionFrom destination.peer).heldSegments now :=
  if_pos h

lemma Relay.load_of_closed {r : Relay} (h : r.writeOpen destination = false) :
    r.load destination now = 0 := by
  unfold Relay.load
  rw [h]
  rfl

lemma Relay.load_anti (r : Relay) (hle : t ≤ now) :
    r.load destination now ≤ r.load destination t := by
  unfold Relay.load
  split_ifs
  · exact Nat.add_le_add_left (Direction.heldSegments_anti _ hle) _
  · exact le_rfl

lemma Session.Inv.load_le (h : s.Inv) : s.relay.load destination now ≤
    2 * (s.relay.directionFrom destination.peer).queue.size := by
  unfold Relay.load
  split_ifs
  · have hheld : (s.relay.directionFrom destination.peer).heldSegments now ≤ _ :=
      (h destination.peer).heldSegments_le
    omega
  · exact Nat.zero_le _

namespace Session

lemma Keeps.refl (s : Session) : s.Keeps destination now s := ⟨rfl, .inl rfl⟩

lemma Keeps.trans (h : s.Keeps destination now s') (h' : s'.Keeps destination now s'') :
    s.Keeps destination now s'' := by
  refine ⟨h'.writeOpen.trans h.writeOpen, ?_⟩
  rcases h.direction with heq | heq
  · rw [← heq]
    exact h'.direction
  · rcases h'.direction with heq' | heq'
    · exact .inr (heq'.trans heq)
    · right
      rw [heq', heq, Direction.refill_refill]

lemma Keeps.queue (h : s.Keeps destination now s') :
    (s'.relay.directionFrom destination.peer).queue =
      (s.relay.directionFrom destination.peer).queue := by
  rcases h.direction with heq | heq
  · rw [heq]
  · rw [heq]
    rfl

lemma Keeps.load (h : s.Keeps destination now s') :
    s'.relay.load destination t = s.relay.load destination t := by
  unfold Relay.load
  rw [h.writeOpen, h.queue]
  rcases h.direction with heq | heq
  · rw [heq]
  · rw [heq, Direction.heldSegments_refill]

/-- The budget at `now` is the same. -/
lemma Keeps.sendable (h : s.Keeps destination now s') (limit : ℕ) :
    (faultSendable (s'.relay.directionFrom destination.peer) limit now).1 =
      (faultSendable (s.relay.directionFrom destination.peer) limit now).1 := by
  rcases h.direction with heq | heq
  · rw [heq]
  · rw [heq, faultSendable_refill]

lemma Winds.load_le (h : s.Winds destination now s') :
    s'.relay.load destination now ≤ s.relay.load destination now := by
  rcases h with hkeeps | hless | hdone
  · exact hkeeps.load.le
  · exact hless.le
  · rw [hdone]
    exact Nat.zero_le _

lemma Winds.trans (h : s.Winds destination now s') (h' : s'.Winds destination now s'') :
    s.Winds destination now s'' := by
  have hle := h.load_le
  rcases h' with hkeeps' | hless' | hdone'
  · rcases h with hkeeps | hless | hdone
    · exact .inl (hkeeps.trans hkeeps')
    · exact .inr (.inl (hkeeps'.load.trans_lt hless))
    · exact .inr (.inr (hkeeps'.load.trans hdone))
  · exact .inr (.inl (hless'.trans_le hle))
  · exact .inr (.inr hdone')

end Session

/-- A stream that has ended stays so. -/
lemma Move.readOpen_eq_false (hmove : Move io now s s') {side : Side}
    (h : s.relay.readOpen side = false) : s'.relay.readOpen side = false := by
  cases hmove with
  | receive source span hint bytes d' notes readable answer ingest => exact h
  | receiveNothing source span hint result readable answer nothing =>
      rw [(Session.afterReceive_flags ..).1]
      exact h
  | endOfStream source span hint result readable answer ended =>
      have hread := congrFun (Session.afterReceive_flags s source span hint result now).1 side
      by_cases heq : side = source
      · subst heq
        exact Function.update_self ..
      · exact (Function.update_of_ne heq ..).trans (hread.trans h)
  | refill source => exact h
  | send destination budget count d' notes writable answer egress => exact h
  | sendNothing destination budget result writable answer nothing => cases result <;> exact h
  | injectHalfClose injectable =>
      rcases hok : io.shutdownWrite s.trace .client with _ | _
      · rw [injectable.injectHalfClose_of_failed hok]
        exact h
      · rw [injectable.injectHalfClose_of_ok hok]
        exact h
  | injectReset total => exact h
  | forward destination forwardable =>
      rcases hok : io.shutdownWrite s.trace destination with _ | _
      · rw [Session.forwardHalfClose_of_failed hok]
        exact h
      · rw [Session.forwardHalfClose_of_ok hok]
        exact h
  | connect => exact h

/-- A write side that was shut down stays so. -/
lemma Move.writeOpen_eq_false (hmove : Move io now s s') {side : Side}
    (h : s.relay.writeOpen side = false) : s'.relay.writeOpen side = false := by
  have hclose : ∀ r : Relay, r.writeOpen side = false → ∀ other,
      (r.closeWrite other).writeOpen side = false := by
    intro r hr other
    simp [Relay.closeWrite, Function.update_apply, hr]
  cases hmove with
  | receive source span hint bytes d' notes readable answer ingest => exact h
  | receiveNothing source span hint result readable answer nothing =>
      rw [(Session.afterReceive_flags ..).2.1]
      exact h
  | endOfStream source span hint result readable answer ended =>
      exact (congrFun (Session.afterReceive_flags ..).2.1 side).trans h
  | refill source => exact h
  | send destination budget count d' notes writable answer egress => exact h
  | sendNothing destination budget result writable answer nothing => cases result <;> exact h
  | injectHalfClose injectable =>
      rcases hok : io.shutdownWrite s.trace .client with _ | _
      · rw [injectable.injectHalfClose_of_failed hok]
        exact h
      · rw [injectable.injectHalfClose_of_ok hok]
        exact hclose _ h .client
  | injectReset total => exact h
  | forward destination forwardable =>
      rcases hok : io.shutdownWrite s.trace destination with _ | _
      · rw [Session.forwardHalfClose_of_failed hok]
        exact h
      · rw [Session.forwardHalfClose_of_ok hok]
        exact hclose _ h destination
  | connect => exact h

/-- The history only grows. -/
lemma Move.trace_extends (hmove : Move io now s s') (hinv : s.Inv) : s.trace <+: s'.trace := by
  obtain ⟨added, htrace, -⟩ := hmove.spanNonempty hinv
  rw [htrace]
  exact List.prefix_append _ _

lemma Moves.trace_extends (hmoves : Moves io now s s') (hinv : s.Inv) : s.trace <+: s'.trace := by
  apply hmoves.preserves (P := fun m => s.trace <+: m.trace) hinv List.prefix_rfl
  intro m m' hm h hmove
  exact h.trans (hmove.trace_extends hm)

/-- Nothing more comes from `side`: its stream has ended, or the sockets deliver nothing for it. -/
def Session.Dry (io : SocketIo) (side : Side) (s : Session) : Prop :=
  s.relay.readOpen side = false ∨ ∀ history span bytes, s.trace <+: history →
    io.receive history side span ≠ .transferred bytes

lemma Session.Dry.move {side : Side} (h : s.Dry io side) (hinv : s.Inv)
    (hmove : Move io now s s') : s'.Dry io side := by
  rcases h with hended | hnothing
  · exact .inl (hmove.readOpen_eq_false hended)
  · exact .inr fun history span bytes hpast =>
      hnothing history span bytes ((hmove.trace_extends hinv).trans hpast)

/-- A step that leaves the direction alone but for refills keeps the load, or shuts down. -/
lemma Session.Winds.of_direction (hclosed : s.relay.writeOpen destination = false →
      s'.relay.writeOpen destination = false)
    (h : s'.relay.directionFrom destination.peer = s.relay.directionFrom destination.peer ∨
      s'.relay.directionFrom destination.peer =
        (s.relay.directionFrom destination.peer).refill now) : s.Winds destination now s' := by
  rcases hopen : s'.relay.writeOpen destination with _ | _
  · exact .inr (.inr (Relay.load_of_closed hopen))
  · refine .inl ⟨?_, h⟩
    rw [hopen]
    by_contra hne
    rw [hclosed (by simpa using Ne.symm hne)] at hopen
    cases hopen

/-- **No move adds to the load of a stream that has ended.** -/
lemma Move.winds (hmove : Move io now s s') (hinv : s.Inv)
    (hdry : s.Dry io destination.peer) : s.Winds destination now s' := by
  have hclosed : s.relay.writeOpen destination = false → s'.relay.writeOpen destination = false :=
    hmove.writeOpen_eq_false
  rcases hmove.transfer_or_quiet with ⟨source, span, hint, bytes, d', notes, hread, hcame, -, rfl⟩ |
    ⟨side, budget, count, d', notes, hwritable, hanswer, hegress, rfl⟩ |
    ⟨side, budget, result, -, -, rfl⟩ | hquiet
  · have hne : destination.peer ≠ source := by
      rintro rfl
      rcases hdry with hended | hnothing
      · rw [hread.readOpen] at hended
        cases hended
      · exact hnothing _ _ _ List.prefix_rfl hcame
    exact .of_direction hclosed (.inl (Session.ingested_directionFrom_of_ne _ _ _ _ _ _ _ hne))
  · by_cases hside : side = destination
    · subst hside
      obtain ⟨hpos, hcount⟩ := hwritable.count_le hanswer
      have hsize := hegress.size
      have hbudget := hwritable.budget_le_size
      have hheld : d'.heldSegments now ≤ _ :=
        hegress.heldSegments_le (hinv _) (hcount.trans hbudget)
      right
      left
      have hopen : (s.egressed side budget count now d' notes).relay.writeOpen side = true :=
        hwritable.writeOpen
      rw [Relay.load_of_open hopen, Relay.load_of_open hwritable.writeOpen,
        Session.egressed_directionFrom_self]
      omega
    · refine .of_direction hclosed (.inl (Session.egressed_directionFrom_of_ne _ _ _ _ _ _ ?_))
      exact fun heq => hside (by rw [← side.peer_peer, ← heq, Side.peer_peer])
  · exact .of_direction hclosed (.inl (by rw [Session.afterSend_directionFrom]))
  · exact .of_direction hclosed (hquiet.direction destination.peer)

/-- The same for any number of moves. -/
lemma Moves.winds_of_dry (hmoves : Moves io now s s') (hinv : s.Inv)
    (hdry : s.Dry io destination.peer) :
    s.Winds destination now s' ∧ s'.Dry io destination.peer := by
  apply hmoves.preserves (P := fun m => s.Winds destination now m ∧ m.Dry io destination.peer) hinv
    ⟨.inl (.refl s), hdry⟩
  intro m m' hm h hmove
  exact ⟨h.1.trans (hmove.winds hm h.2), h.2.move hm hmove⟩

lemma Moves.winds (hmoves : Moves io now s s') (hinv : s.Inv)
    (hended : s.relay.readOpen destination.peer = false) :
    s.Winds destination now s' ∧ s'.relay.readOpen destination.peer = false :=
  ⟨(hmoves.winds_of_dry hinv (.inl hended)).1, hmoves.preserves hinv hended
    fun _ _ _ h hmove => hmove.readOpen_eq_false h⟩

lemma Session.Tame.moves (h : s.Tame t) (hle : t ≤ now) (hinv : s.Inv)
    (hmoves : Moves io now s s') : s'.Tame now := by
  have hnow : s.Tame now := fun source channel b hc hb =>
    { h source channel b hc hb with last := (h source channel b hc hb).last.trans hle }
  apply hmoves.preserves (P := fun m => m.Tame now) hinv hnow
  intro m m' _ hm hmove
  refine hmove.buckets (P := fun b => b.Tame now) (fun b hb => ?_)
    (fun b b' count hb hconsume => ?_) hm
  · refine ⟨?_, ?_, ?_, ?_⟩
    · rw [TokenBucket.refill_rate]
      exact hb.rate_le
    · rw [TokenBucket.refill_burst]
      exact hb.burst_le
    · rw [TokenBucket.refill_lastRefill]
      exact le_max_of_le_left hb.start
    · rw [TokenBucket.refill_lastRefill]
      exact max_le hb.last le_rfl
  · rw [TokenBucket.consume] at hconsume
    split_ifs at hconsume
    obtain rfl := Except.ok.inj hconsume
    exact ⟨hb.rate_le, hb.burst_le, hb.start, hb.last⟩

end Winds

/-! ## A flush with a budget -/

/-- From the history `start` on, the socket takes at least one byte of whatever it is offered. -/
def SocketIo.AcceptsAfter (io : SocketIo) (start : Trace) (side : Side) : Prop :=
  ∀ history data, start <+: history → data ≠ [] →
    ∃ count, io.send history side data = .transferred count

section Flush

variable {io : SocketIo} {destination : Side} {now : ℤ} {start : Trace} {s s' : Session}

/-- A trip of `flush` that has a budget and a socket that accepts goes on. -/
lemma flushBody_continues (hinv : s.Inv) (hopen : s.relay.writeOpen destination = true)
    (hconn : destination = .upstream → s.relay.upstreamConnecting = false)
    (hsize : 0 < (s.relay.directionFrom destination.peer).queue.size)
    (hpos : 0 < (faultSendable (s.relay.directionFrom destination.peer)
      (s.relay.directionFrom destination.peer).queue.readableSpan.length now).1)
    (hio : io.AcceptsAfter start destination) (hstart : start <+: s.trace)
    (r : Option PumpResult) (m : Session) :
    s.flushBody io destination now ≠ .ok (.exit r m) := by
  obtain ⟨budget, hbudget⟩ : ∃ budget, budget = (faultSendable
    (s.relay.directionFrom destination.peer)
    (s.relay.directionFrom destination.peer).queue.readableSpan.length now).1 := ⟨_, rfl⟩
  obtain ⟨mid, hmid⟩ : ∃ mid, mid = s.refilled destination.peer now := ⟨_, rfl⟩
  have hrefill : Move io now s mid := hmid ▸ .refill destination.peer
  have hwrite : mid.Writable destination budget now :=
    hmid ▸ writable_of_budget hopen hconn hbudget (hbudget ▸ hpos)
  have htrace : mid.trace = s.trace := by rw [hmid, Session.refilled_trace]
  obtain ⟨count, hsend⟩ := hio mid.trace _ (htrace ▸ hstart) hwrite.offer_ne_nil
  obtain ⟨d', notes, hok, -⟩ := hwrite.commitSent (hrefill.inv hinv) hsend
  rw [flushBody_eq destination hsize hbudget hmid, if_neg (by omega), hsend]
  simp [hok, Except.map]

/-- **A flush that has a budget takes from the load** of a stream from which nothing more comes. -/
lemma flush_load_lt (hinv : s.Inv) (hdry : s.Dry io destination.peer)
    (hopen : s.relay.writeOpen destination = true)
    (hconn : destination = .upstream → s.relay.upstreamConnecting = false)
    (hsize : 0 < (s.relay.directionFrom destination.peer).queue.size)
    (hpos : 0 < (faultSendable (s.relay.directionFrom destination.peer)
      (s.relay.directionFrom destination.peer).queue.size now).1)
    (hio : io.AcceptsAfter start destination) (hstart : start <+: s.trace) {result : PumpResult}
    (hrun : s.flush io destination now = .ok (result, s')) :
    s'.relay.load destination now < s.relay.load destination now := by
  have hspan := faultSendable_pos_of_le (hinv destination.peer)
    (ByteQueue.length_readableSpan_pos _ hsize) (ByteQueue.length_readableSpan_le _) hpos
  have hguard : ¬(!s.relay.writeOpen destination ||
      (decide (destination = .upstream) && s.relay.upstreamConnecting)) = true := by
    simpa [hopen] using hconn
  obtain ⟨m, -, hbody, hfirst, -, -, hopen', hconn', hless⟩ | ⟨r, m, -, hbody, -⟩ :=
    flushBody_spec io now hinv destination hopen hconn
  swap
  · exact absurd hbody (flushBody_continues hinv hopen hconn hsize hspan hio hstart r m)
  have hinv' := hfirst.inv hinv
  obtain ⟨hwinds, hdry'⟩ := hfirst.winds_of_dry hinv hdry
  have hload : m.relay.load destination now < s.relay.load destination now := by
    rcases hwinds with hkeeps | hlt | hzero
    · rw [hkeeps.queue] at hless
      exact absurd hless (lt_irrefl _)
    · exact hlt
    · rw [hzero, Relay.load_of_open hopen]
      omega
  obtain ⟨r, mid, -, hloop, hmoves, -⟩ := flushLoop_spec io now hinv' destination hopen'
    (hconn' ▸ hconn) hless
  have hrest : Moves io now m s' := by
    rw [Session.flush, if_neg hguard, Loop.run, hbody] at hrun
    simp only [hloop] at hrun
    rcases r with _ | r
    · obtain ⟨-, hlifecycle, -⟩ := checkLifecycleFaults_spec io now mid destination
      obtain ⟨-, rfl⟩ := Prod.mk.inj (Except.ok.inj hrun)
      exact hmoves.trans hlifecycle
    · obtain ⟨-, rfl⟩ := Prod.mk.inj (Except.ok.inj hrun)
      exact hmoves
  exact (hrest.winds_of_dry hinv' hdry').1.load_le.trans_lt hload

end Flush

/-! ## A wake that has come -/

/-- **What a wake brings, however late it comes.**  When it was asked for, the bucket was refilled;
by the time it comes some bytes may be sent, or a segment has been released. -/
lemma Relay.Pending.woken {r : Relay} {destination : Side} {t wake now : ℤ}
    (h : r.Pending destination t) (htame : (r.directionFrom destination.peer).Tame t)
    (hrefilled : (r.directionFrom destination.peer).refill t = r.directionFrom destination.peer)
    (hwake : (r.nextWake destination t).1 = some wake) (hle : wake ≤ now) (hnow : now < 2 ^ 63) :
    0 < (faultSendable (r.directionFrom destination.peer)
        (r.directionFrom destination.peer).queue.size now).1 ∨
      (r.directionFrom destination.peer).heldSegments now <
        (r.directionFrom destination.peer).heldSegments t := by
  have hidle : ¬(r.desiredInterest destination t).1.write = true := by
    intro hwrite
    rw [nextWake_of_write (s := { relay := r }) h.writeOpen h.connected h.size hwrite] at hwake
    cases hwake
  obtain ⟨wake', r', hnext, hlater, hpending, hwoken⟩ := h.step hidle
  obtain rfl : wake' = wake := by simpa [hnext] using hwake
  have hsame : r'.directionFrom destination.peer = r.directionFrom destination.peer := by
    have hrefills := nextWake_refills r destination t
    rw [hnext] at hrefills
    rcases hrefills.direction destination.peer with heq | heq
    · exact heq
    · exact heq.trans hrefilled
  rw [hpending.write_iff wake', hsame] at hwoken
  have hanti := (r.directionFrom destination.peer).heldSegments_anti hle
  rcases hwoken with hpos | hheld
  · have htame' : (r.directionFrom destination.peer).Tame wake' := fun channel b hc hb =>
      { htame channel b hc hb with last := (htame channel b hc hb).last.trans hlater.le }
    have hanti' := (r.directionFrom destination.peer).heldSegments_anti hlater.le
    rcases Direction.sendable_later h.inv htame' hle hnow hpos with hpos' | hheld
    · exact .inl hpos'
    · exact .inr (hheld.trans_le hanti')
  · exact .inr (hanti.trans_lt hheld)

end NetFault
