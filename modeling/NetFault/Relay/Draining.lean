import NetFault.Relay.Outcomes
import NetFault.Relay.Winding

/-!
# Peers that end their streams let a connection drain

Let the client socket be shut down and the upstream stream have ended.  Then nothing more is to be
done for the bytes towards the client, and what is left is the bytes towards upstream and the
client's end of stream.  If from now on the client sends nothing more and upstream takes what it
is offered, flushes that come when the relay asks for them empty that queue (`Relay.load` falls),
the reads that a full queue had paused are resumed, and the end of stream is seen.

A flush comes at a wake, where the rate is permitted; the wakes of other buckets may wrap, and for
them there is some later time at which the bucket is full (`Direction.exists_sendable`).
-/

namespace NetFault

/-! ## Sockets that agree with others so far -/

/-- Asked on a history shorter than `past`, `io'` answers as `io` does. -/
def SocketIo.AgreesBefore (io io' : SocketIo) (past : Trace) : Prop :=
  ∀ history : Trace, history.length < past.length →
    io'.receive history = io.receive history ∧ io'.send history = io.send history ∧
      io'.shutdownWrite history = io.shutdownWrite history

/-- The sockets of `io` until the history is as long as `past`.  Then both peers end their streams,
and everything is accepted. -/
def SocketIo.endingAfter (io : SocketIo) (past : Trace) : SocketIo where
  receive history side span :=
    if history.length < past.length then io.receive history side span else .peerClosed 0
  send history side data :=
    if history.length < past.length then io.send history side data
    else if data = [] then .wouldBlock else .transferred data.length
  shutdownWrite history side :=
    if history.length < past.length then io.shutdownWrite history side else true
  receive_transferred history side span bytes h := by
    split_ifs at h
    exact io.receive_transferred history side span bytes h
  send_transferred history side data count h := by
    split_ifs at h with hpast hne
    · exact io.send_transferred history side data count h
    · obtain rfl : data.length = count := by simpa using h
      exact ⟨List.length_pos_iff.mpr hne, le_rfl⟩

/-- From the history `start` on, both streams have ended. -/
def SocketIo.EndsAfter (io : SocketIo) (start : Trace) : Prop :=
  ∀ history side span, start <+: history → io.receive history side span = .peerClosed 0

lemma SocketIo.endingAfter_agrees (io : SocketIo) (past : Trace) :
    io.AgreesBefore (io.endingAfter past) past := by
  intro history hlt
  exact ⟨funext₂ fun _ _ => if_pos hlt, funext₂ fun _ _ => if_pos hlt, funext fun _ => if_pos hlt⟩

lemma SocketIo.endingAfter_ends (io : SocketIo) (past : Trace) :
    (io.endingAfter past).EndsAfter past :=
  fun _ _ _ h => if_neg (not_lt.mpr h.length_le)

lemma SocketIo.endingAfter_accepts (io : SocketIo) (past : Trace) (side : Side) :
    (io.endingAfter past).AcceptsAfter past side :=
  fun _ data h hne => ⟨data.length, (if_neg (not_lt.mpr h.length_le)).trans (if_neg hne)⟩

/-! ## Some later time has a budget -/

/-- Asked after the longest time a 64-bit difference can hold, a bucket is full. -/
lemma TokenBucket.exists_full (b : TokenBucket) (now : ℤ) :
    ∃ t, now ≤ t ∧ (b.refill t).tokens = b.burst := by
  refine ⟨b.lastRefill + (2 ^ 64 * ((now - b.lastRefill).toNat + 1) - 1 : ℕ), by omega, ?_⟩
  have helapsed : b.elapsedNs
      (b.lastRefill + (2 ^ 64 * ((now - b.lastRefill).toNat + 1) - 1 : ℕ)) = 2 ^ 64 - 1 := by
    rw [elapsedNs, add_sub_cancel_left, Int.toNat_natCast, u64]
    omega
  have hidle : u64 b.longIdleTerm ≤ 2 ^ 64 - 1 := by
    rw [u64]
    omega
  rw [refill_eq, if_neg (by omega), helapsed, if_pos hidle]

/-- **Waiting long enough brings a budget**, whatever the plan. -/
lemma Direction.exists_sendable {d : Direction} (hinv : d.Inv) (hsize : 0 < d.queue.size)
    (now : ℤ) : ∃ t, now ≤ t ∧ 0 < (faultSendable d d.queue.size t).1 := by
  rcases hf : d.fault with _ | channel
  · exact ⟨now, le_rfl, by rwa [faultSendable_of_none hf]⟩
  obtain ⟨open_, hopen, hreleased⟩ : ∃ t, now ≤ t ∧
      ∀ t', t ≤ t' → 0 < channel.released d.queue.size t' := by
    rcases hd : channel.delay with _ | line
    · exact ⟨now, le_rfl, fun t' _ => by simpa [FaultChannel.released, hd] using hsize⟩
    obtain ⟨hw, hpending⟩ := hinv.delay channel line hf hd
    rcases hseg : line.segments with _ | ⟨front, rest⟩
    · rw [← hpending, hw.pending_eq, DelayLine.stamps, hseg] at hsize
      simp at hsize
    have hfront := hw.pos front (by simp [hseg])
    refine ⟨max now front.eligibleAt, le_max_left _ _, fun t' hle => ?_⟩
    have hpast : ¬front.eligibleAt > t' := not_lt.mpr ((le_max_right _ _).trans hle)
    have hreleasable : 0 < line.releasable t' := by
      rw [DelayLine.releasable, hseg, DelayLine.releasableIn, if_neg hpast]
      omega
    simpa [FaultChannel.released, hd] using ⟨hsize, hreleasable⟩
  rcases hb : channel.bucket with _ | b
  · exact ⟨open_, hopen, by
      rw [faultSendable_of_bucket_none hf hb]
      exact hreleased open_ le_rfl⟩
  obtain ⟨t, hle, hfull⟩ := b.exists_full open_
  refine ⟨t, hopen.trans hle, faultSendable_pos_of_tokens hf hb
    (hinv.bucket channel b hf hb).burst_pos (hreleased t hle) ?_⟩
  rw [hfull]
  exact (min_le_left _ _).trans (min_le_right _ _)

/-! ## Buckets after the calls of a run -/

section Refilled

variable {io : SocketIo} {config : RelayConfig} {plan : FaultPlan} {connectionId : UInt64}
  {upstreamConnecting : Bool} {start now : ℤ} {calls : List Call} {results : List CallResult}
  {s s' : Session}

lemma refilledUntil_of_runRelay (hconfig : config.Valid) (hstart : start ≤ now)
    (hcalls : ∀ t ∈ calls.filterMap Call.time?, t ≤ now)
    (hrun : runRelay io config plan connectionId upstreamConnecting start calls =
      .ok (results, s)) : s.RefilledUntil now := by
  obtain ⟨results', s', hrun', -, hrefilled⟩ := runRelay_until io hconfig plan connectionId
    upstreamConnecting start (P := Session.RefilledUntil now) (fun r hr => hr.refilledUntil hstart)
    (fun t m m' hle _ h hmove => h.move hle hmove) hcalls
  obtain ⟨-, rfl⟩ := Prod.mk.inj (Except.ok.inj (hrun'.symm.trans hrun))
  exact hrefilled

lemma refilledUntil_of_execAll (hinv : s.Inv) (h : s.RefilledUntil now)
    (hcalls : ∀ t ∈ calls.filterMap Call.time?, t ≤ now)
    (hexec : execAll io calls s = .ok (results, s')) : s'.RefilledUntil now := by
  obtain ⟨results', s'', hexec', -, hrefilled⟩ := execAll_until io (P := Session.RefilledUntil now)
    (fun t m m' hle _ h hmove => h.move hle hmove) calls s hcalls hinv h
  obtain ⟨-, rfl⟩ := Prod.mk.inj (Except.ok.inj (hexec'.symm.trans hexec))
  exact hrefilled

end Refilled

/-! ## Calls that follow the wakes -/

/-- When the next call is made: at the wake a call has returned, or still at `now`. -/
def CallResult.wakeOr (now : ℤ) : CallResult → ℤ
  | .wake (some time) => time
  | _ => now

/-- The calls are made at `now` until one of them returns a wake, and then at that wake. -/
def FollowWakes : ℤ → List Call → List CallResult → Prop
  | now, call :: calls, result :: results =>
      (∀ t ∈ call.time?, t = now) ∧ FollowWakes (result.wakeOr now) calls results
  | _, _, _ => True

/-- The call does not ask for the connection to be closed, or only by the injected reset. -/
def CallResult.GoesOn (result : CallResult) : Prop :=
  ∀ finalState reason, result = .pumped (.close finalState reason) → reason = .faultReset

/-- Some calls, in order of time from `now` on, lead to `fully_drained`, and none of them closes the
connection before, unless by the injected reset.  If `followed`, they are made at `now` and at the
wakes that the relay asks for. -/
def Session.DrainsFrom (io : SocketIo) (now : ℤ) (followed : Prop) (s : Session) : Prop :=
  ∃ calls results s', execAll io calls s = .ok (results, s') ∧ s'.relay.fullyDrained = true ∧
    Clocked now calls ∧ (∀ result ∈ results, result.GoesOn) ∧
    (followed → FollowWakes now calls results)

/-- **The connection can be drained from `now` on**: with some sockets that agree with `io` on
everything that happened so far, it drains. -/
def Session.CanDrain (io : SocketIo) (now : ℤ) (followed : Prop) (s : Session) : Prop :=
  ∃ io', io.AgreesBefore io' s.trace ∧ s.DrainsFrom io' now followed

lemma Session.CanDrain.imp {io : SocketIo} {now : ℤ} {followed followed' : Prop} {s : Session}
    (h : s.CanDrain io now followed) (hf : followed' → followed) : s.CanDrain io now followed' := by
  obtain ⟨io', hagrees, calls, results, s', hall, hdrained, hclock, hgo, hfollow⟩ := h
  exact ⟨io', hagrees, calls, results, s', hall, hdrained, hclock, hgo, hfollow ∘ hf⟩

/-- The relay is drained, with its own words for "drained". -/
lemma Relay.fullyDrained_iff {r : Relay} :
    r.fullyDrained = true ↔ ∀ side, r.readOpen side = false ∧
      ((r.directionFrom side).queue.size = 0 ∨ r.writeOpen side.peer = false) := by
  simp only [Relay.fullyDrained, Bool.and_eq_true, Bool.or_eq_true, Bool.not_eq_true',
    ByteQueue.empty_iff]
  constructor
  · rintro ⟨⟨⟨hclient, hupstream⟩, hforth⟩, hback⟩ (_ | _)
    · exact ⟨hclient, hforth⟩
    · exact ⟨hupstream, hback⟩
  · intro h
    exact ⟨⟨⟨(h .client).1, (h .upstream).1⟩, (h .client).2⟩, (h .upstream).2⟩

lemma Clocked.cons_of_le {past t : ℤ} {call : Call} {calls : List Call} (h : Clocked t calls)
    (htime : call.time? = some t) (hle : past ≤ t) : Clocked past (call :: calls) := by
  rw [Clocked, List.filterMap_cons_some htime]
  refine List.pairwise_cons.mpr ⟨fun u hu => ?_, h⟩
  rcases List.mem_cons.mp hu with rfl | hu
  · exact hle
  · exact hle.trans (List.rel_of_pairwise_cons h hu)

/-- One more call before those that drain. -/
lemma Session.DrainsFrom.cons {io : SocketIo} {s m : Session} {call : Call} {result : CallResult}
    {now t later : ℤ} {followed followed' : Prop} (h : m.DrainsFrom io later followed')
    (hexec : call.exec io s = .ok (result, m)) (htime : call.time? = some t) (hle : now ≤ t)
    (hlater : t ≤ later) (hgoes : result.GoesOn)
    (hfollowed : followed → t = now ∧ result.wakeOr now = later ∧ followed') :
    s.DrainsFrom io now followed := by
  obtain ⟨calls, results, s', hall, hdrained, hclock, hgo, hfollow⟩ := h
  refine ⟨call :: calls, result :: results, s', execAll_cons hexec hall, hdrained,
    (hclock.mono hlater).cons_of_le htime hle, ?_, fun hf => ?_⟩
  · intro other hother
    rcases List.mem_cons.mp hother with rfl | hother
    · exact hgoes
    · exact hgo other hother
  · obtain ⟨rfl, rfl, hf'⟩ := hfollowed hf
    exact ⟨by simp [htime], hfollow hf'⟩

/-! ## Draining -/

/-- The client socket is shut down and upstream connected, in a run past `start`. -/
structure Session.Cut (start : Trace) (config : RelayConfig) (plan : FaultPlan) (s : Session) :
    Prop where
  inv : s.Inv
  past : start <+: s.trace
  follows : s.Follows config plan
  intact : ∀ source, s.Intact source
  lifecycle : s.Lifecycle
  connected : s.relay.upstreamConnecting = false
  closed : s.relay.writeOpen .client = false

/-- Moreover the upstream stream has ended. -/
structure Session.HalfClosed (start : Trace) (config : RelayConfig) (plan : FaultPlan)
    (s : Session) : Prop extends s.Cut start config plan where
  ended : s.relay.readOpen .upstream = false

section Drain

variable {io : SocketIo} {start : Trace} {config : RelayConfig} {plan : FaultPlan} {now : ℤ}
  {s s' : Session}

lemma Session.Cut.moves (h : s.Cut start config plan) (hmoves : Moves io now s s') :
    s'.Cut start config plan := by
  have hkept := hmoves.preserves (P := fun m => m.Follows config plan ∧
      ((∀ source, m.Intact source) ∧ m.Lifecycle) ∧ m.relay.writeOpen .client = false) h.inv
    ⟨h.follows, ⟨h.intact, h.lifecycle⟩, h.closed⟩ fun m m' _ hm hmove =>
      ⟨hm.1.move hmove, ⟨fun source => (hm.2.1.1 source).move hmove,
        hm.2.1.2.move hm.2.1.1 hmove⟩, hmove.writeOpen_eq_false hm.2.2⟩
  obtain ⟨hfollows, ⟨hintact, hlifecycle⟩, hclosed⟩ := hkept
  exact ⟨hmoves.inv h.inv, h.past.trans (hmoves.trace_extends h.inv), hfollows, hintact, hlifecycle,
    hmoves.connected h.connected, hclosed⟩

lemma Session.HalfClosed.moves (h : s.HalfClosed start config plan) (hmoves : Moves io now s s') :
    s'.HalfClosed start config plan :=
  ⟨h.toCut.moves hmoves, hmoves.preserves h.inv h.ended
    fun _ _ _ hended hmove => hmove.readOpen_eq_false hended⟩

/-- A read that meets the end of the stream. -/
lemma handleReadable_ends (now : ℤ) (hinv : s.Inv) {source : Side}
    (hrunning : (s.relay.directionFrom source).backpressure.readPaused = false)
    (hio : ∀ span, io.receive s.trace source span = .peerClosed 0) (hint : Bool) :
    ∃ s', s.handleReadable io source hint now = .ok (.proceed, s') ∧ Moves io now s s' ∧
      s'.relay.readOpen source = false ∧ s'.relay.directionFrom = s.relay.directionFrom := by
  rcases hopen : s.relay.readOpen source with _ | _
  · refine ⟨s, ?_, .refl, hopen, rfl⟩
    simp [Session.handleReadable, Loop.run, Session.handleReadableBody, hopen]
  have hread : s.Readable source _ := ⟨hopen, hrunning, rfl⟩
  refine ⟨_, ?_, .single (.endOfStream source _ hint (.peerClosed 0) hread (hio _)
    (.inr ⟨0, rfl⟩)), ?_, ?_⟩
  · rw [Session.handleReadable, Loop.run, handleReadableBody_eq hinv hint hread, hio]
  · exact Function.update_self ..
  · rfl

/-- With nothing left for upstream, reads from the client run, and meet its end of stream. -/
lemma Session.HalfClosed.finish (h : s.HalfClosed start config plan) (now : ℤ)
    (hends : io.EndsAfter start)
    (hempty : (s.relay.directionFrom .client).queue.size = 0) :
    ∃ s', s.handleReadable io .client false now = .ok (.proceed, s') ∧
      s'.relay.fullyDrained = true := by
  have hrunning : (s.relay.directionFrom .client).backpressure.readPaused = false := by
    by_contra hpaused
    have := ((h.inv .client).paused (by simpa using hpaused)).1
    omega
  obtain ⟨s', hrun, hmoves, hended, hdir⟩ := handleReadable_ends now h.inv hrunning
    (fun span => hends _ _ span h.past) false
  have h' := h.moves hmoves
  refine ⟨s', hrun, Relay.fullyDrained_iff.mpr ?_⟩
  rintro (_ | _)
  · exact ⟨hended, .inl (by rw [hdir]; exact hempty)⟩
  · exact ⟨h'.ended, .inr h'.closed⟩

/-- A trip of `flush` whose socket accepts leaves the loop without a result. -/
lemma flushBody_exit_eq_none (hinv : s.Inv) {destination : Side}
    (hopen : s.relay.writeOpen destination = true)
    (hconn : destination = .upstream → s.relay.upstreamConnecting = false)
    (hio : io.AcceptsAfter start destination) (hstart : start <+: s.trace) {r : Option PumpResult}
    (hbody : s.flushBody io destination now = .ok (.exit r s')) : r = none := by
  rcases Nat.eq_zero_or_pos (s.relay.directionFrom destination.peer).queue.size with hempty | hsize
  · rw [Session.flushBody, if_pos ((ByteQueue.empty_iff _).mpr hempty)] at hbody
    exact (Loop.Trip.exit.inj (Except.ok.inj hbody)).1.symm
  obtain ⟨budget, hbudget⟩ : ∃ budget, budget = (faultSendable
    (s.relay.directionFrom destination.peer)
    (s.relay.directionFrom destination.peer).queue.readableSpan.length now).1 := ⟨_, rfl⟩
  rcases Nat.eq_zero_or_pos budget with hzero | hpos
  · rw [flushBody_eq destination hsize hbudget rfl, if_pos hzero] at hbody
    exact (Loop.Trip.exit.inj (Except.ok.inj hbody)).1.symm
  · exact absurd hbody (flushBody_continues hinv hopen hconn hsize (hbudget ▸ hpos) hio hstart r s')

/-- A flush towards a socket that accepts closes nothing, unless by the injected reset. -/
lemma flush_goesOn (hinv : s.Inv) {destination : Side} (hio : io.AcceptsAfter start destination)
    (hstart : start <+: s.trace) {result : PumpResult}
    (hrun : s.flush io destination now = .ok (result, s')) :
    (CallResult.pumped result).GoesOn := by
  rintro finalState reason heq
  obtain rfl := CallResult.pumped.inj heq
  by_cases hguard : (!s.relay.writeOpen destination ||
      (decide (destination = .upstream) && s.relay.upstreamConnecting)) = true
  · rw [Session.flush, if_pos hguard] at hrun
    cases hrun
  rw [Session.flush, if_neg hguard] at hrun
  have hopen : s.relay.writeOpen destination = true ∧
      (destination = .upstream → s.relay.upstreamConnecting = false) := by
    simpa using hguard
  split at hrun
  · cases hrun
  · next r last hloop =>
      obtain ⟨m, ⟨hm, hstart', hopen', hconn'⟩, hbody⟩ := Loop.run_exit
        (fun m : Session => m.Inv ∧ start <+: m.trace ∧ m.relay.writeOpen destination = true ∧
          (destination = .upstream → m.relay.upstreamConnecting = false))
        (by
          rintro m m' ⟨hm, hstart', hopen', hconn'⟩ hbody
          obtain ⟨n, added, hbody', hmoves, -, -, hopen'', hconn'', -⟩ | ⟨r, n, added, hbody', -⟩ :=
            flushBody_spec io now hm destination hopen' hconn'
          · obtain rfl := Loop.Trip.again.inj (Except.ok.inj (hbody.symm.trans hbody'))
            exact ⟨hmoves.inv hm, hstart'.trans (hmoves.trace_extends hm), hopen'',
              hconn'' ▸ hconn'⟩
          · cases Except.ok.inj (hbody.symm.trans hbody'))
        _ s ⟨hinv, hstart, hopen⟩ hloop
      cases flushBody_exit_eq_none hm hopen' hconn' hio hstart' hbody
  · next last hloop =>
      have hresult := congrArg Prod.fst (Except.ok.inj hrun)
      simp only [Session.checkLifecycleFaults] at hresult
      split_ifs at hresult
      cases hresult
      rfl

/-- One flush with a budget: something is done for upstream. -/
lemma Session.HalfClosed.flush (h : s.HalfClosed start config plan)
    (hio : io.AcceptsAfter start .upstream)
    (hends : io.EndsAfter start)
    (hopen : s.relay.writeOpen .upstream = true)
    (hsize : 0 < (s.relay.directionFrom .client).queue.size)
    (hpos : 0 < (faultSendable (s.relay.directionFrom .client)
      (s.relay.directionFrom .client).queue.size now).1) :
    ∃ result s', s.flush io .upstream now = .ok (result, s') ∧ Moves io now s s' ∧
      s'.relay.load .upstream now < s.relay.load .upstream now ∧
      (CallResult.pumped result).GoesOn := by
  obtain ⟨result, s', -, hrun, hmoves, -⟩ := flush_spec io now h.inv .upstream
  have hdry : s.Dry io .client := by
    refine .inr fun history span bytes hpast => ?_
    rw [hends history .client span (h.past.trans hpast)]
    simp
  exact ⟨result, s', hrun, hmoves,
    flush_load_lt h.inv hdry hopen (fun _ => h.connected) hsize hpos hio h.past hrun,
    flush_goesOn h.inv hio h.past hrun⟩

/-- **What is queued for upstream drains.**  It is flushed when it has a budget, which lowers the
load; the induction is on the load. -/
lemma Session.HalfClosed.drains (hio : io.AcceptsAfter start .upstream)
    (hends : io.EndsAfter start) (load : ℕ) :
    ∀ (now : ℤ) (s : Session), s.HalfClosed start config plan →
      s.relay.load .upstream now = load →
      s.DrainsFrom io now (plan.rateBytesPerSecond ≤ 1000000000 ∧ s.RefilledUntil now) := by
  induction load using Nat.strong_induction_on with
  | _ load ih =>
  intro now s h hload
  rcases Nat.eq_zero_or_pos (s.relay.directionFrom .client).queue.size with hempty | hsize
  · obtain ⟨s', hrun, hdrained⟩ := h.finish now hends hempty
    refine ⟨[.handleReadable .client false now], [.pumped .proceed], s', ?_, hdrained, ?_, ?_, ?_⟩
    · simp [execAll, Call.exec, hrun, Except.map]
    · simp [Clocked, Call.time?]
    · simp [CallResult.GoesOn]
    · simp [FollowWakes, Call.time?]
  have hopen : s.relay.writeOpen .upstream = true := by
    by_contra hclosed
    rcases h.lifecycle.closed .upstream (by simpa using hclosed) with ⟨-, hzero⟩ | ⟨hside, -⟩
    · exact hsize.ne' hzero
    · cases hside
  -- a flush that comes with a budget, here or after a wake
  have hflush : ∀ (t : ℤ) (m : Session), m.HalfClosed start config plan →
      m.relay.writeOpen .upstream = true → 0 < (m.relay.directionFrom .client).queue.size →
      0 < (faultSendable (m.relay.directionFrom .client)
        (m.relay.directionFrom .client).queue.size t).1 →
      m.relay.load .upstream t ≤ load → ∀ past ≤ t, ∀ followed : Prop,
      (followed → t = past ∧ plan.rateBytesPerSecond ≤ 1000000000 ∧ m.RefilledUntil t) →
      m.DrainsFrom io past followed := by
    intro t m hm hopen' hsize' hpos hle past hpast followed hfollowed
    obtain ⟨result, m', hrun, hmoves, hless, hgoes⟩ := hm.flush hio hends hopen' hsize' hpos
    have hcall : (Call.flush .upstream t).exec io m = .ok (.pumped result, m') := by
      simp only [Call.exec, hrun, Except.map]
    refine (ih _ (hless.trans_le hle) t m' (hm.moves hmoves) rfl).cons hcall rfl hpast le_rfl hgoes
      fun hf => ?_
    obtain ⟨rfl, hrate, hrefilled⟩ := hfollowed hf
    exact ⟨rfl, rfl, hrate, hmoves.preserves hm.inv hrefilled
      fun _ _ _ hr hmove => hr.move le_rfl hmove⟩
  by_cases hfollowed : plan.rateBytesPerSecond ≤ 1000000000 ∧ s.RefilledUntil now
  swap
  · obtain ⟨t, hle, hpos⟩ := Direction.exists_sendable (h.inv .client) hsize now
    exact hflush t s h hopen hsize hpos ((s.relay.load_anti hle).trans_eq hload) now hle _
      fun hf => absurd hf hfollowed
  have hpending : s.relay.Pending .upstream now := by
    refine ⟨hopen, fun _ => h.connected, hsize, h.inv .client, fun channel b hc hb => ⟨?_, ?_⟩⟩
    · rw [(((h.follows .client).channel channel hc).bucket b hb).1]
      exact hfollowed.1
    · exact hfollowed.2 .client channel b hc hb
  by_cases hwrite : (s.relay.desiredInterest .upstream now).1.write = true
  · exact hflush now s h hopen hsize ((hpending.write_iff now).mp hwrite) hload.le now le_rfl _
      fun hf => ⟨rfl, hf⟩
  -- no budget: the next wake brings one, or releases a segment
  obtain ⟨t, r', hnext, hlt, hpending', hwoken⟩ := hpending.step hwrite
  have hrefills : Refills now s.relay r' := by
    have := nextWake_refills s.relay .upstream now
    rwa [hnext] at this
  have hmoves : Moves io now s { s with relay := r' } := hrefills.moves
  have hm := h.moves hmoves
  have hrefilled : Session.RefilledUntil t { s with relay := r' } :=
    hmoves.preserves h.inv (fun source channel b hc hb =>
      (hfollowed.2 source channel b hc hb).trans hlt.le) fun _ _ _ hr hmove => hr.move hlt.le hmove
  have hkeeps : s.Keeps .upstream now { s with relay := r' } :=
    ⟨congrFun hrefills.flags.2.1 _, hrefills.direction _⟩
  have hcall : (Call.nextWake .upstream now).exec io s =
      .ok (.wake (some t), { s with relay := r' }) := by
    simp only [Call.exec, hnext]
  have hrest : Session.DrainsFrom io t (plan.rateBytesPerSecond ≤ 1000000000 ∧
      Session.RefilledUntil t { s with relay := r' }) { s with relay := r' } := by
    rcases hwoken with hwrite' | hheld
    · exact hflush t _ hm hpending'.writeOpen hpending'.size ((hpending'.write_iff t).mp hwrite')
        ((r'.load_anti hlt.le).trans (hkeeps.load.trans hload).le) t le_rfl _ fun hf => ⟨rfl, hf⟩
    · refine ih _ ?_ t _ hm rfl
      have hqueue := hrefills.queue .client
      rw [← hload, Relay.load_of_open hpending'.writeOpen, Relay.load_of_open hopen]
      simp only [Side.peer] at hheld hqueue ⊢
      rw [hqueue]
      omega
  exact hrest.cons hcall rfl le_rfl hlt.le (fun _ _ heq => by cases heq)
    fun _ => ⟨rfl, rfl, hfollowed.1, hrefilled⟩

/-- **A connection whose client socket is shut down and whose upstream is read can be drained.** -/
lemma Session.Cut.canDrain (h : s.Cut s.trace config plan) (io : SocketIo) (now : ℤ)
    (hrunning : (s.relay.directionFrom .upstream).backpressure.readPaused = false) :
    s.CanDrain io now (plan.rateBytesPerSecond ≤ 1000000000 ∧ s.RefilledUntil now) := by
  refine ⟨io.endingAfter s.trace, io.endingAfter_agrees s.trace, ?_⟩
  have hends := io.endingAfter_ends s.trace
  obtain ⟨m, hrun, hmoves, hended, -⟩ := handleReadable_ends now h.inv hrunning
    (fun span => hends s.trace .upstream span List.prefix_rfl) false
  have hm : m.HalfClosed s.trace config plan := ⟨h.moves hmoves, hended⟩
  have hcall : (Call.handleReadable .upstream false now).exec (io.endingAfter s.trace) s =
      .ok (.pumped .proceed, m) := by
    simp only [Call.exec, hrun, Except.map]
  refine (hm.drains (io.endingAfter_accepts s.trace .upstream) hends _ now m rfl).cons hcall rfl
    le_rfl le_rfl (fun _ _ heq => by cases heq) fun hf => ⟨rfl, rfl, hf.1, ?_⟩
  exact hmoves.preserves h.inv hf.2 fun _ _ _ hr hmove => hr.move le_rfl hmove

end Drain

end NetFault
