import NetFault.Workload.Server

/-!
# What the worker's loops keep

One rule for each inner loop of the server.  The properties they keep may depend on how far the
loop has come: on the milliseconds that `interruptible_delay` has still to sleep, and on the bytes
that `send_all` has still to send.  The rules also say when the stop token was last looked at:
before each sleep, send and receive, and nothing comes in between.
-/

namespace NetFault

open Process

namespace SocketCall

/-- A call whose answer makes a worker give up. -/
def isFatal : SocketCall → Bool
  | .recv _ (.failed errno) => decide (errno ≠ EINTR ∧ errno ≠ EAGAIN)
  | .send _ (.failed errno) => decide (errno ≠ EINTR)
  | .send _ (.returned count) => count == 0
  | _ => false

end SocketCall

namespace Calls

/-- A call has failed for good. -/
def Broken (h : Calls) : Prop := ∃ e ∈ h, e.isFatal = true

instance (h : Calls) : Decidable h.Broken := inferInstanceAs (Decidable (∃ e ∈ h, _))

@[simp] lemma broken_snoc {h : Calls} {e : SocketCall} :
    Broken (h ++ [e]) ↔ Broken h ∨ e.isFatal = true := by
  simp [Broken, or_and_right, exists_or]

@[simp] lemma not_broken_nil : ¬ Broken [] := by simp [Broken]

/-- The last call found the stop token unset. -/
def Polled (h : Calls) : Prop := h.getLast? = some (.stopRequested false)

instance (h : Calls) : Decidable h.Polled := inferInstanceAs (Decidable (_ = _))

@[simp] lemma polled_snoc {h : Calls} {e : SocketCall} :
    Polled (h ++ [e]) ↔ e = .stopRequested false := by
  simp [Polled]

end Calls

namespace Server

variable {io : BlockingSocket} {config : ServerConfig} {budget : ℕ}

/-- The delay before the operations of a mode, in milliseconds. -/
def delayOf (config : ServerConfig) (mode : ServerMode) : ℤ :=
  if config.mode = mode then config.delay else 0

section Poll

variable {J : Calls → Prop} {α : Type} {Q : α → Calls → Prop} {I : Calls → Prop}

/-- **Looking at the stop token**, before going on or giving up. -/
lemma meets_unlessStopped {stop go : Process SocketCall α}
    (hstop : Meets (fun h : Calls => (∃ past, J past ∧ io.stopRequested past = true ∧
      h = past ++ [.stopRequested true]) ∧ h.Stopped) stop Q I)
    (hgo : Meets (fun h : Calls => (∃ past, J past ∧ io.stopRequested past = false ∧
      h = past ++ [.stopRequested false]) ∧ h.Polled) go Q I) :
    Meets J (do
      let stopped ← io.isStopRequested
      if stopped then stop else go) Q I := by
  refine Meets.bind (R := fun stopped (h : Calls) =>
      ∃ past, J past ∧ io.stopRequested past = stopped ∧ h = past ++ [.stopRequested stopped])
    (meets_call fun h hh => ⟨h, hh, rfl, rfl⟩) fun stopped => ?_
  cases stopped with
  | true =>
      refine hstop.strengthen fun h hh => ⟨hh, ?_⟩
      obtain ⟨past, -, -, rfl⟩ := hh
      simp [SocketCall.isStop]
  | false =>
      refine hgo.strengthen fun h hh => ⟨hh, ?_⟩
      obtain ⟨past, -, -, rfl⟩ := hh
      simp

end Poll

section Delay

variable {K : ℤ → Calls → Prop}
  (hpoll : ∀ left h answer, io.stopRequested h = answer → K left h →
    K left (h ++ [.stopRequested answer]))
  (hsleep : ∀ left (h : Calls), 0 < left → h.Polled → K left h →
    K (left - min left 10) (h ++ [.sleepFor (min left 10)]))

include hpoll hsleep

/-- **What `interruptible_delay` keeps**: when it is to be acted on, the delay is over, unless a
request to stop was seen and then withdrawn. -/
lemma interruptibleDelay_meets (delay : ℤ) :
    Meets (K delay) (interruptibleDelay io budget delay)
      (fun proceed (h : Calls) => ∃ left, K left h ∧
        (proceed = true → (left ≤ 0 ∨ h.Stopped) ∧ h.Polled) ∧ (proceed = false → h.Stopped))
      (fun h => ∃ left, K left h) := by
  refine Meets.bind (R := fun _ (h : Calls) => ∃ left, K left h ∧ (left ≤ 0 ∨ h.Stopped))
    (meets_iterate K (fun left => ?_) (fun left _ hh => ⟨left, hh⟩) _ _) fun _ => ?_
  · unfold delayTrip
    split_ifs with hleft
    · refine meets_unlessStopped (meets_pure ?_) ?_
      · rintro h ⟨⟨past, hpast, hanswer, rfl⟩, hstopped⟩
        exact ⟨left, hpoll left past true hanswer hpast, .inr hstopped⟩
      · refine Meets.bind (R := fun _ => K (left - min left 10)) (meets_call ?_)
          fun _ => meets_pure fun _ hh => hh
        rintro h ⟨⟨past, hpast, hanswer, rfl⟩, hpolled⟩
        exact hsleep left _ hleft hpolled (hpoll left past false hanswer hpast)
    · exact meets_pure fun h hh => ⟨left, hh, .inl (not_lt.mp hleft)⟩
  · refine Meets.bind (R := fun stopped (h : Calls) =>
        ∃ past left, K left past ∧ (left ≤ 0 ∨ past.Stopped) ∧ io.stopRequested past = stopped ∧
          h = past ++ [.stopRequested stopped])
      (meets_call fun h ⟨left, hh⟩ => ⟨h, left, hh.1, hh.2, rfl, rfl⟩) fun stopped => meets_pure ?_
    rintro h ⟨past, left, hpast, hleft, hanswer, rfl⟩
    refine ⟨left, hpoll left past _ hanswer hpast, ?_, ?_⟩
    · intro hgo
      obtain rfl : stopped = false := by simpa using hgo
      simpa [SocketCall.isStop] using hleft
    · intro hstop
      obtain rfl : stopped = true := by simpa using hstop
      simp [SocketCall.isStop]

/-- The same with the delay of a mode, which in the other modes is none. -/
lemma delayIn_meets (mode : ServerMode) :
    Meets (fun h : Calls => K (delayOf config mode) h ∧ h.Polled) (delayIn io config budget mode)
      (fun proceed (h : Calls) => ∃ left, K left h ∧
        (proceed = true → (left ≤ 0 ∨ h.Stopped) ∧ h.Polled) ∧ (proceed = false → h.Stopped))
      (fun h => ∃ left, K left h) := by
  unfold delayIn delayOf
  split_ifs
  · exact (interruptibleDelay_meets hpoll hsleep _).strengthen fun _ hh => hh.1
  · exact meets_pure fun h hh => ⟨0, hh.1, fun _ => ⟨.inl le_rfl, hh.2⟩, by simp⟩

end Delay

section Send

variable {K : List Byte → ℤ → Calls → Prop}
  (hpoll : ∀ rest left h answer, io.stopRequested h = answer → K rest left h →
    K rest left (h ++ [.stopRequested answer]))
  (hsleep : ∀ rest left (h : Calls), 0 < left → h.Polled → K rest left h →
    K rest (left - min left 10) (h ++ [.sleepFor (min left 10)]))
  (hsend : ∀ rest left (h : Calls) data result, K rest left h → (left ≤ 0 ∨ h.Stopped) →
    h.Polled → data <+: rest → (0 < config.chunkBytes → data ≠ []) →
    data.length ≤ config.chunkBytes → taken result ≤ data.length →
    K (rest.drop (taken result)) (delayOf config .slowWriter) (h ++ [.send data result]))

include hpoll hsleep hsend

/-- **One trip of `send_all`.**  Nothing is left to send, or the trip makes one call of `send`, or
it gives up. -/
lemma sendTrip_meets (data : List Byte) (offset : ℕ) :
    Meets (fun h => offset ≤ data.length ∧ K (data.drop offset) (delayOf config .slowWriter) h)
      (sendTrip io config budget data offset)
      (Next.Holds
        (fun offset' h => offset' ≤ data.length ∧
          K (data.drop offset') (delayOf config .slowWriter) h)
        fun ok (h : Calls) => (∃ rest left, K rest left h) ∧
          (ok = true → K [] (delayOf config .slowWriter) h) ∧
          (ok = false → h.Stopped ∨ h.Broken))
      (fun h => ∃ rest left, K rest left h) := by
  unfold sendTrip
  split_ifs with hmore
  · have hneq : (offset == data.length) = false := by
      rw [beq_eq_false_iff_ne]
      omega
    refine meets_unlessStopped (meets_pure ?_) ?_
    · rintro h ⟨⟨past, hpast, hanswer, rfl⟩, hstopped⟩
      refine ⟨⟨_, _, hpoll _ _ past true hanswer hpast.2⟩, ?_, fun _ => .inl hstopped⟩
      rw [hneq]
      exact fun hok => by cases hok
    refine Meets.bind ((delayIn_meets (hpoll (data.drop offset)) (hsleep (data.drop offset))
      .slowWriter).weaken ?_ (fun _ _ hh => hh) (fun _ hh => ⟨_, hh⟩)) fun proceed => ?_
    · rintro h ⟨⟨past, hpast, hanswer, rfl⟩, hpolled⟩
      exact ⟨hpoll _ _ past false hanswer hpast.2, hpolled⟩
    split_ifs with hp
    · obtain rfl : proceed = true := hp
      refine Meets.bind (R := fun result (h : Calls) => offset + taken result ≤ data.length ∧
          K (data.drop (offset + taken result)) (delayOf config .slowWriter) h ∧
          (taken result = 0 → result ≠ .failed EINTR → h.Broken)) (meets_call ?_) ?_
      · rintro h ⟨left, hh, hgo, -⟩
        obtain ⟨hleft, hpolled⟩ := hgo rfl
        -- a `send` takes at most what it is offered, which lies within the data
        have htaken : taken (io.send h ((data.drop offset).take
            (min (data.length - offset) config.chunkBytes))) ≤
              ((data.drop offset).take (min (data.length - offset) config.chunkBytes)).length := by
          rcases hres : io.send h _ with count | errno
          · exact io.send_returned _ _ _ hres
          · exact Nat.zero_le _
        have hlen : ((data.drop offset).take
            (min (data.length - offset) config.chunkBytes)).length =
              min (data.length - offset) config.chunkBytes := by
          rw [List.length_take, List.length_drop]
          omega
        refine ⟨by omega, ?_, fun hzero hne => ?_⟩
        · rw [← List.drop_drop]
          refine hsend _ left h _ _ hh hleft hpolled (List.take_prefix _ _) ?_ (by omega) htaken
          intro hchunk hnil
          rw [hnil, List.length_nil] at hlen
          omega
        · refine Calls.broken_snoc.mpr (.inr ?_)
          rcases hres : io.send h _ with count | errno <;> rw [hres] at hzero hne
          · simpa [SocketCall.isFatal, taken] using hzero
          · simpa [SocketCall.isFatal] using hne
      · intro result
        rcases result with count | errno
        · show Meets _ (if count > 0 then _ else _) _ _
          split_ifs with hc
          · exact meets_pure fun h hh => ⟨hh.1, hh.2.1⟩
          · exact meets_pure fun h hh => ⟨⟨_, _, hh.2.1⟩, by simp, fun _ =>
              .inr (hh.2.2 (by simp only [taken]; omega) (by simp))⟩
        · show Meets _ (if errno = EINTR then _ else _) _ _
          split_ifs with he
          · exact meets_pure fun h hh => ⟨hh.1, hh.2.1⟩
          · exact meets_pure fun h hh => ⟨⟨_, _, hh.2.1⟩, by simp, fun _ =>
              .inr (hh.2.2 rfl (by simpa using he))⟩
    · refine meets_pure ?_
      rintro h ⟨left, hh, -, hstop⟩
      exact ⟨⟨_, _, hh⟩, by simp, fun _ => .inl (hstop (by simpa using hp))⟩
  · refine meets_pure fun h hh => ?_
    obtain rfl : offset = data.length := by omega
    exact ⟨⟨_, _, hh.2⟩, fun _ => by simpa using hh.2, by simp⟩

/-- **What `send_all` keeps**: with `true` nothing is left, and it gives up only when told to stop
or after a call that failed. -/
lemma sendAll_meets (data : List Byte) :
    Meets (K data (delayOf config .slowWriter)) (sendAll io config budget data)
      (fun ok (h : Calls) => (∃ rest left, K rest left h) ∧
        (ok = true → K [] (delayOf config .slowWriter) h) ∧ (ok = false → h.Stopped ∨ h.Broken))
      (fun h => ∃ rest left, K rest left h) :=
  (meets_iterate
    (fun offset h => offset ≤ data.length ∧ K (data.drop offset) (delayOf config .slowWriter) h)
    (sendTrip_meets hpoll hsleep hsend data) (fun _ _ hh => ⟨_, _, hh.2⟩) budget 0).strengthen
    fun _ hh => ⟨Nat.zero_le _, by simpa using hh⟩

end Send

section Drain

variable {J : Calls → Prop}
  (hpoll : ∀ h answer, io.stopRequested h = answer → J h → J (h ++ [.stopRequested answer]))
  (hrecv : ∀ (h : Calls) result, J h → h.Polled →
    (∀ bytes, result = .returned bytes → bytes.length ≤ config.chunkBytes) →
    SocketCall.isEof (.recv config.chunkBytes result) = false →
      J (h ++ [.recv config.chunkBytes result]))

include hpoll hrecv

/-- **What `drain_until_eof` keeps**: it returns when told to stop, at the end of the stream, or
after a call that failed. -/
lemma drainUntilEof_meets :
    Meets J (drainUntilEof io config budget)
      (fun _ (h : Calls) => (J h ∧ (h.Stopped ∨ h.Broken)) ∨ ∃ past : Calls,
        J past ∧ past.Polled ∧ h = past ++ [.recv config.chunkBytes (.returned [])]) J := by
  refine meets_iterate (fun _ => J) (fun _ => ?_) (fun _ _ hh => hh) budget ()
  refine meets_unlessStopped (meets_pure ?_) ?_
  · rintro h ⟨⟨past, hpast, hanswer, rfl⟩, hstopped⟩
    exact .inl ⟨hpoll past true hanswer hpast, .inl hstopped⟩
  refine Meets.bind (R := fun result (h : Calls) =>
      ∃ past : Calls, (J past ∧ past.Polled) ∧
        (∀ bytes, result = .returned bytes → bytes.length ≤ config.chunkBytes) ∧
        h = past ++ [.recv config.chunkBytes result])
    (meets_call ?_) fun result => ?_
  · rintro h ⟨⟨past, hpast, hanswer, rfl⟩, hpolled⟩
    exact ⟨_, ⟨hpoll past false hanswer hpast, hpolled⟩, io.recv_returned _ _, rfl⟩
  rcases result with bytes | errno
  · show Meets _ (if bytes = [] then _ else _) _ _
    split_ifs with hb
    · refine meets_pure ?_
      rintro h ⟨past, hpast, -, rfl⟩
      exact .inr ⟨past, hpast.1, hpast.2, by rw [hb]⟩
    · refine meets_pure ?_
      rintro h ⟨past, hpast, hlen, rfl⟩
      exact hrecv past _ hpast.1 hpast.2 hlen (by simp [SocketCall.isEof, hb])
  · show Meets _ (if errno ≠ EINTR ∧ errno ≠ EAGAIN then _ else _) _ _
    split_ifs with he
    · refine meets_pure ?_
      rintro h ⟨past, hpast, -, rfl⟩
      refine .inl ⟨hrecv past _ hpast.1 hpast.2 (by simp) rfl, .inr ?_⟩
      exact Calls.broken_snoc.mpr (.inr (by simpa [SocketCall.isFatal] using he))
    · refine meets_pure ?_
      rintro h ⟨past, hpast, -, rfl⟩
      exact hrecv past _ hpast.1 hpast.2 (by simp) rfl

end Drain

end Server

end NetFault
