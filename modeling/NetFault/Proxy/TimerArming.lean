import NetFault.Proxy.Runs

/-!
# The timerfd is never left unarmed

`arm_timer_fd` runs at the end of each iteration and skips the system call when the next deadline
is the one it armed last.  That is right as long as the cache `last_armed_deadline_` tells the
truth: the timerfd is armed for that deadline, or has expired for it and was not read.  Reading it
is followed by `process_due_timers`, which clears the cache; nothing else touches the timerfd but
the clock.

Deadlines at or before the epoch of the clock are set as one nanosecond, the earliest time that
does not disarm.  With a clock that starts at zero there are none.
-/

namespace NetFault

/-- The time the timerfd is set to for a deadline. -/
def timerSetting (deadline : ℤ) : ℤ := max deadline 1

lemma timerSetting_of_pos {deadline : ℤ} (h : 0 < deadline) : timerSetting deadline = deadline :=
  max_eq_left h

/-- `settime` with the value computed for a deadline arms for it, or expires at once. -/
lemma settime_timerSpec (deadline clock : ℤ) :
    TimerFd.settime (Runtime.timerSpec deadline) clock =
      if timerSetting deadline ≤ clock then { expired := some (timerSetting deadline) }
      else { armed := some (timerSetting deadline) } := by
  obtain ⟨t, ht⟩ : ∃ t, t = timerSetting deadline := ⟨_, rfl⟩
  have hpos : 0 < t := ht ▸ Int.lt_of_lt_of_le Int.one_pos (le_max_right _ _)
  have hsince : (if deadline ≤ 0 then 1 else deadline) = t := by
    rw [ht, timerSetting]
    split_ifs <;> omega
  obtain ⟨seconds, hseconds⟩ : ∃ seconds, seconds = t.tdiv 1000000000 := ⟨_, rfl⟩
  have hnonzero : ¬(seconds = 0 ∧ t - seconds * 1000000000 = 0) := by omega
  have hspec : Runtime.timerSpec deadline = ⟨seconds, t - seconds * 1000000000⟩ := by
    simp only [Runtime.timerSpec, hsince, ← hseconds, if_neg hnonzero]
  have hvalue : seconds * 1000000000 + (t - seconds * 1000000000) = t := by omega
  rw [hspec, TimerFd.settime, if_neg hnonzero, ← ht]
  simp only [hvalue]

/-! ## The cache tells the truth -/

/-- The timerfd stands for the deadline it was armed for last, unless it was fired. -/
structure Runtime.Armed (p : Runtime) : Prop where
  oneShot : p.timerFd.armed = none ∨ p.timerFd.expired = none
  cached : ∀ deadline, p.lastArmedDeadline = some deadline →
    p.timerFd.armed = some (timerSetting deadline) ∨
      p.timerFd.expired = some (timerSetting deadline)

section Armed

variable {io : ℕ → SocketIo} {now clock : ℤ} {p p' mid : Runtime} {event : TimerEvent}

lemma Runtime.Armed.of_eq (h : p.Armed) (hlast : p'.lastArmedDeadline = p.lastArmedDeadline)
    (hfd : p'.timerFd = p.timerFd) : p'.Armed :=
  ⟨hfd ▸ h.oneShot, fun deadline hd => hfd ▸ h.cached deadline (hlast ▸ hd)⟩

/-- A timer that the clock reaches turns from armed to expired, for the same time. -/
lemma Runtime.Armed.tick (h : p.Armed) (clock : ℤ) :
    Runtime.Armed { p with timerFd := p.timerFd.tick clock } := by
  rcases harmed : p.timerFd.armed with _ | time
  · have hsame : p.timerFd.tick clock = p.timerFd := by simp [TimerFd.tick, harmed]
    exact h.of_eq rfl hsame
  by_cases hdue : time ≤ clock
  · have hexpired : p.timerFd.tick clock = { expired := some time } := by
      simp [TimerFd.tick, harmed, hdue]
    refine ⟨.inl (by rw [hexpired]), fun deadline hd => .inr ?_⟩
    rcases h.cached deadline hd with hset | hset
    · rw [hexpired, ← hset, harmed]
    · exact absurd (h.oneShot.resolve_left (by simp [harmed])) (by simp [hset])
  · have hsame : p.timerFd.tick clock = p.timerFd := by simp [TimerFd.tick, harmed, hdue]
    exact h.of_eq rfl hsame

/-- Setting the timer restores the cache; a failed call leaves both alone. -/
lemma Runtime.Armed.arm (h : p.Armed) (clock : ℤ) (ok : Bool) : (p.armTimerFd clock ok).Armed := by
  rw [Runtime.armTimerFd]
  split_ifs with hsame hok
  · exact h
  · rcases hnext : p.timerQueue.nextDeadline with _ | deadline
    · exact ⟨.inl rfl, by simp⟩
    · have hset : TimerFd.settime (((some deadline).map Runtime.timerSpec).getD {}) clock = _ :=
        settime_timerSpec deadline clock
      split_ifs at hset with hdue
      · refine ⟨.inl (by rw [hset]), ?_⟩
        rintro _ ⟨⟩
        exact .inr (by rw [hset])
      · refine ⟨.inr (by rw [hset]), ?_⟩
        rintro _ ⟨⟩
        exact .inl (by rw [hset])
  · exact h

lemma Popped.timerFd (h : Popped now event p mid) :
    mid.lastArmedDeadline = p.lastArmedDeadline ∧ mid.timerFd = p.timerFd := by
  rw [h.rest]
  exact ⟨rfl, rfl⟩

lemma Act.armed (h : Act io now p p') (hp : p.Armed) : p'.Armed := by
  cases h with
  | accept connecting c newborn token room => exact hp.of_eq rfl rfl
  | serve id c _ live work => exact hp.of_eq work.frame.2.1 work.frame.2.2.1
  | fire =>
      -- the expiration is read, and the cache is cleared with it
      exact ⟨.inr rfl, by simp⟩
  | skip event _ popped idle => exact hp.of_eq popped.timerFd.1 popped.timerFd.2
  | wake event c mid _ popped live kind work =>
      exact hp.of_eq (work.frame.2.1.trans popped.timerFd.1)
        (work.frame.2.2.1.trans popped.timerFd.2)
  | timeOut event c mid reason popped live due =>
      exact hp.of_eq (by simpa using popped.timerFd.1) (by simpa using popped.timerFd.2)
  | postpone event c mid popped live kind active => exact hp.of_eq popped.timerFd.1 popped.timerFd.2

lemma Runtime.Armed.invariant (io : ℕ → SocketIo) :
    LoopInvariant io (fun _ => True) Runtime.Armed where
  act _ _ _ _ _ hp hact := hact.armed hp
  tick clock _ hp := hp.tick clock
  arm clock ok _ hp := hp.arm clock ok

end Armed

/-! ## Deadlines lie after the epoch -/

/-- Every entry of the queue is for a time after the epoch of the clock. -/
def Runtime.Positive (p : Runtime) : Prop := ∀ e ∈ p.timerQueue.heap, 0 < e.deadline

section Positive

variable {io : ℕ → SocketIo} {now : ℤ} {p p' mid : Runtime} {event : TimerEvent}

lemma Runtime.Positive.schedule (h : p.Positive) {deadline : ℤ} (hpos : 0 < deadline) {id : ℕ}
    {kind : TimerKind} (heq : p'.timerQueue = p.timerQueue.schedule deadline id kind) :
    p'.Positive := by
  intro e he
  rw [heq] at he
  rcases TimerQueue.mem_schedule.mp he with rfl | he
  · exact hpos
  · exact h e he

lemma Popped.positive (h : Popped now event p mid) (hp : p.Positive) : mid.Positive := by
  intro e he
  refine hp e ?_
  rw [(TimerQueue.popDue_eq_some h.popped).1]
  exact List.mem_cons_of_mem _ he

lemma Work.positive {io : SocketIo} {id : ℕ} {c : Connection} {config : ProxyConfig}
    (h : Work io now id c p p') (hs : c.session.Sound config) (hnow : 0 ≤ now) (hp : p.Positive) :
    p'.Positive := by
  rcases h.timerQueue hs with heq | ⟨wake, hlater, heq⟩
  · intro e he
    exact hp e (heq ▸ he)
  · exact hp.schedule (by omega) heq

lemma scheduleTimeouts_positive {connecting : Bool} {config : ProxyConfig} {id : ℕ}
    {q : TimerQueue} (hnow : 0 ≤ now) (hq : ∀ e ∈ q.heap, 0 < e.deadline) :
    ∀ e ∈ (Runtime.scheduleTimeouts id connecting now config q).heap, 0 < e.deadline := by
  intro e he
  obtain he | ⟨-, ⟨-, hdeadline, -, hpos⟩ | ⟨-, hdeadline, hpos⟩⟩ := of_mem_scheduleTimeouts he
  · exact hq e he
  · rw [hdeadline, ProxyConfig.connectTimeoutNs]
    omega
  · rw [hdeadline, ProxyConfig.idleTimeoutNs]
    omega

lemma Act.positive (h : Act io now p p') (hnow : 0 ≤ now) (hs : p.Sound) (hp : p.Positive) :
    p'.Positive := by
  cases h with
  | accept connecting c newborn token room =>
      exact scheduleTimeouts_positive hnow hp
  | serve id c _ live work => exact work.positive (hs.session id c live) hnow hp
  | fire => exact hp
  | skip event _ popped idle => exact popped.positive hp
  | wake event c mid _ popped live kind work =>
      exact work.positive (hs.resetDueWake live) hnow (popped.positive hp)
  | timeOut event c mid reason popped live due =>
      intro e he
      exact popped.positive hp e (by simpa using he)
  | postpone event c mid popped live kind active =>
      exact (popped.positive hp).schedule (hnow.trans_lt active) rfl

lemma Runtime.Positive.invariant (io : ℕ → SocketIo) :
    LoopInvariant io (fun now => 0 ≤ now) Runtime.Positive where
  act _ _ _ hnow hs hp hact := hact.positive hnow hs hp
  tick _ _ hp := hp
  arm clock ok p hp := by
    intro e he
    exact hp e (by simpa using he)

end Positive

/-! ## Between two iterations -/

/-- The call of `timerfd_settime` at the end of the iteration, if it is made, succeeds. -/
def Iteration.SettimeOk : Iteration → Prop
  | .interrupted _ => True
  | .batch _ _ settimeOk => settimeOk = true

/-- The cache is up to date. -/
def Runtime.Synced (p : Runtime) : Prop := p.lastArmedDeadline = p.timerQueue.nextDeadline

lemma Runtime.synced_armTimerFd (p : Runtime) (clock : ℤ) : (p.armTimerFd clock true).Synced := by
  rw [Runtime.Synced, Runtime.armTimerFd]
  split_ifs with hsame hok
  · exact hsame.symm
  · rfl
  · exact absurd rfl hok

/-- The end of an iteration brings the cache up to date; the induction is on the iterations. -/
lemma runLoop_synced {io : ℕ → SocketIo} :
    ∀ (iterations : List Iteration) {stopping stopping' : Bool} {p p' : Runtime},
      (∀ iteration ∈ iterations, iteration.SettimeOk) → p.Synced →
      Runtime.runLoop io iterations (stopping, p) = .ok (stopping', p') → p'.Synced
  | [], stopping, stopping', p, p', _, hp, hrun => by
      obtain ⟨-, rfl⟩ := Prod.mk.inj (Except.ok.inj hrun)
      exact hp
  | iteration :: iterations, stopping, stopping', p, p', hok, hp, hrun => by
      rw [Runtime.runLoop] at hrun
      split_ifs at hrun
      · obtain ⟨-, rfl⟩ := Prod.mk.inj (Except.ok.inj hrun)
        exact hp
      rcases hit : Runtime.runIteration io iteration p with _ | ⟨stopping₁, p₁⟩
      · rw [hit] at hrun
        cases hrun
      rw [hit] at hrun
      refine runLoop_synced iterations (fun i hi => hok i (List.mem_cons_of_mem _ hi)) ?_ hrun
      have hthis := hok iteration (List.mem_cons_self ..)
      cases iteration with
      | interrupted clock =>
          obtain ⟨-, rfl⟩ := Prod.mk.inj (Except.ok.inj hit)
          exact hp
      | batch steps clock settimeOk =>
          obtain rfl : settimeOk = true := hthis
          rcases hsteps : Runtime.runSteps io steps (false, p) with _ | ⟨stopping₂, p₂⟩
          · simp [Runtime.runIteration, hsteps, Except.map] at hit
          · obtain ⟨-, rfl⟩ : stopping₂ = stopping₁ ∧ p₂.armTimerFd clock true = p₁ := by
              simpa [Runtime.runIteration, hsteps, Except.map] using hit
            exact p₂.synced_armTimerFd clock

/-- **The timerfd is never left unarmed.**  After every iteration of every run in which
`timerfd_settime` succeeds, with the timer expiring at any moment, while the timer queue is not
empty:
* the timerfd is armed for exactly the next deadline, or has an unread expiration from a setting
  equal to it, when the clock readings are not negative;
* whatever the clock readings, the same holds with a deadline before the epoch replaced by the
  first nanosecond after it;
* so once the clock has reached that time, there is an expiration to be read. -/
theorem timerfd_armed_for_next_deadline (io : ℕ → SocketIo) (config : ProxyConfig)
    (hconfig : config.validate = .ok ()) (iterations : List Iteration)
    (hok : ∀ iteration ∈ iterations, iteration.SettimeOk) :
    ∃ stopping p, Runtime.runLoop io iterations (false, { config }) = .ok (stopping, p) ∧
      ∀ deadline, p.timerQueue.nextDeadline = some deadline →
        ((∀ iteration ∈ iterations, ∀ now ∈ iteration.readings, 0 ≤ now) →
          p.timerFd.armed = some deadline ∨ p.timerFd.expired = some deadline) ∧
        (p.timerFd.armed = some (max deadline 1) ∨ p.timerFd.expired = some (max deadline 1)) ∧
        ∀ clock, max deadline 1 ≤ clock → (p.timerFd.tick clock).expired.isSome = true := by
  obtain ⟨stopping, p, hrun, -, hp⟩ := (Runtime.Armed.invariant io).runTo hconfig
    ⟨.inl rfl, by simp⟩ iterations [] (by simp) (by simp)
  rw [Runtime.runTo_nil] at hrun
  have hsynced : p.Synced := runLoop_synced iterations hok
    (show Runtime.Synced { config } from rfl) hrun
  refine ⟨stopping, p, hrun, fun deadline hnext => ?_⟩
  have hset := hp.cached deadline (hsynced.trans hnext)
  refine ⟨fun hclock => ?_, hset, fun clock hreached => ?_⟩
  · obtain ⟨stopping', p', hrun', -, hpos⟩ := (Runtime.Positive.invariant io).runTo hconfig
      (by intro e he; cases he) iterations [] hclock (by simp)
    rw [Runtime.runTo_nil] at hrun'
    obtain ⟨-, rfl⟩ := Prod.mk.inj (Except.ok.inj (hrun.symm.trans hrun'))
    obtain ⟨e, he, rfl⟩ := TimerQueue.nextDeadline_mem hnext
    rwa [timerSetting_of_pos (hpos e he)] at hset
  · rcases hset with harmed | hexpired
    · have hdue : timerSetting deadline ≤ clock := hreached
      simp [TimerFd.tick, harmed, hdue]
    · have hidle : p.timerFd.armed = none := hp.oneShot.resolve_right (by simp [hexpired])
      simp [TimerFd.tick, hidle, hexpired]

/-- A connection with an idle timeout of a second. -/
theorem timerfd_armed_for_next_deadline_idle :
    ∃ stopping p, Runtime.runLoop (fun _ => .script fun _ => [1, 2, 3])
        [.batch [.ready { token := 1, accepts := [.accepted (.opened false 10)] }] 11 true,
          .interrupted 1000000010]
        (false, { config := { bufferBytesPerDirection := 1024, lowWaterBytes := 512
                              highWaterBytes := 1024, idleTimeout := 1000 } }) =
        .ok (stopping, p) ∧
      p.timerQueue.nextDeadline = some 1000000010 ∧
      (p.timerFd.armed = some 1000000010 ∨ p.timerFd.expired = some 1000000010) := by
  have hcheck : returns (Runtime.runLoop (fun _ => .script fun _ => [1, 2, 3])
      [.batch [.ready { token := 1, accepts := [.accepted (.opened false 10)] }] 11 true,
        .interrupted 1000000010]
      (false, { config := { bufferBytesPerDirection := 1024, lowWaterBytes := 512
                            highWaterBytes := 1024, idleTimeout := 1000 } }))
      (fun state => decide (state.2.timerQueue.nextDeadline = some 1000000010)) = true := by
    decide +kernel
  obtain ⟨stopping, p, hrun, harmed⟩ := timerfd_armed_for_next_deadline
    (fun _ => .script fun _ => [1, 2, 3])
    { bufferBytesPerDirection := 1024, lowWaterBytes := 512, highWaterBytes := 1024
      idleTimeout := 1000 } (by decide +kernel)
    [.batch [.ready { token := 1, accepts := [.accepted (.opened false 10)] }] 11 true,
      .interrupted 1000000010] (by simp [Iteration.SettimeOk])
  have hnext := of_returns hcheck hrun
  rw [decide_eq_true_eq] at hnext
  exact ⟨stopping, p, hrun, hnext, (harmed 1000000010 hnext).1 (by decide)⟩

-- the last iteration puts the timeout off and sets the timer for the new deadline
example : returns (Runtime.runLoop (fun _ => .script fun _ => [1, 2, 3])
    [.batch [.ready { token := 1, accepts := [.accepted (.opened false 10)] }] 11 true,
      .batch [.ready { token := 4, events := { epollin := true }, now := 12 },
        .tick 1000000010] 1000000010 true,
      .batch [.ready { token := 3, now := 1000000011 }] 1000000011 true]
    (false, { config := { bufferBytesPerDirection := 1024, lowWaterBytes := 512
                          highWaterBytes := 1024, idleTimeout := 1000 } }))
    (fun state => state.2.timerFd = { armed := some 1000000012 } ∧
      state.2.timerQueue.nextDeadline = some 1000000012) = true := by
  decide +kernel

end NetFault
