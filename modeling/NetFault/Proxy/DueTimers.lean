import NetFault.Proxy.Runs

/-!
# Exactly the due entries are processed

The loop of `process_due_timers` pops from the heap it also pushes into: a pump computes the next
wake of its connection, and an idle timeout that was overtaken by activity is put off.  Neither can
be due at once, so the due entries at the start are all there ever is to pop, and they come in the
order of the heap.

`DueRun` is the loop as the list of the entries it pops.  `DueRun.run` ties it to
`process_due_timers`, and `exists_dueRun` shows that the list is that of the due entries.
-/

namespace NetFault

namespace TimerQueue

/-! ## Due entries and later ones -/

/-- The entries due at `now`, in the order of the heap. -/
def dueEntries (q : TimerQueue) (now : ℤ) : List TimerEvent :=
  q.heap.filter fun e => decide (e.deadline ≤ now)

/-- The entries that are not due at `now`. -/
def laterEntries (q : TimerQueue) (now : ℤ) : List TimerEvent :=
  q.heap.filter fun e => decide (now < e.deadline)

variable {q q' : TimerQueue} {now : ℤ} {e : TimerEvent}

lemma length_dueEntries (q : TimerQueue) (now : ℤ) : (q.dueEntries now).length = q.due now :=
  List.countP_eq_length_filter.symm

/-- An entry that a filter drops may be scheduled without changing what it keeps. -/
lemma filter_schedule {f : TimerEvent → Bool} {deadline : ℤ} {connectionId : ℕ} {kind : TimerKind}
    (h : f (q.entry deadline connectionId kind) = false) :
    (q.schedule deadline connectionId kind).heap.filter f = q.heap.filter f := by
  rw [schedule_heap, List.orderedInsert_eq_take_drop, List.filter_append,
    List.filter_cons_of_neg (by simp [h]), ← List.filter_append, List.takeWhile_append_dropWhile]

lemma Grown.dueEntries_eq (h : Grown now q q') : q'.dueEntries now = q.dueEntries now := by
  obtain rfl | ⟨deadline, connectionId, kind, hlater, rfl⟩ := h
  · rfl
  · exact filter_schedule (decide_eq_false (not_le.mpr hlater))

/-- What a step adds to the later entries: at most one, with a new number. -/
lemma Grown.laterEntries_perm (h : Grown now q q') :
    ∃ scheduled, (q'.laterEntries now).Perm (q.laterEntries now ++ scheduled) ∧
      (∀ e ∈ scheduled, now < e.deadline ∧ q.nextSequence ≤ e.sequence) ∧
      q.nextSequence ≤ q'.nextSequence := by
  obtain rfl | ⟨deadline, connectionId, kind, hlater, rfl⟩ := h
  · exact ⟨[], by simp, by simp, le_rfl⟩
  · refine ⟨[q.entry deadline connectionId kind], ?_, ?_, Nat.le_succ _⟩
    · have hinsert := (List.perm_orderedInsert TimerEvent.NotLater
        (q.entry deadline connectionId kind) q.heap).filter fun e => decide (now < e.deadline)
      have hkept : decide (now < (q.entry deadline connectionId kind).deadline) = true :=
        decide_eq_true hlater
      rw [List.filter_cons, if_pos hkept] at hinsert
      exact hinsert.trans (List.perm_append_singleton _ _).symm
    · simpa [entry] using hlater

/-- A pop takes the first due entry and leaves the rest. -/
lemma entries_popDue (h : q.popDue now = some (e, q')) :
    q.dueEntries now = e :: q'.dueEntries now ∧ q.laterEntries now = q'.laterEntries now ∧
      q'.nextSequence = q.nextSequence := by
  obtain ⟨hheap, hdue⟩ := popDue_eq_some h
  refine ⟨?_, ?_, ?_⟩
  · rw [dueEntries, hheap, List.filter_cons_of_pos (by simpa using hdue), dueEntries]
  · rw [laterEntries, hheap, List.filter_cons_of_neg (by simpa using hdue), laterEntries]
  · rw [popDue] at h
    split at h
    · cases h
    · split_ifs at h
      cases h
      rfl

/-- Without due entries nothing is popped. -/
lemma popDue_of_dueEntries_nil (h : q.dueEntries now = []) :
    q.popDue now = none ∧ q.laterEntries now = q.heap := by
  have hlater : ∀ e ∈ q.heap, now < e.deadline := by
    simpa [dueEntries, List.filter_eq_nil_iff] using h
  refine ⟨popDue_eq_none.mpr hlater, List.filter_eq_self.mpr fun e he => ?_⟩
  exact decide_eq_true (hlater e he)

/-- With a due entry something is popped. -/
lemma exists_popDue {rest : List TimerEvent} (h : q.dueEntries now = e :: rest) :
    ∃ q', q.popDue now = some (e, q') ∧ q'.dueEntries now = rest := by
  rcases hpop : q.popDue now with _ | ⟨e', q'⟩
  · have hmem : e ∈ q.dueEntries now := h ▸ List.mem_cons_self ..
    obtain ⟨hheap, hdue⟩ := List.mem_filter.mp hmem
    exact absurd (popDue_eq_none.mp hpop e hheap) (not_lt.mpr (of_decide_eq_true hdue))
  · obtain ⟨hfirst, -⟩ := entries_popDue hpop
    obtain ⟨rfl, rfl⟩ := List.cons.inj (hfirst.symm.trans h)
    exact ⟨q', rfl, rfl⟩

/-! ## No two entries have the same number -/

/-- The entries have different sequence numbers. -/
def Distinct (q : TimerQueue) : Prop := (q.heap.map TimerEvent.sequence).Nodup

lemma Distinct.schedule (h : q.Distinct) (deadline : ℤ) (connectionId : ℕ) (kind : TimerKind) :
    (q.schedule deadline connectionId kind).Distinct := by
  have hperm := (List.perm_orderedInsert TimerEvent.NotLater
    (q.entry deadline connectionId kind) q.heap).map TimerEvent.sequence
  unfold Distinct
  rw [schedule_heap, hperm.nodup_iff, List.map_cons, List.nodup_cons]
  refine ⟨fun hmem => ?_, h⟩
  obtain ⟨e, he, hsequence⟩ := List.mem_map.mp hmem
  exact absurd (q.fresh e he) (hsequence ▸ lt_irrefl _)

lemma Distinct.popDue (h : q.Distinct) (hpop : q.popDue now = some (e, q')) : q'.Distinct := by
  obtain ⟨hheap, -⟩ := popDue_eq_some hpop
  unfold Distinct at h
  rw [hheap, List.map_cons] at h
  exact h.of_cons

/-- Sorted entries with different numbers are strictly sorted. -/
lemma Distinct.pairwise_dueEntries (h : q.Distinct) (now : ℤ) :
    (q.dueEntries now).Pairwise fun a b =>
      a.deadline < b.deadline ∨ a.deadline = b.deadline ∧ a.sequence < b.sequence := by
  have hne : q.heap.Pairwise fun a b => a.sequence ≠ b.sequence := List.pairwise_map.mp h
  refine (q.sorted.imp₂ ?_ hne).filter _
  intro a b hsorted hdiffer
  rw [TimerEvent.notLater_iff] at hsorted
  omega

end TimerQueue

/-- Sequence numbers stay different in every run. -/
lemma Runtime.distinct_invariant (io : ℕ → SocketIo) :
    LoopInvariant io (fun _ => True) fun p => p.timerQueue.Distinct where
  act now p p' _ hs hp hact := by
    have hpop : ∀ event mid, Popped now event p mid → mid.timerQueue.Distinct :=
      fun event mid hpopped => hp.popDue hpopped.popped
    cases hact with
    | accept connecting c newborn token room =>
        exact scheduleTimeouts_rule TimerQueue.Distinct
          (fun q deadline kind _ hq => hq.schedule deadline _ kind) hp
    | serve id c _ live work =>
        rcases work.timerQueue (hs.session id c live) with heq | ⟨wake, -, heq⟩
        · exact heq ▸ hp
        · exact heq ▸ hp.schedule wake id .pump
    | fire => exact hp
    | skip event _ popped idle => exact hpop event p' popped
    | wake event c mid _ popped live kind work =>
        rcases work.timerQueue (hs.resetDueWake live) with heq | ⟨wake, -, heq⟩
        · exact heq ▸ hpop event mid popped
        · exact heq ▸ (hpop event mid popped).schedule wake _ .pump
    | timeOut event c mid reason popped live due => simpa using hpop event mid popped
    | postpone event c mid popped live kind active => exact (hpop event mid popped).schedule _ _ _
  tick _ _ hp := hp
  arm clock ok p hp := by simpa using hp

/-! ## The entries the loop pops -/

/-- The loop of `process_due_timers` from `p` to the state it ends in, with the entries it pops. -/
inductive DueRun (io : ℕ → SocketIo) (now : ℤ) : Runtime → List TimerEvent → Runtime → Prop
  | done {p : Runtime} (nothing : p.timerQueue.popDue now = none) : DueRun io now p [] p
  | pop {p p' last : Runtime} {events : List TimerEvent} (event : TimerEvent)
      (timerQueue : TimerQueue) (popped : p.timerQueue.popDue now = some (event, timerQueue))
      (handled : Runtime.handleTimer io now event { p with timerQueue } = .ok p')
      (rest : DueRun io now p' events last) : DueRun io now p (event :: events) last

section DueRun

variable {io : ℕ → SocketIo} {now : ℤ} {p last : Runtime} {events : List TimerEvent}

/-- The loop makes one trip for each entry, and one to leave. -/
lemma DueRun.run (h : DueRun io now p events last) (budget : ℕ) (hbudget : events.length < budget)
    (processed : ℕ) :
    Loop.run (Runtime.processDueBody io now) Fault.endlessLoop budget (processed, p) =
      .ok ((), (processed + events.length, last)) := by
  induction h generalizing budget processed with
  | done nothing =>
      obtain ⟨budget, rfl⟩ := Nat.exists_eq_succ_of_ne_zero (by omega : budget ≠ 0)
      simp only [Loop.run, Runtime.processDueBody, nothing, List.length_nil, Nat.add_zero]
  | pop event timerQueue popped handled rest ih =>
      obtain ⟨budget, rfl⟩ := Nat.exists_eq_succ_of_ne_zero (by omega : budget ≠ 0)
      simp only [List.length_cons] at hbudget ⊢
      simp only [Loop.run, Runtime.processDueBody, popped, handled, Except.map]
      rw [ih budget (by omega), Nat.add_right_comm, Nat.add_assoc]

/-- **The loop pops the due entries.**  The induction is on them: what the handling of the first
schedules is not due, so the rest are the due entries of the state after it. -/
lemma exists_dueRun (io : ℕ → SocketIo) (now : ℤ) (hs : p.Sound)
    (hevents : p.timerQueue.dueEntries now = events) :
    ∃ last scheduled, DueRun io now p events last ∧
      last.timerQueue.heap.Perm (p.timerQueue.laterEntries now ++ scheduled) ∧
      ∀ e ∈ scheduled, now < e.deadline ∧ p.timerQueue.nextSequence ≤ e.sequence := by
  induction events generalizing p with
  | nil =>
      obtain ⟨hnone, hlater⟩ := TimerQueue.popDue_of_dueEntries_nil hevents
      exact ⟨p, [], .done hnone, by simp [hlater], by simp⟩
  | cons event events ih =>
      obtain ⟨timerQueue, hpop, hrest⟩ := TimerQueue.exists_popDue hevents
      obtain ⟨-, hlater, hnumber⟩ := TimerQueue.entries_popDue hpop
      have hpopped : Popped now event p { p with timerQueue } := ⟨hpop, rfl⟩
      obtain ⟨p', hhandle, hact, hgrown⟩ := handleTimer_act io hs hpopped
      obtain ⟨added, hperm, hadded, hnext⟩ := hgrown.laterEntries_perm
      obtain ⟨last, scheduled, hrun, hperm', hscheduled⟩ :=
        ih (hact.sound hs) (hgrown.dueEntries_eq.trans hrest)
      refine ⟨last, added ++ scheduled, .pop event timerQueue hpop hhandle hrun, ?_, ?_⟩
      · rw [hlater, ← List.append_assoc]
        exact hperm'.trans (hperm.append_right scheduled)
      · intro e he
        rcases List.mem_append.mp he with he | he
        · exact ⟨(hadded e he).1, hnumber ▸ (hadded e he).2⟩
        · exact ⟨(hscheduled e he).1, (hnumber ▸ hnext).trans (hscheduled e he).2⟩

end DueRun

/-- **`process_due_timers` processes exactly the due entries.**  From every state a run can reach
and at every time, the loop returns after one trip for each entry that was due; it pops these
entries, each once, by deadline and among equal deadlines by number; and what is in the heap
afterwards are the entries that were not due and those scheduled on the way, none of which is due
either. -/
theorem processDueTimers_exact (io : ℕ → SocketIo) (config : ProxyConfig)
    (hconfig : config.validate = .ok ()) (iterations : List Iteration) (steps : List LoopStep) :
    ∃ stopping p, Runtime.runTo io config iterations steps = .ok (stopping, p) ∧
      ∀ now, ∃ p' scheduled,
        p.processDueTimers io now = .ok ((p.timerQueue.dueEntries now).length, p') ∧
        DueRun io now { p with lastArmedDeadline := none } (p.timerQueue.dueEntries now) p' ∧
        (p.timerQueue.dueEntries now).Pairwise (fun a b =>
          a.deadline < b.deadline ∨ a.deadline = b.deadline ∧ a.sequence < b.sequence) ∧
        p'.timerQueue.heap.Perm (p.timerQueue.laterEntries now ++ scheduled) ∧
        ∀ e ∈ scheduled, now < e.deadline ∧ p.timerQueue.nextSequence ≤ e.sequence := by
  obtain ⟨stopping, p, hrun, hs, hdistinct⟩ := (Runtime.distinct_invariant io).runTo hconfig
    (by exact List.nodup_nil) iterations steps (fun _ _ _ _ => trivial) (fun _ _ _ _ => trivial)
  refine ⟨stopping, p, hrun, fun now => ?_⟩
  obtain ⟨p', scheduled, hdue, hperm, hscheduled⟩ := exists_dueRun io now
    (p := { p with lastArmedDeadline := none }) ⟨hs.config, hs.session⟩ rfl
  refine ⟨p', scheduled, ?_, hdue, hdistinct.pairwise_dueEntries now, hperm, hscheduled⟩
  have hloop := hdue.run (p.timerQueue.due now + 1)
    (by rw [TimerQueue.length_dueEntries]; exact Nat.lt_succ_self _) 0
  simp only [Runtime.processDueTimers, hloop, Except.map, Nat.zero_add]

/-- Two pumps of one connection that are due together. -/
theorem processDueTimers_exact_two_pumps :
    ∃ stopping p p', Runtime.runTo (fun _ => .script fun _ => [1, 2, 3])
        { bufferBytesPerDirection := 1024, lowWaterBytes := 512, highWaterBytes := 1024
          faults := { latency := 5, jitter := 2 } }
        [.batch [.ready { token := 1, accepts := [.accepted (.opened false 10)] }] 11 true]
        [.ready { token := 4, events := { epollin := true }, now := 12 },
          .ready { token := 5, events := { epollin := true }, now := 13 }] = .ok (stopping, p) ∧
      p.processDueTimers (fun _ => .script fun _ => [1, 2, 3]) 5000000 = .ok (2, p') ∧
      ∀ e ∈ p'.timerQueue.heap, 5000000 < e.deadline := by
  have hcheck : returns (Runtime.runTo (fun _ => .script fun _ => [1, 2, 3])
      { bufferBytesPerDirection := 1024, lowWaterBytes := 512, highWaterBytes := 1024
        faults := { latency := 5, jitter := 2 } }
      [.batch [.ready { token := 1, accepts := [.accepted (.opened false 10)] }] 11 true]
      [.ready { token := 4, events := { epollin := true }, now := 12 },
        .ready { token := 5, events := { epollin := true }, now := 13 }])
      (fun state => decide ((state.2.timerQueue.dueEntries 5000000).length = 2)) = true := by
    decide +kernel
  obtain ⟨⟨stopping, p⟩, hrun, htest⟩ := exists_of_returns hcheck
  obtain ⟨stopping', q, hrun', hall⟩ := processDueTimers_exact (fun _ => .script fun _ => [1, 2, 3])
    { bufferBytesPerDirection := 1024, lowWaterBytes := 512, highWaterBytes := 1024
      faults := { latency := 5, jitter := 2 } } (by decide +kernel)
    [.batch [.ready { token := 1, accepts := [.accepted (.opened false 10)] }] 11 true]
    [.ready { token := 4, events := { epollin := true }, now := 12 },
      .ready { token := 5, events := { epollin := true }, now := 13 }]
  obtain ⟨rfl, rfl⟩ := Prod.mk.inj (Except.ok.inj (hrun.symm.trans hrun'))
  obtain ⟨p', scheduled, hprocess, -, -, hperm, hscheduled⟩ := hall 5000000
  rw [of_decide_eq_true htest] at hprocess
  refine ⟨stopping, p, p', hrun, hprocess, fun e he => ?_⟩
  rcases List.mem_append.mp (hperm.subset he) with hlater | hnew
  · exact of_decide_eq_true (List.mem_filter.mp hlater).2
  · exact (hscheduled e hnew).1

end NetFault
