import NetFault.Workload.ServerModes

/-!
# What the controlled server guarantees

The statements about a worker's whole run, for every behaviour of its socket and of the stop
token, and at every moment: a moment is a beginning of the worker's history.
-/

namespace NetFault

open Process History

namespace Server

/-- The calls a worker has made by the time its budget is used up or it has returned. -/
def workerCalls (io : BlockingSocket) (config : ServerConfig) (budget : ℕ) : Calls :=
  (outcome (serveClient io config budget) []).2

/-- The worker has returned within its budget, and closed its socket. -/
def WorkerReturned (io : BlockingSocket) (config : ServerConfig) (budget : ℕ) : Prop :=
  (outcome (serveClient io config budget) []).1 = some ()

variable {io : BlockingSocket} {config : ServerConfig} {budget : ℕ} {h : Calls}

lemma guarded_workerCalls (hchunk : 0 < config.chunkBytes) :
    Guarded (Allows io config (disciplineOf config)) (workerCalls io config budget) := by
  obtain ⟨hreturned, hrunning⟩ := (serveClient_meets io budget hchunk).run rfl
  rcases hout : (outcome (serveClient io config budget) []).1 with _ | a
  · exact hrunning hout
  · exact (hreturned a hout).1

lemma done_of_returned (hchunk : 0 < config.chunkBytes)
    (hreturned : WorkerReturned io config budget) : Done config (workerCalls io config budget) :=
  (((serveClient_meets io budget hchunk).run rfl).1 () hreturned).2

/-- A moment of a guarded history is guarded. -/
lemma guarded_moment (hchunk : 0 < config.chunkBytes)
    (hmoment : h <+: workerCalls io config budget) :
    Guarded (Allows io config (disciplineOf config)) h := by
  obtain ⟨future, hfuture⟩ := hmoment
  have hguard : Guarded (Allows io config (disciplineOf config)) (workerCalls io config budget) :=
    guarded_workerCalls hchunk
  rw [← hfuture] at hguard
  exact (guarded_append_iff.mp hguard).1

/-! ## Echo -/

/-- What the discipline of an echoing worker says of its bytes.  The induction is on the history,
by its last call. -/
lemma echo_of_guarded (hguard : Guarded (Allows io config echoDiscipline) h) :
    h.sent <+: h.received ∧ (h.ShutDown → h.Eof ∧ h.sent = h.received) := by
  induction h using List.reverseRecOn with
  | nil => exact ⟨List.prefix_refl _, fun hshut => absurd hshut Calls.not_shutDown_nil⟩
  | append_singleton past e ih =>
      obtain ⟨hpast, hallowed⟩ := guarded_snoc_iff.mp hguard
      obtain ⟨hbegins, hshut⟩ := ih hpast
      rw [Calls.sent_snoc, Calls.received_snoc, Calls.shutDown_snoc, Calls.eof_snoc]
      cases e with
      | recv span result =>
          obtain ⟨-, -, -, hreading, heq⟩ := hallowed
          refine ⟨?_, ?_⟩
          · rw [heq]
            simp [SocketCall.sent]
          · rintro (hs | hs)
            · exact absurd (hshut hs).1 hreading
            · cases hs
      | send data result =>
          obtain ⟨-, -, -, -, hwriting, hdue⟩ := hallowed
          refine ⟨?_, ?_⟩
          · have htake : SocketCall.sent (.send data result) <+: data := by
              rcases result with count | errno
              · exact List.take_prefix _ _
              · exact List.nil_prefix
            rw [show SocketCall.received (.send data result) = [] from rfl, List.append_nil]
            exact ((List.prefix_append_right_inj _).mpr htake).trans hdue
          · rintro (hs | hs)
            · exact absurd hs hwriting
            · cases hs
      | shutdown how result =>
          obtain ⟨-, -, heof, heq⟩ := hallowed
          refine ⟨by simpa [SocketCall.sent, SocketCall.received] using hbegins,
            fun _ => ⟨.inl heof, ?_⟩⟩
          simpa [SocketCall.sent, SocketCall.received] using heq
      | stopRequested answer =>
          simpa [SocketCall.sent, SocketCall.received, SocketCall.isShutdown, SocketCall.isEof]
            using And.intro hbegins hshut
      | sleepFor duration =>
          simpa [SocketCall.sent, SocketCall.received, SocketCall.isShutdown, SocketCall.isEof]
            using And.intro hbegins hshut
      | socket result => cases hallowed
      | connect result => cases hallowed
      | steadyNow now => cases hallowed

/-- The three modes that echo. -/
def Echoes (config : ServerConfig) : Prop :=
  config.mode = .echo ∨ config.mode = .slowReader ∨ config.mode = .slowWriter

instance (config : ServerConfig) : Decidable (Echoes config) :=
  inferInstanceAs (Decidable (_ ∨ _))

lemma Echoes.discipline (hmode : Echoes config) : disciplineOf config = echoDiscipline := by
  rcases hmode with hmode | hmode | hmode <;> simp [disciplineOf, hmode]

lemma Echoes.done (hmode : Echoes config) (hdone : Done config h) :
    h.ShutDown ∨ h.Stopped ∨ h.Broken := by
  rcases hmode with hmode | hmode | hmode <;> simpa only [Done, hmode] using hdone

/-- **An echoing worker echoes.**  For every behaviour of the socket and of the stop token, in the
modes `echo`, `slow-reader` and `slow-writer`: at every moment what was sent is a beginning of what
was received, and once the write side is shut down the stream of the peer has ended and all of it
was sent back.  The worker returns only after that shutdown, on a request to stop, or after a call
that failed for good. -/
theorem serve_client_echoes (io : BlockingSocket) (config : ServerConfig) (budget : ℕ)
    (hmode : Echoes config) (hchunk : 0 < config.chunkBytes) :
    (∀ h : Calls, h <+: workerCalls io config budget →
      h.sent <+: h.received ∧ (h.ShutDown → h.Eof ∧ h.sent = h.received)) ∧
    (WorkerReturned io config budget →
      (workerCalls io config budget).ShutDown ∨ (workerCalls io config budget).Stopped ∨
        (workerCalls io config budget).Broken) := by
  constructor
  · intro h hmoment
    have hguard := guarded_moment hchunk hmoment
    rw [hmode.discipline] at hguard
    exact echo_of_guarded hguard
  · intro hreturned
    exact hmode.done (done_of_returned hchunk hreturned)

/-- Five bytes in chunks of four, echoed two at a time: when the write side is shut down, all of
them were sent back. -/
theorem serve_client_echoes_five :
    (workerCalls (.script [1, 2, 3, 4, 5] 100) { chunkBytes := 4 } 9).ShutDown ∧
      (workerCalls (.script [1, 2, 3, 4, 5] 100) { chunkBytes := 4 } 9).Eof ∧
      (workerCalls (.script [1, 2, 3, 4, 5] 100) { chunkBytes := 4 } 9).sent = [1, 2, 3, 4, 5] := by
  have hshut : (workerCalls (.script [1, 2, 3, 4, 5] 100) { chunkBytes := 4 } 9).ShutDown := by
    decide +kernel
  have hreceived : (workerCalls (.script [1, 2, 3, 4, 5] 100) { chunkBytes := 4 } 9).received =
      [1, 2, 3, 4, 5] := by decide +kernel
  obtain ⟨hmoments, -⟩ := serve_client_echoes (.script [1, 2, 3, 4, 5] 100) { chunkBytes := 4 } 9
    (by decide) (by decide)
  obtain ⟨heof, hsent⟩ := (hmoments _ (List.prefix_refl _)).2 hshut
  exact ⟨hshut, heof, hsent.trans hreceived⟩

/-! ## Payload and drain -/

/-- What the discipline of a sending worker says of its bytes. -/
lemma pattern_of_guarded (hguard : Guarded (Allows io config (patternDiscipline config)) h) :
    h.sent <+: pattern config ∧ (h.ShutDown → h.sent = pattern config ∨ h.Stopped) ∧
      (h.received ≠ [] → h.ShutDown) := by
  induction h using List.reverseRecOn with
  | nil => exact ⟨List.nil_prefix, fun hshut => absurd hshut Calls.not_shutDown_nil, by simp⟩
  | append_singleton past e ih =>
      obtain ⟨hpast, hallowed⟩ := guarded_snoc_iff.mp hguard
      obtain ⟨hbegins, hshut, hrecv⟩ := ih hpast
      rw [Calls.sent_snoc, Calls.received_snoc, Calls.shutDown_snoc, Calls.stopped_snoc]
      cases e with
      | recv span result =>
          obtain ⟨-, -, -, hshutDown, -⟩ := hallowed
          refine ⟨by simpa [SocketCall.sent] using hbegins, fun _ => ?_, fun _ => .inl hshutDown⟩
          simpa [SocketCall.sent, SocketCall.isStop] using hshut hshutDown
      | send data result =>
          obtain ⟨-, -, -, -, hwriting, hdue⟩ := hallowed
          refine ⟨?_, ?_, ?_⟩
          · have htake : SocketCall.sent (.send data result) <+: data := by
              rcases result with count | errno
              · exact List.take_prefix _ _
              · exact List.nil_prefix
            exact ((List.prefix_append_right_inj _).mpr htake).trans hdue
          · rintro (hs | hs)
            · exact absurd hs hwriting
            · cases hs
          · intro hne
            exact .inl (hrecv (by simpa [SocketCall.received] using hne))
      | shutdown how result =>
          obtain ⟨-, -, hwhy⟩ := hallowed
          refine ⟨by simpa [SocketCall.sent] using hbegins, fun _ => ?_, fun _ => .inr rfl⟩
          simpa [SocketCall.sent, SocketCall.isStop, patternDiscipline] using hwhy
      | stopRequested answer =>
          refine ⟨by simpa [SocketCall.sent] using hbegins, ?_,
            by simpa [SocketCall.received, SocketCall.isShutdown] using hrecv⟩
          rintro (hs | hs)
          · rcases hshut hs with hsent | hstop
            · exact .inl (by simpa [SocketCall.sent] using hsent)
            · exact .inr (.inl hstop)
          · cases hs
      | sleepFor duration =>
          refine ⟨by simpa [SocketCall.sent] using hbegins, ?_,
            by simpa [SocketCall.received, SocketCall.isShutdown] using hrecv⟩
          simpa [SocketCall.sent, SocketCall.isStop, SocketCall.isShutdown] using hshut
      | socket result => cases hallowed
      | connect result => cases hallowed
      | steadyNow now => cases hallowed

/-- **A sending worker sends its payload and then half-closes.**  The payload is `send_bytes` long,
and its byte `k` is `(k mod chunk_bytes) & 0xFF`.  For every behaviour of the socket and of the stop
token: at every moment what was sent is a beginning of the payload, the write side is shut down only
after all of it or on a request to stop, and nothing is received before that.  The worker returns
after the end of the peer's stream, with the whole payload sent, or on a request to stop, or after a
call that failed for good. -/
theorem serve_client_sends_payload (io : BlockingSocket) (config : ServerConfig) (budget : ℕ)
    (hmode : config.mode = .sendThenHalfClose) (hchunk : 0 < config.chunkBytes) :
    (∀ h : Calls, h <+: workerCalls io config budget →
      h.sent <+: pattern config ∧ (h.ShutDown → h.sent = pattern config ∨ h.Stopped) ∧
        (h.received ≠ [] → h.ShutDown)) ∧
    (WorkerReturned io config budget →
      (workerCalls io config budget).ShutDown ∧
          (workerCalls io config budget).sent = pattern config ∧
          (workerCalls io config budget).Eof ∨
        (workerCalls io config budget).Stopped ∨ (workerCalls io config budget).Broken) := by
  constructor
  · intro h hmoment
    have hguard := guarded_moment hchunk hmoment
    simp only [disciplineOf, hmode] at hguard
    exact pattern_of_guarded hguard
  · intro hreturned
    simpa only [Done, hmode] using done_of_returned hchunk hreturned

/-- Ten bytes of payload in chunks of four, with a peer that has three bytes to say. -/
theorem serve_client_sends_payload_ten :
    (workerCalls (.script [7, 8, 9] 100)
        { mode := .sendThenHalfClose, chunkBytes := 4, sendBytes := 10 } 9).sent =
        [0, 1, 2, 3, 0, 1, 2, 3, 0, 1] ∧
      (workerCalls (.script [7, 8, 9] 100)
        { mode := .sendThenHalfClose, chunkBytes := 4, sendBytes := 10 } 9).Eof := by
  have hreturned : WorkerReturned (.script [7, 8, 9] 100)
      { mode := .sendThenHalfClose, chunkBytes := 4, sendBytes := 10 } 9 := by
    unfold WorkerReturned
    decide +kernel
  have hquiet : ¬((workerCalls (.script [7, 8, 9] 100)
        { mode := .sendThenHalfClose, chunkBytes := 4, sendBytes := 10 } 9).Stopped ∨
      (workerCalls (.script [7, 8, 9] 100)
        { mode := .sendThenHalfClose, chunkBytes := 4, sendBytes := 10 } 9).Broken) := by
    decide +kernel
  obtain ⟨-, hdone⟩ := serve_client_sends_payload (.script [7, 8, 9] 100)
    { mode := .sendThenHalfClose, chunkBytes := 4, sendBytes := 10 } 9 rfl (by decide)
  obtain ⟨-, hsent, heof⟩ := (hdone hreturned).resolve_right hquiet
  exact ⟨hsent.trans (by decide), heof⟩

/-! ## Delays and requests to stop -/

/-- The calls that may take time. -/
def isOperation : SocketCall → Bool
  | .recv .. | .send .. | .sleepFor _ => true
  | _ => false

/-- **Operations follow a look at the stop token, and slow modes are slow.**  In every mode, for
every behaviour of the socket and of the stop token: right before each receive, send and sleep the
token was found unset; a sleep lasts at most ten milliseconds; and before the `k`-th operation that
the mode slows down the worker has slept exactly `k` times the delay, unless it has seen a request
to stop. -/
theorem serve_client_paced (io : BlockingSocket) (config : ServerConfig) (budget : ℕ)
    (hchunk : 0 < config.chunkBytes) (past : Calls) (e : SocketCall)
    (hmoment : past ++ [e] <+: workerCalls io config budget) :
    (isOperation e = true → past.getLast? = some (.stopRequested false)) ∧
    (∀ duration, e = .sleepFor duration → 0 < duration ∧ duration ≤ 10) ∧
    (e.isPaced config.mode = true → ¬past.Stopped →
      past.slept = (past.paced config.mode + 1) * max config.delay 0) := by
  have hallowed := (guarded_snoc_iff.mp (guarded_moment hchunk hmoment)).2
  have hpace : ∀ mode, config.mode = mode → Account config mode 0 past → ¬past.Stopped →
      past.slept = (past.paced config.mode + 1) * max config.delay 0 := by
    intro mode hmode haccount hrunning
    have heq := haccount.resolve_left hrunning
    rw [delayOf, if_pos hmode, pause] at heq
    rw [add_mul, one_mul]
    omega
  cases e with
  | recv span result =>
      obtain ⟨hpolled, -, haccount, -⟩ := hallowed
      refine ⟨fun _ => hpolled, by simp, fun hpaced => hpace .slowReader ?_ haccount⟩
      simpa [SocketCall.isPaced] using hpaced
  | send data result =>
      obtain ⟨hpolled, -, -, haccount, -⟩ := hallowed
      refine ⟨fun _ => hpolled, by simp, fun hpaced => hpace .slowWriter ?_ haccount⟩
      simpa [SocketCall.isPaced] using hpaced
  | sleepFor duration =>
      obtain ⟨hpolled, hpos, hten⟩ := hallowed
      refine ⟨fun _ => hpolled, ?_, by simp [SocketCall.isPaced]⟩
      rintro _ ⟨rfl⟩
      exact ⟨hpos, hten⟩
  | shutdown how result => exact ⟨by simp [isOperation], by simp, by simp [SocketCall.isPaced]⟩
  | stopRequested answer => exact ⟨by simp [isOperation], by simp, by simp [SocketCall.isPaced]⟩
  | socket result => cases hallowed
  | connect result => cases hallowed
  | steadyNow now => cases hallowed

/-- The second receive of a slow reader that delays for five milliseconds. -/
theorem serve_client_paced_reader :
    ∃ past future : Calls, workerCalls (.script [1, 2, 3, 4, 5, 6] 100)
        { mode := .slowReader, delay := 5, chunkBytes := 4 } 9 =
        past ++ .recv 4 (.returned [5, 6]) :: future ∧
      past.getLast? = some (.stopRequested false) ∧ past.slept = 10 := by
  have hsplit : workerCalls (.script [1, 2, 3, 4, 5, 6] 100)
      { mode := .slowReader, delay := 5, chunkBytes := 4 } 9 =
      (workerCalls (.script [1, 2, 3, 4, 5, 6] 100)
        { mode := .slowReader, delay := 5, chunkBytes := 4 } 9).take 13 ++
        .recv 4 (.returned [5, 6]) :: (workerCalls (.script [1, 2, 3, 4, 5, 6] 100)
        { mode := .slowReader, delay := 5, chunkBytes := 4 } 9).drop 14 := by
    decide +kernel
  have hpaid : ¬Calls.Stopped ((workerCalls (.script [1, 2, 3, 4, 5, 6] 100)
        { mode := .slowReader, delay := 5, chunkBytes := 4 } 9).take 13) ∧
      Calls.paced .slowReader ((workerCalls (.script [1, 2, 3, 4, 5, 6] 100)
        { mode := .slowReader, delay := 5, chunkBytes := 4 } 9).take 13) = 1 := by
    decide +kernel
  generalize hcalls : workerCalls (.script [1, 2, 3, 4, 5, 6] 100)
    { mode := .slowReader, delay := 5, chunkBytes := 4 } 9 = calls at hsplit hpaid
  have hmoment : calls.take 13 ++ [.recv 4 (.returned [5, 6])] <+:
      workerCalls (.script [1, 2, 3, 4, 5, 6] 100)
        { mode := .slowReader, delay := 5, chunkBytes := 4 } 9 := by
    refine ⟨calls.drop 14, ?_⟩
    rw [hcalls, List.append_assoc]
    exact hsplit.symm
  obtain ⟨hpolled, -, hslept⟩ := serve_client_paced (.script [1, 2, 3, 4, 5, 6] 100)
    { mode := .slowReader, delay := 5, chunkBytes := 4 } 9 (by decide) _ _ hmoment
  refine ⟨calls.take 13, calls.drop 14, hsplit, hpolled rfl, ?_⟩
  rw [hslept (by decide) hpaid.1, hpaid.2]
  decide

/-- The operations so far. -/
def operations (h : Calls) : ℕ := h.countP isOperation

@[simp] lemma operations_snoc (h : Calls) (e : SocketCall) :
    operations (h ++ [e]) = operations h + if isOperation e then 1 else 0 := by
  simp [operations, List.countP_append, List.countP_cons]

/-- Each operation has a look at the stop token of its own right before it, and from `limit` calls
on there is none that finds the token unset. -/
lemma operations_le {d : Discipline} {limit : ℕ}
    (hstop : ∀ hist : Calls, limit ≤ hist.length → io.stopRequested hist = true)
    (hguard : Guarded (Allows io config d) h) : operations h ≤ h.length ∧ operations h ≤ limit := by
  induction h using List.reverseRecOn with
  | nil => exact ⟨le_rfl, Nat.zero_le _⟩
  | append_singleton past e ih =>
      obtain ⟨hpast, hallowed⟩ := guarded_snoc_iff.mp hguard
      obtain ⟨hlength, hlimit⟩ := ih hpast
      rw [operations_snoc, List.length_append, List.length_singleton]
      split_ifs with hop
      · have hpolled : Calls.Polled past := by
          cases e with
          | recv span result => exact hallowed.1
          | send data result => exact hallowed.1
          | sleepFor duration => exact hallowed.1
          | _ => cases hop
        obtain ⟨before, rfl⟩ := List.getLast?_eq_some_iff.mp hpolled
        obtain ⟨hbefore, hanswer⟩ := guarded_snoc_iff.mp hpast
        have hshort : before.length < limit := by
          by_contra hlong
          have htrue := hstop before (by omega)
          rw [show io.stopRequested before = false from hanswer] at htrue
          cases htrue
        have hops : operations (before ++ [.stopRequested false]) ≤ before.length := by
          rw [operations_snoc]
          exact List.countP_le_length
        rw [List.length_append, List.length_singleton]
        omega
      · omega

/-! ## A loop that goes on makes operations -/

section Progress

variable {a : ℕ}

/-- At least `a` operations so far. -/
def AtLeast (a : ℕ) (h : Calls) : Prop := a ≤ operations h

lemma AtLeast.call (hh : AtLeast a h) (e : SocketCall) : AtLeast a (h ++ [e]) := by
  unfold AtLeast at hh ⊢
  rw [operations_snoc]
  omega

lemma AtLeast.operation (hh : AtLeast a h) {e : SocketCall} (he : isOperation e = true) :
    AtLeast (a + 1) (h ++ [e]) := by
  unfold AtLeast at hh ⊢
  rw [operations_snoc, if_pos he]
  omega

lemma AtLeast.mono {b : ℕ} (hh : AtLeast a h) (hle : b ≤ a) : AtLeast b h := hle.trans hh

lemma poll_atLeast : Meets (AtLeast a) io.isStopRequested (fun _ => AtLeast a) (AtLeast budget) :=
  meets_call fun _ hh => hh.call _

/-- Every trip of the delay sleeps. -/
lemma interruptibleDelay_atLeast (delay : ℤ) :
    Meets (AtLeast a) (interruptibleDelay io budget delay) (fun _ => AtLeast a)
      (AtLeast budget) := by
  refine Meets.bind (R := fun _ => AtLeast a) ?_ fun _ =>
    poll_atLeast.bind fun _ => meets_pure fun _ hh => hh
  refine meets_iterate_counted (fun trips _ => AtLeast (a + trips)) (fun trips left => ?_)
    (fun _ _ hh => hh.mono (Nat.le_add_left _ _)) budget 0 delay (Nat.zero_add _)
  unfold delayTrip
  split_ifs
  · refine poll_atLeast.bind fun stopped => ?_
    split_ifs
    · exact meets_pure fun _ hh => hh.mono (Nat.le_add_right _ _)
    · exact Meets.bind (R := fun _ => AtLeast (a + trips + 1))
        (meets_call fun _ hh => hh.operation rfl) fun _ => meets_pure fun _ hh => hh
  · exact meets_pure fun _ hh => hh.mono (Nat.le_add_right _ _)

lemma delayIn_atLeast (mode : ServerMode) :
    Meets (AtLeast a) (delayIn io config budget mode) (fun _ => AtLeast a) (AtLeast budget) := by
  unfold delayIn
  split_ifs
  · exact interruptibleDelay_atLeast _
  · exact meets_pure fun _ hh => hh

/-- Every trip of `send_all` sends, so that it sends whenever there is something to send. -/
lemma sendAll_atLeast (data : List Byte) :
    Meets (AtLeast a) (sendAll io config budget data)
      (fun ok h => AtLeast a h ∧ (ok = true → data ≠ [] → AtLeast (a + 1) h))
      (AtLeast budget) := by
  refine (meets_iterate_counted
    (fun trips offset h => AtLeast (a + trips) h ∧ (offset = 0 ∨ AtLeast (a + 1) h))
    (fun trips offset => ?_) (fun _ _ hh => hh.1.mono (Nat.le_add_left _ _)) budget 0 0
    (Nat.zero_add _)).strengthen fun _ hh => ⟨hh, .inl rfl⟩
  unfold sendTrip
  -- leaving with the offset at the end of the data
  have hleave : ∀ h, AtLeast (a + trips) h ∧ (offset = 0 ∨ AtLeast (a + 1) h) →
      AtLeast a h ∧ ((offset == data.length) = true → data ≠ [] → AtLeast (a + 1) h) := by
    rintro h ⟨hh, hoffset⟩
    refine ⟨hh.mono (Nat.le_add_right _ _), fun heq hne => ?_⟩
    refine hoffset.resolve_left fun hzero => hne ?_
    have hlength : offset = data.length := by simpa using heq
    exact List.length_eq_zero_iff.mp (hlength.symm.trans hzero)
  have hpoll : Meets (fun h => AtLeast (a + trips) h ∧ (offset = 0 ∨ AtLeast (a + 1) h))
      io.isStopRequested
      (fun _ h => AtLeast (a + trips) h ∧ (offset = 0 ∨ AtLeast (a + 1) h)) (AtLeast budget) :=
    meets_call fun h hh => ⟨hh.1.call _, hh.2.imp_right fun hat => hat.call _⟩
  split_ifs with hmore
  · refine hpoll.bind fun stopped => ?_
    split_ifs
    · exact meets_pure hleave
    refine Meets.bind ((delayIn_atLeast .slowWriter).strengthen fun _ hh => hh.1) fun proceed => ?_
    split_ifs
    · refine Meets.bind (R := fun _ => AtLeast (a + trips + 1))
        (meets_call fun _ hh => hh.operation rfl) fun result => ?_
      have hagain : ∀ offset' h, AtLeast (a + trips + 1) h →
          AtLeast (a + (trips + 1)) h ∧ (offset' = 0 ∨ AtLeast (a + 1) h) :=
        fun _ _ hh => ⟨hh, .inr (hh.mono (by omega))⟩
      have hgive : ∀ h, AtLeast (a + trips + 1) h →
          AtLeast a h ∧ (false = true → data ≠ [] → AtLeast (a + 1) h) :=
        fun _ hh => ⟨hh.mono (by omega), by simp⟩
      rcases result with count | errno
      · show Meets _ (if count > 0 then _ else _) _ _
        split_ifs
        · exact meets_pure (hagain _)
        · exact meets_pure hgive
      · show Meets _ (if errno = EINTR then _ else _) _ _
        split_ifs
        · exact meets_pure (hagain _)
        · exact meets_pure hgive
    · exact meets_pure fun _ hh => ⟨hh.mono (Nat.le_add_right _ _), by simp⟩
  · exact meets_pure hleave

/-- Every trip of `drain_until_eof` receives. -/
lemma drainUntilEof_atLeast :
    Meets (AtLeast a) (drainUntilEof io config budget) (fun _ => AtLeast a) (AtLeast budget) := by
  refine meets_iterate_counted (fun trips _ => AtLeast (a + trips)) (fun trips _ => ?_)
    (fun _ _ hh => hh.mono (Nat.le_add_left _ _)) budget 0 () (Nat.zero_add _)
  refine poll_atLeast.bind fun stopped => ?_
  split_ifs
  · exact meets_pure fun _ hh => hh.mono (Nat.le_add_right _ _)
  refine Meets.bind (R := fun _ => AtLeast (a + trips + 1))
    (meets_call fun _ hh => hh.operation rfl) fun result => ?_
  rcases result with bytes | errno
  · show Meets _ (if bytes = [] then _ else _) _ _
    split_ifs
    · exact meets_pure fun _ hh => hh.mono (by omega)
    · exact meets_pure fun _ hh => hh
  · show Meets _ (if errno ≠ EINTR ∧ errno ≠ EAGAIN then _ else _) _ _
    split_ifs
    · exact meets_pure fun _ hh => hh.mono (by omega)
    · exact meets_pure fun _ hh => hh

/-- Every trip of the echo loop receives. -/
lemma echoTrip_atLeast (trips : ℕ) :
    Meets (AtLeast trips) (echoTrip io config budget ())
      (Next.Holds (fun _ => AtLeast (trips + 1)) fun _ _ => True) (AtLeast budget) := by
  refine poll_atLeast.bind fun stopped => ?_
  split_ifs
  · exact meets_pure fun _ _ => trivial
  refine Meets.bind (delayIn_atLeast .slowReader) fun proceed => ?_
  split_ifs
  · refine Meets.bind (R := fun _ => AtLeast (trips + 1))
      (meets_call fun _ hh => hh.operation rfl) fun result => ?_
    rcases result with bytes | errno
    · show Meets _ (if bytes = [] then _ else _) _ _
      split_ifs
      · exact Meets.bind (R := fun _ => AtLeast (trips + 1)) (meets_call fun _ hh => hh.call _)
          fun _ => meets_pure fun _ _ => trivial
      · refine (sendAll_atLeast bytes).bind fun ok => ?_
        split_ifs
        · exact meets_pure fun _ hh => hh.1
        · exact meets_pure fun _ _ => trivial
    · show Meets _ (if errno = EINTR then _ else if errno = EAGAIN then _ else _) _ _
      split_ifs
      · exact meets_pure fun _ hh => hh
      · exact meets_pure fun _ hh => hh
      · exact meets_pure fun _ _ => trivial
  · exact meets_pure fun _ _ => trivial

/-- Every trip of the loop of `send_then_half_close` sends. -/
lemma patternTrip_atLeast (hchunk : 0 < config.chunkBytes) (trips remaining : ℕ) :
    Meets (AtLeast trips) (patternTrip io config budget remaining)
      (Next.Holds (fun _ => AtLeast (trips + 1)) fun _ => AtLeast 0) (AtLeast budget) := by
  unfold patternTrip
  split_ifs with hmore
  · refine poll_atLeast.bind fun stopped => ?_
    split_ifs
    · exact meets_pure fun _ hh => hh.mono (Nat.zero_le _)
    refine (sendAll_atLeast _).bind fun ok => ?_
    split_ifs with hok
    · refine meets_pure fun _ hh => hh.2 hok ?_
      rw [length_patternBuffer, ← List.length_pos_iff, List.length_take, length_patternBuffer]
      omega
    · exact meets_pure fun _ hh => hh.1.mono (Nat.zero_le _)
  · exact meets_pure fun _ hh => hh.mono (Nat.zero_le _)

/-- **A worker that is still serving has made an operation for each trip of its budget.** -/
lemma serveClient_atLeast (hchunk : 0 < config.chunkBytes) :
    Meets (AtLeast 0) (serveClient io config budget) (fun _ _ => True) (AtLeast budget) := by
  have hecho : Meets (AtLeast 0) (iterate (echoTrip io config budget) budget ())
      (fun _ _ => True) (AtLeast budget) :=
    meets_iterate_counted (fun trips _ => AtLeast trips) (fun trips _ => echoTrip_atLeast trips)
      (fun _ _ hh => hh) budget 0 () (Nat.zero_add _)
  rcases hmode : config.mode with _ | _ | _ | _ | _ <;> simp only [serveClient, hmode]
  · exact hecho
  · exact hecho
  · exact hecho
  · exact drainUntilEof_atLeast.bind fun _ => Meets.bind (R := fun _ _ => True)
      (meets_call fun _ _ => trivial) fun _ => meets_pure fun _ hh => hh
  · refine Meets.bind (R := fun _ => AtLeast 0) ?_ fun finished => ?_
    · exact meets_iterate_counted (fun trips _ => AtLeast trips)
        (fun trips remaining => patternTrip_atLeast hchunk trips remaining) (fun _ _ hh => hh)
        budget 0 _ (Nat.zero_add _)
    · split_ifs
      · exact Meets.bind (R := fun _ => AtLeast 0) (meets_call fun _ hh => hh.call _) fun _ =>
          drainUntilEof_atLeast.weaken (fun _ hh => hh) (fun _ _ _ => trivial) (fun _ hh => hh)
      · exact meets_pure fun _ _ => trivial

end Progress

/-- **A worker that is told to stop returns.**  Whatever its socket answers: if the stop token is
set from some number of calls on, the worker returns within every budget above that number, so no
loop of any mode goes on without looking at the token. -/
theorem serve_client_stops (io : BlockingSocket) (config : ServerConfig) (budget limit : ℕ)
    (hchunk : 0 < config.chunkBytes)
    (hstop : ∀ hist : Calls, limit ≤ hist.length → io.stopRequested hist = true)
    (hbudget : limit < budget) : WorkerReturned io config budget := by
  unfold WorkerReturned
  rcases hout : (outcome (serveClient io config budget) []).1 with _ | ⟨⟩
  · have hmany : budget ≤ operations (workerCalls io config budget) :=
      ((serveClient_atLeast hchunk).run (Nat.zero_le _)).2 hout
    have hguard : Guarded (Allows io config (disciplineOf config)) (workerCalls io config budget) :=
      guarded_workerCalls hchunk
    have hfew := (operations_le hstop hguard).2
    omega
  · rfl

/-- Told to stop after seven calls, in the middle of an echo. -/
theorem serve_client_stops_seven :
    WorkerReturned (.script [1, 2, 3, 4, 5] 7) { chunkBytes := 4 } 8 :=
  serve_client_stops _ _ _ 7 (by decide)
    (fun hist hlong => by simpa [BlockingSocket.script] using hlong) (by decide)

end Server

end NetFault
