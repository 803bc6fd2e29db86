import NetFault.Workload.Client

/-!
# The verdict on a bulk connection

What the two threads of `run_connection` have done when the main thread gives its verdict.
-/

namespace NetFault

open Process History

namespace Client

variable {io : BlockingSocket} {budget : ℕ}

section Rules

variable {J : List Byte → Calls → Prop}
  (hsend : ∀ rest h result, rest ≠ [] → J rest h → taken result ≤ rest.length →
    J (rest.drop (taken result)) (h ++ [.send rest result]))

include hsend

/-- **What `send_all` of the client keeps**: it offers all that is left each time, and without an
error nothing is left. -/
lemma sendAll_meets (payload : List Byte) :
    Meets (J payload) (sendAll io budget payload)
      (fun failed h => match failed with
        | none => J [] h
        | some error => (∃ rest, J rest h) ∧ ∃ errno, error = .send errno)
      (fun h => ∃ rest, J rest h) := by
  refine (meets_iterate (fun offset h => offset ≤ payload.length ∧ J (payload.drop offset) h)
    (fun offset => ?_) (fun _ _ hh => ⟨_, hh.2⟩) budget 0).strengthen
    fun h hh => ⟨Nat.zero_le _, by simpa using hh⟩
  unfold sendTrip
  split_ifs with hmore
  · refine Meets.bind (R := fun result h => offset + taken result ≤ payload.length ∧
        J (payload.drop (offset + taken result)) h) (meets_call fun h hh => ?_) fun result => ?_
    · have htaken : taken (io.send h (payload.drop offset)) ≤ (payload.drop offset).length := by
        rcases hres : io.send h _ with count | errno
        · exact io.send_returned _ _ _ hres
        · exact Nat.zero_le _
      have hlen : (payload.drop offset).length = payload.length - offset := List.length_drop
      refine ⟨by omega, ?_⟩
      rw [← List.drop_drop]
      refine hsend _ h _ ?_ hh.2 htaken
      rw [← List.length_pos_iff]
      omega
    · rcases result with count | errno
      · show Meets _ (if count > 0 then _ else _) _ _
        split_ifs
        · exact meets_pure fun _ hh => hh
        · exact Meets.bind (R := fun _ h => ∃ rest, J rest h)
            (fun h hh => ⟨_, hh.2⟩) fun errno => meets_pure fun h hh => ⟨hh, errno, rfl⟩
      · show Meets _ (if errno = EINTR then _ else _) _ _
        split_ifs
        · exact meets_pure fun _ hh => hh
        · exact meets_pure fun h hh => ⟨⟨_, hh.2⟩, errno, rfl⟩
  · refine meets_pure fun h hh => ?_
    obtain rfl : offset = payload.length := by omega
    show J [] h
    simpa using hh.2

end Rules

/-! ## The reader -/

/-- What the reader leaves with: everything it received, and why it stopped. -/
def ReaderDone (payloadBytes : ℕ) (reading : List Byte × Option ClientError) (h : Calls) : Prop :=
  h.received = reading.1 ∧
    match reading.2 with
    | none => h.Eof
    | some error => ¬h.Eof ∧ (error = .receivedMoreBytesThanSent ∧ payloadBytes < reading.1.length ∨
        ∃ errno, error = .recv errno)

/-- **What the reader does**: while it runs it has received no more than the payload. -/
lemma reader_meets (payloadBytes : ℕ) :
    Meets (fun h => h = []) (reader io budget payloadBytes) (ReaderDone payloadBytes)
      (fun h : Calls => h.received.length ≤ payloadBytes) := by
  refine (meets_iterate (fun received (h : Calls) => h.received = received ∧
    received.length ≤ payloadBytes ∧ ¬h.Eof) (fun received => ?_)
    (fun received h hh => by rw [hh.1]; exact hh.2.1) budget []).strengthen ?_
  · refine Meets.bind (R := fun result (h : Calls) => ∃ past : Calls, past.received = received ∧
        received.length ≤ payloadBytes ∧ ¬past.Eof ∧ h = past ++ [.recv 16384 result])
      (meets_call fun h hh => ⟨h, hh.1, hh.2.1, hh.2.2, rfl⟩) fun result => ?_
    rcases result with bytes | errno
    · show Meets _ (if bytes = [] then _ else if (received ++ bytes).length > payloadBytes then _
        else _) _ _
      split_ifs with hb hmore
      · refine meets_pure ?_
        rintro h ⟨past, hpast, -, -, rfl⟩
        exact ⟨by simp [SocketCall.received, hpast, hb], by simp [SocketCall.isEof, hb]⟩
      · refine meets_pure ?_
        rintro h ⟨past, hpast, -, hopen, rfl⟩
        refine ⟨by simp [SocketCall.received, hpast], ?_, .inl ⟨rfl, hmore⟩⟩
        simpa [SocketCall.isEof, hb] using hopen
      · refine meets_pure ?_
        rintro h ⟨past, hpast, -, hopen, rfl⟩
        refine ⟨by simp [SocketCall.received, hpast], not_lt.mp hmore, ?_⟩
        simpa [SocketCall.isEof, hb] using hopen
    · show Meets _ (if errno = EINTR then _ else _) _ _
      split_ifs with hintr
      · refine meets_pure ?_
        rintro h ⟨past, hpast, hlen, hopen, rfl⟩
        exact ⟨by simpa [SocketCall.received] using hpast, hlen,
          by simpa [SocketCall.isEof] using hopen⟩
      · refine meets_pure ?_
        rintro h ⟨past, hpast, hlen, hopen, rfl⟩
        exact ⟨by simpa [SocketCall.received] using hpast,
          by simpa [SocketCall.isEof] using hopen, .inr ⟨errno, rfl⟩⟩
  · rintro h rfl
    exact ⟨rfl, Nat.zero_le _, Calls.not_eof_nil⟩

/-! ## The main thread -/

/-- What the calls so far must be for a call of the main thread. -/
def SenderAllows (payload : List Byte) (past : Calls) : SocketCall → Prop
  | .socket _ | .connect _ | .steadyNow _ => True
  | .send data _ => past.sent ++ data = payload ∧ ¬past.ShutDown
  | .shutdown .write _ => past.sent = payload ∧ ¬past.ShutDown
  | .shutdown .readWrite _ => True
  | .recv .. | .stopRequested _ | .sleepFor _ => False

/-- The main thread with `rest` of the payload to send. -/
structure Streaming (payload rest : List Byte) (h : Calls) : Prop where
  guarded : Guarded (SenderAllows payload) h
  pending : h.sent ++ rest = payload
  writing : ¬h.ShutDown

/-- The stream was ended in order. -/
def ShutInOrder (h : Calls) : Prop := .shutdown .write (.returned ()) ∈ h

/-- **The verdict of the main thread**, by what the reader left with. -/
def Verdict (payload : List Byte) (thread : Option (List Byte × Option ClientError))
    (result : Result) (h : Calls) : Prop :=
  Guarded (SenderAllows payload) h ∧ result.bytes = payload.length ∧
    result.latencySamplesUs = [] ∧
    ((¬ShutInOrder h ∧ result.success = false ∧ ∃ errno, result.error = some (.socket errno) ∨
        result.error = some (.connect errno) ∨ result.error = some (.send errno) ∨
        result.error = some (.shutdown errno)) ∨
      ShutInOrder h ∧ ∃ received failed, thread = some (received, failed) ∧
        result.error = (if failed = none ∧ received ≠ payload then some .payloadMismatch
          else failed) ∧
        result.success = decide (failed = none ∧ received = payload))

namespace Streaming

variable {payload rest : List Byte} {h : Calls}

/-- A call that sends nothing and ends nothing. -/
lemma quiet (hh : Streaming payload rest h) {e : SocketCall} (hallowed : SenderAllows payload h e)
    (hsent : e.sent = []) (hshut : e.isShutdown = false) : Streaming payload rest (h ++ [e]) where
  guarded := guarded_snoc_iff.mpr ⟨hh.guarded, hallowed⟩
  pending := by simpa [hsent] using hh.pending
  writing := by simpa [hshut] using hh.writing

lemma send (hh : Streaming payload rest h) {result : SyscallResult ℕ}
    (htaken : taken result ≤ rest.length) :
    Streaming payload (rest.drop (taken result)) (h ++ [.send rest result]) where
  guarded := guarded_snoc_iff.mpr ⟨hh.guarded, hh.pending, hh.writing⟩
  pending := by
    have hsent : SocketCall.sent (.send rest result) = rest.take (taken result) := by
      cases result <;> rfl
    rw [Calls.sent_snoc, hsent, List.append_assoc, List.take_append_drop]
    exact hh.pending
  writing := by simpa [SocketCall.isShutdown] using hh.writing

lemma not_shutInOrder (hh : Streaming payload rest h) : ¬ShutInOrder h :=
  fun hmem => hh.writing ⟨_, hmem, rfl⟩

end Streaming

lemma guarded_closing {payload : List Byte} {h : Calls} (hh : Guarded (SenderAllows payload) h)
    (result : SyscallResult Unit) :
    Guarded (SenderAllows payload) (h ++ [.shutdown .readWrite result]) :=
  guarded_snoc_iff.mpr ⟨hh, trivial⟩

section Exchange

variable {payload : List Byte} {thread : Option (List Byte × Option ClientError)}

/-- A join waits, and hands over what the reader left with. -/
lemma join_meets {P : Calls → Prop} :
    Meets P (join thread) (fun reading h => P h ∧ thread = some reading) P := by
  cases thread with
  | none => exact fun _ hh => hh
  | some reading => exact meets_pure fun _ hh => ⟨hh, rfl⟩

lemma judge_meets (start : ℤ) (received : List Byte) (failed : Option ClientError)
    (hthread : thread = some (received, failed)) :
    Meets (fun h => Guarded (SenderAllows payload) h ∧ ShutInOrder h)
      (judge io start payload { bytes := payload.length } (received, failed))
      (Verdict payload thread) (Guarded (SenderAllows payload)) := by
  cases failed with
  | some error =>
      exact meets_pure fun h hh => ⟨hh.1, rfl, rfl, .inr ⟨hh.2, received, some error, hthread,
        by simp, by simp⟩⟩
  | none =>
      refine Meets.bind (R := fun _ h => Guarded (SenderAllows payload) h ∧ ShutInOrder h)
        (meets_call fun h hh => ⟨guarded_snoc_iff.mpr ⟨hh.1, trivial⟩,
          List.mem_append_left _ hh.2⟩) fun now => ?_
      show Meets _ (if received ≠ payload then _ else _) _ _
      split_ifs with hne
      · exact meets_pure fun h hh => ⟨hh.1, rfl, rfl, .inr ⟨hh.2, received, none, hthread,
          by simp [hne], by simp [hne]⟩⟩
      · obtain rfl : received = payload := not_not.mp hne
        exact meets_pure fun h hh => ⟨hh.1, rfl, rfl, .inr ⟨hh.2, received, none, hthread,
          by simp, by simp⟩⟩

lemma exchange_meets (start : ℤ) :
    Meets (Streaming payload payload) (exchange io budget start payload { bytes := payload.length }
        thread) (Verdict payload thread) (Guarded (SenderAllows payload)) := by
  refine Meets.bind ((sendAll_meets (J := Streaming payload)
    (fun rest h result _ hh htaken => hh.send htaken) payload).weaken (fun _ hh => hh)
    (fun _ _ hh => hh) ?_) fun failed => ?_
  · rintro h ⟨rest, hh⟩
    exact hh.guarded
  rcases failed with _ | error
  · -- everything is sent, and the stream is ended
    refine Meets.bind (R := fun ended h => Guarded (SenderAllows payload) h ∧
        (ShutInOrder h ↔ ended = .returned ())) (meets_call fun h hh => ?_) fun ended => ?_
    · have hsent : Calls.sent h = payload := by simpa using hh.pending
      refine ⟨guarded_snoc_iff.mpr ⟨hh.guarded, hsent, hh.writing⟩, ?_⟩
      unfold ShutInOrder
      rw [List.mem_append, List.mem_singleton]
      constructor
      · rintro (hmem | heq)
        · exact absurd hmem hh.not_shutInOrder
        · simpa using heq.symm
      · intro heq
        exact .inr (by rw [heq])
    rcases ended with _ | errno
    · refine Meets.bind (join_meets.weaken (fun _ hh => hh) (fun _ _ hh => hh)
        fun _ hh => hh.1) fun reading => ?_
      refine Meets.assuming (fun h hh => hh.2) fun hthread => ?_
      exact (judge_meets start reading.1 reading.2 hthread).strengthen
        fun h hh => ⟨hh.1.1, hh.1.2.mpr rfl⟩
    · refine Meets.bind (R := fun _ h => Guarded (SenderAllows payload) h ∧ ¬ShutInOrder h)
        (meets_call fun h hh => ⟨guarded_closing hh.1 _, ?_⟩) fun _ => ?_
      · unfold ShutInOrder
        rw [List.mem_append, List.mem_singleton]
        rintro (hmem | heq)
        · cases hh.2.mp hmem
        · cases heq
      · exact Meets.bind (join_meets.weaken (fun _ hh => hh) (fun _ _ hh => hh)
          fun _ hh => hh.1) fun _ => meets_pure fun h hh =>
            ⟨hh.1.1, rfl, rfl, .inl ⟨hh.1.2, rfl, errno, .inr (.inr (.inr rfl))⟩⟩
  · refine Meets.assuming (φ := ∃ errno, error = .send errno) (fun h hh => hh.2) ?_
    rintro ⟨errno, rfl⟩
    refine Meets.bind (R := fun _ h => Guarded (SenderAllows payload) h ∧ ¬ShutInOrder h)
      (meets_call ?_) fun _ => ?_
    · rintro h ⟨⟨rest, hh⟩, -⟩
      refine ⟨guarded_closing hh.guarded _, ?_⟩
      unfold ShutInOrder
      rw [List.mem_append, List.mem_singleton]
      rintro (hmem | heq)
      · exact hh.not_shutInOrder hmem
      · cases heq
    · exact Meets.bind (join_meets.weaken (fun _ hh => hh) (fun _ _ hh => hh)
        fun _ hh => hh.1) fun _ => meets_pure fun h hh =>
          ⟨hh.1.1, rfl, rfl, .inl ⟨hh.1.2, rfl, errno, .inr (.inr (.inl rfl))⟩⟩

/-- **The main thread of `run_connection`.** -/
lemma runConnection_meets (io : BlockingSocket) (budget : ℕ) (payload : List Byte)
    (thread : Option (List Byte × Option ClientError)) :
    Meets (fun h => h = []) (runConnection io budget payload thread) (Verdict payload thread)
      (Guarded (SenderAllows payload)) := by
  refine Meets.bind (R := fun _ => Streaming payload payload) (meets_call ?_) fun opened => ?_
  · rintro h rfl
    exact Streaming.quiet ⟨guarded_nil, rfl, Calls.not_shutDown_nil⟩ trivial rfl rfl
  rcases opened with _ | errno
  · refine Meets.bind (R := fun _ => Streaming payload payload)
      (meets_call fun h hh => hh.quiet trivial rfl rfl) fun start => ?_
    refine Meets.bind (R := fun _ => Streaming payload payload)
      (meets_call fun h hh => hh.quiet trivial rfl rfl) fun connected => ?_
    rcases connected with _ | errno
    · exact exchange_meets start
    · exact meets_pure fun h hh => ⟨hh.guarded, rfl, rfl,
        .inl ⟨hh.not_shutInOrder, rfl, errno, .inr (.inl rfl)⟩⟩
  · exact meets_pure fun h hh => ⟨hh.guarded, rfl, rfl,
      .inl ⟨hh.not_shutInOrder, rfl, errno, .inl rfl⟩⟩

end Exchange

/-! ## Both threads -/

/-- The reader of a connection. -/
def readerOutcome (readerIo : BlockingSocket) (budget : ℕ) (payload : List Byte) :
    Option (List Byte × Option ClientError) × Calls :=
  outcome (reader readerIo budget payload.length) []

/-- The main thread of a connection, with its reader. -/
def bulkOutcome (io readerIo : BlockingSocket) (budget : ℕ) (payload : List Byte) :
    Option Result × Calls :=
  outcome (runConnection io budget payload (readerOutcome readerIo budget payload).1) []

/-- What the main thread has sent is a beginning of the payload, and all of it once the stream was
ended with `SHUT_WR`. -/
lemma sent_of_guarded {payload : List Byte} {h : Calls}
    (hguard : Guarded (SenderAllows payload) h) :
    h.sent <+: payload ∧ (∀ result, .shutdown .write result ∈ h → h.sent = payload) := by
  induction h using List.reverseRecOn with
  | nil => exact ⟨List.nil_prefix, by simp⟩
  | append_singleton past e ih =>
      obtain ⟨hpast, hallowed⟩ := guarded_snoc_iff.mp hguard
      obtain ⟨hbegins, hshut⟩ := ih hpast
      have hquiet : e.sent = [] → (∀ result, e ≠ .shutdown .write result) →
          Calls.sent (past ++ [e]) <+: payload ∧ ∀ result,
            .shutdown .write result ∈ past ++ [e] → Calls.sent (past ++ [e]) = payload := by
        intro hsent hne
        rw [Calls.sent_snoc, hsent, List.append_nil]
        refine ⟨hbegins, fun result hmem => hshut result ?_⟩
        rcases List.mem_append.mp hmem with hmem | hmem
        · exact hmem
        · exact absurd (List.mem_singleton.mp hmem).symm (hne result)
      cases e with
      | send data result =>
          obtain ⟨hall, hwriting⟩ := hallowed
          refine ⟨?_, fun result hmem => ?_⟩
          · rw [Calls.sent_snoc, ← hall]
            refine (List.prefix_append_right_inj _).mpr ?_
            rcases result with count | errno
            · exact List.take_prefix _ _
            · exact List.nil_prefix
          · rcases List.mem_append.mp hmem with hmem | hmem
            · exact absurd ⟨_, hmem, rfl⟩ hwriting
            · cases List.mem_singleton.mp hmem
      | shutdown how result =>
          cases how with
          | write =>
              rw [Calls.sent_snoc, show SocketCall.sent (.shutdown .write result) = [] from rfl,
                List.append_nil]
              exact ⟨hbegins, fun _ _ => hallowed.1⟩
          | readWrite => exact hquiet rfl (by simp)
      | socket result => exact hquiet rfl (by simp)
      | connect result => exact hquiet rfl (by simp)
      | steadyNow now => exact hquiet rfl (by simp)
      | recv span result => cases hallowed
      | stopRequested answer => cases hallowed
      | sleepFor duration => cases hallowed

lemma readerDone_of_returned {readerIo : BlockingSocket} {payload : List Byte}
    {reading : List Byte × Option ClientError}
    (hreturned : (readerOutcome readerIo budget payload).1 = some reading) :
    ReaderDone payload.length reading (readerOutcome readerIo budget payload).2 :=
  ((reader_meets payload.length).run rfl).1 reading hreturned

/-- **The verdict of `run_connection`.**  For every behaviour of the sockets of the two threads, and
so for every order in which they act: if the main thread returns, it reports success exactly when it
ended its stream in order and the reader has seen the end of the peer's stream and received the
payload; it reports `payload_mismatch` exactly when the reader has received something else by then;
and a failure always carries an error.  A stream that was ended in order was sent in full. -/
theorem run_connection_verdict (io readerIo : BlockingSocket) (budget : ℕ) (payload : List Byte)
    (result : Result) (hreturned : (bulkOutcome io readerIo budget payload).1 = some result) :
    (result.success = true ↔ ShutInOrder (bulkOutcome io readerIo budget payload).2 ∧
      Calls.Eof (readerOutcome readerIo budget payload).2 ∧
      Calls.received (readerOutcome readerIo budget payload).2 = payload) ∧
    (result.error = some .payloadMismatch ↔ ShutInOrder (bulkOutcome io readerIo budget payload).2 ∧
      Calls.Eof (readerOutcome readerIo budget payload).2 ∧
      Calls.received (readerOutcome readerIo budget payload).2 ≠ payload) ∧
    (result.success = true ↔ result.error = none) ∧
    (ShutInOrder (bulkOutcome io readerIo budget payload).2 →
      Calls.sent (bulkOutcome io readerIo budget payload).2 = payload) := by
  obtain ⟨hguard, -, -, hverdict⟩ := ((runConnection_meets io budget payload
    (readerOutcome readerIo budget payload).1).run rfl).1 result hreturned
  have hall : ShutInOrder (bulkOutcome io readerIo budget payload).2 →
      Calls.sent (bulkOutcome io readerIo budget payload).2 = payload :=
    fun hmem => (sent_of_guarded hguard).2 _ hmem
  rcases hverdict with ⟨hnot, hfalse, errno, herror⟩ | ⟨hshut, received, failed, hthread, herror,
    hsuccess⟩
  · have hnot' : ¬ShutInOrder (bulkOutcome io readerIo budget payload).2 := hnot
    rcases herror with herror | herror | herror | herror <;> simp [hnot', hfalse, herror]
  · have hshut' : ShutInOrder (bulkOutcome io readerIo budget payload).2 := hshut
    obtain ⟨hreceived, hwhy⟩ := readerDone_of_returned hthread
    cases failed with
    | none =>
        have heof : Calls.Eof (readerOutcome readerIo budget payload).2 := hwhy
        rw [hreceived]
        by_cases heq : received = payload <;>
          simp [hshut', heof, herror, hsuccess, heq, hall hshut']
    | some error =>
        have hnot : ¬Calls.Eof (readerOutcome readerIo budget payload).2 := hwhy.1
        rcases hwhy.2 with ⟨rfl, -⟩ | ⟨errno, rfl⟩ <;>
          simp [hnot, herror, hsuccess, hall hshut']

/-- Three bytes, sent two at a time and echoed: the reported success means that all of them were
sent and came back. -/
theorem run_connection_verdict_echoed :
    (bulkOutcome (.script [] 0) (.script [5, 6, 7] 0) 4 [5, 6, 7]).1 =
        some { success := true, bytes := 3 } ∧
      Calls.sent (bulkOutcome (.script [] 0) (.script [5, 6, 7] 0) 4 [5, 6, 7]).2 = [5, 6, 7] ∧
      Calls.Eof (readerOutcome (.script [5, 6, 7] 0) 4 [5, 6, 7]).2 ∧
      Calls.received (readerOutcome (.script [5, 6, 7] 0) 4 [5, 6, 7]).2 = [5, 6, 7] := by
  have hreturned : (bulkOutcome (.script [] 0) (.script [5, 6, 7] 0) 4 [5, 6, 7]).1 =
      some { success := true, bytes := 3 } := by decide +kernel
  obtain ⟨hsuccess, -, -, hsent⟩ := run_connection_verdict (.script [] 0) (.script [5, 6, 7] 0) 4
    [5, 6, 7] { success := true, bytes := 3 } hreturned
  obtain ⟨hshut, heof, hreceived⟩ := hsuccess.mp rfl
  exact ⟨hreturned, hsent hshut, heof, hreceived⟩

end Client

end NetFault
