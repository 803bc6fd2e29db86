import NetFault.Workload.ServerRules

/-!
# What a worker of the server does, in each mode

Each call of a worker is allowed by the calls before it.  `Server.Allows` says what is common to
the modes: every sleep, receive and send comes right after a look at the stop token that found it
unset, sleeps last ten milliseconds at most, and in a slow mode the operations are one delay apart.
The `Discipline` of a mode adds which bytes may be sent, and when it may receive and shut down.
From the guarded history follow the statements about whole runs.
-/

namespace NetFault

open Process

namespace Server

/-- What a mode asks of its calls. -/
structure Discipline where
  /-- What may have been sent, by the bytes received. -/
  due : List Byte → List Byte
  mayRecv : Calls → Prop
  mayShutdown : Calls → Prop

/-- An echoing worker sends what it received, receives only when it owes nothing, and shuts down
at the end of the stream. -/
def echoDiscipline : Discipline where
  due received := received
  mayRecv past := ¬past.Eof ∧ past.sent = past.received
  mayShutdown past := past.Eof ∧ past.sent = past.received

/-- The payload of `send_then_half_close`: the buffer, over and over. -/
def pattern (config : ServerConfig) : List Byte :=
  (List.range config.sendBytes).map fun index => UInt8.ofNat (index % config.chunkBytes)

/-- A sending worker shuts down after the payload, or when told to stop, and receives after
that. -/
def patternDiscipline (config : ServerConfig) : Discipline where
  due _ := pattern config
  mayRecv past := past.ShutDown ∧ ¬past.Eof
  mayShutdown past := past.sent = pattern config ∨ past.Stopped

/-- A reading worker sends nothing. -/
def drainDiscipline : Discipline where
  due _ := []
  mayRecv past := ¬past.ShutDown ∧ ¬past.Eof
  mayShutdown past := past.Eof ∨ past.Stopped ∨ past.Broken

def disciplineOf (config : ServerConfig) : Discipline :=
  match config.mode with
  | .readUntilEof => drainDiscipline
  | .sendThenHalfClose => patternDiscipline config
  | .echo | .slowReader | .slowWriter => echoDiscipline

end Server

namespace SocketCall

/-- The milliseconds a call sleeps. -/
def duration : SocketCall → ℤ
  | .sleepFor duration => duration
  | _ => 0

/-- The operations that the mode slows down. -/
def isPaced (mode : ServerMode) : SocketCall → Bool
  | .recv .. => mode = .slowReader
  | .send .. => mode = .slowWriter
  | _ => false

end SocketCall

namespace Calls

/-- The milliseconds slept so far. -/
def slept (h : Calls) : ℤ := (h.map SocketCall.duration).sum

/-- The slowed operations so far. -/
def paced (mode : ServerMode) (h : Calls) : ℕ := h.countP (SocketCall.isPaced mode)

@[simp] lemma slept_nil : slept [] = 0 := rfl

@[simp] lemma slept_snoc (h : Calls) (e : SocketCall) :
    slept (h ++ [e]) = slept h + e.duration := by
  simp [slept]

@[simp] lemma paced_nil (mode : ServerMode) : paced mode [] = 0 := rfl

@[simp] lemma paced_snoc (mode : ServerMode) (h : Calls) (e : SocketCall) :
    paced mode (h ++ [e]) = paced mode h + if e.isPaced mode then 1 else 0 := by
  simp [paced, List.countP_append, List.countP_cons]

lemma paced_snoc_of_not {mode : ServerMode} {h : Calls} {e : SocketCall}
    (he : e.isPaced mode = false) : paced mode (h ++ [e]) = paced mode h := by
  simp [he]

end Calls

namespace Server

/-- The delay of a slow mode; a negative one is none. -/
def pause (config : ServerConfig) : ℤ := max config.delay 0

/-- **The account of the sleeps.**  With `left` milliseconds to go before an operation that `mode`
slows down, one delay was slept for each slowed operation so far, and what is missing for the next
one.  A request to stop suspends the account. -/
def Account (config : ServerConfig) (mode : ServerMode) (left : ℤ) (h : Calls) : Prop :=
  h.Stopped ∨
    h.slept + max left 0 = h.paced config.mode * pause config + max (delayOf config mode) 0

/-- One delay was slept for each slowed operation so far. -/
def Settled (config : ServerConfig) (h : Calls) : Prop :=
  h.Stopped ∨ h.slept = h.paced config.mode * pause config

/-- What the calls so far must be for a call of the worker. -/
def Allows (io : BlockingSocket) (config : ServerConfig) (d : Discipline) (past : Calls) :
    SocketCall → Prop
  | .stopRequested answer => io.stopRequested past = answer
  | .sleepFor duration => past.Polled ∧ 0 < duration ∧ duration ≤ 10
  | .recv span _ => past.Polled ∧ span = config.chunkBytes ∧ Account config .slowReader 0 past ∧
      d.mayRecv past
  | .send data _ => past.Polled ∧ data ≠ [] ∧ data.length ≤ config.chunkBytes ∧
      Account config .slowWriter 0 past ∧ ¬past.ShutDown ∧ past.sent ++ data <+: d.due past.received
  | .shutdown how _ => how = .write ∧ ¬past.ShutDown ∧ d.mayShutdown past
  | .socket _ | .connect _ | .steadyNow _ => False

variable {io : BlockingSocket} {config : ServerConfig} {budget : ℕ} {d : Discipline} {h : Calls}
  {mode : ServerMode} {left : ℤ}

/-! ## The account of the sleeps -/

lemma account_delayOf : Account config mode (delayOf config mode) h ↔ Settled config h := by
  unfold Account Settled
  constructor
  · rintro (hs | heq)
    · exact .inl hs
    · exact .inr (by omega)
  · rintro (hs | heq)
    · exact .inl hs
    · exact .inr (by omega)

lemma Account.poll (hh : Account config mode left h) (answer : Bool) :
    Account config mode left (h ++ [.stopRequested answer]) := by
  rcases hh with hs | heq
  · exact .inl (Calls.stopped_snoc.mpr (.inl hs))
  · right
    simpa [SocketCall.duration, SocketCall.isPaced] using heq

lemma Account.sleep (hh : Account config mode left h) (hleft : 0 < left) :
    Account config mode (left - min left 10) (h ++ [.sleepFor (min left 10)]) := by
  rcases hh with hs | heq
  · exact .inl (Calls.stopped_snoc.mpr (.inl hs))
  · right
    rw [Calls.paced_snoc_of_not (rfl : SocketCall.isPaced _ (.sleepFor _) = false),
      Calls.slept_snoc, ← heq]
    show h.slept + min left 10 + max (left - min left 10) 0 = h.slept + max left 0
    omega

lemma Account.over (hh : Account config mode left h) (hleft : left ≤ 0 ∨ h.Stopped) :
    Account config mode 0 h := by
  rcases hh with hs | heq
  · exact .inl hs
  · rcases hleft with hleft | hs
    · exact .inr (by omega)
    · exact .inl hs

/-- The operation that was waited for settles the account. -/
lemma Account.operate (hh : Account config mode 0 h) {e : SocketCall}
    (hquiet : e.duration = 0) (hpaced : ∀ m, e.isPaced m = decide (m = mode)) :
    Settled config (h ++ [e]) := by
  rcases hh with hs | heq
  · exact .inl (Calls.stopped_snoc.mpr (.inl hs))
  · right
    rw [Calls.slept_snoc, Calls.paced_snoc, hquiet, hpaced]
    unfold delayOf at heq
    by_cases hm : config.mode = mode
    · simp only [hm, if_true, decide_true] at heq ⊢
      push_cast
      have : pause config = max config.delay 0 := rfl
      rw [add_mul, one_mul]
      omega
    · simp only [hm, if_false, decide_false] at heq ⊢
      push_cast
      simpa using heq

lemma Settled.poll (hh : Settled config h) (answer : Bool) :
    Settled config (h ++ [.stopRequested answer]) := by
  have hpoll : Account config .echo (delayOf config .echo) (h ++ [.stopRequested answer]) :=
    (account_delayOf.mpr hh).poll answer
  exact account_delayOf.mp hpoll

lemma Settled.shutdown (hh : Settled config h) (how : ShutdownHow) (result : SyscallResult Unit) :
    Settled config (h ++ [.shutdown how result]) := by
  rcases hh with hs | heq
  · exact .inl (Calls.stopped_snoc.mpr (.inl hs))
  · right
    simpa [SocketCall.duration, SocketCall.isPaced] using heq

/-! ## Keeping a guard -/

open History

lemma Guarded.poll (hh : Guarded (Allows io config d) h) {answer : Bool}
    (hanswer : io.stopRequested h = answer) :
    Guarded (Allows io config d) (h ++ [.stopRequested answer]) :=
  guarded_snoc_iff.mpr ⟨hh, hanswer⟩

lemma Guarded.sleep (hh : Guarded (Allows io config d) h) (hpolled : h.Polled) (hleft : 0 < left) :
    Guarded (Allows io config d) (h ++ [.sleepFor (min left 10)]) :=
  guarded_snoc_iff.mpr ⟨hh, hpolled, by omega, by omega⟩

/-- While sending: `rest` is what the worker still has to send of `goal`. -/
structure Owing (io : BlockingSocket) (config : ServerConfig) (d : Discipline)
    (incoming goal rest : List Byte) (h : Calls) : Prop where
  guarded : Guarded (Allows io config d) h
  received : h.received = incoming
  pending : h.sent ++ rest = goal
  due : goal <+: d.due incoming
  reading : ¬h.Eof
  writing : ¬h.ShutDown

namespace Owing

variable {incoming goal rest : List Byte}

lemma poll (hh : Owing io config d incoming goal rest h) {answer : Bool}
    (hanswer : io.stopRequested h = answer) :
    Owing io config d incoming goal rest (h ++ [.stopRequested answer]) where
  guarded := Guarded.poll hh.guarded hanswer
  received := by simpa [SocketCall.received] using hh.received
  pending := by simpa [SocketCall.sent] using hh.pending
  due := hh.due
  reading := by simpa [SocketCall.isEof] using hh.reading
  writing := by simpa [SocketCall.isShutdown] using hh.writing

lemma sleep (hh : Owing io config d incoming goal rest h) (hpolled : h.Polled) (hleft : 0 < left) :
    Owing io config d incoming goal rest (h ++ [.sleepFor (min left 10)]) where
  guarded := Guarded.sleep hh.guarded hpolled hleft
  received := by simpa [SocketCall.received] using hh.received
  pending := by simpa [SocketCall.sent] using hh.pending
  due := hh.due
  reading := by simpa [SocketCall.isEof] using hh.reading
  writing := by simpa [SocketCall.isShutdown] using hh.writing

/-- A `send` of the first bytes of `rest` takes the first of them. -/
lemma send (hh : Owing io config d incoming goal rest h) (hpolled : h.Polled)
    (haccount : Account config .slowWriter 0 h) {data : List Byte} {result : SyscallResult ℕ}
    (hdata : data <+: rest) (hne : data ≠ []) (hlen : data.length ≤ config.chunkBytes)
    (htaken : taken result ≤ data.length) :
    Owing io config d incoming goal (rest.drop (taken result)) (h ++ [.send data result]) where
  guarded := by
    refine guarded_snoc_iff.mpr ⟨hh.guarded, hpolled, hne, hlen, haccount, hh.writing, ?_⟩
    rw [hh.received]
    refine List.IsPrefix.trans ?_ hh.due
    rw [← hh.pending]
    exact (List.prefix_append_right_inj _).mpr hdata
  received := by simpa [SocketCall.received] using hh.received
  pending := by
    have hsent : SocketCall.sent (.send data result) = rest.take (taken result) := by
      obtain ⟨more, rfl⟩ := hdata
      cases result with
      | returned count => exact (List.take_append_of_le_length htaken).symm
      | failed errno => rfl
    rw [Calls.sent_snoc, hsent, List.append_assoc, List.take_append_drop]
    exact hh.pending
  due := hh.due
  reading := by simpa [SocketCall.isEof] using hh.reading
  writing := by simpa [SocketCall.isShutdown] using hh.writing

end Owing

/-- **`send_all`**, in any mode. -/
lemma owing_sendAll_meets (hchunk : 0 < config.chunkBytes) (d : Discipline)
    (incoming goal data : List Byte) :
    Meets (fun h => Owing io config d incoming goal data h ∧ Settled config h)
      (sendAll io config budget data)
      (fun ok (h : Calls) => Guarded (Allows io config d) h ∧
        (ok = true → Owing io config d incoming goal [] h ∧ Settled config h) ∧
        (ok = false → h.Stopped ∨ h.Broken))
      (Guarded (Allows io config d)) := by
  refine (sendAll_meets (K := fun rest left h =>
    Owing io config d incoming goal rest h ∧ Account config .slowWriter left h)
    ?_ ?_ ?_ data).weaken ?_ ?_ ?_
  · exact fun rest left h answer hanswer hh => ⟨hh.1.poll hanswer, hh.2.poll answer⟩
  · exact fun rest left h hleft hpolled hh => ⟨hh.1.sleep hpolled hleft, hh.2.sleep hleft⟩
  · intro rest left h data result hh hleft hpolled hdata hne hlen htaken
    have haccount := hh.2.over hleft
    exact ⟨hh.1.send hpolled haccount hdata (hne hchunk) hlen htaken,
      account_delayOf.mpr (haccount.operate rfl fun _ => rfl)⟩
  · exact fun h hh => ⟨hh.1, account_delayOf.mpr hh.2⟩
  · rintro ok h ⟨⟨rest, left, hh⟩, hok, hfail⟩
    exact ⟨hh.1.guarded, fun ht => ⟨(hok ht).1, account_delayOf.mp (hok ht).2⟩, hfail⟩
  · rintro h ⟨rest, left, hh⟩
    exact hh.1.guarded

/-! ## Echoing -/

/-- An echoing worker that has `rest` of the received bytes to send. -/
def Echoing (io : BlockingSocket) (config : ServerConfig) (rest : List Byte) (h : Calls) : Prop :=
  Owing io config echoDiscipline h.received h.received rest h

lemma Echoing.of_owing {incoming rest : List Byte}
    (hh : Owing io config echoDiscipline incoming incoming rest h) : Echoing io config rest h := by
  unfold Echoing
  rw [hh.received]
  exact hh

lemma Echoing.recv (hh : Echoing io config [] h) (hpolled : h.Polled)
    (haccount : Account config .slowReader 0 h) {result : SyscallResult (List Byte)}
    (hmore : SocketCall.isEof (.recv config.chunkBytes result) = false) :
    Echoing io config (SocketCall.received (.recv config.chunkBytes result))
      (h ++ [.recv config.chunkBytes result]) := by
  have hpending : h.sent = h.received := by simpa using hh.pending
  refine ⟨guarded_snoc_iff.mpr ⟨hh.guarded, hpolled, rfl, haccount, hh.reading, hpending⟩, rfl, ?_,
    List.prefix_refl _, ?_, ?_⟩
  · simp [SocketCall.sent, hpending]
  · simpa [hmore] using hh.reading
  · simpa [SocketCall.isShutdown] using hh.writing

/-- What holds of an echoing worker that has returned. -/
def EchoDone (io : BlockingSocket) (config : ServerConfig) (h : Calls) : Prop :=
  Guarded (Allows io config echoDiscipline) h ∧ (h.ShutDown ∨ h.Stopped ∨ h.Broken)

/-- **`send_all` of received bytes.** -/
lemma echo_sendAll_meets (hchunk : 0 < config.chunkBytes) (incoming data : List Byte) :
    Meets (fun h => Owing io config echoDiscipline incoming incoming data h ∧ Settled config h)
      (sendAll io config budget data)
      (fun ok (h : Calls) => Guarded (Allows io config echoDiscipline) h ∧
        (ok = true → Echoing io config [] h ∧ Settled config h) ∧
        (ok = false → h.Stopped ∨ h.Broken))
      (Guarded (Allows io config echoDiscipline)) := by
  refine (owing_sendAll_meets hchunk echoDiscipline incoming incoming data).weaken
    (fun _ hh => hh) ?_ (fun _ hh => hh)
  rintro ok h ⟨hguard, hok, hfail⟩
  exact ⟨hguard, fun ht => ⟨.of_owing (hok ht).1, (hok ht).2⟩, hfail⟩

/-- The end of the stream, and the shutdown that answers it. -/
lemma Echoing.finish (hh : Echoing io config [] h) (hpolled : h.Polled)
    (haccount : Account config .slowReader 0 h) (hchunk : 0 < config.chunkBytes)
    (result : SyscallResult Unit) :
    EchoDone io config
      (h ++ [.recv config.chunkBytes (.returned [])] ++ [.shutdown .write result]) := by
  have hpending : h.sent = h.received := by simpa using hh.pending
  refine ⟨guarded_snoc_iff.mpr ⟨guarded_snoc_iff.mpr
    ⟨hh.guarded, hpolled, rfl, haccount, hh.reading, hpending⟩, rfl, ?_, ?_, ?_⟩, .inl ?_⟩
  · simpa [SocketCall.isShutdown] using hh.writing
  · simp [SocketCall.isEof, hchunk]
  · simpa [SocketCall.sent, SocketCall.received] using hpending
  · exact Calls.shutDown_snoc.mpr (.inr rfl)

/-- **One trip of the echo loop.** -/
lemma echoTrip_meets (hchunk : 0 < config.chunkBytes) :
    Meets (fun h => Echoing io config [] h ∧ Settled config h) (echoTrip io config budget ())
      (Next.Holds (fun _ h => Echoing io config [] h ∧ Settled config h)
        fun _ => EchoDone io config)
      (Guarded (Allows io config echoDiscipline)) := by
  refine meets_unlessStopped (meets_pure ?_) ?_
  · rintro h ⟨⟨past, hpast, hanswer, rfl⟩, hstopped⟩
    exact ⟨Guarded.poll hpast.1.guarded hanswer, .inr (.inl hstopped)⟩
  refine Meets.bind ((delayIn_meets
    (K := fun left h => Echoing io config [] h ∧ Account config .slowReader left h)
    (fun left h answer hanswer hh => ⟨.of_owing (hh.1.poll hanswer), hh.2.poll answer⟩)
    (fun left h hleft hpolled hh => ⟨.of_owing (hh.1.sleep hpolled hleft), hh.2.sleep hleft⟩)
    .slowReader).weaken ?_ (fun _ _ hh => hh) ?_) fun proceed => ?_
  · rintro h ⟨⟨past, hpast, hanswer, rfl⟩, hpolled⟩
    exact ⟨⟨.of_owing (hpast.1.poll hanswer), (account_delayOf.mpr hpast.2).poll false⟩, hpolled⟩
  · rintro h ⟨left, hh, -⟩
    exact hh.guarded
  split_ifs with hp
  · obtain rfl : proceed = true := hp
    refine Meets.bind (R := fun result (h : Calls) => ∃ past : Calls, Echoing io config [] past ∧
        past.Polled ∧ Account config .slowReader 0 past ∧
        h = past ++ [.recv config.chunkBytes result]) (meets_call ?_) fun result => ?_
    · rintro h ⟨left, hh, hgo, -⟩
      exact ⟨h, hh.1, (hgo rfl).2, hh.2.over (hgo rfl).1, rfl⟩
    -- a receive that does not end the stream leaves what it delivered to be sent
    have hrecv : ∀ h, SocketCall.isEof (.recv config.chunkBytes result) = false →
        (∃ past : Calls, Echoing io config [] past ∧ past.Polled ∧
          Account config .slowReader 0 past ∧ h = past ++ [.recv config.chunkBytes result]) →
        Echoing io config (SocketCall.received (.recv config.chunkBytes result)) h ∧
          Settled config h := by
      rintro h hmore ⟨past, hpast, hpolled, haccount, rfl⟩
      exact ⟨hpast.recv hpolled haccount hmore, haccount.operate rfl fun _ => rfl⟩
    rcases result with bytes | errno
    · show Meets _ (if bytes = [] then _ else _) _ _
      split_ifs with hb
      · refine Meets.bind (R := fun _ => EchoDone io config) (meets_call ?_)
          fun _ => meets_pure fun _ hh => hh
        rintro h ⟨past, hpast, hpolled, haccount, rfl⟩
        rw [hb]
        exact hpast.finish hpolled haccount hchunk _
      · -- what has been received so far is the goal of `send_all`
        refine Meets.bind (Meets.strengthen (meets_exists fun incoming =>
            echo_sendAll_meets hchunk incoming bytes)
          fun h hh => ⟨Calls.received h, hrecv h (by simp [SocketCall.isEof, hb]) hh⟩) fun ok => ?_
        split_ifs with hok
        · exact meets_pure fun h hh => hh.2.1 hok
        · exact meets_pure fun h hh => ⟨hh.1, .inr (hh.2.2 (by simpa using hok))⟩
    · show Meets _ (if errno = EINTR then _ else if errno = EAGAIN then _ else _) _ _
      split_ifs with hintr hagain
      · exact meets_pure fun h hh => hrecv h rfl hh
      · exact meets_pure fun h hh => hrecv h rfl hh
      · refine meets_pure ?_
        rintro h ⟨past, hpast, hpolled, haccount, rfl⟩
        refine ⟨(hpast.recv hpolled haccount rfl).guarded, .inr (.inr ?_)⟩
        exact Calls.broken_snoc.mpr (.inr (by simp [SocketCall.isFatal, hintr, hagain]))
  · refine meets_pure ?_
    rintro h ⟨left, hh, -, hstop⟩
    exact ⟨hh.1.guarded, .inr (.inl (hstop (by simpa using hp)))⟩

/-! ## Sending a payload -/

lemma length_patternBuffer (config : ServerConfig) :
    (patternBuffer config).length = config.chunkBytes := by
  simp [patternBuffer]

lemma length_pattern (config : ServerConfig) : (pattern config).length = config.sendBytes := by
  simp [pattern]

/-- After a multiple of the chunk, the payload continues with the start of the buffer. -/
lemma pattern_take_append {sentBytes remaining : ℕ}
    (hremaining : sentBytes + remaining = config.sendBytes) (hdvd : config.chunkBytes ∣ sentBytes) :
    (pattern config).take sentBytes ++
        (patternBuffer config).take (min remaining config.chunkBytes) =
      (pattern config).take (sentBytes + min remaining config.chunkBytes) := by
  rw [List.take_add]
  congr 1
  refine List.ext_getElem ?_ fun i hi _ => ?_
  · simp [pattern, patternBuffer]
    omega
  · obtain ⟨k, rfl⟩ := hdvd
    have hlt : i < config.chunkBytes := by
      simp only [List.length_take] at hi
      omega
    simp [pattern, patternBuffer, Nat.mod_eq_of_lt hlt]

/-- The loop of `send_then_half_close` with `remaining` bytes to go. -/
structure Midway (io : BlockingSocket) (config : ServerConfig) (remaining : ℕ) (h : Calls) :
    Prop where
  bound : remaining ≤ config.sendBytes
  whole : remaining = 0 ∨ config.chunkBytes ∣ config.sendBytes - remaining
  owing : Owing io config (patternDiscipline config) []
    ((pattern config).take (config.sendBytes - remaining)) [] h
  settled : Settled config h

/-- **One trip of the loop of `send_then_half_close`.** -/
lemma patternTrip_meets (hchunk : 0 < config.chunkBytes) (remaining : ℕ) :
    Meets (Midway io config remaining) (patternTrip io config budget remaining)
      (Next.Holds (Midway io config) fun finished (h : Calls) =>
        Guarded (Allows io config (patternDiscipline config)) h ∧
        (finished = true → ¬h.Eof ∧ ¬h.ShutDown ∧ Settled config h ∧
          (h.sent = pattern config ∨ h.Stopped)) ∧
        (finished = false → h.Stopped ∨ h.Broken))
      (Guarded (Allows io config (patternDiscipline config))) := by
  refine Meets.assuming (fun h hh => And.intro hh.bound hh.whole) fun ⟨hbound, hwhole⟩ => ?_
  unfold patternTrip
  split_ifs with hmore
  · refine meets_unlessStopped (meets_pure ?_) ?_
    · rintro h ⟨⟨past, hpast, hanswer, rfl⟩, hstopped⟩
      have hpoll := hpast.owing.poll hanswer
      exact ⟨hpoll.guarded, fun _ => ⟨hpoll.reading, hpoll.writing, .inl hstopped,
        .inr hstopped⟩, by simp⟩
    rw [length_patternBuffer]
    have hdvd : config.chunkBytes ∣ config.sendBytes - remaining := by
      rcases hwhole with hzero | hdvd
      · omega
      · exact hdvd
    -- the bytes handed to `send_all` are the next ones of the payload
    have hnext := pattern_take_append (Nat.sub_add_cancel hbound) hdvd
    have hsum : config.sendBytes - remaining + min remaining config.chunkBytes =
        config.sendBytes - (remaining - min remaining config.chunkBytes) := by
      omega
    refine Meets.bind ((owing_sendAll_meets hchunk (patternDiscipline config) []
      ((pattern config).take (config.sendBytes - (remaining - min remaining config.chunkBytes)))
      ((patternBuffer config).take (min remaining config.chunkBytes))).strengthen ?_) fun ok => ?_
    · rintro h ⟨⟨past, hpast, hanswer, rfl⟩, -⟩
      have hpoll := hpast.owing.poll hanswer
      refine ⟨⟨hpoll.guarded, hpoll.received, ?_, List.take_prefix _ _, hpoll.reading,
        hpoll.writing⟩, hpast.settled.poll false⟩
      rw [← hsum, ← hnext, ← hpoll.pending, List.append_nil]
    split_ifs with hok
    · refine meets_pure fun h hh => ⟨by omega, ?_, (hh.2.1 hok).1, (hh.2.1 hok).2⟩
      rcases Nat.le_total remaining config.chunkBytes with hle | hle
      · left
        omega
      · right
        rw [← hsum, Nat.min_eq_right hle]
        exact Nat.dvd_add hdvd (Nat.dvd_refl _)
    · exact meets_pure fun h hh => ⟨hh.1, by simp, fun _ => hh.2.2 (by simpa using hok)⟩
  · obtain rfl : remaining = 0 := by omega
    refine meets_pure fun h hh => ⟨hh.owing.guarded, fun _ => ⟨hh.owing.reading, hh.owing.writing,
      hh.settled, .inl ?_⟩, by simp⟩
    have hsent := hh.owing.pending
    rwa [List.append_nil, Nat.sub_zero, ← length_pattern, List.take_length] at hsent

/-- A worker that does nothing but drain, in a mode without a delay. -/
structure Draining (io : BlockingSocket) (config : ServerConfig) (d : Discipline)
    (J : Calls → Prop) (h : Calls) : Prop where
  guarded : Guarded (Allows io config d) h
  settled : Settled config h
  reading : ¬h.Eof
  kept : J h

section Draining

variable {J : Calls → Prop} (hchunk : 0 < config.chunkBytes) (hmode : config.mode ≠ .slowReader)
  (hmay : ∀ h : Calls, J h → ¬h.Eof → d.mayRecv h)
  (hpoll : ∀ h answer, J h → J (h ++ [.stopRequested answer]))
  (hrecv : ∀ h span result, J h → J (h ++ [.recv span result]))

include hchunk hmode hmay hpoll hrecv

/-- **`drain_until_eof`**, in both of its modes: `J` is what it does not touch. -/
lemma draining_meets :
    Meets (Draining io config d J) (drainUntilEof io config budget)
      (fun _ (h : Calls) => Guarded (Allows io config d) h ∧ J h ∧
        (h.Eof ∨ h.Stopped ∨ h.Broken))
      (Guarded (Allows io config d)) := by
  have haccount : ∀ h, Settled config h → Account config .slowReader 0 h := by
    intro h hs
    have hzero : delayOf config .slowReader = 0 := if_neg hmode
    rw [← hzero]
    exact account_delayOf.mpr hs
  have hallowed : ∀ (h : Calls) result, Draining io config d J h → h.Polled →
      Guarded (Allows io config d) (h ++ [.recv config.chunkBytes result]) := fun h result hh hp =>
    guarded_snoc_iff.mpr ⟨hh.guarded, hp, rfl, haccount h hh.settled, hmay h hh.kept hh.reading⟩
  refine (drainUntilEof_meets (J := Draining io config d J) ?_ ?_).weaken (fun _ hh => hh) ?_
    (fun h hh => hh.guarded)
  · intro h answer hanswer hh
    refine ⟨Guarded.poll hh.guarded hanswer, hh.settled.poll answer, ?_, hpoll h answer hh.kept⟩
    simpa [SocketCall.isEof] using hh.reading
  · intro h result hh hpolled _ hmore
    refine ⟨hallowed h result hh hpolled, (haccount h hh.settled).operate rfl fun _ => rfl, ?_,
      hrecv h _ result hh.kept⟩
    simpa [hmore] using hh.reading
  · rintro - h (⟨hh, hend⟩ | ⟨past, hpast, hpolled, rfl⟩)
    · exact ⟨hh.guarded, hh.kept, .inr hend⟩
    · refine ⟨hallowed past _ hpast hpolled, hrecv past _ _ hpast.kept, .inl ?_⟩
      exact Calls.eof_snoc.mpr (.inr (by simpa [SocketCall.isEof] using hchunk))

end Draining

/-! ## The worker -/

/-- What holds of a worker that has returned. -/
def Done (config : ServerConfig) (h : Calls) : Prop :=
  match config.mode with
  | .readUntilEof => h.ShutDown
  | .sendThenHalfClose =>
      h.ShutDown ∧ h.sent = pattern config ∧ h.Eof ∨ h.Stopped ∨ h.Broken
  | .echo | .slowReader | .slowWriter => h.ShutDown ∨ h.Stopped ∨ h.Broken

lemma owing_nil (io : BlockingSocket) (config : ServerConfig) (d : Discipline) :
    Owing io config d [] [] [] [] where
  guarded := guarded_nil
  received := rfl
  pending := rfl
  due := List.nil_prefix
  reading := Calls.not_eof_nil
  writing := Calls.not_shutDown_nil

lemma settled_nil (config : ServerConfig) : Settled config [] := .inr (by simp)

lemma serveClient_meets_echo (hchunk : 0 < config.chunkBytes) :
    Meets (fun h => h = []) (iterate (echoTrip io config budget) budget ())
      (fun _ => EchoDone io config) (Guarded (Allows io config echoDiscipline)) :=
  (meets_iterate (fun _ h => Echoing io config [] h ∧ Settled config h)
    (fun _ => echoTrip_meets hchunk) (fun _ _ hh => hh.1.guarded) budget ()).strengthen
    fun h hh => by
      subst hh
      exact ⟨owing_nil io config _, settled_nil config⟩

lemma sendThenHalfClose_meets (hchunk : 0 < config.chunkBytes)
    (hmode : config.mode = .sendThenHalfClose) :
    Meets (fun h => h = []) (sendThenHalfClose io config budget)
      (fun _ (h : Calls) => Guarded (Allows io config (patternDiscipline config)) h ∧
        (h.ShutDown ∧ h.sent = pattern config ∧ h.Eof ∨ h.Stopped ∨ h.Broken))
      (Guarded (Allows io config (patternDiscipline config))) := by
  refine Meets.bind ((meets_iterate (Midway io config) (patternTrip_meets hchunk)
    (fun _ _ hh => hh.owing.guarded) budget config.sendBytes).strengthen ?_) fun finished => ?_
  · rintro h rfl
    refine ⟨le_rfl, .inr (by simp), ?_, settled_nil config⟩
    rw [Nat.sub_self, List.take_zero]
    exact owing_nil io config _
  split_ifs with hfinished
  · refine Meets.bind (R := fun _ => Draining io config (patternDiscipline config) fun h : Calls =>
        h.ShutDown ∧ (h.sent = pattern config ∨ h.Stopped)) (meets_call fun h hh => ?_) fun _ => ?_
    · obtain ⟨hreading, hwriting, hsettled, hwhy⟩ := hh.2.1 hfinished
      refine ⟨guarded_snoc_iff.mpr ⟨hh.1, rfl, hwriting, hwhy⟩, hsettled.shutdown _ _, ?_, ?_, ?_⟩
      · simpa [SocketCall.isEof] using hreading
      · exact Calls.shutDown_snoc.mpr (.inr rfl)
      · simpa [SocketCall.sent, SocketCall.isStop] using hwhy
    · refine (draining_meets hchunk (by simp [hmode]) ?_ ?_ ?_).weaken (fun _ hh => hh) ?_
        (fun _ hh => hh)
      · exact fun h hJ hreading => ⟨hJ.1, hreading⟩
      · intro h answer hJ
        refine ⟨Calls.shutDown_snoc.mpr (.inl hJ.1), ?_⟩
        rcases hJ.2 with hsent | hstop
        · exact .inl (by simpa [SocketCall.sent] using hsent)
        · exact .inr (Calls.stopped_snoc.mpr (.inl hstop))
      · intro h span result hJ
        refine ⟨Calls.shutDown_snoc.mpr (.inl hJ.1), ?_⟩
        simpa [SocketCall.sent, SocketCall.isStop] using hJ.2
      · rintro - h ⟨hguard, ⟨hshut, hsent | hstop⟩, heof | hrest⟩
        · exact ⟨hguard, .inl ⟨hshut, hsent, heof⟩⟩
        · exact ⟨hguard, .inr hrest⟩
        · exact ⟨hguard, .inr (.inl hstop)⟩
        · exact ⟨hguard, .inr hrest⟩
  · exact meets_pure fun h hh => ⟨hh.1, .inr (hh.2.2 (by simpa using hfinished))⟩

lemma readUntilEof_meets (hchunk : 0 < config.chunkBytes) (hmode : config.mode = .readUntilEof) :
    Meets (fun h => h = []) (do
      drainUntilEof io config budget
      let _ ← io.doShutdown .write
      pure ())
      (fun _ (h : Calls) => Guarded (Allows io config drainDiscipline) h ∧ h.ShutDown)
      (Guarded (Allows io config drainDiscipline)) := by
  refine Meets.bind ((draining_meets (J := fun h : Calls => ¬h.ShutDown) hchunk (by simp [hmode])
    ?_ ?_ ?_).strengthen ?_) fun _ => ?_
  · exact fun h hJ hreading => ⟨hJ, hreading⟩
  · exact fun h answer hJ => by simpa [SocketCall.isShutdown] using hJ
  · exact fun h span result hJ => by simpa [SocketCall.isShutdown] using hJ
  · rintro h rfl
    exact ⟨guarded_nil, settled_nil config, Calls.not_eof_nil, Calls.not_shutDown_nil⟩
  · refine Meets.bind (R := fun _ (h : Calls) =>
      Guarded (Allows io config drainDiscipline) h ∧ h.ShutDown) (meets_call fun h hh => ?_)
        fun _ => meets_pure fun _ hh => hh
    exact ⟨guarded_snoc_iff.mpr ⟨hh.1, rfl, hh.2.1, hh.2.2⟩, Calls.shutDown_snoc.mpr (.inr rfl)⟩

/-- **Every call of a worker is allowed**, whatever the socket answers and whenever it is told to
stop, and a worker that has returned is done. -/
lemma serveClient_meets (io : BlockingSocket) (budget : ℕ) (hchunk : 0 < config.chunkBytes) :
    Meets (fun h => h = []) (serveClient io config budget)
      (fun _ h => Guarded (Allows io config (disciplineOf config)) h ∧ Done config h)
      (Guarded (Allows io config (disciplineOf config))) := by
  rcases hmode : config.mode with _ | _ | _ | _ | _ <;>
    simp only [serveClient, disciplineOf, Done, hmode]
  · exact serveClient_meets_echo hchunk
  · exact serveClient_meets_echo hchunk
  · exact serveClient_meets_echo hchunk
  · exact readUntilEof_meets hchunk hmode
  · exact sendThenHalfClose_meets hchunk hmode

end Server

end NetFault
