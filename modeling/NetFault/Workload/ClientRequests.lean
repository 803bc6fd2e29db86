import NetFault.Workload.ClientBulk

/-!
# Requests and responses

`run_request_response` makes one exchange after the other: a request is sent only when the response
to the one before it has arrived in full, and the stream is ended after the last response.  The
requests are consecutive pieces of the generator's bytes (`requestStream`).
-/

namespace NetFault

open Process History

namespace Client

/-- The bytes of the first `count` requests, and the generator after them. -/
def requestStream (seed : UInt64) (requestBytes : ℕ) : ℕ → List Byte × Mt19937
  | 0 => ([], Mt19937.seed seed)
  | count + 1 =>
      let made := requestStream seed requestBytes count
      let filled := made.2.fill requestBytes
      (made.1 ++ filled.1, filled.2)

lemma length_requestStream (seed : UInt64) (requestBytes count : ℕ) :
    (requestStream seed requestBytes count).1.length = count * requestBytes := by
  induction count with
  | zero => simp [requestStream]
  | succ count ih => simp [requestStream, ih, Mt19937.length_fill, Nat.succ_mul]

/-- What a run of `run_request_response` is about. -/
structure Plan where
  requests : ℕ
  warmup : ℕ
  requestBytes : ℕ
  seed : UInt64

namespace Plan

variable (plan : Plan)

def total : ℕ := plan.warmup + plan.requests

/-- The bytes of the first `count` requests. -/
def stream (count : ℕ) : List Byte := (requestStream plan.seed plan.requestBytes count).1

/-- The request after `count` others. -/
def request (count : ℕ) : List Byte :=
  ((requestStream plan.seed plan.requestBytes count).2.fill plan.requestBytes).1

lemma stream_succ (count : ℕ) : plan.stream (count + 1) = plan.stream count ++ plan.request count :=
  rfl

lemma length_request (count : ℕ) : (plan.request count).length = plan.requestBytes :=
  Mt19937.length_fill _ _

end Plan

/-- What the calls so far must be for a call of `run_request_response`. -/
def RequestAllows (plan : Plan) (past : Calls) : SocketCall → Prop
  | .socket _ | .connect _ | .steadyNow _ => True
  | .send data _ => ¬past.ShutDown ∧ ∃ count < plan.total,
      past.received = plan.stream count ∧ past.sent ++ data = plan.stream (count + 1)
  | .recv span _ => if past.ShutDown then past.received = past.sent else
      ∃ count < plan.total, past.sent = plan.stream (count + 1) ∧
        past.received.length + span = past.sent.length
  | .shutdown how _ => how = .write ∧ ¬past.ShutDown ∧ past.sent = plan.stream plan.total ∧
      past.received = plan.stream plan.total
  | .stopRequested _ | .sleepFor _ => False

variable {io : BlockingSocket} {budget : ℕ} {plan : Plan} {h : Calls}

section Receive

variable {J : List Byte → Calls → Prop} {expected : ℕ}
  (hgot : ∀ got h bytes, J got h → got.length < expected → bytes ≠ [] →
    bytes.length ≤ expected - got.length →
      J (got ++ bytes) (h ++ [.recv (expected - got.length) (.returned bytes)]))
  (hfailed : ∀ got h errno, J got h → got.length < expected →
    J got (h ++ [.recv (expected - got.length) (.failed errno)]))

include hgot hfailed

/-- **What `receive_exact` keeps**: with a response it is of the expected length, and otherwise the
stream has ended early or a receive has failed. -/
lemma receiveExact_meets :
    Meets (J []) (receiveExact io budget expected)
      (fun response h => match response with
        | .ok bytes => J bytes h ∧ bytes.length = expected
        | .error error => (error = .unexpectedEofMidResponse ∧ ∃ past got, J got past ∧
            got.length < expected ∧ h = past ++ [.recv (expected - got.length) (.returned [])]) ∨
          (∃ errno, error = .recv errno) ∧ ∃ got, J got h)
      (fun h => ∃ got, J got h) := by
  refine (meets_iterate (fun got h => J got h ∧ got.length ≤ expected) (fun got => ?_)
    (fun got _ hh => ⟨got, hh.1⟩) budget []).strengthen fun h hh => ⟨hh, Nat.zero_le _⟩
  unfold receiveTrip
  split_ifs with hmore
  · refine Meets.bind (R := fun result h => ∃ past, J got past ∧
        (∀ bytes, result = .returned bytes → bytes.length ≤ expected - got.length) ∧
        h = past ++ [.recv (expected - got.length) result])
      (meets_call fun h hh => ⟨h, hh.1, io.recv_returned _ _, rfl⟩) fun result => ?_
    rcases result with bytes | errno
    · show Meets _ (if bytes = [] then _ else _) _ _
      split_ifs with hb
      · refine meets_pure ?_
        rintro h ⟨past, hpast, -, rfl⟩
        exact .inl ⟨rfl, past, got, hpast, hmore, by rw [hb]⟩
      · refine meets_pure ?_
        rintro h ⟨past, hpast, hlen, rfl⟩
        have hbound := hlen bytes rfl
        refine ⟨hgot got past bytes hpast hmore hb hbound, ?_⟩
        rw [List.length_append]
        omega
    · show Meets _ (if errno = EINTR then _ else _) _ _
      split_ifs with hintr
      · refine meets_pure ?_
        rintro h ⟨past, hpast, -, rfl⟩
        exact ⟨hfailed got past errno hpast hmore, hmore.le⟩
      · refine meets_pure ?_
        rintro h ⟨past, hpast, -, rfl⟩
        exact .inr ⟨⟨errno, rfl⟩, got, hfailed got past errno hpast hmore⟩
  · exact meets_pure fun h hh => ⟨hh.1, by have := hh.2; omega⟩

end Receive

/-! ## One exchange after the other -/

/-- In the exchange after `count` others: `rest` of the request is to be sent, `got` of the
response has been received. -/
structure Exchanging (plan : Plan) (count : ℕ) (rest got : List Byte) (h : Calls) : Prop where
  guarded : Guarded (RequestAllows plan) h
  sent : h.sent ++ rest = plan.stream (count + 1)
  received : h.received = plan.stream count ++ got
  reading : ¬h.Eof
  writing : ¬h.ShutDown

/-- Between two exchanges. -/
structure Between (plan : Plan) (count : ℕ) (h : Calls) : Prop where
  guarded : Guarded (RequestAllows plan) h
  sent : h.sent = plan.stream count
  received : h.received = plan.stream count
  reading : ¬h.Eof
  writing : ¬h.ShutDown

section Exchanging

variable {count : ℕ} {rest got : List Byte}

/-- A call that has nothing to do with the two streams. -/
lemma Between.quiet (hh : Between plan count h) {e : SocketCall} (hallowed : RequestAllows plan h e)
    (hsent : e.sent = []) (hreceived : e.received = []) (heof : e.isEof = false)
    (hshut : e.isShutdown = false) : Between plan count (h ++ [e]) where
  guarded := guarded_snoc_iff.mpr ⟨hh.guarded, hallowed⟩
  sent := by simpa [hsent] using hh.sent
  received := by simpa [hreceived] using hh.received
  reading := by simpa [heof] using hh.reading
  writing := by simpa [hshut] using hh.writing

lemma Between.begin (hh : Between plan count h) :
    Exchanging plan count (plan.request count) [] h where
  guarded := hh.guarded
  sent := by rw [hh.sent, plan.stream_succ]
  received := by rw [hh.received, List.append_nil]
  reading := hh.reading
  writing := hh.writing

lemma Exchanging.send (hh : Exchanging plan count rest [] h) (hcount : count < plan.total)
    {result : SyscallResult ℕ} (htaken : taken result ≤ rest.length) :
    Exchanging plan count (rest.drop (taken result)) [] (h ++ [.send rest result]) where
  guarded := guarded_snoc_iff.mpr ⟨hh.guarded, hh.writing, count, hcount,
    by simpa using hh.received, hh.sent⟩
  sent := by
    have hsent : SocketCall.sent (.send rest result) = rest.take (taken result) := by
      cases result <;> rfl
    rw [Calls.sent_snoc, hsent, List.append_assoc, List.take_append_drop]
    exact hh.sent
  received := by simpa [SocketCall.received] using hh.received
  reading := by simpa [SocketCall.isEof] using hh.reading
  writing := by simpa [SocketCall.isShutdown] using hh.writing

/-- A receive of what is missing of the response is in order. -/
lemma Exchanging.recv_allowed (hh : Exchanging plan count [] got h) (hcount : count < plan.total)
    (hmore : got.length < plan.requestBytes) (result : SyscallResult (List Byte)) :
    Guarded (RequestAllows plan) (h ++ [.recv (plan.requestBytes - got.length) result]) := by
  refine guarded_snoc_iff.mpr ⟨hh.guarded, ?_⟩
  have hsent : h.sent = plan.stream (count + 1) := by simpa using hh.sent
  show if h.ShutDown then _ else _
  rw [if_neg hh.writing]
  refine ⟨count, hcount, hsent, ?_⟩
  rw [hsent, hh.received, plan.stream_succ, List.length_append, List.length_append,
    plan.length_request]
  omega

lemma Exchanging.collect (hh : Exchanging plan count [] got h) (hcount : count < plan.total)
    (hmore : got.length < plan.requestBytes) {bytes : List Byte} (hb : bytes ≠ []) :
    Exchanging plan count [] (got ++ bytes)
      (h ++ [.recv (plan.requestBytes - got.length) (.returned bytes)]) where
  guarded := hh.recv_allowed hcount hmore _
  sent := by simpa [SocketCall.sent] using hh.sent
  received := by simp [SocketCall.received, hh.received]
  reading := by simpa [SocketCall.isEof, hb] using hh.reading
  writing := by simpa [SocketCall.isShutdown] using hh.writing

lemma Exchanging.failed (hh : Exchanging plan count [] got h) (hcount : count < plan.total)
    (hmore : got.length < plan.requestBytes) (errno : ℤ) :
    Exchanging plan count [] got
      (h ++ [.recv (plan.requestBytes - got.length) (.failed errno)]) where
  guarded := hh.recv_allowed hcount hmore _
  sent := by simpa [SocketCall.sent] using hh.sent
  received := by simpa [SocketCall.received] using hh.received
  reading := by simpa [SocketCall.isEof] using hh.reading
  writing := by simpa [SocketCall.isShutdown] using hh.writing

lemma Exchanging.finish (hh : Exchanging plan count [] (plan.request count) h) :
    Between plan (count + 1) h where
  guarded := hh.guarded
  sent := by simpa using hh.sent
  received := hh.received
  reading := hh.reading
  writing := hh.writing

end Exchanging

/-- What an error of `run_request_response` says about the two streams. -/
def Explains (error : ClientError) (h : Calls) : Prop :=
  match error with
  | .socket _ | .connect _ | .send _ | .recv _ => True
  | .unexpectedEofMidResponse => h.Eof ∧ ¬h.ShutDown
  | .responseMismatch => h.received.length = h.sent.length ∧ h.received ≠ h.sent
  | .unexpectedDataAfterFinalResponse => h.sent.length < h.received.length
  | .drainRecv _ => h.ShutDown
  | .shutdown _ | .receivedMoreBytesThanSent | .payloadMismatch => False

/-- The loop of exchanges at the top. -/
structure AtExchange (plan : Plan) (s : Exchanges) (h : Calls) : Prop where
  bound : s.index ≤ plan.total
  generator : s.generator = (requestStream plan.seed plan.requestBytes s.index).2
  samples : s.samples.length = s.index - plan.warmup
  between : Between plan s.index h

/-- How the loop of exchanges is left. -/
def ExchangesDone (plan : Plan) (left : List ℤ × Option ClientError) (h : Calls) : Prop :=
  match left.2 with
  | none => Between plan plan.total h ∧ left.1.length = plan.requests
  | some error => Guarded (RequestAllows plan) h ∧ Explains error h ∧
      left.1.length ≤ plan.requests

lemma request_sendAll_meets {count : ℕ} (hcount : count < plan.total) :
    Meets (Between plan count) (sendAll io budget (plan.request count))
      (fun failed h => match failed with
        | none => Exchanging plan count [] [] h
        | some error => Guarded (RequestAllows plan) h ∧ Explains error h)
      (Guarded (RequestAllows plan)) := by
  refine (sendAll_meets (J := fun rest => Exchanging plan count rest [])
    (fun rest h result _ hh htaken => hh.send hcount htaken) (plan.request count)).weaken
    (fun h hh => hh.begin) ?_ ?_
  · rintro (_ | error) h hh
    · exact hh
    · obtain ⟨⟨rest, hrest⟩, errno, rfl⟩ := hh
      exact ⟨hrest.guarded, trivial⟩
  · rintro h ⟨rest, hrest⟩
    exact hrest.guarded

lemma response_meets {count : ℕ} (hcount : count < plan.total) :
    Meets (Exchanging plan count [] []) (receiveExact io budget plan.requestBytes)
      (fun response h => match response with
        | .ok bytes => Exchanging plan count [] bytes h ∧ bytes.length = plan.requestBytes
        | .error error => Guarded (RequestAllows plan) h ∧ Explains error h)
      (Guarded (RequestAllows plan)) := by
  refine (receiveExact_meets (J := Exchanging plan count [])
    (fun got h bytes hh hmore hb _ => hh.collect hcount hmore hb)
    (fun got h errno hh hmore => hh.failed hcount hmore errno)).weaken (fun _ hh => hh) ?_ ?_
  · rintro (error | bytes) h hh
    · rcases hh with ⟨rfl, past, got, hpast, hmore, rfl⟩ | ⟨⟨errno, rfl⟩, got, hgot⟩
      · refine ⟨hpast.recv_allowed hcount hmore _, Calls.eof_snoc.mpr (.inr ?_), ?_⟩
        · simp only [SocketCall.isEof, List.isEmpty_nil, Bool.and_true, decide_eq_true_eq]
          omega
        · simpa [SocketCall.isShutdown] using hpast.writing
      · exact ⟨hgot.guarded, trivial⟩
    · exact hh
  · rintro h ⟨got, hgot⟩
    exact hgot.guarded

/-- **One exchange.** -/
lemma exchangeTrip_meets (s : Exchanges) :
    Meets (AtExchange plan s)
      (exchangeTrip io budget plan.requests plan.warmup plan.requestBytes s)
      (Next.Holds (AtExchange plan) (ExchangesDone plan)) (Guarded (RequestAllows plan)) := by
  refine Meets.assuming (fun h hh => And.intro hh.bound (And.intro hh.generator hh.samples))
    fun ⟨hbound, hgenerator, hsamples⟩ => ?_
  have hrequest : (s.generator.fill plan.requestBytes).1 = plan.request s.index := by
    rw [hgenerator]
    rfl
  have hnext : (s.generator.fill plan.requestBytes).2 =
      (requestStream plan.seed plan.requestBytes (s.index + 1)).2 := by
    rw [hgenerator]
    rfl
  have hfew : s.samples.length ≤ plan.requests := by
    have : plan.total = plan.warmup + plan.requests := rfl
    omega
  unfold exchangeTrip
  by_cases hmore : s.index < plan.warmup + plan.requests
  · rw [if_pos hmore]
    rcases hfill : s.generator.fill plan.requestBytes with ⟨request, generator⟩
    rw [hfill] at hrequest hnext
    obtain rfl : request = plan.request s.index := hrequest
    have hgenerator' : generator = (requestStream plan.seed plan.requestBytes (s.index + 1)).2 :=
      hnext
    show Meets _ (io.readClock >>= _) _ _
    refine Meets.bind (R := fun _ => Between plan s.index)
      (meets_call fun h hh => hh.between.quiet trivial rfl rfl rfl rfl) fun start => ?_
    refine Meets.bind (request_sendAll_meets hmore) fun failed => ?_
    rcases failed with _ | error
    · refine Meets.bind (response_meets hmore) fun response => ?_
      rcases response with error | response
      · exact meets_pure fun h hh => ⟨hh.1, hh.2, hfew⟩
      show Meets _ (if response ≠ plan.request s.index then _ else _) _ _
      by_cases hne : response ≠ plan.request s.index
      · rw [if_pos hne]
        refine meets_pure fun h hh => ⟨hh.1.guarded, ?_, hfew⟩
        have hsent : Calls.sent h = plan.stream (s.index + 1) := by simpa using hh.1.sent
        have hreceived := hh.1.received
        refine ⟨?_, ?_⟩
        · rw [hsent, hreceived, plan.stream_succ, List.length_append, List.length_append, hh.2,
            plan.length_request]
        · rw [hsent, hreceived, plan.stream_succ]
          exact fun heq => hne (List.append_cancel_left heq)
      rw [if_neg hne]
      obtain rfl : response = plan.request s.index := not_not.mp hne
      split_ifs with hwarm
      · refine Meets.bind (R := fun _ => Between plan (s.index + 1))
          (meets_call fun h hh => hh.1.finish.quiet trivial rfl rfl rfl rfl) fun now => ?_
        refine meets_pure fun h hh => ⟨hmore, hgenerator', ?_, hh⟩
        show (s.samples ++ [_]).length = s.index + 1 - plan.warmup
        rw [List.length_append, List.length_singleton]
        omega
      · refine meets_pure fun h hh => ⟨hmore, hgenerator', ?_, hh.1.finish⟩
        show s.samples.length = s.index + 1 - plan.warmup
        omega
    · exact meets_pure fun h hh => ⟨hh.1, hh.2, hfew⟩
  · rw [if_neg hmore]
    refine meets_pure fun h hh => ?_
    have hindex : s.index = plan.total := le_antisymm hbound (not_lt.mp hmore)
    have htotal : plan.total = plan.warmup + plan.requests := rfl
    refine ⟨by simpa [hindex] using hh.between, ?_⟩
    show s.samples.length = plan.requests
    omega

/-! ## The end of the run -/

/-- After the shutdown: every request was sent and every response received. -/
structure AtEnd (plan : Plan) (h : Calls) : Prop where
  guarded : Guarded (RequestAllows plan) h
  ended : h.ShutDown
  sent : h.sent = plan.stream plan.total
  received : h.received = plan.stream plan.total

lemma AtEnd.recv_allowed (hh : AtEnd plan h) (span : ℕ) (result : SyscallResult (List Byte)) :
    Guarded (RequestAllows plan) (h ++ [.recv span result]) := by
  refine guarded_snoc_iff.mpr ⟨hh.guarded, ?_⟩
  show if h.ShutDown then _ else _
  rw [if_pos hh.ended, hh.sent, hh.received]

/-- A receive that delivers nothing. -/
lemma AtEnd.recv (hh : AtEnd plan h) (span : ℕ) {result : SyscallResult (List Byte)}
    (hnone : SocketCall.received (.recv span result) = []) :
    AtEnd plan (h ++ [.recv span result]) where
  guarded := hh.recv_allowed span result
  ended := Calls.shutDown_snoc.mpr (.inl hh.ended)
  sent := by simpa [SocketCall.sent] using hh.sent
  received := by simpa [hnone] using hh.received

/-- **The final drain**: it leaves without an error exactly at the end of the stream. -/
lemma final_meets :
    Meets (AtEnd plan) (iterate (finalTrip io) budget ())
      (fun failed (h : Calls) => match failed with
        | none => AtEnd plan h ∧ h.Eof
        | some error => Guarded (RequestAllows plan) h ∧ Explains error h)
      (Guarded (RequestAllows plan)) := by
  refine meets_iterate (fun _ => AtEnd plan) (fun _ => ?_) (fun _ _ hh => hh.guarded) budget ()
  refine Meets.bind (R := fun result (h : Calls) => ∃ past : Calls, AtEnd plan past ∧
      h = past ++ [.recv 4096 result]) (meets_call fun h hh => ⟨h, hh, rfl⟩) fun result => ?_
  rcases result with bytes | errno
  · show Meets _ (if bytes = [] then _ else _) _ _
    split_ifs with hb
    · refine meets_pure ?_
      rintro h ⟨past, hpast, rfl⟩
      exact ⟨hpast.recv 4096 hb, by simp [SocketCall.isEof, hb]⟩
    · refine meets_pure ?_
      rintro h ⟨past, hpast, rfl⟩
      refine ⟨hpast.recv_allowed 4096 _, ?_⟩
      have hpos := List.length_pos_iff.mpr hb
      show (Calls.sent _).length < (Calls.received _).length
      rw [Calls.sent_snoc, Calls.received_snoc, hpast.sent, hpast.received]
      simpa [SocketCall.sent, SocketCall.received] using hpos
  · show Meets _ (if errno = EINTR then _ else _) _ _
    split_ifs with hintr
    · refine meets_pure ?_
      rintro h ⟨past, hpast, rfl⟩
      exact hpast.recv 4096 rfl
    · refine meets_pure ?_
      rintro h ⟨past, hpast, rfl⟩
      exact ⟨hpast.recv_allowed 4096 _, Calls.shutDown_snoc.mpr (.inl hpast.ended)⟩

/-- **What the verdict of `run_request_response` says.** -/
def RequestVerdict (plan : Plan) (result : Result) (h : Calls) : Prop :=
  Guarded (RequestAllows plan) h ∧
    match result.error with
    | none => result.success = true ∧ AtEnd plan h ∧ h.Eof ∧
        result.bytes = plan.total * plan.requestBytes ∧
        result.latencySamplesUs.length = plan.requests
    | some error => result.success = false ∧ Explains error h ∧
        result.latencySamplesUs.length ≤ plan.requests

lemma between_nil (plan : Plan) : Between plan 0 [] where
  guarded := guarded_nil
  sent := rfl
  received := rfl
  reading := Calls.not_eof_nil
  writing := Calls.not_shutDown_nil

lemma exchangeAll_meets (start : ℤ) :
    Meets (Between plan 0)
      (exchangeAll io budget start plan.requests plan.warmup plan.requestBytes plan.seed)
      (RequestVerdict plan) (Guarded (RequestAllows plan)) := by
  refine Meets.bind ((meets_iterate (AtExchange plan) exchangeTrip_meets
    (fun _ _ hh => hh.between.guarded) budget { generator := Mt19937.seed plan.seed }).strengthen
    fun h hh => ⟨Nat.zero_le _, rfl, by simp, hh⟩) ?_
  rintro ⟨samples, _ | error⟩
  · refine Meets.bind (R := fun _ h => AtEnd plan h ∧ samples.length = plan.requests)
      (meets_call ?_) fun _ => ?_
    · rintro h ⟨hbetween, hsamples⟩
      refine ⟨⟨guarded_snoc_iff.mpr ⟨hbetween.guarded, rfl, hbetween.writing, hbetween.sent,
        hbetween.received⟩, Calls.shutDown_snoc.mpr (.inr rfl), ?_, ?_⟩, hsamples⟩
      · simpa [SocketCall.sent] using hbetween.sent
      · simpa [SocketCall.received] using hbetween.received
    refine Meets.assuming (fun h hh => hh.2) fun hsamples => ?_
    refine Meets.bind (final_meets.strengthen fun h hh => hh.1) fun failed => ?_
    rcases failed with _ | error
    · refine Meets.bind (R := fun _ (h : Calls) => AtEnd plan h ∧ h.Eof) (meets_call ?_)
        fun now => meets_pure fun h hh => ⟨hh.1.guarded, rfl, hh.1, hh.2, rfl, hsamples⟩
      rintro h ⟨hend, heof⟩
      exact ⟨⟨guarded_snoc_iff.mpr ⟨hend.guarded, trivial⟩,
        Calls.shutDown_snoc.mpr (.inl hend.ended),
        by simpa [SocketCall.sent] using hend.sent,
        by simpa [SocketCall.received] using hend.received⟩, Calls.eof_snoc.mpr (.inl heof)⟩
    · exact meets_pure fun h hh => ⟨hh.1, rfl, hh.2, hsamples.le⟩
  · exact meets_pure fun h hh => ⟨hh.1, rfl, hh.2.1, hh.2.2⟩

lemma runRequestResponse_meets (io : BlockingSocket) (budget : ℕ) (plan : Plan) :
    Meets (fun h => h = [])
      (runRequestResponse io budget plan.requests plan.warmup plan.requestBytes plan.seed)
      (RequestVerdict plan) (Guarded (RequestAllows plan)) := by
  refine Meets.bind (R := fun _ => Between plan 0) (meets_call ?_) fun opened => ?_
  · rintro h rfl
    exact (between_nil plan).quiet trivial rfl rfl rfl rfl
  rcases opened with _ | errno
  · refine Meets.bind (R := fun _ => Between plan 0)
      (meets_call fun h hh => hh.quiet trivial rfl rfl rfl rfl) fun start => ?_
    refine Meets.bind (R := fun _ => Between plan 0)
      (meets_call fun h hh => hh.quiet trivial rfl rfl rfl rfl) fun connected => ?_
    rcases connected with _ | errno
    · exact exchangeAll_meets start
    · exact meets_pure fun h hh => ⟨hh.guarded, rfl, trivial, Nat.zero_le _⟩
  · exact meets_pure fun h hh => ⟨hh.guarded, rfl, trivial, Nat.zero_le _⟩

/-- A run of `run_request_response`. -/
def requestOutcome (io : BlockingSocket) (budget : ℕ) (plan : Plan) : Option Result × Calls :=
  outcome (runRequestResponse io budget plan.requests plan.warmup plan.requestBytes plan.seed) []

lemma guarded_requestOutcome (io : BlockingSocket) (budget : ℕ) (plan : Plan) :
    Guarded (RequestAllows plan) (requestOutcome io budget plan).2 := by
  obtain ⟨hreturned, hrunning⟩ := (runRequestResponse_meets io budget plan).run rfl
  rcases hout : (requestOutcome io budget plan).1 with _ | result
  · exact hrunning hout
  · exact (hreturned result hout).1

/-- **Requests and responses alternate, and the verdict says what happened.**  For every behaviour
of the socket: a request is sent only while the bytes received are exactly the requests before it,
and the stream is ended only after the last response.  A run that returns has succeeded exactly if
it has no error; then every request was sent, the bytes received are the bytes sent, the end of the
peer's stream was seen, there is one latency sample for each request after the warmup, and the byte
count is that of the requests.  Otherwise the error is true of the two streams. -/
theorem run_request_response_exchanges (io : BlockingSocket) (budget : ℕ) (plan : Plan) :
    (∀ past e, past ++ [e] <+: (requestOutcome io budget plan).2 →
      (∀ data result, e = .send data result → ∃ count < plan.total,
        Calls.received past = plan.stream count ∧
          Calls.sent past ++ data = plan.stream (count + 1)) ∧
      (e.isShutdown = true → Calls.sent past = plan.stream plan.total ∧
        Calls.received past = plan.stream plan.total)) ∧
    ∀ result, (requestOutcome io budget plan).1 = some result →
      (result.success = true ↔ result.error = none) ∧
      (result.success = true →
        Calls.sent (requestOutcome io budget plan).2 = plan.stream plan.total ∧
        Calls.received (requestOutcome io budget plan).2 = plan.stream plan.total ∧
        Calls.Eof (requestOutcome io budget plan).2 ∧
        result.latencySamplesUs.length = plan.requests ∧
        result.bytes = (plan.stream plan.total).length) ∧
      ∀ error, result.error = some error → Explains error (requestOutcome io budget plan).2 := by
  constructor
  · rintro past e ⟨future, hfuture⟩
    have hguard := guarded_requestOutcome io budget plan
    rw [← hfuture] at hguard
    have hallowed := (guarded_snoc_iff.mp (guarded_append_iff.mp hguard).1).2
    constructor
    · rintro data result rfl
      exact hallowed.2
    · intro hshut
      cases e with
      | shutdown how result => exact hallowed.2.2
      | _ => cases hshut
  · intro result hreturned
    obtain ⟨-, hverdict⟩ := ((runRequestResponse_meets io budget plan).run rfl).1 result hreturned
    rcases herror : result.error with _ | error
    · rw [herror] at hverdict
      obtain ⟨hsuccess, hend, heof, hbytes, hsamples⟩ := hverdict
      refine ⟨by simp [hsuccess], fun _ => ⟨hend.sent, hend.received, heof, hsamples, ?_⟩, by simp⟩
      rw [hbytes]
      exact (length_requestStream _ _ _).symm
    · rw [herror] at hverdict
      obtain ⟨hsuccess, hexplains, -⟩ := hverdict
      refine ⟨by simp [hsuccess], fun htrue => by simp [hsuccess] at htrue, ?_⟩
      rintro _ ⟨rfl⟩
      exact hexplains

-- both requests of one byte are answered; a wrong second answer is found
example :
    (requestOutcome (.script [167, 98] 0) 9 ⟨2, 0, 1, 7⟩).1 =
        some { success := true, bytes := 2, latencySamplesUs := [0, 0] } ∧
      (requestOutcome (.script [167, 99] 0) 9 ⟨2, 0, 1, 7⟩).1 =
        some { error := some .responseMismatch, latencySamplesUs := [0] } := by
  decide +kernel

end Client

end NetFault
