import NetFault.Workload.BlockingSocket

/-!
# The deterministic client

`run_connection`, which streams a payload through an echoing peer and compares, and
`run_request_response`, which exchanges one request at a time.  The payload comes from
`std::mt19937_64`, given here by its recurrence.

`run_connection` has two threads on one socket: the main thread sends, a reader receives, and the
main thread joins the reader before it judges.  Each thread is a process with a history and
surroundings of its own.  A run of the two together, in any order, is seen by each of them as some
behaviour of its surroundings, so statements about all pairs of behaviours cover every
interleaving; a join with a reader that is still running leaves the main thread running too.
-/

namespace NetFault

/-! ## The generator -/

/-- `std::mt19937_64`: the last 312 words of its sequence, oldest first. -/
structure Mt19937 where
  window : List UInt64
  deriving DecidableEq

namespace Mt19937

/-- The first 312 words are made from the seed. -/
def seed (value : UInt64) : Mt19937 where
  window := ((List.range 311).foldl (fun (made : List UInt64 × UInt64) i =>
    let word := (6364136223846793005 : UInt64) * (made.2 ^^^ (made.2 >>> 62)) + UInt64.ofNat (i + 1)
    (made.1 ++ [word], word)) ([value], value)).1

def temper (word : UInt64) : UInt64 :=
  let word := word ^^^ ((word >>> 29) &&& 0x5555555555555555)
  let word := word ^^^ ((word <<< 17) &&& 0x71D67FFFEDA60000)
  let word := word ^^^ ((word <<< 37) &&& 0xFFF7EEE000000000)
  word ^^^ (word >>> 43)

/-- One word is made from the first, the second and the 157th of the window. -/
def next (g : Mt19937) : UInt64 × Mt19937 :=
  let word (i : ℕ) := g.window.getD i 0
  let mixed := (word 0 &&& 0xFFFFFFFF80000000) ||| (word 1 &&& 0x7FFFFFFF)
  let made := word 156 ^^^ (mixed >>> 1) ^^^ (if mixed &&& 1 = 1 then 0xB5026F5AA96619E9 else 0)
  (temper made, ⟨g.window.tail ++ [made]⟩)

/-- `generator() & 0xFFU`, for each byte of a buffer. -/
def fill (g : Mt19937) : ℕ → List Byte × Mt19937
  | 0 => ([], g)
  | count + 1 =>
      let (word, g) := g.next
      let (bytes, g) := g.fill count
      (word.toUInt8 :: bytes, g)

lemma length_fill (g : Mt19937) (count : ℕ) : (g.fill count).1.length = count := by
  induction count generalizing g with
  | zero => rfl
  | succ count ih => simp [fill, ih]

end Mt19937

namespace Client

open Process

/-- The texts a `Result` can carry. -/
inductive ClientError
  | socket (errno : ℤ)
  | connect (errno : ℤ)
  | send (errno : ℤ)
  | shutdown (errno : ℤ)
  | recv (errno : ℤ)
  | receivedMoreBytesThanSent
  | payloadMismatch
  | unexpectedEofMidResponse
  | responseMismatch
  | unexpectedDataAfterFinalResponse
  | drainRecv (errno : ℤ)
  deriving DecidableEq, Repr

/-- `Result`; no error is the empty text. -/
structure Result where
  success : Bool := false
  error : Option ClientError := none
  durationUs : ℤ := 0
  bytes : ℕ := 0
  latencySamplesUs : List ℤ := []
  deriving DecidableEq

/-- `duration_cast` of nanoseconds to microseconds. -/
def microseconds (duration : ℤ) : ℤ := duration.tdiv 1000

variable (io : BlockingSocket) (budget : ℕ)

/-! ## Sending -/

/-- One trip of the loop of `send_all`; it leaves with the error, if any. -/
def sendTrip (payload : List Byte) (offset : ℕ) :
    Process SocketCall (Next ℕ (Option ClientError)) :=
  if offset < payload.length then do
    let result ← io.doSend (payload.drop offset)
    match result with
    | .returned count =>
        if count > 0 then pure (.again (offset + count))
        else do
          let errno ← io.readErrno
          pure (.leave (some (.send errno)))
    | .failed errno =>
        if errno = EINTR then pure (.again offset) else pure (.leave (some (.send errno)))
  else pure (.leave none)

def sendAll (payload : List Byte) : Process SocketCall (Option ClientError) :=
  iterate (sendTrip io payload) budget 0

/-! ## Bulk -/

/-- One trip of the reader; it leaves with what it received and the error, if any. -/
def readerTrip (payloadBytes : ℕ) (received : List Byte) :
    Process SocketCall (Next (List Byte) (List Byte × Option ClientError)) := do
  let result ← io.doRecv 16384
  match result with
  | .returned bytes =>
      if bytes = [] then pure (.leave (received, none))
      else if (received ++ bytes).length > payloadBytes then
        pure (.leave (received ++ bytes, some .receivedMoreBytesThanSent))
      else pure (.again (received ++ bytes))
  | .failed errno =>
      if errno = EINTR then pure (.again received)
      else pure (.leave (received, some (.recv errno)))

def reader (payloadBytes : ℕ) : Process SocketCall (List Byte × Option ClientError) :=
  iterate (readerTrip io payloadBytes) budget []

/-- `reader.join()`, of a thread that has returned or not. -/
def join (thread : Option (List Byte × Option ClientError)) :
    Process SocketCall (List Byte × Option ClientError) :=
  match thread with
  | some result => pure result
  | none => failure

/-- The judgement of the main thread after the join. -/
def judge (start : ℤ) (payload : List Byte) (result : Result)
    (reading : List Byte × Option ClientError) : Process SocketCall Result :=
  match reading.2 with
  | some error => pure { result with error := some error }
  | none => do
      let now ← io.readClock
      let result := { result with durationUs := microseconds (now - start) }
      if reading.1 ≠ payload then pure { result with error := some .payloadMismatch }
      else pure { result with success := true }

/-- `run_connection` once the socket is connected; `thread` is the reader. -/
def exchange (start : ℤ) (payload : List Byte) (result : Result)
    (thread : Option (List Byte × Option ClientError)) : Process SocketCall Result := do
  let failed ← sendAll io budget payload
  match failed with
  | some error => do
      let _ ← io.doShutdown .readWrite
      let _ ← join thread
      pure { result with error := some error }
  | none => do
      let ended ← io.doShutdown .write
      match ended with
      | .failed errno => do
          let _ ← io.doShutdown .readWrite
          let _ ← join thread
          pure { result with error := some (.shutdown errno) }
      | .returned _ => do
          let reading ← join thread
          judge io start payload result reading

/-- The main thread of `run_connection`, with the payload made and the reader given. -/
def runConnection (payload : List Byte) (thread : Option (List Byte × Option ClientError)) :
    Process SocketCall Result := do
  let result : Result := { bytes := payload.length }
  let opened ← io.doSocket
  match opened with
  | .failed errno => pure { result with error := some (.socket errno) }
  | .returned _ => do
      let start ← io.readClock
      let connected ← io.doConnect
      match connected with
      | .failed errno => pure { result with error := some (.connect errno) }
      | .returned _ => exchange io budget start payload result thread

/-- The payload of a bulk connection. -/
def payloadOf (seed : UInt64) (payloadBytes : ℕ) : List Byte :=
  ((Mt19937.seed seed).fill payloadBytes).1

/-- A result reports the size that was asked for. -/
lemma length_payloadOf (seed : UInt64) (payloadBytes : ℕ) :
    (payloadOf seed payloadBytes).length = payloadBytes :=
  Mt19937.length_fill _ _

/-! ## Requests and responses -/

/-- One trip of the loop of `receive_exact`; it leaves with the response or the error. -/
def receiveTrip (expected : ℕ) (received : List Byte) :
    Process SocketCall (Next (List Byte) (Except ClientError (List Byte))) :=
  if received.length < expected then do
    let result ← io.doRecv (expected - received.length)
    match result with
    | .returned bytes =>
        if bytes = [] then pure (.leave (.error .unexpectedEofMidResponse))
        else pure (.again (received ++ bytes))
    | .failed errno =>
        if errno = EINTR then pure (.again received) else pure (.leave (.error (.recv errno)))
  else pure (.leave (.ok received))

def receiveExact (expected : ℕ) : Process SocketCall (Except ClientError (List Byte)) :=
  iterate (receiveTrip io expected) budget []

/-- The variables of the loop of `run_request_response`. -/
structure Exchanges where
  index : ℕ := 0
  generator : Mt19937
  samples : List ℤ := []

/-- One exchange; the loop is left with the samples and the error, if any. -/
def exchangeTrip (requests warmup requestBytes : ℕ) (s : Exchanges) :
    Process SocketCall (Next Exchanges (List ℤ × Option ClientError)) :=
  if s.index < warmup + requests then do
    let (request, generator) := s.generator.fill requestBytes
    let requestStart ← io.readClock
    let failed ← sendAll io budget request
    match failed with
    | some error => pure (.leave (s.samples, some error))
    | none => do
        let response ← receiveExact io budget requestBytes
        match response with
        | .error error => pure (.leave (s.samples, some error))
        | .ok response =>
            if response ≠ request then pure (.leave (s.samples, some .responseMismatch))
            else if s.index ≥ warmup then do
              let now ← io.readClock
              pure (.again { index := s.index + 1, generator
                             samples := s.samples ++ [microseconds (now - requestStart)] })
            else pure (.again { s with index := s.index + 1, generator })
  else pure (.leave (s.samples, none))

/-- One trip of the final drain. -/
def finalTrip (_ : Unit) : Process SocketCall (Next Unit (Option ClientError)) := do
  let result ← io.doRecv 4096
  match result with
  | .returned bytes =>
      if bytes = [] then pure (.leave none)
      else pure (.leave (some .unexpectedDataAfterFinalResponse))
  | .failed errno =>
      if errno = EINTR then pure (.again ()) else pure (.leave (some (.drainRecv errno)))

/-- `run_request_response` once the socket is connected. -/
def exchangeAll (start : ℤ) (requests warmup requestBytes : ℕ) (seed : UInt64) :
    Process SocketCall Result := do
  let (samples, failed) ← iterate (exchangeTrip io budget requests warmup requestBytes) budget
    { generator := Mt19937.seed seed }
  match failed with
  | some error => pure { error := some error, latencySamplesUs := samples }
  | none => do
      let _ ← io.doShutdown .write
      let failed ← iterate (finalTrip io) budget ()
      match failed with
      | some error => pure { error := some error, latencySamplesUs := samples }
      | none => do
          let now ← io.readClock
          pure { success := true, durationUs := microseconds (now - start)
                 bytes := (warmup + requests) * requestBytes, latencySamplesUs := samples }

def runRequestResponse (requests warmup requestBytes : ℕ) (seed : UInt64) :
    Process SocketCall Result := do
  let opened ← io.doSocket
  match opened with
  | .failed errno => pure { error := some (.socket errno) }
  | .returned _ => do
      let start ← io.readClock
      let connected ← io.doConnect
      match connected with
      | .failed errno => pure { error := some (.connect errno) }
      | .returned _ => exchangeAll io budget start requests warmup requestBytes seed

end Client

end NetFault
