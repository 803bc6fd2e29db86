import NetFault.Workload.BlockingSocket

/-!
# The controlled server

`serve_client`, the worker of one accepted connection, in its five modes.  The loops of the source
are `Process.iterate` of their bodies (`…Trip`), all with the same budget of trips; a worker whose
budget is used up is still serving.
-/

namespace NetFault

inductive ServerMode
  | echo
  | slowReader
  | slowWriter
  | readUntilEof
  | sendThenHalfClose
  deriving DecidableEq, Repr

structure ServerConfig where
  mode : ServerMode := .echo
  /-- Milliseconds. -/
  delay : ℤ := 0
  chunkBytes : ℕ := 16384
  sendBytes : ℕ := 65536
  deriving DecidableEq, Repr

namespace Server

open Process

variable (io : BlockingSocket) (config : ServerConfig) (budget : ℕ)

/-- One trip of the loop of `interruptible_delay`; the quantum is ten milliseconds. -/
def delayTrip (remaining : ℤ) : Process SocketCall (Next ℤ Unit) :=
  if remaining > 0 then do
    let stopped ← io.isStopRequested
    if stopped then pure (.leave ())
    else do
      BlockingSocket.sleep (min remaining 10)
      pure (.again (remaining - min remaining 10))
  else pure (.leave ())

def interruptibleDelay (delay : ℤ) : Process SocketCall Bool := do
  iterate (delayTrip io) budget delay
  let stopped ← io.isStopRequested
  pure !stopped

/-- The delay that a mode puts before its operations, and none before those of the others. -/
def delayIn (mode : ServerMode) : Process SocketCall Bool :=
  if config.mode = mode then interruptibleDelay io budget config.delay else pure true

/-- One trip of the loop of `send_all`. -/
def sendTrip (data : List Byte) (offset : ℕ) : Process SocketCall (Next ℕ Bool) :=
  if offset < data.length then do
    let stopped ← io.isStopRequested
    if stopped then pure (.leave (offset == data.length))
    else do
      let proceed ← delayIn io config budget .slowWriter
      if proceed then do
        let result ← io.doSend
          ((data.drop offset).take (min (data.length - offset) config.chunkBytes))
        match result with
        | .returned count =>
            if count > 0 then pure (.again (offset + count)) else pure (.leave false)
        | .failed errno =>
            if errno = EINTR then pure (.again offset) else pure (.leave false)
      else pure (.leave false)
  else pure (.leave (offset == data.length))

def sendAll (data : List Byte) : Process SocketCall Bool :=
  iterate (sendTrip io config budget data) budget 0

/-- One trip of the loop of `drain_until_eof`. -/
def drainTrip (_ : Unit) : Process SocketCall (Next Unit Unit) := do
  let stopped ← io.isStopRequested
  if stopped then pure (.leave ())
  else do
    let result ← io.doRecv config.chunkBytes
    match result with
    | .returned bytes => if bytes = [] then pure (.leave ()) else pure (.again ())
    | .failed errno =>
        if errno ≠ EINTR ∧ errno ≠ EAGAIN then pure (.leave ()) else pure (.again ())

def drainUntilEof : Process SocketCall Unit := iterate (drainTrip io config) budget ()

/-- The buffer as `send_then_half_close` fills it: `index & 0xFF` at each index. -/
def patternBuffer : List Byte := (List.range config.chunkBytes).map UInt8.ofNat

/-- One trip of the loop of `send_then_half_close`; it leaves with whether to go on after the
loop. -/
def patternTrip (remaining : ℕ) : Process SocketCall (Next ℕ Bool) :=
  if remaining > 0 then do
    let stopped ← io.isStopRequested
    if stopped then pure (.leave true)
    else do
      let requestBytes := min remaining (patternBuffer config).length
      let sent ← sendAll io config budget ((patternBuffer config).take requestBytes)
      if sent then pure (.again (remaining - requestBytes)) else pure (.leave false)
  else pure (.leave true)

def sendThenHalfClose : Process SocketCall Unit := do
  let finished ← iterate (patternTrip io config budget) budget config.sendBytes
  if finished then do
    let _ ← io.doShutdown .write
    drainUntilEof io config budget
  else pure ()

/-- One trip of the loop of the three echoing modes in `serve_client`. -/
def echoTrip (_ : Unit) : Process SocketCall (Next Unit Unit) := do
  let stopped ← io.isStopRequested
  if stopped then pure (.leave ())
  else do
    let proceed ← delayIn io config budget .slowReader
    if proceed then do
      let result ← io.doRecv config.chunkBytes
      match result with
      | .returned bytes =>
          if bytes = [] then do
            let _ ← io.doShutdown .write
            pure (.leave ())
          else do
            let sent ← sendAll io config budget bytes
            if sent then pure (.again ()) else pure (.leave ())
      | .failed errno =>
          if errno = EINTR then pure (.again ())
          else if errno = EAGAIN then pure (.again ())
          else pure (.leave ())
    else pure (.leave ())

/-- `serve_client`.  The receive and send timeouts it sets are among the answers of the socket;
the socket is closed when it returns. -/
def serveClient : Process SocketCall Unit :=
  match config.mode with
  | .readUntilEof => do
      drainUntilEof io config budget
      let _ ← io.doShutdown .write
      pure ()
  | .sendThenHalfClose => sendThenHalfClose io config budget
  | .echo | .slowReader | .slowWriter => iterate (echoTrip io config budget) budget ()

end Server

end NetFault
