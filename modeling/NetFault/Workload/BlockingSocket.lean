import NetFault.Basic
import NetFault.Lib.History
import NetFault.Lib.Process

/-!
# Blocking sockets

The controlled server and the client of the lab use blocking sockets with a receive and a send
timeout, one thread to a direction at most.  What such a thread does is a `Process SocketCall`: its
calls, and the answers of `BlockingSocket`, which may depend on everything the thread has seen.
One value of `BlockingSocket` is one behaviour of the peer, the network and the other threads, so
the stop token and the clock are part of it.

`recv` and `send` return a count or set `errno`; the two contracts of `BlockingSocket` are the ones
POSIX gives: neither transfers more than it was offered.
-/

namespace NetFault

/-- What a system call returned: a value, or -1 and `errno`. -/
inductive SyscallResult (α : Type)
  | returned (value : α)
  | failed (errno : ℤ)
  deriving DecidableEq, Repr

def EINTR : ℤ := 4

/-- On Linux `EWOULDBLOCK` is the same number. -/
def EAGAIN : ℤ := 11

inductive ShutdownHow
  /-- `SHUT_WR` -/
  | write
  /-- `SHUT_RDWR` -/
  | readWrite
  deriving DecidableEq, Repr

/-- The calls of a thread of the server or of the client. -/
inductive SocketCall
  | recv (span : ℕ) (result : SyscallResult (List Byte))
  | send (data : List Byte) (result : SyscallResult ℕ)
  | shutdown (how : ShutdownHow) (result : SyscallResult Unit)
  /-- `socket` and `connect`, the way a client comes by its socket. -/
  | socket (result : SyscallResult Unit)
  | connect (result : SyscallResult Unit)
  /-- `stop_token.stop_requested()` -/
  | stopRequested (answer : Bool)
  /-- `sleep_for`, in milliseconds. -/
  | sleepFor (duration : ℤ)
  /-- A reading of the steady clock, in nanoseconds. -/
  | steadyNow (now : ℤ)
  deriving DecidableEq, Repr

/-- What a thread has called, and with what result, oldest first. -/
abbrev Calls := List SocketCall

/-- The surroundings of a thread. -/
structure BlockingSocket where
  recv : Calls → ℕ → SyscallResult (List Byte)
  send : Calls → List Byte → SyscallResult ℕ
  shutdown : Calls → ShutdownHow → SyscallResult Unit := fun _ _ => .returned ()
  socket : Calls → SyscallResult Unit := fun _ => .returned ()
  connect : Calls → SyscallResult Unit := fun _ => .returned ()
  /-- `errno` as a call that transferred nothing leaves it. -/
  errno : Calls → ℤ := fun _ => 0
  stopRequested : Calls → Bool := fun _ => false
  steadyNow : Calls → ℤ := fun _ => 0
  recv_returned : ∀ history span bytes,
    recv history span = .returned bytes → bytes.length ≤ span
  send_returned : ∀ history data count,
    send history data = .returned count → count ≤ data.length

namespace BlockingSocket

variable (io : BlockingSocket)

/-- `recv` into a buffer of `span` bytes. -/
def doRecv (span : ℕ) : Process SocketCall (SyscallResult (List Byte)) :=
  Process.call (fun history => io.recv history span) (.recv span)

def doSend (data : List Byte) : Process SocketCall (SyscallResult ℕ) :=
  Process.call (fun history => io.send history data) (.send data)

def doShutdown (how : ShutdownHow) : Process SocketCall (SyscallResult Unit) :=
  Process.call (fun history => io.shutdown history how) (.shutdown how)

def isStopRequested : Process SocketCall Bool :=
  Process.call io.stopRequested .stopRequested

def sleep (duration : ℤ) : Process SocketCall Unit :=
  Process.call (fun _ => ()) fun _ => .sleepFor duration

def readClock : Process SocketCall ℤ := Process.call io.steadyNow .steadyNow

def doSocket : Process SocketCall (SyscallResult Unit) := Process.call io.socket .socket

def doConnect : Process SocketCall (SyscallResult Unit) := Process.call io.connect .connect

/-- `errno`, which is no call. -/
def readErrno : Process SocketCall ℤ := do
  let history ← get
  pure (io.errno history)

end BlockingSocket

/-! ## What a history says -/

/-- How many bytes a `send` with this result has taken. -/
def taken : SyscallResult ℕ → ℕ
  | .returned count => count
  | .failed _ => 0

namespace SocketCall

/-- What one call delivered. -/
def received : SocketCall → List Byte
  | .recv _ (.returned bytes) => bytes
  | _ => []

/-- What one call got accepted. -/
def sent : SocketCall → List Byte
  | .send data (.returned count) => data.take count
  | _ => []

/-- A receive with room for bytes that returned none: the end of the peer's stream. -/
def isEof : SocketCall → Bool
  | .recv span (.returned bytes) => decide (0 < span) && bytes.isEmpty
  | _ => false

/-- A `shutdown` that ends the own stream. -/
def isShutdown : SocketCall → Bool
  | .shutdown _ _ => true
  | _ => false

/-- The stop token was found set. -/
def isStop : SocketCall → Bool
  | .stopRequested answer => answer
  | _ => false

end SocketCall

namespace Calls

/-- The bytes delivered by `recv`, in order. -/
def received (h : Calls) : List Byte := h.flatMap SocketCall.received

/-- The bytes accepted by `send`, in order. -/
def sent (h : Calls) : List Byte := h.flatMap SocketCall.sent

/-- The end of the peer's stream was observed. -/
def Eof (h : Calls) : Prop := ∃ e ∈ h, e.isEof = true

/-- The own stream was ended. -/
def ShutDown (h : Calls) : Prop := ∃ e ∈ h, e.isShutdown = true

/-- The thread has been told to stop. -/
def Stopped (h : Calls) : Prop := ∃ e ∈ h, e.isStop = true

instance (h : Calls) : Decidable h.Eof := inferInstanceAs (Decidable (∃ e ∈ h, _))

instance (h : Calls) : Decidable h.ShutDown := inferInstanceAs (Decidable (∃ e ∈ h, _))

instance (h : Calls) : Decidable h.Stopped := inferInstanceAs (Decidable (∃ e ∈ h, _))

@[simp] lemma received_nil : received [] = [] := rfl

@[simp] lemma sent_nil : sent [] = [] := rfl

@[simp] lemma received_snoc (h : Calls) (e : SocketCall) :
    received (h ++ [e]) = received h ++ e.received := by
  simp [received]

@[simp] lemma sent_snoc (h : Calls) (e : SocketCall) : sent (h ++ [e]) = sent h ++ e.sent := by
  simp [sent]

@[simp] lemma eof_snoc {h : Calls} {e : SocketCall} : Eof (h ++ [e]) ↔ Eof h ∨ e.isEof = true := by
  simp [Eof, or_and_right, exists_or]

@[simp] lemma shutDown_snoc {h : Calls} {e : SocketCall} :
    ShutDown (h ++ [e]) ↔ ShutDown h ∨ e.isShutdown = true := by
  simp [ShutDown, or_and_right, exists_or]

@[simp] lemma stopped_snoc {h : Calls} {e : SocketCall} :
    Stopped (h ++ [e]) ↔ Stopped h ∨ e.isStop = true := by
  simp [Stopped, or_and_right, exists_or]

@[simp] lemma not_eof_nil : ¬ Eof [] := by simp [Eof]

@[simp] lemma not_shutDown_nil : ¬ ShutDown [] := by simp [ShutDown]

@[simp] lemma not_stopped_nil : ¬ Stopped [] := by simp [Stopped]

end Calls

/-- A peer that sends `inbound` and ends its stream, behind a socket that takes at most two bytes
at a time; the stop token is set after `stopAfter` calls. -/
def BlockingSocket.script (inbound : List Byte) (stopAfter : ℕ) : BlockingSocket where
  recv history span := .returned ((inbound.drop (Calls.received history).length).take span)
  send _ data := .returned (min data.length 2)
  stopRequested history := decide (stopAfter ≤ history.length)
  recv_returned history span bytes h := by
    obtain rfl : _ = bytes := by simpa using h
    exact List.length_take_le _ _
  send_returned _ data count h := by
    obtain rfl : min data.length 2 = count := by simpa using h
    exact Nat.min_le_left _ _

end NetFault
