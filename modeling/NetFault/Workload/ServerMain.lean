import Mathlib.Data.List.Perm.Basic
import NetFault.Workload.CommandLine
import NetFault.Workload.ServerGuarantees

/-!
# The accept loop of the server and its workers

`main` of the server accepts connections and starts a thread for each (`serve_client`), reaps the
threads that are done before it goes on, and when it has been told to stop asks all of them to stop
and waits for them.  The threads run at their own pace: a `Step` is a step of `main`, of one worker,
or the arrival of a signal, and a run is any interleaving of them.

`reap_finished` loads the flags of the slots one after the other while the workers go on.  It erases
at least those whose flag was set when it began and only such whose flag it has found set, and the
destructor of an erased thread waits for it to exit.

The result is an account of the workers in every state that can be reached
(`server_accounts_for_workers`): none is lost, none is served twice, and none is cut short as long
as the server runs.
-/

namespace NetFault

namespace Server

inductive WorkerPhase
  | serving
  /-- The flag of its slot is set. -/
  | done
  /-- The thread has closed its socket and exited. -/
  | exited
  deriving DecidableEq, Repr

/-- The thread of an accepted connection. -/
structure Worker where
  id : ℕ
  calls : Calls := []
  phase : WorkerPhase := .serving
  /-- The state of its stop token. -/
  stop : Bool := false
  deriving DecidableEq

/-- Where `main` is. -/
inductive MainPhase
  /-- At the condition of the loop. -/
  | testing
  /-- In `accept4`. -/
  | polling
  /-- In `reap_finished`, with the slots whose flag was set at its beginning. -/
  | reaping (incoming : Bool) (due : List ℕ)
  /-- After the loop: the workers are told to stop and waited for. -/
  | stopping
  /-- An exception was thrown; the destructor of the slots does the same. -/
  | unwinding
  | stopped
  | failed
  deriving DecidableEq

/-- The loop has not been left. -/
def MainPhase.running : MainPhase → Bool
  | .testing | .polling | .reaping _ _ => true
  | .stopping | .unwinding | .stopped | .failed => false

/-- The server process. -/
structure State where
  phase : MainPhase := .testing
  workers : List Worker := []
  /-- The variable `stop_requested` of the signal handler. -/
  stopRequested : Bool := false
  /-- The connections accepted so far; each has its number from here. -/
  accepted : ℕ := 0
  /-- The workers that were waited for; the source keeps nothing of them. -/
  joined : List Worker := []
  deriving DecidableEq

/-- The flag of the slot is set. -/
def Worker.isDone (w : Worker) : Bool := decide (w.phase ≠ .serving)

section Step

variable (io : ℕ → BlockingSocket) (config : ServerConfig)

/-- A step of one thread: the next call of `serve_client`, which finds the stop token as it is; its
return; and the exit of the thread. -/
inductive WorkerStep : Worker → Worker → Prop
  | call (w : Worker) (e : SocketCall) (budget : ℕ) (serving : w.phase = .serving)
      (next : w.calls ++ [e] <+: workerCalls (io w.id) config budget)
      (token : ∀ answer, e = .stopRequested answer → answer = w.stop) :
      WorkerStep w { w with calls := w.calls ++ [e] }
  | done (w : Worker) (budget : ℕ) (serving : w.phase = .serving)
      (returned : WorkerReturned (io w.id) config budget)
      (calls : w.calls = workerCalls (io w.id) config budget) :
      WorkerStep w { w with phase := .done }
  | exit (w : Worker) (done : w.phase = .done) : WorkerStep w { w with phase := .exited }

/-- A step of the process. -/
inductive Step : State → State → Prop
  | signal (s : State) : Step s { s with stopRequested := true }
  | enter (s : State) (phase : s.phase = .testing) (more : s.stopRequested = false) :
      Step s { s with phase := .polling }
  | leave (s : State) (phase : s.phase = .testing) (told : s.stopRequested = true) :
      Step s { s with phase := .stopping }
  /-- `accept4` returns: a connection, or an error to be tried again (`incoming` is false). -/
  | poll (s : State) (incoming : Bool) (phase : s.phase = .polling) :
      Step s { s with phase := .reaping incoming ((s.workers.filter Worker.isDone).map Worker.id) }
  | acceptFailed (s : State) (phase : s.phase = .polling) :
      Step s { s with phase := .unwinding }
  /-- `reap_finished` is through, and a thread is started for the connection. -/
  | reap (s : State) (incoming : Bool) (due : List ℕ) (erased : Worker → Bool)
      (phase : s.phase = .reaping incoming due)
      (all : ∀ w ∈ s.workers, w.id ∈ due → erased w = true)
      (exited : ∀ w ∈ s.workers, erased w = true → w.phase = .exited) :
      Step s
        { s with
          phase := .testing
          workers := s.workers.filter (fun w => !erased w) ++
            if incoming then [{ id := s.accepted }] else []
          accepted := if incoming then s.accepted + 1 else s.accepted
          joined := s.joined ++ s.workers.filter erased }
  | requestStop (s : State) (before after : List Worker) (w : Worker)
      (phase : s.phase = .stopping ∨ s.phase = .unwinding)
      (slot : s.workers = before ++ w :: after) :
      Step s { s with workers := before ++ { w with stop := true } :: after }
  | join (s : State) (before after : List Worker) (w : Worker)
      (phase : s.phase = .stopping ∨ s.phase = .unwinding) (slot : s.workers = before ++ w :: after)
      (told : w.stop = true) (exited : w.phase = .exited) :
      Step s { s with workers := before ++ after, joined := s.joined ++ [w] }
  | finish (s : State) (phase : s.phase = .stopping) (empty : s.workers = []) :
      Step s { s with phase := .stopped }
  | fail (s : State) (phase : s.phase = .unwinding) (empty : s.workers = []) :
      Step s { s with phase := .failed }
  | work (s : State) (before after : List Worker) (w w' : Worker)
      (slot : s.workers = before ++ w :: after) (step : WorkerStep io config w w') :
      Step s { s with workers := before ++ w' :: after }

/-- The states of a server that was started with the configuration. -/
inductive Reachable : State → Prop
  | start : Reachable {}
  | step (s s' : State) (before : Reachable s) (step : Step io config s s') : Reachable s'

end Step

/-! ## The account of the workers -/

section Accounts

variable {io : ℕ → BlockingSocket} {config : ServerConfig} {s s' : State} {w w' : Worker}

/-- The worker does what `serve_client` does, to its end when its flag is set, and has not found its
stop token set before it was. -/
structure Worker.Follows (io : ℕ → BlockingSocket) (config : ServerConfig) (w : Worker) : Prop where
  moment : ∃ budget, w.calls <+: workerCalls (io w.id) config budget
  returned : w.phase ≠ .serving → ∃ budget, WorkerReturned (io w.id) config budget ∧
    w.calls = workerCalls (io w.id) config budget
  token : w.stop = false → ¬w.calls.Stopped

lemma WorkerStep.id_eq (h : WorkerStep io config w w') : w'.id = w.id := by
  cases h <;> rfl

lemma WorkerStep.stop_eq (h : WorkerStep io config w w') : w'.stop = w.stop := by
  cases h <;> rfl

lemma WorkerStep.follows (h : WorkerStep io config w w') (hw : w.Follows io config) :
    w'.Follows io config := by
  cases h with
  | call e budget serving next token =>
      refine ⟨⟨budget, next⟩, fun hphase => absurd serving hphase, fun hstop => ?_⟩
      rw [Calls.stopped_snoc]
      rintro (hstopped | hstopped)
      · exact hw.token hstop hstopped
      · rcases e with _ | _ | _ | _ | _ | answer | _ | _ <;>
          simp only [SocketCall.isStop, Bool.false_eq_true] at hstopped
        rw [token answer rfl] at hstopped
        exact absurd hstopped (by simpa using hstop)
  | done budget serving returned calls =>
      exact ⟨hw.moment, fun _ => ⟨budget, returned, calls⟩, hw.token⟩
  | exit done => exact ⟨hw.moment, fun _ => hw.returned (by simp [done]), hw.token⟩

/-- Every accepted connection has one worker, in a slot or waited for. -/
structure State.Accounts (io : ℕ → BlockingSocket) (config : ServerConfig) (s : State) : Prop where
  ids : ((s.joined ++ s.workers).map Worker.id).Perm (List.range s.accepted)
  follows : ∀ w ∈ s.joined ++ s.workers, w.Follows io config
  exited : ∀ w ∈ s.joined, w.phase = .exited
  token : s.phase.running = true → ∀ w ∈ s.joined ++ s.workers, w.stop = false
  empty : s.phase = .stopped ∨ s.phase = .failed → s.workers = []

namespace State.Accounts

/-- The phase may change where no worker is concerned. -/
lemma ofPhase (h : s.Accounts io config) {phase : MainPhase} {flag : Bool}
    (hrunning : phase.running = true → s.phase.running = true)
    (hempty : phase = .stopped ∨ phase = .failed → s.workers = []) :
    State.Accounts io config { s with phase, stopRequested := flag } :=
  ⟨h.ids, h.follows, h.exited, fun hphase => h.token (hrunning hphase), hempty⟩

/-- One slot may change, if it stays that of its connection. -/
lemma ofSlot (h : s.Accounts io config) {before after : List Worker}
    (hslot : s.workers = before ++ w :: after) (hid : w'.id = w.id)
    (hfollows : w'.Follows io config) (hstop : s.phase.running = true → w'.stop = w.stop) :
    State.Accounts io config { s with workers := before ++ w' :: after } := by
  have hmem : w ∈ s.joined ++ s.workers := by simp [hslot]
  have hother : ∀ x ∈ s.joined ++ (before ++ w' :: after), x = w' ∨ x ∈ s.joined ++ s.workers := by
    intro x hx
    rw [hslot]
    simp only [List.mem_append, List.mem_cons] at hx ⊢
    tauto
  refine ⟨?_, fun x hx => ?_, h.exited, fun hphase x hx => ?_, fun hphase => ?_⟩
  · have hids := h.ids
    rw [hslot] at hids
    simpa [hid] using hids
  · rcases hother x hx with rfl | hold
    · exact hfollows
    · exact h.follows x hold
  · rcases hother x hx with rfl | hold
    · rw [hstop hphase]
      exact h.token hphase w hmem
    · exact h.token hphase x hold
  · have hnone := h.empty hphase
    rw [hslot] at hnone
    simp at hnone

/-- `reap_finished` moves slots to those waited for, and a new one is taken. -/
lemma reaped (h : s.Accounts io config) {incoming : Bool} {due : List ℕ} {erased : Worker → Bool}
    (hphase : s.phase = .reaping incoming due)
    (hexited : ∀ w ∈ s.workers, erased w = true → w.phase = .exited) :
    State.Accounts io config
      { s with
        phase := .testing
        workers := s.workers.filter (fun w => !erased w) ++
          if incoming then [{ id := s.accepted }] else []
        accepted := if incoming then s.accepted + 1 else s.accepted
        joined := s.joined ++ s.workers.filter erased } := by
  have hsplit : (s.joined ++ s.workers.filter erased ++
      s.workers.filter fun w => !erased w).Perm (s.joined ++ s.workers) := by
    rw [List.append_assoc]
    exact (List.filter_append_perm erased s.workers).append_left s.joined
  have hnew : ∀ w ∈ (if incoming then [({ id := s.accepted } : Worker)] else []),
      w = { id := s.accepted } := by
    cases incoming <;> simp
  have hmem : ∀ w ∈ s.joined ++ s.workers.filter erased ++ (s.workers.filter (fun w => !erased w) ++
      if incoming then [({ id := s.accepted } : Worker)] else []),
      w = { id := s.accepted } ∨ w ∈ s.joined ++ s.workers := by
    intro w hw
    rw [← List.append_assoc] at hw
    rcases List.mem_append.mp hw with hw | hw
    · exact .inr (hsplit.subset hw)
    · exact .inl (hnew w hw)
  refine ⟨?_, fun w hw => ?_, fun w hw => ?_, fun _ w hw => ?_, fun hphase => ?_⟩
  · show ((s.joined ++ s.workers.filter erased ++ (s.workers.filter (fun w => !erased w) ++
      if incoming then [({ id := s.accepted } : Worker)] else [])).map Worker.id).Perm _
    rw [← List.append_assoc, List.map_append]
    have hids := (hsplit.map Worker.id).trans h.ids
    cases incoming with
    | false => simpa using hids
    | true =>
        rw [if_pos rfl, if_pos rfl, List.range_succ]
        exact hids.append_right _
  · rcases hmem w hw with rfl | hold
    · exact ⟨⟨0, List.nil_prefix⟩, fun hphase => absurd rfl hphase, fun _ => by simp⟩
    · exact h.follows w hold
  · rcases List.mem_append.mp hw with hw | hw
    · exact h.exited w hw
    · obtain ⟨hslot, herased⟩ := List.mem_filter.mp hw
      exact hexited w hslot herased
  · rcases hmem w hw with rfl | hold
    · rfl
    · exact h.token (by rw [hphase]; rfl) w hold
  · simp at hphase

/-- A worker that was waited for leaves its slot. -/
lemma joins (h : s.Accounts io config) {before after : List Worker}
    (hphase : s.phase = .stopping ∨ s.phase = .unwinding)
    (hslot : s.workers = before ++ w :: after) (hexited : w.phase = .exited) :
    State.Accounts io config
      { s with workers := before ++ after, joined := s.joined ++ [w] } := by
  have hperm : (s.joined ++ [w] ++ (before ++ after)).Perm (s.joined ++ s.workers) := by
    rw [hslot, List.append_assoc, List.singleton_append]
    exact List.perm_middle.symm.append_left s.joined
  have hidle : s.phase.running = false ∧ ¬(s.phase = .stopped ∨ s.phase = .failed) := by
    rcases hphase with hphase | hphase <;> simp [hphase, MainPhase.running]
  refine ⟨(hperm.map Worker.id).trans h.ids, fun x hx => h.follows x (hperm.subset hx),
    fun x hx => ?_, fun hrunning => ?_, fun hended => absurd hended hidle.2⟩
  · rcases List.mem_append.mp hx with hx | hx
    · exact h.exited x hx
    · rw [List.mem_singleton.mp hx]
      exact hexited
  · rw [show s.phase.running = true from hrunning] at hidle
    cases hidle.1

/-- **Every step keeps the account.** -/
lemma step (h : s.Accounts io config) (hstep : Step io config s s') : s'.Accounts io config := by
  cases hstep with
  | signal => exact h.ofPhase (fun hphase => hphase) h.empty
  | enter phase more => exact h.ofPhase (fun _ => by rw [phase]; rfl) (by simp)
  | leave phase told => exact h.ofPhase (fun hphase => by cases hphase) (by simp)
  | poll incoming phase => exact h.ofPhase (fun _ => by rw [phase]; rfl) (by simp)
  | acceptFailed phase => exact h.ofPhase (fun hphase => by cases hphase) (by simp)
  | reap incoming due erased phase all exited => exact h.reaped phase exited
  | requestStop before after w phase slot =>
      have hw := h.follows w (by simp [slot])
      refine h.ofSlot slot rfl ⟨hw.moment, hw.returned, fun hstop => by cases hstop⟩
        fun hrunning => ?_
      rcases phase with phase | phase <;> simp [phase, MainPhase.running] at hrunning
  | join before after w phase slot told exited => exact h.joins phase slot exited
  | finish phase empty => exact h.ofPhase (fun hphase => by cases hphase) fun _ => empty
  | fail phase empty => exact h.ofPhase (fun hphase => by cases hphase) fun _ => empty
  | work before after w w' slot step =>
      exact h.ofSlot slot step.id_eq (step.follows (h.follows w (by simp [slot])))
        fun _ => step.stop_eq

end State.Accounts

/-- **Every state that can be reached** has its account. -/
lemma Reachable.accounts (h : Reachable io config s) : s.Accounts io config := by
  induction h with
  | start =>
      exact ⟨by simp, by simp, by simp, by simp, fun _ => rfl⟩
  | step s s' before step ih => exact ih.step step

end Accounts

/-- **The server accounts for its workers.**  Take any command line that the server accepts, any
behaviour of the sockets, and any interleaving of `main`, its workers and a signal.  The connections
accepted so far are those of the workers in the slots and of those waited for, each once.  Every
worker has made calls of `serve_client` only, one that was waited for all of them, up to its return.
As long as the loop runs no worker has found itself told to stop, so an echoing worker that was
waited for has sent everything back and shut down, or its connection is broken.  And when the server
has stopped, or failed, every worker was waited for. -/
theorem server_accounts_for_workers (argv : List String) (settings : ServerSettings)
    (hargv : serverMain argv = .run settings) (io : ℕ → BlockingSocket) (s : State)
    (hs : Reachable io settings.config s) :
    ((s.joined ++ s.workers).map Worker.id).Perm (List.range s.accepted) ∧
    (∀ w ∈ s.joined ++ s.workers, ∃ budget,
      w.calls <+: workerCalls (io w.id) settings.config budget) ∧
    (∀ w ∈ s.joined, ∃ budget, WorkerReturned (io w.id) settings.config budget ∧
      w.calls = workerCalls (io w.id) settings.config budget) ∧
    (s.phase.running = true → ∀ w ∈ s.joined ++ s.workers, ¬w.calls.Stopped) ∧
    (s.phase.running = true → Echoes settings.config → ∀ w ∈ s.joined,
      w.calls.ShutDown ∧ w.calls.Eof ∧ w.calls.sent = w.calls.received ∨ w.calls.Broken) ∧
    (s.phase = .stopped ∨ s.phase = .failed →
      s.workers = [] ∧ (s.joined.map Worker.id).Perm (List.range s.accepted)) := by
  have h := hs.accounts
  have hchunk : 0 < settings.config.chunkBytes := by
    obtain ⟨xs, -, -, rfl, hcheck⟩ := (launchChecked_parse "netfault-server" ServerSettings.check
      serverSettingsOf serverSettingsOf_update (argv.map cString)).1 settings |>.mp hargv
    exact (serverSettingsOf_fit hcheck).chunkBytes.1
  have hreturned : ∀ w ∈ s.joined, ∃ budget, WorkerReturned (io w.id) settings.config budget ∧
      w.calls = workerCalls (io w.id) settings.config budget := fun w hw =>
    (h.follows w (List.mem_append_left _ hw)).returned (by rw [h.exited w hw]; decide)
  have hstop : s.phase.running = true → ∀ w ∈ s.joined ++ s.workers, ¬w.calls.Stopped :=
    fun hrunning w hw => (h.follows w hw).token (h.token hrunning w hw)
  refine ⟨h.ids, fun w hw => (h.follows w hw).moment, hreturned, hstop, ?_, fun hended => ?_⟩
  · intro hrunning hmode w hw
    obtain ⟨budget, hwr, hcalls⟩ := hreturned w hw
    have hguard : History.Guarded (Allows (io w.id) settings.config echoDiscipline) w.calls := by
      rw [hcalls, ← hmode.discipline]
      exact guarded_workerCalls hchunk
    have hdone := hmode.done (done_of_returned hchunk hwr)
    rw [← hcalls] at hdone
    rcases hdone with hshut | hstopped | hbroken
    · exact .inl ⟨hshut, (echo_of_guarded hguard).2 hshut⟩
    · exact absurd hstopped (hstop hrunning w (List.mem_append_left _ hw))
    · exact .inr hbroken
  · have hnone := h.empty hended
    have hids := h.ids
    rw [hnone, List.append_nil] at hids
    exact ⟨hnone, hids⟩

/-- The worker of a peer that ends its stream at once. -/
def quickWorker : Worker where
  id := 0
  calls := [.stopRequested false, .recv 16384 (.returned []), .shutdown .write (.returned ())]
  phase := .exited

/-- A server with default settings has accepted a connection, served it and waited for its
worker. -/
lemma reachable_quickWorker : Reachable (fun _ => .script [] 100) {}
    { phase := .testing, accepted := 1, joined := [quickWorker] } := by
  have hcalls : workerCalls (.script [] 100) {} 1 = quickWorker.calls := by decide +kernel
  have hreturned : WorkerReturned (.script [] 100) {} 1 := by
    unfold WorkerReturned
    decide +kernel
  have hcall : ∀ {calls : Calls} {e : SocketCall}, calls ++ [e] <+: quickWorker.calls →
      (∀ answer, e = .stopRequested answer → answer = false) →
      WorkerStep (fun _ => .script [] 100) {} { id := 0, calls }
        { id := 0, calls := calls ++ [e] } :=
    fun hnext htoken => .call _ _ 1 rfl (hcalls ▸ hnext) htoken
  refine .step _ _ (.step _ _ (.step _ _ (.step _ _ (.step _ _ (.step _ _ (.step _ _ (.step _ _
    (.step _ _ (.step _ _ (.step _ _ .start
    -- the connection is accepted
    (.enter _ rfl rfl)) (.poll _ true rfl))
    (.reap _ true [] (fun _ => false) rfl (by simp) (by simp)))
    -- and served
    (.work _ [] [] { id := 0 } _ rfl (hcall (e := .stopRequested false) (by decide) (by simp))))
    (.work _ [] [] _ _ rfl (hcall (e := .recv 16384 (.returned [])) (by decide) (by simp))))
    (.work _ [] [] _ _ rfl (hcall (e := .shutdown .write (.returned ())) (by decide) (by simp))))
    (.work _ [] [] _ _ rfl (.done _ 1 rfl hreturned hcalls.symm)))
    (.work _ [] [] _ _ rfl (.exit _ rfl)))
    -- its slot is erased the next time around
    (.enter _ rfl rfl)) (.poll _ false rfl)) ?_
  exact .reap _ false [0] (fun _ => true) rfl (by simp) (by simp)

/-- One client has come and gone, and its worker was waited for. -/
theorem server_accounts_for_workers_one :
    ∃ s, Reachable (fun _ => .script [] 100) {} s ∧ s.accepted = 1 ∧
      (∀ w ∈ s.joined, w.calls.ShutDown ∧ w.calls.Eof ∧ w.calls.sent = w.calls.received ∨
        w.calls.Broken) ∧
      ((s.joined ++ s.workers).map Worker.id).Perm [0] := by
  have hargv : serverMain [] = .run {} := by decide +kernel
  obtain ⟨hids, -, -, -, hechoed, -⟩ := server_accounts_for_workers [] {} hargv
    (fun _ => .script [] 100) _ reachable_quickWorker
  exact ⟨_, reachable_quickWorker, rfl, hechoed rfl (by decide), hids⟩

end Server

end NetFault
