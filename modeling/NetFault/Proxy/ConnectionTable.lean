import NetFault.Proxy.Runs

/-!
# The table of connections

Ids and tokens are counted up together, so the tokens of a connection are a function of its id.
Connections are made in one place and closed in many; every close goes through `remove`, which
takes out the connection and both of its bindings and counts one close.  `Runtime.SameTable` says
what everything else leaves alone, `Act.table` that an act is an accept, such a step, or such a
step followed by a close.
-/

namespace NetFault

/-- The token given to a socket of the connection `id`. -/
def connectionToken (id : ℕ) : Side → ℕ
  | .client => 2 * id + 2
  | .upstream => 2 * id + 3

lemma connectionToken_inj {id id' : ℕ} {side side' : Side}
    (h : connectionToken id side = connectionToken id' side') : id = id' ∧ side = side' := by
  cases side <;> cases side' <;> simp only [connectionToken] at h
  · exact ⟨by omega, rfl⟩
  · omega
  · omega
  · exact ⟨by omega, rfl⟩

lemma connectionToken_not_reserved {id : ℕ} (hid : 0 < id) (side : Side) :
    connectionToken id side ∉ [kListenerToken, kSignalToken, kTimerToken] := by
  cases side <;>
    simp only [connectionToken, kListenerToken, kSignalToken, kTimerToken, List.mem_cons,
      List.not_mem_nil, or_false] <;>
    omega

/-! ## What leaves the table alone -/

/-- `p'` has the connections of `p`, with their tokens, and every timer is an old one or that of a
live connection. -/
structure Runtime.SameTable (p p' : Runtime) : Prop where
  rest : p' = { p with
    timerQueue := p'.timerQueue
    lastArmedDeadline := p'.lastArmedDeadline
    timerFd := p'.timerFd
    connections := p'.connections }
  keys : p'.connections.keys.Perm p.connections.keys
  token : ∀ id c', p'.Live id c' → ∃ c, p.Live id c ∧ c'.token = c.token
  timers : ∀ e ∈ p'.timerQueue.heap, e ∈ p.timerQueue.heap ∨ ∃ c, p.Live e.connectionId c

section SameTable

variable {io : SocketIo} {now : ℤ} {p p' p'' mid : Runtime} {id : ℕ} {c c' : Connection}
  {event : TimerEvent}

namespace Runtime.SameTable

lemma refl (p : Runtime) : p.SameTable p :=
  ⟨rfl, .refl _, fun _ c hlive => ⟨c, hlive, rfl⟩, fun _ he => .inl he⟩

lemma trans (h : p.SameTable p') (h' : p'.SameTable p'') : p.SameTable p'' := by
  refine ⟨?_, h'.keys.trans h.keys, fun id c'' hlive => ?_, fun e he => ?_⟩
  · rw [h'.rest, h.rest]
  · obtain ⟨c', hlive', htoken'⟩ := h'.token id c'' hlive
    obtain ⟨c, hlive, htoken⟩ := h.token id c' hlive'
    exact ⟨c, hlive, htoken'.trans htoken⟩
  · rcases h'.timers e he with he | ⟨c', hlive⟩
    · exact h.timers e he
    · obtain ⟨c, hlive, -⟩ := h.token _ c' hlive
      exact .inr ⟨c, hlive⟩

/-- Only timers change. -/
lemma of_timers {timerQueue : TimerQueue} (h : ∀ e ∈ timerQueue.heap,
    e ∈ p.timerQueue.heap ∨ ∃ c, p.Live e.connectionId c) :
    p.SameTable { p with timerQueue } :=
  ⟨rfl, .refl _, fun _ c hlive => ⟨c, hlive, rfl⟩, h⟩

lemma schedule (hlive : p.Live id c) (deadline : ℤ) (kind : TimerKind) :
    p.SameTable { p with timerQueue := p.timerQueue.schedule deadline id kind } := by
  refine .of_timers fun e he => ?_
  obtain rfl | he := TimerQueue.mem_schedule.mp he
  · exact .inr ⟨c, hlive⟩
  · exact .inl he

/-- A live connection is changed. -/
lemma setConnection (hlive : p.Live id c) (htoken : c'.token = c.token) :
    p.SameTable (p.setConnection id c') := by
  refine ⟨rfl, ?_, fun id' d hlive' => ?_, fun _ he => .inl he⟩
  · rw [Runtime.setConnection, AList.keys_insert]
    exact (List.perm_cons_erase (Runtime.mem_keys_iff.mpr ⟨c, hlive⟩)).symm
  · obtain ⟨rfl, rfl⟩ | ⟨-, hold⟩ := Runtime.live_setConnection.mp hlive'
    · exact ⟨c, hlive, htoken⟩
    · exact ⟨d, hold, rfl⟩

end Runtime.SameTable

lemma Popped.sameTable (h : Popped now event p mid) : p.SameTable mid := by
  obtain ⟨hheap, -⟩ := TimerQueue.popDue_eq_some h.popped
  rw [h.rest]
  refine .of_timers fun e he => .inl ?_
  rw [hheap]
  exact List.mem_cons_of_mem _ he

@[simp] lemma Connection.resetDueWake_token (now : ℤ) (c : Connection) :
    (c.resetDueWake now).token = c.token := by
  rw [Connection.resetDueWake]
  split
  · split_ifs <;> rfl
  · rfl

/-- `p'` is `p`, but for changes that leave the table alone, or that and one close. -/
def Runtime.KeepsOrCloses (p p' : Runtime) : Prop :=
  p.SameTable p' ∨ ∃ mid id c finalState reason now, p.SameTable mid ∧ mid.Live id c ∧
    p' = mid.remove id c finalState reason now

lemma Runtime.SameTable.keepsOrCloses (h : p.SameTable mid) (h' : mid.KeepsOrCloses p') :
    p.KeepsOrCloses p' := by
  obtain hsame | ⟨mid', id, c, finalState, reason, now, hsame, hlive, rfl⟩ := h'
  · exact .inl (h.trans hsame)
  · exact .inr ⟨mid', id, c, finalState, reason, now, h.trans hsame, hlive, rfl⟩

/-- A live connection is closed after its session went on. -/
lemma Runtime.keepsOrCloses_remove (hlive : p.Live id c) (c' : Connection)
    (htoken : c'.token = c.token) (finalState : ConnectionState) (reason : CloseReason)
    (now : ℤ) :
    p.KeepsOrCloses (p.remove id c' finalState reason now) := by
  rw [← Runtime.remove_setConnection (c := c')]
  exact .inr ⟨_, id, c', finalState, reason, now, .setConnection hlive htoken,
    Runtime.live_setConnection_self, rfl⟩

lemma Runtime.closeConnection_keepsOrCloses (id : ℕ) (finalState : ConnectionState)
    (reason : CloseReason) (now : ℤ) :
    p.KeepsOrCloses (p.closeConnection id finalState reason now) := by
  unfold Runtime.closeConnection
  cases hlive : p.connections.lookup id with
  | none => exact .inl (.refl p)
  | some c => exact Runtime.keepsOrCloses_remove hlive c rfl finalState reason now

lemma Work.keepsOrCloses (h : Work io now id c' p p') (hlive : p.Live id c)
    (htoken : c'.token = c.token) : p.KeepsOrCloses p' := by
  cases h with
  | closed session finalState reason advances abrupt =>
      exact Runtime.keepsOrCloses_remove hlive { c' with session } htoken finalState reason now
  | drained session advances drained =>
      exact Runtime.keepsOrCloses_remove hlive
        { c' with session := session.propagateHalfCloses io } htoken .fullyClosed
        .orderlyShutdown now
  | settled session advances undrained propagated =>
      obtain ⟨w, q, heq, hwake⟩ :=
        scheduleWake_spec p id (({ c' with session } : Connection).refresh now)
      have htoken' : ((({ c' with session } : Connection).refresh now)).token = c.token :=
        (refreshed_refresh now { c' with session }).token.trans htoken
      have htimers : p.SameTable { p with timerQueue := q } := by
        obtain ⟨-, rfl, -⟩ | ⟨wake, -, -, -, rfl⟩ := hwake
        · exact .refl p
        · exact .schedule hlive wake .pump
      rw [heq]
      exact .inl (htimers.trans (.setConnection (p := { p with timerQueue := q }) hlive htoken'))

end SameTable

/-- **What an act does to the table**: it is an accept, or leaves the table alone, or does that and
then closes one connection. -/
lemma Act.table {io : ℕ → SocketIo} {now : ℤ} {p p' : Runtime} (h : Act io now p p') :
    (∃ connecting c, (c.token .client = p.nextToken ∧ c.token .upstream = p.nextToken + 1) ∧
        p.connections.keys.length < p.config.maxConnections ∧
        p' = p.accepted connecting now c) ∨
      p.KeepsOrCloses p' := by
  cases h with
  | accept connecting c newborn token room => exact .inl ⟨connecting, c, token, room, rfl⟩
  | serve id c _ live work => exact .inr (work.keepsOrCloses live rfl)
  | fire => exact .inr (.inl ⟨rfl, .refl _, fun _ c hlive => ⟨c, hlive, rfl⟩, fun _ he => .inl he⟩)
  | skip event _ popped idle => exact .inr (.inl popped.sameTable)
  | wake event c mid _ popped live kind work =>
      exact .inr (popped.sameTable.keepsOrCloses
        (work.keepsOrCloses (popped.live.mpr live) (c.resetDueWake_token now)))
  | timeOut event c mid reason popped live due =>
      exact .inr (popped.sameTable.keepsOrCloses
        (Runtime.keepsOrCloses_remove (popped.live.mpr live) c rfl .timedOut reason now))
  | postpone event c mid popped live kind active =>
      exact .inr (.inl (popped.sameTable.trans (.schedule (popped.live.mpr live) _ _)))

/-! ## Consistency -/

/-- The connections closed with a final state that passes a test. -/
def Runtime.closedWith (test : ConnectionState → Bool) (p : Runtime) : ℕ :=
  p.closed.countP fun entry => test entry.finalState

/-- The final states that have a counter of their own. -/
def ConnectionState.isAbrupt (state : ConnectionState) : Bool :=
  decide (state = .reset) || decide (state = .failed) || decide (state = .timedOut)

/-- The counters, the bindings and the connections agree with what was accepted and closed. -/
structure Runtime.Consistent (p : Runtime) : Prop where
  nextToken : p.nextToken = connectionToken p.nextConnectionId .client
  nextId : 0 < p.nextConnectionId
  token : ∀ id c, p.Live id c → ∀ side, c.token side = connectionToken id side
  bindings : ∀ token binding, p.bindings.lookup token = some binding ↔
    (∃ c, p.Live binding.connectionId c) ∧
      token = connectionToken binding.connectionId binding.side
  /-- Every id given out was given out once, and is that of one live or one closed connection. -/
  ids : (p.closed.map ClosedConnection.connectionId ++ p.connections.keys).Perm
    (List.range' 1 (p.nextConnectionId - 1))
  timers : ∀ e ∈ p.timerQueue.heap, e.connectionId ∈ List.range' 1 (p.nextConnectionId - 1)
  size : p.connections.keys.length ≤ p.config.maxConnections
  reset : p.closesReset = UInt64.ofNat (p.closedWith (· = .reset))
  failed : p.closesFailed = UInt64.ofNat (p.closedWith (· = .failed))
  timedOut : p.closesTimedOut = UInt64.ofNat (p.closedWith (· = .timedOut))
  fullyClosed : p.closesFullyClosed = UInt64.ofNat (p.closedWith fun state => !state.isAbrupt)

section Consistent

variable {p p' mid : Runtime} {id : ℕ} {c : Connection} {connecting : Bool} {now : ℤ}
  {finalState : ConnectionState} {reason : CloseReason}

namespace Runtime.Consistent

/-- No entry has the id of a connection that was not accepted yet. -/
lemma no_entry (h : p.Consistent) :
    ∀ e ∈ p.timerQueue.heap, e.connectionId ≠ p.nextConnectionId := by
  intro e he hid
  have hold := h.timers e he
  rw [hid, List.mem_range'_1] at hold
  omega

lemma sameTable (h : p.Consistent) (hsame : p.SameTable p') : p'.Consistent := by
  have hrest := hsame.rest
  have hlive : ∀ id, (∃ c, p'.Live id c) ↔ ∃ c, p.Live id c := by
    intro id
    rw [← Runtime.mem_keys_iff, ← Runtime.mem_keys_iff, hsame.keys.mem_iff]
  have hid : p'.nextConnectionId = p.nextConnectionId := by rw [hrest]
  have hclosed : p'.closed = p.closed := by rw [hrest]
  constructor
  · rw [hid, ← h.nextToken, hrest]
  · rw [hid]
    exact h.nextId
  · intro id c' hlive' side
    obtain ⟨c, hold, htoken⟩ := hsame.token id c' hlive'
    rw [htoken, h.token id c hold]
  · intro token binding
    rw [hlive, ← h.bindings, hrest]
  · rw [hid, hclosed]
    exact (hsame.keys.append_left _).trans h.ids
  · intro e he
    rw [hid]
    rcases hsame.timers e he with he | hlive
    · exact h.timers e he
    · exact h.ids.subset (List.mem_append_right _ (Runtime.mem_keys_iff.mpr hlive))
  · rw [hsame.keys.length_eq]
    refine h.size.trans_eq ?_
    rw [hrest]
  all_goals
    simp only [Runtime.closedWith, hclosed]
  · rw [show p'.closesReset = p.closesReset by rw [hrest]]
    exact h.reset
  · rw [show p'.closesFailed = p.closesFailed by rw [hrest]]
    exact h.failed
  · rw [show p'.closesTimedOut = p.closesTimedOut by rw [hrest]]
    exact h.timedOut
  · rw [show p'.closesFullyClosed = p.closesFullyClosed by rw [hrest]]
    exact h.fullyClosed

lemma fresh (h : p.Consistent) : p.nextConnectionId ∉ p.connections.keys := by
  intro hmem
  have hold := h.ids.subset (List.mem_append_right _ hmem)
  rw [List.mem_range'_1] at hold
  omega

lemma nextToken_succ (h : p.Consistent) :
    p.nextToken + 1 = connectionToken p.nextConnectionId .upstream := by
  rw [h.nextToken]
  rfl

lemma accepted_bindings (h : p.Consistent) (c : Connection) (connecting : Bool) (now : ℤ)
    (token : ℕ) (binding : SocketBinding) :
    (p.accepted connecting now c).bindings.lookup token = some binding ↔
      (∃ c', (p.accepted connecting now c).Live binding.connectionId c') ∧
        token = connectionToken binding.connectionId binding.side := by
  have hnew : ∀ side, (∃ c', (p.accepted connecting now c).Live p.nextConnectionId c') ∧
      connectionToken p.nextConnectionId side = connectionToken p.nextConnectionId side :=
    fun _ => ⟨⟨c, Runtime.live_accepted.mpr (.inl ⟨rfl, rfl⟩)⟩, rfl⟩
  by_cases hup : token = p.nextToken + 1
  · rw [hup, Runtime.accepted, AList.lookup_insert, h.nextToken_succ]
    constructor
    · rintro ⟨⟩
      exact hnew .upstream
    · rintro ⟨-, htoken⟩
      obtain ⟨hid, hside⟩ := connectionToken_inj htoken
      rw [hid, hside]
  rw [Runtime.accepted, AList.lookup_insert_ne hup]
  by_cases hcl : token = p.nextToken
  · rw [hcl, AList.lookup_insert, h.nextToken]
    constructor
    · rintro ⟨⟩
      exact hnew .client
    · rintro ⟨-, htoken⟩
      obtain ⟨hid, hside⟩ := connectionToken_inj htoken
      rw [hid, hside]
  rw [AList.lookup_insert_ne hcl, h.bindings]
  refine and_congr_left fun htoken => ?_
  have hother : binding.connectionId ≠ p.nextConnectionId := by
    intro hid
    rw [hid] at htoken
    cases hside : binding.side with
    | client => exact hcl (by rw [htoken, hside, h.nextToken])
    | upstream => exact hup (by rw [htoken, hside, h.nextToken_succ])
  refine exists_congr fun c' => ?_
  constructor
  · intro hold
    exact Runtime.live_accepted.mpr (.inr ⟨hother, hold⟩)
  · intro hlive
    obtain ⟨hid, -⟩ | ⟨-, hold⟩ := Runtime.live_accepted.mp hlive
    · exact absurd hid hother
    · exact hold

/-- An accept gives out the next id and its two tokens. -/
lemma accepted (h : p.Consistent)
    (htoken : c.token .client = p.nextToken ∧ c.token .upstream = p.nextToken + 1)
    (hroom : p.connections.keys.length < p.config.maxConnections) (connecting : Bool) (now : ℤ) :
    (p.accepted connecting now c).Consistent := by
  have hfresh := h.fresh
  have hnext := h.nextId
  have hids : List.range' 1 (p.nextConnectionId + 1 - 1) =
      List.range' 1 (p.nextConnectionId - 1) ++ [p.nextConnectionId] := by
    obtain ⟨n, hn⟩ : ∃ n, p.nextConnectionId = n + 1 := ⟨p.nextConnectionId - 1, by omega⟩
    rw [hn, Nat.add_sub_cancel, Nat.add_sub_cancel, List.range'_1_concat, Nat.add_comm]
  have hclient := h.nextToken
  have hupstream := h.nextToken_succ
  have hkeys : (p.accepted connecting now c).connections.keys =
      p.nextConnectionId :: p.connections.keys := by
    rw [Runtime.accepted, AList.keys_insert, List.erase_of_not_mem hfresh]
  constructor
  · show p.nextToken + 2 = connectionToken (p.nextConnectionId + 1) .client
    rw [hclient, connectionToken, connectionToken]
    omega
  · exact Nat.succ_pos _
  · intro id' c' hlive side
    obtain ⟨rfl, rfl⟩ | ⟨-, hold⟩ := Runtime.live_accepted.mp hlive
    · cases side with
      | client => rw [htoken.1, hclient]
      | upstream => rw [htoken.2, hupstream]
    · exact h.token id' c' hold side
  · exact h.accepted_bindings c connecting now
  · show List.Perm _ (List.range' 1 (p.nextConnectionId + 1 - 1))
    rw [hkeys, hids]
    exact List.perm_middle.trans
      ((List.Perm.cons _ h.ids).trans (List.perm_append_singleton _ _).symm)
  · intro e he
    show e.connectionId ∈ List.range' 1 (p.nextConnectionId + 1 - 1)
    rw [hids]
    rcases of_mem_scheduleTimeouts he with he | ⟨hid, -⟩
    · exact List.mem_append_left _ (h.timers e he)
    · exact List.mem_append_right _ (List.mem_singleton.mpr hid)
  · rw [hkeys]
    exact hroom
  · exact h.reset
  · exact h.failed
  · exact h.timedOut
  · exact h.fullyClosed

end Runtime.Consistent

namespace Runtime

@[simp] lemma remove_nextConnectionId :
    (p.remove id c finalState reason now).nextConnectionId = p.nextConnectionId := by
  cases finalState <;> rfl

@[simp] lemma remove_nextToken :
    (p.remove id c finalState reason now).nextToken = p.nextToken := by
  cases finalState <;> rfl

@[simp] lemma remove_bindings : (p.remove id c finalState reason now).bindings =
    (p.bindings.erase (c.token .client)).erase (c.token .upstream) := by
  cases finalState <;> rfl

lemma remove_closedWith (test : ConnectionState → Bool) :
    (p.remove id c finalState reason now).closedWith test =
      p.closedWith test + if test finalState then 1 else 0 := by
  rw [closedWith, remove_closed, List.countP_append, List.countP_singleton]
  rfl

/-- Each counter goes with the final states it counts. -/
lemma remove_counters (p : Runtime) (id : ℕ) (c : Connection) (finalState : ConnectionState)
    (reason : CloseReason) (now : ℤ) :
    (p.remove id c finalState reason now).closesReset =
        p.closesReset + UInt64.ofNat (if finalState = .reset then 1 else 0) ∧
      (p.remove id c finalState reason now).closesFailed =
        p.closesFailed + UInt64.ofNat (if finalState = .failed then 1 else 0) ∧
      (p.remove id c finalState reason now).closesTimedOut =
        p.closesTimedOut + UInt64.ofNat (if finalState = .timedOut then 1 else 0) ∧
      (p.remove id c finalState reason now).closesFullyClosed =
        p.closesFullyClosed + UInt64.ofNat (if !finalState.isAbrupt then 1 else 0) := by
  cases finalState <;> simp [remove, countClose, ConnectionState.isAbrupt]

end Runtime

namespace Runtime.Consistent

lemma remove_bindings (h : p.Consistent) (hlive : p.Live id c) (token : ℕ)
    (binding : SocketBinding) :
    (p.remove id c finalState reason now).bindings.lookup token = some binding ↔
      (∃ c', (p.remove id c finalState reason now).Live binding.connectionId c') ∧
        token = connectionToken binding.connectionId binding.side := by
  have hother : ∀ side, token = connectionToken id side →
      ¬((∃ c', (p.remove id c finalState reason now).Live binding.connectionId c') ∧
        token = connectionToken binding.connectionId binding.side) := by
    rintro side htoken ⟨⟨c', hlive'⟩, htoken'⟩
    exact (Runtime.live_remove.mp hlive').1 (connectionToken_inj (htoken'.symm.trans htoken)).1
  rw [Runtime.remove_bindings, h.token id c hlive, h.token id c hlive]
  by_cases hup : token = connectionToken id .upstream
  · rw [hup, AList.lookup_erase, ← hup]
    exact iff_of_false (by simp) (hother .upstream hup)
  rw [AList.lookup_erase_ne hup]
  by_cases hcl : token = connectionToken id .client
  · rw [hcl, AList.lookup_erase, ← hcl]
    exact iff_of_false (by simp) (hother .client hcl)
  rw [AList.lookup_erase_ne hcl, h.bindings]
  refine and_congr_left fun htoken => ?_
  have hne : binding.connectionId ≠ id := by
    rintro rfl
    cases hside : binding.side with
    | client => exact hcl (by rw [htoken, hside])
    | upstream => exact hup (by rw [htoken, hside])
  refine exists_congr fun c' => ?_
  rw [Runtime.live_remove]
  exact ⟨fun hold => ⟨hne, hold⟩, fun hlive' => hlive'.2⟩

/-- A close takes out the connection with its bindings, and counts once. -/
lemma remove (h : p.Consistent) (hlive : p.Live id c) (finalState : ConnectionState)
    (reason : CloseReason) (now : ℤ) : (p.remove id c finalState reason now).Consistent := by
  have hmem : id ∈ p.connections.keys := Runtime.mem_keys_iff.mpr ⟨c, hlive⟩
  obtain ⟨hreset, hfailed, htimedOut, hfully⟩ :=
    p.remove_counters id c finalState reason now
  constructor
  · simpa using h.nextToken
  · simpa using h.nextId
  · intro id' c' hlive' side
    exact h.token id' c' (Runtime.live_remove.mp hlive').2 side
  · exact h.remove_bindings hlive
  · rw [Runtime.remove_nextConnectionId, Runtime.remove_closed, Runtime.remove_connections,
      AList.keys_erase, List.map_append, List.append_assoc]
    exact ((List.perm_cons_erase hmem).symm.append_left _).trans h.ids
  · intro e he
    rw [Runtime.remove_timerQueue] at he
    rw [Runtime.remove_nextConnectionId]
    exact h.timers e he
  · rw [Runtime.remove_connections, AList.keys_erase, Runtime.remove_config]
    exact List.length_erase_le.trans h.size
  · rw [hreset, h.reset, Runtime.remove_closedWith, UInt64.ofNat_add]
    simp
  · rw [hfailed, h.failed, Runtime.remove_closedWith, UInt64.ofNat_add]
    simp
  · rw [htimedOut, h.timedOut, Runtime.remove_closedWith, UInt64.ofNat_add]
    simp
  · rw [hfully, h.fullyClosed, Runtime.remove_closedWith, UInt64.ofNat_add]

end Runtime.Consistent

lemma Runtime.Consistent.keepsOrCloses (h : p.Consistent) (h' : p.KeepsOrCloses p') :
    p'.Consistent := by
  obtain hsame | ⟨mid, id, c, finalState, reason, now, hsame, hlive, rfl⟩ := h'
  · exact h.sameTable hsame
  · exact (h.sameTable hsame).remove hlive finalState reason now

end Consistent

/-! ## Runs -/

section Runs

variable {io : ℕ → SocketIo} {p p' : Runtime} {config : ProxyConfig} {now : ℤ}

lemma Runtime.KeepsOrCloses.config_eq (h : p.KeepsOrCloses p') : p'.config = p.config := by
  obtain hsame | ⟨mid, id, c, finalState, reason, now, hsame, -, rfl⟩ := h
  · rw [hsame.rest]
  · rw [Runtime.remove_config, hsame.rest]

lemma Runtime.consistent_init (config : ProxyConfig) : ({ config } : Runtime).Consistent where
  nextToken := rfl
  nextId := Nat.one_pos
  token := by
    intro id c hlive
    cases hlive
  bindings := by
    intro token binding
    refine iff_of_false (by simp) ?_
    rintro ⟨⟨c, hlive⟩, -⟩
    cases hlive
  ids := .refl _
  timers := by simp
  size := Nat.zero_le _
  reset := rfl
  failed := rfl
  timedOut := rfl
  fullyClosed := rfl

/-- **Every act keeps the table consistent.** -/
lemma Act.consistent (h : Act io now p p') (hp : p.Consistent) : p'.Consistent := by
  obtain ⟨connecting, c, htoken, hroom, rfl⟩ | hkeeps := h.table
  · exact hp.accepted htoken hroom connecting now
  · exact hp.keepsOrCloses hkeeps

lemma Act.config_eq (h : Act io now p p') : p'.config = p.config := by
  obtain ⟨connecting, c, -, -, rfl⟩ | hkeeps := h.table
  · rfl
  · exact hkeeps.config_eq

/-- The table is consistent, and the configuration stays as it is. -/
lemma Runtime.Consistent.invariant (io : ℕ → SocketIo) (config : ProxyConfig) :
    LoopInvariant io (fun _ => True) fun p => p.Consistent ∧ p.config = config where
  act now p p' _ _ hp hact := ⟨hact.consistent hp.1, hact.config_eq.trans hp.2⟩
  tick clock p hp :=
    ⟨hp.1.sameTable ⟨rfl, .refl _, fun _ c hlive => ⟨c, hlive, rfl⟩, fun _ he => .inl he⟩, hp.2⟩
  arm clock ok p hp := by
    refine ⟨hp.1.sameTable ?_, (p.armTimerFd_config clock ok).trans hp.2⟩
    rw [Runtime.armTimerFd]
    split_ifs
    · exact .refl p
    · exact ⟨rfl, .refl _, fun _ c hlive => ⟨c, hlive, rfl⟩, fun _ he => .inl he⟩
    · exact .refl p

lemma Runtime.Consistent.closeAll (h : p.Consistent) (ids : List ℕ) (now : ℤ) :
    (p.closeAll ids now).Consistent := by
  induction ids generalizing p with
  | nil => exact h
  | cons id ids ih => exact ih (h.keepsOrCloses (p.closeConnection_keepsOrCloses id _ _ now))

lemma Runtime.closeAll_config (ids : List ℕ) (now : ℤ) (p : Runtime) :
    (p.closeAll ids now).config = p.config := by
  induction ids generalizing p with
  | nil => rfl
  | cons id ids ih => exact (ih _).trans (p.closeConnection_keepsOrCloses id _ _ now).config_eq

/-- What is closed is not live. -/
lemma Runtime.Consistent.not_live (h : p.Consistent) {entry : ClosedConnection}
    (hentry : entry ∈ p.closed) : p.connections.lookup entry.connectionId = none := by
  have hnodup := h.ids.nodup_iff.mpr List.nodup_range'
  have hdisjoint := (List.nodup_append'.mp hnodup).2.2
  rw [AList.lookup_eq_none, AList.mem_keys]
  exact hdisjoint (List.mem_map_of_mem hentry)

/-- No other connection has the tokens of a closed one. -/
lemma Runtime.Consistent.unbound (h : p.Consistent) {entry : ClosedConnection}
    (hentry : entry ∈ p.closed) (side : Side) :
    p.bindings.lookup (connectionToken entry.connectionId side) = none := by
  rw [Option.eq_none_iff_forall_ne_some]
  intro binding hbound
  obtain ⟨⟨c, hlive⟩, htoken⟩ := (h.bindings _ _).mp hbound
  rw [← (connectionToken_inj htoken).1] at hlive
  exact Option.some_ne_none c (hlive.symm.trans (h.not_live hentry))

/-- An event of a closed connection does nothing. -/
lemma Runtime.Consistent.dispatch_closed (h : p.Consistent) (io : ℕ → SocketIo)
    {entry : ClosedConnection} (hentry : entry ∈ p.closed) {event : Readiness} {side : Side}
    (htoken : event.token = connectionToken entry.connectionId side) :
    p.dispatch io event = .ok (false, p) := by
  have hid := h.ids.subset (List.mem_append_left _ (List.mem_map_of_mem hentry))
  rw [List.mem_range'_1] at hid
  have hreserved := connectionToken_not_reserved hid.1 side
  rw [← htoken, List.mem_cons, List.mem_cons, List.mem_singleton, not_or, not_or] at hreserved
  obtain ⟨hlistener, hsignal, htimer⟩ := hreserved
  have hunbound := h.unbound hentry side
  rw [← htoken] at hunbound
  rw [Runtime.dispatch, if_neg hlistener, if_neg hsignal, if_neg htimer, Runtime.socketReady,
    hunbound]
  rfl

/-- Every close is counted by one of the four. -/
lemma Runtime.closedWith_sum (p : Runtime) :
    p.closedWith (fun state => !state.isAbrupt) + p.closedWith (· = .reset) +
      p.closedWith (· = .failed) + p.closedWith (· = .timedOut) = p.closed.length := by
  unfold Runtime.closedWith
  induction p.closed with
  | nil => rfl
  | cons entry closed ih =>
      rw [List.length_cons, ← ih]
      simp only [List.countP_cons]
      cases entry.finalState <;> simp [ConnectionState.isAbrupt] <;> omega

/-- The counters and the table add up to the ids given out. -/
lemma Runtime.Consistent.counts (h : p.Consistent) (hfew : p.nextConnectionId - 1 < 2 ^ 62) :
    p.closesFullyClosed.toNat + p.closesReset.toNat + p.closesFailed.toNat +
      p.closesTimedOut.toNat + p.connections.keys.length = p.nextConnectionId - 1 := by
  have hlength := h.ids.length_eq
  rw [List.length_append, List.length_map, List.length_range'] at hlength
  have hsum := p.closedWith_sum
  have hsize : UInt64.size = 2 ^ 64 := rfl
  rw [h.fullyClosed, h.reset, h.failed, h.timedOut]
  rw [UInt64.toNat_ofNat_of_lt' (by omega), UInt64.toNat_ofNat_of_lt' (by omega),
    UInt64.toNat_ofNat_of_lt' (by omega), UInt64.toNat_ofNat_of_lt' (by omega)]
  omega

lemma Runtime.live_closeAll {ids : List ℕ} {id : ℕ} {c : Connection}
    (hlive : (p.closeAll ids now).Live id c) : id ∉ ids ∧ p.Live id c := by
  induction ids generalizing p with
  | nil => exact ⟨List.not_mem_nil, hlive⟩
  | cons id' ids ih =>
      obtain ⟨hout, hmid⟩ := ih hlive
      change (p.closeConnection id' .fullyClosed .proxyShutdown now).Live id c at hmid
      cases hold : p.connections.lookup id' with
      | none =>
          have hsame : p.closeConnection id' .fullyClosed .proxyShutdown now = p := by
            rw [Runtime.closeConnection, hold]
          rw [hsame] at hmid
          refine ⟨List.not_mem_cons_of_ne_of_not_mem ?_ hout, hmid⟩
          rintro rfl
          cases hold.symm.trans hmid
      | some c' =>
          rw [Runtime.closeConnection_of_live hold] at hmid
          obtain ⟨hne, hmid⟩ := Runtime.live_remove.mp hmid
          exact ⟨List.not_mem_cons_of_ne_of_not_mem hne hout, hmid⟩

/-- After the shutdown no connection is left. -/
lemma Runtime.shutDown_keys (p : Runtime) (now : ℤ) : (p.shutDown now).connections.keys = [] := by
  refine List.eq_nil_iff_forall_not_mem.mpr fun id hid => ?_
  obtain ⟨c, hlive⟩ := Runtime.mem_keys_iff.mp hid
  have hall : (p.closeAll p.connections.keys now).Live id c := hlive
  obtain ⟨hout, hold⟩ := Runtime.live_closeAll hall
  exact hout (Runtime.mem_keys_iff.mpr ⟨c, hold⟩)

end Runs

/-- **The table of connections is consistent** at every moment of every run, and while the proxy
shuts down, however far it got:
* the bindings are those of the two sockets of each live connection, and no others;
* the tokens of a connection are a function of its id, and none of those of the listener, the
  signal and the timer;
* every id given out was given out once, and belongs to one live or one closed connection;
* an event with a token of a closed connection, or a timer entry with its id, does nothing;
* there are at most `max_connections` live connections;
* with fewer than `2 ^ 62` accepts, the closes counted and the live connections add up to the ids
  given out.
After the shutdown no connection is left, so that the closes alone add up. -/
theorem connection_table_consistent (io : ℕ → SocketIo) (config : ProxyConfig)
    (hconfig : config.validate = .ok ()) (iterations : List Iteration) (steps : List LoopStep) :
    ∃ stopping p, Runtime.runTo io config iterations steps = .ok (stopping, p) ∧
      (∀ now, (p.shutDown now).connections.keys = [] ∧
        p.shutDown now = p.closeAll p.connections.keys now) ∧
      ∀ ids time q, q = p.closeAll ids time →
        (∀ token binding, q.bindings.lookup token = some binding ↔
          ∃ c, q.connections.lookup binding.connectionId = some c ∧
            token = c.token binding.side) ∧
        (∀ id c, q.connections.lookup id = some c → ∀ side,
          c.token side = connectionToken id side ∧
            c.token side ∉ [kListenerToken, kSignalToken, kTimerToken]) ∧
        (q.closed.map ClosedConnection.connectionId ++ q.connections.keys).Perm
          (List.range' 1 (q.nextConnectionId - 1)) ∧
        (∀ entry ∈ q.closed,
          (∀ event : Readiness, ∀ side, event.token = connectionToken entry.connectionId side →
            q.dispatch io event = .ok (false, q)) ∧
          ∀ now (event : TimerEvent), event.connectionId = entry.connectionId →
            q.handleTimer io now event = .ok q) ∧
        q.connections.keys.length ≤ config.maxConnections ∧
        (q.nextConnectionId - 1 < 2 ^ 62 →
          q.closesFullyClosed.toNat + q.closesReset.toNat + q.closesFailed.toNat +
            q.closesTimedOut.toNat + q.connections.keys.length = q.nextConnectionId - 1) := by
  obtain ⟨stopping, p, hrun, -, hp, hpconfig⟩ := (Runtime.Consistent.invariant io config).runTo
    hconfig ⟨Runtime.consistent_init config, rfl⟩ iterations steps (by simp) (by simp)
  refine ⟨stopping, p, hrun, fun now => ⟨p.shutDown_keys now, rfl⟩, ?_⟩
  rintro ids time q rfl
  obtain ⟨q, hq⟩ : ∃ q, q = p.closeAll ids time := ⟨_, rfl⟩
  have hc : q.Consistent := hq ▸ hp.closeAll ids time
  have hsize : q.connections.keys.length ≤ config.maxConnections := by
    refine hc.size.trans_eq ?_
    rw [hq, Runtime.closeAll_config, hpconfig]
  rw [← hq]
  refine ⟨fun token binding => ?_, fun id c hlive side => ?_, hc.ids, fun entry hentry => ?_, hsize,
    hc.counts⟩
  · rw [hc.bindings]
    constructor
    · rintro ⟨⟨c, hlive⟩, htoken⟩
      exact ⟨c, hlive, htoken.trans (hc.token _ c hlive _).symm⟩
    · rintro ⟨c, hlive, htoken⟩
      exact ⟨⟨c, hlive⟩, htoken.trans (hc.token _ c hlive _)⟩
  · have hid := hc.ids.subset (List.mem_append_right _ (Runtime.mem_keys_iff.mpr ⟨c, hlive⟩))
    rw [List.mem_range'_1] at hid
    rw [hc.token id c hlive]
    exact ⟨rfl, connectionToken_not_reserved hid.1 side⟩
  · refine ⟨fun event side htoken => ?_, fun now event hid => ?_⟩
    · exact hc.dispatch_closed io hentry htoken
    · rw [Runtime.handleTimer, hid, hc.not_live hentry]

/-- A client comes and goes: its id and its tokens stay unused. -/
theorem connection_table_consistent_one_client :
    ∃ stopping p, Runtime.runTo (fun _ => .script fun _ => []) {}
        [.batch [.ready { token := 1, accepts := [.accepted (.opened true 10)] },
          .ready { token := 5, events := { epollout := true }, now := 12
                   connectError := .value 111 }] 13 true] [] = .ok (stopping, p) ∧
      p.closesFullyClosed.toNat + p.closesReset.toNat + p.closesFailed.toNat +
        p.closesTimedOut.toNat + p.connections.keys.length = 1 := by
  obtain ⟨stopping, p, hrun, -, hall⟩ := connection_table_consistent
    (fun _ => .script fun _ => []) {} (by decide +kernel)
    [.batch [.ready { token := 1, accepts := [.accepted (.opened true 10)] },
      .ready { token := 5, events := { epollout := true }, now := 12
               connectError := .value 111 }] 13 true] []
  obtain ⟨-, -, -, -, -, hcounts⟩ := hall [] 0 p rfl
  have hnext : returns (Runtime.runTo (fun _ => .script fun _ => []) {}
      [.batch [.ready { token := 1, accepts := [.accepted (.opened true 10)] },
        .ready { token := 5, events := { epollout := true }, now := 12
                 connectError := .value 111 }] 13 true] [])
      (fun state => decide (state.2.nextConnectionId = 2)) = true := by decide +kernel
  rw [hrun] at hnext
  have hid : p.nextConnectionId = 2 := by simpa [returns] using hnext
  rw [hid] at hcounts
  exact ⟨stopping, p, hrun, hcounts (by decide)⟩

end NetFault
