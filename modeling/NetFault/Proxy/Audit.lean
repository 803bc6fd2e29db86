import NetFault.Proxy.ConnectionTable
import NetFault.Proxy.Figures
import NetFault.Proxy.MetricsDocument
import NetFault.Proxy.RelayRuns

/-!
# The metrics document tells the truth

`build_metrics_json` reads its numbers off counters.  `Runtime.auditObject` is the document that an
auditor would write who has none of them: who knows the histories of the live connections, when they
were accepted, and how the closed ones were closed.  At every moment of every run the document that
the proxy exports decodes to that one.
-/

namespace NetFault

/-- The object of a live connection that was accepted at `start`. -/
def auditedConnection (config : ProxyConfig) (start now : ℤ) (id : ℕ) (c : Connection) : Json :=
  .object (("id", .int id) :: ("state", .string (stateName c.session.relay.state)) ::
    (c.session.trace.figures config.relayConfig (config.planFor id) start now).map counterMember)

namespace Runtime

/-- How many connections were closed in a state with `kind`, as a 64-bit number. -/
def closedCount (kind : ConnectionState → Bool) (p : Runtime) : Json :=
  .int (UInt64.ofNat (p.closed.countP fun entry => kind entry.finalState)).toNat

/-- The document, written from the histories. -/
def auditObject (accepted : ℕ → ℤ) (wallMs now : ℤ) (droppedEvents : UInt64) (p : Runtime) : Json :=
  .object [("timestamp_ms", .int wallMs), ("listen", .string p.config.listen.toString),
    ("upstream", .string p.config.upstream.toString),
    ("active_connections", .int p.connections.keys.length),
    ("total_accepted", .int (p.connections.keys.length + p.closed.length : ℕ)),
    ("pending_timers", .int p.timerQueue.heap.length),
    ("dropped_log_events", .int droppedEvents.toNat),
    ("closes", .object [("fully_closed", p.closedCount fun state => !state.isAbrupt),
      ("reset", p.closedCount (· = .reset)), ("failed", p.closedCount (· = .failed)),
      ("timed_out", p.closedCount (· = .timedOut))]),
    ("connections", .array (p.connections.entries.map fun entry =>
      auditedConnection p.config (accepted entry.1) now entry.1 entry.2))]

end Runtime

section Audit

variable {io : ℕ → SocketIo} {config : ProxyConfig} {seen : List ℤ} {p : Runtime} {now : ℤ}

/-- **The counters of a relay that the proxy drives**, at a time not before its last call. -/
lemma RelayRun.reported {io : SocketIo} {id : ℕ} {stop : Option ℤ} {verdict : PumpResult}
    {s : Session} (h : RelayRun io config id seen stop verdict s)
    (hconfig : config.validate = .ok ()) (hsorted : seen.Pairwise (· ≤ ·))
    (hnow : stop = some now ∨ ∀ time ∈ seen, time ≤ now) :
    ∃ start ∈ seen, s.Reported config.relayConfig (config.planFor id) start ∧
      ∀ source, (s.relay.directionFrom source).backpressure.pausedDuration now =
        Hysteresis.latchedTime config.relayConfig.lowWaterBytes config.relayConfig.highWaterBytes
          (s.trace.observations source) start now := by
  obtain ⟨connecting, start, calls, results, hrun, htimes, hclock, -⟩ := h
  obtain ⟨hclocked, hstop⟩ := hclock hsorted
  have hlate : ∀ time ∈ start :: calls.filterMap Call.time?, time ≤ now := by
    intro time htime
    rcases hnow with hstopped | hseen
    · exact hstop now hstopped time htime
    · exact hseen time (htimes time htime)
  refine ⟨start, htimes start (List.mem_cons_self ..), ?_⟩
  exact reported_of_run (ProxyConfig.validate_spec hconfig).2.1 hclocked hrun
    (hlate start (List.mem_cons_self ..))
    fun time htime => hlate time (List.mem_cons_of_mem _ htime)

lemma Runtime.Consistent.closesObject (h : p.Consistent) :
    p.closesObject = .object [("fully_closed", p.closedCount fun state => !state.isAbrupt),
      ("reset", p.closedCount (· = .reset)), ("failed", p.closedCount (· = .failed)),
      ("timed_out", p.closedCount (· = .timedOut))] := by
  unfold Runtime.closesObject Runtime.closedCount
  rw [h.fullyClosed, h.reset, h.failed, h.timedOut]
  rfl

/-- Every id that was given out belongs to a live or a closed connection. -/
lemma Runtime.Consistent.total_accepted (h : p.Consistent) :
    p.nextConnectionId - 1 = p.connections.keys.length + p.closed.length := by
  have hlength := h.ids.length_eq
  rw [List.length_append, List.length_map, List.length_range'] at hlength
  omega

/-- **The document of a runtime whose connections are driven.** -/
lemma Runtime.Driven.metricsObject (h : p.Driven io config seen) (htable : p.Consistent)
    (hconfig : config.validate = .ok ()) (hsorted : seen.Pairwise (· ≤ ·))
    (hnow : ∀ time ∈ seen, time ≤ now) (wallMs : ℤ) (droppedEvents : UInt64) :
    ∃ accepted : ℕ → ℤ, (∀ id c, p.connections.lookup id = some c → accepted id ∈ seen) ∧
      p.metricsObject wallMs now droppedEvents =
        p.auditObject accepted wallMs now droppedEvents := by
  have hstart : ∀ id, ∃ start, ∀ c, p.connections.lookup id = some c → start ∈ seen ∧
      c.session.relay.metricsFields now =
        c.session.trace.figures config.relayConfig (config.planFor id) start now := by
    intro id
    rcases hlive : p.connections.lookup id with _ | c
    · exact ⟨0, fun c hc => by cases hc⟩
    · obtain ⟨start, hstart, hreported, htimed⟩ :=
        (h.live id c hlive).reported hconfig hsorted (.inr hnow)
      refine ⟨start, fun c' hc' => ?_⟩
      rw [← Option.some.inj hc']
      exact ⟨hstart, hreported.metricsFields htimed⟩
  choose accepted haccepted using hstart
  refine ⟨accepted, fun id c hlive => (haccepted id c hlive).1, ?_⟩
  have hobjects : p.connectionObjects now = p.connections.entries.map fun entry =>
      auditedConnection p.config (accepted entry.1) now entry.1 entry.2 := by
    apply List.map_congr_left
    rintro ⟨id, c⟩ hentry
    have hlive : p.connections.lookup id = some c := AList.mem_lookup_iff.mpr hentry
    unfold auditedConnection
    rw [connectionObject_eq, (haccepted id c hlive).2, h.config_eq]
  unfold Runtime.metricsObject Runtime.auditObject
  rw [hobjects, htable.closesObject, htable.total_accepted]

end Audit

/-- **The metrics document tells the truth.**  In every run whose clock readings do not decrease,
for endpoints from the command line: the document that is built at any moment, at a clock reading
not before those made so far, is a JSON text whose value is the one an auditor writes from the
histories. Every counter of a live connection is the count over its history: bytes, calls, bytes
still queued, pauses and the time paused, full queues, delayed blocks and the sum of their delays;
and the closes and the accepted connections are those of the run.  After the shutdown the same
holds, with no live connections left. -/
theorem metrics_document_truthful (io : ℕ → SocketIo) (config : ProxyConfig)
    (hconfig : config.validate = .ok ()) (hlisten : config.listen.Parsed)
    (hupstream : config.upstream.Parsed) (iterations : List Iteration) (steps : List LoopStep)
    (hclock : (readings (arrivals iterations steps)).Pairwise (· ≤ ·)) :
    ∃ stopping p, Runtime.runTo io config iterations steps = .ok (stopping, p) ∧
      ∀ now, (∀ time ∈ readings (arrivals iterations steps), time ≤ now) →
        ∀ final : Runtime, (final = p ∨ final = p.shutDown now) → ∀ wallMs droppedEvents,
          ∃ accepted : ℕ → ℤ,
            (∀ id c, final.connections.lookup id = some c →
              accepted id ∈ readings (arrivals iterations steps)) ∧
            Json.parse (final.buildMetricsJson wallMs now droppedEvents) =
              some (final.auditObject accepted wallMs now droppedEvents) := by
  obtain ⟨past, stopping, p, hto, hrun⟩ :=
    runTo_run io hconfig iterations steps fun _ _ hfirst => hfirst
  have hdriven := hrun.driven_arrivals
  obtain ⟨htable, -⟩ := (Runtime.Consistent.invariant io config).run hrun hconfig
    ⟨Runtime.consistent_init config, rfl⟩ (fun _ _ _ _ _ _ => trivial)
  refine ⟨stopping, p, hto, fun now hnow final hfinal wallMs droppedEvents => ?_⟩
  have hfinalDriven : final.Driven io config (readings (arrivals iterations steps)) := by
    rcases hfinal with rfl | rfl
    · exact hdriven
    · exact hdriven.shutDown hnow
  have hfinalTable : final.Consistent := by
    rcases hfinal with rfl | rfl
    · exact htable
    · exact htable.closeAll p.connections.keys now
  obtain ⟨accepted, haccepted, hobject⟩ :=
    hfinalDriven.metricsObject hfinalTable hconfig hclock hnow wallMs droppedEvents
  refine ⟨accepted, haccepted, ?_⟩
  rw [Runtime.buildMetricsJson_eq wallMs now droppedEvents
    (by rw [hfinalDriven.config_eq]; exact hlisten.plain)
    (by rw [hfinalDriven.config_eq]; exact hupstream.plain), hobject]
  simpa using Json.parse_render (final.auditObject accepted wallMs now droppedEvents)
    (List.forall_mem_nil fun c => Json.isBlank c = true)

/-- Three bytes that were read and passed on in one call each, as the document has them. -/
theorem metrics_document_truthful_relayed :
    ∃ stopping p document, Runtime.runTo (fun _ => .script fun _ => [1, 2, 3])
        { bufferBytesPerDirection := 1024, lowWaterBytes := 512, highWaterBytes := 1024 }
        [.batch [.ready { token := 1, accepts := [.accepted (.opened false 10)] }] 11 true]
        [.ready { token := 4, events := { epollin := true }, now := 2000000 }] =
        .ok (stopping, p) ∧
      Json.parse (p.buildMetricsJson 1 3000010 0) = some document ∧
      ∃ c start, p.connections.lookup 1 = some c ∧ c.session.trace.sent .upstream = [1, 2, 3] ∧
        c.session.trace.count TraceEvent.isRead = 1 ∧
        document.member? "connections" =
          some (.array [auditedConnection p.config start 3000010 1 c]) := by
  have hcheck : returns (Runtime.runTo (fun _ => .script fun _ => [1, 2, 3])
      { bufferBytesPerDirection := 1024, lowWaterBytes := 512, highWaterBytes := 1024 }
      [.batch [.ready { token := 1, accepts := [.accepted (.opened false 10)] }] 11 true]
      [.ready { token := 4, events := { epollin := true }, now := 2000000 }])
      (fun state => decide (state.2.connections.keys = [1]) &&
        (state.2.connections.lookup 1).any fun c =>
          decide (c.session.trace.sent .upstream = [1, 2, 3]) &&
            decide (c.session.trace.count TraceEvent.isRead = 1)) = true := by
    decide +kernel
  obtain ⟨stopping, p, hrun, htruth⟩ := metrics_document_truthful
    (fun _ => .script fun _ => [1, 2, 3])
    { bufferBytesPerDirection := 1024, lowWaterBytes := 512, highWaterBytes := 1024 }
    (by decide +kernel) ⟨"127.0.0.1:8080", by decide +kernel⟩ ⟨"127.0.0.1:9000", by decide +kernel⟩
    [.batch [.ready { token := 1, accepts := [.accepted (.opened false 10)] }] 11 true]
    [.ready { token := 4, events := { epollin := true }, now := 2000000 }] (by decide)
  obtain ⟨accepted, -, hparse⟩ := htruth 3000010 (by decide) p (.inl rfl) 1 0
  rw [hrun] at hcheck
  simp only [returns, Option.any_eq_true, Bool.and_eq_true, decide_eq_true_eq] at hcheck
  obtain ⟨hkeys, c, hlive, hsent, hreads⟩ := hcheck
  refine ⟨stopping, p, _, hrun, hparse, c, accepted 1, hlive, hsent, hreads, ?_⟩
  have hentries : p.connections.entries = [⟨1, c⟩] := by
    have hmem : (⟨1, c⟩ : Σ _ : ℕ, Connection) ∈ p.connections.entries :=
      AList.mem_lookup_iff.mp hlive
    have hlength : p.connections.entries.length = 1 := by
      simpa [AList.keys, List.keys] using congrArg List.length hkeys
    obtain ⟨entry, hentry⟩ := List.length_eq_one_iff.mp hlength
    rw [hentry] at hmem ⊢
    rw [List.mem_singleton.mp hmem]
  simp only [Runtime.auditObject, hentries]
  rfl

end NetFault
