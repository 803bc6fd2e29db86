import NetFault.Lib.JsonParser
import NetFault.Proxy.MetricsFile

/-!
# The metrics document

The text of `build_metrics_json` is put together by hand: numbers and fixed names, the two endpoints
without any escaping, and for each connection the fields of `metrics_json`, whose opening brace is
cut off, after the id.

Here is the value that the document is meant to be, `Runtime.metricsObject`, written out from the
state and not from the lists that the serializers go through, and the proof that the text is that of
the value.  The endpoints are those of the command line: an argument is a C string,
so the host that `inet_pton` has accepted is all of the text in front of the colon.
-/

namespace NetFault

/-! ## The value of the document -/

/-- The blocks that were delayed, and the sum of their delays in microseconds, of a direction that
may have no fault channel. -/
def Direction.delays (direction : Direction) : UInt64 × UInt64 :=
  match direction.fault with
  | none => (0, 0)
  | some channel => (channel.delayedSegments, UInt64.ofInt (channel.delayBudget.tdiv 1000))

/-- A counter, as a value. -/
def counter (value : UInt64) : Json := .int value.toNat

/-- The object of one connection: its id, the name of its state, and its counters. -/
def connectionObject (now : ℤ) (id : ℕ) (c : Connection) : Json :=
  let relay := c.session.relay
  let forth := relay.directionFrom .client
  let back := relay.directionFrom .upstream
  .object [("id", .int id), ("state", .string (stateName relay.state)),
    ("duration_ms", counter (UInt64.ofInt ((now - relay.acceptedAt).tdiv 1000000))),
    ("client_bytes_read", counter (relay.metrics.bytesRead .client)),
    ("upstream_bytes_read", counter (relay.metrics.bytesRead .upstream)),
    ("client_bytes_written", counter (relay.metrics.bytesWritten .client)),
    ("upstream_bytes_written", counter (relay.metrics.bytesWritten .upstream)),
    ("read_operations", counter relay.metrics.readOperations),
    ("write_operations", counter relay.metrics.writeOperations),
    ("partial_writes", counter relay.metrics.partialWrites),
    ("eagain_events", counter relay.metrics.eagainEvents),
    ("faults_applied", counter (if relay.faultsActive then 1 else 0)),
    ("c2u_queue_bytes", counter (UInt64.ofNat forth.queue.size)),
    ("c2u_high_water", counter (UInt64.ofNat forth.queue.highWaterMark)),
    ("c2u_pause_count", counter forth.backpressure.pauseCount),
    ("c2u_resume_count", counter forth.backpressure.resumeCount),
    ("c2u_saturation_count", counter forth.backpressure.saturationCount),
    ("c2u_paused_us", counter (UInt64.ofInt ((forth.backpressure.pausedDuration now).tdiv 1000))),
    ("c2u_delayed_segments", counter forth.delays.1),
    ("c2u_delay_budget_us", counter forth.delays.2),
    ("u2c_queue_bytes", counter (UInt64.ofNat back.queue.size)),
    ("u2c_high_water", counter (UInt64.ofNat back.queue.highWaterMark)),
    ("u2c_pause_count", counter back.backpressure.pauseCount),
    ("u2c_resume_count", counter back.backpressure.resumeCount),
    ("u2c_saturation_count", counter back.backpressure.saturationCount),
    ("u2c_paused_us", counter (UInt64.ofInt ((back.backpressure.pausedDuration now).tdiv 1000))),
    ("u2c_delayed_segments", counter back.delays.1),
    ("u2c_delay_budget_us", counter back.delays.2)]

namespace Runtime

variable (wallMs now : ℤ) (droppedEvents : UInt64) (p : Runtime)

/-- The objects of all connections. -/
def connectionObjects : List Json :=
  p.connections.entries.map fun entry => connectionObject now entry.1 entry.2

/-- How the connections were closed. -/
def closesObject : Json :=
  .object [("fully_closed", .int p.closesFullyClosed.toNat), ("reset", .int p.closesReset.toNat),
    ("failed", .int p.closesFailed.toNat), ("timed_out", .int p.closesTimedOut.toNat)]

def metricsObject : Json :=
  .object [("timestamp_ms", .int wallMs), ("listen", .string p.config.listen.toString),
    ("upstream", .string p.config.upstream.toString),
    ("active_connections", .int p.connections.keys.length),
    ("total_accepted", .int (p.nextConnectionId - 1 : ℕ)),
    ("pending_timers", .int p.timerQueue.heap.length),
    ("dropped_log_events", .int droppedEvents.toNat), ("closes", p.closesObject),
    ("connections", .array (p.connectionObjects now))]

end Runtime

/-! ## Names and endpoints -/

/-- The names of the counters of a connection. -/
def counterNames : List String :=
  ["duration_ms", "client_bytes_read", "upstream_bytes_read", "client_bytes_written",
    "upstream_bytes_written", "read_operations", "write_operations", "partial_writes",
    "eagain_events", "faults_applied",
    "c2u_queue_bytes", "c2u_high_water", "c2u_pause_count", "c2u_resume_count",
    "c2u_saturation_count", "c2u_paused_us", "c2u_delayed_segments", "c2u_delay_budget_us",
    "u2c_queue_bytes", "u2c_high_water", "u2c_pause_count", "u2c_resume_count",
    "u2c_saturation_count", "u2c_paused_us", "u2c_delayed_segments", "u2c_delay_budget_us"]

/-- The names of the document, and of the object in it. -/
def documentNames : List String :=
  ["timestamp_ms", "listen", "upstream", "active_connections", "total_accepted", "pending_timers",
    "dropped_log_events", "closes", "connections", "fully_closed", "reset", "failed", "timed_out"]

/-- A field of a serializer, as a member of an object. -/
def counterMember (field : String × UInt64) : String × Json := (field.1, counter field.2)

lemma Direction.delays_eq (direction : Direction) :
    (direction.fault.map FaultChannel.delayedSegments).getD 0 = direction.delays.1 ∧
      (direction.fault.map fun channel => UInt64.ofInt (channel.delayBudget.tdiv 1000)).getD 0 =
        direction.delays.2 := by
  rcases direction with ⟨queue, backpressure, _ | channel⟩ <;> exact ⟨rfl, rfl⟩

/-- **The serializer gives the members of the object**, in order. -/
lemma connectionObject_eq (now : ℤ) (id : ℕ) (c : Connection) :
    connectionObject now id c =
      .object (("id", .int id) :: ("state", .string (stateName c.session.relay.state)) ::
        (c.session.relay.metricsFields now).map counterMember) := by
  simp [connectionObject, Relay.metricsFields, Direction.metricsFields, counterMember,
    Direction.delays_eq]

/-- The two directions put their own label in front of the same names. -/
lemma metricsFields_names (now : ℤ) (r : Relay) :
    (r.metricsFields now).map Prod.fst = counterNames := by
  simp [Relay.metricsFields, Direction.metricsFields, counterNames]

lemma plain_stateName (state : ConnectionState) : Json.Plain (stateName state) := by
  cases state <;> decide

lemma plain_counterNames : ∀ name ∈ counterNames, Json.Plain name := by
  decide +kernel

lemma plain_documentNames : ∀ name ∈ documentNames, Json.Plain name := by
  decide +kernel

lemma nodup_counterNames : ("id" :: "state" :: counterNames).Nodup := by
  decide +kernel

/-- The endpoint was parsed from an argument of the command line, of which the program sees the
characters in front of the first NUL. -/
def Endpoint.Parsed (endpoint : Endpoint) : Prop :=
  ∃ argument, Endpoint.parse (String.ofList (cStr argument)) = .ok endpoint

lemma escape_of_isDigit {c : Char} (h : c.isDigit = true) : Json.escape c = [c] := by
  have hdigit : 48 ≤ c.toNat ∧ c.toNat ≤ 57 := Char.isDigit_iff_toNat.mp h
  apply Json.escape_of_printable (by omega)
  · rintro rfl
    exact absurd h (by decide)
  · rintro rfl
    exact absurd h (by decide)

/-- A parsed endpoint is written with digits, dots and a colon. -/
lemma Endpoint.Parsed.plain {endpoint : Endpoint} (h : endpoint.Parsed) :
    Json.Plain endpoint.toString := by
  obtain ⟨argument, hparse⟩ := h
  have hnul : '\x00' ∉ (String.ofList (cStr argument)).toList := by
    intro hmem
    rw [String.toList_ofList] at hmem
    exact absurd (List.mem_takeWhile_imp hmem) (by decide)
  obtain ⟨host, port, -, ⟨a, b, c, d, -, rfl⟩, -, rfl⟩ := (Endpoint.parse_iff hnul).mp hparse
  have hdigits : ∀ n, ∀ character ∈ Nat.toDigits 10 n, Json.escape character = [character] :=
    fun n character hmem =>
      escape_of_isDigit (Nat.isDigit_of_mem_toDigits (by decide) (by decide) hmem)
  have hdot : Json.escape '.' = ['.'] := rfl
  have hcolon : ∀ character ∈ ":".toList, Json.escape character = [character] :=
    show Json.Plain ":" by decide
  unfold Json.Plain Endpoint.toString
  simp only [String.toList_append, toList_dotted, List.forall_mem_append, List.forall_mem_cons]
  refine ⟨⟨⟨hdigits a, hdot, hdigits b, hdot, hdigits c, hdot, hdigits d⟩, hcolon⟩, ?_⟩
  intro character hmem
  rw [Nat.toString_eq_repr, Nat.toList_repr] at hmem
  exact hdigits _ character hmem

/-! ## The text of the document -/

lemma metricsField_eq (field : String × UInt64) (h : Json.Plain field.1) :
    metricsField field.1 field.2 = ',' :: Json.renderMember (counterMember field) := by
  rw [metricsField, Json.renderMember, counterMember, counter, Json.quote_of_plain h,
    Json.render_natCast]
  simp

lemma flatMap_metricsField {fields : List (String × UInt64)}
    (h : ∀ name ∈ fields.map Prod.fst, Json.Plain name) :
    fields.flatMap (fun field => metricsField field.1 field.2) =
      (fields.map counterMember).flatMap fun member => ',' :: Json.renderMember member := by
  rw [List.flatMap_map]
  apply List.flatMap_congr
  intro field hfield
  exact metricsField_eq field (h _ (List.mem_map_of_mem hfield))

/-- **The id is put in front of the fields of the relay**: without its opening brace, the text of
`metrics_json` goes on with the next member. -/
lemma connectionJson_eq (now : ℤ) (id : ℕ) (c : Connection) :
    connectionJson now id c = (connectionObject now id c).render := by
  have hid := Json.quote_of_plain (show Json.Plain "id" by decide)
  have hstate := Json.quote_of_plain (show Json.Plain "state" by decide)
  have hname := Json.quote_of_plain (plain_stateName c.session.relay.state)
  have hfields : ∀ name ∈ (c.session.relay.metricsFields now).map Prod.fst, Json.Plain name := by
    rw [metricsFields_names]
    exact plain_counterNames
  unfold connectionJson Relay.metricsJson
  rw [connectionObject_eq, flatMap_metricsField hfields]
  generalize (c.session.relay.metricsFields now).map counterMember = counters
  rw [Json.render, Json.renderMembers_cons, List.flatMap_cons]
  simp [Json.renderMember, hid, hstate, hname, Json.render_natCast, Json.render]

/-- The loop over the connections writes the items of an array.  The flag is true exactly in front
of the first one. -/
lemma connectionsJson_false (now : ℤ) (entries : List (Σ _ : ℕ, Connection)) :
    connectionsJson now false entries =
      (entries.map fun entry => connectionObject now entry.1 entry.2).flatMap
        fun item => ',' :: item.render := by
  induction entries with
  | nil => rfl
  | cons entry entries ih =>
      rw [connectionsJson, ih, connectionJson_eq, List.map_cons, List.flatMap_cons]
      rfl

lemma connectionsJson_true (now : ℤ) (entries : List (Σ _ : ℕ, Connection)) :
    connectionsJson now true entries ++ [']'] =
      Json.renderItems (entries.map fun entry => connectionObject now entry.1 entry.2) := by
  cases entries with
  | nil => rfl
  | cons entry entries =>
      rw [connectionsJson, connectionsJson_false, connectionJson_eq, List.map_cons,
        Json.renderItems_cons]
      rfl

lemma quote_documentNames :
    ∀ name ∈ documentNames, Json.quote name = '\x22' :: name.toList ++ ['\x22'] :=
  fun name hname => Json.quote_of_plain (plain_documentNames name hname)

lemma Runtime.closes_append (p : Runtime) (text : List Char) :
    ",\"closes\":\x7b\"fully_closed\":".toList ++ ((toString p.closesFullyClosed.toNat).toList ++
      (",\"reset\":".toList ++ ((toString p.closesReset.toNat).toList ++
        (",\"failed\":".toList ++ ((toString p.closesFailed.toNat).toList ++
          (",\"timed_out\":".toList ++ ((toString p.closesTimedOut.toNat).toList ++
            ("\x7d,\"connections\":[".toList ++ text)))))))) =
      ',' :: (Json.renderMember ("closes", p.closesObject) ++ ",\"connections\":[".toList ++
        text) := by
  have hnames := quote_documentNames
  simp only [documentNames, List.forall_mem_cons] at hnames
  simp [Json.renderMember, closesObject, Json.render, Json.renderMembers, hnames,
    Json.render_natCast]

/-- **The document is the text of its value.** -/
lemma Runtime.buildMetricsJson_eq {p : Runtime} (wallMs now : ℤ) (droppedEvents : UInt64)
    (hlisten : Json.Plain p.config.listen.toString)
    (hupstream : Json.Plain p.config.upstream.toString) :
    p.buildMetricsJson wallMs now droppedEvents =
      (p.metricsObject wallMs now droppedEvents).render := by
  have hnames := quote_documentNames
  simp only [documentNames, List.forall_mem_cons] at hnames
  have hconnections := connectionsJson_true now p.connections.entries
  have hwall := Json.render_int wallMs
  unfold buildMetricsJson metricsObject connectionObjects
  simp only [List.append_assoc, closes_append]
  simp [Json.render, Json.renderMembers, ← hconnections, hnames, hwall, Json.render_natCast,
    Json.quote_of_plain hlisten, Json.quote_of_plain hupstream, Json.renderMember]

/-! ## Decoding -/

lemma uniqueKeys_connectionObject (now : ℤ) (id : ℕ) (c : Connection) :
    (connectionObject now id c).UniqueKeys := by
  rw [connectionObject_eq]
  apply Json.UniqueKeys.object
  · have hnames : ((c.session.relay.metricsFields now).map counterMember).map Prod.fst =
        counterNames := by
      rw [List.map_map]
      exact metricsFields_names now c.session.relay
    rw [List.map_cons, List.map_cons, hnames]
    exact nodup_counterNames
  · simp only [List.forall_mem_cons, List.forall_mem_map]
    exact ⟨.number _ _, .string _, fun field _ => .number _ _⟩

lemma Runtime.uniqueKeys_closesObject (p : Runtime) : p.closesObject.UniqueKeys := by
  apply Json.UniqueKeys.object
  · simp only [List.map_cons, List.map_nil]
    decide
  · simp only [List.forall_mem_cons]
    exact ⟨.number _ _, .number _ _, .number _ _, .number _ _, List.forall_mem_nil _⟩

lemma Runtime.uniqueKeys_metricsObject (p : Runtime) (wallMs now : ℤ) (droppedEvents : UInt64) :
    (p.metricsObject wallMs now droppedEvents).UniqueKeys := by
  have hconnections : ∀ item ∈ p.connectionObjects now, item.UniqueKeys := by
    unfold connectionObjects
    simp only [List.forall_mem_map]
    exact fun entry _ => uniqueKeys_connectionObject now entry.1 entry.2
  apply Json.UniqueKeys.object
  · simp only [List.map_cons, List.map_nil]
    decide
  · simp only [List.forall_mem_cons]
    exact ⟨.number _ _, .string _, .string _, .number _ _, .number _ _, .number _ _, .number _ _,
      p.uniqueKeys_closesObject, .array hconnections, List.forall_mem_nil _⟩

lemma Runtime.length_connectionObjects (p : Runtime) (now : ℤ) :
    (p.connectionObjects now).length = p.connections.keys.length := by
  simp [connectionObjects, AList.keys, List.keys]

/-- **The metrics document is a JSON text of the state.**  For every state of the runtime, with any
connections and counters, whose endpoints were parsed from the command line: `build_metrics_json`
writes a JSON text without duplicate keys.  Its value has the four counters of closed connections,
an array with the objects of the connections, in order, and the length of that array as the number
of active connections; and each of these objects has the id, the name of the state and the counters
of its connection, and no other member. -/
theorem Runtime.buildMetricsJson_decodes (p : Runtime) (wallMs now : ℤ) (droppedEvents : UInt64)
    (hlisten : p.config.listen.Parsed) (hupstream : p.config.upstream.Parsed) :
    Json.Text (p.buildMetricsJson wallMs now droppedEvents)
        (p.metricsObject wallMs now droppedEvents) ∧
      Json.parse (p.buildMetricsJson wallMs now droppedEvents) =
        some (p.metricsObject wallMs now droppedEvents) ∧
      (p.metricsObject wallMs now droppedEvents).UniqueKeys ∧
      (p.metricsObject wallMs now droppedEvents).member? "active_connections" =
        some (.int (p.connectionObjects now).length) ∧
      (p.metricsObject wallMs now droppedEvents).member? "closes" = some p.closesObject ∧
      (p.metricsObject wallMs now droppedEvents).member? "connections" =
        some (.array (p.connectionObjects now)) := by
  have hparse : Json.parse (p.buildMetricsJson wallMs now droppedEvents) =
      some (p.metricsObject wallMs now droppedEvents) := by
    rw [buildMetricsJson_eq wallMs now droppedEvents hlisten.plain hupstream.plain]
    simpa using Json.parse_render (p.metricsObject wallMs now droppedEvents)
      (List.forall_mem_nil fun c => Json.isBlank c = true)
  refine ⟨Json.text_of_parse hparse, hparse, p.uniqueKeys_metricsObject _ _ _, ?_, rfl, rfl⟩
  rw [length_connectionObjects]
  rfl

/-- Two connections that were just accepted, with the endpoints of the defaults. -/
theorem Runtime.buildMetricsJson_decodes_accepted :
    ∃ p, Runtime.acceptReady [.accepted (.opened true 0), .accepted (.opened false 7)]
        { config := { bufferBytesPerDirection := 1024, lowWaterBytes := 512,
                      highWaterBytes := 1024 } } = .ok p ∧
      (Json.parse (p.buildMetricsJson 1 2000000 0)).bind (Json.member? "active_connections") =
        some (.int 2) := by
  obtain ⟨p, haccept, hlisten, hupstream, hkeys⟩ :
      ∃ p, Runtime.acceptReady [.accepted (.opened true 0), .accepted (.opened false 7)]
          { config := { bufferBytesPerDirection := 1024, lowWaterBytes := 512,
                        highWaterBytes := 1024 } } = .ok p ∧
        p.config.listen = ⟨"127.0.0.1", 8080⟩ ∧ p.config.upstream = ⟨"127.0.0.1", 9000⟩ ∧
          p.connections.keys.length = 2 := ⟨_, rfl, rfl, rfl, rfl⟩
  obtain ⟨-, hparse, -, hactive, -⟩ := p.buildMetricsJson_decodes 1 2000000 0
    ⟨"127.0.0.1:8080", by rw [hlisten]; decide +kernel⟩
    ⟨"127.0.0.1:9000", by rw [hupstream]; decide +kernel⟩
  refine ⟨p, haccept, ?_⟩
  rw [hparse, Option.bind_some, hactive, length_connectionObjects, hkeys]
  rfl

end NetFault
