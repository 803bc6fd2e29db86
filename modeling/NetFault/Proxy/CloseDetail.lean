import NetFault.Lib.Assignments
import NetFault.LogLine
import NetFault.Proxy.Audit

/-!
# The log line of a closed connection, written and read back

`close_detail` appends the counters of a relay to the reason of a close, as `name=value` items
behind commas, and the logger puts the whole into a JSON string.  The integration tests read it
back: the line is decoded, and `parse_detail` of `tests/integration/harness.py` cuts the detail at
its commas and turns into a number what reads as one.

What is read back is what the history of the connection says, for every connection that is closed in
any run (`closed_lines_read_back`).
-/

namespace NetFault

/-! ## The writer -/

/-- `append_backpressure`, up to its prefix. -/
def Direction.pauseDetail (label : String) (now : ℤ) (direction : Direction) : List (String × ℤ) :=
  let tracker := direction.backpressure
  [(label ++ "_pause_count", tracker.pauseCount.toNat),
    (label ++ "_resume_count", tracker.resumeCount.toNat),
    (label ++ "_saturation_count", tracker.saturationCount.toNat),
    (label ++ "_paused_us", (tracker.pausedDuration now).tdiv 1000)]

/-- `append_fault`. -/
def Direction.faultDetail (label : String) (direction : Direction) : List (String × ℤ) :=
  [(label ++ "_delayed_segments",
      ((direction.fault.map FaultChannel.delayedSegments).getD 0).toNat),
    (label ++ "_delay_budget_us",
      ((direction.fault.map FaultChannel.delayBudget).getD 0).tdiv 1000)]

/-- The names and values of `close_detail`, in order. -/
def Relay.detailFields (now : ℤ) (r : Relay) : List (String × ℤ) :=
  let clientToUpstream := r.directionFrom .client
  let upstreamToClient := r.directionFrom .upstream
  [("duration_ms", (now - r.acceptedAt).tdiv 1000000),
    ("client_read", (r.metrics.bytesRead .client).toNat),
    ("upstream_read", (r.metrics.bytesRead .upstream).toNat),
    ("client_written", (r.metrics.bytesWritten .client).toNat),
    ("upstream_written", (r.metrics.bytesWritten .upstream).toNat),
    ("read_operations", r.metrics.readOperations.toNat),
    ("write_operations", r.metrics.writeOperations.toNat),
    ("partial_writes", r.metrics.partialWrites.toNat),
    ("eagain_events", r.metrics.eagainEvents.toNat),
    ("rejected_bytes", 0),
    ("faults_applied", if r.faultsActive then 1 else 0),
    ("c2u_high_water", clientToUpstream.queue.highWaterMark),
    ("u2c_high_water", upstreamToClient.queue.highWaterMark)] ++
  clientToUpstream.pauseDetail "c2u" now ++ upstreamToClient.pauseDetail "u2c" now ++
  clientToUpstream.faultDetail "c2u" ++ upstreamToClient.faultDetail "u2c"

/-- One item, without the comma in front of it. -/
def detailItem (field : String × ℤ) : List Char :=
  field.1.toList ++ '=' :: (toString field.2).toList

/-- `Relay::close_detail`. -/
def Relay.closeDetail (now : ℤ) (r : Relay) : List Char :=
  ((r.detailFields now).map detailItem).flatMap (',' :: ·)

/-- The call of the logger in `close_connection`. -/
def ClosedConnection.logCall (strerror : ℤ → String) (timestampMs : ℤ) (entry : ClosedConnection) :
    LogCall where
  timestampMs := timestampMs
  eventName := "connection_closed"
  connectionId := UInt64.ofNat entry.connectionId
  state := stateName entry.finalState
  detail := entry.reason.text strerror ++ String.ofList (entry.session.relay.closeDetail entry.now)

/-! ## The reader -/

/-- A value of the dictionary that `parse_detail` returns. -/
inductive DetailValue
  | int (value : ℤ)
  | str (value : String)
  deriving DecidableEq, Repr

section Reader

-- `int(text)` of the reader; `none` is its `ValueError`
variable (pyInt : List Char → Option ℤ)

/-- What one item of the detail assigns: an item without an equals sign is the reason. -/
def detailAssignment (item : List Char) : String × DetailValue :=
  if '=' ∈ item then
    let key := item.takeWhile (· ≠ '=')
    let value := (item.dropWhile (· ≠ '=')).drop 1
    (String.ofList key,
      match pyInt value with
      | some number => .int number
      | none => .str (String.ofList value))
  else
    ("reason", .str (String.ofList item))

/-- `parse_detail`. -/
def parseDetail (detail : String) : AList fun _ : String => DetailValue :=
  Assignments.read ',' (detailAssignment pyInt) detail.toList

end Reader

/-! ## The names -/

/-- The names of `close_detail`. -/
def detailNames : List String :=
  ["duration_ms", "client_read", "upstream_read", "client_written", "upstream_written",
    "read_operations", "write_operations", "partial_writes", "eagain_events", "rejected_bytes",
    "faults_applied", "c2u_high_water", "u2c_high_water",
    "c2u_pause_count", "c2u_resume_count", "c2u_saturation_count", "c2u_paused_us",
    "u2c_pause_count", "u2c_resume_count", "u2c_saturation_count", "u2c_paused_us",
    "c2u_delayed_segments", "c2u_delay_budget_us", "u2c_delayed_segments", "u2c_delay_budget_us"]

lemma detailFields_names (now : ℤ) (r : Relay) :
    (r.detailFields now).map Prod.fst = detailNames := by
  simp [Relay.detailFields, Direction.pauseDetail, Direction.faultDetail, detailNames]

lemma nodup_detailNames : ("reason" :: detailNames).Nodup := by
  decide +kernel

/-- Names have neither a separator nor a character that the logger leaves out. -/
lemma clean_detailNames :
    ∀ name ∈ detailNames, ',' ∉ name.toList ∧ '=' ∉ name.toList ∧
      ∀ character ∈ name.toList, keeps character = true := by
  have hnames : (detailNames.all fun name => name.toList.all fun character =>
      character != ',' && character != '=' && keeps character) = true := by
    decide +kernel
  intro name hname
  have hclean := List.all_eq_true.mp (List.all_eq_true.mp hnames name hname)
  refine ⟨fun hcomma => ?_, fun hequals => ?_, fun character hcharacter => ?_⟩
  · simpa using hclean ',' hcomma
  · simpa using hclean '=' hequals
  · have hkeeps := hclean character hcharacter
    simp only [Bool.and_eq_true] at hkeeps
    exact hkeeps.2

/-- The characters of a decimal number. -/
lemma of_mem_toString_int {n : ℤ} {character : Char} (h : character ∈ (toString n).toList) :
    character = '-' ∨ character.isDigit = true := by
  cases n with
  | ofNat n =>
      right
      have hmem : character ∈ Nat.toDigits 10 n := by
        rw [← Nat.toList_repr]
        exact h
      exact Nat.isDigit_of_mem_toDigits (by decide) (by decide) hmem
  | negSucc n =>
      have hrepr : (toString (Int.negSucc n)).toList = '-' :: Nat.toDigits 10 (n + 1) := by
        rw [show toString (Int.negSucc n) = "-" ++ (n + 1).repr from rfl, String.toList_append,
          Nat.toList_repr]
        rfl
      rw [hrepr] at h
      rcases List.mem_cons.mp h with rfl | h
      · exact .inl rfl
      · exact .inr (Nat.isDigit_of_mem_toDigits (by decide) (by decide) h)

lemma clean_toString_int (n : ℤ) :
    ',' ∉ (toString n).toList ∧ ∀ character ∈ (toString n).toList, keeps character = true := by
  constructor
  · intro hmem
    rcases of_mem_toString_int hmem with h | h
    · exact absurd h (by decide)
    · exact absurd h (by decide)
  · intro character hmem
    rcases of_mem_toString_int hmem with rfl | h
    · decide
    · have hdigit : 48 ≤ character.toNat ∧ character.toNat ≤ 57 := Char.isDigit_iff_toNat.mp h
      exact decide_eq_true (.inl (by omega))

/-! ## Reading back -/

section RoundTrip

variable {pyInt : List Char → Option ℤ} {now : ℤ} {r : Relay} {reason : String}

/-- An item of the writer is read as its field. -/
lemma detailAssignment_item (hint : ∀ n : ℤ, pyInt (toString n).toList = some n)
    {field : String × ℤ} (hname : '=' ∉ field.1.toList) :
    detailAssignment pyInt (detailItem field) = (field.1, .int field.2) := by
  have hkey : ∀ character ∈ field.1.toList, decide (character ≠ '=') = true := by
    intro character hmem
    apply decide_eq_true
    rintro rfl
    exact hname hmem
  have htake : (detailItem field).takeWhile (· ≠ '=') = field.1.toList := by
    rw [detailItem, List.takeWhile_append_of_pos hkey]
    simp
  have hdrop : ((detailItem field).dropWhile (· ≠ '=')).drop 1 = (toString field.2).toList := by
    rw [detailItem, List.dropWhile_append_of_pos hkey]
    simp
  have hequals : '=' ∈ detailItem field :=
    List.mem_append_right _ (List.mem_cons_self ..)
  rw [detailAssignment, if_pos hequals]
  simp only [htake, hdrop, hint, String.ofList_toList]

lemma clean_detailItem {field : String × ℤ} (hfield : field ∈ r.detailFields now) :
    ',' ∉ detailItem field ∧ '=' ∉ field.1.toList ∧
      ∀ character ∈ detailItem field, keeps character = true := by
  have hname : field.1 ∈ detailNames := by
    rw [← detailFields_names now r]
    exact List.mem_map_of_mem hfield
  obtain ⟨hcomma, hequals, hkept⟩ := clean_detailNames field.1 hname
  obtain ⟨hdigits, hnumber⟩ := clean_toString_int field.2
  refine ⟨?_, hequals, ?_⟩
  · intro hmem
    rcases List.mem_append.mp hmem with hmem | hmem
    · exact hcomma hmem
    · rcases List.mem_cons.mp hmem with heq | hmem
      · exact absurd heq (by decide)
      · exact hdigits hmem
  · intro character hmem
    rcases List.mem_append.mp hmem with hmem | hmem
    · exact hkept character hmem
    · rcases List.mem_cons.mp hmem with rfl | hmem
      · decide
      · exact hnumber character hmem

lemma comma_notMem_items : ∀ item ∈ (r.detailFields now).map detailItem, ',' ∉ item := by
  intro item hitem
  obtain ⟨field, hfield, rfl⟩ := List.mem_map.mp hitem
  exact (clean_detailItem hfield).1

lemma notMem_kept {mark : Char} (hmark : mark ∉ reason.toList) : mark ∉ (kept reason).toList := by
  rw [kept, String.toList_ofList]
  exact fun hmem => hmark (List.mem_filter.mp hmem).1

/-- The logger keeps all of the counters. -/
lemma kept_closeDetail (reason : String) (now : ℤ) (r : Relay) :
    (kept (reason ++ String.ofList (r.closeDetail now))).toList =
      (kept reason).toList ++ r.closeDetail now := by
  have hall : ∀ character ∈ r.closeDetail now, keeps character = true := by
    intro character hmem
    obtain ⟨item, hitem, hmem⟩ := List.mem_flatMap.mp hmem
    obtain ⟨field, hfield, rfl⟩ := List.mem_map.mp hitem
    rcases List.mem_cons.mp hmem with rfl | hmem
    · decide
    · exact (clean_detailItem hfield).2.2 character hmem
  simp only [kept, String.toList_ofList, String.toList_append, List.filter_append]
  rw [List.filter_eq_self.mpr hall]

/-- **The counters are read back**, whatever the reason is, as long as it has no comma. -/
lemma parseDetail_closeDetail (hint : ∀ n : ℤ, pyInt (toString n).toList = some n)
    (hreason : ',' ∉ reason.toList) {field : String × ℤ} (hfield : field ∈ r.detailFields now) :
    (parseDetail pyInt (kept (reason ++ String.ofList (r.closeDetail now)))).lookup field.1 =
      some (.int field.2) := by
  have hkeys : (((r.detailFields now).map detailItem).map fun item =>
      (detailAssignment pyInt item).1) = detailNames := by
    rw [← detailFields_names now r, List.map_map]
    apply List.map_congr_left
    intro field hfield
    simp only [Function.comp_apply]
    rw [detailAssignment_item hint (clean_detailItem hfield).2.1]
  have hread := Assignments.lookup_read_of_mem (detailAssignment pyInt) comma_notMem_items
    (notMem_kept hreason) (by rw [hkeys]; exact (List.nodup_cons.mp nodup_detailNames).2)
    (List.mem_map_of_mem hfield)
  rw [detailAssignment_item hint (clean_detailItem hfield).2.1] at hread
  rw [parseDetail, kept_closeDetail]
  exact hread

/-- A reason without an equals sign is read back under its own key. -/
lemma parseDetail_reason (hint : ∀ n : ℤ, pyInt (toString n).toList = some n)
    (hreason : ',' ∉ reason.toList) (hequals : '=' ∉ reason.toList) :
    (parseDetail pyInt (kept (reason ++ String.ofList (r.closeDetail now)))).lookup "reason" =
      some (.str (kept reason)) := by
  have hassign : detailAssignment pyInt (kept reason).toList = ("reason", .str (kept reason)) := by
    rw [detailAssignment, if_neg (notMem_kept hequals), String.ofList_toList]
  have hread := Assignments.lookup_read_head (detailAssignment pyInt) comma_notMem_items
    (notMem_kept hreason) (by
      intro item hitem
      obtain ⟨field, hfield, rfl⟩ := List.mem_map.mp hitem
      have hname : field.1 ∈ detailNames := by
        rw [← detailFields_names now r]
        exact List.mem_map_of_mem hfield
      rw [detailAssignment_item hint (clean_detailItem hfield).2.1, hassign]
      intro (heq : field.1 = "reason")
      have hfree := (List.nodup_cons.mp nodup_detailNames).1
      exact hfree (heq ▸ hname))
  rw [hassign] at hread
  rw [parseDetail, kept_closeDetail]
  exact hread

end RoundTrip

/-! ## The figures of a closed connection -/

namespace Trace

/-- The counts of the direction from `source` that `append_backpressure` reports, from the
history. -/
def pauseFigures (config : RelayConfig) (start now : ℤ) (label : String) (source : Side)
    (trace : Trace) : List (String × ℤ) :=
  [(label ++ "_pause_count", (UInt64.ofNat ((trace.transitions source).count .paused)).toNat),
    (label ++ "_resume_count", (UInt64.ofNat ((trace.transitions source).count .resumed)).toNat),
    (label ++ "_saturation_count", (UInt64.ofNat (Hysteresis.runs
      (fun seen => seen.1 == config.bufferBytesPerDirection) (trace.observations source))).toNat),
    (label ++ "_paused_us", (Hysteresis.latchedTime config.lowWaterBytes
      config.highWaterBytes (trace.observations source) start now / 1000 : ℕ))]

/-- Those that `append_fault` reports. -/
def faultFigures (label : String) (source : Side) (trace : Trace) : List (String × ℤ) :=
  [(label ++ "_delayed_segments", (UInt64.ofNat (trace.delays source).length).toNat),
    (label ++ "_delay_budget_us", (i64 (trace.delays source).sum).tdiv 1000)]

/-- What the history says about a connection that was accepted at `start` and closed at `now`, in
the order and under the names of `close_detail`. -/
def closeFigures (config : RelayConfig) (plan : FaultPlan) (start now : ℤ) (trace : Trace) :
    List (String × ℤ) :=
  [("duration_ms", (now - start).tdiv 1000000),
    ("client_read", (UInt64.ofNat (trace.received .client).length).toNat),
    ("upstream_read", (UInt64.ofNat (trace.received .upstream).length).toNat),
    ("client_written", (UInt64.ofNat (trace.sent .client).length).toNat),
    ("upstream_written", (UInt64.ofNat (trace.sent .upstream).length).toNat),
    ("read_operations", (UInt64.ofNat (trace.count TraceEvent.isRead)).toNat),
    ("write_operations", (UInt64.ofNat (trace.count TraceEvent.isWrite)).toNat),
    ("partial_writes", (UInt64.ofNat (trace.count TraceEvent.isPartialWrite)).toNat),
    ("eagain_events", (UInt64.ofNat (trace.count TraceEvent.isEagain)).toNat),
    ("rejected_bytes", 0),
    ("faults_applied", if plan.anyEnabled then 1 else 0),
    ("c2u_high_water", trace.peak .client),
    ("u2c_high_water", trace.peak .upstream)] ++
  trace.pauseFigures config start now "c2u" .client ++
  trace.pauseFigures config start now "u2c" .upstream ++
  trace.faultFigures "c2u" .client ++ trace.faultFigures "u2c" .upstream

end Trace

section Figures

variable {config : RelayConfig} {plan : FaultPlan} {start now : ℤ} {s : Session}

lemma Session.Reported.pauseDetail (h : s.Reported config plan start) (label : String)
    (source : Side)
    (htimed : (s.relay.directionFrom source).backpressure.pausedDuration now =
      Hysteresis.latchedTime config.lowWaterBytes config.highWaterBytes
        (s.trace.observations source) start now) :
    (s.relay.directionFrom source).pauseDetail label now =
      s.trace.pauseFigures config start now label source := by
  obtain ⟨hpauses, hresumes⟩ := (h.watermarked source).records.counts
  have hsaturations := (h.watermarked source).records.saturations
  rw [h.capacity source] at hsaturations
  unfold Direction.pauseDetail Trace.pauseFigures
  dsimp only
  rw [hpauses, hresumes, hsaturations, htimed]
  rfl

lemma Session.Reported.faultDetail (h : s.Reported config plan start) (label : String)
    (source : Side) :
    (s.relay.directionFrom source).faultDetail label = s.trace.faultFigures label source := by
  obtain ⟨hsegments, hbudget⟩ := (h.figured source).channel
  unfold Direction.faultDetail Trace.faultFigures
  rw [hsegments, hbudget]

/-- **`close_detail` reports what the history says.** -/
lemma Session.Reported.detailFields (h : s.Reported config plan start)
    (htimed : ∀ source, (s.relay.directionFrom source).backpressure.pausedDuration now =
      Hysteresis.latchedTime config.lowWaterBytes config.highWaterBytes
        (s.trace.observations source) start now) :
    s.relay.detailFields now = s.trace.closeFigures config plan start now := by
  have hclient := h.intact .client
  have hupstream := h.intact .upstream
  unfold Relay.detailFields Trace.closeFigures
  dsimp only
  rw [h.pauseDetail "c2u" .client (htimed .client),
    h.pauseDetail "u2c" .upstream (htimed .upstream), h.faultDetail "c2u" .client,
    h.faultDetail "u2c" .upstream, h.acceptedAt, h.faultsActive, hclient.read, hupstream.read,
    h.tallied.reads, h.tallied.writes, h.tallied.partials, h.tallied.eagains,
    (h.figured .client).peak, (h.figured .upstream).peak]
  rw [show s.relay.metrics.bytesWritten .upstream = _ from hclient.written,
    show s.relay.metrics.bytesWritten .client = _ from hupstream.written]
  rfl

end Figures

lemma comma_notMem_reason {strerror : ℤ → String}
    (hstrerror : ∀ error, ',' ∉ (strerror error).toList) (reason : CloseReason) :
    ',' ∉ (reason.text strerror).toList := by
  have happend : ∀ (label : String) (error : ℤ), ',' ∉ label.toList →
      ',' ∉ (label ++ strerror error).toList := by
    intro label error hlabel hmem
    rw [String.toList_append] at hmem
    rcases List.mem_append.mp hmem with hmem | hmem
    · exact hlabel hmem
    · exact hstrerror error hmem
  cases reason with
  | ioError operation error =>
      cases operation with
      | read => exact happend "read=" error (by decide)
      | write => exact happend "write=" error (by decide)
  | upstreamConnect error => exact happend "upstream_connect=" error (by decide)
  | socketError error => exact hstrerror error
  | faultReset => exact (by decide : ',' ∉ "fault_reset".toList)
  | orderlyShutdown => exact (by decide : ',' ∉ "orderly_shutdown".toList)
  | connectTimeout => exact (by decide : ',' ∉ "connect_timeout".toList)
  | idleTimeout => exact (by decide : ',' ∉ "idle_timeout".toList)
  | proxyShutdown => exact (by decide : ',' ∉ "proxy_shutdown".toList)

/-- The detail of a close is never left out: it ends with the counters. -/
lemma detail_ne_empty (strerror : ℤ → String) (timestampMs : ℤ) (entry : ClosedConnection) :
    (entry.logCall strerror timestampMs).detail ≠ "" := by
  intro hempty
  have hnil : entry.session.relay.closeDetail entry.now = [] := by
    have htext := congrArg String.toList hempty
    rw [ClosedConnection.logCall, String.toList_append, String.toList_ofList] at htext
    exact (List.append_eq_nil_iff.mp htext).2
  exact List.cons_ne_nil _ _ hnil

lemma member?_detail {call : LogCall} (h : call.detail ≠ "") :
    call.object.member? "detail" = some (.string (kept call.detail)) := by
  rw [LogCall.object, if_neg h]
  rfl

/-- **The log line of a close is read back as the history of the connection.**  In every run whose
clock readings do not decrease, for every connection that is closed, also by the shutdown: the line
that `close_connection` logs is a JSON text, and `parse_detail` reads from its detail, under each
name of `close_detail`, the count that the history of the connection gives; and under `reason` the
reason, if that has no equals sign.  It is assumed of the C library that its error texts have no
comma, and of the reader's `int` that it reads decimal numbers. -/
theorem closed_lines_read_back (strerror : ℤ → String)
    (hstrerror : ∀ error, ',' ∉ (strerror error).toList) (pyInt : List Char → Option ℤ)
    (hint : ∀ n : ℤ, pyInt (toString n).toList = some n) (io : ℕ → SocketIo) (config : ProxyConfig)
    (hconfig : config.validate = .ok ()) (iterations : List Iteration) (steps : List LoopStep)
    (hclock : (readings (arrivals iterations steps)).Pairwise (· ≤ ·)) :
    ∃ stopping p, Runtime.runTo io config iterations steps = .ok (stopping, p) ∧
      ∀ now, (∀ time ∈ readings (arrivals iterations steps), time ≤ now) →
        ∀ final : Runtime, (final = p ∨ final = p.shutDown now) → ∀ entry ∈ final.closed,
          ∃ accepted ∈ readings (arrivals iterations steps), ∀ timestampMs, ∃ detail,
            (Json.parse (entry.logCall strerror timestampMs).line).bind (Json.member? "detail") =
              some (.string detail) ∧
            (∀ field ∈ entry.session.trace.closeFigures config.relayConfig
                (config.planFor entry.connectionId) accepted entry.now,
              (parseDetail pyInt detail).lookup field.1 = some (.int field.2)) ∧
            ('=' ∉ (entry.reason.text strerror).toList →
              (parseDetail pyInt detail).lookup "reason" =
                some (.str (kept (entry.reason.text strerror)))) := by
  obtain ⟨past, stopping, p, hto, hrun⟩ :=
    runTo_run io hconfig iterations steps fun _ _ hfirst => hfirst
  have hdriven := hrun.driven_arrivals
  refine ⟨stopping, p, hto, fun now hnow final hfinal entry hentry => ?_⟩
  have hfinalDriven : final.Driven io config (readings (arrivals iterations steps)) := by
    rcases hfinal with rfl | rfl
    · exact hdriven
    · exact hdriven.shutDown hnow
  obtain ⟨accepted, haccepted, hreported, htimed⟩ :=
    (hfinalDriven.closed entry hentry).reported hconfig hclock (.inl rfl)
  have hcomma : ',' ∉ (entry.reason.text strerror).toList :=
    comma_notMem_reason hstrerror entry.reason
  refine ⟨accepted, haccepted, fun timestampMs => ⟨kept (entry.logCall strerror timestampMs).detail,
    ?_, fun field hfield => ?_, fun hequals => ?_⟩⟩
  · rw [LogCall.line_eq_render, Json.parse_render _ (List.forall_mem_singleton.mpr rfl),
      Option.bind_some]
    exact member?_detail (detail_ne_empty strerror timestampMs entry)
  · rw [← hreported.detailFields htimed] at hfield
    exact parseDetail_closeDetail hint hcomma hfield
  · exact parseDetail_reason hint hcomma hequals

/-- A number as the reader gets it. -/
def readDecimal (text : List Char) : Option ℤ :=
  match Json.parse text with
  | some (.number mantissa 0) => some mantissa
  | _ => none

/-- A client whose three bytes were relayed before the proxy was told to stop. -/
theorem closed_lines_read_back_shutdown :
    ∃ stopping p, Runtime.runTo (fun _ => .script fun _ => [1, 2, 3])
        { bufferBytesPerDirection := 1024, lowWaterBytes := 512, highWaterBytes := 1024 }
        [.batch [.ready { token := 1, accepts := [.accepted (.opened false 10)] }] 11 true]
        [.ready { token := 4, events := { epollin := true }, now := 2000000 },
          .ready { token := 2, signal := .other }] = .ok (stopping, p) ∧
      ∃ entry ∈ (p.shutDown 5000010).closed, ∃ detail,
        (Json.parse (entry.logCall (fun _ => "Connection refused") 1).line).bind
            (Json.member? "detail") = some (.string detail) ∧
          (parseDetail readDecimal detail).lookup "client_read" = some (.int 3) ∧
          (parseDetail readDecimal detail).lookup "reason" = some (.str "proxy_shutdown") := by
  have hcheck : returns (Runtime.runTo (fun _ => .script fun _ => [1, 2, 3])
      { bufferBytesPerDirection := 1024, lowWaterBytes := 512, highWaterBytes := 1024 }
      [.batch [.ready { token := 1, accepts := [.accepted (.opened false 10)] }] 11 true]
      [.ready { token := 4, events := { epollin := true }, now := 2000000 },
        .ready { token := 2, signal := .other }])
      (fun state => (state.2.shutDown 5000010).closed.any fun entry =>
        decide (entry.reason = .proxyShutdown) &&
          decide ((entry.session.trace.received .client).length = 3)) = true := by
    decide +kernel
  have hint : ∀ n : ℤ, readDecimal (toString n).toList = some n := by
    intro n
    have hparse := Json.parse_render (.int n) (List.forall_mem_nil fun c => Json.isBlank c = true)
    rw [Json.render_int, List.append_nil] at hparse
    rw [readDecimal, hparse]
    rfl
  obtain ⟨stopping, p, hrun, hclosed⟩ := closed_lines_read_back (fun _ => "Connection refused")
    (fun _ => by decide) readDecimal hint (fun _ => .script fun _ => [1, 2, 3])
    { bufferBytesPerDirection := 1024, lowWaterBytes := 512, highWaterBytes := 1024 }
    (by decide +kernel)
    [.batch [.ready { token := 1, accepts := [.accepted (.opened false 10)] }] 11 true]
    [.ready { token := 4, events := { epollin := true }, now := 2000000 },
      .ready { token := 2, signal := .other }] (by decide)
  rw [hrun] at hcheck
  simp only [returns, List.any_eq_true, Bool.and_eq_true, decide_eq_true_eq] at hcheck
  obtain ⟨entry, hentry, hreason, hreceived⟩ := hcheck
  obtain ⟨accepted, -, hall⟩ := hclosed 5000010 (by decide) _ (.inr rfl) entry hentry
  obtain ⟨detail, hdetail, hfigures, hreasonRead⟩ := hall 1
  refine ⟨stopping, p, hrun, entry, hentry, detail, hdetail, ?_, ?_⟩
  · apply hfigures ("client_read", 3)
    rw [Trace.closeFigures, hreceived]
    simp
  · rw [hreasonRead (by rw [hreason]; decide), hreason]
    decide

end NetFault
