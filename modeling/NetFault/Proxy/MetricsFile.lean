import NetFault.Logger
import NetFault.Proxy.Model

/-!
# The metrics export

`write_metrics_file` writes a document about the runtime to a sibling temporary file and renames it
over the target.  What the system calls answer is part of the input; `writeDocument` is the loop
around `write`, on the answers that are still to come.

The loop has written exactly the first bytes of the document, up to its offset, whatever the
answers were (`writeDocument_spec`).  So the file that is renamed is the complete document, and on
each of the three ways out before that the target is not touched (`writeMetricsFile_atomic`).
-/

namespace NetFault

/-! ## The document -/

/-- A number in a JSON object that has a field before it. -/
def metricsField (name : String) (value : UInt64) : List Char :=
  ",\"".toList ++ name.toList ++ "\":".toList ++ (toString value.toNat).toList

/-- The fields of one direction, with the microseconds of its durations. -/
def Direction.metricsFields (label : String) (now : ℤ) (direction : Direction) :
    List (String × UInt64) :=
  let tracker := direction.backpressure
  [(label ++ "_queue_bytes", UInt64.ofNat direction.queue.size),
    (label ++ "_high_water", UInt64.ofNat direction.queue.highWaterMark),
    (label ++ "_pause_count", tracker.pauseCount),
    (label ++ "_resume_count", tracker.resumeCount),
    (label ++ "_saturation_count", tracker.saturationCount),
    (label ++ "_paused_us", UInt64.ofInt ((tracker.pausedDuration now).tdiv 1000)),
    (label ++ "_delayed_segments", (direction.fault.map FaultChannel.delayedSegments).getD 0),
    (label ++ "_delay_budget_us", (direction.fault.map fun channel =>
      UInt64.ofInt (channel.delayBudget.tdiv 1000)).getD 0)]

/-- The numbers of `metrics_json`, in order. -/
def Relay.metricsFields (now : ℤ) (r : Relay) : List (String × UInt64) :=
  [("duration_ms", UInt64.ofInt ((now - r.acceptedAt).tdiv 1000000)),
    ("client_bytes_read", r.metrics.bytesRead .client),
    ("upstream_bytes_read", r.metrics.bytesRead .upstream),
    ("client_bytes_written", r.metrics.bytesWritten .client),
    ("upstream_bytes_written", r.metrics.bytesWritten .upstream),
    ("read_operations", r.metrics.readOperations),
    ("write_operations", r.metrics.writeOperations),
    ("partial_writes", r.metrics.partialWrites),
    ("eagain_events", r.metrics.eagainEvents),
    ("faults_applied", if r.faultsActive then 1 else 0)] ++
  (r.directionFrom .client).metricsFields "c2u" now ++
  (r.directionFrom .upstream).metricsFields "u2c" now

/-- `Relay::metrics_json`. -/
def Relay.metricsJson (now : ℤ) (r : Relay) : List Char :=
  "\x7b\"state\":\"".toList ++ (stateName r.state).toList ++ "\"".toList ++
    (r.metricsFields now).flatMap (fun field => metricsField field.1 field.2) ++ "\x7d".toList

/-- The object of one connection: the id is put in front of the fields of its relay. -/
def connectionJson (now : ℤ) (id : ℕ) (c : Connection) : List Char :=
  "\x7b\"id\":".toList ++ (toString id).toList ++ ",".toList ++
    (c.session.relay.metricsJson now).drop 1

/-- The loop over the connections.  The flag says that no object was written yet. -/
def connectionsJson (now : ℤ) : Bool → List (Σ _ : ℕ, Connection) → List Char
  | _, [] => []
  | first, ⟨id, c⟩ :: entries =>
      (if !first then ",".toList else []) ++ connectionJson now id c ++
        connectionsJson now false entries

/-- `build_metrics_json`, with the two clock readings and the logger's counter. -/
def Runtime.buildMetricsJson (wallMs now : ℤ) (droppedEvents : UInt64) (p : Runtime) :
    List Char :=
  "\x7b\"timestamp_ms\":".toList ++ (toString wallMs).toList ++
    ",\"listen\":\"".toList ++ p.config.listen.toString.toList ++ "\"".toList ++
    ",\"upstream\":\"".toList ++ p.config.upstream.toString.toList ++ "\"".toList ++
    ",\"active_connections\":".toList ++ (toString p.connections.keys.length).toList ++
    ",\"total_accepted\":".toList ++ (toString (p.nextConnectionId - 1)).toList ++
    ",\"pending_timers\":".toList ++ (toString p.timerQueue.heap.length).toList ++
    ",\"dropped_log_events\":".toList ++ (toString droppedEvents.toNat).toList ++
    ",\"closes\":\x7b\"fully_closed\":".toList ++ (toString p.closesFullyClosed.toNat).toList ++
    ",\"reset\":".toList ++ (toString p.closesReset.toNat).toList ++
    ",\"failed\":".toList ++ (toString p.closesFailed.toNat).toList ++
    ",\"timed_out\":".toList ++ (toString p.closesTimedOut.toNat).toList ++
    "\x7d,\"connections\":[".toList ++ connectionsJson now true p.connections.entries ++
    "]\x7d".toList

/-! ## The export -/

/-- The contents of the target and of its sibling, if they exist. -/
structure MetricsFiles where
  target : Option (List Char)
  temporary : Option (List Char)
  deriving DecidableEq, Repr

/-- What `open` or `rename` answers. -/
inductive FileAnswer
  | failed (errno : ℤ)
  | done
  deriving DecidableEq, Repr

/-- How `write_metrics_file` ends. -/
inductive ExportResult
  /-- No file is configured. -/
  | disabled
  | openFailed (errno : ℤ)
  | writeFailed (errno : ℤ)
  | renameFailed (errno : ℤ)
  | written (bytes : ℕ)
  deriving DecidableEq, Repr

/-- Where the loop of `write_metrics_file` ends: with the error that it returns for, if any, the
content of the temporary file, and the answers it has not used. -/
structure WriteLoop where
  error : Option ℤ
  content : List Char
  unused : List WriteAnswer
  deriving DecidableEq, Repr

/-- The loop around `write`, from an offset on, when the temporary file has some content.  Without
another answer it does not end. -/
def writeDocument (json : List Char) (answers : List WriteAnswer) (offset : ℕ)
    (content : List Char) : Option WriteLoop :=
  if offset < json.length then
    match answers with
    | [] => none
    | .failed errno :: answers =>
        if errno = 4 then writeDocument json answers offset content
        else some { error := some errno, content, unused := answers }
    | .wrote room :: answers =>
        let chunk := (json.drop offset).take room
        writeDocument json answers (offset + chunk.length) (content ++ chunk)
  else
    some { error := none, content, unused := answers }

/-- The answers that one export gets. -/
structure ExportAnswers where
  opened : FileAnswer
  writes : List WriteAnswer
  renamed : FileAnswer
  deriving DecidableEq, Repr

/-- A finished export. -/
structure Export where
  result : ExportResult
  files : MetricsFiles
  /-- Note: what was written to the temporary file. -/
  content : List Char
  /-- Note: the answers of `write` that were not used. -/
  unused : List WriteAnswer
  deriving DecidableEq, Repr

/-- `write_metrics_file` from the first system call on.  Opening truncates the temporary file;
renaming replaces the target with it. -/
def exportDocument (json : List Char) (answers : ExportAnswers) (files : MetricsFiles) :
    Option Export :=
  match answers.opened with
  | .failed errno =>
      some { result := .openFailed errno, files, content := [], unused := answers.writes }
  | .done =>
      match writeDocument json answers.writes 0 [] with
      | none => none
      | some { error := some errno, content, unused } =>
          some { result := .writeFailed errno, content, unused
                 files := { files with temporary := some content } }
      | some { error := none, content, unused } =>
          match answers.renamed with
          | .failed errno =>
              some { result := .renameFailed errno, content, unused
                     files := { files with temporary := some content } }
          | .done =>
              some { result := .written json.length, content, unused
                     files := { target := some content, temporary := none } }

/-- The text that is exported. -/
def Runtime.metricsDocument (wallMs now : ℤ) (droppedEvents : UInt64) (p : Runtime) : List Char :=
  p.buildMetricsJson wallMs now droppedEvents ++ "\n".toList

/-- `write_metrics_file`. -/
def Runtime.writeMetricsFile (wallMs now : ℤ) (droppedEvents : UInt64) (answers : ExportAnswers)
    (files : MetricsFiles) (p : Runtime) : Option Export :=
  if p.config.metricsFile = "" then
    some { result := .disabled, files, content := [], unused := answers.writes }
  else
    exportDocument (p.metricsDocument wallMs now droppedEvents) answers files

/-! ## The loop -/

section Loop

variable {json : List Char} {answers : List WriteAnswer} {offset : ℕ} {loop : WriteLoop}

/-- No answer but `EINTR` is an error. -/
def Unfailed (answers : List WriteAnswer) : Prop := ∀ errno, .failed errno ∈ answers → errno = 4

/-- One chunk moves the offset to its end. -/
lemma take_append_chunk (json : List Char) (offset room : ℕ) :
    json.take offset ++ (json.drop offset).take room =
      json.take (offset + ((json.drop offset).take room).length) := by
  rw [List.take_add, List.length_take]
  congr 1
  exact List.take_eq_take_min

/-- **What the loop has written** when it ends: the document, or the beginning of it when an
answer was an error.  The induction is on the answers; before each of them the temporary file has
the first `offset` bytes. -/
lemma writeDocument_spec (hrun : writeDocument json answers offset (json.take offset) = some loop) :
    ∃ used, answers = used ++ loop.unused ∧
      (Unfailed used ∧ loop.error = none ∧ loop.content = json ∨
        ¬Unfailed used ∧ (∃ errno, loop.error = some errno) ∧ loop.content <+: json) := by
  induction answers generalizing offset with
  | nil =>
      rw [writeDocument.eq_def] at hrun
      split_ifs at hrun with hoffset
      obtain rfl := Option.some.inj hrun
      refine ⟨[], rfl, .inl ⟨by simp [Unfailed], rfl, List.take_of_length_le (not_lt.mp hoffset)⟩⟩
  | cons answer answers ih =>
      rw [writeDocument.eq_def] at hrun
      split_ifs at hrun with hoffset
      · cases answer with
        | failed errno =>
            simp only at hrun
            split_ifs at hrun with hretry
            · obtain ⟨used, rfl, hused⟩ := ih hrun
              have hiff : Unfailed (.failed errno :: used) ↔ Unfailed used := by
                simp [Unfailed, hretry]
              exact ⟨.failed errno :: used, rfl, by rwa [hiff]⟩
            · obtain rfl := Option.some.inj hrun
              refine ⟨[.failed errno], rfl, .inr ⟨?_, ⟨errno, rfl⟩, List.take_prefix _ _⟩⟩
              exact fun hunfailed => hretry (hunfailed errno (by simp))
        | wrote room =>
            simp only [take_append_chunk] at hrun
            obtain ⟨used, rfl, hused⟩ := ih hrun
            have hiff : Unfailed (.wrote room :: used) ↔ Unfailed used := by
              simp [Unfailed]
            exact ⟨.wrote room :: used, rfl, by rwa [hiff]⟩
      · obtain rfl := Option.some.inj hrun
        exact ⟨[], rfl, .inl ⟨by simp [Unfailed], rfl, List.take_of_length_le (not_lt.mp hoffset)⟩⟩

/-- **The loop ends** once there are as many answers other than `EINTR` as there are bytes left, if
every one of them that is not an error makes progress. -/
lemma writeDocument_returns (content : List Char)
    (hprogress : ∀ room, .wrote room ∈ answers → 1 ≤ room)
    (henough : json.length - offset ≤ (finals answers).length) :
    ∃ loop, writeDocument json answers offset content = some loop := by
  induction answers generalizing offset content with
  | nil =>
      rw [writeDocument.eq_def, if_neg (by simpa [finals, Nat.sub_eq_zero_iff_le] using henough)]
      exact ⟨_, rfl⟩
  | cons answer answers ih =>
      rw [writeDocument.eq_def]
      split_ifs with hoffset
      swap
      · exact ⟨_, rfl⟩
      have hlater : ∀ room, .wrote room ∈ answers → 1 ≤ room :=
        fun room hmem => hprogress room (List.mem_cons_of_mem _ hmem)
      cases answer with
      | failed errno =>
          simp only
          split_ifs with hretry
          · subst hretry
            exact ih content hlater henough
          · exact ⟨_, rfl⟩
      | wrote room =>
          have hroom := hprogress room (List.mem_cons_self ..)
          have hfinals : finals (.wrote room :: answers) = .wrote room :: finals answers := rfl
          rw [hfinals, List.length_cons] at henough
          apply ih _ hlater
          rw [List.length_take, List.length_drop]
          omega

end Loop

/-! ## All or nothing -/

/-- The calls of the export all succeed: the temporary file is opened, no `write` that was made has
failed, and the file is renamed. -/
def ExportAnswers.Succeed (answers : ExportAnswers) (used : List WriteAnswer) : Prop :=
  answers.opened = .done ∧ Unfailed used ∧ answers.renamed = .done

section Export

variable {json : List Char} {answers : ExportAnswers} {files : MetricsFiles} {done : Export}

lemma exportDocument_returns (files : MetricsFiles)
    (hprogress : ∀ room, .wrote room ∈ answers.writes → 1 ≤ room)
    (henough : json.length ≤ (finals answers.writes).length) :
    ∃ done, exportDocument json answers files = some done := by
  obtain ⟨loop, hloop⟩ := writeDocument_returns [] hprogress
    (show json.length - 0 ≤ (finals answers.writes).length from henough)
  unfold exportDocument
  cases answers.opened with
  | failed errno => exact ⟨_, rfl⟩
  | done =>
      obtain ⟨error, content, unused⟩ := loop
      simp only [hloop]
      cases error with
      | some errno => exact ⟨_, rfl⟩
      | none => cases answers.renamed <;> exact ⟨_, rfl⟩

/-- **What each way out leaves.** -/
lemma exportDocument_cases (h : exportDocument json answers files = some done) :
    ∃ used, answers.writes = used ++ done.unused ∧ done.content <+: json ∧
      (answers.opened = .done → Unfailed used → done.content = json) ∧
      (answers.Succeed used → done.files.target = some json) ∧
      (¬answers.Succeed used → done.files.target = files.target) := by
  unfold exportDocument at h
  cases hopened : answers.opened with
  | failed errno =>
      rw [hopened] at h
      obtain rfl := Option.some.inj h
      refine ⟨[], rfl, List.nil_prefix, ?_, ?_, fun _ => rfl⟩
      · rintro ⟨⟩
      · rintro ⟨hdone, -, -⟩
        rw [hopened] at hdone
        cases hdone
  | done =>
      rw [hopened] at h
      rcases hloop : writeDocument json answers.writes 0 [] with _ | ⟨error, content, unused⟩
      · simp only [hloop] at h
        cases h
      have hloop' : writeDocument json answers.writes 0 (json.take 0) =
          some ⟨error, content, unused⟩ := hloop
      obtain ⟨used, hused, hwritten⟩ := writeDocument_spec hloop'
      simp only [hloop] at h
      rcases hwritten with ⟨hunfailed, rfl, rfl⟩ | ⟨hfailed, ⟨errno, rfl⟩, hcontent⟩
      · cases hrenamed : answers.renamed with
        | failed errno =>
            rw [hrenamed] at h
            obtain rfl := Option.some.inj h
            refine ⟨used, hused, List.prefix_rfl, fun _ _ => rfl, ?_, fun _ => rfl⟩
            rintro ⟨-, -, hdone⟩
            rw [hrenamed] at hdone
            cases hdone
        | done =>
            rw [hrenamed] at h
            obtain rfl := Option.some.inj h
            exact ⟨used, hused, List.prefix_rfl, fun _ _ => rfl, fun _ => rfl,
              fun hfails => absurd ⟨hopened, hunfailed, hrenamed⟩ hfails⟩
      · obtain rfl := Option.some.inj h
        exact ⟨used, hused, hcontent, fun _ hunfailed => absurd hunfailed hfailed,
          fun hsucceed => absurd hsucceed.2.1 hfailed, fun _ => rfl⟩

end Export

/-- **The export is all or nothing.**  For every state of the runtime, every content of the two
files and every sequence of answers: `write_metrics_file` returns as soon as there are enough
answers of `write` other than `EINTR`, when those that are not errors make progress.  When it
returns, it has written a beginning of the document to the temporary file, byte by byte and in
order, and all of it if no `write` has failed.  The target is the complete document if the export is
enabled and its calls have succeeded, and otherwise what it was before. -/
theorem writeMetricsFile_atomic (p : Runtime) (wallMs now : ℤ) (droppedEvents : UInt64)
    (answers : ExportAnswers) (files : MetricsFiles) :
    ((∀ room, .wrote room ∈ answers.writes → 1 ≤ room) →
        (p.metricsDocument wallMs now droppedEvents).length ≤ (finals answers.writes).length →
        ∃ done, p.writeMetricsFile wallMs now droppedEvents answers files = some done) ∧
      ∀ done, p.writeMetricsFile wallMs now droppedEvents answers files = some done →
        ∃ used, answers.writes = used ++ done.unused ∧
          done.content <+: p.metricsDocument wallMs now droppedEvents ∧
          (p.config.metricsFile ≠ "" → answers.opened = .done → Unfailed used →
            done.content = p.metricsDocument wallMs now droppedEvents) ∧
          (p.config.metricsFile ≠ "" ∧ answers.Succeed used →
            done.files.target = some (p.metricsDocument wallMs now droppedEvents)) ∧
          (¬(p.config.metricsFile ≠ "" ∧ answers.Succeed used) →
            done.files.target = files.target) := by
  unfold Runtime.writeMetricsFile
  by_cases hdisabled : p.config.metricsFile = ""
  · rw [if_pos hdisabled]
    refine ⟨fun _ _ => ⟨_, rfl⟩, ?_⟩
    rintro done ⟨⟩
    exact ⟨[], rfl, List.nil_prefix, fun henabled => absurd hdisabled henabled,
      fun hsucceed => absurd hdisabled hsucceed.1, fun _ => rfl⟩
  · rw [if_neg hdisabled]
    refine ⟨exportDocument_returns files, fun done hdone => ?_⟩
    obtain ⟨used, hused, hcontent, hall, hsucceed, hfail⟩ := exportDocument_cases hdone
    exact ⟨used, hused, hcontent, fun _ => hall, fun h => hsucceed h.2,
      fun h => hfail fun hanswers => h ⟨hdisabled, hanswers⟩⟩

/-- A runtime without connections that exports its metrics, one byte at a time, over an old document
and with the rest of a failed export in the way. -/
theorem writeMetricsFile_atomic_bytewise :
    ∃ done, Runtime.writeMetricsFile 1 2 0 ⟨.done, List.replicate 300 (.wrote 1), .done⟩
        ⟨some "old".toList, some "stale".toList⟩ { config := { metricsFile := "metrics.json" } } =
        some done ∧
      done.files.target =
        some (Runtime.metricsDocument 1 2 0 { config := { metricsFile := "metrics.json" } }) := by
  obtain ⟨hreturns, hatomic⟩ := writeMetricsFile_atomic
    { config := { metricsFile := "metrics.json" } } 1 2 0
    ⟨.done, List.replicate 300 (.wrote 1), .done⟩ ⟨some "old".toList, some "stale".toList⟩
  have hprogress : ∀ room, .wrote room ∈ List.replicate 300 (WriteAnswer.wrote 1) → 1 ≤ room := by
    intro room hmem
    cases List.eq_of_mem_replicate hmem
    exact le_rfl
  obtain ⟨done, hdone⟩ := hreturns hprogress (by decide +kernel)
  obtain ⟨used, hused, -, -, hsucceed, -⟩ := hatomic done hdone
  refine ⟨done, hdone, hsucceed ⟨by decide, rfl, fun errno hmem => ?_, rfl⟩⟩
  have hwrites : WriteAnswer.failed errno ∈ List.replicate 300 (WriteAnswer.wrote 1) := by
    rw [show List.replicate 300 (WriteAnswer.wrote 1) = used ++ done.unused from hused]
    exact List.mem_append_left _ hmem
  cases List.eq_of_mem_replicate hwrites

end NetFault
