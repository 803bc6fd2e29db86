import NetFault.Basic
import NetFault.Lib.Lines
import Mathlib.Data.List.Pairwise

/-!
# The event log

`Logger::event` writes one JSON line to the standard output, which does not block, and counts the
event as dropped unless the whole line was taken.  What `write` answers is part of the input: a
sequence of answers, of which each call uses those up to the first that is not `EINTR`.

A line that is taken in part stays in the stream as a fragment without its newline.  The event is
counted, but the next line that is taken completely is appended to the fragment, so that an event
which is not counted is lost as well.  `Logger.accounts_iff` says when this happens: the account is
right as long as no complete line follows a fragment.
-/

namespace NetFault

/-! ## The line of an event -/

/-- What `escape_json` puts for one character; other control characters are left out. -/
def escapeChar (character : Char) : List Char :=
  match character with
  | '\x5c' => ['\x5c', '\x5c']
  | '\x22' => ['\x5c', '\x22']
  | '\n' => ['\x5c', 'n']
  | '\r' => ['\x5c', 'r']
  | '\t' => ['\x5c', 't']
  | character => if character.toNat ≥ 0x20 then [character] else []

def escapeJson (value : String) : List Char := value.toList.flatMap escapeChar

/-- A call of `Logger::event`, with the clock reading made in it. -/
structure LogCall where
  timestampMs : ℤ
  eventName : String
  connectionId : UInt64
  state : String
  detail : String := ""
  deriving DecidableEq, Repr

/-- The line of an event, from `timestamp_ms` to the newline. -/
def LogCall.line (call : LogCall) : List Char :=
  let line := "\x7b\"timestamp_ms\":".toList ++ (toString call.timestampMs).toList ++
    ",\"event\":\"".toList ++ escapeJson call.eventName ++ "\",\"connection_id\":".toList ++
    (toString call.connectionId.toNat).toList ++ ",\"state\":\"".toList ++
    escapeJson call.state ++ "\"".toList
  let line := if call.detail ≠ "" then
    line ++ ",\"detail\":\"".toList ++ escapeJson call.detail ++ "\"".toList else line
  line ++ "\x7d\n".toList

/-- The line without its newline. -/
def LogCall.text (call : LogCall) : List Char := call.line.dropLast

/-! ## Writing -/

/-- What `write` answers: an error, or how much the consumer of the stream has room for. -/
inductive WriteAnswer
  | failed (errno : ℤ)
  | wrote (room : ℕ)
  deriving DecidableEq, Repr

/-- The loop around `write`, which repeats the call after `EINTR`: its result, the stream and the
answers that are left.  Without another answer the call does not return. -/
def writeLine (line : List Char) :
    List WriteAnswer → List Char → Option (ℤ × List Char × List WriteAnswer)
  | [], _ => none
  | .failed errno :: answers, stdout =>
      if errno = 4 then writeLine line answers stdout else some (-1, stdout, answers)
  | .wrote room :: answers, stdout =>
      some (min room line.length, stdout ++ line.take room, answers)

/-- `Logger`, with the stream it writes to. -/
structure Logger where
  droppedEvents : UInt64 := 0
  stdout : List Char := []
  /-- Note: the events that were not counted as dropped. -/
  uncounted : List LogCall := []
  deriving DecidableEq, Repr

namespace Logger

/-- `Logger::event`. -/
def event (call : LogCall) (answers : List WriteAnswer) (logger : Logger) :
    Option (Logger × List WriteAnswer) :=
  let line := call.line
  match writeLine line answers logger.stdout with
  | none => none
  | some (result, stdout, answers) =>
      if result < 0 ∨ result ≠ line.length then
        some ({ logger with stdout, droppedEvents := logger.droppedEvents + 1 }, answers)
      else
        some ({ logger with stdout, uncounted := logger.uncounted ++ [call] }, answers)

/-- Any number of events, one after the other. -/
def events : List LogCall → List WriteAnswer → Logger → Option Logger
  | [], _, logger => some logger
  | call :: calls, answers, logger =>
      match logger.event call answers with
      | none => none
      | some (logger, answers) => events calls answers logger

/-- The complete lines of the stream that are lines of the events. -/
def intact (calls : List LogCall) (logger : Logger) : List (List Char) :=
  (Lines.complete '\n' logger.stdout).filter fun line => line ∈ calls.map LogCall.text

/-- The account of the events is right: the complete lines of the stream are those of the events
that were not counted, in order, and the events that were counted are all the others. -/
structure Accounts (calls : List LogCall) (logger : Logger) : Prop where
  lines : Lines.complete '\n' logger.stdout = logger.uncounted.map LogCall.text
  count : UInt64.ofNat calls.length =
    UInt64.ofNat (logger.intact calls).length + logger.droppedEvents

end Logger

/-! ## Lines -/

lemma not_newline_mem_escapeChar (character : Char) : '\n' ∉ escapeChar character := by
  unfold escapeChar
  split
  · decide
  · decide
  · decide
  · decide
  · decide
  · split_ifs with hlow
    · rw [List.mem_singleton]
      rintro rfl
      exact absurd hlow (by decide)
    · exact List.not_mem_nil

lemma not_newline_mem_escapeJson (value : String) : '\n' ∉ escapeJson value := by
  intro hmem
  obtain ⟨character, -, hchar⟩ := List.mem_flatMap.mp hmem
  exact not_newline_mem_escapeChar character hchar

lemma not_newline_mem_natRepr (n : ℕ) : '\n' ∉ (toString n).toList := by
  intro hmem
  have hdigits : '\n' ∈ Nat.toDigits 10 n := by simpa using hmem
  exact absurd (Nat.isDigit_of_mem_toDigits (by decide) (by decide) hdigits) (by decide)

lemma not_newline_mem_intRepr (n : ℤ) : '\n' ∉ (toString n).toList := by
  cases n with
  | ofNat n => exact not_newline_mem_natRepr n
  | negSucc n =>
      have hdigits := not_newline_mem_natRepr (n + 1)
      show '\n' ∉ ("-" ++ Nat.repr (n + 1)).toList
      rw [String.toList_append, List.mem_append]
      rintro (hsign | hmem)
      · exact absurd hsign (by decide)
      · exact hdigits hmem

/-- **A line has one newline**, at its end. -/
lemma LogCall.line_eq (call : LogCall) : call.line = call.text ++ ['\n'] ∧ '\n' ∉ call.text := by
  obtain ⟨front, hline, hfront⟩ : ∃ front, call.line = front ++ ['\n'] ∧ '\n' ∉ front := by
    have htimestamp : '\n' ∉ call.timestampMs.repr.toList := not_newline_mem_intRepr _
    have hevent := not_newline_mem_escapeJson call.eventName
    have hid : '\n' ∉ Nat.toDigits 10 call.connectionId.toNat := by
      simpa using not_newline_mem_natRepr call.connectionId.toNat
    have hstate := not_newline_mem_escapeJson call.state
    have hdetail := not_newline_mem_escapeJson call.detail
    have hend : "\x7d\n".toList = "\x7d".toList ++ ['\n'] := by decide
    simp only [LogCall.line, hend]
    refine ⟨_, (List.append_assoc ..).symm, ?_⟩
    split_ifs <;> simp [htimestamp, hevent, hid, hstate, hdetail]
  have htext : call.text = front := by
    rw [LogCall.text, hline, List.dropLast_concat]
  rw [htext]
  exact ⟨hline, hfront⟩

/-! ## What a sequence of answers does -/

/-- The answers that end a call: those that are not `EINTR`. -/
def finals (answers : List WriteAnswer) : List WriteAnswer :=
  answers.filter (· ≠ .failed 4)

/-- How much of the line of an event is taken, when this is the answer that ends the call. -/
def accepted (delivery : LogCall × WriteAnswer) : ℕ :=
  match delivery.2 with
  | .failed _ => 0
  | .wrote room => min room delivery.1.line.length

/-- The whole line is taken. -/
def Taken (delivery : LogCall × WriteAnswer) : Prop :=
  accepted delivery = delivery.1.line.length

/-- A part of the line is taken. -/
def TakenInPart (delivery : LogCall × WriteAnswer) : Prop :=
  0 < accepted delivery ∧ accepted delivery < delivery.1.line.length

instance (delivery : LogCall × WriteAnswer) : Decidable (Taken delivery) :=
  inferInstanceAs (Decidable (_ = _))

instance (delivery : LogCall × WriteAnswer) : Decidable (TakenInPart delivery) :=
  inferInstanceAs (Decidable (_ ∧ _))

namespace Logger

variable {calls : List LogCall} {answers later : List WriteAnswer} {logger : Logger}

/-- The logger after a call. -/
def settle (logger : Logger) (delivery : LogCall × WriteAnswer) : Logger :=
  { stdout := logger.stdout ++ delivery.1.line.take (accepted delivery)
    droppedEvents := logger.droppedEvents + if Taken delivery then 0 else 1
    uncounted := logger.uncounted ++ if Taken delivery then [delivery.1] else [] }

lemma line_length_pos (call : LogCall) : 0 < call.line.length := by
  rw [call.line_eq.1, List.length_append]
  exact Nat.succ_pos _

/-- **One call of `event`** uses the answers up to the first that ends it. -/
lemma event_eq (logger : Logger) (call : LogCall) {answer : WriteAnswer}
    (h : finals answers = answer :: later) :
    ∃ rest, logger.event call answers = some (logger.settle (call, answer), rest) ∧
      finals rest = later := by
  induction answers with
  | nil => cases h
  | cons first rest ih =>
      by_cases hretry : first = .failed 4
      · subst hretry
        exact ih h
      · have hcons : finals (first :: rest) = first :: finals rest :=
          List.filter_cons_of_pos (by simpa using hretry)
        rw [hcons] at h
        obtain ⟨rfl, rfl⟩ := List.cons.inj h
        refine ⟨rest, ?_, rfl⟩
        have hpos := line_length_pos call
        cases first with
        | failed errno =>
            have herrno : errno ≠ 4 := fun heq => hretry (by rw [heq])
            have hnot : ¬Taken (call, .failed errno) := by
              simp only [Taken, accepted]
              omega
            simp [event, writeLine, herrno, settle, hnot, accepted]
        | wrote room =>
            by_cases hroom : call.line.length ≤ room
            · have haccepted : accepted (call, .wrote room) = call.line.length :=
                min_eq_right hroom
              have hresult : min (room : ℤ) call.line.length = call.line.length := by omega
              simp [event, writeLine, settle, Taken, haccepted, hresult,
                List.take_of_length_le hroom]
            · have haccepted : accepted (call, .wrote room) = room := by
                simp only [accepted]
                omega
              have hnot : room ≠ call.line.length := by omega
              have hresult : min (room : ℤ) call.line.length = room := by omega
              simp [event, writeLine, settle, Taken, haccepted, hresult, hnot]

/-- **The events of a sequence of calls**, when every call is ended by some answer. -/
lemma events_eq (henough : calls.length ≤ (finals answers).length) :
    events calls answers logger = some ((calls.zip (finals answers)).foldl settle logger) := by
  induction calls generalizing answers logger with
  | nil => rfl
  | cons call calls ih =>
      rcases hfinals : finals answers with _ | ⟨answer, later⟩
      · rw [hfinals] at henough
        exact absurd henough (by simp)
      · obtain ⟨rest, hevent, rfl⟩ := event_eq logger call hfinals
        rw [hfinals] at henough
        rw [events, hevent]
        exact ih (by simpa using henough)

/-! ## The stream -/

/-- The lines that the answers complete, in a stream that ends with `fragment`: each line that is
taken is appended to what was taken in part since the last one. -/
def completed : List Char → List (LogCall × WriteAnswer) → List (List Char)
  | _, [] => []
  | fragment, delivery :: deliveries =>
      if Taken delivery then (fragment ++ delivery.1.text) :: completed [] deliveries
      else completed (fragment ++ delivery.1.line.take (accepted delivery)) deliveries

lemma accepted_le (delivery : LogCall × WriteAnswer) :
    accepted delivery ≤ delivery.1.line.length := by
  unfold accepted
  split
  · exact Nat.zero_le _
  · exact min_le_right _ _

/-- A line that is taken completes one line of the stream, and one that is not completes none. -/
lemma settle_stdout (logger : Logger) (delivery : LogCall × WriteAnswer) :
    if Taken delivery then
      Lines.complete '\n' (logger.settle delivery).stdout = Lines.complete '\n' logger.stdout ++
          [Lines.pending '\n' logger.stdout ++ delivery.1.text] ∧
        Lines.pending '\n' (logger.settle delivery).stdout = []
    else
      Lines.complete '\n' (logger.settle delivery).stdout = Lines.complete '\n' logger.stdout ∧
        Lines.pending '\n' (logger.settle delivery).stdout =
          Lines.pending '\n' logger.stdout ++ delivery.1.line.take (accepted delivery) := by
  obtain ⟨hline, hnewline⟩ := delivery.1.line_eq
  split_ifs with htaken
  · have hall : delivery.1.line.take (accepted delivery) = delivery.1.text ++ ['\n'] := by
      rw [show accepted delivery = _ from htaken, List.take_length, hline]
    simp only [settle, hall]
    exact Lines.append_line hnewline _
  · have hle := accepted_le delivery
    have hlt : accepted delivery ≤ delivery.1.text.length := by
      have hne : accepted delivery ≠ delivery.1.line.length := htaken
      have hlength := congrArg List.length hline
      rw [List.length_append, List.length_singleton] at hlength
      omega
    have hpart : '\n' ∉ delivery.1.line.take (accepted delivery) := by
      rw [hline, List.take_append_of_le_length hlt]
      exact fun hmem => hnewline (List.mem_of_mem_take hmem)
    exact Lines.append_text hpart _

/-- **The stream and the notes after a sequence of calls.** -/
lemma foldl_settle (deliveries : List (LogCall × WriteAnswer)) (logger : Logger) :
    Lines.complete '\n' (deliveries.foldl settle logger).stdout =
        Lines.complete '\n' logger.stdout ++
          completed (Lines.pending '\n' logger.stdout) deliveries ∧
      (deliveries.foldl settle logger).uncounted =
        logger.uncounted ++ (deliveries.filter (Taken ·)).map Prod.fst ∧
      (deliveries.foldl settle logger).droppedEvents =
        logger.droppedEvents + UInt64.ofNat (deliveries.countP (¬Taken ·)) := by
  induction deliveries generalizing logger with
  | nil => simp [completed]
  | cons delivery deliveries ih =>
      obtain ⟨hlines, huncounted, hdropped⟩ := ih (logger.settle delivery)
      have hstdout := settle_stdout logger delivery
      rw [List.foldl_cons, hlines, huncounted, hdropped]
      by_cases htaken : Taken delivery
      · rw [if_pos htaken] at hstdout
        rw [hstdout.1, hstdout.2]
        simp [completed, settle, htaken]
      · rw [if_neg htaken] at hstdout
        rw [hstdout.1, hstdout.2]
        refine ⟨by simp [completed, htaken], by simp [settle, htaken], ?_⟩
        simp [settle, htaken, UInt64.add_assoc, UInt64.add_comm]

/-- **The completed lines are those of the events** if and only if no line is taken after a
fragment: after the one at the end of the stream, or after one that a line leaves which is taken in
part. -/
lemma completed_eq_iff (fragment : List Char) (deliveries : List (LogCall × WriteAnswer)) :
    completed fragment deliveries =
        ((deliveries.filter (Taken ·)).map Prod.fst).map LogCall.text ↔
      (fragment ≠ [] → ∀ delivery ∈ deliveries, ¬Taken delivery) ∧
        deliveries.Pairwise fun earlier later => TakenInPart earlier → ¬Taken later := by
  induction deliveries generalizing fragment with
  | nil => simp [completed]
  | cons delivery deliveries ih =>
      by_cases htaken : Taken delivery
      · have hwhole : ¬TakenInPart delivery := fun hpart => hpart.2.ne htaken
        rw [completed, if_pos htaken, List.filter_cons_of_pos (by simpa using htaken)]
        simp only [List.map_cons, List.cons.injEq, List.append_left_eq_self, ih]
        simp [htaken, hwhole, List.pairwise_cons]
      · rw [completed, if_neg htaken, List.filter_cons_of_neg (by simpa using htaken), ih,
          List.pairwise_cons, List.forall_mem_cons]
        by_cases hpart : TakenInPart delivery
        · -- a new fragment
          have hne : fragment ++ delivery.1.line.take (accepted delivery) ≠ [] := by
            have hpos := hpart.1
            have hlt := hpart.2
            rw [← List.length_pos_iff, List.length_append, List.length_take]
            omega
          simp only [hne, ne_eq, not_false_eq_true, true_implies, htaken, hpart, true_and]
          tauto
        · -- nothing is taken
          have hzero : accepted delivery = 0 := by
            have hle := accepted_le delivery
            unfold Taken at htaken
            unfold TakenInPart at hpart
            omega
          simp [hzero, htaken, hpart]

/-- If the complete lines are those of the events that were taken, then all of them are intact, and
the others were counted. -/
lemma count_of_lines {deliveries : List (LogCall × WriteAnswer)}
    (hlines : Lines.complete '\n' logger.stdout =
      ((deliveries.filter (Taken ·)).map Prod.fst).map LogCall.text)
    (hdropped : logger.droppedEvents = UInt64.ofNat (deliveries.countP (¬Taken ·))) :
    UInt64.ofNat (deliveries.map Prod.fst).length =
      UInt64.ofNat (logger.intact (deliveries.map Prod.fst)).length + logger.droppedEvents := by
  have hmem : ∀ line ∈ Lines.complete '\n' logger.stdout,
      line ∈ (deliveries.map Prod.fst).map LogCall.text := by
    intro line hline
    rw [hlines] at hline
    obtain ⟨call, hcall, rfl⟩ := List.mem_map.mp hline
    obtain ⟨delivery, hdelivery, rfl⟩ := List.mem_map.mp hcall
    exact List.mem_map_of_mem (List.mem_map_of_mem (List.mem_of_mem_filter hdelivery))
  have hintact : (logger.intact (deliveries.map Prod.fst)).length =
      deliveries.countP (Taken ·) := by
    rw [intact, List.filter_eq_self.mpr (by simpa only [decide_eq_true_eq] using hmem), hlines,
      List.length_map, List.length_map, List.countP_eq_length_filter]
  rw [hintact, hdropped, ← UInt64.ofNat_add, List.length_map,
    List.length_eq_countP_add_countP (Taken ·)]
  simp only [decide_eq_true_eq]

/-- **When the log is accounted for.**  For every sequence of calls and every sequence of answers
that ends them, the complete lines of the stream are those of the events that were not counted, and
the counter accounts for all the others, if and only if no line is taken completely after a line of
which only a part was taken. -/
theorem accounts_iff (calls : List LogCall) (answers : List WriteAnswer)
    (henough : calls.length ≤ (finals answers).length) :
    ∃ logger, events calls answers {} = some logger ∧
      (logger.Accounts calls ↔
        (calls.zip (finals answers)).Pairwise fun earlier later =>
          TakenInPart earlier → ¬Taken later) := by
  refine ⟨_, events_eq henough, ?_⟩
  have hcalls : (calls.zip (finals answers)).map Prod.fst = calls := List.map_fst_zip henough
  generalize calls.zip (finals answers) = deliveries at hcalls ⊢
  subst hcalls
  obtain ⟨hlines, huncounted, hdropped⟩ := foldl_settle deliveries {}
  rw [Lines.complete_nil, Lines.pending_nil, List.nil_append] at hlines
  rw [List.nil_append] at huncounted
  rw [UInt64.zero_add] at hdropped
  have hiff := completed_eq_iff [] deliveries
  simp only [ne_eq, not_true_eq_false, false_implies, true_and] at hiff
  constructor
  · intro haccounts
    rw [← hiff, ← hlines, haccounts.lines, huncounted]
  · intro hpairwise
    have hcomplete := hlines.trans (hiff.mpr hpairwise)
    exact ⟨by rw [hcomplete, huncounted], count_of_lines hcomplete hdropped⟩

/-- Three events of a run. -/
def sampleCalls : List LogCall :=
  [{ timestampMs := 1, eventName := "proxy_started", connectionId := 0, state := "listening" },
    { timestampMs := 2, eventName := "connection_accepted", connectionId := 1, state := "active" },
    { timestampMs := 3, eventName := "proxy_stopped", connectionId := 0, state := "fully_closed"
      detail := "dropped_log_events=1" }]

/-- The first event is written after an interrupted call, the second one is lost because the
consumer is stalled, and the third one is written. -/
theorem accounts_of_eagain :
    ∃ logger, events sampleCalls [.failed 4, .wrote 4096, .failed 11, .wrote 4096] {} =
      some logger ∧ logger.Accounts sampleCalls := by
  obtain ⟨logger, hevents, haccounts⟩ := accounts_iff sampleCalls
    [.failed 4, .wrote 4096, .failed 11, .wrote 4096] (by decide)
  exact ⟨logger, hevents, haccounts.mpr (by decide +kernel)⟩

/-- The first event is written in part.  It is counted, and it takes the second event with it, which
is not: of the three events one is left in the stream, and one is counted. -/
theorem fragment_spoils_next_line :
    ∃ logger, events sampleCalls [.wrote 20, .wrote 4096, .wrote 4096] {} = some logger ∧
      sampleCalls.length = 3 ∧ (logger.intact sampleCalls).length = 1 ∧
      logger.droppedEvents = 1 ∧ ¬logger.Accounts sampleCalls := by
  have hcheck : (events sampleCalls [.wrote 20, .wrote 4096, .wrote 4096] {}).any (fun logger =>
      decide ((logger.intact sampleCalls).length = 1 ∧ logger.droppedEvents = 1)) = true := by
    decide +kernel
  rw [Option.any_eq_true] at hcheck
  obtain ⟨logger, hevents, htest⟩ := hcheck
  obtain ⟨hintact, hdropped⟩ := of_decide_eq_true htest
  refine ⟨logger, hevents, rfl, hintact, hdropped, fun haccounts => ?_⟩
  have hcount := haccounts.count
  rw [hintact, hdropped] at hcount
  exact absurd hcount (by decide)

end Logger

end NetFault
