import NetFault.Logger
import NetFault.Lib.JsonParser

/-!
# The log as JSON Lines

`escape_json` is an encoder of JSON strings: its output is a sequence of printable characters and of
the five escapes that it knows (`Escaped`), and a decoder gets back the input without the control
characters that have no escape (`kept`).  A character stands for a byte here.

So a line of the log is one JSON text, of the object with the fields that were given to
`Logger::event`, and the only newline in it is the one that ends it.
-/

namespace NetFault

/-! ## Escaped strings -/

/-- `escape_json` does not leave the character out. -/
def keeps (character : Char) : Bool :=
  0x20 ≤ character.toNat ∨ character = '\n' ∨ character = '\r' ∨ character = '\t'

/-- The string that is left of a string. -/
def kept (value : String) : String := String.ofList (value.toList.filter keeps)

/-- The texts that may stand between quotation marks: every character is printable, every backslash
begins an escape of two characters, and every quotation mark ends one. -/
inductive Escaped : List Char → Prop
  | nil : Escaped []
  | plain {character : Char} {text : List Char} (printable : 0x20 ≤ character.toNat)
      (quote : character ≠ '\x22') (backslash : character ≠ '\x5c') (more : Escaped text) :
      Escaped (character :: text)
  | escape {mark : Char} {text : List Char} (known : mark ∈ ['\x5c', '\x22', 'n', 'r', 't'])
      (more : Escaped text) : Escaped ('\x5c' :: mark :: text)

/-- The characters that are kept are escaped as in any JSON string. -/
lemma escapeChar_eq (character : Char) :
    escapeChar character = if keeps character then Json.escape character else [] := by
  unfold escapeChar
  split
  · decide
  · decide
  · decide
  · decide
  · decide
  · next hbackslash hquote hn hr ht =>
      by_cases hprintable : 0x20 ≤ character.toNat
      · have hkeeps : keeps character = true := decide_eq_true (.inl hprintable)
        rw [if_pos hprintable, if_pos hkeeps, Json.escape, if_neg (not_or.mpr ⟨hquote, hbackslash⟩),
          if_neg hn, if_neg hr, if_neg ht, if_pos hprintable]
      · have hdrops : ¬keeps character = true := by
          rw [keeps, decide_eq_true_eq]
          exact not_or.mpr ⟨hprintable, not_or.mpr ⟨hn, not_or.mpr ⟨hr, ht⟩⟩⟩
        rw [if_neg hprintable, if_neg hdrops]

lemma escapeJson_eq (value : String) :
    escapeJson value = (kept value).toList.flatMap Json.escape := by
  rw [escapeJson, kept, String.toList_ofList]
  induction value.toList with
  | nil => rfl
  | cons character text ih =>
      rw [List.flatMap_cons, ih, escapeChar_eq]
      split_ifs with hkeeps
      · rw [List.filter_cons_of_pos hkeeps, List.flatMap_cons]
      · rw [List.filter_cons_of_neg hkeeps, List.nil_append]

/-- One character in front of an escaped text. -/
lemma Escaped.escapeChar_append (character : Char) {text : List Char} (h : Escaped text) :
    Escaped (escapeChar character ++ text) := by
  unfold escapeChar
  split
  · exact .escape (by decide) h
  · exact .escape (by decide) h
  · exact .escape (by decide) h
  · exact .escape (by decide) h
  · exact .escape (by decide) h
  · next hbackslash hquote hn hr ht =>
      split_ifs with hprintable
      · exact .plain hprintable hquote hbackslash h
      · exact h

lemma escaped_escapeJson (value : String) : Escaped (escapeJson value) := by
  unfold escapeJson
  induction value.toList with
  | nil => exact .nil
  | cons character text ih =>
      rw [List.flatMap_cons]
      exact ih.escapeChar_append character

/-- Nothing below the blank is in an escaped text. -/
lemma Escaped.printable {text : List Char} (h : Escaped text) :
    ∀ character ∈ text, 0x20 ≤ character.toNat := by
  induction h with
  | nil => exact fun _ hmem => absurd hmem List.not_mem_nil
  | plain hprintable _ _ _ ih => exact List.forall_mem_cons.mpr ⟨hprintable, ih⟩
  | escape hknown _ ih =>
      refine List.forall_mem_cons.mpr ⟨by decide, List.forall_mem_cons.mpr ⟨?_, ih⟩⟩
      revert hknown
      simp only [List.mem_cons, List.not_mem_nil, or_false]
      rintro (rfl | rfl | rfl | rfl | rfl) <;> decide

lemma unescape_escapeJson (value : String) :
    Json.unescape (escapeJson value) = some (kept value) := by
  rw [escapeJson_eq, Json.unescape_flatMap_escape]

/-! ## Lines -/

/-- The object that a line of the log stands for. -/
def LogCall.object (call : LogCall) : Json :=
  .object ([("timestamp_ms", .int call.timestampMs), ("event", .string (kept call.eventName)),
    ("connection_id", .int call.connectionId.toNat), ("state", .string (kept call.state))] ++
    if call.detail = "" then [] else [("detail", .string (kept call.detail))])

lemma quote_kept (value : String) :
    Json.quote (kept value) = '\x22' :: escapeJson value ++ ['\x22'] := by
  rw [Json.quote, escapeJson_eq]

/-- The line is put together as the text of that object. -/
lemma LogCall.line_eq_render (call : LogCall) : call.line = call.object.render ++ ['\n'] := by
  have htimestamp := Json.quote_of_plain (show Json.Plain "timestamp_ms" by decide)
  have hevent := Json.quote_of_plain (show Json.Plain "event" by decide)
  have hid := Json.quote_of_plain (show Json.Plain "connection_id" by decide)
  have hstate := Json.quote_of_plain (show Json.Plain "state" by decide)
  have hdetail := Json.quote_of_plain (show Json.Plain "detail" by decide)
  have htimestampMs := Json.render_int call.timestampMs
  have hconnectionId := Json.render_natCast call.connectionId.toNat
  unfold LogCall.line LogCall.object
  by_cases hempty : call.detail = ""
  · simp [hempty, Json.render, Json.renderMembers, htimestampMs, hconnectionId, quote_kept,
      htimestamp, hevent, hid, hstate]
  · simp [hempty, Json.render, Json.renderMembers, htimestampMs, hconnectionId, quote_kept,
      htimestamp, hevent, hid, hstate, hdetail]

/-- **`escape_json` encodes JSON strings, and the log is JSON Lines.**  For every string: the
escaped text has no control character, each of its backslashes begins an escape of two characters,
each of its quotation marks ends one, and a decoder reads from it the string without the control
characters other than newline, carriage return and tab.  For every event: its line has one newline,
which is its last character, and is a JSON text of the object with the fields of the event, where
the strings are those that a decoder reads. -/
theorem escapeJson_encodes_lines :
    (∀ value : String,
      (∀ character ∈ escapeJson value, 0x20 ≤ character.toNat) ∧
        Escaped (escapeJson value) ∧
        Json.unescape (escapeJson value) = some (kept value)) ∧
      ∀ call : LogCall,
        (call.line = call.text ++ ['\n'] ∧ '\n' ∉ call.text) ∧
          Json.Text call.line call.object ∧ Json.parse call.line = some call.object := by
  refine ⟨fun value => ?_, fun call => ?_⟩
  · exact ⟨(escaped_escapeJson value).printable, escaped_escapeJson value,
      unescape_escapeJson value⟩
  · have hparse : Json.parse call.line = some call.object := by
      rw [call.line_eq_render]
      exact Json.parse_render call.object (List.forall_mem_singleton.mpr rfl)
    exact ⟨call.line_eq, Json.text_of_parse hparse, hparse⟩

/-- Adjacent backslashes and quotation marks, and a control character between them. -/
example : escapeJson "\\\"\x01\n" = "\\\\\\\"\\n".toList := by decide

end NetFault
