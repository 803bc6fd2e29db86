import NetFault.ByteQueue
import NetFault.Lib.BoundedFifo
import Mathlib.Order.Bounds.Defs

/-!
# The byte queue is a bounded FIFO

`commit_write` and `consume` are written out as methods on the object, assignment after assignment,
with the state in which an exception leaves it.  The invariant of `ByteQueue` holds after each of
the assignments, since there is no other value to assign.

A caller writes by filling the front of `writable_span` and committing what it filled.  One call
then does to the content what the abstract store does to its items (`Represents.exec`), and so does
every sequence of calls (`Represents.after`).
-/

namespace NetFault

/-- A cell of the storage belongs to a span. -/
def Span.Contains (span : Span) (cell : ℕ) : Prop :=
  span.offset ≤ cell ∧ cell < span.offset + span.length

namespace ByteQueue

/-! ## The methods -/

/-- A method of the object: it ends or throws, and leaves the object in some state. -/
abbrev Method := EStateM Fault ByteQueue

/-- `ByteQueue::commit_write`. -/
def Method.commitWrite (count : ℕ) : Method Unit := do
  let q ← get
  if h : count > q.available then
    throw .queueWrite
  else
    set { q with
      size := q.size + count
      size_le := by have := q.size_le; simp only [available, capacity] at h; omega }
    modify fun q => { q with highWaterMark := max q.highWaterMark q.size }

/-- `ByteQueue::consume`. -/
def Method.consume (count : ℕ) : Method Unit := do
  if count > (← get).size then
    throw .queueConsume
  modify fun q =>
    { q with
      head := (q.head + count) % q.capacity
      head_lt := Nat.mod_lt _ q.capacity_pos }
  modify fun q =>
    { q with
      size := q.size - count
      size_le := (Nat.sub_le _ _).trans q.size_le }
  if (← get).size = 0 then
    modify fun q => { q with head := 0, head_lt := q.capacity_pos }

/-- What a caller does to the object between two calls of its methods. -/
inductive Call
  /-- Fill the front of `writable_span` with the bytes, then `commit_write` their number. -/
  | write (bytes : List Byte)
  | consume (count : ℕ)
  deriving DecidableEq, Repr

/-- A write stays in the span it was given. -/
def Call.Fits (q : ByteQueue) : Call → Prop
  | .write bytes => bytes.length ≤ q.writableSpan.length
  | .consume _ => True

instance (q : ByteQueue) (call : Call) : Decidable (call.Fits q) :=
  match call with
  | .write bytes => inferInstanceAs (Decidable (bytes.length ≤ q.writableSpan.length))
  | .consume _ => inferInstanceAs (Decidable True)

def Call.exec : Call → Method Unit
  | .write bytes => do
      modify fun q => q.fill bytes
      Method.commitWrite bytes.length
  | .consume count => Method.consume count

/-- The state in which a method leaves the object, by its end or by an exception. -/
def leaves : EStateM.Result Fault ByteQueue Unit → ByteQueue
  | .ok _ q => q
  | .error _ q => q

/-- The object after a sequence of calls, whose exceptions are caught. -/
def after (calls : List Call) (q : ByteQueue) : ByteQueue :=
  calls.foldl (fun q call => leaves (call.exec.run q)) q

/-- Every write of the sequence stays in the span it was given. -/
def AllFit : List Call → ByteQueue → Prop
  | [], _ => True
  | call :: calls, q => call.Fits q ∧ AllFit calls (leaves (call.exec.run q))

instance : ∀ (calls : List Call) (q : ByteQueue), Decidable (AllFit calls q)
  | [], _ => inferInstanceAs (Decidable True)
  | call :: calls, q =>
      have := instDecidableAllFit calls (leaves (call.exec.run q))
      inferInstanceAs (Decidable (_ ∧ _))

/-- The operation of the abstract store. -/
def Call.op : Call → BoundedFifo.Op Byte
  | .write bytes => .push bytes
  | .consume count => .drop count

/-- The content of the ring, read cell by cell from `head_` on. -/
def cells (q : ByteQueue) : List Byte :=
  (List.range q.size).map fun i => q.storage.getD ((q.head + i) % q.capacity) 0

/-! ## One call -/

section Run

variable {q : ByteQueue}

/-- The outcome of a method that is an operation of the model. -/
def outcome (q : ByteQueue) : Except Fault ByteQueue → EStateM.Result Fault ByteQueue Unit
  | .ok q' => .ok () q'
  | .error fault => .error fault q

/-- **`commit_write` checks before it assigns**: it does what the operation does, or it throws and
leaves the object as it was. -/
lemma commitWrite_run (q : ByteQueue) (count : ℕ) :
    (Method.commitWrite count).run q = q.outcome (q.commitWrite count) := by
  unfold Method.commitWrite ByteQueue.commitWrite
  simp only [EStateM.run_bind, EStateM.run_get]
  split_ifs with hroom
  · simp [outcome]
  · simp [outcome]

/-- **So does `consume`.** -/
lemma consume_run (q : ByteQueue) (count : ℕ) :
    (Method.consume count).run q = q.outcome (q.consume count) := by
  unfold Method.consume ByteQueue.consume
  simp only [EStateM.run_bind, EStateM.run_get]
  split_ifs with hsize hempty
  · simp [outcome]
  · simp [outcome, hempty]
  · simp [outcome, hempty]

lemma write_run (q : ByteQueue) (bytes : List Byte) :
    (Call.write bytes).exec.run q =
      (q.fill bytes).outcome ((q.fill bytes).commitWrite bytes.length) := by
  simp only [Call.exec, EStateM.run_bind, EStateM.run_modify]
  exact commitWrite_run _ _

/-- Reading the cells one by one reads the content. -/
lemma cells_eq_content (q : ByteQueue) : q.cells = q.content :=
  (Circular.window_eq_map q.size_le q.head 0).symm

/-- The readable span is the front of the content. -/
lemma readableSpan_prefix (q : ByteQueue) : q.readableSpan <+: q.content := by
  have htake := q.take_readableSpan (n := q.readableSpan.length) le_rfl
  rw [List.take_length] at htake
  rw [htake]
  exact List.take_prefix _ _

lemma readableSpan_eq_nil_iff (q : ByteQueue) : q.readableSpan = [] ↔ q.content = [] := by
  rw [q.content_eq_nil_iff, ← List.length_eq_zero_iff]
  constructor
  · intro hspan
    by_contra hsize
    exact absurd hspan (q.length_readableSpan_pos (Nat.pos_of_ne_zero hsize)).ne'
  · intro hsize
    exact Nat.le_zero.mp (hsize ▸ q.length_readableSpan_le)

lemma length_writableSpan_eq_zero_iff (q : ByteQueue) :
    q.writableSpan.length = 0 ↔ q.size = q.capacity := by
  constructor
  · intro hspan
    by_contra hsize
    exact absurd hspan (q.length_writableSpan_pos (lt_of_le_of_ne q.size_le_capacity hsize)).ne'
  · intro hfull
    have hle := q.length_writableSpan_le
    rw [available, hfull, Nat.sub_self] at hle
    exact Nat.le_zero.mp hle

/-- **The writable span has no stored byte in it**: its cells are the positions after the last one,
and there are no more of them than free cells. -/
lemma not_contains_of_stored (q : ByteQueue) {i : ℕ} (hi : i < q.size) :
    ¬q.writableSpan.Contains ((q.head + i) % q.capacity) := by
  have hsize := q.size_le_capacity
  have hmod := Nat.mod_lt (q.head + q.size) q.capacity_pos
  unfold writableSpan
  split_ifs with hfull
  · rintro ⟨-, hlt⟩
    exact absurd hlt (Nat.not_lt_zero _)
  · rintro ⟨hle, hlt⟩
    simp only [available] at hle hlt
    set tail := (q.head + q.size) % q.capacity with htail
    obtain ⟨j, hj⟩ := Nat.exists_eq_add_of_le hle
    have hfree : (q.head + (q.size + j)) % q.capacity = tail + j := by
      rw [← Nat.add_assoc, ← Nat.mod_add_mod, ← htail]
      exact Nat.mod_eq_of_lt (by omega)
    have hsame := Circular.position_injective (by omega) (by omega) (hj.trans hfree.symm)
    omega

end Run

/-! ## Sequences of calls -/

/-- The queue holds what the abstract store holds. -/
structure Represents {capacity : ℕ} (q : ByteQueue) (fifo : BoundedFifo Byte capacity) : Prop where
  capacity : q.capacity = capacity
  content : q.content = fifo.items

section Represents

variable {capacity : ℕ} {q : ByteQueue} {fifo : BoundedFifo Byte capacity} {call : Call}
  {calls : List Call}

lemma Represents.size (h : q.Represents fifo) : fifo.items.length = q.size := by
  rw [← h.content, length_content]

/-- **One call** does what the operation of the store does. -/
lemma Represents.exec (h : q.Represents fifo) (hfits : call.Fits q) :
    (leaves (call.exec.run q)).Represents (fifo.step call.op) := by
  have hsize := h.size
  cases call with
  | write bytes =>
      obtain ⟨q', hok, hcontent, -, hcapacity, -⟩ := q.commitWrite_fill_spec hfits
      have hroom : fifo.items.length + bytes.length ≤ capacity := by
        have hspan := Nat.le_trans hfits q.length_writableSpan_le
        have hle := q.size_le_capacity
        rw [available, h.capacity] at hspan
        rw [h.capacity] at hle
        omega
      rw [write_run, hok]
      refine ⟨hcapacity.trans h.capacity, ?_⟩
      rw [Call.op, BoundedFifo.step_push hroom, ← h.content]
      exact hcontent
  | consume count =>
      by_cases hcount : count ≤ q.size
      · obtain ⟨q', hok, hcontent, -, hcapacity, -⟩ := q.consume_spec hcount
        rw [Call.exec, consume_run, hok]
        refine ⟨hcapacity.trans h.capacity, ?_⟩
        rw [Call.op, BoundedFifo.step_drop (hsize ▸ hcount), ← h.content]
        exact hcontent
      · have hrefused := not_le.mp hcount
        have herror : q.consume count = .error .queueConsume := dif_pos hrefused
        rw [Call.exec, consume_run, herror, Call.op,
          BoundedFifo.step_drop_refused (hsize ▸ hrefused)]
        exact h

/-- **Every sequence of calls** does what the store does. -/
lemma Represents.after (h : q.Represents fifo) (hfit : AllFit calls q) :
    (q.after calls).Represents (fifo.run (calls.map Call.op)) := by
  induction calls generalizing q fifo with
  | nil => exact h
  | cons call calls ih => exact ih (h.exec hfit.1) hfit.2

end Represents

section HighWaterMark

variable {q : ByteQueue} {call : Call} {calls : List Call}

lemma after_concat (q : ByteQueue) (calls : List Call) (call : Call) :
    q.after (calls ++ [call]) = leaves (call.exec.run (q.after calls)) := by
  rw [after, List.foldl_append]
  rfl

lemma allFit_concat : AllFit (calls ++ [call]) q ↔ AllFit calls q ∧ call.Fits (q.after calls) := by
  induction calls generalizing q with
  | nil => simp [AllFit, after]
  | cons first calls ih =>
      simp only [List.cons_append, AllFit, ih, and_assoc]
      rfl

/-- A call raises the mark to the new size, if that is larger. -/
lemma highWaterMark_exec (hfits : call.Fits q) (hpeak : q.size ≤ q.highWaterMark) :
    (leaves (call.exec.run q)).highWaterMark =
      max q.highWaterMark (leaves (call.exec.run q)).size := by
  cases call with
  | write bytes =>
      obtain ⟨q', hok, -, hsize, -, hmark⟩ := q.commitWrite_fill_spec hfits
      rw [write_run, hok]
      show q'.highWaterMark = max q.highWaterMark q'.size
      rw [hmark, hsize]
  | consume count =>
      rw [Call.exec, consume_run]
      by_cases hcount : count ≤ q.size
      · obtain ⟨q', hok, -, hsize, -, hmark⟩ := q.consume_spec hcount
        rw [hok]
        show q'.highWaterMark = max q.highWaterMark q'.size
        rw [hmark, hsize]
        exact (max_eq_left ((Nat.sub_le _ _).trans hpeak)).symm
      · have herror : q.consume count = .error .queueConsume := dif_pos (not_le.mp hcount)
        rw [herror]
        exact (max_eq_left hpeak).symm

/-- **The mark is the largest size so far.**  The induction adds a call at the end: a beginning of
the longer sequence is one of the shorter, or the whole. -/
lemma isGreatest_highWaterMark (hsize : q.size = 0) (hmark : q.highWaterMark = 0)
    (hfit : AllFit calls q) :
    IsGreatest { size | ∃ past, past <+: calls ∧ (q.after past).size = size }
      (q.after calls).highWaterMark := by
  induction calls using List.reverseRecOn with
  | nil =>
      refine ⟨⟨[], List.prefix_rfl, hsize.trans hmark.symm⟩, ?_⟩
      rintro size ⟨past, hpast, rfl⟩
      rw [List.prefix_nil.mp hpast]
      exact hsize.le.trans (Nat.zero_le _)
  | append_singleton calls call ih =>
      obtain ⟨hcalls, hfits⟩ := allFit_concat.mp hfit
      obtain ⟨⟨reached, hreached, hpeak⟩, hupper⟩ := ih hcalls
      have hcurrent : (q.after calls).size ≤ (q.after calls).highWaterMark :=
        hupper ⟨calls, List.prefix_rfl, rfl⟩
      have hmark' := highWaterMark_exec hfits hcurrent
      rw [← after_concat] at hmark'
      rw [hmark']
      constructor
      · rcases max_choice (q.after calls).highWaterMark (q.after (calls ++ [call])).size with
          heq | heq
        · rw [heq]
          exact ⟨reached, hreached.trans (List.prefix_append _ _), hpeak⟩
        · rw [heq]
          exact ⟨calls ++ [call], List.prefix_rfl, rfl⟩
      · rintro size ⟨past, hpast, rfl⟩
        rcases List.prefix_concat_iff.mp hpast with rfl | hshorter
        · exact le_max_right _ _
        · exact (hupper ⟨past, hshorter, rfl⟩).trans (le_max_left _ _)

end HighWaterMark

/-- The queue that `create` returns is the empty store. -/
lemma represents_create {capacity : ℕ} (hcapacity : 1 ≤ capacity) :
    ∃ q, create capacity = .ok q ∧ q.size = 0 ∧ q.highWaterMark = 0 ∧
      q.Represents (BoundedFifo.empty Byte capacity) := by
  obtain ⟨q, hok, hsize, hq, hmark⟩ := create_spec capacity hcapacity
  exact ⟨q, hok, hsize, hmark, hq, (q.content_eq_nil_iff).mpr hsize⟩

/-- **The byte queue refines a bounded FIFO.**  For every capacity and every sequence of writes and
consumptions: the indices are in range, the ring read from `head_` on is what the abstract store
holds, the readable span is its front and is empty only if the store is, the writable span has no
stored byte in it and is empty only if the queue is full, and the high-water mark is the largest
size that was reached.  A further write appends its bytes, a further consumption drops its number of
bytes, and a `commit_write` or `consume` that asks for too much throws and changes nothing. -/
theorem byteQueue_refines_fifo (capacity : ℕ) (hcapacity : 1 ≤ capacity) :
    ∃ q₀, create capacity = .ok q₀ ∧ ∀ calls, AllFit calls q₀ →
      ∃ q, q₀.after calls = q ∧ q.capacity = capacity ∧ q.head < capacity ∧ q.size ≤ capacity ∧
        q.cells = ((BoundedFifo.empty Byte capacity).run (calls.map Call.op)).items ∧
        q.readableSpan <+: q.cells ∧ (q.readableSpan = [] ↔ q.cells = []) ∧
        (∀ i < q.size, ¬q.writableSpan.Contains ((q.head + i) % capacity)) ∧
        (q.writableSpan.length = 0 ↔ q.size = capacity) ∧
        IsGreatest { size | ∃ past, past <+: calls ∧ (q₀.after past).size = size }
          q.highWaterMark ∧
        (∀ bytes, bytes.length ≤ q.writableSpan.length →
          ∃ q', (Call.write bytes).exec.run q = .ok () q' ∧ q'.cells = q.cells ++ bytes) ∧
        (∀ count, count ≤ q.size →
          ∃ q', (Method.consume count).run q = .ok () q' ∧ q'.cells = q.cells.drop count) ∧
        (∀ count, q.size < count →
          (Method.consume count).run q = .error .queueConsume q) ∧
        (∀ count, count ≤ q.available → ∃ q', (Method.commitWrite count).run q = .ok () q') ∧
        (∀ count, q.available < count →
          (Method.commitWrite count).run q = .error .queueWrite q) := by
  obtain ⟨q₀, hok, hsize₀, hmark₀, hempty⟩ := represents_create hcapacity
  refine ⟨q₀, hok, fun calls hfit => ⟨q₀.after calls, rfl, ?_⟩⟩
  have hq := hempty.after hfit
  have hpeak := isGreatest_highWaterMark hsize₀ hmark₀ hfit
  generalize q₀.after calls = q at hq hpeak ⊢
  have hcells := q.cells_eq_content
  refine ⟨hq.capacity, hq.capacity ▸ q.head_lt, hq.capacity ▸ q.size_le_capacity, ?_, ?_, ?_, ?_,
    ?_, hpeak, ?_, ?_, ?_, ?_, ?_⟩
  · rw [hcells, hq.content]
  · rw [hcells]
    exact q.readableSpan_prefix
  · rw [hcells]
    exact q.readableSpan_eq_nil_iff
  · intro i hi
    rw [← hq.capacity]
    exact q.not_contains_of_stored hi
  · rw [← hq.capacity]
    exact q.length_writableSpan_eq_zero_iff
  · intro bytes hbytes
    obtain ⟨q', hwrite, hcontent, -⟩ := q.commitWrite_fill_spec hbytes
    refine ⟨q', by rw [write_run, hwrite]; rfl, ?_⟩
    rw [cells_eq_content, hcontent, hcells]
  · intro count hcount
    obtain ⟨q', hconsume, hcontent, -⟩ := q.consume_spec hcount
    refine ⟨q', by rw [consume_run, hconsume]; rfl, ?_⟩
    rw [cells_eq_content, hcontent, hcells]
  · intro count hcount
    rw [consume_run, ByteQueue.consume, dif_pos hcount]
    rfl
  · intro count hcount
    rw [commitWrite_run, ByteQueue.commitWrite, dif_neg (not_lt.mpr hcount)]
    exact ⟨_, rfl⟩
  · intro count hcount
    rw [commitWrite_run, ByteQueue.commitWrite, dif_pos hcount]
    rfl

/-- Five cells: the third write goes around the end of the storage, and fills the queue. -/
theorem byteQueue_refines_fifo_wrapped :
    ∃ q₀ q, create 5 = .ok q₀ ∧
      q₀.after [.write [1, 2, 3], .consume 2, .write [4, 5], .write [6, 7]] = q ∧
      q.cells = [3, 4, 5, 6, 7] ∧ q.writableSpan.length = 0 := by
  obtain ⟨q₀, hok, hall⟩ := byteQueue_refines_fifo 5 (by decide)
  obtain rfl := Except.ok.inj hok
  obtain ⟨q, hq, -, -, -, hcells, -, -, -, hfull, -⟩ :=
    hall [.write [1, 2, 3], .consume 2, .write [4, 5], .write [6, 7]] (by decide)
  refine ⟨_, q, hok, hq, hcells.trans (by decide), hfull.mpr ?_⟩
  rw [← hq]
  decide

end ByteQueue

end NetFault
