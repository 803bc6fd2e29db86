import NetFault.Basic
import NetFault.Lib.Circular

/-!
# The bounded byte queue

`ByteQueue` is a fixed block of cells used as a ring: `size` bytes are stored from `head` on,
wrapping past the end.  The two index bounds are fields of the structure, so a queue whose
indices leave the block cannot be built.

The queue is used through spans: a receive fills the front of `writableSpan` and then commits
what it wrote, a send reads the front of `readableSpan` and then consumes what was accepted.
`content` is the abstract value, the stored bytes in ring order; each operation has one
specification in terms of it.
-/

namespace NetFault

/-- `ByteQueue`: a ring of `storage.length` cells holding `size` bytes from `head` on. -/
structure ByteQueue where
  storage : List Byte
  head : ℕ
  size : ℕ
  highWaterMark : ℕ
  head_lt : head < storage.length
  size_le : size ≤ storage.length
  deriving DecidableEq

/-- A contiguous run of cells of the storage. -/
structure Span where
  offset : ℕ
  length : ℕ
  deriving DecidableEq, Repr

namespace ByteQueue

/-- A fresh queue; a queue without capacity is refused. -/
def create (capacity : ℕ) : Except Fault ByteQueue :=
  if h : capacity = 0 then
    .error .queueCapacity
  else
    .ok { storage := List.replicate capacity 0, head := 0, size := 0, highWaterMark := 0
          head_lt := by rw [List.length_replicate]; omega
          size_le := Nat.zero_le _ }

variable (q : ByteQueue)

def capacity : ℕ := q.storage.length

def available : ℕ := q.capacity - q.size

def empty : Bool := q.size == 0

def full : Bool := q.size == q.capacity

/-- The free cells after the last stored byte, up to the end of the storage or to `head`. -/
def writableSpan : Span :=
  if q.full then
    ⟨0, 0⟩
  else
    let tail := (q.head + q.size) % q.capacity
    ⟨tail, min q.available (q.capacity - tail)⟩

/-- The stored bytes from `head` on, up to the end of the storage. -/
def readableSpan : List Byte :=
  if q.empty then [] else (q.storage.drop q.head).take (min q.size (q.capacity - q.head))

/-- What a receive does to the storage: `bytes` land at the front of the writable span. -/
def fill (bytes : List Byte) : ByteQueue :=
  { q with
    storage := Circular.overwrite q.storage q.writableSpan.offset bytes
    head_lt := by rw [Circular.length_overwrite]; exact q.head_lt
    size_le := by rw [Circular.length_overwrite]; exact q.size_le }

def commitWrite (count : ℕ) : Except Fault ByteQueue :=
  if h : q.available < count then
    .error .queueWrite
  else
    .ok { q with
          size := q.size + count
          highWaterMark := max q.highWaterMark (q.size + count)
          size_le := by have := q.size_le; simp only [available, capacity] at h; omega }

/-- Drop `count` bytes from the front; an emptied queue starts again at cell zero. -/
def consume (count : ℕ) : Except Fault ByteQueue :=
  if h : q.size < count then
    .error .queueConsume
  else
    .ok { q with
          head := if q.size - count = 0 then 0 else (q.head + count) % q.capacity
          size := q.size - count
          head_lt := by
            have hpos : 0 < q.storage.length := Nat.zero_lt_of_lt q.head_lt
            split
            · exact hpos
            · exact Nat.mod_lt _ hpos
          size_le := (Nat.sub_le _ _).trans q.size_le }

/-- The stored bytes in ring order. -/
def content : List Byte := Circular.window q.storage q.head q.size

/-! ## Sizes and spans -/

lemma capacity_pos : 0 < q.capacity := Nat.zero_lt_of_lt q.head_lt

lemma size_le_capacity : q.size ≤ q.capacity := q.size_le

@[simp] lemma length_content : q.content.length = q.size := Circular.length_window q.size_le

@[simp] lemma empty_iff : q.empty = true ↔ q.size = 0 := by simp [empty]

@[simp] lemma empty_eq_false_iff : q.empty = false ↔ 0 < q.size := by
  simp [empty, Nat.pos_iff_ne_zero]

lemma content_eq_nil_iff : q.content = [] ↔ q.size = 0 := by
  rw [← List.length_eq_zero_iff, length_content]

lemma length_readableSpan : q.readableSpan.length = min q.size (q.capacity - q.head) := by
  rw [readableSpan]
  split
  · next h => simp [(q.empty_iff).mp h]
  · simp only [List.length_take, List.length_drop, capacity]
    omega

/-- The readable span is empty only when the queue is: `head` is inside the storage. -/
lemma length_readableSpan_pos (h : 0 < q.size) : 0 < q.readableSpan.length := by
  have := q.head_lt
  rw [length_readableSpan, capacity]
  omega

lemma length_readableSpan_le : q.readableSpan.length ≤ q.size := by
  rw [length_readableSpan]
  exact min_le_left _ _

/-- Offering the front of the readable span offers the front of the content. -/
lemma take_readableSpan {n : ℕ} (hn : n ≤ q.readableSpan.length) :
    q.readableSpan.take n = q.content.take n := by
  have hlen := q.length_readableSpan
  rw [readableSpan]
  split
  · next h => simp [(q.content_eq_nil_iff).mpr ((q.empty_iff).mp h)]
  · rw [List.take_take, min_eq_left (by omega), content]
    refine Circular.take_drop_eq_take_window q.head_lt.le (by omega) ?_
    simp only [capacity] at hlen
    omega

lemma length_writableSpan_pos (h : q.size < q.capacity) : 0 < q.writableSpan.length := by
  have hmod := Nat.mod_lt (q.head + q.size) q.capacity_pos
  have hfull : q.full = false := by simp [full]; omega
  simp only [writableSpan, hfull, Bool.false_eq_true, if_false, available]
  omega

lemma length_writableSpan_le : q.writableSpan.length ≤ q.available := by
  rw [writableSpan]
  split
  · exact Nat.zero_le _
  · exact min_le_left _ _

/-! ## Specifications of the operations -/

@[simp] lemma fill_size (bytes : List Byte) : (q.fill bytes).size = q.size := rfl

@[simp] lemma fill_head (bytes : List Byte) : (q.fill bytes).head = q.head := rfl

@[simp] lemma fill_capacity (bytes : List Byte) : (q.fill bytes).capacity = q.capacity :=
  Circular.length_overwrite ..

/-- A successful `create` is an empty queue of the requested capacity. -/
lemma create_spec (capacity : ℕ) (h : 0 < capacity) :
    ∃ q, create capacity = .ok q ∧ q.size = 0 ∧ q.capacity = capacity ∧ q.highWaterMark = 0 := by
  refine ⟨_, dif_neg h.ne', rfl, ?_, rfl⟩
  simp [ByteQueue.capacity]

/-- Filling the writable span and committing the count appends the bytes to the content. -/
lemma commitWrite_fill_spec {bytes : List Byte} (h : bytes.length ≤ q.writableSpan.length) :
    ∃ q', (q.fill bytes).commitWrite bytes.length = .ok q' ∧
      q'.content = q.content ++ bytes ∧ q'.size = q.size + bytes.length ∧
      q'.capacity = q.capacity ∧
      q'.highWaterMark = max q.highWaterMark (q.size + bytes.length) := by
  have hav := h.trans q.length_writableSpan_le
  have hle : ¬ (q.fill bytes).available < bytes.length := by
    simpa [available] using hav
  refine ⟨_, dif_neg hle, ?_, rfl, q.fill_capacity bytes, rfl⟩
  by_cases hfull : q.full = true
  · have hnil : bytes = [] := by
      simpa [writableSpan, hfull] using h
    subst hnil
    simp [content, fill]
  · simp only [writableSpan, hfull, Bool.false_eq_true, if_false, available, capacity] at h
    simp only [content, fill, writableSpan, hfull, Bool.false_eq_true, if_false, capacity]
    have hmod := Nat.mod_lt (q.head + q.size) q.capacity_pos
    simp only [capacity] at hmod
    exact Circular.window_overwrite q.head_lt (by omega) (by omega) q.size_le

/-- Consuming drops bytes from the front of the content. -/
lemma consume_spec {count : ℕ} (h : count ≤ q.size) :
    ∃ q', q.consume count = .ok q' ∧ q'.content = q.content.drop count ∧
      q'.size = q.size - count ∧ q'.capacity = q.capacity ∧
      q'.highWaterMark = q.highWaterMark := by
  refine ⟨_, dif_neg (by omega), ?_, rfl, rfl, rfl⟩
  have hadv := Circular.window_advance q.head h q.size_le
  simp only [content, ← hadv]
  by_cases hz : q.size - count = 0
  · simp [hz]
  · simp only [hz, if_false, capacity]
    exact Circular.window_mod ..

end ByteQueue

end NetFault
